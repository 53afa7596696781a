/-
# ScrapeFleet.CommandLine.Start — from a command to what runs

Everything that can fail before the program runs is tried in a fixed order, and the first fault is
reported. What the program finds around it is asked for one thing at a time, so that the same steps can be
taken in a real system and in a described one.
-/
import ScrapeFleet.Cluster.Access
import ScrapeFleet.Collect.Client
import ScrapeFleet.Collect.Targets
import ScrapeFleet.CommandLine.Arguments
import ScrapeFleet.Serve.Published
import ScrapeFleet.Watch.Connection

namespace ScrapeFleet.CommandLine

open Cluster (Access Discovery)
open Collect (SyncFailure)
open Watch (Watcher)

/-- Why the program does not start. -/
inductive StartFailure where
  | config (path : String)
  | listenAddress (address : String)
  | client
  | connect
  | source (e : SyncFailure)
  | outputFolder (path : String)
deriving DecidableEq, Repr, Inhabited

namespace StartFailure

/-- What could not be done. -/
def context : StartFailure → String
  | .config path => "load allocator config " ++ path
  | .listenAddress address => "invalid listen_addr " ++ Text.quoted address
  | .client => "build kubernetes client"
  | .connect => "connect CR watcher"
  | .source _ => "configure allocator source"
  | .outputFolder path => "create output directory " ++ path

/-- The failure as it is reported; the cause is given where it is the program's own. -/
def lines (e : StartFailure) : List String :=
  ("Error: " ++ e.context) :: match e with
    | .source cause => ["Caused by:", cause.message]
    | _ => []

end StartFailure

/-- What the program finds around it. -/
structure Surroundings (m : Type → Type) where
  getVariable : String → m (Option String)
  textAt? : String → m (Option String)
  /-- Makes a folder and all that lead to it, and says whether it is there. -/
  makeFolders : String → m Bool
  /-- What the server of a cluster answers at each path, if it can be reached. -/
  reach? : Http.Uri → m (Option (String → Option Doc))

/-- What runs. -/
inductive Running where
  | allocator (settings : AllocatorSettings) (watcher : Watcher)
  | collector (arguments : CollectorArguments) (source : Http.Uri)

section Steps

variable {m : Type → Type} [Monad m] (s : Surroundings m)

/-- The settings of the allocator. -/
def loadSettings : Option String → ExceptT StartFailure m AllocatorSettings
  | none => return {}
  | some path => do
    match (← s.textAt? path).bind AllocatorSettings.ofDocument? with
    | some (a, _) => return a
    | none => throw (.config path)

/-- The description of access in some files, all of which have to be sound. -/
def readAccess : List String → m (Option Access)
  | [] => return some {}
  | path :: paths => do
    match (← s.textAt? path).bind Access.ofDocument? with
    | some a => return (← readAccess paths).map a.merge
    | none => return none

/-- The server of the cluster that the program is to watch. -/
def findServer : ExceptT StartFailure m Http.Uri := do
  let named := (((← s.getVariable "KUBECONFIG").getD "").splitOn ":").filter (· != "")
  let paths ← if named.isEmpty then
      pure (((← s.getVariable "HOME").map fun home => [home ++ "/.kube/config"]).getD [])
    else pure named
  let access ← ExceptT.lift (readAccess s paths)
  match access.bind Access.server? with
  | some server => return server
  | none => throw .client

/-- Starts the allocator. -/
def startAllocator (config : Option String) : ExceptT StartFailure m Running := do
  let settings ← loadSettings s config
  if !Serve.isListenAddress settings.listenAddress then throw (.listenAddress settings.listenAddress)
  let server ← findServer s
  match (← s.reach? server).bind Discovery.run with
  | some found => return .allocator settings (.connect settings found.installed 1)
  | none => throw .connect

/-- Starts a collector. -/
def startCollector (a : CollectorArguments) : ExceptT StartFailure m Running := do
  match Collect.sourceUri a.settings.allocatorUrl with
  | .error e => throw (.source e)
  | .ok source =>
    match Files.parent? a.output with
    | none | some "" => return .collector a source
    | some folder =>
      if ← s.makeFolders folder then return .collector a source
      throw (.outputFolder folder)

/-- Starts what a command asks for. -/
def start : Command → ExceptT StartFailure m Running
  | .allocator config => startAllocator s config
  | .collector a => startCollector s a

end Steps

end ScrapeFleet.CommandLine
