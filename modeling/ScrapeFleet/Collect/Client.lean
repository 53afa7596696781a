/-
# ScrapeFleet.Collect.Client — keeping a collector up to date

A collector fetches the document of all jobs, fills in its shard and compares the digest with that of
what is in force. If they differ it hands the new configuration to the manager of the scraping and then
to that of the discovery. Where the second refuses, the first gets back what it had before, if it had
anything. What is in force is recorded only after both have accepted.

One pair of managers is a file into which the configuration is written, and which is replaced as a whole; the
discovery is kept as it was handed over last.
-/
import ScrapeFleet.Collect.Targets
import ScrapeFleet.Files
import ScrapeFleet.Job.Digest
import ScrapeFleet.Text.Substitute
import ScrapeFleet.Watch.Clock

namespace ScrapeFleet.Collect

open Watch (Alarm Clock)

/-- The two managers that configurations are handed to, and how handing one over changes the world. -/
structure Managers (σ : Type) where
  scrape : ScrapeConfig → σ → σ × Except ApplyFailure Unit
  discovery : DiscoveryMap → σ → σ × Except ApplyFailure Unit

/-- A collector: how it is set up, and what both managers accepted last. -/
structure Client where
  settings : CollectorSettings := {}
  appliedDigest : Option String := none
  applied : Option ScrapeConfig := none
deriving Repr, Inhabited

/-- What a successful sync did. -/
inductive Outcome where
  | unchanged
  | applied (jobs : Nat)
deriving DecidableEq, Repr, Inhabited

/-- What a sync came to. -/
structure SyncResult (σ : Type) where
  client : Client
  world : σ
  outcome : Except SyncFailure Outcome
  warnings : List SyncWarning := []

/-- What a sync warns of when nobody waits for its outcome. -/
def SyncResult.allWarnings {σ : Type} (r : SyncResult σ) : List SyncWarning :=
  match r.outcome with
  | .ok _ => r.warnings
  | .error e => r.warnings ++ [.failed e]

namespace Client

variable {σ : Type}

/-- The jobs of a fetched document with the shard filled in. -/
def jobs? (c : Client) (body : String) : Option (Dict String ScrapeJob) :=
  readJobDocument (Text.substitute ScrapeJob.shardPlaceholder c.settings.shard body)

/-- Hands a configuration to both managers. -/
def apply (c : Client) (m : Managers σ) (config : ScrapeConfig) (discovery : DiscoveryMap) (w : σ) :
    σ × Except ApplyFailure Unit × List SyncWarning :=
  match m.scrape config w with
  | (w, .error e) => (w, .error e, [])
  | (w, .ok ()) =>
    match m.discovery discovery w with
    | (w, .ok ()) => (w, .ok (), [])
    | (w, .error e) =>
      match c.applied with
      | none => (w, .error e, [])
      | some previous =>
        match m.scrape previous w with
        | (w, .ok ()) => (w, .error e, [])
        | (w, .error e') => (w, .error e, [.restoreFailed e'])

/-- Hands jobs over unless they are in force, and records what both managers accepted. -/
def renew (c : Client) (m : Managers σ) (jobs : Dict String ScrapeJob) (w : σ) : SyncResult σ :=
  let digest := jobMapDigest jobs
  if c.appliedDigest = some digest then { client := c, world := w, outcome := .ok .unchanged }
  else
    let config := c.settings.configuration jobs
    match c.apply m config (c.settings.discoveryMap jobs) w with
    | (w, .error e, warnings) =>
      { client := c, world := w, outcome := .error (.apply e), warnings := warnings }
    | (w, .ok (), warnings) =>
      { client := { c with appliedDigest := some digest, applied := some config }
        world := w
        outcome := .ok (.applied config.jobs.length)
        warnings := warnings }

/-- Brings the collector up to date with what was fetched. -/
def sync (c : Client) (m : Managers σ) (fetched : Except SyncFailure String) (w : σ) :
    SyncResult σ :=
  match fetched with
  | .error e => { client := c, world := w, outcome := .error e }
  | .ok body =>
    match c.jobs? body with
    | none => { client := c, world := w, outcome := .error .parse }
    | some jobs => c.renew m jobs w

/-! ## Running -/

/-- The shortest time between two syncs. -/
def minInterval : Duration := .ofSeconds 1

/-- When a running collector syncs after the first time. -/
def alarm (c : Client) : Alarm Unit :=
  let ms := (c.settings.interval.max minInterval).millis
  { delay := ms, period := ms, tag := () }

end Client

/-- A collector that syncs at once and then at regular times, until it is stopped. -/
structure Collector (σ : Type) where
  client : Client
  world : σ
  clock : Clock Unit := {}
  isRunning : Bool := true
  /-- How often it has fetched. -/
  fetches : Nat := 0
  /-- What it has warned of since somebody looked. -/
  warnings : List SyncWarning := []

namespace Collector

variable {σ : Type}

/-- The time has come: a running collector syncs. -/
def tick (m : Managers σ) (fetched : Except SyncFailure String) (c : Collector σ) : Collector σ :=
  if c.isRunning then
    let r := c.client.sync m fetched c.world
    { c with
      client := r.client
      world := r.world
      fetches := c.fetches + 1
      warnings := c.warnings ++ r.allWarnings }
  else c

/-- Starts a collector. -/
def start (m : Managers σ) (fetched : Except SyncFailure String) (c : Client) (w : σ) : Collector σ :=
  tick m fetched { client := c, world := w, clock := ({} : Clock Unit).set c.alarm }

/-- Lets time pass. -/
def sleep (m : Managers σ) (fetched : Except SyncFailure String) (ms : Nat) (c : Collector σ) :
    Collector σ :=
  let (clock, c) := c.clock.elapse (fun _ => tick m fetched) ms c
  { c with clock := clock }

end Collector

/-! ## A configuration in a file -/

/-- A file for the configuration, and the discovery that is in force. -/
structure Output where
  files : Files := {}
  folder : Files.Place := []
  path : String
  discovery : DiscoveryMap := .empty
deriving Repr, Inhabited

namespace Output

/-- Writes the configuration. -/
def write (config : ScrapeConfig) (o : Output) : Output × Except ApplyFailure Unit :=
  match o.files.replace o.folder o.path config.document with
  | some files => ({ o with files := files }, .ok ())
  | none => (o, .error .storage)

/-- The file and the discovery as managers. -/
def managers : Managers Output where
  scrape := write
  discovery d o := ({ o with discovery := d }, .ok ())

end Output

end ScrapeFleet.Collect
