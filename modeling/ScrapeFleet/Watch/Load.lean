/-
# ScrapeFleet.Watch.Load — the configuration of what is cached, and what changes it

All selected monitors become jobs, kind by kind and in key order, until a job has a name that is taken.
Since the jobs are sorted by name in the end, what is cached alone decides the configuration.

A new version of a secret refreshes the values that are kept of it, and a deletion gives them up; a new secret
has no values that are kept. New labels of a namespace matter if they change what some namespace selector says
of it. A selector that is absent selects every namespace, so it never changes its mind.
-/
import ScrapeFleet.Credential.Store
import ScrapeFleet.Generate.Basic
import ScrapeFleet.Watch.Informer

namespace ScrapeFleet.Watch

open Cluster (ObjectKey Namespace Secret)
open Credential (Lookup)

/-! ## The configuration -/

/-- Why a watcher fails. -/
inductive WatcherError where
  | cacheSync (kinds : List Kind)
  | duplicateJob (name : String)
  | alreadyStarted
deriving DecidableEq, Repr, Inhabited

/-- The wording of a failure. -/
def WatcherError.message : WatcherError → String
  | .cacheSync kinds => "informer caches failed to sync: " ++ ", ".intercalate (kinds.map Kind.name)
  | .duplicateJob name => "duplicate scrape job " ++ Text.quoted name
  | .alreadyStarted => "watcher was already started"

/-- The labels of a namespace that is cached. -/
def knownLabels (namespaces : Dict ObjectKey Namespace) (name : String) : Option Labels :=
  (namespaces.get? ("", name)).map (·.metadata.labelDict)

/-- Adds jobs, unless one has a name that is taken. -/
def addJobs (jobs : List ScrapeJob) : List ScrapeJob → Except WatcherError (List ScrapeJob)
  | [] => .ok jobs
  | j :: js =>
    if jobs.any (·.name == j.name) then .error (.duplicateJob j.name) else addJobs (jobs ++ [j]) js

/-- The jobs so far, or why there is no configuration, with what was warned of. -/
abbrev Gathered := Except WatcherError (List ScrapeJob) × List Generate.Warning

/-- Adds the jobs of some monitors, one monitor after the other. -/
def addMonitors (settings : Settings) (jobs : List ScrapeJob) : List Monitor → Lookup Gathered
  | [] => return (.ok jobs, [])
  | m :: ms => do
    let (more, warnings) ← Generate.jobs settings m
    match addJobs jobs more with
    | .error e => return (.error e, warnings)
    | .ok jobs =>
      let (r, moreWarnings) ← addMonitors settings jobs ms
      return (r, warnings ++ moreWarnings)

/-- Adds the jobs of the selected monitors of a kind, in key order. -/
def addKind (settings : Settings) (known : String → Option Labels) (k : Kind)
    (monitors : List Monitor) (jobs : List ScrapeJob) : Lookup Gathered :=
  addMonitors settings jobs (Generate.selectAll settings known k monitors).values

/-- Adds the jobs of some kinds, one kind after the other. -/
def addKinds (settings : Settings) (known : String → Option Labels) (monitors : Kind → List Monitor)
    (jobs : List ScrapeJob) : List Kind → Lookup Gathered
  | [] => return (.ok jobs, [])
  | k :: ks => do
    let (r, warnings) ← addKind settings known k (monitors k) jobs
    match r with
    | .error e => return (.error e, warnings)
    | .ok jobs =>
      let (r, moreWarnings) ← addKinds settings known monitors jobs ks
      return (r, warnings ++ moreWarnings)

/-- The configuration of the cached monitors. -/
def load (settings : Settings) (known : String → Option Labels) (monitors : Kind → List Monitor) :
    Lookup (Except WatcherError ScrapeConfig × List Generate.Warning) := do
  let (r, warnings) ← addKinds settings known monitors [] Kind.monitors
  return (r.map .ofJobs, warnings)

/-! ## What changes of secrets mean for the kept values -/

/-- The store after a change of a secret, and whether a kept value changed. -/
def followSecret (s : Credential.Store) : Change Secret → Credential.Store × Bool
  | .added _ => (s, false)
  | .updated _ new => s.update new
  | .deleted old => s.remove old.metadata.key

/-! ## When the labels of a namespace matter -/

/-- The namespace selectors that are set, one for each kind of monitor at most. -/
def namespaceSelectors (settings : Settings) : List Selector :=
  Kind.monitors.filterMap fun k => (settings.selection k).namespaceSelector

/-- Some selector selects one of the label sets and not the other. -/
def selectionChanged (settings : Settings) (old new : Labels) : Bool :=
  (namespaceSelectors settings).any fun s => s.selects old != s.selects new

/-- A new version of a namespace matters. One with the version that is known brings nothing new. -/
def namespaceMatters (settings : Settings) (old new : Namespace) : Bool :=
  old.metadata.resourceVersion != new.metadata.resourceVersion
    && selectionChanged settings old.metadata.labelDict new.metadata.labelDict

end ScrapeFleet.Watch
