/-
# ScrapeFleet.Watch.Watcher — all kinds followed together

A watcher follows six kinds. A change of a monitor always counts; a change of a secret counts if a value
that some job depends on changed; a change of a namespace counts if it changes what is selected. What
counts is announced by at most one event in an interval. Announcing begins when every kind is synced; if
one is not synced in time the watcher fails.

Each function below is what happens in one instant. `LiveWatcher` adds the time.
-/
import ScrapeFleet.Credential.Resolution
import ScrapeFleet.Watch.Load
import ScrapeFleet.Watch.Sender

namespace ScrapeFleet.Watch

open Cluster (ObjectKey Identified Namespace Secret)
open Credential (Fetched)

/-! ## Six informers -/

/-- The informers of a watcher. -/
structure Informers where
  serviceMonitors : Informer Monitor
  podMonitors : Informer Monitor
  probes : Informer Monitor
  scrapeConfigs : Informer Monitor
  secrets : Informer Secret
  namespaces : Informer Namespace
deriving Repr, Inhabited

namespace Informers

/-- A look at the informer of a kind. -/
def view {ω : Type} (is : Informers) (f : {α : Type} → [Identified α] → Informer α → ω) : Kind → ω
  | .serviceMonitor => f is.serviceMonitors
  | .podMonitor => f is.podMonitors
  | .probe => f is.probes
  | .scrapeConfig => f is.scrapeConfigs
  | .secret => f is.secrets
  | .namespace => f is.namespaces

/-- The informers with all of them changed. -/
def map (is : Informers) (f : {α : Type} → [Identified α] → Informer α → Informer α) : Informers where
  serviceMonitors := f is.serviceMonitors
  podMonitors := f is.podMonitors
  probes := f is.probes
  scrapeConfigs := f is.scrapeConfigs
  secrets := f is.secrets
  namespaces := f is.namespaces

/-- Some kind is followed. -/
def anyRunning (is : Informers) : Bool := Kind.all.any (is.view (·.isRunning))

/-- The cached monitors of a kind in key order. -/
def monitors (is : Informers) : Kind → List Monitor
  | .serviceMonitor => is.serviceMonitors.cache.objects.values
  | .podMonitor => is.podMonitors.cache.objects.values
  | .probe => is.probes.cache.objects.values
  | .scrapeConfig => is.scrapeConfigs.cache.objects.values
  | .secret | .namespace => []

end Informers

/-- An item for the informer of some kind. -/
inductive Delivery where
  | monitor (kind : Kind) (item : StreamItem Monitor)
  | secret (item : StreamItem Secret)
  | ns (item : StreamItem Namespace)
deriving Repr, Inhabited

/-- The kind whose informer an item is for. -/
def Delivery.kind : Delivery → Kind
  | .monitor k _ => k
  | .secret _ => .secret
  | .ns _ => .namespace

/-- A change that an informer has to tell the watcher of. -/
inductive Call where
  | monitor (c : Change Monitor)
  | secret (c : Change Secret)
  | ns (c : Change Namespace)
deriving Repr, Inhabited

namespace Informers

/-- The informers after an item came from a stream, the calls that they now have to make, and what they
warn of. -/
def receive (is : Informers) : Delivery → Informers × List Call × List InformerWarning
  | .monitor .serviceMonitor item =>
    let (i, r) := is.serviceMonitors.receive item
    ({ is with serviceMonitors := i }, r.changes.map .monitor, r.warnings)
  | .monitor .podMonitor item =>
    let (i, r) := is.podMonitors.receive item
    ({ is with podMonitors := i }, r.changes.map .monitor, r.warnings)
  | .monitor .probe item =>
    let (i, r) := is.probes.receive item
    ({ is with probes := i }, r.changes.map .monitor, r.warnings)
  | .monitor .scrapeConfig item =>
    let (i, r) := is.scrapeConfigs.receive item
    ({ is with scrapeConfigs := i }, r.changes.map .monitor, r.warnings)
  | .monitor .secret _ | .monitor .namespace _ => (is, [], [])
  | .secret item =>
    let (i, r) := is.secrets.receive item
    ({ is with secrets := i }, r.changes.map .secret, r.warnings)
  | .ns item =>
    let (i, r) := is.namespaces.receive item
    ({ is with namespaces := i }, r.changes.map .ns, r.warnings)

/-- The calls by which the informer of a kind reports everything again. -/
def resync (is : Informers) : Kind → List Call
  | .serviceMonitor => is.serviceMonitors.resync.map .monitor
  | .podMonitor => is.podMonitors.resync.map .monitor
  | .probe => is.probes.resync.map .monitor
  | .scrapeConfig => is.scrapeConfigs.resync.map .monitor
  | .secret => is.secrets.resync.map .secret
  | .namespace => is.namespaces.resync.map .ns

end Informers

/-! ## The watcher -/

/-- How far a watcher is. -/
inductive Stage where
  | ready
  /-- Waits until every kind is synced; for some kinds it has stopped waiting. -/
  | syncing (timedOut : List Kind)
  | serving
  /-- Was told to stop, and waits until nothing runs. -/
  | stopping
  | finished (result : Except WatcherError Unit)
deriving Repr, Inhabited

/-- What a watcher sets alarms for. -/
inductive Occasion where
  | syncDeadline (kind : Kind)
  | resync (kind : Kind)
  | sender
deriving DecidableEq, Repr, Inhabited

/-- A watcher. -/
structure Watcher where
  settings : Settings
  informers : Informers
  outlet : Outlet
  store : Credential.Store := {}
  shutdown : Shutdown := {}
  stage : Stage := .ready
  /-- What was warned of, the oldest first. -/
  warnings : List InformerWarning := []
deriving Repr, Inhabited

namespace Watcher

/-- Warns. -/
def warn (w : Watcher) (ws : List InformerWarning) : Watcher :=
  { w with warnings := w.warnings ++ ws }

/-! ### Changes -/

/-- A changed monitor counts. -/
def monitorChanged (w : Watcher) (_ : Change Monitor) : Watcher := { w with outlet := w.outlet.notify }

/-- A changed secret counts if a kept value changed. -/
def secretChanged (w : Watcher) (c : Change Secret) : Watcher :=
  let (store, changed) := followSecret w.store c
  { w with store := store, outlet := w.outlet.notifyIf changed }

/-- A changed namespace counts if what is selected changes. -/
def namespaceChanged (w : Watcher) (c : Change Namespace) : Watcher :=
  match c with
  | .updated old new => { w with outlet := w.outlet.notifyIf (namespaceMatters w.settings old new) }
  | .added _ | .deleted _ => w

/-- An informer tells of a change. -/
def call (w : Watcher) : Call → Watcher
  | .monitor c => w.monitorChanged c
  | .secret c => w.secretChanged c
  | .ns c => w.namespaceChanged c

/-- An item comes from a stream: the caches follow, and these calls have to be made. -/
def follow (w : Watcher) (d : Delivery) : Watcher × List Call :=
  let (informers, calls, warnings) := w.informers.receive d
  ({ w with informers := informers }.warn warnings, calls)

/-- An item comes from a stream, and all calls are made. -/
def deliver (w : Watcher) (d : Delivery) : Watcher :=
  let (w, calls) := w.follow d
  calls.foldl call w

/-- An informer reports everything again. -/
def resync (w : Watcher) (k : Kind) : Watcher := (w.informers.resync k).foldl call w

/-! ### Start and stop -/

/-- Informers and sender listen for the signal to stop. -/
def hear (w : Watcher) : Watcher :=
  { w with informers := w.informers.map (·.hear w.shutdown), outlet := w.outlet.hear w.shutdown }

/-- A watcher that is to stop has stopped when nothing runs. -/
def finish (w : Watcher) : Watcher :=
  match w.stage with
  | .stopping =>
    if w.informers.anyRunning || w.outlet.sender.isRunning then w
    else { w with stage := .finished (.ok ()) }
  | _ => w

/-- Gives the signal to stop. -/
def close (w : Watcher) : Watcher :=
  let w := { w with shutdown := w.shutdown.give }.hear
  match w.stage with
  | .syncing _ | .serving => { w with stage := .stopping }.finish
  | _ => w.finish

/-- The kinds for which the waiting ended in vain, once it ended for every kind. -/
def verdict? (w : Watcher) : Option (List Kind) :=
  match w.stage with
  | .syncing timedOut =>
    if Kind.all.all fun k => w.informers.view (·.hasSynced) k || timedOut.contains k then
      some (Kind.all.filter timedOut.contains)
    else none
  | _ => none

/-- A watcher of which some kinds were not synced in time fails, and stops whatever runs. -/
def failIfTimedOut (w : Watcher) : Watcher :=
  match w.verdict? with
  | some (k :: ks) =>
    { { w with shutdown := w.shutdown.give }.hear with stage := .finished (.error (.cacheSync (k :: ks))) }
  | _ => w

/-- A watcher of which every kind is synced begins to announce changes, and announces that there is a
configuration at all. -/
def serveIfSynced (w : Watcher) : Watcher × List (Alarm Occasion) :=
  match w.verdict? with
  | some [] =>
    let interval := w.settings.effectiveEventInterval.millis
    ({ w with stage := .serving, outlet := (w.outlet.notify.start w.shutdown).turn },
      [{ delay := interval, period := interval, tag := .sender }])
  | _ => (w, [])

/-- Ends the waiting for a kind. -/
def timeOut (w : Watcher) (k : Kind) : Watcher :=
  match w.stage with
  | .syncing timedOut =>
    let timeout := w.settings.syncTimeout
    if w.informers.view (·.hasSynced) k then w
    else
      let is := w.informers
      let informers := match k with
        | .serviceMonitor => { is with serviceMonitors := (is.serviceMonitors.timeOut timeout).1 }
        | .podMonitor => { is with podMonitors := (is.podMonitors.timeOut timeout).1 }
        | .probe => { is with probes := (is.probes.timeOut timeout).1 }
        | .scrapeConfig => { is with scrapeConfigs := (is.scrapeConfigs.timeOut timeout).1 }
        | .secret => { is with secrets := (is.secrets.timeOut timeout).1 }
        | .namespace => { is with namespaces := (is.namespaces.timeOut timeout).1 }
      { w with informers := informers, stage := .syncing (timedOut ++ [k]) }.warn
        (is.view (fun i => (i.timeOut timeout).2) k)
  | _ => w

/-- Starts all informers, and gives what came before they were started. -/
def startInformers (w : Watcher) : Watcher × List Delivery :=
  let is := w.informers
  let started {α : Type} [Identified α] (i : Informer α) (deliver : StreamItem α → Delivery) :
      Informer α × List Delivery :=
    match i.start w.shutdown with
    | some (i, items) => (i, items.map deliver)
    | none => (i, [])
  let (serviceMonitors, d1) := started is.serviceMonitors (.monitor .serviceMonitor)
  let (podMonitors, d2) := started is.podMonitors (.monitor .podMonitor)
  let (probes, d3) := started is.probes (.monitor .probe)
  let (scrapeConfigs, d4) := started is.scrapeConfigs (.monitor .scrapeConfig)
  let (secrets, d5) := started is.secrets .secret
  let (namespaces, d6) := started is.namespaces .ns
  let informers :=
    { serviceMonitors, podMonitors, probes, scrapeConfigs, secrets, namespaces : Informers }
  ({ w with informers := informers }, d1 ++ d2 ++ d3 ++ d4 ++ d5 ++ d6)

/-- The alarms of a watcher that starts: the ends of the waiting, then the resyncs. -/
def startAlarms (w : Watcher) : List (Alarm Occasion) :=
  let timeout := w.settings.syncTimeout.millis
  (Kind.all.map fun k => { delay := timeout, tag := .syncDeadline k })
    ++ Kind.all.flatMap fun k => w.informers.view (·.resyncAlarms (.resync k)) k

/-- Starts a watcher. One that was told to stop before does not wait for its informers to sync, but they
run, since they began to listen after the signal was given. Without time to sync nothing that came
before is looked at. -/
def watch (w : Watcher) : Except WatcherError (Watcher × List (Alarm Occasion)) :=
  match w.stage with
  | .ready =>
    let (started, pending) := w.startInformers
    let alarms := started.startAlarms
    if w.shutdown.isGiven then
      let w := (pending.foldl deliver { started with stage := .stopping }).finish
      .ok (w, alarms)
    else
      let w := { started with stage := .syncing [] }
      let w := if w.settings.syncTimeout.millis = 0 then (Kind.all.foldl timeOut w).failIfTimedOut else w
      let (w, more) := (pending.foldl deliver w).serveIfSynced
      .ok (w, alarms ++ more)
  | _ => .error .alreadyStarted

/-- What happens at an alarm. -/
def ring (o : Occasion) (w : Watcher) : Watcher :=
  match o with
  | .syncDeadline k => (w.timeOut k).failIfTimedOut
  | .resync k => w.resync k
  | .sender => { w with outlet := w.outlet.turn }

/-! ### Loading -/

/-- The work of making a configuration of what is cached now. -/
def loading (w : Watcher) :
    Credential.Lookup (Except WatcherError ScrapeConfig × List Generate.Warning) :=
  Watch.load w.settings (knownLabels w.informers.namespaces.cache.objects) w.informers.monitors

/-- The configuration of what is cached now. -/
def load (w : Watcher) (source : ObjectKey → Fetched) :
    Watcher × Except WatcherError ScrapeConfig × List Generate.Warning :=
  let (store, r) := w.loading.run source w.store
  ({ w with store := store }, r)

end Watcher

/-! ## Time -/

/-- A watcher and its clock. -/
structure LiveWatcher where
  watcher : Watcher
  clock : Clock Occasion := {}
deriving Repr, Inhabited

namespace LiveWatcher

/-- Starts the watcher. -/
def watch (l : LiveWatcher) : Except WatcherError LiveWatcher :=
  l.watcher.watch.map fun (w, alarms) => { watcher := w, clock := l.clock.setAll alarms }

/-- Items come from the streams in one instant, and the watcher begins to serve if that makes it
synced. -/
def deliver (l : LiveWatcher) (ds : List Delivery) : LiveWatcher :=
  let (w, alarms) := (ds.foldl Watcher.deliver l.watcher).finish.serveIfSynced
  { watcher := w, clock := l.clock.setAll alarms }

/-- Lets time pass. -/
def sleep (l : LiveWatcher) (ms : Nat) : LiveWatcher :=
  let (clock, w) := l.clock.elapse Watcher.ring ms l.watcher
  { watcher := w, clock := clock }

end LiveWatcher

end ScrapeFleet.Watch
