/-
# ScrapeFleet.Watch.Informer — one kind of object, followed

An informer follows the stream of one kind from the moment it is started until the stream ends or it
hears the signal to stop. What the stream said before the start is not lost. It is synced once a list
was complete. Where a kind is not served there is a stand-in, which has no objects and is always synced.
-/
import ScrapeFleet.Text.Quoted
import ScrapeFleet.Watch.Cache
import ScrapeFleet.Watch.Clock

namespace ScrapeFleet.Watch

open Cluster (Identified)

/-- How far the first list is. -/
inductive SyncState where
  | notStarted
  | syncing
  | synced
  /-- Somebody stopped waiting; a list may still come. -/
  | timedOut
deriving DecidableEq, Repr, Inhabited

/-- The name of a state. -/
def SyncState.name : SyncState → String
  | .notStarted => "NotStarted"
  | .syncing => "Syncing"
  | .synced => "Synced"
  | .timedOut => "TimedOut"

/-- What comes from a stream. -/
inductive StreamItem (α : Type) where
  | event (e : WatchEvent α)
  /-- The stream failed and goes on by itself. -/
  | failed
  | ended
deriving DecidableEq, Repr, Inhabited

/-- A whole list, as it comes from a stream. -/
def StreamItem.list {α : Type} (as : List α) : List (StreamItem α) :=
  .event .listBegins :: as.map (fun a => .event (.listed a)) ++ [.event .listEnds]

/-- What an informer warns of. -/
inductive InformerWarning where
  | syncTimedOut (kind : Kind) (timeout : Duration)
  | watchFailed (kind : Kind)
  | streamEnded (kind : Kind)
deriving DecidableEq, Repr

/-- A warning as it is logged. -/
def InformerWarning.log : InformerWarning → LogLine
  | .syncTimedOut kind timeout =>
    ⟨"informer cache sync timed out", [("kind", kind.name), ("timeout", timeout.measured)]⟩
  | .watchFailed kind => ⟨"watch error, retrying", [("kind", kind.name)]⟩
  | .streamEnded kind => ⟨"watch stream ended", [("kind", kind.name)]⟩

/-- How an informer stands to its stream. -/
inductive Following (α : Type) where
  /-- There is no stream. -/
  | nothing
  /-- Not started; so much has come. -/
  | waiting (items : List (StreamItem α))
  | running (listener : Listener)
  | stopped
deriving DecidableEq, Repr, Inhabited

/-- An informer. -/
structure Informer (α : Type) where
  kind : Kind
  scope : Scope := {}
  resyncPeriod : Duration := ⟨0⟩
  cache : Cache α := {}
  state : SyncState := .notStarted
  following : Following α := .waiting []
deriving DecidableEq, Repr, Inhabited

/-- What an informer does of itself, to be told to others. -/
structure Report (α : Type) where
  changes : List (Change α) := []
  warnings : List InformerWarning := []
deriving Repr, Inhabited

namespace Informer

variable {α : Type} [Identified α]

/-- The stand-in for a kind that is not served. -/
def standIn (kind : Kind) : Informer α := { kind := kind, state := .synced, following := .nothing }

/-- A list was complete. -/
def hasSynced (i : Informer α) : Bool := i.state == .synced

/-- The informer follows its stream. -/
def isRunning (i : Informer α) : Bool :=
  match i.following with
  | .running _ => true
  | _ => false

/-- Follows the stream by one item. -/
def follow (i : Informer α) : StreamItem α → Informer α × Report α
  | .event e =>
    let (cache, changes) := i.cache.handle i.scope e
    let state := match e with
      | .listEnds => .synced
      | _ => i.state
    ({ i with cache := cache, state := state }, { changes := changes })
  | .failed => (i, { warnings := [.watchFailed i.kind] })
  | .ended => ({ i with following := .stopped }, { warnings := [.streamEnded i.kind] })

/-- An item comes from the stream. It waits for the start, and is lost where nobody follows. -/
def receive (i : Informer α) (item : StreamItem α) : Informer α × Report α :=
  match i.following with
  | .running _ => i.follow item
  | .waiting items => ({ i with following := .waiting (items ++ [item]) }, {})
  | .nothing | .stopped => (i, {})

/-- Items come one after the other. -/
def receiveAll (i : Informer α) (items : List (StreamItem α)) : Informer α × Report α :=
  items.foldl (fun (i, r) item =>
    let (i, r') := i.receive item
    (i, { changes := r.changes ++ r'.changes, warnings := r.warnings ++ r'.warnings })) (i, {})

/-- Starts to follow the stream, if there is one and it was not started, and gives what has come of it
so far. -/
def start (i : Informer α) (s : Shutdown) : Option (Informer α × List (StreamItem α)) :=
  match i.following with
  | .waiting items => some ({ i with state := .syncing, following := .running s.listen }, items)
  | .nothing | .running _ | .stopped => none

/-- Listens for the signal to stop. -/
def hear (i : Informer α) (s : Shutdown) : Informer α :=
  match i.following with
  | .running l => if s.heard l then { i with following := .stopped } else i
  | .nothing | .waiting _ | .stopped => i

/-- The shortest time between two resyncs. -/
def minResyncPeriod : Duration := .ofSeconds 1

/-- When the informer resyncs once it is started. -/
def resyncAlarms {τ : Type} (i : Informer α) (tag : τ) : List (Alarm τ) :=
  if i.resyncPeriod.nanos = 0 then []
  else
    let ms := (i.resyncPeriod.max minResyncPeriod).millis
    [{ delay := ms, period := ms, tag := tag }]

/-- Reports everything again, if the informer runs and is synced. -/
def resync (i : Informer α) : List (Change α) :=
  if i.isRunning && i.hasSynced then i.cache.repeated else []

/-- Ends the waiting for the first list. Nothing happens if it has come. -/
def timeOut (i : Informer α) (timeout : Duration) : Informer α × List InformerWarning :=
  if i.hasSynced then (i, []) else ({ i with state := .timedOut }, [.syncTimedOut i.kind timeout])

end Informer

/-! ## Time -/

/-- An informer, its clock, and what it has reported since somebody looked. -/
structure LiveInformer (α : Type) where
  informer : Informer α
  shutdown : Shutdown := {}
  clock : Clock Unit := {}
  report : Report α := {}
deriving Repr, Inhabited

namespace LiveInformer

variable {α : Type} [Identified α]

/-- Items come from the stream. -/
def deliver (l : LiveInformer α) (items : List (StreamItem α)) : LiveInformer α :=
  let (i, r) := l.informer.receiveAll items
  { l with
    informer := i
    report := {
      changes := l.report.changes ++ r.changes
      warnings := l.report.warnings ++ r.warnings } }

/-- Starts the informer, and says whether that did anything. -/
def start (l : LiveInformer α) : LiveInformer α × Bool :=
  match l.informer.start l.shutdown with
  | none => (l, false)
  | some (i, items) =>
    (({ l with informer := i, clock := l.clock.setAll (i.resyncAlarms ()) }).deliver items, true)

/-- Lets time pass. -/
def sleep (l : LiveInformer α) (ms : Nat) : LiveInformer α :=
  let resync (l : LiveInformer α) : LiveInformer α :=
    { l with report := { l.report with changes := l.report.changes ++ l.informer.resync } }
  let (clock, l) := l.clock.elapse (fun _ => resync) ms l
  { l with clock := clock }

/-- Waits for the first list, and says whether it came. -/
def wait (l : LiveInformer α) (ms : Nat) : LiveInformer α × Bool :=
  if l.informer.hasSynced then (l, true)
  else
    let l := l.sleep ms
    let (i, warnings) := l.informer.timeOut (.ofMillis ms)
    ({ l with
        informer := i
        report := { l.report with warnings := l.report.warnings ++ warnings } }, warnings.isEmpty)

/-- Gives the signal to stop. -/
def close (l : LiveInformer α) : LiveInformer α :=
  let shutdown := l.shutdown.give
  { l with shutdown := shutdown, informer := l.informer.hear shutdown }

end LiveInformer

end ScrapeFleet.Watch
