/-
# ScrapeFleet.Proofs.Watch.Scene — a watcher among the parties that act on it

Three kinds of party act in any order: the informers, each of which follows its stream and then makes the
calls that this led to, one after the other; the sender, whose turn is three steps; and the consumer, who
receives an event and loads a configuration, for which it reads the caches of the four kinds of monitor
one after the other, with any amount of time in between. A run is a list of acts, and an act that cannot
happen in a state leaves it as it is, as in `ScrapeFleet.Proofs.Credential.Traffic`.

The acts are pieces of what the watcher does in one instant: put together again without a disturbance
they are its deliveries (`Scene.watcher_deliver`) and its loads (`Scene.result_begin` and what follows).
-/
import Mathlib.Logic.Function.Basic
import ScrapeFleet.Proofs.Credential.Yields
import ScrapeFleet.Proofs.Watch.Informers

namespace ScrapeFleet.Watch

open Cluster (ObjectKey)
open Credential (Answer Lookup)

/-! ## Parties and acts -/

/-- How far the consumer is. -/
inductive Consumer where
  /-- Waits for an event. If its last load failed, this is why, and it has not read the caches of these
  kinds. -/
  | waiting (failed : Option (WatcherError × List Kind))
  /-- Has made these jobs, and reads the caches of these kinds next. -/
  | loading (rest : List Kind) (jobs : List ScrapeJob)
  /-- Makes jobs of what it has read, which takes time where a credential has to be found. -/
  | making (rest : List Kind) (work : Lookup Gathered)

/-- The kinds whose caches the consumer has not read since it received an event. -/
def Consumer.unread : Consumer → List Kind
  | .waiting none => []
  | .waiting (some (_, rest)) | .loading rest _ | .making rest _ => rest

/-- A watcher among the parties that act on it. -/
structure Scene where
  watcher : Watcher
  /-- The calls that the informer of a kind has still to make, the next one first. -/
  calls : Kind → List Call := fun _ => []
  consumer : Consumer := .waiting none
  /-- How many calls the informer of a kind has made. -/
  made : Kind → Nat := fun _ => 0
  /-- How often the cache of a kind was read for a load. -/
  reads : Kind → Nat := fun _ => 0

/-- What may happen next. -/
inductive Act where
  /-- An item comes to an informer that has made all its calls. -/
  | arrive (d : Delivery)
  /-- An informer that has made all its calls reports everything again. -/
  | resync (k : Kind)
  /-- An informer makes its next call. -/
  | call (k : Kind)
  /-- Somebody marks a change. -/
  | notify
  /-- The store of credentials changes because something is resolved. -/
  | resolve (store : Credential.Store)
  | start
  | tick
  | send
  | rearm
  /-- The sender hears the signal to stop. -/
  | hear
  | close
  /-- The consumer goes for good. -/
  | leave
  | receive
  /-- The consumer reads the next cache, or has read all of them. -/
  | read
  /-- The consumer goes on making jobs, with this answer if it waits for one. -/
  | proceed (answer : Answer)
  /-- A load that no event has led to reads a cache. -/
  | readApart (k : Kind)

namespace Scene

/-- Replaces the outlet. -/
def onOutlet (s : Scene) (f : Outlet → Outlet) : Scene :=
  { s with watcher := { s.watcher with outlet := f s.watcher.outlet } }

/-- A cache is read for a load. -/
def countRead (s : Scene) (k : Kind) : Scene :=
  { s with reads := Function.update s.reads k (s.reads k + 1) }

/-- The state after an act. -/
def step (s : Scene) : Act → Scene
  | .arrive d =>
    if (s.calls d.kind).isEmpty then
      let (watcher, calls) := s.watcher.follow d
      { s with watcher := watcher, calls := Function.update s.calls d.kind calls }
    else s
  | .resync k =>
    if (s.calls k).isEmpty then
      { s with calls := Function.update s.calls k (s.watcher.informers.resync k) }
    else s
  | .call k =>
    match s.calls k with
    | [] => s
    | c :: cs =>
      { s with
        watcher := s.watcher.call c
        calls := Function.update s.calls k cs
        made := Function.update s.made k (s.made k + 1) }
  | .notify => s.onOutlet (·.notify)
  | .resolve store => { s with watcher := { s.watcher with store := store } }
  | .start =>
    if s.watcher.outlet.sender = .notStarted then s.onOutlet (·.start s.watcher.shutdown) else s
  | .tick => s.onOutlet (·.tick)
  | .send => s.onOutlet (·.send)
  | .rearm => s.onOutlet (·.rearm)
  | .hear => s.onOutlet (·.hear s.watcher.shutdown)
  | .close => { s with watcher := { s.watcher with shutdown := s.watcher.shutdown.give } }
  | .leave => s.onOutlet fun o => { o with channel := o.channel.drop }
  | .receive =>
    match s.consumer, s.watcher.outlet.receive with
    | .waiting _, (outlet, some _) =>
      { s.onOutlet fun _ => outlet with consumer := .loading Kind.monitors [] }
    | _, _ => s
  | .read =>
    match s.consumer with
    | .loading [] _ => { s with consumer := .waiting none }
    | .loading (k :: rest) jobs =>
      let is := s.watcher.informers
      let work := addKind s.watcher.settings (knownLabels is.namespaces.cache.objects) k
        (is.monitors k) jobs
      { s.countRead k with consumer := .making rest work }
    | _ => s
  | .proceed answer =>
    match s.consumer with
    | .making rest (.ask _ _ next) => { s with consumer := .making rest (next answer) }
    | .making rest (.done (.ok jobs, _)) => { s with consumer := .loading rest jobs }
    | .making rest (.done (.error e, _)) => { s with consumer := .waiting (some (e, rest)) }
    | _ => s
  | .readApart k => s.countRead k

/-- The state after a run. -/
def run (s : Scene) (acts : List Act) : Scene := acts.foldl step s

end Scene

/-! ## Acts of one party alone

An item that comes, with all the calls that it leads to, is a delivery. A load that nothing disturbs is
the load of the watcher. A turn of the sender is its three steps by definition.
-/

namespace Scene

variable {s : Scene} {k : Kind}

theorem run_calls {calls : List Call} (h : s.calls k = calls) :
    (s.run (List.replicate calls.length (.call k))).watcher = calls.foldl Watcher.call s.watcher := by
  induction calls generalizing s with
  | nil => rfl
  | cons c cs ih =>
    have hstep : s.step (.call k) =
        { s with
          watcher := s.watcher.call c
          calls := Function.update s.calls k cs
          made := Function.update s.made k (s.made k + 1) } := by
      simp only [step, h]
    have hrest : (s.step (.call k)).calls k = cs := by
      rw [hstep]
      exact Function.update_self ..
    rw [List.length_cons, List.replicate_succ, run, List.foldl_cons]
    refine (ih hrest).trans ?_
    rw [hstep]
    rfl

/-- An item comes to an informer that has made all its calls, and the informer makes all that follow. -/
theorem watcher_deliver {d : Delivery} (h : (s.calls d.kind).isEmpty = true) :
    ((s.step (.arrive d)).run
        (List.replicate (s.watcher.follow d).2.length (.call d.kind))).watcher =
      s.watcher.deliver d := by
  have hcalls : (s.step (.arrive d)).calls d.kind = (s.watcher.follow d).2 := by
    simp only [step, if_pos h, Function.update_self]
  rw [run_calls hcalls]
  simp only [step, if_pos h]
  rfl

/-- What the load of a consumer comes to if nothing else happens and a table has the credentials. -/
def result (s : Scene) (table : String → Monitor.SecretKey → Answer) :
    Option (Except WatcherError (List ScrapeJob)) :=
  let more (jobs : List ScrapeJob) (rest : List Kind) :=
    addKinds s.watcher.settings (knownLabels s.watcher.informers.namespaces.cache.objects)
      s.watcher.informers.monitors jobs rest
  match s.consumer with
  | .waiting _ => none
  | .loading rest jobs => some ((more jobs rest).answered table).1
  | .making rest work =>
    match (work.answered table).1 with
    | .error e => some (.error e)
    | .ok jobs => some ((more jobs rest).answered table).1

section Load

variable {table : String → Monitor.SecretKey → Answer} {rest : List Kind} {jobs : List ScrapeJob}

/-- A load that begins comes to what the watcher loads. -/
theorem result_begin (h : s.consumer = .loading Kind.monitors []) :
    (s.result table).map (·.map ScrapeConfig.ofJobs) = some (s.watcher.loading.answered table).1 := by
  simp only [result, h, Option.map_some]
  rw [Watcher.loading, load, Lookup.answered_bind]
  rfl

/-- Reading a cache does not change what a load comes to. -/
theorem result_read (h : s.consumer = .loading (k :: rest) jobs) :
    (s.step .read).result table = s.result table := by
  have hbefore : s.result table = some
      ((addKinds s.watcher.settings (knownLabels s.watcher.informers.namespaces.cache.objects)
        s.watcher.informers.monitors jobs (k :: rest)).answered table).1 := by
    simp only [result, h]
  rw [hbefore, addKinds, Lookup.answered_bind]
  simp only [step, h, result, countRead]
  rcases (addKind s.watcher.settings (knownLabels s.watcher.informers.namespaces.cache.objects) k
    (s.watcher.informers.monitors k) jobs).answered table with ⟨e | jobs', warnings⟩
  · rfl
  · simp only [Lookup.answered_bind]
    rfl

/-- An answer from the table does not change it. -/
theorem result_proceed {ns : String} {ref : Monitor.SecretKey} {next : Answer → Lookup Gathered}
    (h : s.consumer = .making rest (.ask ns ref next)) :
    (s.step (.proceed (table ns ref))).result table = s.result table := by
  simp only [step, h, result]
  rfl

/-- Nor does going on when the jobs of a kind are made. -/
theorem result_made {warnings : List Generate.Warning} (answer : Answer)
    (h : s.consumer = .making rest (.done (.ok jobs, warnings))) :
    (s.step (.proceed answer)).result table = s.result table := by
  simp only [step, h, result]
  rfl

/-- A load that has read all caches comes to the jobs that it has made. -/
theorem result_end (h : s.consumer = .loading [] jobs) : s.result table = some (.ok jobs) := by
  simp only [result, h]
  rfl

end Load

end Scene

end ScrapeFleet.Watch
