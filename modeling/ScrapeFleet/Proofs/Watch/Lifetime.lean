/-
# ScrapeFleet.Proofs.Watch.Lifetime — a watcher from its start to its end, step by step

What the watcher does in one instant is many steps of several tasks, and the signal to stop may be given
between any two of them. The informers are started one after the other, and each begins to listen when it is
started; the sender begins to listen when it is started, which is after the caches were found to be synced.
The task that was told to watch does not listen: it looks whether the signal was given. A run is a list of
acts, and an act that cannot happen in a state leaves it as it is, as in `ScrapeFleet.Proofs.Watch.Scene`.

Put together again without a disturbance, the steps are the start of the watcher (`Lifetime.run_start`) and
its end (`Lifetime.run_close`).
-/
import Mathlib.Logic.Function.Basic
import ScrapeFleet.Watch.Watcher

namespace ScrapeFleet.Watch

open Cluster (Identified)

/-! ## One informer of several -/

namespace Informer

variable {α : Type} [Identified α]

/-- The informer after it was told to start. -/
def begin (i : Informer α) (s : Shutdown) : Informer α := ((i.start s).map (·.1)).getD i

/-- What has come of the stream before the start. -/
def early (i : Informer α) : List (StreamItem α) :=
  match i.following with
  | .waiting items => items
  | .nothing | .running _ | .stopped => []

end Informer

namespace Informers

/-- The informers with one of them changed. -/
def alter (is : Informers) (f : {α : Type} → [Identified α] → Informer α → Informer α) : Kind → Informers
  | .serviceMonitor => { is with serviceMonitors := f is.serviceMonitors }
  | .podMonitor => { is with podMonitors := f is.podMonitors }
  | .probe => { is with probes := f is.probes }
  | .scrapeConfig => { is with scrapeConfigs := f is.scrapeConfigs }
  | .secret => { is with secrets := f is.secrets }
  | .namespace => { is with namespaces := f is.namespaces }

/-- What has come for the informer of a kind before its start. -/
def early (is : Informers) : Kind → List Delivery
  | .serviceMonitor => is.serviceMonitors.early.map (.monitor .serviceMonitor)
  | .podMonitor => is.podMonitors.early.map (.monitor .podMonitor)
  | .probe => is.probes.early.map (.monitor .probe)
  | .scrapeConfig => is.scrapeConfigs.early.map (.monitor .scrapeConfig)
  | .secret => is.secrets.early.map .secret
  | .namespace => is.namespaces.early.map .ns

end Informers

/-! ## Acts -/

/-- What the task that was told to watch does next. -/
inductive Errand where
  /-- It waits, or has not been told yet, or has returned. -/
  | nothing
  /-- It starts the informers of these kinds, and then waits until they are synced. -/
  | informers (rest : List Kind)
  /-- Every kind is synced, and it starts the sender. -/
  | sender
deriving DecidableEq, Repr

/-- A watcher between two steps. -/
structure Lifetime where
  watcher : Watcher
  errand : Errand := .nothing
  /-- What came for a kind before the start of its informer and was not looked at yet. -/
  early : Kind → List Delivery := fun _ => []

namespace Lifetime

/-- What may happen next. -/
inductive Act where
  /-- Somebody tells the watcher to watch. -/
  | watch
  /-- Somebody gives the signal to stop. -/
  | close
  | deliver (d : Delivery)
  | resync (k : Kind)
  /-- The time to sync is over for a kind. -/
  | expire (k : Kind)
  | tick
  | receive
  /-- The consumer goes for good. -/
  | leave
  /-- Somebody marks a change. -/
  | notify
  /-- The store of credentials changes because something is resolved. -/
  | resolve (store : Credential.Store)
  /-- The next informer is started, or the waiting begins. -/
  | start
  /-- An informer looks at an item that came before its start. -/
  | catchUp (k : Kind)
  /-- The waiting for the caches is over for every kind. -/
  | judge
  | startSender
  | send
  | rearm
  /-- The informer of a kind hears the signal. -/
  | hear (k : Kind)
  | hearSender
  /-- The task that was told to watch sees that the signal was given. -/
  | see
  /-- It returns, since all tasks that it has started are done. -/
  | finish

/-- Changes the watcher. -/
def on (s : Lifetime) (f : Watcher → Watcher) : Lifetime := { s with watcher := f s.watcher }

/-- Changes the outlet. -/
def onOutlet (s : Lifetime) (f : Outlet → Outlet) : Lifetime :=
  s.on fun w => { w with outlet := f w.outlet }

/-- The watcher is still to be told to watch. -/
def isReady (w : Watcher) : Bool :=
  match w.stage with
  | .ready => true
  | _ => false

/-- The task that was told to watch waits, and stops waiting when it sees the signal. -/
def looksOut (w : Watcher) : Bool :=
  match w.stage with
  | .syncing _ | .serving => true
  | _ => false

/-- The state after an act. -/
def step (s : Lifetime) : Act → Lifetime
  | .watch =>
    if isReady s.watcher ∧ s.errand = .nothing then { s with errand := .informers Kind.all } else s
  | .close => s.on fun w => { w with shutdown := w.shutdown.give }
  | .deliver d =>
    if (s.early d.kind).isEmpty then s.on (·.deliver d)
    else { s with early := Function.update s.early d.kind (s.early d.kind ++ [d]) }
  | .resync k => s.on (·.resync k)
  | .expire k => if s.errand = .nothing then s.on (·.timeOut k) else s
  | .tick => s.onOutlet (·.tick)
  | .receive => s.onOutlet (·.receive.1)
  | .leave => s.onOutlet fun o => { o with channel := o.channel.drop }
  | .notify => s.onOutlet (·.notify)
  | .resolve store => s.on fun w => { w with store := store }
  | .start =>
    match s.errand with
    | .informers (k :: ks) =>
      { s.on fun w => { w with informers := w.informers.alter (·.begin w.shutdown) k } with
        errand := .informers ks
        early := Function.update s.early k (s.early k ++ s.watcher.informers.early k) }
    | .informers [] => { s.on fun w => { w with stage := .syncing [] } with errand := .nothing }
    | .nothing | .sender => s
  | .catchUp k =>
    match s.early k with
    | [] => s
    | d :: ds => { s.on (·.deliver d) with early := Function.update s.early k ds }
  | .judge =>
    match s.errand, s.watcher.verdict? with
    | .nothing, some [] => { s.onOutlet (·.notify) with errand := .sender }
    | .nothing, some ks =>
      s.on fun w => { w with shutdown := w.shutdown.give, stage := .finished (.error (.cacheSync ks)) }
    | _, _ => s
  | .startSender =>
    if s.errand = .sender then
      { s.on fun w => { w with stage := .serving, outlet := w.outlet.start w.shutdown } with
        errand := .nothing }
    else s
  | .send => s.onOutlet (·.send)
  | .rearm => s.onOutlet (·.rearm)
  | .hear k => s.on fun w => { w with informers := w.informers.alter (·.hear w.shutdown) k }
  | .hearSender => s.on fun w => { w with outlet := w.outlet.hear w.shutdown }
  | .see =>
    if s.errand = .nothing ∧ s.watcher.shutdown.isGiven ∧ looksOut s.watcher then
      s.on fun w => { w with stage := .stopping }
    else s
  | .finish => s.on Watcher.finish

/-- A watcher to which nothing has happened. -/
def start (w : Watcher) : Lifetime := { watcher := w }

/-- The state after a run. -/
def run (s : Lifetime) (acts : List Act) : Lifetime := acts.foldl step s

theorem run_append (s : Lifetime) (acts more : List Act) : s.run (acts ++ more) = (s.run acts).run more :=
  List.foldl_append

end Lifetime

/-! ## Steps without a disturbance -/

theorem Informer.begin_eq {α : Type} [Identified α] (s : Shutdown) (i : Informer α)
    (deliver : StreamItem α → Delivery) :
    i.begin s =
      (match i.start s with
      | some (i, items) => (i, items.map deliver)
      | none => (i, [])).1 := by
  unfold Informer.begin Informer.start
  cases i.following <;> rfl

theorem Informer.map_early {α : Type} [Identified α] (s : Shutdown) (i : Informer α)
    (deliver : StreamItem α → Delivery) :
    i.early.map deliver =
      (match i.start s with
      | some (i, items) => (i, items.map deliver)
      | none => (i, [])).2 := by
  unfold Informer.early Informer.start
  cases i.following <;> rfl

theorem Watcher.startInformers_eq (w : Watcher) :
    w.startInformers =
      ({ w with informers := w.informers.map (·.begin w.shutdown) }, Kind.all.flatMap w.informers.early) := by
  have hearly : Kind.all.flatMap w.informers.early =
      w.informers.early .serviceMonitor ++ w.informers.early .podMonitor ++ w.informers.early .probe ++
        w.informers.early .scrapeConfig ++ w.informers.early .secret ++ w.informers.early .namespace := by
    simp [Kind.all, Kind.monitors]
  rw [hearly]
  simp only [Informers.map, Informers.early, Informer.map_early w.shutdown,
    Informer.begin_eq w.shutdown w.informers.serviceMonitors (.monitor .serviceMonitor),
    Informer.begin_eq w.shutdown w.informers.podMonitors (.monitor .podMonitor),
    Informer.begin_eq w.shutdown w.informers.probes (.monitor .probe),
    Informer.begin_eq w.shutdown w.informers.scrapeConfigs (.monitor .scrapeConfig),
    Informer.begin_eq w.shutdown w.informers.secrets .secret,
    Informer.begin_eq w.shutdown w.informers.namespaces .ns]
  rfl

namespace Lifetime

variable {w : Watcher}

/-- A watcher that is told to watch starts its informers, and then waits until they are synced. -/
theorem run_start (h : isReady w = true) :
    (start w).run (.watch :: List.replicate 7 .start) =
      { watcher := { w.startInformers.1 with stage := .syncing [] }, early := w.informers.early } := by
  have hwatch : (start w).step .watch = { watcher := w, errand := .informers Kind.all } := if_pos ⟨h, rfl⟩
  have hearly : (Lifetime.run { watcher := w, errand := .informers Kind.all }
      (List.replicate 7 .start)).early = w.informers.early := by
    funext k
    cases k <;> rfl
  rw [run, List.foldl_cons, hwatch, w.startInformers_eq]
  exact congrArg (Lifetime.mk _ _) hearly

/-- Where the signal was given, the task that was told to watch stops waiting and returns if it can. -/
theorem run_see_finish (h : w.shutdown.isGiven = true) :
    (start w).run [.see, .finish] =
      start (if looksOut w then { w with stage := .stopping } else w).finish := by
  by_cases hlooks : looksOut w = true <;> simp [start, run, step, on, h, hlooks]

/-- A watcher of which every task waits ends when the signal is given and all have heard it. -/
theorem run_close (w : Watcher) :
    (start w).run (.close :: Kind.all.map .hear ++ [.hearSender, .see, .finish]) = start w.close := by
  have hheard : (start w).run (.close :: Kind.all.map .hear ++ [.hearSender]) =
      start { w with shutdown := w.shutdown.give }.hear := rfl
  have hsplit : (.close :: Kind.all.map .hear ++ [.hearSender, .see, .finish] : List Act) =
      (.close :: Kind.all.map .hear ++ [.hearSender]) ++ [.see, .finish] := rfl
  rw [hsplit, run_append, hheard, run_see_finish (decide_eq_true (Nat.succ_pos _))]
  congr 1
  unfold Watcher.close looksOut
  cases w.stage <;> simp [Watcher.hear]

end Lifetime

end ScrapeFleet.Watch
