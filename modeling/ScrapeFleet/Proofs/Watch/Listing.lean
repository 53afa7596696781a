/-
# ScrapeFleet.Proofs.Watch.Listing — which kinds are synced

An informer is synced from the first list that it has seen to its end. Nothing takes that away: the end of
the waiting changes only an informer that is not synced, and the start only one that has seen nothing
(`Standing.Moves`). So in each state of a run one can tell from what happened whether a kind is synced
(`Lifetime.hasSynced_run`).
-/
import Mathlib.Data.List.Induction
import ScrapeFleet.Proofs.Watch.History
import ScrapeFleet.Proofs.Watch.Stopping

namespace ScrapeFleet.Watch

open Cluster (Identified)

/-! ## One informer -/

/-- The item completes a list. -/
def StreamItem.endsList {α : Type} : StreamItem α → Bool
  | .event e => e.endsList
  | .failed | .ended => false

/-- The stream goes on after the item. -/
def StreamItem.goesOn {α : Type} : StreamItem α → Bool
  | .event _ | .failed => true
  | .ended => false

/-- How an informer stands to its first list. -/
structure Standing where
  /-- It has a stream and was not started. -/
  waits : Bool
  runs : Bool
  synced : Bool
deriving DecidableEq, Repr

/-- An informer that was not started has seen no list. -/
def Standing.Honest (p : Standing) : Prop := p.waits = true → p.synced = false

/-- From the one standing to the other an informer that is not synced becomes so if it sees the end of a list,
and only then. -/
def Standing.Moves (ends : Prop) (p q : Standing) : Prop :=
  p.Honest → q.Honest ∧ (q.synced = true ↔ p.synced = true ∨ ends)

theorem Standing.Moves.refl {ends : Prop} (h : ¬ ends) (p : Standing) : p.Moves ends p :=
  fun hp => ⟨hp, (or_iff_left h).symm⟩

namespace Informer

variable {α : Type}

def isWaiting (i : Informer α) : Bool :=
  match i.following with
  | .waiting _ => true
  | .nothing | .running _ | .stopped => false

/-- There is no stream. -/
def isStandIn (i : Informer α) : Bool :=
  match i.following with
  | .nothing => true
  | .waiting _ | .running _ | .stopped => false

/-- Nothing has happened to the informer, though items may have come. -/
def isUnused (i : Informer α) : Bool :=
  match i.following with
  | .nothing => i.state == .synced
  | .waiting _ => i.state == .notStarted
  | .running _ | .stopped => false

def standing (i : Informer α) : Standing := ⟨i.isWaiting, i.isRunning, i.hasSynced⟩

theorem standing_unused {i : Informer α} (h : i.isUnused = true) :
    i.standing.Honest ∧ i.hasSynced = i.isStandIn := by
  unfold isUnused at h
  unfold standing Standing.Honest isWaiting isStandIn hasSynced
  cases hfollowing : i.following with
  | nothing =>
    rw [hfollowing] at h
    exact ⟨fun hwaits => (nomatch hwaits), h⟩
  | waiting items =>
    rw [hfollowing] at h
    rw [eq_of_beq h]
    exact ⟨fun _ => rfl, rfl⟩
  | running l | stopped => simp [hfollowing] at h

variable {s : Shutdown}

/-- An informer that does not follow its stream sees nothing of it. -/
theorem standing_receive_of_idle [Identified α] {i : Informer α} (h : i.isRunning = false)
    (item : StreamItem α) : (i.receive item).1.standing = i.standing := by
  unfold isRunning at h
  cases hfollowing : i.following with
  | running l => simp [hfollowing] at h
  | waiting items => simp only [receive, standing, isWaiting, isRunning, hasSynced, hfollowing]
  | nothing | stopped => simp only [receive, hfollowing]

/-- One that follows it is synced when a list is complete, and follows it to its end. -/
theorem standing_receive_of_running [Identified α] {i : Informer α} (h : i.isRunning = true)
    (item : StreamItem α) :
    (i.receive item).1.standing =
      { waits := false, runs := item.goesOn, synced := i.hasSynced || item.endsList } := by
  unfold isRunning at h
  cases hfollowing : i.following with
  | running l =>
    rw [receive, hfollowing]
    cases item with
    | failed =>
      simp [follow, standing, isWaiting, isRunning, hfollowing, StreamItem.goesOn, StreamItem.endsList]
    | ended => simp [follow, standing, isWaiting, isRunning, hasSynced, StreamItem.goesOn, StreamItem.endsList]
    | event e =>
      cases e <;> simp [follow, standing, isWaiting, isRunning, hasSynced, hfollowing, StreamItem.goesOn,
        StreamItem.endsList, WatchEvent.endsList]
  | nothing | waiting items | stopped => simp [hfollowing] at h

theorem moves_receive [Identified α] (i : Informer α) (item : StreamItem α) :
    i.standing.Moves (item.endsList = true ∧ i.isRunning = true) (i.receive item).1.standing := by
  cases hruns : i.isRunning with
  | false =>
    rw [standing_receive_of_idle hruns]
    exact .refl (fun h => (nomatch h.2)) _
  | true =>
    rw [standing_receive_of_running hruns]
    intro _
    refine ⟨fun h => (nomatch h), ?_⟩
    simp [standing]

theorem moves_begin (i : Informer α) : i.standing.Moves False (i.begin s).standing := by
  unfold begin start
  cases hfollowing : i.following with
  | waiting items =>
    intro h
    have hunsynced : i.hasSynced = false := h (by simp [standing, isWaiting, hfollowing])
    refine ⟨fun h' => (nomatch h'), ?_⟩
    simp only [standing, hunsynced, or_false]
    exact ⟨fun h' => (nomatch h'), fun h' => (nomatch h')⟩
  | nothing | running l | stopped => exact .refl not_false _

theorem moves_hear (i : Informer α) : i.standing.Moves False (i.hear s).standing := by
  unfold hear
  cases hfollowing : i.following with
  | running l =>
    dsimp only
    split
    · exact fun _ => ⟨fun h => (nomatch h), (or_iff_left not_false).symm⟩
    · exact .refl not_false _
  | nothing | waiting items | stopped => exact .refl not_false _

/-- Who stops waiting for an informer that is synced changes nothing. -/
theorem standing_timeOut (i : Informer α) (timeout : Duration) :
    (i.timeOut timeout).1.standing = i.standing := by
  unfold timeOut
  split
  · rfl
  · rename_i h
    rw [Bool.not_eq_true] at h
    simp only [standing, h]
    rfl

/-- To an informer that does not follow its stream nothing happens that matters. -/
theorem standing_live_of_idle [Identified α] {i : Informer α} (h : i.isRunning = false)
    (hs : List (Happening α)) : (i.live hs).1.standing = i.standing := by
  induction hs generalizing i with
  | nil => rfl
  | cons x hs ih =>
    have hstanding : (i.meet x).1.standing = i.standing := by
      cases x with
      | item item => exact standing_receive_of_idle h item
      | resync => rfl
      | timeOut timeout => exact i.standing_timeOut timeout
    rw [live]
    exact (ih ((congrArg Standing.runs hstanding).trans h)).trans hstanding

/-- Whatever happens to an informer that was started, it is synced exactly if it has followed its stream to
the end of a list. -/
theorem hasSynced_live [Identified α] {i : Informer α} (hi : i.isRunning = true) (hs : List (Happening α)) :
    (i.live hs).1.hasSynced = true ↔ i.hasSynced = true ∨ ∃ e ∈ heard hs, e.endsList = true := by
  induction hs generalizing i with
  | nil => simp [live, heard]
  | cons x hs ih =>
    rw [live]
    cases x with
    | resync => exact ih hi
    | timeOut timeout =>
      have hstanding := i.standing_timeOut timeout
      have hsynced : (i.timeOut timeout).1.hasSynced = i.hasSynced := congrArg Standing.synced hstanding
      rw [meet, ih ((congrArg Standing.runs hstanding).trans hi), hsynced]
      rfl
    | item item =>
      have hstanding := standing_receive_of_running hi item
      have hruns : (i.receive item).1.isRunning = item.goesOn := congrArg Standing.runs hstanding
      have hsynced : (i.receive item).1.hasSynced = (i.hasSynced || item.endsList) :=
        congrArg Standing.synced hstanding
      cases item with
      | failed =>
        rw [meet, ih hruns, hsynced]
        simp [StreamItem.endsList, heard]
      | event e =>
        rw [meet, ih hruns, hsynced]
        simp [StreamItem.endsList, heard, or_assoc]
      | ended =>
        -- what comes after the end of the stream is not followed
        have hidle := congrArg Standing.synced (standing_live_of_idle hruns hs)
        have hlast : ((i.receive .ended).1.live hs).1.hasSynced = i.hasSynced :=
          hidle.trans (hsynced.trans (Bool.or_false _))
        rw [meet, hlast]
        simp [heard]

end Informer

/-! ## One informer of several -/

/-- The kind of which the item completes a list. -/
def Delivery.completed? : Delivery → Option Kind
  | .monitor k item => if item.endsList ∧ k ∈ Kind.monitors then some k else none
  | .secret item => if item.endsList then some .secret else none
  | .ns item => if item.endsList then some .namespace else none

namespace Informers

theorem moves_receive (is : Informers) (d : Delivery) (k : Kind) :
    (is.view (·.standing) k).Moves (d.completed? = some k ∧ is.view (·.isRunning) k = true)
      ((is.receive d).1.view (·.standing) k) := by
  cases d with
  | monitor kind item =>
    cases kind <;> cases k <;> first
      | exact .refl (by simp [Delivery.completed?, Kind.monitors]) _
      | simpa [Delivery.completed?, Kind.monitors, view, receive] using Informer.moves_receive _ item
  | secret item =>
    cases k <;> first
      | exact .refl (by simp [Delivery.completed?]) _
      | simpa [Delivery.completed?, view, receive] using Informer.moves_receive _ item
  | ns item =>
    cases k <;> first
      | exact .refl (by simp [Delivery.completed?]) _
      | simpa [Delivery.completed?, view, receive] using Informer.moves_receive _ item

end Informers

namespace Watcher

theorem informers_calls (w : Watcher) (cs : List Call) : (cs.foldl call w).informers = w.informers := by
  induction cs generalizing w with
  | nil => rfl
  | cons c cs ih => exact (ih (w.call c)).trans (w.informers_call c)

theorem informers_deliver (w : Watcher) (d : Delivery) :
    (w.deliver d).informers = (w.informers.receive d).1 :=
  informers_calls _ _

theorem informers_finish (w : Watcher) : w.finish.informers = w.informers := by
  unfold finish
  split
  · split <;> rfl
  · rfl

theorem standing_timeOut (w : Watcher) (k k' : Kind) :
    (w.timeOut k).informers.view (·.standing) k' = w.informers.view (·.standing) k' := by
  unfold timeOut
  split
  · dsimp only
    split
    · rfl
    · cases k <;> cases k' <;> first | rfl | exact Informer.standing_timeOut ..
  · rfl

end Watcher

namespace Lifetime

/-! ## What a run does to an informer -/

variable {s : Lifetime} {k : Kind}

def hasSynced (s : Lifetime) (k : Kind) : Bool := s.watcher.informers.view (·.hasSynced) k

def standing (s : Lifetime) (k : Kind) : Standing := s.watcher.informers.view (·.standing) k

/-- The item that an act gives to its informer. -/
def item? (s : Lifetime) : Act → Option Delivery
  | .deliver d => if (s.early d.kind).isEmpty then some d else none
  | .catchUp k => (s.early k).head?
  | _ => none

/-- The informer of the kind follows its stream, and sees the end of a list. -/
def EndsList (s : Lifetime) (k : Kind) (a : Act) : Prop :=
  (s.item? a).bind Delivery.completed? = some k ∧ s.watcher.informers.view (·.isRunning) k = true

/-- Only informers change, and as this item or nothing makes them. -/
theorem moves_of_deliver {s' : Lifetime} {a : Act} {d : Delivery} (ha : s.item? a = some d)
    (h : s'.watcher = s.watcher.deliver d) : (s.standing k).Moves (s.EndsList k a) (s'.standing k) := by
  unfold standing EndsList
  rw [ha, h, Watcher.informers_deliver]
  exact s.watcher.informers.moves_receive d k

theorem moves_of_idle {s' : Lifetime} {a : Act} (ha : s.item? a = none)
    (h : (s.standing k).Moves False (s'.standing k)) :
    (s.standing k).Moves (s.EndsList k a) (s'.standing k) := by
  unfold EndsList
  rw [ha]
  simpa using h

theorem moves_of_same {s' : Lifetime} {a : Act} (ha : s.item? a = none)
    (h : s'.watcher.informers = s.watcher.informers) :
    (s.standing k).Moves (s.EndsList k a) (s'.standing k) := by
  refine moves_of_idle ha ?_
  rw [show s'.standing k = s.standing k from congrArg (·.view (·.standing) k) h]
  exact .refl not_false _

/-- Items come at once or after the start; every other act leaves the lists alone. -/
theorem moves_step (s : Lifetime) (a : Act) (k : Kind) :
    (s.standing k).Moves (s.EndsList k a) ((s.step a).standing k) := by
  cases a with
  | deliver d =>
    simp only [step]
    split
    · rename_i hearly
      exact moves_of_deliver (if_pos hearly) rfl
    · rename_i hearly
      exact moves_of_same (if_neg hearly) rfl
  | catchUp k' =>
    simp only [step]
    split
    · rename_i hearly
      exact moves_of_same (congrArg List.head? hearly) rfl
    · rename_i d ds hearly
      exact moves_of_deliver (congrArg List.head? hearly) rfl
  | expire k' =>
    refine moves_of_idle rfl ?_
    simp only [step]
    split
    · unfold standing
      show Standing.Moves _ _ ((s.watcher.timeOut k').informers.view _ k)
      rw [Watcher.standing_timeOut]
      exact .refl not_false _
    · exact .refl not_false _
  | start =>
    refine moves_of_idle rfl ?_
    simp only [step]
    split
    · exact Informers.view_alter (.refl not_false) _ (·.standing) Informer.moves_begin
    · exact .refl not_false _
    · exact .refl not_false _
    · exact .refl not_false _
  | hear k' =>
    refine moves_of_idle rfl ?_
    exact Informers.view_alter (.refl not_false) _ (·.standing) Informer.moves_hear
  | resync k' => exact moves_of_same rfl (s.watcher.informers_calls _)
  | finish => exact moves_of_same rfl s.watcher.informers_finish
  | watch | startSender | see =>
    simp only [step]
    split
    · exact moves_of_same rfl rfl
    · exact moves_of_same rfl rfl
  | judge =>
    simp only [step]
    split
    · exact moves_of_same rfl rfl
    · exact moves_of_same rfl rfl
    · exact moves_of_same rfl rfl
  | close | tick | receive | leave | notify | resolve _ | send | rearm | hearSender =>
    exact moves_of_same rfl rfl

/-! ## What happened in a run -/

section Happened

variable {p q : List Act → Act → Prop} {acts more : List Act} {a : Act}

/-- An act happened in the run, of which this holds, and of what was before it. -/
def Happened (p : List Act → Act → Prop) (acts : List Act) : Prop :=
  ∃ before a after, acts = before ++ a :: after ∧ p before a

theorem not_happened_nil (p : List Act → Act → Prop) : ¬ Happened p [] := by
  rintro ⟨before, a, after, hsplit, -⟩
  exact List.append_ne_nil_of_right_ne_nil before (List.cons_ne_nil a after) hsplit.symm

theorem Happened.append (h : Happened p acts) (more : List Act) : Happened p (acts ++ more) := by
  obtain ⟨before, a, after, rfl, ha⟩ := h
  exact ⟨before, a, after ++ more, List.append_assoc .., ha⟩

theorem happened_concat : Happened p (acts ++ [a]) ↔ Happened p acts ∨ p acts a := by
  constructor
  · rintro ⟨before, b, after, hsplit, hb⟩
    rcases List.eq_nil_or_concat after with rfl | ⟨rest, last, rfl⟩
    · obtain ⟨rfl, hlast⟩ := List.append_inj' hsplit rfl
      obtain rfl := List.singleton_inj.1 hlast
      exact .inr hb
    · rw [List.concat_eq_append, ← List.cons_append, ← List.append_assoc] at hsplit
      exact .inl ⟨before, b, rest, (List.append_inj' hsplit rfl).1, hb⟩
  · rintro (h | h)
    · exact h.append [a]
    · exact ⟨acts, a, [], rfl, h⟩

end Happened

/-- There is no stream of the kind, or its informer has seen the end of a list. -/
def HasListed (w : Watcher) (k : Kind) (acts : List Act) : Prop :=
  w.informers.view (·.isStandIn) k = true ∨
    Happened (fun before a => ((start w).run before).EndsList k a) acts

end Lifetime

/-- A watcher of which no informer was started, and which was not told to watch. -/
structure Watcher.Unused (w : Watcher) : Prop where
  informers : ∀ k, w.informers.view (·.isUnused) k = true
  stage : w.stage = .ready
  sender : w.outlet.sender = .notStarted

namespace Lifetime

variable {w : Watcher} {acts : List Act}

theorem run_concat (s : Lifetime) (acts : List Act) (a : Act) : s.run (acts ++ [a]) = (s.run acts).step a :=
  run_append s acts [a]

theorem standing_run (hnew : w.Unused) (acts : List Act) (k : Kind) :
    (((start w).run acts).standing k).Honest ∧
      ((((start w).run acts).standing k).synced = true ↔ HasListed w k acts) := by
  induction acts using List.reverseRecOn with
  | nil =>
    have hunused := hnew.informers k
    have hstanding : (w.informers.view (·.standing) k).Honest ∧
        (w.informers.view (·.standing) k).synced = w.informers.view (·.isStandIn) k := by
      cases k <;> exact Informer.standing_unused hunused
    refine ⟨hstanding.1, ?_⟩
    show (w.informers.view (·.standing) k).synced = true ↔ _
    rw [hstanding.2, HasListed, or_iff_left (not_happened_nil _)]
  | append_singleton acts a ih =>
    obtain ⟨hhonest, hsynced⟩ := moves_step ((start w).run acts) a k ih.1
    rw [run_concat]
    refine ⟨hhonest, ?_⟩
    rw [hsynced, ih.2, HasListed, HasListed, happened_concat, or_assoc]

/-- Whether a kind is synced can be told from what happened. -/
theorem hasSynced_run (hnew : w.Unused) (acts : List Act) (k : Kind) :
    ((start w).run acts).hasSynced k = true ↔ HasListed w k acts := by
  have hview : ((start w).run acts).hasSynced k = (((start w).run acts).standing k).synced := by
    cases k <;> rfl
  rw [hview]
  exact (standing_run hnew acts k).2

theorem HasListed.append {k : Kind} (h : HasListed w k acts) (more : List Act) :
    HasListed w k (acts ++ more) :=
  h.imp_right fun h => h.append more

end Lifetime

end ScrapeFleet.Watch
