/-
# ScrapeFleet.Proofs.Watch.Stopping — who stops when the signal is given

Only what is given after a task has begun to listen reaches it. So a task that listens when the signal is
given stops, whatever else happens; one that begins to listen afterwards goes on, and the task that was told
to watch, which looks at the signal and does not listen, then waits for it without end. An informer begins
late if the signal is given before it is started, the sender if the signal is given between the sync and its
start. `stopped_iff_none_late` says that there is no other way not to stop.

It speaks of states in which no task can do anything. Such a state is always reached, if nothing comes from
outside: each act of a task uses up something that only others renew (`less_of_own`), so the tasks come to
rest (`exists_atRest`). A watcher that serves when the signal is given stops in this way (`stops_of_serving`).
-/
import Mathlib.Algebra.Order.BigOperators.Group.List
import Mathlib.Algebra.Order.Ring.Nat
import Mathlib.Tactic.FinCases
import ScrapeFleet.Proofs.Watch.Tasks

namespace ScrapeFleet.Watch

namespace Lifetime

variable {s : Lifetime} {t : Task}

/-! ## Rest -/

/-- The task has begun to listen. -/
def Begun (s : Lifetime) (t : Task) : Prop := s.watcher.post t ≠ .unbegun

/-- The task has begun and is not over. -/
def Alive (s : Lifetime) (t : Task) : Prop := ∃ l, s.watcher.post t = .listening l

/-- The task that was told to watch has returned, and of those that it started none goes on. -/
structure Stopped (s : Lifetime) : Prop where
  returned : ∃ result, s.watcher.stage = .finished result
  ended : ∀ t, ¬ s.Alive t

/-- What tasks do of themselves. -/
def ownActs : List Act :=
  [.start, .judge, .startSender, .send, .rearm, .hearSender, .see, .finish] ++ Kind.all.map .catchUp
    ++ Kind.all.map .hear

/-- No task can do anything of itself. -/
def AtRest (s : Lifetime) : Prop := ∀ a ∈ ownActs, s.step a = s

theorem mem_all (k : Kind) : k ∈ Kind.all := by
  cases k <;> decide

namespace AtRest

theorem hear_mem (k : Kind) : .hear k ∈ ownActs :=
  List.mem_append_right _ (List.mem_map_of_mem (mem_all k))

/-- An informer that listens has not been given the signal since. -/
theorem informer_unheard (h : s.AtRest) {k : Kind} {l : Listener}
    (hl : s.watcher.post (.informer k) = .listening l) : s.watcher.shutdown.heard l = false := by
  refine Bool.eq_false_iff.2 fun hheard => ?_
  have hstep : s.watcher.post (.informer k) = .over := by
    rw [← h (.hear k) (hear_mem k)]
    simp only [step, on, Watcher.post, Informers.view_alter_self]
    cases k <;> exact Informer.post_hear hl hheard
  rw [hl] at hstep
  cases hstep

/-- Nor has a sender that listens. -/
theorem sender_unheard (h : s.AtRest) {l : Listener} (hl : s.watcher.post .sender = .listening l) :
    s.watcher.shutdown.heard l = false := by
  have hrest (a : Act) (ha : a ∈ ownActs) : (s.step a).watcher.outlet.sender = s.watcher.outlet.sender := by
    rw [h a ha]
  cases hsender : s.watcher.outlet.sender with
  | notStarted | stopped => simp [Watcher.post, hsender, Sender.post] at hl
  | holding l' =>
    have hsend := hrest .send (by simp [ownActs])
    simp only [step, onOutlet, on, Outlet.send, hsender] at hsend
    split at hsend <;> cases hsend
  | refused l' =>
    have hrearm := hrest .rearm (by simp [ownActs])
    simp only [step, onOutlet, on, Outlet.rearm, hsender] at hrearm
    cases hrearm
  | waiting l' =>
    obtain rfl : l' = l := by simpa [Watcher.post, hsender, Sender.post] using hl
    have hhear := hrest .hearSender (by simp [ownActs])
    simp only [step, on, Outlet.hear, hsender] at hhear
    refine Bool.eq_false_iff.2 fun hheard => ?_
    simp only [hheard, if_true] at hhear
    cases hhear

theorem unheard (h : s.AtRest) {l : Listener} (hl : s.watcher.post t = .listening l) :
    s.watcher.shutdown.heard l = false := by
  cases t with
  | informer k => exact h.informer_unheard hl
  | sender => exact h.sender_unheard hl

/-- Nothing is left to be started. -/
theorem errand_eq (h : s.AtRest) : s.errand = .nothing := by
  have hstart := congrArg Lifetime.errand (h .start (by simp [ownActs]))
  have hsender := congrArg Lifetime.errand (h .startSender (by simp [ownActs]))
  cases herrand : s.errand with
  | nothing => rfl
  | sender => simp [step, herrand] at hsender
  | informers kinds => cases kinds <;> simp [step, herrand] at hstart

/-- Where nobody goes on, nothing is waited for. -/
theorem finish_of_ended (hended : ∀ t, ¬ s.Alive t) (hstage : s.watcher.stage = .stopping) :
    s.watcher.finish.stage = .finished (.ok ()) := by
  have hinformers : s.watcher.informers.anyRunning = false := by
    refine List.any_eq_false.2 fun k _ hrunning => hended (.informer k) ?_
    cases k <;> exact Informer.post_of_isRunning hrunning
  have hsender : s.watcher.outlet.sender.isRunning = false := by
    have hpost := hended .sender
    unfold Alive Watcher.post at hpost
    cases hsender : s.watcher.outlet.sender with
    | notStarted | stopped => rfl
    | waiting l | holding l | refused l => exact absurd ⟨l, congrArg Sender.post hsender⟩ hpost
  simp [Watcher.finish, hstage, hinformers, hsender]

/-- Where the signal was given and nobody goes on, the task that was told to watch has returned. -/
theorem stopped (h : s.AtRest) (htold : 0 < s.progress) (hgiven : s.watcher.shutdown.isGiven = true)
    (hended : ∀ t, ¬ s.Alive t) : s.Stopped := by
  rw [progress, h.errand_eq] at htold
  have hsee : (s.step .see).watcher.stage = s.watcher.stage := by rw [h .see (by simp [ownActs])]
  have hfinish : (s.step .finish).watcher.stage = s.watcher.stage := by rw [h .finish (by simp [ownActs])]
  refine ⟨?_, hended⟩
  cases hstage : s.watcher.stage with
  | finished result => exact ⟨result, rfl⟩
  | ready => simp [hstage, Stage.rank] at htold
  | syncing timedOut | serving => simp [step, h.errand_eq, hgiven, looksOut, hstage, on] at hsee
  | stopping =>
    rw [step, on, finish_of_ended hended hstage, hstage] at hfinish
    cases hfinish

end AtRest

/-! ## How rest is reached -/

end Lifetime

/-- What a task that listens has still to do is to end. -/
def Post.left : Post → Nat
  | .listening _ => 1
  | .unbegun | .over => 0

/-- How many steps a sender can still take before the next tick. -/
def Sender.left : Sender → Nat
  | .notStarted | .stopped => 0
  | .waiting _ => 1
  | .refused _ => 2
  | .holding _ => 3

namespace Lifetime

variable {s : Lifetime} {t : Task}

/-- How much is left to be started. -/
def toStart (s : Lifetime) : Nat :=
  6 - s.progress + match s.errand with
    | .informers rest => rest.length
    | .nothing | .sender => 0

/-- How much came before a start and was not looked at. -/
def toCatchUp (s : Lifetime) : Nat := (Kind.all.map fun k => (s.early k).length).sum

/-- How much can still end. -/
def toEnd (s : Lifetime) : Nat :=
  (if s.watcher.stage.rank = Stage.stopping.rank then 1 else 0)
    + (Kind.all.map fun k => (s.watcher.post (.informer k)).left).sum + s.watcher.outlet.sender.left

/-- What is left to do. A start may bring items that came early, and looking at one may change what can still
end, so the counts are compared in this order. -/
def effort (s : Lifetime) : Nat × Nat × Nat := (s.toStart, s.toCatchUp, s.toEnd)

/-- Less is left to do. -/
def Less (s' s : Lifetime) : Prop := WellFoundedRelation.rel s'.effort s.effort

theorem progress_le (s : Lifetime) : s.progress ≤ 6 := by
  unfold progress
  split
  · omega
  · omega
  · cases s.watcher.stage <;> simp [Stage.rank]

namespace Less

variable {s' : Lifetime}

theorem of_start (h : s'.toStart < s.toStart) : s'.Less s := Prod.Lex.left _ _ h

theorem of_catchUp (hstart : s'.toStart = s.toStart) (h : s'.toCatchUp < s.toCatchUp) : s'.Less s := by
  unfold Less effort
  rw [hstart]
  exact Prod.Lex.right _ (Prod.Lex.left _ _ h)

theorem of_end (hstart : s'.toStart = s.toStart) (hcatchUp : s'.toCatchUp = s.toCatchUp)
    (h : s'.toEnd < s.toEnd) : s'.Less s := by
  unfold Less effort
  rw [hstart, hcatchUp]
  exact Prod.Lex.right _ (Prod.Lex.right _ h)

/-- An act that brings the watcher forward leaves less to do. -/
theorem of_progress (h : s.progress < s'.progress) (hrest : ∀ rest, s'.errand ≠ .informers rest) :
    s'.Less s := by
  refine .of_start ?_
  have hle := s'.progress_le
  unfold toStart
  split
  · rename_i rest herrand
    exact absurd herrand (hrest rest)
  all_goals omega

/-- So does one that brings the sender nearer to its end. -/
theorem of_sender {o : Outlet} (h : o.sender.left < s.watcher.outlet.sender.left) :
    (s.onOutlet fun _ => o).Less s :=
  .of_end rfl rfl (Nat.add_lt_add_left h _)

end Less

theorem less_start (s : Lifetime) : s.step .start = s ∨ (s.step .start).Less s := by
  cases herrand : s.errand with
  | nothing | sender => exact .inl (by simp only [step, herrand])
  | informers rest =>
    right
    cases rest with
    | nil => exact .of_start (by simp [step, herrand, toStart, progress, on, Stage.rank])
    | cons k ks => exact .of_start (by simp [step, herrand, toStart, progress])

theorem less_judge (s : Lifetime) : s.step .judge = s ∨ (s.step .judge).Less s := by
  cases herrand : s.errand with
  | informers rest | sender => exact .inl (by simp only [step, herrand])
  | nothing =>
    cases hverdict : s.watcher.verdict? with
    | none => exact .inl (by simp only [step, herrand, hverdict])
    | some ks =>
      right
      have hprogress : s.progress = 2 := by rw [progress, herrand, rank_of_verdict hverdict]
      refine .of_progress ?_ ?_
      · rw [hprogress]
        cases ks <;> simp [step, herrand, hverdict, on, progress, Stage.rank]
      · cases ks <;> simp [step, herrand, hverdict, on]

theorem less_startSender (s : Lifetime) : s.step .startSender = s ∨ (s.step .startSender).Less s := by
  simp only [step]
  split
  · rename_i herrand
    exact .inr (.of_progress (by simp [progress, herrand, on, Stage.rank]) (by simp))
  · exact .inl rfl

theorem less_see (s : Lifetime) : s.step .see = s ∨ (s.step .see).Less s := by
  simp only [step]
  split
  · rename_i hsee
    have hrank := rank_of_looksOut hsee.2.2
    exact .inr (.of_progress (by simpa [progress, hsee.1, on] using hrank) (by simp [on, hsee.1]))
  · exact .inl rfl

theorem less_finish (s : Lifetime) : s.step .finish = s ∨ (s.step .finish).Less s := by
  simp only [step, on, Watcher.finish]
  split
  · rename_i hstage
    split
    · exact .inl rfl
    · right
      cases herrand : s.errand with
      | nothing =>
        refine .of_progress ?_ (by simp)
        simp [progress, herrand, hstage, Stage.rank]
      | informers rest | sender =>
        refine .of_end (by simp [toStart, progress, herrand]) rfl ?_
        simp [toEnd, hstage, Stage.rank, Watcher.post]
  · exact .inl rfl

theorem less_catchUp (s : Lifetime) (k : Kind) : s.step (.catchUp k) = s ∨ (s.step (.catchUp k)).Less s := by
  simp only [step]
  split
  · exact .inl rfl
  · rename_i d ds hearly
    have hkeeps := s.watcher.keeps_deliver d
    refine .inr (.of_catchUp ?_ ?_)
    · simp only [toStart, progress, on, hkeeps.rank]
    · refine List.sum_lt_sum _ _ (fun k' _ => ?_) ⟨k, mem_all k, ?_⟩
      · by_cases h : k' = k
        · subst h
          simp [hearly]
        · exact Nat.le_of_eq (congrArg List.length (Function.update_of_ne h ds s.early))
      · simp [hearly]

theorem left_send (o : Outlet) : o.send = o ∨ o.send.sender.left < o.sender.left := by
  cases hsender : o.sender with
  | holding l =>
    right
    simp only [Outlet.send, hsender]
    split <;> simp [Sender.left]
  | notStarted | waiting l | refused l | stopped => exact .inl (by simp only [Outlet.send, hsender])

theorem left_rearm (o : Outlet) : o.rearm = o ∨ o.rearm.sender.left < o.sender.left := by
  cases hsender : o.sender with
  | refused l => exact .inr (by simp [Outlet.rearm, hsender, Sender.left])
  | notStarted | waiting l | holding l | stopped => exact .inl (by simp only [Outlet.rearm, hsender])

theorem left_hear (o : Outlet) (signal : Shutdown) :
    o.hear signal = o ∨ (o.hear signal).sender.left < o.sender.left := by
  cases hsender : o.sender with
  | waiting l =>
    simp only [Outlet.hear, hsender]
    split
    · exact .inr (by simp [Sender.left])
    · exact .inl rfl
  | notStarted | refused l | holding l | stopped => exact .inl (by simp only [Outlet.hear, hsender])

theorem less_outlet {f : Outlet → Outlet} (h : f s.watcher.outlet = s.watcher.outlet ∨
    (f s.watcher.outlet).sender.left < s.watcher.outlet.sender.left) :
    s.onOutlet f = s ∨ (s.onOutlet f).Less s := by
  obtain h | h := h
  · left
    simp only [onOutlet, on, h]
  · exact .inr (.of_sender h)

theorem left_hear_informer {α : Type} (i : Informer α) (signal : Shutdown) :
    i.hear signal = i ∨ (i.hear signal).following.post.left < i.following.post.left := by
  cases hfollowing : i.following with
  | running l =>
    simp only [Informer.hear, hfollowing]
    split
    · exact .inr (by simp [Following.post, Post.left])
    · exact .inl rfl
  | nothing | waiting items | stopped => exact .inl (by simp only [Informer.hear, hfollowing])

theorem less_hear (s : Lifetime) (k : Kind) : s.step (.hear k) = s ∨ (s.step (.hear k)).Less s := by
  have hcases : (s.watcher.informers.alter (·.hear s.watcher.shutdown) k) = s.watcher.informers ∨
      ((s.step (.hear k)).watcher.post (.informer k)).left < (s.watcher.post (.informer k)).left := by
    simp only [step, on, Watcher.post, Informers.view_alter_self]
    cases k
    all_goals
      refine (left_hear_informer _ s.watcher.shutdown).imp_left fun h => ?_
      simp only [Informers.alter, h]
  obtain h | h := hcases
  · left
    simp only [step, on, h]
  · -- no other informer hears anything
    have hsum : (Kind.all.map fun k' => ((s.step (.hear k)).watcher.post (.informer k')).left).sum <
        (Kind.all.map fun k' => (s.watcher.post (.informer k')).left).sum := by
      refine List.sum_lt_sum _ _ (fun k' _ => ?_) ⟨k, mem_all k, h⟩
      by_cases hkind : k' = k
      · exact Nat.le_of_lt (hkind ▸ h)
      · simp only [step, on, Watcher.post, Informers.view_alter_of_ne _ _ hkind, Nat.le_refl]
    exact .inr (.of_end rfl rfl (Nat.add_lt_add_right (Nat.add_lt_add_left hsum _) _))

/-- What a task does of itself leaves less to do. -/
theorem less_of_own {a : Act} (ha : a ∈ ownActs) : s.step a = s ∨ (s.step a).Less s := by
  simp only [ownActs, List.mem_append, List.mem_cons, List.mem_map, List.not_mem_nil, or_false] at ha
  obtain ((rfl | rfl | rfl | rfl | rfl | rfl | rfl | rfl) | ⟨k, _, rfl⟩) | ⟨k, _, rfl⟩ := ha
  · exact less_start s
  · exact less_judge s
  · exact less_startSender s
  · exact less_outlet (left_send _)
  · exact less_outlet (left_rearm _)
  · exact less_outlet (f := (·.hear s.watcher.shutdown)) (left_hear _ _)
  · exact less_see s
  · exact less_finish s
  · exact less_catchUp s k
  · exact less_hear s k

/-- If nothing comes from outside, the tasks come to rest. -/
theorem exists_atRest (s : Lifetime) :
    ∃ acts : List Act, (∀ a ∈ acts, a ∈ ownActs) ∧ (s.run acts).AtRest := by
  by_cases hrest : s.AtRest
  · exact ⟨[], by simp, hrest⟩
  · unfold AtRest at hrest
    push Not at hrest
    obtain ⟨a, ha, hmoves⟩ := hrest
    have hless := (less_of_own ha).resolve_left hmoves
    obtain ⟨acts, hacts, hrest⟩ := exists_atRest (s.step a)
    exact ⟨a :: acts, List.forall_mem_cons.2 ⟨ha, hacts⟩, hrest⟩
termination_by s.effort
decreasing_by exact hless

/-! ## Who stops -/

theorem progress_watch (s : Lifetime) : 0 < (s.step .watch).progress := by
  cases herrand : s.errand with
  | informers kinds | sender => simp [step, progress, herrand]
  | nothing => cases hstage : s.watcher.stage <;> simp [step, progress, herrand, isReady, hstage, Stage.rank]

theorem progress_run (h : s.Orderly) {acts : List Act} (hwatch : .watch ∈ acts) :
    0 < (s.run acts).progress := by
  obtain ⟨before, after, rfl⟩ := List.append_of_mem hwatch
  obtain ⟨hbefore, -⟩ := h.run before
  obtain ⟨-, hafter⟩ := (hbefore.advance (advances_step hbefore .watch)).run after
  rw [run_append]
  exact Nat.lt_of_lt_of_le (progress_watch _) hafter.progress

/-- Who goes on when no task can do anything had not begun when the signal was given, and its turn was not
past. -/
theorem late_of_alive (h : s.Orderly) {after : List Act} (hrest : (s.run (.close :: after)).AtRest)
    (halive : (s.run (.close :: after)).Alive t) : ¬ s.Begun t ∧ s.progress ≤ t.turn := by
  obtain ⟨l, hl⟩ := halive
  have hclose := advances_step h .close
  obtain ⟨-, hafter⟩ := (h.advance hclose).run after
  -- had it begun, it would listen to what was given before this signal, and would have heard it by now
  have hunbegun : s.watcher.post t = .unbegun := by
    by_contra hbegun
    have hlistens : s.watcher.post t = .listening l := by
      obtain hsame | hunbegun | hover := hafter.post t
      · cases t <;> exact hsame.symm.trans hl
      · cases t <;> exact absurd hunbegun hbegun
      · exact Post.noConfusion (hover.symm.trans hl)
    have hunheard : ¬ l.before < _ := of_decide_eq_false (hrest.unheard hl)
    have hlater : l.before < (s.step .close).watcher.shutdown.given :=
      Nat.lt_succ_of_le (h.before t l hlistens)
    exact hunheard (Nat.lt_of_lt_of_le hlater hafter.given)
  refine ⟨fun hbegun => hbegun hunbegun, Nat.le_of_not_lt fun hpast => ?_⟩
  have hstill := (hclose.precedes.trans hafter).unbegun t hpast hunbegun
  exact Post.noConfusion (hstill.symm.trans hl)

/-- Where nobody goes on after the signal, the watcher that was told to watch has stopped. -/
theorem stopped_of_close (h : s.Orderly) {after : List Act} (hrest : (s.run (.close :: after)).AtRest)
    (htold : 0 < (s.run (.close :: after)).progress) (hended : ∀ t, ¬ (s.run (.close :: after)).Alive t) :
    (s.run (.close :: after)).Stopped := by
  have hgiven : 0 < (s.run (.close :: after)).watcher.shutdown.given :=
    Nat.lt_of_lt_of_le (Nat.succ_pos _) ((h.advance (advances_step h .close)).run after).2.given
  exact hrest.stopped htold (decide_eq_true hgiven) hended

section Close

variable {w : Watcher} {before after : List Act}

/-- If the signal is given when the watcher serves, the tasks stop of themselves, whatever happens first. -/
theorem stops_of_serving (hnew : ∀ t, w.post t = .unbegun)
    (hserves : Task.sender.turn < ((start w).run before).progress) (after : List Act) :
    ∃ own : List Act, (∀ a ∈ own, a ∈ ownActs) ∧
      ((start w).run (before ++ .close :: after ++ own)).Stopped := by
  obtain ⟨own, hown, hrest⟩ := exists_atRest ((start w).run (before ++ .close :: after))
  refine ⟨own, hown, ?_⟩
  obtain ⟨hbefore, -⟩ := (orderly_new hnew).run before
  rw [← run_append, List.append_assoc, run_append, List.cons_append] at hrest
  rw [List.append_assoc, run_append, List.cons_append]
  have hprogress := (hbefore.run (.close :: (after ++ own))).2.progress
  refine stopped_of_close hbefore hrest (Nat.lt_of_lt_of_le (Nat.zero_lt_of_lt hserves) hprogress) ?_
  intro t halive
  -- the sender is the last to have its turn
  have hturn : t.turn ≤ Task.sender.turn := by cases t <;> simp [Task.turn]
  exact Nat.not_lt_of_le (Nat.le_trans (late_of_alive hbefore hrest halive).2 hturn) hserves

/-- Whoever goes on once no task can do anything began only after the signal was given, and its turn was not
past by then. The watcher has stopped exactly if there is no such task. -/
theorem stopped_iff_none_late (hnew : ∀ t, w.post t = .unbegun) (hwatch : .watch ∈ before ++ after)
    (hrest : ((start w).run (before ++ .close :: after)).AtRest) :
    (∀ t, ((start w).run (before ++ .close :: after)).Alive t →
        ¬ ((start w).run before).Begun t ∧ ((start w).run before).progress ≤ t.turn) ∧
      (((start w).run (before ++ .close :: after)).Stopped ↔
        ¬ ∃ t, ((start w).run (before ++ .close :: after)).Alive t ∧ ¬ ((start w).run before).Begun t) := by
  obtain ⟨hbefore, -⟩ := (orderly_new hnew).run before
  have hmem : Act.watch ∈ before ++ .close :: after := by
    rw [List.mem_append] at hwatch ⊢
    exact hwatch.imp_right (List.mem_cons_of_mem _)
  have htold := progress_run (orderly_new hnew) hmem
  rw [run_append] at hrest htold ⊢
  refine ⟨fun t halive => late_of_alive hbefore hrest halive, fun h => ?_, fun hnone => ?_⟩
  · rintro ⟨t, halive, -⟩
    exact h.ended t halive
  · refine stopped_of_close hbefore hrest htold fun t halive => ?_
    exact hnone ⟨t, halive, (late_of_alive hbefore hrest halive).1⟩

end Close

/-! ## Runs of a small watcher -/

/-- A watcher that has not been told to watch, in a cluster that serves neither probes nor scrape
configurations. -/
def newWatcher : Watcher where
  settings := {}
  informers := {
    serviceMonitors := { kind := .serviceMonitor }
    podMonitors := { kind := .podMonitor }
    probes := .standIn .probe
    scrapeConfigs := .standIn .scrapeConfig
    secrets := { kind := .secret }
    namespaces := { kind := .namespace } }
  outlet := { watcher := "prometheus-cr", channel := { capacity := 1 } }

theorem unbegun_newWatcher (t : Task) : newWatcher.post t = .unbegun := by
  cases t with
  | informer k => cases k <;> rfl
  | sender => rfl

/-- The watcher after the signal, where its informers have come as far as this. -/
def newWatcherAt (state : SyncState) (following : {α : Type} → Following α) (outlet : Outlet)
    (stage : Stage) : Watcher :=
  { newWatcher with
    informers := newWatcher.informers.map fun i =>
      if i.hasSynced then i else { i with state := state, following := following }
    outlet := outlet
    shutdown := ⟨1⟩
    stage := stage }

/-- The watcher is told to watch, and starts its informers. -/
def begun : List Act := .watch :: List.replicate 7 .start

/-- The list of every kind comes, and is empty. -/
def synced : List Act :=
  [.monitor .serviceMonitor (.event .listBegins), .monitor .serviceMonitor (.event .listEnds),
    .monitor .podMonitor (.event .listBegins), .monitor .podMonitor (.event .listEnds),
    .secret (.event .listBegins), .secret (.event .listEnds),
    .ns (.event .listBegins), .ns (.event .listEnds)].map .deliver

/-- Whoever hears the signal ends, and the task that was told to watch returns if it can. -/
def ended : List Act := Kind.all.map .hear ++ [.hearSender, .see, .finish]

/-- The watcher serves, and has sent an event. -/
def served : List Act := begun ++ synced ++ [.judge, .startSender, .tick, .send]

/-- The state after the signal is given to the watcher that serves. -/
def afterServing : Watcher :=
  newWatcherAt .synced .stopped
    { newWatcher.outlet with
      channel := { capacity := 1, events := [{ watcher := "prometheus-cr" }] }
      sender := .stopped }
    (.finished (.ok ()))

theorem run_served : (start newWatcher).run (served ++ .close :: ended) = start afterServing := by
  refine congrArg (Lifetime.mk _ _) (funext fun k => ?_)
  cases k <;> rfl

/-- A watcher that serves when the signal is given stops. -/
theorem stopped_of_served : ((start newWatcher).run (served ++ .close :: ended)).Stopped := by
  have hrest : ((start newWatcher).run (served ++ .close :: ended)).AtRest := by
    rw [run_served]
    intro a ha
    fin_cases ha <;> rfl
  have hnone : ¬ ∃ t, ((start newWatcher).run (served ++ .close :: ended)).Alive t ∧
      ¬ ((start newWatcher).run served).Begun t := by
    rw [run_served]
    rintro ⟨t, ⟨l, hl⟩, -⟩
    cases t with
    | informer k => cases k <;> cases hl
    | sender => cases hl
  exact (stopped_iff_none_late unbegun_newWatcher (List.mem_append_left _ List.mem_cons_self) hrest).2.2 hnone

/-- The state after the signal is given to the watcher before it is told to watch. -/
def afterEarly : Watcher := newWatcherAt .syncing (.running ⟨1⟩) newWatcher.outlet .stopping

theorem run_early : (start newWatcher).run (.close :: begun ++ ended) = start afterEarly := by
  refine congrArg (Lifetime.mk _ _) (funext fun k => ?_)
  cases k <;> rfl

/-- The state after the signal is given between the sync and the start of the sender. -/
def afterBetween : Watcher :=
  newWatcherAt .synced .stopped { newWatcher.outlet with notifier := ⟨true⟩, sender := .waiting ⟨1⟩ }
    .stopping

theorem run_between :
    (start newWatcher).run (begun ++ synced ++ [.judge, .close, .startSender] ++ ended) =
      start afterBetween := by
  refine congrArg (Lifetime.mk _ _) (funext fun k => ?_)
  cases k <;> rfl

/-- If the signal is given first, the informers that are started go on, and if it is given between the sync
and the start of the sender, the sender goes on. In both runs the task that was told to watch waits for them
and no task can do anything. -/
theorem not_stopped_of_late :
    (((start newWatcher).run (.close :: begun ++ ended)).AtRest ∧
        ((start newWatcher).run (.close :: begun ++ ended)).Alive (.informer .secret) ∧
        ¬ ((start newWatcher).run (.close :: begun ++ ended)).Stopped) ∧
      ((start newWatcher).run (begun ++ synced ++ [.judge, .close, .startSender] ++ ended)).AtRest ∧
        ((start newWatcher).run (begun ++ synced ++ [.judge, .close, .startSender] ++ ended)).Alive .sender ∧
        ¬ ((start newWatcher).run (begun ++ synced ++ [.judge, .close, .startSender] ++ ended)).Stopped := by
  rw [run_early, run_between]
  have hinformer : (start afterEarly).Alive (.informer .secret) := ⟨⟨1⟩, rfl⟩
  have hsender : (start afterBetween).Alive .sender := ⟨⟨1⟩, rfl⟩
  refine ⟨⟨?_, hinformer, fun h => h.ended _ hinformer⟩, ?_, hsender, fun h => h.ended _ hsender⟩
  · intro a ha
    fin_cases ha <;> rfl
  · intro a ha
    fin_cases ha <;> rfl

end Lifetime

end ScrapeFleet.Watch
