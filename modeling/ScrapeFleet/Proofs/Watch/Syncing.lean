/-
# ScrapeFleet.Proofs.Watch.Syncing — which kinds are given up, and what comes of it

The task that was told to watch gives up the kinds whose time was over before their list was complete. What it
knows of them is what happened (`Lifetime.Knows`), whatever else becomes of the informers in the meantime: a
list that comes late makes the informer synced and leaves the kind given up. If no kind is given up the task
makes a mark, and the mark is there when the sender starts, since nobody but a sender takes it
(`Lifetime.Marked`). From this follows what the task comes to (`Lifetime.verdict_names_given_up`).
-/
import Mathlib.Data.List.Induction
import ScrapeFleet.Proofs.Watch.Listing

namespace ScrapeFleet.Watch

/-! ## One act and the watcher -/

namespace Outlet

theorem notifier_send (o : Outlet) : o.send.notifier = o.notifier := by
  unfold send
  split
  · split <;> rfl
  · rfl

theorem notifier_hear (o : Outlet) (s : Shutdown) : (o.hear s).notifier = o.notifier := by
  unfold hear
  split
  · split <;> rfl
  · rfl

theorem pending_rearm (o : Outlet) (h : o.notifier.pending = true) : o.rearm.notifier.pending = true := by
  unfold rearm
  split
  · rfl
  · exact h

end Outlet

namespace Watcher

theorem stage_call (w : Watcher) (c : Call) : (w.call c).stage = w.stage := by
  cases c with
  | monitor c => rfl
  | secret c => rfl
  | ns c => cases c <;> rfl

theorem stage_calls (w : Watcher) (cs : List Call) : (cs.foldl call w).stage = w.stage := by
  induction cs generalizing w with
  | nil => rfl
  | cons c cs ih => exact (ih (w.call c)).trans (w.stage_call c)

/-- Calls clear no mark. -/
theorem pending_calls (w : Watcher) (cs : List Call) (h : w.outlet.notifier.pending = true) :
    (cs.foldl call w).outlet.notifier.pending = true := by
  induction cs generalizing w with
  | nil => exact h
  | cons c cs ih =>
    refine ih (w.call c) ?_
    obtain hsame | hmarked := w.outlet_call c
    · rwa [hsame]
    · rw [hmarked]
      rfl

theorem pending_deliver (w : Watcher) (d : Delivery) (h : w.outlet.notifier.pending = true) :
    (w.deliver d).outlet.notifier.pending = true :=
  pending_calls _ _ h

theorem outlet_finish (w : Watcher) : w.finish.outlet = w.outlet := by
  unfold finish
  split
  · split <;> rfl
  · rfl

theorem verdict?_eq_some_iff {w : Watcher} {ks : List Kind} :
    w.verdict? = some ks ↔ ∃ timedOut, w.stage = .syncing timedOut ∧
      (∀ k, w.informers.view (·.hasSynced) k = true ∨ k ∈ timedOut) ∧
        ks = Kind.all.filter timedOut.contains := by
  unfold verdict?
  cases w.stage with
  | syncing timedOut =>
    have hall : (Kind.all.all fun k => w.informers.view (·.hasSynced) k || timedOut.contains k) = true ↔
        ∀ k, w.informers.view (·.hasSynced) k = true ∨ k ∈ timedOut := by
      simp [Lifetime.mem_all]
    dsimp only
    rw [Option.ite_none_right_eq_some, hall]
    constructor
    · rintro ⟨hknown, hks⟩
      exact ⟨timedOut, rfl, hknown, (Option.some.inj hks).symm⟩
    · rintro ⟨timedOut', hstage, hknown, rfl⟩
      obtain rfl := Stage.syncing.inj hstage
      exact ⟨hknown, rfl⟩
  | ready | serving | stopping | finished r => simp

theorem timeOut_of_syncing {w : Watcher} {timedOut : List Kind} (h : w.stage = .syncing timedOut)
    (k : Kind) :
    (w.timeOut k).stage =
        .syncing (if w.informers.view (·.hasSynced) k then timedOut else timedOut ++ [k]) ∧
      (w.timeOut k).outlet = w.outlet := by
  unfold timeOut
  rw [h]
  dsimp only
  split
  · exact ⟨h, rfl⟩
  · exact ⟨rfl, rfl⟩

theorem timeOut_of_not_syncing {w : Watcher} (h : ∀ timedOut, w.stage ≠ .syncing timedOut) (k : Kind) :
    w.timeOut k = w := by
  unfold timeOut
  split
  · rename_i hstage
    exact absurd hstage (h _)
  · rfl

end Watcher

namespace Lifetime

variable {w : Watcher} {acts : List Act}

/-! ## What the task knows -/

/-- The task that was told to watch waits until every kind is synced. -/
def Waits (s : Lifetime) : Prop := s.errand = .nothing ∧ ∃ timedOut, s.watcher.stage = .syncing timedOut

/-- The time to sync was over for the kind while the task waited. -/
def TimeOver (w : Watcher) (k : Kind) (acts : List Act) : Prop :=
  Happened (fun before a => a = .expire k ∧ ((start w).run before).Waits) acts

/-- It was over when no list of the kind was complete. -/
def GivenUp (w : Watcher) (k : Kind) (acts : List Act) : Prop :=
  Happened (fun before a => a = .expire k ∧ ((start w).run before).Waits ∧ ¬ HasListed w k before) acts

/-- These are the kinds of which this holds, in the order in which kinds stand. -/
def Names (lost : Kind → Prop) (ks : List Kind) : Prop := ks.Sublist Kind.all ∧ ∀ k, k ∈ ks ↔ lost k

/-- What the task comes to if these kinds are lost: it fails, or it marks a change and starts the sender. -/
def conclude (s : Lifetime) : List Kind → Lifetime
  | [] => { s.onOutlet (·.notify) with errand := .sender }
  | k :: ks =>
    s.on fun w =>
      { w with shutdown := w.shutdown.give, stage := .finished (.error (.cacheSync (k :: ks))) }

theorem conclude_of_ne_nil (s : Lifetime) {ks : List Kind} (h : ks ≠ []) :
    (s.conclude ks).watcher.stage = .finished (.error (.cacheSync ks)) ∧
      (s.conclude ks).watcher.outlet = s.watcher.outlet := by
  cases ks with
  | nil => exact absurd rfl h
  | cons k ks => exact ⟨rfl, rfl⟩

/-- The task that was told to watch knows which kinds are lost, serves only if none is, and fails only because
of them. -/
structure Knows (lost : Kind → Prop) (s : Lifetime) : Prop where
  ready : s.watcher.stage = .ready → ∀ k, ¬ lost k
  starting : ∀ rest, s.errand = .informers rest → s.watcher.stage = .ready
  waiting : ∀ timedOut, s.watcher.stage = .syncing timedOut → ∀ k, k ∈ timedOut ↔ lost k
  serves : s.errand = .sender ∨ s.watcher.post .sender ≠ .unbegun → ∀ k, ¬ lost k
  failed : ∀ ks, s.watcher.stage = .finished (.error (.cacheSync ks)) → ks ≠ [] ∧ Names lost ks

namespace Knows

variable {lost lost' : Kind → Prop} {s s' : Lifetime}

theorem congr (h : s.Knows lost) (hlost : ∀ k, lost' k ↔ lost k) : s.Knows lost' := by
  obtain rfl : lost' = lost := funext fun k => propext (hlost k)
  exact h

/-- What leaves the task and its stage alone, and starts no sender. -/
theorem frame (h : s.Knows lost) (hstage : s'.watcher.stage = s.watcher.stage)
    (herrand : s'.errand = s.errand) (hpost : (s.watcher.post .sender).Ends (s'.watcher.post .sender)) :
    s'.Knows lost where
  ready h' := h.ready (hstage ▸ h')
  starting rest h' := hstage.trans (h.starting rest (herrand ▸ h'))
  waiting timedOut h' := h.waiting timedOut (hstage ▸ h')
  serves h' := by
    refine h.serves ?_
    rw [herrand] at h'
    refine h'.imp_right fun hbegun => ?_
    obtain hsame | ⟨hbegun', -⟩ := hpost
    · rwa [← hsame]
    · exact hbegun'
  failed ks h' := h.failed ks (hstage ▸ h')

/-- No kind is lost, and the task is past its start. -/
theorem of_none (h : ∀ k, ¬ lost k) (hstarting : ∀ rest, s.errand ≠ .informers rest)
    (hwaiting : ∀ timedOut, s.watcher.stage = .syncing timedOut → timedOut = [])
    (hfailed : ∀ ks, s.watcher.stage ≠ .finished (.error (.cacheSync ks))) : s.Knows lost where
  ready _ := h
  starting rest h' := absurd h' (hstarting rest)
  waiting timedOut h' k := by
    rw [hwaiting timedOut h']
    exact ⟨fun hk => (nomatch hk), fun hk => absurd hk (h k)⟩
  serves _ := h
  failed ks h' := absurd h' (hfailed ks)

/-- The task is done with waiting, and does not fail. -/
theorem of_past (h : s.Knows lost) (herrand : s'.errand = s.errand) (hnever : ∀ rest, s.errand ≠ .informers rest)
    (hpost : s'.watcher.post .sender = s.watcher.post .sender)
    (hstage : s'.watcher.stage = .stopping ∨ s'.watcher.stage = .finished (.ok ())) : s'.Knows lost where
  ready h' := by rw [h'] at hstage; simp at hstage
  starting rest h' := absurd (herrand ▸ h') (hnever rest)
  waiting timedOut h' := by rw [h'] at hstage; simp at hstage
  serves h' := h.serves (by rwa [herrand, hpost] at h')
  failed ks h' := by rw [h'] at hstage; simp at hstage

theorem watch (h : s.Knows lost) : (s.step .watch).Knows lost := by
  simp only [step]
  split
  · rename_i hready
    exact {
      ready := h.ready
      starting := fun _ _ => stage_of_isReady hready.1
      waiting := h.waiting
      serves := fun h' => h.serves (.inr (h'.resolve_left Errand.noConfusion))
      failed := h.failed }
  · exact h

theorem start (h : s.Knows lost) : (s.step .start).Knows lost := by
  cases herrand : s.errand with
  | nothing | sender =>
    simp only [step, herrand]
    exact h
  | informers kinds =>
    have hready := h.starting kinds herrand
    simp only [step, herrand]
    cases kinds with
    | nil =>
      refine of_none (h.ready hready) (fun _ => Errand.noConfusion) (fun timedOut h' => ?_) fun ks h' => ?_
      · exact (Stage.syncing.inj h').symm
      · cases h'
    | cons k ks =>
      exact {
        ready := h.ready
        starting := fun _ _ => hready
        waiting := h.waiting
        serves := fun h' => h.serves (.inr (h'.resolve_left Errand.noConfusion))
        failed := h.failed }

theorem startSender (h : s.Knows lost) : (s.step .startSender).Knows lost := by
  simp only [step]
  split
  · rename_i herrand
    refine of_none (h.serves (.inl herrand)) (fun _ => Errand.noConfusion) (fun timedOut h' => ?_)
      fun ks h' => ?_
    · cases h'
    · cases h'
  · exact h

theorem see (h : s.Knows lost) : (s.step .see).Knows lost := by
  simp only [step]
  split
  · rename_i hsee
    exact h.of_past rfl (fun rest h' => Errand.noConfusion (hsee.1.symm.trans h')) rfl (.inl rfl)
  · exact h

theorem finish (h : s.Knows lost) : (s.step .finish).Knows lost := by
  simp only [step, on, Watcher.finish]
  split
  · rename_i hstage
    split
    · exact h
    · refine h.of_past rfl (fun rest h' => ?_) rfl (.inr rfl)
      exact Stage.noConfusion ((h.starting rest h').symm.trans hstage)
  · exact h

/-- The verdict names the kinds that are lost. -/
theorem verdict (h : s.Knows lost) {ks : List Kind} (hverdict : s.watcher.verdict? = some ks) :
    Names lost ks := by
  obtain ⟨timedOut, hstage, -, rfl⟩ := Watcher.verdict?_eq_some_iff.1 hverdict
  refine ⟨List.filter_sublist, fun k => ?_⟩
  rw [List.mem_filter, List.contains_iff_mem, and_iff_right (mem_all k), h.waiting timedOut hstage]

theorem judge (h : s.Knows lost) : (s.step .judge).Knows lost := by
  cases herrand : s.errand with
  | informers kinds | sender =>
    simp only [Lifetime.step, herrand]
    exact h
  | nothing =>
    cases hverdict : s.watcher.verdict? with
    | none =>
      simp only [Lifetime.step, herrand, hverdict]
      exact h
    | some ks =>
      have hnames := h.verdict hverdict
      obtain ⟨timedOut, hstage, -⟩ := Watcher.verdict?_eq_some_iff.1 hverdict
      cases ks with
      | nil =>
        have hnone : ∀ k, ¬ lost k := fun k hk => List.not_mem_nil ((hnames.2 k).2 hk)
        simp only [Lifetime.step, herrand, hverdict]
        refine of_none hnone (fun _ => Errand.noConfusion) (fun timedOut' h' => ?_) fun ks h' => ?_
        · exact List.eq_nil_iff_forall_not_mem.2 fun k hk => hnone k ((h.waiting timedOut' h' k).1 hk)
        · exact Stage.noConfusion (hstage.symm.trans h')
      | cons k ks =>
        simp only [Lifetime.step, herrand, hverdict]
        exact {
          ready := fun h' => Stage.noConfusion h'
          starting := fun rest h' => Errand.noConfusion (herrand.symm.trans h')
          waiting := fun _ h' => Stage.noConfusion h'
          serves := h.serves
          failed := fun ks' h' => by
            obtain rfl : k :: ks = ks' := by
              simpa [on] using h'
            exact ⟨List.cons_ne_nil k ks, hnames⟩ }

/-- The time to sync means nothing to a task that does not wait. -/
theorem step_expire_of_not_waits (hwaits : ¬ s.Waits) (k : Kind) : s.step (.expire k) = s := by
  simp only [Lifetime.step]
  split
  · rename_i herrand
    have hnever : ∀ timedOut, s.watcher.stage ≠ .syncing timedOut :=
      fun timedOut hstage => hwaits ⟨herrand, timedOut, hstage⟩
    rw [on, Watcher.timeOut_of_not_syncing hnever]
  · rfl

/-- While the task waits, it notes the kind for which the time is over, unless that is synced. -/
theorem expire_of_waits (h : s.Knows lost) (horderly : s.Orderly) (hwaits : s.Waits) (k : Kind) :
    (s.step (.expire k)).Knows fun k' => lost k' ∨ k = k' ∧ s.Waits ∧ s.hasSynced k' = false := by
  obtain ⟨herrand, timedOut, hstage⟩ := id hwaits
  have hsender : s.watcher.post .sender = .unbegun :=
    horderly.sender.resolve_right (by simp [progress, herrand, hstage, Stage.rank, Task.turn])
  have hstep : s.step (.expire k) = s.on (·.timeOut k) := if_pos herrand
  obtain ⟨hstage', houtlet⟩ := Watcher.timeOut_of_syncing hstage k
  rw [hstep]
  refine {
    ready := fun h' => Stage.noConfusion (hstage'.symm.trans h')
    starting := fun rest h' => Errand.noConfusion (herrand.symm.trans h')
    waiting := fun timedOut' h' k' => ?_
    serves := fun h' => ?_
    failed := fun ks h' => Stage.noConfusion (hstage'.symm.trans h') }
  · obtain rfl := Stage.syncing.inj (hstage'.symm.trans h')
    rw [← h.waiting timedOut hstage k']
    unfold hasSynced
    cases hsynced : s.watcher.informers.view (·.hasSynced) k with
    | true =>
      refine (or_iff_left ?_).symm
      rintro ⟨rfl, -, hunsynced⟩
      exact Bool.noConfusion (hsynced.symm.trans hunsynced)
    | false =>
      show k' ∈ timedOut ++ [k] ↔ _
      rw [List.mem_append, List.mem_singleton]
      refine or_congr_right ⟨?_, fun hk => hk.1.symm⟩
      rintro rfl
      exact ⟨rfl, hwaits, hsynced⟩
  · -- the sender is started after the waiting
    obtain h' | h' := h'
    · exact Errand.noConfusion (herrand.symm.trans h')
    · exact absurd ((congrArg (·.sender.post) houtlet).trans hsender) h'

/-- A kind is lost if the time to sync is over for it while the task waits and it is not synced. -/
theorem expire (h : s.Knows lost) (horderly : s.Orderly) (k : Kind) :
    (s.step (.expire k)).Knows fun k' => lost k' ∨ k = k' ∧ s.Waits ∧ s.hasSynced k' = false := by
  by_cases hwaits : s.Waits
  · exact h.expire_of_waits horderly hwaits k
  · rw [step_expire_of_not_waits hwaits k]
    exact h.congr fun k' => or_iff_left fun hk => hwaits hk.2.1

/-- Nothing else changes what is lost. -/
theorem step (h : s.Knows lost) {a : Act} (ha : ∀ k, a ≠ .expire k) : (s.step a).Knows lost := by
  cases a with
  | expire k => exact absurd rfl (ha k)
  | watch => exact h.watch
  | start => exact h.start
  | judge => exact h.judge
  | startSender => exact h.startSender
  | see => exact h.see
  | finish => exact h.finish
  | deliver d =>
    simp only [Lifetime.step]
    split
    · exact h.frame (Watcher.stage_calls _ _) rfl ((s.watcher.keeps_deliver d).post .sender)
    · exact h.frame rfl rfl (.refl _)
  | catchUp k =>
    simp only [Lifetime.step]
    split
    · exact h
    · exact h.frame (Watcher.stage_calls _ _) rfl ((s.watcher.keeps_deliver _).post .sender)
  | resync k => exact h.frame (Watcher.stage_calls _ _) rfl ((s.watcher.keeps_calls _).post .sender)
  | tick => exact h.frame rfl rfl (.inl s.watcher.outlet.post_tick)
  | send => exact h.frame rfl rfl s.watcher.outlet.ends_send
  | rearm => exact h.frame rfl rfl (.inl s.watcher.outlet.post_rearm)
  | hearSender => exact h.frame rfl rfl (s.watcher.outlet.ends_hear _)
  | close | receive | leave | notify | resolve _ | hear _ => exact h.frame rfl rfl (.refl _)

end Knows

/-! ## The mark at the start -/

/-- Between the verdict and the start of the sender the mark stands. -/
def Marked (s : Lifetime) : Prop := s.errand = .sender → s.watcher.outlet.notifier.pending = true

namespace Marked

variable {s s' : Lifetime}

theorem frame (h : s.Marked) (herrand : s'.errand = s.errand)
    (hpending : s.watcher.outlet.notifier.pending = true → s'.watcher.outlet.notifier.pending = true) :
    s'.Marked :=
  fun h' => hpending (h (herrand.symm.trans h'))

theorem of_errand (h : s'.errand ≠ .sender) : s'.Marked := fun h' => absurd h' h

theorem of_nothing (h : s'.errand = .nothing) : s'.Marked := of_errand (h ▸ Errand.noConfusion)

/-- The sender would take the mark, but as long as it has to be started there is none. -/
theorem tick (h : s.Marked) (horderly : s.Orderly) : (s.step .tick).Marked := by
  intro (herrand : s.errand = .sender)
  have hsender : s.watcher.outlet.sender.post = .unbegun :=
    horderly.sender.resolve_right (by simp [progress, herrand, Task.turn])
  have htick : s.watcher.outlet.tick = s.watcher.outlet := by
    unfold Outlet.tick
    split
    · rename_i l hwaiting
      exact Post.noConfusion ((congrArg Sender.post hwaiting).symm.trans hsender)
    · rfl
  show s.watcher.outlet.tick.notifier.pending = true
  rw [htick]
  exact h herrand

theorem judge (h : s.Marked) : (s.step .judge).Marked := by
  simp only [Lifetime.step]
  split
  · exact fun _ => rfl
  · rename_i herrand _
    exact of_nothing herrand
  · exact h

theorem step (h : s.Marked) (horderly : s.Orderly) (a : Act) : (s.step a).Marked := by
  cases a with
  | tick => exact h.tick horderly
  | judge => exact h.judge
  | watch =>
    simp only [Lifetime.step]
    split
    · exact of_errand Errand.noConfusion
    · exact h
  | start =>
    simp only [Lifetime.step]
    split
    · exact of_errand Errand.noConfusion
    · exact of_errand Errand.noConfusion
    · exact h
    · exact h
  | startSender =>
    simp only [Lifetime.step]
    split
    · exact of_errand Errand.noConfusion
    · exact h
  | expire k =>
    simp only [Lifetime.step]
    split
    · rename_i herrand
      exact of_nothing herrand
    · exact h
  | deliver d =>
    simp only [Lifetime.step]
    split
    · exact h.frame rfl (s.watcher.pending_deliver d)
    · exact h.frame rfl id
  | catchUp k =>
    simp only [Lifetime.step]
    split
    · exact h
    · exact h.frame rfl (s.watcher.pending_deliver _)
  | resync k => exact h.frame rfl (s.watcher.pending_calls _)
  | send => exact h.frame rfl (congrArg Notifier.pending s.watcher.outlet.notifier_send).trans
  | rearm => exact h.frame rfl s.watcher.outlet.pending_rearm
  | hearSender => exact h.frame rfl (congrArg Notifier.pending (s.watcher.outlet.notifier_hear _)).trans
  | see =>
    simp only [Lifetime.step]
    split
    · exact h.frame rfl id
    · exact h
  | finish => exact h.frame rfl (congrArg (·.notifier.pending) s.watcher.outlet_finish).trans
  | notify => exact fun _ => rfl
  | close | receive | leave | resolve _ | hear _ => exact h.frame rfl id

end Marked

/-! ## What the task comes to -/

theorem unbegun_unused (hnew : w.Unused) (t : Task) : w.post t = .unbegun := by
  cases t with
  | sender => exact congrArg Sender.post hnew.sender
  | informer k =>
    have hunused := hnew.informers k
    have hpost {α : Type} {i : Informer α} (h : i.isUnused = true) : i.following.post = .unbegun := by
      unfold Informer.isUnused at h
      cases hfollowing : i.following with
      | nothing | waiting items => rfl
      | running l | stopped => simp [hfollowing] at h
    cases k <;> exact hpost hunused

/-- After every run the task knows which kinds were given up. -/
theorem knows_run (hnew : w.Unused) (acts : List Act) :
    ((start w).run acts).Knows fun k => GivenUp w k acts := by
  induction acts using List.reverseRecOn with
  | nil =>
    have hnone : ∀ k, ¬ GivenUp w k [] := fun k => not_happened_nil _
    refine .of_none hnone (fun _ => Errand.noConfusion) (fun timedOut h => ?_) fun ks h => ?_
    · exact Stage.noConfusion (hnew.stage.symm.trans h)
    · exact Stage.noConfusion (hnew.stage.symm.trans h)
  | append_singleton acts a ih =>
    rw [run_concat]
    have horderly := ((orderly_new (unbegun_unused hnew)).run acts).1
    by_cases hexpire : ∃ k, a = .expire k
    · obtain ⟨k, rfl⟩ := hexpire
      refine (ih.expire horderly k).congr fun k' => ?_
      rw [GivenUp, happened_concat, ← hasSynced_run hnew, Bool.not_eq_true, Act.expire.injEq]
      rfl
    · push Not at hexpire
      refine (ih.step hexpire).congr fun k => ?_
      rw [GivenUp, happened_concat]
      exact or_iff_left fun h => hexpire k h.1

/-- After every run the mark of the verdict stands if the sender has still to be started. -/
theorem marked_run (hnew : w.Unused) (acts : List Act) : ((start w).run acts).Marked := by
  induction acts using List.reverseRecOn with
  | nil => exact .of_errand Errand.noConfusion
  | append_singleton acts a ih =>
    rw [run_concat]
    exact ih.step ((orderly_new (unbegun_unused hnew)).run acts).1 a

/-- For every kind it is known what became of it: its list was complete, or the time to sync was over. -/
theorem listed_or_over_iff (w : Watcher) (k : Kind) (acts : List Act) :
    HasListed w k acts ∨ TimeOver w k acts ↔ HasListed w k acts ∨ GivenUp w k acts := by
  constructor
  · rintro (h | ⟨before, a, after, rfl, ha, hwaits⟩)
    · exact .inl h
    · by_cases hlisted : HasListed w k before
      · exact .inl (hlisted.append _)
      · exact .inr ⟨before, a, after, rfl, ha, hwaits, hlisted⟩
  · rintro (h | ⟨before, a, after, rfl, ha, hwaits, -⟩)
    · exact .inl h
    · exact .inr ⟨before, a, after, rfl, ha, hwaits⟩

/-- The task that waits comes to its verdict when it is known of every kind what became of it, and not before. -/
theorem step_judge (hnew : w.Unused) (acts : List Act) :
    let s := (start w).run acts
    ((s.Waits ∧ ∀ k, HasListed w k acts ∨ TimeOver w k acts) →
        ∃ ks, Names (GivenUp w · acts) ks ∧ s.step .judge = s.conclude ks) ∧
      (¬ (s.Waits ∧ ∀ k, HasListed w k acts ∨ TimeOver w k acts) → s.step .judge = s) := by
  intro s
  have hknows := knows_run hnew acts
  -- the task sees of a kind that it is synced, or that it was noted as late; the run says when that is
  have hverdict (hwaits : s.Waits) : (∃ ks, s.watcher.verdict? = some ks) ↔
      ∀ k, HasListed w k acts ∨ TimeOver w k acts := by
    obtain ⟨-, timedOut, hstage⟩ := hwaits
    have hknown : (∀ k, HasListed w k acts ∨ TimeOver w k acts) ↔
        ∀ k, s.watcher.informers.view (·.hasSynced) k = true ∨ k ∈ timedOut := by
      refine forall_congr' fun k => ?_
      rw [listed_or_over_iff, hknows.waiting timedOut hstage k, ← hasSynced_run hnew]
      rfl
    rw [hknown]
    constructor
    · rintro ⟨ks, hks⟩
      obtain ⟨timedOut', hstage', hall, -⟩ := Watcher.verdict?_eq_some_iff.1 hks
      obtain rfl := Stage.syncing.inj (hstage.symm.trans hstage')
      exact hall
    · intro hall
      exact ⟨_, Watcher.verdict?_eq_some_iff.2 ⟨timedOut, hstage, hall, rfl⟩⟩
  refine ⟨fun ⟨hwaits, hknown⟩ => ?_, fun h => ?_⟩
  · obtain ⟨ks, hks⟩ := (hverdict hwaits).2 hknown
    refine ⟨ks, hknows.verdict hks, ?_⟩
    cases ks <;> simp only [step, hwaits.1, hks, conclude]
  · cases herrand : s.errand with
    | informers kinds | sender => simp only [step, herrand]
    | nothing =>
      cases hks : s.watcher.verdict? with
      | none => simp only [step, herrand, hks]
      | some ks =>
        obtain ⟨timedOut, hstage, -⟩ := Watcher.verdict?_eq_some_iff.1 hks
        have hwaits : s.Waits := ⟨herrand, timedOut, hstage⟩
        exact absurd ⟨hwaits, (hverdict hwaits).1 ⟨ks, hks⟩⟩ h

/-- **Which kinds are synced, and which make the start fail.** Whatever happens to a watcher, in any order:
a kind is synced exactly if it has no stream or its informer has seen the end of a list, and stays so. When it
is known of every kind that it is synced or that its time is over, and not before, the task that was told to
watch comes to its verdict. It names, in their order, the kinds that had no complete list when their time was
over. If there is none, the mark is made, and the sender is started and finds it; otherwise the task fails with
these kinds, no mark is made, and there is no sender. -/
theorem verdict_names_given_up (w : Watcher) (hnew : w.Unused) (acts : List Act) :
    let s := (start w).run acts
    (∀ k, s.hasSynced k = true ↔ HasListed w k acts) ∧
      (∀ k more, s.hasSynced k = true → (s.run more).hasSynced k = true) ∧
      ((s.Waits ∧ ∀ k, HasListed w k acts ∨ TimeOver w k acts) →
        ∃ ks, Names (GivenUp w · acts) ks ∧ s.step .judge = s.conclude ks ∧
          (ks = [] → (s.step .judge).errand = .sender ∧
            (s.step .judge).watcher.outlet.notifier.pending = true) ∧
          (ks ≠ [] → (s.step .judge).watcher.stage = .finished (.error (.cacheSync ks)) ∧
            (s.step .judge).watcher.outlet = s.watcher.outlet)) ∧
      (¬ (s.Waits ∧ ∀ k, HasListed w k acts ∨ TimeOver w k acts) → s.step .judge = s) ∧
      (∀ ks, s.watcher.stage = .finished (.error (.cacheSync ks)) →
        ks ≠ [] ∧ Names (GivenUp w · acts) ks ∧ s.watcher.outlet.sender = .notStarted) ∧
      (s.errand = .sender ∨ s.watcher.outlet.sender ≠ .notStarted → ∀ k, ¬ GivenUp w k acts) ∧
      (s.errand = .sender →
        (s.step .startSender).watcher =
            { s.watcher with stage := .serving, outlet := s.watcher.outlet.start s.watcher.shutdown } ∧
          (s.step .startSender).watcher.outlet.sender = .waiting s.watcher.shutdown.listen ∧
          (s.step .startSender).watcher.outlet.notifier.pending = true) := by
  intro s
  have hknows := knows_run hnew acts
  have hunbegun : s.watcher.post .sender = .unbegun ↔ s.watcher.outlet.sender = .notStarted := by
    show s.watcher.outlet.sender.post = _ ↔ _
    cases s.watcher.outlet.sender <;> simp [Sender.post]
  refine ⟨hasSynced_run hnew acts, fun k more h => ?_, fun h => ?_, (step_judge hnew acts).2,
    fun ks h => ?_, fun h => ?_, fun h => ?_⟩
  · rw [← run_append, hasSynced_run hnew]
    exact ((hasSynced_run hnew acts k).1 h).append more
  · obtain ⟨ks, hnames, hjudge⟩ := (step_judge hnew acts).1 h
    refine ⟨ks, hnames, hjudge, fun hks => ?_, fun hks => ?_⟩
    · rw [hjudge, hks]
      exact ⟨rfl, rfl⟩
    · rw [hjudge]
      exact s.conclude_of_ne_nil hks
  · obtain ⟨hks, hnames⟩ := hknows.failed ks h
    refine ⟨hks, hnames, hunbegun.1 ?_⟩
    by_contra hbegun
    obtain ⟨k, hk⟩ := List.exists_mem_of_ne_nil ks hks
    exact hknows.serves (.inr hbegun) k ((hnames.2 k).1 hk)
  · refine hknows.serves (h.imp_right fun hsender hpost => ?_)
    exact hsender (hunbegun.1 hpost)
  · have hstart : (s.step .startSender).watcher =
        { s.watcher with stage := .serving, outlet := s.watcher.outlet.start s.watcher.shutdown } := by
      simp only [step, if_pos h, on]
    refine ⟨hstart, ?_, ?_⟩
    · rw [hstart]
      rfl
    · rw [hstart]
      exact marked_run hnew acts h

/-- Two of the lists come in time, and two of them do not. -/
def twoLate : List Act :=
  begun ++ [.monitor .serviceMonitor (.event .listEnds), .ns (.event .listEnds)].map .deliver ++
    Kind.all.map .expire

/-- The verdict names the two kinds, and still does so when the list of one of them has come. -/
theorem verdict_names_given_up_twoLate :
    let s := (start newWatcher).run (twoLate ++ [.judge, .deliver (.secret (.event .listEnds))])
    newWatcher.Unused ∧ s.watcher.stage = .finished (.error (.cacheSync [.podMonitor, .secret])) ∧
      HasListed newWatcher .secret (twoLate ++ [.judge, .deliver (.secret (.event .listEnds))]) ∧
      GivenUp newWatcher .secret (twoLate ++ [.judge, .deliver (.secret (.event .listEnds))]) ∧
      s.watcher.outlet.sender = .notStarted := by
  intro s
  have hnew : newWatcher.Unused := ⟨fun k => by cases k <;> rfl, rfl, rfl⟩
  obtain ⟨hsynced, -, -, -, hfailed, -⟩ := verdict_names_given_up newWatcher hnew
    (twoLate ++ [.judge, .deliver (.secret (.event .listEnds))])
  have hstage : s.watcher.stage = .finished (.error (.cacheSync [.podMonitor, .secret])) := rfl
  obtain ⟨-, ⟨-, hnames⟩, hsender⟩ := hfailed _ hstage
  exact ⟨hnew, hstage, (hsynced .secret).1 rfl, (hnames .secret).1 (by decide), hsender⟩

end Lifetime

end ScrapeFleet.Watch
