/-
# ScrapeFleet.Proofs.Credential.Registration — registrations are counted right

A question holds a registration from the moment it begins to fetch until it ends the fetch. In every
reachable state the slot of a secret stands for exactly the registered questions for it, and no
registration is ahead of its slot (`Booked`). So a slot never goes while a question is registered for its
secret, and news always reaches the fetch that it outdates.

What one question does to a slot does not depend on the others (`Exchange`), so it is stated of one
question and a number of others.
-/
import ScrapeFleet.Proofs.Credential.Traffic

namespace ScrapeFleet.Credential

open Cluster (ObjectKey Secret)
open Watch (Change followSecret)

/-! ## The exchange of one registration -/

namespace Phase

/-- A fetch is registered. -/
def isRegistered : Phase → Bool
  | .fetching _ _ | .fetched _ _ _ | .closing _ _ => true
  | .looking _ | .lastFetch | .finished _ => false

/-- The generation in which the registered fetch began, as long as it matters. -/
def generation? : Phase → Option Nat
  | .fetching _ g | .fetched _ g _ => some g
  | .looking _ | .closing _ _ | .lastFetch | .finished _ => none

/-! What arrives changes nothing about a registration. -/

@[simp] theorem isRegistered_arrive (p : Phase) (key : ValueKey) (f : Fetched) :
    (p.arrive key f).isRegistered = p.isRegistered := by
  cases p <;> rfl

@[simp] theorem generation?_arrive (p : Phase) (key : ValueKey) (f : Fetched) :
    (p.arrive key f).generation? = p.generation? := by
  cases p <;> rfl

end Phase

/-- The question holds a registration for the secret. -/
def Question.registers (id : ObjectKey) (q : Question) : Bool :=
  q.phase.isRegistered && q.key.1 == id

/-- A question that holds a registration is counted for its secret. -/
theorem Question.countP_registers {questions : List Question} {q : Question} (hq : q ∈ questions)
    (hreg : q.phase.isRegistered = true) : ∃ n, questions.countP (·.registers q.key.1) = n + 1 := by
  have hpos : 0 < questions.countP (·.registers q.key.1) := by
    rw [List.countP_pos_iff]
    exact ⟨q, hq, by simp [Question.registers, hreg]⟩
  exact Nat.exists_eq_succ_of_ne_zero (Nat.pos_iff_ne_zero.1 hpos)

/-- The step of a question from one state of the store to another counts its registration right, and
does not touch the generation of a secret for which another question is registered. -/
structure Exchange (s : Store) (q : Question) (s' : Store) (q' : Option Question) : Prop where
  slot : ∀ id n, s.Slot id (n + [q].countP (·.registers id)) →
    s'.Slot id (n + q'.toList.countP (·.registers id))
  generation : ∀ id n, s.Slot id (n + 1 + [q].countP (·.registers id)) →
    s'.generation id = s.generation id
  behind : (∀ g, q.phase.generation? = some g → g ≤ s.generation q.key.1) →
    ∀ p ∈ q', ∀ g, p.phase.generation? = some g → g ≤ s'.generation p.key.1

namespace Exchange

variable {s s' : Store} {key : ValueKey} {p p' : Phase}

/-- A step that leaves the registrations alone. -/
theorem of_running (hrunning : s'.running = s.running) (hreg : p'.isRegistered = p.isRegistered)
    (hgen : ∀ g, p'.generation? = some g → p.generation? = some g) :
    Exchange s ⟨key, p⟩ s' (some ⟨key, p'⟩) where
  slot id n h := by
    have hcount : (some (⟨key, p'⟩ : Question)).toList.countP (·.registers id)
        = [(⟨key, p⟩ : Question)].countP (·.registers id) := by
      simp [List.countP_cons, Question.registers, hreg]
    rw [hcount, Store.Slot, hrunning]
    exact h
  generation id n _ := Store.generation_congr hrunning id
  behind h := by
    intro q' hq' g hg
    obtain rfl := Option.mem_some.1 hq'
    rw [Store.generation_congr hrunning]
    exact h g (hgen g hg)

/-- A fetch is registered. -/
theorem of_beginFetch (hp : p.isRegistered = false) (more : Nat) :
    Exchange s ⟨key, p⟩ (s.beginFetch key.1)
      (some ⟨key, .fetching more (s.generation key.1)⟩) where
  slot id n h := by
    by_cases hid : id = key.1
    · subst hid
      simp only [List.countP_cons, List.countP_nil, Question.registers, hp] at h
      simpa [List.countP_cons, Question.registers, Phase.isRegistered] using
        Store.slot_beginFetch h
    · have hne : (key.1 == id) = false := by simpa using Ne.symm hid
      simp only [Option.toList_some, List.countP_cons, List.countP_nil, Question.registers, hne,
        Bool.and_false] at h ⊢
      rw [Store.Slot, Store.running_beginFetch, if_neg hid]
      exact h
  generation id n _ := Store.generation_beginFetch _ _ _
  behind _ := by
    intro q' hq' g hg
    obtain rfl := Option.mem_some.1 hq'
    obtain rfl := Option.some.inj hg
    exact Nat.le_of_eq (Store.generation_beginFetch s key.1 key.1).symm

/-- A registration ends. -/
theorem of_endFetch (hp : p.isRegistered = true) {q' : Option Question}
    (hq' : ∀ q ∈ q', q.phase.isRegistered = false) :
    Exchange s ⟨key, p⟩ (s.endFetch key.1) q' where
  slot id n h := by
    have hnone : q'.toList.countP (·.registers id) = 0 := by
      rw [List.countP_eq_zero]
      intro q hq
      simp [Question.registers, hq' q (Option.mem_toList.1 hq)]
    rw [hnone]
    by_cases hid : id = key.1
    · subst hid
      simp only [List.countP_cons, List.countP_nil, Question.registers, hp, beq_self_eq_true,
        Bool.and_self, if_true] at h
      exact Store.slot_endFetch h
    · have hne : (key.1 == id) = false := by simpa using Ne.symm hid
      simp only [List.countP_cons, List.countP_nil, Question.registers, hne, Bool.and_false] at h
      rw [Store.Slot, Store.running_endFetch, if_neg hid]
      exact h
  generation id n h := by
    refine Store.generation_endFetch (n := n) fun hid => ?_
    subst hid
    simpa [List.countP_cons, Question.registers, hp] using h
  behind _ := by
    intro q hq g hg
    have hreg := hq' q hq
    cases hphase : q.phase <;> simp_all [Phase.isRegistered, Phase.generation?]

/-- Every step of a question by itself. -/
theorem of_step (s : Store) (key : ValueKey) (p : Phase) :
    Exchange s ⟨key, p⟩ (p.step s key).1 (some ⟨key, (p.step s key).2⟩) := by
  cases p with
  | looking attempts =>
    show Exchange s _ (Phase.look attempts s key).1 (some ⟨key, (Phase.look attempts s key).2⟩)
    unfold Phase.look
    split
    · exact of_running rfl rfl (by simp [Phase.generation?])
    · split
      · exact of_running rfl rfl (by simp [Phase.generation?])
      · exact of_beginFetch rfl _
  | fetched more generation f =>
    show Exchange s _ (Phase.judge s key more generation f).1
      (some ⟨key, (Phase.judge s key more generation f).2⟩)
    unfold Phase.judge
    split
    · exact of_running rfl rfl (by simp [Phase.generation?])
    · split <;> exact of_running rfl rfl (by simp [Phase.generation?])
  | closing more answer =>
    refine of_endFetch rfl ?_
    intro q hq
    obtain rfl := Option.mem_some.1 hq
    cases answer <;> rfl
  | fetching more generation => exact of_running rfl rfl fun _ h => h
  | lastFetch => exact of_running rfl rfl fun _ h => h
  | finished answer => exact of_running rfl rfl fun _ h => h

/-- What a fetch brings arrives. -/
theorem of_arrive (s : Store) (key : ValueKey) (p : Phase) (f : Fetched) :
    Exchange s ⟨key, p⟩ s (some ⟨key, p.arrive key f⟩) :=
  of_running rfl (p.isRegistered_arrive key f) (by simp)

/-- A question is given up. -/
theorem of_cancel (s : Store) (key : ValueKey) (p : Phase) :
    Exchange s ⟨key, p⟩ (p.cancel s key) none := by
  have unregistered : ∀ p : Phase, p.isRegistered = false → Exchange s ⟨key, p⟩ s none := by
    intro p hp
    refine ⟨fun id n h => ?_, fun _ _ _ => rfl, fun _ q hq => nomatch hq⟩
    simpa [List.countP_cons, Question.registers, hp] using h
  cases p with
  | looking _ => exact unregistered _ rfl
  | lastFetch => exact unregistered _ rfl
  | finished _ => exact unregistered _ rfl
  | fetching _ _ => exact of_endFetch rfl fun q hq => nomatch hq
  | fetched _ _ _ => exact of_endFetch rfl fun q hq => nomatch hq
  | closing _ _ => exact of_endFetch rfl fun q hq => nomatch hq

end Exchange

/-- The slots stand for the registered questions, and no registration is ahead of its slot. -/
structure Booked (s : Store) (questions : List Question) : Prop where
  slots : ∀ id, s.Slot id (questions.countP (·.registers id))
  behind : ∀ q ∈ questions, ∀ g, q.phase.generation? = some g → g ≤ s.generation q.key.1

namespace Booked

variable {s s' : Store} {l r : List Question} {q : Question} {q' : Option Question}

theorem slot_others (h : Booked s (l ++ q :: r)) (id : ObjectKey) :
    s.Slot id ((l ++ r).countP (·.registers id) + [q].countP (·.registers id)) := by
  have hcount : (l ++ r).countP (·.registers id) + [q].countP (·.registers id)
      = (l ++ q :: r).countP (·.registers id) := by
    simp only [List.countP_append, List.countP_cons, List.countP_nil]
    omega
  rw [hcount]
  exact h.slots id

/-- The generation of a secret for which another question is registered stays. -/
theorem generation_other (h : Booked s (l ++ q :: r)) (hx : Exchange s q s' q') {p : Question}
    (hp : p ∈ l ++ r) (hreg : p.phase.isRegistered = true) :
    s'.generation p.key.1 = s.generation p.key.1 := by
  obtain ⟨n, hn⟩ := Question.countP_registers hp hreg
  refine hx.generation p.key.1 n ?_
  have hslot := h.slot_others p.key.1
  rw [hn] at hslot
  exact hslot

theorem isRegistered_of_generation {p : Phase} {g : Nat} (h : p.generation? = some g) :
    p.isRegistered = true := by
  cases p <;> first | rfl | cases h

theorem exchange (h : Booked s (l ++ q :: r)) (hx : Exchange s q s' q') :
    Booked s' (l ++ q'.toList ++ r) where
  slots id := by
    have hcount : (l ++ q'.toList ++ r).countP (·.registers id)
        = (l ++ r).countP (·.registers id) + q'.toList.countP (·.registers id) := by
      rw [List.countP_append, List.countP_append, List.countP_append]
      omega
    rw [hcount]
    exact hx.slot id _ (h.slot_others id)
  behind := by
    intro p hp g hg
    have hcases : p ∈ l ++ r ∨ p ∈ q' := by
      simp only [List.mem_append, Option.mem_toList] at hp ⊢
      tauto
    rcases hcases with hp | hp
    · rw [h.generation_other hx hp (isRegistered_of_generation hg)]
      refine h.behind p ?_ g hg
      rw [List.mem_append] at hp ⊢
      exact hp.imp_right (List.mem_cons_of_mem q)
    · exact hx.behind (h.behind q (by simp)) p hp g hg

theorem of_running {questions : List Question} (h : Booked s questions)
    (hrunning : s'.running = s.running) : Booked s' questions where
  slots id := by
    rw [Store.Slot, hrunning]
    exact h.slots id
  behind q hq g hg := by
    rw [Store.generation_congr hrunning]
    exact h.behind q hq g hg

/-- News of a secret outdates registrations and ends none. -/
theorem outdate {questions : List Question} (h : Booked s questions) (id : ObjectKey) :
    Booked (s.outdate id) questions where
  slots id' := Store.slot_outdate (h.slots id')
  behind q hq g hg := Nat.le_trans (h.behind q hq g hg) (Store.generation_le_outdate s id q.key.1)

theorem update {questions : List Question} (h : Booked s questions) (secret : Secret) :
    Booked (s.update secret).1 questions := by
  cases hid : secret.id? with
  | none =>
    rw [Store.update_of_id?_eq_none s hid]
    exact h
  | some id => exact (h.outdate id).of_running (Store.running_update s hid)

theorem remove {questions : List Question} (h : Booked s questions) (id : ObjectKey) :
    Booked (s.remove id).1 questions := (h.outdate id).of_running rfl

theorem follow {questions : List Question} (h : Booked s questions) (c : Change Secret) :
    Booked (followSecret s c).1 questions := by
  cases c with
  | added _ => exact h
  | updated _ new => exact h.update new
  | deleted old => exact h.remove old.metadata.key

/-- A new question holds no registration. -/
theorem ask {questions : List Question} (h : Booked s questions) (key : ValueKey) :
    Booked s (questions ++ [⟨key, .looking fetchAttempts⟩]) where
  slots id := by
    have hcount : (questions ++ [(⟨key, .looking fetchAttempts⟩ : Question)]).countP (·.registers id)
        = questions.countP (·.registers id) := by
      simp [List.countP_append, Question.registers, Phase.isRegistered]
    rw [hcount]
    exact h.slots id
  behind q hq g hg := by
    rcases List.mem_append.1 hq with hq | hq
    · exact h.behind q hq g hg
    · rw [List.mem_singleton.1 hq] at hg
      cases hg

end Booked

theorem Question.Moves.exchange {source : Shelf} {s s' : Store} {q : Question}
    {q' : Option Question} (h : q.Moves source s s' q') : Exchange s q s' q' := by
  cases h with
  | arrive f _ => exact .of_arrive s q.key q.phase f
  | step => exact .of_step s q.key q.phase
  | cancel => exact .of_cancel s q.key q.phase

namespace Traffic

theorem booked_tell {w : Traffic} (h : Booked w.store w.questions)
    (changes : List (Change Secret)) :
    Booked (w.tell changes).store (w.tell changes).questions := by
  have onward : ∀ (changes : List (Change Secret)) (s : Store), Booked s w.questions →
      Booked (changes.foldl (fun s c => (followSecret s c).1) s) w.questions := by
    intro changes
    induction changes with
    | nil => exact fun s h => h
    | cons c changes ih => exact fun s h => ih _ (h.follow c)
  exact onward changes w.store h

theorem Moves.booked {w w' : Traffic} (h : w.Moves w') (hw : Booked w.store w.questions) :
    Booked w'.store w'.questions := by
  cases h with
  | idle => exact hw
  | put _ => exact hw
  | drop _ => exact hw
  | hear _ => exact booked_tell hw _
  | retell _ => exact booked_tell hw _
  | ask key => exact hw.ask key
  | question hq hmove =>
    rw [hq] at hw
    exact hw.exchange hmove.exchange

/-- After every run the slots stand for the registered questions. -/
theorem booked_run (acts : List Act) : Booked (run acts).store (run acts).questions := by
  refine run_induction (P := fun w => Booked w.store w.questions) ?_ ?_ acts
  · exact ⟨fun id => rfl, fun q hq => nomatch hq⟩
  · exact fun w w' h hw => h.booked hw

end Traffic

end ScrapeFleet.Credential
