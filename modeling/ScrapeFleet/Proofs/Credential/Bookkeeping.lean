/-
# ScrapeFleet.Proofs.Credential.Bookkeeping — registrations from their beginning to their end

Any number of questions are answered from one store, while news of secrets comes in any order and a fetch may
bring anything: unlike in `Traffic`, nothing ties what the store is told to a source. What happens is a list of
turns, and a turn that cannot be taken leaves everything as it is, so every list is a history. A question keeps
its number, so its registration can be followed through a history: it began in a turn of that question, before
which there was none, and was live after every turn since (`HeldSince`).

What carries the proofs is one equation: the generation of a secret is now what it was when the registration
began, and one more for every news of the secret since (`Held.generation`). A slot that goes takes its
generation with it, and the next one begins at zero again; but it does not go while a registration is live, so
a registration never meets a generation that was begun anew. Hence a fetch is judged right
(`Desk.registrations_in_step`).
-/
import Mathlib.Data.List.Induction
import Mathlib.Data.List.ReduceOption
import ScrapeFleet.Proofs.Credential.Coherence

namespace ScrapeFleet.Credential

open Cluster (ObjectKey Secret)
open Traffic (tokenSecret)

deriving instance DecidableEq for Phase
deriving instance DecidableEq for Question

/-! ## Turns -/

/-- What a question may do next. -/
inductive Move where
  /-- What was fetched for it arrives, whatever that is. -/
  | arrive (f : Fetched)
  /-- It takes its next step if it does not wait. -/
  | advance
  | cancel
deriving DecidableEq, Repr, Inhabited

/-- The store after a move, and what becomes of the question. -/
def Question.move (q : Question) (s : Store) : Move → Store × Option Question
  | .arrive f => (s, some { q with phase := q.phase.arrive q.key f })
  | .advance => ((q.phase.step s q.key).1, some { q with phase := (q.phase.step s q.key).2 })
  | .cancel => (q.phase.cancel s q.key, none)

/-- What may happen next. -/
inductive Turn where
  | update (secret : Secret)
  | remove (id : ObjectKey)
  | ask (key : ValueKey)
  | move (n : Nat) (m : Move)
deriving DecidableEq, Repr, Inhabited

/-- The turn brings news of the secret: a new version of it, or its deletion. -/
def Turn.isNews (id : ObjectKey) : Turn → Bool
  | update secret => secret.id? == some id
  | remove id' => id' == id
  | ask _ | move _ _ => false

/-- A store, and the questions that are answered from it. -/
structure Desk where
  store : Store := {}
  /-- In the order in which they were asked; nothing is left of one that was given up. -/
  questions : List (Option Question) := []
deriving Repr, Inhabited

namespace Desk

/-- The question with a number. -/
def question? (d : Desk) (n : Nat) : Option Question := d.questions[n]?.join

/-- The questions that were not given up. -/
def asked (d : Desk) : List Question := d.questions.reduceOption

/-- How many registrations for a secret are live. -/
def registrations (d : Desk) (id : ObjectKey) : Nat := d.asked.countP (·.registers id)

/-- The question with a number holds a registration. -/
def registers (d : Desk) (n : Nat) : Bool := (d.question? n).any (·.phase.isRegistered)

/-- The state after a turn. -/
def step (d : Desk) : Turn → Desk
  | .update secret => { d with store := (d.store.update secret).1 }
  | .remove id => { d with store := (d.store.remove id).1 }
  | .ask key => { d with questions := d.questions ++ [some ⟨key, .looking fetchAttempts⟩] }
  | .move n m =>
    match d.question? n with
    | none => d
    | some q => { store := (q.move d.store m).1, questions := d.questions.set n (q.move d.store m).2 }

/-- The state after a history from the start, where nothing is kept and nobody asks. -/
def run (turns : List Turn) : Desk := turns.foldl step {}

theorem run_concat (turns : List Turn) (t : Turn) : run (turns ++ [t]) = (run turns).step t :=
  List.foldl_append

end Desk

/-! ## What a move does -/

namespace Question

variable {s : Store} {q q' : Question} {m : Move}

theorem exchange_move (q : Question) (s : Store) (m : Move) :
    Exchange s q (q.move s m).1 (q.move s m).2 := by
  cases m with
  | arrive f => exact .of_arrive s q.key q.phase f
  | advance => exact .of_step s q.key q.phase
  | cancel => exact .of_cancel s q.key q.phase

/-- A registration begins when a question looks and finds nothing, with the generation of that moment. -/
theorem begins (hq : q.phase.isRegistered = false) (hq' : q' ∈ (q.move s m).2)
    (hreg : q'.phase.isRegistered = true) :
    m = .advance ∧ q'.key = q.key ∧ (q.move s m).1 = s.beginFetch q.key.1 ∧
      q'.phase.generation? = some (s.generation q.key.1) := by
  obtain ⟨key, phase⟩ := q
  cases m with
  | arrive f =>
    obtain rfl := Option.mem_some.1 hq'
    rw [Phase.isRegistered_arrive, hq] at hreg
    cases hreg
  | advance =>
    obtain rfl := Option.mem_some.1 hq'
    cases phase with
    | looking attempts =>
      cases attempts with
      | zero => cases hreg
      | succ more =>
        cases hkept : s.get? key with
        | some v => simp [Phase.step, Phase.look, hkept, Phase.isRegistered] at hreg
        | none => simp [move, Phase.step, Phase.look, hkept, Phase.generation?]
    | lastFetch => cases hreg
    | finished answer => cases hreg
    | fetching more g => cases hq
    | fetched more g f => cases hq
    | closing more answer => cases hq
  | cancel => cases hq'

/-- What a question does while its registration lasts touches no registration, and it forgets its generation at
most. -/
theorem lasts (hq : q.phase.isRegistered = true) (hq' : q' ∈ (q.move s m).2)
    (hreg : q'.phase.isRegistered = true) :
    q'.key = q.key ∧ (q.move s m).1.running = s.running ∧
      ∀ g ∈ q'.phase.generation?, g ∈ q.phase.generation? := by
  obtain ⟨key, phase⟩ := q
  cases m with
  | arrive f =>
    obtain rfl := Option.mem_some.1 hq'
    refine ⟨rfl, rfl, ?_⟩
    rw [Phase.generation?_arrive]
    exact fun _ h => h
  | advance =>
    obtain rfl := Option.mem_some.1 hq'
    refine ⟨rfl, ?_⟩
    cases phase with
    | fetching more g => exact ⟨rfl, fun _ h => h⟩
    | fetched more g f =>
      -- a judged fetch has no use for its generation, whatever the verdict is
      simp only [move, Phase.step, Phase.judge]
      cases f.value key with
      | error e => exact ⟨rfl, by simp [Phase.generation?]⟩
      | ok v =>
        by_cases hcurrent : s.generation key.1 = g
        · simp only [if_pos hcurrent]
          exact ⟨rfl, by simp [Phase.generation?]⟩
        · simp only [if_neg hcurrent]
          exact ⟨trivial, by simp [Phase.generation?]⟩
    | closing more answer => cases answer <;> cases hreg
    | looking attempts => cases hq
    | lastFetch => cases hq
    | finished answer => cases hq
  | cancel => cases hq'

end Question

/-! ## What a turn does -/

namespace Desk

variable {d : Desk} {n : Nat} {q q' : Question} {t : Turn}

theorem question?_eq_some_iff : d.question? n = some q ↔ d.questions[n]? = some (some q) :=
  Option.join_eq_some_iff

theorem mem_asked (h : d.question? n = some q) : q ∈ d.asked :=
  List.reduceOption_mem_iff.2 (List.mem_of_getElem? (question?_eq_some_iff.1 h))

theorem exists_of_mem_asked (h : q ∈ d.asked) : ∃ n, d.question? n = some q := by
  obtain ⟨n, hn⟩ := List.getElem?_of_mem (List.reduceOption_mem_iff.1 h)
  exact ⟨n, question?_eq_some_iff.2 hn⟩

theorem registers_of_question {d : Desk} {n : Nat} {q : Question} (hq : d.question? n = some q) :
    d.registers n = q.phase.isRegistered := by
  rw [registers, hq, Option.any_some]

/-- A new question comes last. -/
theorem question?_ask (d : Desk) (key : ValueKey) (n : Nat) :
    (d.step (.ask key)).question? n =
      if n = d.questions.length then some ⟨key, .looking fetchAttempts⟩ else d.question? n := by
  simp only [question?, step]
  rcases Nat.lt_trichotomy n d.questions.length with hlt | rfl | hgt
  · rw [List.getElem?_append_left hlt, if_neg (Nat.ne_of_lt hlt)]
  · rw [List.getElem?_concat_length, if_pos rfl]
    rfl
  · rw [if_neg (Nat.ne_of_gt hgt), List.getElem?_eq_none (Nat.le_of_lt hgt), List.getElem?_eq_none]
    rw [List.length_append]
    exact hgt

/-- A move is of one question. -/
theorem question?_move (h : d.question? n = some q) (m : Move) (k : Nat) :
    (d.step (.move n m)).question? k = if k = n then (q.move d.store m).2 else d.question? k := by
  obtain ⟨hlt, _⟩ := List.getElem?_eq_some_iff.1 (question?_eq_some_iff.1 h)
  simp only [step, h]
  rw [question?, List.getElem?_set]
  by_cases hk : k = n
  · rw [if_pos hk, if_pos hk.symm, if_pos hlt]
    rfl
  · rw [if_neg hk, if_neg (Ne.symm hk), question?]

theorem step_move_of_none (h : d.question? n = none) (m : Move) : d.step (.move n m) = d := by
  simp only [step, h]

/-- The question with a number among the others, which a move of it leaves alone. -/
theorem asked_split (h : d.question? n = some q) :
    ∃ l r, d.asked = l ++ q :: r ∧
      (∀ m, (d.step (.move n m)).asked = l ++ (q.move d.store m).2.toList ++ r) ∧
      ∀ k ≠ n, ∀ p, d.question? k = some p → p ∈ l ++ r := by
  have hn := question?_eq_some_iff.1 h
  obtain ⟨hlt, hget⟩ := List.getElem?_eq_some_iff.1 hn
  refine ⟨(d.questions.take n).reduceOption, (d.questions.drop (n + 1)).reduceOption, ?_, ?_, ?_⟩
  · rw [← List.reduceOption_cons_of_some, ← List.reduceOption_append, ← hget,
      ← List.drop_eq_getElem_cons, List.take_append_drop, asked]
  · intro m
    simp only [step, h, asked]
    rw [List.set_eq_take_append_cons_drop, if_pos hlt, List.append_assoc, List.reduceOption_append,
      ← List.singleton_append, List.reduceOption_append, List.reduceOption_singleton]
  · intro k hk p hp
    rw [← List.reduceOption_append, ← List.eraseIdx_eq_take_drop_succ, List.reduceOption_mem_iff,
      List.mem_eraseIdx_iff_getElem?]
    exact ⟨k, hk, question?_eq_some_iff.1 hp⟩

theorem booked_step (h : Booked d.store d.asked) (t : Turn) : Booked (d.step t).store (d.step t).asked := by
  cases t with
  | update secret => exact h.update secret
  | remove id => exact h.remove id
  | ask key =>
    have hasked : (d.step (.ask key)).asked = d.asked ++ [⟨key, .looking fetchAttempts⟩] :=
      List.reduceOption_append _ _
    rw [hasked]
    exact h.ask key
  | move n m =>
    cases hq : d.question? n with
    | none =>
      rw [step_move_of_none hq]
      exact h
    | some q =>
      obtain ⟨l, r, hasked, hafter, _⟩ := asked_split hq
      rw [hasked] at h
      rw [hafter m]
      simpa only [step, hq] using h.exchange (q.exchange_move d.store m)

/-- After every history the slots stand for the live registrations. -/
theorem booked_run (turns : List Turn) : Booked (run turns).store (run turns).asked := by
  induction turns using List.reverseRecOn with
  | nil => exact ⟨fun id => rfl, fun q hq => nomatch hq⟩
  | append_singleton turns t ih =>
    rw [run_concat]
    exact booked_step ih t

/-- A registration begins in a turn of its question, with the generation that the secret has then. -/
theorem begins (h : d.registers n = false) (hq' : (d.step t).question? n = some q')
    (hreg : q'.phase.isRegistered = true) :
    t = .move n .advance ∧ (d.step t).store.generation q'.key.1 = d.store.generation q'.key.1 ∧
      q'.phase.generation? = some (d.store.generation q'.key.1) := by
  have hother : d.question? n ≠ some q' := by
    intro hq
    rw [registers_of_question hq, hreg] at h
    cases h
  cases t with
  | update secret => exact absurd hq' hother
  | remove id => exact absurd hq' hother
  | ask key =>
    rw [question?_ask] at hq'
    split at hq'
    · obtain rfl := Option.some.inj hq'
      cases hreg
    · exact absurd hq' hother
  | move k m =>
    cases hk : d.question? k with
    | none =>
      rw [step_move_of_none hk] at hq'
      exact absurd hq' hother
    | some q =>
      rw [question?_move hk] at hq'
      split at hq'
      · rename_i hn
        subst hn
        rw [registers_of_question hk] at h
        obtain ⟨rfl, hkey, hstore, hgeneration⟩ := Question.begins h hq' hreg
        refine ⟨rfl, ?_, by rw [hgeneration, hkey]⟩
        simp only [step, hk]
        rw [hstore, Store.generation_beginFetch]
      · exact absurd hq' hother

/-- While a registration lasts, the generation of its secret counts the news of the secret. -/
theorem lasts (hd : Booked d.store d.asked) (hq : d.question? n = some q)
    (hreg : q.phase.isRegistered = true) (hq' : (d.step t).question? n = some q')
    (hreg' : q'.phase.isRegistered = true) :
    q'.key = q.key ∧
      (d.step t).store.generation q.key.1 =
        d.store.generation q.key.1 + (if t.isNews q.key.1 then 1 else 0) ∧
      ∀ g ∈ q'.phase.generation?, g ∈ q.phase.generation? := by
  obtain ⟨others, hcount⟩ := Question.countP_registers (mem_asked hq) hreg
  have hslot : d.store.Slot q.key.1 (others + 1) := hcount ▸ hd.slots q.key.1
  cases t with
  | update secret =>
    obtain rfl := Option.some.inj (hq'.symm.trans hq)
    refine ⟨rfl, ?_, fun _ h => h⟩
    simp only [step, Turn.isNews, beq_iff_eq]
    exact Store.generation_update hslot secret
  | remove id =>
    obtain rfl := Option.some.inj (hq'.symm.trans hq)
    refine ⟨rfl, ?_, fun _ h => h⟩
    simp only [step, Turn.isNews, beq_iff_eq]
    exact Store.generation_remove hslot id
  | ask key =>
    rw [question?_ask] at hq'
    split at hq'
    · obtain rfl := Option.some.inj hq'
      cases hreg'
    · obtain rfl := Option.some.inj (hq'.symm.trans hq)
      exact ⟨rfl, rfl, fun _ h => h⟩
  | move k m =>
    cases hk : d.question? k with
    | none =>
      rw [step_move_of_none hk] at hq' ⊢
      obtain rfl := Option.some.inj (hq'.symm.trans hq)
      exact ⟨rfl, rfl, fun _ h => h⟩
    | some p =>
      rw [question?_move hk] at hq'
      simp only [step, hk]
      split at hq'
      · -- its own move touches no registration
        rename_i hn
        subst hn
        obtain rfl := Option.some.inj (hk.symm.trans hq)
        obtain ⟨hkey, hrunning, hforgets⟩ := Question.lasts hreg hq' hreg'
        exact ⟨hkey, Store.generation_congr hrunning _, hforgets⟩
      · -- the move of another question may end a registration, but not the last one
        rename_i hn
        obtain rfl := Option.some.inj (hq'.symm.trans hq)
        obtain ⟨l, r, hasked, _, hothers⟩ := asked_split hk
        rw [hasked] at hd
        exact ⟨rfl, hd.generation_other (p.exchange_move d.store m) (hothers n hn q' hq) hreg,
          fun _ h => h⟩

end Desk

/-! ## A registration through a history -/

/-- Question `n` registered a fetch in its turn after `before`, and the registration is live after all the
turns since. -/
structure HeldSince (n : Nat) (before since : List Turn) : Prop where
  unregistered : (Desk.run before).registers n = false
  registered : ∀ l, l <+: since → (Desk.run (before ++ .move n .advance :: l)).registers n = true

/-- What is true of a registration that question `n`, which has become `q`, holds. -/
structure Held (turns : List Turn) (n : Nat) (q : Question) (before since : List Turn) : Prop where
  history : turns = before ++ .move n .advance :: since
  held : HeldSince n before since
  /-- The secret has the generation of the beginning, and one more for every news since. -/
  generation : (Desk.run turns).store.generation q.key.1 =
    (Desk.run before).store.generation q.key.1 + since.countP (·.isNews q.key.1)
  /-- The question remembers the generation of the beginning as long as it needs it. -/
  remembers : ∀ g ∈ q.phase.generation?, g = (Desk.run before).store.generation q.key.1

namespace HeldSince

variable {n : Nat} {before since before' since' : List Turn} {t : Turn}

theorem concat (h : HeldSince n before since)
    (ht : (Desk.run (before ++ .move n .advance :: (since ++ [t]))).registers n = true) :
    HeldSince n before (since ++ [t]) where
  unregistered := h.unregistered
  registered l hl := by
    rcases List.prefix_concat_iff.1 hl with rfl | hl
    · exact ht
    · exact h.registered l hl

/-- A registration does not begin while it is held. -/
theorem not_again (h : HeldSince n before since) {more : List Turn} (hmore : more <+: since) :
    ¬ HeldSince n (before ++ .move n .advance :: more) since' := by
  intro h'
  have hheld := h.registered more hmore
  rw [h'.unregistered] at hheld
  cases hheld

/-- A registration has one beginning. -/
theorem unique (h : HeldSince n before since) (h' : HeldSince n before' since')
    (hsame : before ++ .move n .advance :: since = before' ++ .move n .advance :: since') :
    before = before' ∧ since = since' := by
  rcases List.append_eq_append_iff.1 hsame with ⟨l, rfl, hl⟩ | ⟨l, rfl, hl⟩
  · cases l with
    | nil => simpa using hl
    | cons t more =>
      obtain ⟨rfl, rfl⟩ := List.cons.inj hl
      exact absurd h' (h.not_again (List.prefix_append _ _))
  · cases l with
    | nil => simpa using hl.symm
    | cons t more =>
      obtain ⟨rfl, rfl⟩ := List.cons.inj hl
      exact absurd h (h'.not_again (List.prefix_append _ _))

end HeldSince

namespace Held

variable {turns before since : List Turn} {n : Nat} {q q' : Question} {t : Turn}

/-- A question that comes to hold a registration has held it since that turn. -/
theorem of_begins (h : (Desk.run turns).registers n = false)
    (hq : (Desk.run (turns ++ [t])).question? n = some q) (hreg : q.phase.isRegistered = true) :
    Held (turns ++ [t]) n q turns [] := by
  have hregisters := (Desk.registers_of_question hq).trans hreg
  rw [Desk.run_concat] at hq
  obtain ⟨rfl, hgeneration, hremembers⟩ := Desk.begins h hq hreg
  have hheld : HeldSince n turns [] := by
    refine ⟨h, ?_⟩
    intro l hl
    rw [List.prefix_nil.1 hl]
    exact hregisters
  refine ⟨rfl, hheld, ?_, ?_⟩
  · show (Desk.run (turns ++ [.move n .advance])).store.generation q.key.1 =
      (Desk.run turns).store.generation q.key.1
    rw [Desk.run_concat, hgeneration]
  · intro g hg
    rw [hremembers] at hg
    exact (Option.mem_some.1 hg).symm

theorem concat (h : Held turns n q before since) (hq : (Desk.run turns).question? n = some q)
    (hreg : q.phase.isRegistered = true) (hq' : (Desk.run (turns ++ [t])).question? n = some q')
    (hreg' : q'.phase.isRegistered = true) : Held (turns ++ [t]) n q' before (since ++ [t]) := by
  have hregisters := (Desk.registers_of_question hq').trans hreg'
  have hhistory : turns ++ [t] = before ++ .move n .advance :: (since ++ [t]) := by
    simp [h.history]
  rw [Desk.run_concat] at hq'
  obtain ⟨hkey, hgeneration, hforgets⟩ := Desk.lasts (Desk.booked_run turns) hq hreg hq' hreg'
  refine ⟨hhistory, h.held.concat (hhistory ▸ hregisters), ?_, ?_⟩
  · rw [Desk.run_concat, hkey, hgeneration, h.generation, List.countP_append, List.countP_singleton,
      Nat.add_assoc]
  · intro g hg
    rw [hkey]
    exact h.remembers g (hforgets g hg)

end Held

/-- Whoever holds a registration has held it since some turn of its own. -/
theorem exists_held (turns : List Turn) {n : Nat} {q : Question}
    (hq : (Desk.run turns).question? n = some q) (hreg : q.phase.isRegistered = true) :
    ∃ before since, Held turns n q before since := by
  -- by the last turn: the registration was held before it, or it began in it
  induction turns using List.reverseRecOn generalizing q with
  | nil => cases hq
  | append_singleton turns t ih =>
    cases hheld : (Desk.run turns).registers n with
    | false => exact ⟨turns, [], .of_begins hheld hq hreg⟩
    | true =>
      obtain ⟨p, hp, hpreg⟩ := (Option.any_eq_true _ _).1 hheld
      obtain ⟨before, since, h⟩ := ih hp hpreg
      exact ⟨before, since ++ [t], h.concat hp hpreg hq hreg⟩

/-! ## Slots and registrations -/

namespace Desk

/-- The slots of a store and the live registrations fit. -/
structure InStep (d : Desk) : Prop where
  /-- A secret has a slot exactly if some live registration names it. -/
  slot_iff : ∀ id, (∃ r, d.store.running.get? id = some r) ↔ ∃ q ∈ d.asked, q.registers id = true
  /-- The slot counts these registrations. -/
  counted : ∀ id r, d.store.running.get? id = some r → r.fetches = d.registrations id
  /-- Whoever ends a registration finds something to count down. -/
  positive : ∀ id r, d.store.running.get? id = some r → 0 < r.fetches
  /-- When every question has its answer, no slot is left. -/
  idle : (∀ q ∈ d.asked, ∃ a, q.phase = .finished a) → d.store.running = .empty

theorem inStep_of_booked {d : Desk} (h : Booked d.store d.asked) : d.InStep where
  slot_iff id := by
    have hslot : d.store.Slot id (d.registrations id) := h.slots id
    rw [← List.countP_pos_iff]
    constructor
    · rintro ⟨r, hr⟩
      exact Nat.pos_of_ne_zero (hslot.fetches_eq hr).1
    · intro hpos
      obtain ⟨n, hn⟩ := Nat.exists_eq_succ_of_ne_zero (Nat.ne_of_gt hpos)
      rw [registrations, hn] at hslot
      obtain ⟨r, hr, _⟩ := hslot.exists_some
      exact ⟨r, hr⟩
  counted id r hr := ((h.slots id).fetches_eq hr).2
  positive id r hr := by
    obtain ⟨hne, heq⟩ := (h.slots id).fetches_eq hr
    rw [heq]
    exact Nat.pos_of_ne_zero hne
  idle hfinished := Dict.ext_get? fun id => by
    have hzero : d.asked.countP (·.registers id) = 0 := by
      rw [List.countP_eq_zero]
      intro q hq
      obtain ⟨a, ha⟩ := hfinished q hq
      simp [Question.registers, ha, Phase.isRegistered]
    have hslot := h.slots id
    rw [hzero] at hslot
    exact hslot.eq_none

/-- A generation counts no more than the news that there was, so sixty-four bits hold it in any history that
can happen. -/
theorem generation_le_news (turns : List Turn) (id : ObjectKey) :
    (run turns).store.generation id ≤ turns.countP (·.isNews id) := by
  cases hslot : (run turns).store.running.get? id with
  | none =>
    rw [Store.generation, hslot]
    exact Nat.zero_le _
  | some r =>
    obtain ⟨q, hmem, hregisters⟩ := ((inStep_of_booked (booked_run turns)).slot_iff id).1 ⟨r, hslot⟩
    obtain ⟨n, hq⟩ := exists_of_mem_asked hmem
    obtain ⟨hreg, rfl⟩ : q.phase.isRegistered = true ∧ q.key.1 = id := by
      simpa [Question.registers] using hregisters
    obtain ⟨before, since, hheld⟩ := exists_held turns hq hreg
    -- the slot goes back to a registration, and what it counted before that was counted in a shorter history
    have hbefore := generation_le_news before q.key.1
    rw [hheld.generation, hheld.history, List.countP_append, List.countP_cons]
    omega
termination_by turns.length
decreasing_by
  rw [hheld.history, List.length_append, List.length_cons]
  omega

/-- What a fetch brought is kept exactly if there was no news of the secret since its registration began. -/
theorem judge_held {turns before since : List Turn} {n : Nat} {q : Question}
    (h : Held turns n q before since) {more g : Nat} {f : Fetched} {v : String}
    (hphase : q.phase = .fetched more g f) (hvalue : f.value q.key = .ok v) :
    q.move (run turns).store .advance =
      if since.any (·.isNews q.key.1) then
        ((run turns).store, some { q with phase := .closing more none })
      else ((run turns).store.track q.key v, some { q with phase := .closing more (some (.ok v)) }) := by
  have hg : g = (run before).store.generation q.key.1 := h.remembers g (by rw [hphase]; rfl)
  have hcurrent : (run turns).store.generation q.key.1 = g ↔ since.any (·.isNews q.key.1) = false := by
    rw [h.generation, ← hg, Nat.add_eq_left, List.countP_eq_zero, List.any_eq_false]
  simp only [Question.move, hphase, Phase.step, Phase.judge, hvalue]
  cases hnews : since.any (·.isNews q.key.1) with
  | false =>
    rw [if_pos (hcurrent.2 hnews)]
    rfl
  | true =>
    have houtdated : (run turns).store.generation q.key.1 ≠ g := by
      rw [Ne, hcurrent, hnews]
      exact Bool.noConfusion
    rw [if_neg houtdated]
    rfl

/-- After every history the slots and the live registrations fit, and a generation counts no more than the
news of its secret. Whoever holds a registration has held it since one turn of its own; the slot of the secret
is not behind the generation of that turn; and a value that was fetched is kept in the next turn exactly if
there was no news of the secret since. -/
theorem registrations_in_step (turns : List Turn) :
    (run turns).InStep ∧
      (∀ id, (run turns).store.generation id ≤ turns.countP (·.isNews id)) ∧
      ∀ n q, (run turns).question? n = some q → q.phase.isRegistered = true →
        ∃ before since, turns = before ++ .move n .advance :: since ∧ HeldSince n before since ∧
          (∀ g ∈ q.phase.generation?, g = (run before).store.generation q.key.1) ∧
          (run before).store.generation q.key.1 ≤ (run turns).store.generation q.key.1 ∧
          ∀ more g f v, q.phase = .fetched more g f → f.value q.key = .ok v →
            q.move (run turns).store .advance =
              if since.any (·.isNews q.key.1) then
                ((run turns).store, some { q with phase := .closing more none })
              else
                ((run turns).store.track q.key v,
                  some { q with phase := .closing more (some (.ok v)) }) := by
  refine ⟨inStep_of_booked (booked_run turns), generation_le_news turns, ?_⟩
  intro n q hq hreg
  obtain ⟨before, since, h⟩ := exists_held turns hq hreg
  have hahead : (run before).store.generation q.key.1 ≤ (run turns).store.generation q.key.1 := by
    rw [h.generation]
    exact Nat.le_add_right _ _
  refine ⟨before, since, h.history, h.held, h.remembers, hahead, ?_⟩
  intro more g f v hphase hvalue
  exact judge_held h hphase hvalue

/-- The key that is asked for in `fetchedAgain`. -/
def tokenKey : ValueKey := (("default", "api"), "token")

/-- A fetch is outdated and ends, another one of the same secret is given up, and the slot goes with it. The fetch
that is made again begins with generation zero, like the outdated one. -/
def fetchedAgain : List Turn :=
  [.ask tokenKey, .move 0 .advance, .update (tokenSecret "new"), .ask tokenKey, .move 1 .advance,
    .move 0 (.arrive (.present (tokenSecret "old"))), .move 0 .advance, .move 0 .advance, .move 1 .cancel,
    .move 0 .advance, .move 0 (.arrive (.present (tokenSecret "new")))]

/-- The question as `fetchedAgain` leaves it. -/
def broughtAgain : Question := ⟨tokenKey, .fetched 1 0 (.present (tokenSecret "new"))⟩

theorem heldSince_again : HeldSince 0 (fetchedAgain.take 9) (fetchedAgain.drop 10) where
  unregistered := by decide +kernel
  registered l hl := by
    rcases List.prefix_cons_iff.1 hl with rfl | ⟨more, rfl, hmore⟩
    · decide +kernel
    · rw [List.prefix_nil.1 hmore]
      decide +kernel

theorem registrations_in_step_again :
    (run fetchedAgain).store.running.get? tokenKey.1 = some ⟨0, 1⟩ ∧
      (run fetchedAgain).question? 0 = some broughtAgain ∧
      broughtAgain.move (run fetchedAgain).store .advance =
        ((run fetchedAgain).store.track tokenKey "new",
          some ⟨tokenKey, .closing 1 (some (.ok "new"))⟩) := by
  have hquestion : (run fetchedAgain).question? 0 = some broughtAgain := by decide +kernel
  have hvalue : (Fetched.present (tokenSecret "new")).value tokenKey = .ok "new" := by decide +kernel
  refine ⟨by decide +kernel, hquestion, ?_⟩
  obtain ⟨before, since, hhistory, hheld, _, _, hjudge⟩ :=
    (registrations_in_step fetchedAgain).2.2 0 broughtAgain hquestion rfl
  have hsplit : fetchedAgain.take 9 ++ .move 0 .advance :: fetchedAgain.drop 10 = fetchedAgain := rfl
  obtain ⟨rfl, rfl⟩ := heldSince_again.unique hheld (hsplit.trans hhistory)
  -- the only news of the secret came before this registration
  have hquiet : (fetchedAgain.drop 10).any (·.isNews tokenKey.1) = false := by decide
  have hkept := hjudge 1 0 _ "new" rfl hvalue
  have hkey : broughtAgain.key = tokenKey := rfl
  rw [hkey, hquiet] at hkept
  exact hkept

end Desk

end ScrapeFleet.Credential
