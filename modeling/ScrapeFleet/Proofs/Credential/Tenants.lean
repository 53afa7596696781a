/-
# ScrapeFleet.Proofs.Credential.Tenants — what secrets have to do with each other

One store serves all namespaces. What can be seen of it at some secrets is the values that are kept of them and
their registrations (`Store.SameAt`). Every operation is about one secret: elsewhere it changes nothing, and
what it does there depends on nothing else. Both are said once for each operation, and the rest follows for
whole histories: a history with any secrets in it looks, at some of them, like the part of it that is about
these (`Situation.agree_run`).

Work that asks for the secrets of one namespace only (`Lookup.AsksOnly`) takes part in such a history as one
of its parties, and what it comes to is among the things that are seen of its namespace.
-/
import Mathlib.Logic.Function.Basic
import ScrapeFleet.Proofs.Credential.Undisturbed

namespace ScrapeFleet.Credential

open Cluster (ObjectKey Secret)
open Monitor (SecretKey)

/-! ## Parts of a store -/

/-- Two stores have the same values and registrations at some secrets. -/
structure Store.SameAt (p : ObjectKey → Prop) (s s' : Store) : Prop where
  kept : ∀ key : ValueKey, p key.1 → s.get? key = s'.get? key
  running : ∀ id, p id → s.running.get? id = s'.running.get? id

/-- What became of a store is what it was at all secrets but one. -/
abbrev Store.Spares (id : ObjectKey) (s s' : Store) : Prop := Store.SameAt (· ≠ id) s' s

namespace Store.SameAt

variable {p q : ObjectKey → Prop} {s s' s'' t t' : Store} {id : ObjectKey}

theorem refl (p : ObjectKey → Prop) (s : Store) : SameAt p s s := ⟨fun _ _ => rfl, fun _ _ => rfl⟩

theorem symm (h : SameAt p s s') : SameAt p s' s :=
  ⟨fun key hkey => (h.kept key hkey).symm, fun id hid => (h.running id hid).symm⟩

theorem trans (h : SameAt p s s') (h' : SameAt p s' s'') : SameAt p s s'' :=
  ⟨fun key hkey => (h.kept key hkey).trans (h'.kept key hkey),
    fun id hid => (h.running id hid).trans (h'.running id hid)⟩

theorem mono (h : SameAt p s s') (hpq : ∀ id, q id → p id) : SameAt q s s' :=
  ⟨fun key hkey => h.kept key (hpq _ hkey), fun id hid => h.running id (hpq _ hid)⟩

theorem generation (h : SameAt p s s') (hid : p id) : s.generation id = s'.generation id := by
  rw [Store.generation, h.running id hid, Store.generation]

/-! What each operation does at the secrets that two stores have in common. -/

theorem beginFetch (h : SameAt p s s') (id : ObjectKey) : SameAt p (s.beginFetch id) (s'.beginFetch id) where
  kept := h.kept
  running id' hid' := by
    rw [running_beginFetch, running_beginFetch]
    by_cases hid : id' = id
    · subst hid
      rw [if_pos rfl, if_pos rfl, h.generation hid', h.running id' hid']
    · rw [if_neg hid, if_neg hid, h.running id' hid']

theorem endFetch (h : SameAt p s s') (id : ObjectKey) : SameAt p (s.endFetch id) (s'.endFetch id) where
  kept key hkey := by
    rw [get?_endFetch, get?_endFetch, h.kept key hkey]
  running id' hid' := by
    rw [running_endFetch, running_endFetch]
    by_cases hid : id' = id
    · subst hid
      rw [if_pos rfl, if_pos rfl, h.running id' hid']
    · rw [if_neg hid, if_neg hid, h.running id' hid']

theorem outdate (h : SameAt p s s') (id : ObjectKey) : SameAt p (s.outdate id) (s'.outdate id) where
  kept key hkey := by
    rw [get?_outdate, get?_outdate, h.kept key hkey]
  running id' hid' := by
    rw [running_outdate, running_outdate]
    by_cases hid : id' = id
    · subst hid
      rw [if_pos rfl, if_pos rfl, h.running id' hid']
    · rw [if_neg hid, if_neg hid, h.running id' hid']

theorem track (h : SameAt p s s') (key : ValueKey) (v : String) : SameAt p (s.track key v) (s'.track key v) where
  kept key' hkey' := by
    rw [get?_track, get?_track, h.kept key' hkey']
  running := h.running

theorem update (h : SameAt p s s') (secret : Secret) : SameAt p (s.update secret).1 (s'.update secret).1 := by
  cases hid : secret.id? with
  | none =>
    rw [update_of_id?_eq_none s hid, update_of_id?_eq_none s' hid]
    exact h
  | some id =>
    refine ⟨fun key hkey => ?_, fun id' hid' => ?_⟩
    · rw [get?_update s hid, get?_update s' hid, h.kept key hkey]
    · rw [running_update s hid, running_update s' hid]
      exact (h.outdate id).running id' hid'

theorem remove (h : SameAt p s s') (id : ObjectKey) : SameAt p (s.remove id).1 (s'.remove id).1 where
  kept key hkey := by
    rw [get?_remove, get?_remove, h.kept key hkey]
  running := (h.outdate id).running

end Store.SameAt

namespace Store

variable (s : Store) (id : ObjectKey)

theorem spares_beginFetch : s.Spares id (s.beginFetch id) where
  kept _ _ := rfl
  running id' hid' := by rw [running_beginFetch, if_neg hid']

theorem spares_endFetch : s.Spares id (s.endFetch id) where
  kept key _ := get?_endFetch s id key
  running id' hid' := by rw [running_endFetch, if_neg hid']

theorem spares_outdate : s.Spares id (s.outdate id) where
  kept key _ := get?_outdate s id key
  running id' hid' := by rw [running_outdate, if_neg hid']

theorem spares_track (key : ValueKey) (v : String) : s.Spares key.1 (s.track key v) where
  kept key' hkey' := by
    have hne : key' ≠ key := fun h => hkey' (congrArg Prod.fst h)
    rw [get?_track, if_neg hne]
  running _ _ := rfl

theorem spares_update {secret : Secret} {id : ObjectKey} (h : secret.id? = some id) :
    s.Spares id (s.update secret).1 where
  kept key hkey := by rw [get?_update s h, if_neg hkey]
  running id' hid' := by
    rw [running_update s h]
    exact (s.spares_outdate id).running id' hid'

theorem spares_remove : s.Spares id (s.remove id).1 where
  kept key hkey := by rw [get?_remove, if_neg hkey]
  running := (s.spares_outdate id).running

end Store

/-! ## Questions -/

namespace Phase

variable {p : ObjectKey → Prop} {s s' : Store} {key : ValueKey}

/-- A question sees and changes what is its own secret's, so it takes the same step in both stores. -/
theorem step_same (h : s.SameAt p s') (hkey : p key.1) (phase : Phase) :
    (phase.step s key).1.SameAt p (phase.step s' key).1 ∧ (phase.step s key).2 = (phase.step s' key).2 := by
  cases phase with
  | looking attempts =>
    cases attempts with
    | zero => exact ⟨h, rfl⟩
    | succ more =>
      simp only [step, look, ← h.kept key hkey, ← h.generation hkey]
      cases s.get? key with
      | some v => exact ⟨h, rfl⟩
      | none => exact ⟨h.beginFetch key.1, rfl⟩
  | fetched more generation f =>
    simp only [step, judge, ← h.generation hkey]
    cases f.value key with
    | error e => exact ⟨h, rfl⟩
    | ok v =>
      by_cases hcurrent : s.generation key.1 = generation
      · simp only [if_pos hcurrent]
        exact ⟨h.track key v, trivial⟩
      · simp only [if_neg hcurrent]
        exact ⟨h, trivial⟩
  | closing more answer => exact ⟨h.endFetch key.1, rfl⟩
  | fetching more generation => exact ⟨h, rfl⟩
  | lastFetch => exact ⟨h, rfl⟩
  | finished answer => exact ⟨h, rfl⟩

theorem spares_step (s : Store) (key : ValueKey) (phase : Phase) : s.Spares key.1 (phase.step s key).1 := by
  cases phase with
  | looking attempts =>
    cases attempts with
    | zero => exact .refl _ s
    | succ more =>
      simp only [step, look]
      cases s.get? key with
      | some v => exact .refl _ s
      | none => exact s.spares_beginFetch key.1
  | fetched more generation f =>
    simp only [step, judge]
    cases f.value key with
    | error e => exact .refl _ s
    | ok v =>
      by_cases hcurrent : s.generation key.1 = generation
      · simp only [if_pos hcurrent]
        exact s.spares_track key v
      · simp only [if_neg hcurrent]
        exact .refl _ s
  | closing more answer => exact s.spares_endFetch key.1
  | fetching more generation => exact .refl _ s
  | lastFetch => exact .refl _ s
  | finished answer => exact .refl _ s

theorem cancel_same (h : s.SameAt p s') (key : ValueKey) (phase : Phase) :
    (phase.cancel s key).SameAt p (phase.cancel s' key) := by
  cases phase with
  | fetching more generation => exact h.endFetch key.1
  | fetched more generation f => exact h.endFetch key.1
  | closing more answer => exact h.endFetch key.1
  | looking attempts => exact h
  | lastFetch => exact h
  | finished answer => exact h

theorem spares_cancel (s : Store) (key : ValueKey) (phase : Phase) :
    s.Spares key.1 (phase.cancel s key) := by
  cases phase with
  | fetching more generation => exact s.spares_endFetch key.1
  | fetched more generation f => exact s.spares_endFetch key.1
  | closing more answer => exact s.spares_endFetch key.1
  | looking attempts => exact .refl _ s
  | lastFetch => exact .refl _ s
  | finished answer => exact .refl _ s

/-- A question that nothing disturbs leaves other secrets alone. -/
theorem spares_settle (source : ObjectKey → Fetched) (s : Store) (key : ValueKey) (phase : Phase) :
    s.Spares key.1 (phase.settle source s key).1 := by
  fun_induction settle source s key phase with
  | case1 s a => exact .refl _ s
  | case2 s => exact .refl _ s
  | case3 s attempts next ih => exact ih.trans (spares_step s key (.looking attempts))
  | case4 s more generation ih => exact ih
  | case5 s more generation f next ih => exact ih.trans (spares_step s key (.fetched more generation f))
  | case6 s more answer next ih => exact ih.trans (spares_step s key (.closing more answer))

end Phase

/-! ## Work for one namespace -/

namespace Lookup

variable {α β : Type} {ns : String}

/-- Whatever the answers are, the work asks for secrets of the namespace only. -/
inductive AsksOnly (ns : String) : Lookup α → Prop where
  | done (a : α) : AsksOnly ns (done a)
  | ask {ref : SecretKey} {next : Answer → Lookup α} (h : ∀ answer, AsksOnly ns (next answer)) :
      AsksOnly ns (ask ns ref next)

theorem asksOnly_pure (a : α) : (pure a : Lookup α).AsksOnly ns := .done a

theorem AsksOnly.bind {work : Lookup α} {f : α → Lookup β} (h : work.AsksOnly ns)
    (hf : ∀ a, (f a).AsksOnly ns) : (work >>= f).AsksOnly ns := by
  induction h with
  | done a => exact hf a
  | ask _ ih => exact .ask ih

/-- Tables that agree on the secrets of the namespace bring the work to one result. -/
theorem AsksOnly.answeredBy_congr {work : Lookup α} (h : work.AsksOnly ns) {table table' : ValueKey → Answer}
    (htables : ∀ key : ValueKey, key.1.1 = ns → table key = table' key) :
    work.answeredBy table = work.answeredBy table' := by
  induction h with
  | done a => rfl
  | @ask ref next _ ih =>
    rw [answeredBy_ask, answeredBy_ask, htables (valueKey ns ref) rfl]
    exact ih _

/-- A question by itself leaves other secrets alone, whatever becomes of it. -/
theorem spares_value (source : ObjectKey → Fetched) (s : Store) (ns : String) (ref : SecretKey) :
    s.Spares (ns, ref.name) (Lookup.run source (value ns ref).run s).1 :=
  (Phase.spares_settle source _ (valueKey ns ref) _).trans
    (Phase.spares_step s (valueKey ns ref) (.looking fetchAttempts))

end Lookup

/-- The next step of a question: a fetch brings what the source has. -/
def Phase.onward (source : ObjectKey → Fetched) (s : Store) (key : ValueKey) (phase : Phase) : Store × Phase :=
  match phase with
  | .fetching _ _ | .lastFetch => (s, phase.arrive key (source key.1))
  | phase => phase.step s key

theorem Phase.onward_same {p : ObjectKey → Prop} {source source' : ObjectKey → Fetched} {s s' : Store}
    {key : ValueKey} (h : s.SameAt p s') (hkey : p key.1) (hsource : source key.1 = source' key.1)
    (phase : Phase) :
    (phase.onward source s key).1.SameAt p (phase.onward source' s' key).1 ∧
      (phase.onward source s key).2 = (phase.onward source' s' key).2 := by
  cases phase with
  | fetching more generation => exact ⟨h, congrArg (Phase.fetched more generation) hsource⟩
  | lastFetch =>
    refine ⟨h, ?_⟩
    show Phase.finished ((source key.1).value key) = Phase.finished ((source' key.1).value key)
    rw [hsource]
  | looking attempts => exact step_same h hkey _
  | fetched more generation f => exact step_same h hkey _
  | closing more answer => exact step_same h hkey _
  | finished answer => exact step_same h hkey _

theorem Phase.spares_onward (source : ObjectKey → Fetched) (s : Store) (key : ValueKey) (phase : Phase) :
    s.Spares key.1 (phase.onward source s key).1 := by
  cases phase with
  | fetching more generation => exact .refl _ s
  | lastFetch => exact .refl _ s
  | looking attempts => exact spares_step s key _
  | fetched more generation f => exact spares_step s key _
  | closing more answer => exact spares_step s key _
  | finished answer => exact spares_step s key _

/-- How far work has come that asks one question after the other. -/
inductive Working (α : Type) where
  | ready (work : Lookup α)
  | asking (key : ValueKey) (next : Answer → Lookup α) (phase : Phase)

namespace Working

variable {α : Type} {ns : String}

/-- The next step of the work. -/
def step (source : ObjectKey → Fetched) (s : Store) : Working α → Store × Working α
  | .ready (.done a) => (s, .ready (.done a))
  | .ready (.ask ns ref next) => (s, .asking (valueKey ns ref) next (.looking fetchAttempts))
  | .asking _ next (.finished answer) => (s, .ready (next answer))
  | .asking key next phase =>
    let onward := phase.onward source s key
    (onward.1, .asking key next onward.2)

/-- What is asked now and what is left of the work are for the namespace. -/
def AsksOnly (ns : String) : Working α → Prop
  | .ready work => work.AsksOnly ns
  | .asking key next _ => key.1.1 = ns ∧ ∀ answer, (next answer).AsksOnly ns

/-- The work sees and changes what is its namespace's, so it takes the same step in both situations. -/
theorem step_same {source source' : ObjectKey → Fetched} {s s' : Store} (h : s.SameAt (·.1 = ns) s')
    (hsource : ∀ id : ObjectKey, id.1 = ns → source id = source' id) {work : Working α}
    (hwork : work.AsksOnly ns) :
    (work.step source s).1.SameAt (·.1 = ns) (work.step source' s').1 ∧
      (work.step source s).2 = (work.step source' s').2 := by
  cases work with
  | ready work => cases work <;> exact ⟨h, rfl⟩
  | asking key next phase =>
    obtain ⟨hstore, hphase⟩ := Phase.onward_same h hwork.1 (hsource _ hwork.1) phase
    cases phase <;> first
      | exact ⟨h, rfl⟩
      | exact ⟨hstore, congrArg (Working.asking key next) hphase⟩

theorem AsksOnly.step {source : ObjectKey → Fetched} {s : Store} {work : Working α} (h : work.AsksOnly ns) :
    (work.step source s).2.AsksOnly ns := by
  cases work with
  | ready work =>
    cases h with
    | done a => exact .done a
    | ask hnext => exact ⟨rfl, hnext⟩
  | asking key next phase =>
    cases phase <;> first
      | exact h.2 _
      | exact h

end Working

/-! ## Histories -/

/-- A source, a store, the questions that are being answered, and work that asks questions of its own.
Questions for one key are told apart by numbers. -/
structure Situation (α : Type) where
  source : ObjectKey → Fetched
  store : Store := {}
  questions : ValueKey × Nat → Option Phase := fun _ => none
  work : Working α

/-- What may happen next. -/
inductive Event where
  /-- The source has something else for a secret. -/
  | supply (id : ObjectKey) (f : Fetched)
  | update (secret : Secret)
  | remove (id : ObjectKey)
  | ask (key : ValueKey) (n : Nat)
  | advance (key : ValueKey) (n : Nat)
  | cancel (key : ValueKey) (n : Nat)
  /-- The work takes its next step. -/
  | work
deriving DecidableEq, Repr, Inhabited

namespace Event

/-- The secret that the event is about. -/
def secret? : Event → Option ObjectKey
  | supply id _ | remove id => some id
  | update secret => secret.id?
  | ask key _ | advance key _ | cancel key _ => some key.1
  | work => none

/-- The event is about a secret of the namespace, or a step of the work that asks for them. -/
def concerns (ns : String) : Event → Bool
  | work => true
  | e => e.secret?.any (·.1 == ns)

end Event

namespace Situation

variable {α : Type} {ns : String} {w w' w'' : Situation α}

/-- The situation behind an event. -/
def step (w : Situation α) : Event → Situation α
  | .supply id f => { w with source := Function.update w.source id f }
  | .update secret => { w with store := (w.store.update secret).1 }
  | .remove id => { w with store := (w.store.remove id).1 }
  | .ask key n =>
    match w.questions (key, n) with
    | some _ => w
    | none => { w with questions := Function.update w.questions (key, n) (some (.looking fetchAttempts)) }
  | .advance key n =>
    match w.questions (key, n) with
    | none => w
    | some phase =>
      let next := phase.onward w.source w.store key
      { w with store := next.1, questions := Function.update w.questions (key, n) (some next.2) }
  | .cancel key n =>
    match w.questions (key, n) with
    | none => w
    | some phase =>
      { w with
        store := phase.cancel w.store key
        questions := Function.update w.questions (key, n) none }
  | .work =>
    let next := w.work.step w.source w.store
    { w with store := next.1, work := next.2 }

/-- The situation behind a history. -/
def run (w : Situation α) (h : List Event) : Situation α := h.foldl step w

/-- Two situations are the same at the secrets of a namespace, and the work has come as far. -/
structure Agree (ns : String) (w w' : Situation α) : Prop where
  source : ∀ id : ObjectKey, id.1 = ns → w.source id = w'.source id
  store : w.store.SameAt (·.1 = ns) w'.store
  questions : ∀ q : ValueKey × Nat, q.1.1.1 = ns → w.questions q = w'.questions q
  work : w.work = w'.work

theorem Agree.refl (ns : String) (w : Situation α) : Agree ns w w :=
  ⟨fun _ _ => rfl, .refl _ _, fun _ _ => rfl, rfl⟩

theorem Agree.symm (h : Agree ns w w') : Agree ns w' w :=
  ⟨fun id hid => (h.source id hid).symm, h.store.symm, fun q hq => (h.questions q hq).symm, h.work.symm⟩

theorem Agree.trans (h : Agree ns w w') (h' : Agree ns w' w'') : Agree ns w w'' :=
  ⟨fun id hid => (h.source id hid).trans (h'.source id hid), h.store.trans h'.store,
    fun q hq => (h.questions q hq).trans (h'.questions q hq), h.work.trans h'.work⟩

/-! ### One event -/

/-- Nothing has changed but at one secret, and the work has not come further. -/
structure Spares (id : ObjectKey) (w w' : Situation α) : Prop where
  source : ∀ id', id' ≠ id → w'.source id' = w.source id'
  store : w.store.Spares id w'.store
  questions : ∀ q : ValueKey × Nat, q.1.1 ≠ id → w'.questions q = w.questions q
  work : w'.work = w.work

theorem Spares.refl (id : ObjectKey) (w : Situation α) : Spares id w w :=
  ⟨fun _ _ => rfl, .refl _ _, fun _ _ => rfl, rfl⟩

/-- An event changes nothing but at its secret. -/
theorem spares_step (w : Situation α) {e : Event} {id : ObjectKey} (he : e.secret? = some id) :
    w.Spares id (w.step e) := by
  have hquestions : ∀ (key : ValueKey) (n : Nat) (phase : Option Phase) (q : ValueKey × Nat), q.1.1 ≠ key.1 →
      Function.update w.questions (key, n) phase q = w.questions q := by
    intro key n phase q hq
    have hne : q ≠ (key, n) := fun h => hq (congrArg (·.1.1) h)
    exact Function.update_of_ne hne _ _
  cases e with
  | supply id' f =>
    obtain rfl := Option.some.inj he
    exact ⟨fun _ hid => Function.update_of_ne hid _ _, .refl _ _, fun _ _ => rfl, rfl⟩
  | update secret => exact ⟨fun _ _ => rfl, w.store.spares_update he, fun _ _ => rfl, rfl⟩
  | remove id' =>
    obtain rfl := Option.some.inj he
    exact ⟨fun _ _ => rfl, w.store.spares_remove _, fun _ _ => rfl, rfl⟩
  | ask key n =>
    obtain rfl := Option.some.inj he
    simp only [step]
    split
    · exact .refl _ w
    · exact ⟨fun _ _ => rfl, .refl _ _, hquestions key n _, rfl⟩
  | advance key n =>
    obtain rfl := Option.some.inj he
    simp only [step]
    split
    · exact .refl _ w
    · exact ⟨fun _ _ => rfl, Phase.spares_onward _ _ key _, hquestions key n _, rfl⟩
  | cancel key n =>
    obtain rfl := Option.some.inj he
    simp only [step]
    split
    · exact .refl _ w
    · exact ⟨fun _ _ => rfl, Phase.spares_cancel _ key _, hquestions key n _, rfl⟩
  | work => cases he

/-- What happens to other namespaces is not seen. -/
theorem agree_of_unconcerned (w : Situation α) {e : Event} (he : e.concerns ns = false) :
    Agree ns (w.step e) w := by
  cases hid : e.secret? with
  | some id =>
    have hother : id.1 ≠ ns := by
      cases e <;> simp_all [Event.concerns, Event.secret?]
    have hspares := w.spares_step hid
    have hne : ∀ id' : ObjectKey, id'.1 = ns → id' ≠ id := fun id' hid' h => hother (h ▸ hid')
    exact ⟨fun id' hid' => hspares.source id' (hne id' hid'), hspares.store.mono hne,
      fun q hq => hspares.questions q (hne _ hq), hspares.work⟩
  | none =>
    cases e with
    | update secret =>
      -- news without a namespace or a name is of no secret
      have hsame : w.step (.update secret) = w := by
        simp only [step, Store.update_of_id?_eq_none _ hid]
      rw [hsame]
      exact .refl ns w
    | work => cases he
    | supply => cases hid
    | remove => cases hid
    | ask => cases hid
    | advance => cases hid
    | cancel => cases hid

/-- What happens to the namespace is the same in both situations. -/
theorem Agree.step (h : Agree ns w w') (hwork : w.work.AsksOnly ns) {e : Event}
    (he : e.concerns ns = true) : Agree ns (w.step e) (w'.step e) := by
  have hquestions : ∀ (key : ValueKey) (n : Nat) (phase : Option Phase) (q : ValueKey × Nat), q.1.1.1 = ns →
      Function.update w.questions (key, n) phase q = Function.update w'.questions (key, n) phase q := by
    intro key n phase q hq
    by_cases hkey : q = (key, n)
    · rw [hkey, Function.update_self, Function.update_self]
    · rw [Function.update_of_ne hkey, Function.update_of_ne hkey, h.questions q hq]
  cases e with
  | supply id f =>
    refine ⟨fun id' hid' => ?_, h.store, h.questions, h.work⟩
    by_cases hid : id' = id
    · subst hid
      simp [Situation.step]
    · simp only [Situation.step, Function.update_of_ne hid]
      exact h.source id' hid'
  | update secret => exact ⟨h.source, h.store.update secret, h.questions, h.work⟩
  | remove id => exact ⟨h.source, h.store.remove id, h.questions, h.work⟩
  | ask key n =>
    have hkey : key.1.1 = ns := by simpa [Event.concerns, Event.secret?] using he
    simp only [Situation.step, ← h.questions (key, n) hkey]
    split
    · exact h
    · exact ⟨h.source, h.store, hquestions key n _, h.work⟩
  | advance key n =>
    have hkey : key.1.1 = ns := by simpa [Event.concerns, Event.secret?] using he
    simp only [Situation.step, ← h.questions (key, n) hkey]
    split
    · exact h
    · rename_i phase _
      obtain ⟨hstore, hphase⟩ := Phase.onward_same h.store hkey (h.source _ hkey) phase
      rw [← hphase]
      exact ⟨h.source, hstore, hquestions key n _, h.work⟩
  | cancel key n =>
    have hkey : key.1.1 = ns := by simpa [Event.concerns, Event.secret?] using he
    simp only [Situation.step, ← h.questions (key, n) hkey]
    split
    · exact h
    · exact ⟨h.source, Phase.cancel_same h.store key _, hquestions key n _, h.work⟩
  | work =>
    obtain ⟨hstore, hnext⟩ := Working.step_same h.store h.source hwork
    exact ⟨h.source, by simpa only [Situation.step, ← h.work] using hstore, h.questions,
      by simpa only [Situation.step, ← h.work] using hnext⟩

theorem asksOnly_step (hwork : w.work.AsksOnly ns) (e : Event) : (w.step e).work.AsksOnly ns := by
  cases hid : e.secret? with
  | some id =>
    rw [(w.spares_step hid).work]
    exact hwork
  | none =>
    cases e with
    | update secret => exact hwork
    | work => exact hwork.step
    | supply => cases hid
    | remove => cases hid
    | ask => cases hid
    | advance => cases hid
    | cancel => cases hid

/-! ### A whole history -/

/-- Of a history, the part that concerns a namespace is all that is seen of it there. -/
theorem agree_run_filter (h : Agree ns w w') (hwork : w.work.AsksOnly ns) (hist : List Event) :
    Agree ns (w.run hist) (w'.run (hist.filter (·.concerns ns))) := by
  induction hist generalizing w w' with
  | nil => exact h
  | cons e hist ih =>
    by_cases he : e.concerns ns = true
    · rw [List.filter_cons_of_pos he]
      exact ih (h.step hwork he) (asksOnly_step hwork e)
    · -- the event is left out on one side and changes nothing that is seen on the other
      rw [List.filter_cons_of_neg he]
      have hskip : Agree ns (w.step e) w := w.agree_of_unconcerned (by simpa using he)
      exact ih (hskip.trans h) (asksOnly_step hwork e)

/-- Histories that do the same to a namespace keep situations the same there. -/
theorem agree_run (h : Agree ns w w') (hwork : w.work.AsksOnly ns) {hist hist' : List Event}
    (hsame : hist.filter (·.concerns ns) = hist'.filter (·.concerns ns)) :
    Agree ns (w.run hist) (w'.run hist') := by
  -- both runs look like the part of their histories that they have in common
  have hwork' : w'.work.AsksOnly ns := h.work ▸ hwork
  have hleft := agree_run_filter h hwork hist
  have hright := agree_run_filter (.refl ns w') hwork' hist'
  rw [hsame] at hleft
  exact hleft.trans hright.symm

/-- What work for the namespace comes to at this moment is the same in both situations. -/
theorem Agree.run_work (h : Agree ns w w') {β : Type} {work : Lookup β} (hwork : work.AsksOnly ns) :
    (work.run w.source w.store).2 = (work.run w'.source w'.store).2 := by
  rw [Lookup.run_eq_answeredBy, Lookup.run_eq_answeredBy]
  refine hwork.answeredBy_congr fun key hkey => ?_
  rw [Store.now, h.store.kept key hkey, h.source _ hkey, Store.now]

end Situation

end ScrapeFleet.Credential
