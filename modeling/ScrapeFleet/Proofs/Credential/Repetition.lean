/-
# ScrapeFleet.Proofs.Credential.Repetition — work that is done a second time

Work that nothing disturbs leaves its store settled for every key that it asked for: the value is kept, or
there is none, and then the fetch that is made in vain every time leaves no trace (`Store.Settled`). A key
stays settled whatever is asked afterwards. So work that is done again right away is answered alike, although
part of the answers now come from elsewhere, and it leaves the store as it is (`Lookup.run_again`). Of the
store nothing is assumed: it may keep values that the source does not have, and other fetches may run.
-/
import ScrapeFleet.Proofs.Credential.Undisturbed

namespace ScrapeFleet.Credential

open Cluster (ObjectKey)

variable {source : ObjectKey → Fetched} {s : Store} {key key' : ValueKey} {id id' : ObjectKey}

namespace Store

/-! ## A fetch that begins and ends -/

/-- The store after a fetch of a secret that nothing disturbs. -/
def passFetch (s : Store) (id : ObjectKey) : Store := (s.beginFetch id).endFetch id

/-- Where a secret has a registration, some fetch of it runs. -/
def Occupied (s : Store) (id : ObjectKey) : Prop := ∀ r ∈ s.running.get? id, r.fetches ≠ 0

/-- A fetch that is over leaves what was registered, and takes only a registration that stood for nothing. -/
theorem running_passFetch (s : Store) (id id' : ObjectKey) :
    (s.passFetch id).running.get? id' =
      if id' = id then (s.running.get? id).filter (·.fetches ≠ 0) else s.running.get? id' := by
  rw [passFetch, running_endFetch]
  by_cases hid : id' = id
  · rw [if_pos hid, if_pos hid, running_beginFetch, if_pos rfl, Option.bind_some]
    cases hr : s.running.get? id with
    | none => rfl
    | some r =>
      have hsame : s.generation id = r.generation := by
        rw [generation, hr]
        rfl
      obtain ⟨generation, fetches⟩ := r
      cases fetches with
      | zero => rfl
      | succ n => simp [Option.filter, hsame]
  · rw [if_neg hid, if_neg hid, running_beginFetch, if_neg hid]

theorem values_passFetch (s : Store) (id : ObjectKey) : (s.passFetch id).values = s.values := by
  unfold passFetch endFetch
  split
  · rfl
  · split <;> rfl

@[simp] theorem get?_passFetch (s : Store) (id : ObjectKey) (key : ValueKey) :
    (s.passFetch id).get? key = s.get? key := by
  rw [get?, values_passFetch, get?]

theorem occupied_passFetch (s : Store) (id : ObjectKey) : (s.passFetch id).Occupied id := by
  intro r hr
  rw [running_passFetch, if_pos rfl] at hr
  simpa using (Option.mem_filter_iff.1 hr).2

theorem Occupied.passFetch (h : s.Occupied id) (id' : ObjectKey) : (s.passFetch id').Occupied id := by
  intro r hr
  rw [running_passFetch] at hr
  by_cases hid : id = id'
  · rw [if_pos hid, ← hid] at hr
    exact h r (Option.mem_filter_iff.1 hr).1
  · rw [if_neg hid] at hr
    exact h r hr

theorem passFetch_eq (h : s.Occupied id) : s.passFetch id = s := by
  have hrunning : (s.passFetch id).running = s.running := by
    refine Dict.ext_get? fun id' => ?_
    rw [running_passFetch]
    by_cases hid : id' = id
    · rw [if_pos hid, hid]
      cases hr : s.running.get? id with
      | none => rfl
      | some r => simp [Option.filter, h r hr]
    · rw [if_neg hid]
  have hvalues : (s.passFetch id).values = s.values := s.values_passFetch id
  calc s.passFetch id
      = ⟨(s.passFetch id).values, (s.passFetch id).running⟩ := rfl
    _ = s := by rw [hvalues, hrunning]

/-! ## One question -/

/-- The store after a question that nothing disturbs, and the answer. -/
def ask (source : ObjectKey → Fetched) (s : Store) (key : ValueKey) : Store × Answer :=
  (Phase.start s key).2.settle source (Phase.start s key).1 key

theorem ask_answer (source : ObjectKey → Fetched) (s : Store) (key : ValueKey) :
    (s.ask source key).2 = s.now source key := (Phase.settle_start source s key).1

theorem now_ask (source : ObjectKey → Fetched) (s : Store) (key : ValueKey) :
    (s.ask source key).1.now source = s.now source := (Phase.settle_start source s key).2

theorem ask_of_kept {v : String} (h : s.get? key = some v) : s.ask source key = (s, .ok v) := by
  simp only [ask, Phase.start, fetchAttempts, Phase.look, h, Phase.settle]

/-- A value that is not kept is fetched, and kept if it is there. -/
theorem ask_of_unknown (h : s.get? key = none) :
    s.ask source key =
      match (source key.1).value key with
      | .error e => (s.passFetch key.1, .error e)
      | .ok v => ((s.track key v).passFetch key.1, .ok v) := by
  have hgeneration : (s.beginFetch key.1).generation key.1 = s.generation key.1 :=
    generation_beginFetch s key.1 key.1
  simp only [ask, Phase.start, fetchAttempts, Phase.look, h]
  rw [Phase.settle, Phase.settle, Phase.judge]
  cases (source key.1).value key with
  | error e =>
    simp only [Phase.settle, Phase.close]
    rfl
  | ok v =>
    simp only [if_pos hgeneration, Phase.settle, Phase.close]
    rfl

/-- A question for the key finds the store as it will leave it: the value is kept, or there is none and
asking for it leaves no trace. -/
def Settled (source : ObjectKey → Fetched) (s : Store) (key : ValueKey) : Prop :=
  (∃ v, s.get? key = some v) ∨ (∃ e, (source key.1).value key = .error e) ∧ s.Occupied key.1

theorem settled_ask (source : ObjectKey → Fetched) (s : Store) (key : ValueKey) :
    (s.ask source key).1.Settled source key := by
  cases hkept : s.get? key with
  | some v =>
    rw [ask_of_kept hkept]
    exact .inl ⟨v, hkept⟩
  | none =>
    rw [ask_of_unknown hkept]
    cases hvalue : (source key.1).value key with
    | error e => exact .inr ⟨⟨e, hvalue⟩, s.occupied_passFetch key.1⟩
    | ok v =>
      refine .inl ⟨v, ?_⟩
      rw [get?_passFetch, get?_track, if_pos rfl]

/-- What is settled stays settled. -/
theorem Settled.ask (h : s.Settled source key) (key' : ValueKey) :
    (s.ask source key').1.Settled source key := by
  cases hkept : s.get? key' with
  | some v =>
    rw [ask_of_kept hkept]
    exact h
  | none =>
    rw [ask_of_unknown hkept]
    cases (source key'.1).value key' with
    | error e =>
      rcases h with ⟨v, hv⟩ | ⟨hvalue, hoccupied⟩
      · exact .inl ⟨v, by rw [get?_passFetch, hv]⟩
      · exact .inr ⟨hvalue, hoccupied.passFetch key'.1⟩
    | ok v' =>
      rcases h with ⟨v, hv⟩ | ⟨hvalue, hoccupied⟩
      · have hother : key ≠ key' := by
          rintro rfl
          rw [hkept] at hv
          cases hv
        exact .inl ⟨v, by rw [get?_passFetch, get?_track, if_neg hother, hv]⟩
      · -- keeping a value touches no registration
        have htracked : (s.track key' v').Occupied key.1 := hoccupied
        exact .inr ⟨hvalue, htracked.passFetch key'.1⟩

theorem Settled.ask_self (h : s.Settled source key) : (s.ask source key).1 = s := by
  cases hkept : s.get? key with
  | some v => rw [ask_of_kept hkept]
  | none =>
    rw [ask_of_unknown hkept]
    rcases h with ⟨v, hv⟩ | ⟨⟨e, hvalue⟩, hoccupied⟩
    · rw [hkept] at hv
      cases hv
    · rw [hvalue]
      exact passFetch_eq hoccupied

end Store

/-! ## Work -/

namespace Lookup

variable {α : Type}

theorem settled_run (work : Lookup α) (h : s.Settled source key) :
    (work.run source s).1.Settled source key := by
  induction work generalizing s with
  | done a => exact h
  | ask ns ref next ih => exact ih _ (h.ask (valueKey ns ref))

/-- Answers stay what they are while nothing else happens. -/
theorem now_run (work : Lookup α) (source : ObjectKey → Fetched) (s : Store) :
    (work.run source s).1.now source = s.now source := by
  induction work generalizing s with
  | done a => rfl
  | ask ns ref next ih => exact (ih _ _).trans (s.now_ask source (valueKey ns ref))

/-- Work that is done again right away comes to the same, and the store stays as it is. -/
theorem run_again (work : Lookup α) (source : ObjectKey → Fetched) (s : Store) :
    work.run source (work.run source s).1 = work.run source s := by
  have hstore : (work.run source (work.run source s).1).1 = (work.run source s).1 := by
    induction work generalizing s with
    | done a => rfl
    | ask ns ref next ih =>
      let key := valueKey ns ref
      let rest := next (s.ask source key).2
      let final := (rest.run source (s.ask source key).1).1
      -- the question is answered as before, and the store is settled for its key
      have hstay : (final.ask source key).1 = final :=
        Store.Settled.ask_self (settled_run rest (s.settled_ask source key))
      have hanswer : (final.ask source key).2 = (s.ask source key).2 := by
        rw [Store.ask_answer, Store.ask_answer, now_run, Store.now_ask]
      calc ((ask ns ref next).run source final).1
          = ((next (final.ask source key).2).run source (final.ask source key).1).1 := rfl
        _ = (rest.run source final).1 := by rw [hanswer, hstay]
        _ = final := ih _ _
  refine Prod.ext hstore ?_
  rw [run_eq_answeredBy, run_eq_answeredBy, now_run]

end Lookup

end ScrapeFleet.Credential
