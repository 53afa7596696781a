/-
# ScrapeFleet.Proofs.Credential.Undisturbed — work that nothing disturbs

While nothing else happens, a question is answered from the store if the store has the key, and from the
source otherwise; that is one table (`Store.now`), and keeping a value that was just brought does not change
it. So work that asks any number of questions comes to what it comes to when the table of its start has
all the answers (`Lookup.run_eq_answeredBy`).
-/
import ScrapeFleet.Proofs.Credential.Store
import ScrapeFleet.Proofs.Credential.Yields

namespace ScrapeFleet.Credential

open Cluster (ObjectKey)
open Monitor (SecretKey)

/-- The key that a reference from a namespace is to. -/
def valueKey (ns : String) (ref : SecretKey) : ValueKey := ((ns, ref.name), ref.key)

/-- The result if every question gets the answer that a table has for its key. -/
def Lookup.answeredBy {α : Type} (table : ValueKey → Answer) (work : Lookup α) : α :=
  work.answered fun ns ref => table (valueKey ns ref)

@[simp] theorem Lookup.answeredBy_done {α : Type} (table : ValueKey → Answer) (a : α) :
    (done a).answeredBy table = a := rfl

@[simp] theorem Lookup.answeredBy_ask {α : Type} (table : ValueKey → Answer) (ns : String) (ref : SecretKey)
    (next : Answer → Lookup α) :
    (ask ns ref next).answeredBy table = (next (table (valueKey ns ref))).answeredBy table := rfl

theorem Lookup.answeredBy_bind {α β : Type} (table : ValueKey → Answer) (work : Lookup α) (f : α → Lookup β) :
    (work >>= f).answeredBy table = (f (work.answeredBy table)).answeredBy table :=
  answered_bind _ work f

/-- The answer for a key at this moment: what is kept, and else what the source has. -/
def Store.now (source : ObjectKey → Fetched) (s : Store) (key : ValueKey) : Answer :=
  match s.get? key with
  | some v => .ok v
  | none => (source key.1).value key

section

variable {source : ObjectKey → Fetched} {s : Store} {key : ValueKey}

theorem Store.now_of_kept {v : String} (h : s.get? key = some v) : s.now source key = .ok v := by
  rw [now, h]

theorem Store.now_of_unknown (h : s.get? key = none) : s.now source key = (source key.1).value key := by
  rw [now, h]

/-- Stores that keep the same values give the same answers. -/
theorem Store.now_congr {s' : Store} (h : ∀ key, s'.get? key = s.get? key) :
    s'.now source = s.now source := by
  funext key
  rw [now, h, now]

/-- A fetch that nothing outdates brings what the source has, and what it brings is kept. -/
theorem Phase.settle_fetching (h : s.get? key = none) (more : Nat) :
    ((Phase.fetching more (s.generation key.1)).settle source (s.beginFetch key.1) key).2 =
        s.now source key ∧
      ((Phase.fetching more (s.generation key.1)).settle source (s.beginFetch key.1) key).1.now source =
        s.now source := by
  have hgeneration : (s.beginFetch key.1).generation key.1 = s.generation key.1 :=
    Store.generation_beginFetch s key.1 key.1
  rw [Phase.settle, Phase.settle, Phase.judge, Store.now_of_unknown h]
  cases hvalue : (source key.1).value key with
  | error e =>
    simp only [Phase.settle, Phase.close]
    refine ⟨trivial, Store.now_congr fun key' => ?_⟩
    rw [Store.get?_endFetch, Store.get?_beginFetch]
  | ok v =>
    simp only [if_pos hgeneration, Phase.settle, Phase.close]
    refine ⟨trivial, funext fun key' => ?_⟩
    have hkept : (((s.beginFetch key.1).track key v).endFetch key.1).get? key' =
        if key' = key then some v else s.get? key' := by
      rw [Store.get?_endFetch, Store.get?_track, Store.get?_beginFetch]
    by_cases hkey : key' = key
    · rw [if_pos hkey] at hkept
      rw [Store.now_of_kept hkept, hkey, Store.now_of_unknown h, hvalue]
    · rw [if_neg hkey] at hkept
      rw [Store.now, hkept, Store.now]

/-- A question that nothing disturbs gets the answer of the moment, and the answers stay what they are. -/
theorem Phase.settle_start (source : ObjectKey → Fetched) (s : Store) (key : ValueKey) :
    ((Phase.start s key).2.settle source (Phase.start s key).1 key).2 = s.now source key ∧
      ((Phase.start s key).2.settle source (Phase.start s key).1 key).1.now source = s.now source := by
  unfold Phase.start fetchAttempts Phase.look
  cases hkept : s.get? key with
  | some v =>
    simp only [Phase.settle]
    exact ⟨(Store.now_of_kept hkept).symm, trivial⟩
  | none => exact Phase.settle_fetching hkept 2

/-- Work that nothing disturbs comes to what the answers of its start make of it. -/
theorem Lookup.run_eq_answeredBy {α : Type} (work : Lookup α) :
    (work.run source s).2 = work.answeredBy (s.now source) := by
  induction work generalizing s with
  | done a => rfl
  | ask ns ref next ih =>
    obtain ⟨hanswer, hsame⟩ := Phase.settle_start source s (valueKey ns ref)
    rw [Lookup.answeredBy_ask, ← hanswer, ← hsame]
    exact ih _

end

end ScrapeFleet.Credential
