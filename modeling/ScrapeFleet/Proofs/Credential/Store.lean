/-
# ScrapeFleet.Proofs.Credential.Store — what each operation does to the store

Two things can be seen of a store: the value that is kept for a key, and the registration of a secret.
The operations on fetches leave every kept value alone, and those on values leave every registration
alone; only news of a secret touches both, and only those of that secret.

A registration is stated through `Slot`: the slot of a secret stands for a number of running fetches,
and there is none exactly when that number is zero. A generation is lost only with the last fetch.
-/
import ScrapeFleet.Credential.Store
import ScrapeFleet.Proofs.Dict

namespace ScrapeFleet.Cluster.Secret

/-- The namespace and the name of a secret that carries both. -/
def id? (s : Secret) : Option ObjectKey :=
  match s.metadata.namespaceName, s.metadata.name with
  | some ns, some name => some (ns, name)
  | _, _ => none

theorem id?_eq_some_iff {s : Secret} {id : ObjectKey} :
    s.id? = some id ↔ s.metadata.namespaceName = some id.1 ∧ s.metadata.name = some id.2 := by
  obtain ⟨ns, name⟩ := id
  unfold id?
  split
  · rename_i hns hname
    simp [hns, hname]
  · rename_i h
    constructor
    · intro h'
      exact absurd h' (by simp)
    · rintro ⟨hns, hname⟩
      exact absurd hname (h ns name hns)

/-- A secret that carries a namespace and a name is known by them. -/
theorem key_of_id? {s : Secret} {id : ObjectKey} (h : s.id? = some id) : s.metadata.key = id := by
  obtain ⟨hns, hname⟩ := id?_eq_some_iff.1 h
  simp [Metadata.key, Metadata.namespaceText, Metadata.displayName, hns, hname]

end ScrapeFleet.Cluster.Secret

namespace ScrapeFleet.Credential

open Cluster (ObjectKey Secret)

/-- The text that a secret has for a key, if it has one. -/
def textOf (secret : Secret) (key : ValueKey) : Option String := (valueOf secret key).toOption

namespace Store

/-! ## Kept values -/

@[simp] theorem get?_beginFetch (s : Store) (id : ObjectKey) (key : ValueKey) :
    (s.beginFetch id).get? key = s.get? key := rfl

@[simp] theorem get?_endFetch (s : Store) (id : ObjectKey) (key : ValueKey) :
    (s.endFetch id).get? key = s.get? key := by
  unfold endFetch
  split
  · rfl
  · split <;> rfl

@[simp] theorem get?_outdate (s : Store) (id : ObjectKey) (key : ValueKey) :
    (s.outdate id).get? key = s.get? key := by
  unfold outdate
  split <;> rfl

theorem get?_track (s : Store) (key key' : ValueKey) (v : String) :
    (s.track key v).get? key' = if key' = key then some v else s.get? key' :=
  Dict.get?_insert _ _ _ _

/-- A new version of a secret refreshes what is kept of it, and nothing else. -/
theorem get?_update (s : Store) {secret : Secret} {id : ObjectKey} (h : secret.id? = some id)
    (key : ValueKey) :
    (s.update secret).1.get? key =
      if key.1 = id then (s.get? key).bind fun _ => textOf secret key else s.get? key := by
  obtain ⟨hns, hname⟩ := Secret.id?_eq_some_iff.1 h
  have hvalues : (s.update secret).1.get? key = (s.get? key).bind (refreshed secret id key) := by
    simp only [update, hns, hname, get?]
    exact Dict.get?_filterMap _ _ _
  rw [hvalues]
  by_cases hkey : key.1 = id
  · rw [if_pos hkey]
    cases s.get? key <;> simp [refreshed, textOf, hkey]
  · have hne : (key.1 == id) = false := by simpa using hkey
    cases s.get? key <;> simp [refreshed, hne, hkey]

/-- The values of a deleted secret are given up, and no others. -/
theorem get?_remove (s : Store) (id : ObjectKey) (key : ValueKey) :
    (s.remove id).1.get? key = if key.1 = id then none else s.get? key := by
  have hvalues : (s.remove id).1.get? key = (s.get? key).filter fun _ => !(key.1 == id) :=
    Dict.get?_filter _ _ _
  rw [hvalues]
  by_cases hkey : key.1 = id
  · simp [hkey]
  · have hne : (key.1 == id) = false := by simpa using hkey
    cases s.get? key <;> simp [hne, hkey]

/-! ## Registrations -/

theorem running_update (s : Store) {secret : Secret} {id : ObjectKey} (h : secret.id? = some id) :
    (s.update secret).1.running = (s.outdate id).running := by
  obtain ⟨hns, hname⟩ := Secret.id?_eq_some_iff.1 h
  simp [update, hns, hname]

/-- News of a secret that carries no namespace or no name is no news. -/
theorem update_of_id?_eq_none (s : Store) {secret : Secret} (h : secret.id? = none) :
    s.update secret = (s, false) := by
  unfold update
  split
  · rename_i hns hname
    simp [Secret.id?, hns, hname] at h
  · rfl

/-- The slot of a secret stands for `n` running fetches; there is none if there are no fetches. -/
def Slot (s : Store) (id : ObjectKey) (n : Nat) : Prop :=
  (s.running.get? id).map (·.fetches) = if n = 0 then none else some n

namespace Slot

variable {s : Store} {id : ObjectKey} {n : Nat}

theorem exists_some (h : s.Slot id (n + 1)) : ∃ r, s.running.get? id = some r ∧ r.fetches = n + 1 := by
  rw [Slot, if_neg (Nat.succ_ne_zero n)] at h
  exact Option.map_eq_some_iff.1 h

theorem fetches_eq (h : s.Slot id n) {r : Registration} (hr : s.running.get? id = some r) :
    n ≠ 0 ∧ r.fetches = n := by
  rw [Slot, hr, Option.map_some] at h
  split at h
  · cases h
  · rename_i hn
    exact ⟨hn, Option.some.inj h⟩

theorem eq_none (h : s.Slot id 0) : s.running.get? id = none := Option.map_eq_none_iff.1 h

end Slot

theorem running_beginFetch (s : Store) (id id' : ObjectKey) :
    (s.beginFetch id).running.get? id' =
      if id' = id then
        some ⟨s.generation id, ((s.running.get? id).getD {}).fetches + 1⟩
      else s.running.get? id' := by
  rw [beginFetch, Dict.get?_insert]
  cases h : s.running.get? id <;> simp [generation, h]

theorem running_outdate (s : Store) (id id' : ObjectKey) :
    (s.outdate id).running.get? id' =
      if id' = id then
        (s.running.get? id).map fun r => { r with generation := r.generation + 1 }
      else s.running.get? id' := by
  unfold outdate
  split
  · rename_i h
    split
    · rename_i hid
      rw [hid, h]
      rfl
    · rfl
  · rename_i r h
    rw [Dict.get?_insert]
    simp [h]

theorem running_endFetch (s : Store) (id id' : ObjectKey) :
    (s.endFetch id).running.get? id' =
      if id' = id then
        (s.running.get? id).bind fun r =>
          if r.fetches ≤ 1 then none else some { r with fetches := r.fetches - 1 }
      else s.running.get? id' := by
  unfold endFetch
  split
  · rename_i h
    split
    · rename_i hid
      rw [hid, h]
      rfl
    · rfl
  · rename_i r h
    split
    · rename_i hlast
      rw [Dict.get?_erase]
      simp [h, hlast]
    · rename_i hmore
      rw [Dict.get?_insert]
      simp [h, hmore]

theorem slot_beginFetch {s : Store} {id : ObjectKey} {n : Nat} (h : s.Slot id n) :
    (s.beginFetch id).Slot id (n + 1) := by
  rw [Slot, running_beginFetch, if_pos rfl]
  rw [Slot] at h
  have hn : ((s.running.get? id).getD {}).fetches = n := by
    cases hr : s.running.get? id <;> rw [hr] at h <;> split at h <;> simp_all
  simp [hn]

theorem slot_endFetch {s : Store} {id : ObjectKey} {n : Nat} (h : s.Slot id (n + 1)) :
    (s.endFetch id).Slot id n := by
  obtain ⟨r, hr, hn⟩ := h.exists_some
  rw [Slot, running_endFetch, if_pos rfl, hr, Option.bind_some, hn]
  by_cases hzero : n = 0
  · simp [hzero]
  · have hmore : ¬ n + 1 ≤ 1 := by omega
    simp [hzero, hmore]

theorem slot_outdate {s : Store} {id id' : ObjectKey} {n : Nat} (h : s.Slot id' n) :
    (s.outdate id).Slot id' n := by
  rw [Slot, running_outdate]
  rw [Slot] at h
  by_cases hid : id' = id
  · rw [if_pos hid, Option.map_map]
    rw [hid] at h
    exact h
  · rw [if_neg hid]
    exact h

/-! ## Generations -/

theorem generation_congr {s s' : Store} (h : s'.running = s.running) (id : ObjectKey) :
    s'.generation id = s.generation id := by
  rw [generation, h, generation]

theorem generation_beginFetch (s : Store) (id id' : ObjectKey) :
    (s.beginFetch id).generation id' = s.generation id' := by
  rw [generation, running_beginFetch]
  by_cases hid : id' = id
  · rw [if_pos hid, hid]
    rfl
  · rw [if_neg hid]
    rfl

/-- The generation of a secret outlives a fetch as long as another one runs. -/
theorem generation_endFetch {s : Store} {id id' : ObjectKey} {n : Nat}
    (h : id' = id → s.Slot id (n + 2)) : (s.endFetch id).generation id' = s.generation id' := by
  rw [generation, running_endFetch]
  by_cases hid : id' = id
  · obtain ⟨r, hr, hn⟩ := (h hid).exists_some
    have hmore : ¬ n + 2 ≤ 1 := by omega
    rw [if_pos hid, hid, generation, hr, Option.bind_some, hn, if_neg hmore]
    rfl
  · rw [if_neg hid]
    rfl

theorem generation_outdate_of_ne (s : Store) {id id' : ObjectKey} (h : id' ≠ id) :
    (s.outdate id).generation id' = s.generation id' := by
  rw [generation, running_outdate, if_neg h]
  rfl

/-- News of a secret that is being fetched begins a new generation. -/
theorem generation_outdate_self {s : Store} {id : ObjectKey} {n : Nat} (h : s.Slot id (n + 1)) :
    (s.outdate id).generation id = s.generation id + 1 := by
  obtain ⟨r, hr, _⟩ := h.exists_some
  rw [generation, running_outdate, if_pos rfl, generation, hr]
  rfl

/-- While a secret is being fetched its generation counts the news of it, and no other news. -/
theorem generation_outdate {s : Store} {id id' : ObjectKey} {n : Nat} (h : s.Slot id' (n + 1)) :
    (s.outdate id).generation id' = s.generation id' + if id = id' then 1 else 0 := by
  by_cases hid : id = id'
  · subst hid
    rw [if_pos rfl, generation_outdate_self h]
  · rw [if_neg hid, generation_outdate_of_ne s (Ne.symm hid), Nat.add_zero]

theorem generation_update {s : Store} {id : ObjectKey} {n : Nat} (h : s.Slot id (n + 1)) (secret : Secret) :
    (s.update secret).1.generation id = s.generation id + if secret.id? = some id then 1 else 0 := by
  cases hid : secret.id? with
  | none =>
    rw [update_of_id?_eq_none s hid, if_neg (by simp)]
    rfl
  | some id' =>
    rw [generation_congr (running_update s hid), generation_outdate h]
    simp only [Option.some.injEq]

theorem generation_remove {s : Store} {id : ObjectKey} {n : Nat} (h : s.Slot id (n + 1)) (id' : ObjectKey) :
    (s.remove id').1.generation id = s.generation id + if id' = id then 1 else 0 :=
  generation_outdate h

theorem generation_le_outdate (s : Store) (id id' : ObjectKey) :
    s.generation id' ≤ (s.outdate id).generation id' := by
  rw [generation, generation, running_outdate]
  by_cases hid : id' = id
  · rw [if_pos hid, hid]
    cases s.running.get? id
    · exact Nat.le_refl _
    · exact Nat.le_succ _
  · exact Nat.le_of_eq (by rw [if_neg hid])

end Store

end ScrapeFleet.Credential
