/-
# ScrapeFleet.Proofs.Watch.Cache — what is cached, and what is told of it

An event of a single object changes what is cached under the key of that object and nothing else. What is
told is complete: whatever an event changes in the cache, one of the changes that are told describes it
(`described_handle`). That is the only thing that the rest of the program learns of an event.
-/
import ScrapeFleet.Proofs.Dict
import ScrapeFleet.Watch.Cache

namespace ScrapeFleet.Watch

open Cluster (Identified ObjectKey keyOf)

variable {α : Type}

/-- The change says how what is cached under some key became something else. -/
def Change.Describes : Change α → Option α → Option α → Prop
  | .added new, before, after => before = none ∧ after = some new
  | .updated old new, before, after => before = some old ∧ after = some new
  | .deleted _, before, after => before.isSome ∧ after = none

namespace Cache

/-! ## Whole lists -/

/-- A list tells of every object that is new, replaced or gone. -/
theorem described_difference {previous listed : Dict ObjectKey α} {id : ObjectKey}
    (h : listed.get? id ≠ previous.get? id) :
    ∃ change ∈ difference previous listed,
      change.Describes (previous.get? id) (listed.get? id) := by
  cases hnew : listed.get? id with
  | some new =>
    have hentry : (id, new) ∈ listed.toList := Dict.get?_eq_some_iff.1 hnew
    cases hold : previous.get? id with
    | none =>
      refine ⟨.added new, List.mem_append_left _ (List.mem_map.2 ⟨_, hentry, ?_⟩), rfl, rfl⟩
      simp only [hold]
    | some old =>
      refine ⟨.updated old new, List.mem_append_left _ (List.mem_map.2 ⟨_, hentry, ?_⟩), rfl, rfl⟩
      simp only [hold]
  | none =>
    cases hold : previous.get? id with
    | none => exact absurd (hnew.trans hold.symm) h
    | some old =>
      have hentry : (id, old) ∈ previous.toList := Dict.get?_eq_some_iff.1 hold
      have hgone : ¬ listed.contains id = true := by
        intro hc
        obtain ⟨new, hnew'⟩ := Dict.contains_iff.1 hc
        rw [hnew] at hnew'
        cases hnew'
      refine ⟨.deleted old, List.mem_append_right _ (List.mem_filterMap.2 ⟨_, hentry, ?_⟩), rfl, rfl⟩
      simp only [if_neg hgone]

variable [Identified α] {c : Cache α} {scope : Scope} {a : α}

/-! ## Single objects -/

theorem handle_created (hscope : admits scope a = true) (h : c.objects.get? (keyOf a) = none) :
    c.handle scope (.applied a) =
      ({ c with objects := c.objects.insert (keyOf a) a }, [.added a]) := by
  simp only [handle, if_pos hscope, h]

theorem handle_changed {old : α} (hscope : admits scope a = true)
    (h : c.objects.get? (keyOf a) = some old) :
    c.handle scope (.applied a) =
      ({ c with objects := c.objects.insert (keyOf a) a }, [.updated old a]) := by
  simp only [handle, if_pos hscope, h]

theorem handle_outside (hscope : ¬ admits scope a = true) :
    c.handle scope (.applied a) = (c, []) := by
  simp only [handle, if_neg hscope]

theorem handle_deleted {old : α} (h : c.objects.get? (keyOf a) = some old) :
    c.handle scope (.deleted a) =
      ({ c with objects := c.objects.erase (keyOf a) }, [.deleted a]) := by
  have hcached : c.objects.contains (keyOf a) = true := Dict.contains_iff.2 ⟨old, h⟩
  simp only [handle, if_pos hcached]

theorem handle_unknown (h : c.objects.get? (keyOf a) = none) :
    c.handle scope (.deleted a) = (c, []) := by
  have hcached : ¬ c.objects.contains (keyOf a) = true := by
    intro hc
    obtain ⟨old, hold⟩ := Dict.contains_iff.1 hc
    rw [h] at hold
    cases hold
  simp only [handle, if_neg hcached]

/-- A new version of an object stands under its key, and nothing else changes. -/
theorem get?_applied (hscope : admits scope a = true) (id : ObjectKey) :
    (c.handle scope (.applied a)).1.objects.get? id =
      if id = keyOf a then some a else c.objects.get? id := by
  have hinsert : (c.handle scope (.applied a)).1.objects = c.objects.insert (keyOf a) a := by
    simp only [handle, if_pos hscope]
  rw [hinsert, Dict.get?_insert]

/-- A deleted object is not cached any more, and nothing else changes. -/
theorem get?_deleted (id : ObjectKey) :
    (c.handle scope (.deleted a)).1.objects.get? id =
      if id = keyOf a then none else c.objects.get? id := by
  cases h : c.objects.get? (keyOf a) with
  | none =>
    rw [handle_unknown h]
    by_cases hid : id = keyOf a
    · rw [if_pos hid, hid, h]
    · rw [if_neg hid]
  | some old => rw [handle_deleted h, Dict.get?_erase]

/-! ## Every event -/

/-- Whatever an event changes in the cache, one of the changes that are told describes it. -/
theorem described_handle {e : WatchEvent α} {id : ObjectKey}
    (h : (c.handle scope e).1.objects.get? id ≠ c.objects.get? id) :
    ∃ change ∈ (c.handle scope e).2,
      change.Describes (c.objects.get? id) ((c.handle scope e).1.objects.get? id) := by
  cases e with
  | listBegins => exact absurd rfl h
  | listed a =>
    refine absurd ?_ h
    simp only [handle]
    split <;> rfl
  | listEnds => exact described_difference h
  | applied a =>
    by_cases hscope : admits scope a = true
    · rw [get?_applied hscope] at h ⊢
      by_cases hid : id = keyOf a
      · rw [if_pos hid, hid]
        cases hold : c.objects.get? (keyOf a) with
        | none =>
          rw [handle_created hscope hold]
          exact ⟨_, List.mem_singleton_self _, rfl, rfl⟩
        | some old =>
          rw [handle_changed hscope hold]
          exact ⟨_, List.mem_singleton_self _, rfl, rfl⟩
      · rw [if_neg hid] at h
        exact absurd rfl h
    · rw [handle_outside hscope] at h
      exact absurd rfl h
  | deleted a =>
    rw [get?_deleted] at h ⊢
    by_cases hid : id = keyOf a
    · rw [if_pos hid] at h ⊢
      obtain ⟨old, hold⟩ := Option.ne_none_iff_exists'.1 (Ne.symm h)
      rw [hid] at hold ⊢
      rw [handle_deleted hold, hold]
      exact ⟨_, List.mem_singleton_self _, rfl, rfl⟩
    · rw [if_neg hid] at h
      exact absurd rfl h

end Cache

end ScrapeFleet.Watch
