/-
# ScrapeFleet.Proofs.Watch.Mirror — the calls of an informer are enough to know its cache

Whoever hears only of changes can keep a map of its own: an addition of a key that was absent, an update
of what is held, a deletion of a key that is present (`Change.follow?`). Any other change is refused, so a
replay that comes to an end says two things at once: that every change fitted what was known before it,
and what is known in the end. The changes that lead from one state of a cache to the next are replayed to
exactly the new objects (`Cache.replay?_handle`), and a cache that is reported again is replayed to itself
(`Cache.replay?_repeated`).

A list is compared with what was cached entry by entry, and no two entries have one key. So each change of
the difference meets what was cached before, whichever were replayed before it.
-/
import ScrapeFleet.Proofs.Watch.Cache

namespace ScrapeFleet.Watch

open Cluster (Identified ObjectKey keyOf)

variable {α : Type}

namespace Cache

/-! ## The difference of two lists, entry by entry -/

/-- How an entry of a list is told: as an addition, or as an update of what was cached. -/
def told (previous : Dict ObjectKey α) (e : ObjectKey × α) : Change α :=
  match previous.get? e.1 with
  | some old => .updated old e.2
  | none => .added e.2

/-- How a cached entry is told of that a list no longer has. -/
def gone? (listed : Dict ObjectKey α) (e : ObjectKey × α) : Option (Change α) :=
  if listed.contains e.1 then none else some (.deleted e.2)

theorem difference_eq (previous listed : Dict ObjectKey α) :
    difference previous listed =
      listed.toList.map (told previous) ++ previous.toList.filterMap (gone? listed) := rfl

theorem lookup_of_fresh {es : List (ObjectKey × α)} {key : ObjectKey}
    (h : key ∉ es.map (·.1)) : es.lookup key = none := by
  rw [List.lookup_eq_none_iff]
  intro e he
  have hne : key ≠ e.1 := fun heq => h (List.mem_map.2 ⟨e, he, heq.symm⟩)
  simpa using hne

end Cache

variable [Identified α] [DecidableEq α]

/-! ## Replay -/

/-- What is known after a change, if the change fits what was known. -/
def Change.follow? (m : Dict ObjectKey α) : Change α → Option (Dict ObjectKey α)
  | .added new => if m.contains (keyOf new) then none else some (m.insert (keyOf new) new)
  | .updated old new =>
    if m.get? (keyOf new) = some old then some (m.insert (keyOf new) new) else none
  | .deleted a => if m.contains (keyOf a) then some (m.erase (keyOf a)) else none

/-- What is known after some changes, the first of which comes first. -/
def replay? (m : Dict ObjectKey α) (changes : List (Change α)) : Option (Dict ObjectKey α) :=
  changes.foldlM Change.follow? m

/-- Every object stands under its own key. -/
def Keyed (m : Dict ObjectKey α) : Prop := ∀ id a, m.get? id = some a → keyOf a = id

theorem replay?_append {m n : Dict ObjectKey α} {before : List (Change α)}
    (h : replay? m before = some n) (after : List (Change α)) :
    replay? m (before ++ after) = replay? n after := by
  rw [replay?, List.foldlM_append]
  rw [replay?] at h
  rw [h]
  rfl

theorem replay?_cons {m n : Dict ObjectKey α} {c : Change α} (h : c.follow? m = some n)
    (changes : List (Change α)) : replay? m (c :: changes) = replay? n changes :=
  replay?_append (show replay? m [c] = some n by simp [replay?, h]) changes

theorem follow?_added {m : Dict ObjectKey α} {new : α} (h : m.get? (keyOf new) = none) :
    (Change.added new).follow? m = some (m.insert (keyOf new) new) := by
  simp [Change.follow?, Dict.contains, h]

theorem follow?_updated {m : Dict ObjectKey α} {old new : α} (h : m.get? (keyOf new) = some old) :
    (Change.updated old new).follow? m = some (m.insert (keyOf new) new) := if_pos h

theorem follow?_deleted {m : Dict ObjectKey α} {a old : α} (h : m.get? (keyOf a) = some old) :
    (Change.deleted a).follow? m = some (m.erase (keyOf a)) := by
  simp [Change.follow?, Dict.contains, h]

namespace Cache

/-! ## Whole lists -/

section Lists

variable {previous listed : Dict ObjectKey α} {es : List (ObjectKey × α)}

/-- The objects of a list, each an addition or an update of what was cached, are all known afterwards. -/
theorem replay?_told (hkeyed : ∀ e ∈ es, keyOf e.2 = e.1) (hnodup : (es.map (·.1)).Nodup)
    {m : Dict ObjectKey α} (hm : ∀ e ∈ es, m.get? e.1 = previous.get? e.1) :
    ∃ n, replay? m (es.map (told previous)) = some n ∧
      ∀ id, n.get? id = (es.lookup id).or (m.get? id) := by
  induction es generalizing m with
  | nil => exact ⟨m, rfl, fun id => rfl⟩
  | cons e es ih =>
    have hkey : keyOf e.2 = e.1 := hkeyed e List.mem_cons_self
    obtain ⟨hfresh, hnodup⟩ := List.nodup_cons.1 hnodup
    have hhead : m.get? (keyOf e.2) = previous.get? e.1 := by
      rw [hkey]
      exact hm e List.mem_cons_self
    have happly : (told previous e).follow? m = some (m.insert (keyOf e.2) e.2) := by
      unfold told
      cases hold : previous.get? e.1 with
      | none => exact follow?_added (hhead.trans hold)
      | some old => exact follow?_updated (hhead.trans hold)
    -- the first entry is replayed, and the others still find what was cached
    obtain ⟨n, hn, hget⟩ := ih (fun e he => hkeyed e (List.mem_cons_of_mem _ he)) hnodup
      (m := m.insert (keyOf e.2) e.2) (by
        intro d hd
        have hne : d.1 ≠ e.1 := fun heq => hfresh (List.mem_map.2 ⟨d, hd, heq⟩)
        rw [Dict.get?_insert, hkey, if_neg hne]
        exact hm d (List.mem_cons_of_mem _ hd))
    refine ⟨n, ?_, fun id => ?_⟩
    · rw [List.map_cons]
      exact (replay?_cons happly _).trans hn
    · rw [hget, Dict.get?_insert, hkey, List.lookup_cons]
      by_cases hid : id = e.1
      · rw [hid, lookup_of_fresh hfresh]
        simp
      · have hne : (id == e.1) = false := by simpa using hid
        rw [hne, if_neg hid]

/-- The objects that a list no longer has are given up. -/
theorem replay?_gone (hkeyed : ∀ e ∈ es, keyOf e.2 = e.1) (hnodup : (es.map (·.1)).Nodup)
    {m : Dict ObjectKey α} (hm : ∀ e ∈ es, ∃ old, m.get? e.1 = some old) :
    ∃ n, replay? m (es.filterMap (gone? listed)) = some n ∧
      ∀ id, n.get? id =
        if (es.lookup id).isSome ∧ listed.contains id = false then none else m.get? id := by
  induction es generalizing m with
  | nil => exact ⟨m, rfl, fun id => rfl⟩
  | cons e es ih =>
    have hkey : keyOf e.2 = e.1 := hkeyed e List.mem_cons_self
    obtain ⟨hfresh, hnodup⟩ := List.nodup_cons.1 hnodup
    have hkeyed' : ∀ d ∈ es, keyOf d.2 = d.1 := fun d hd => hkeyed d (List.mem_cons_of_mem _ hd)
    rw [List.filterMap_cons]
    cases hlisted : listed.contains e.1 with
    | true =>
      have hstays : gone? listed e = none := if_pos hlisted
      obtain ⟨n, hn, hget⟩ := ih hkeyed' hnodup fun d hd => hm d (List.mem_cons_of_mem _ hd)
      refine ⟨n, by rw [hstays]; exact hn, fun id => ?_⟩
      rw [hget, List.lookup_cons]
      by_cases hid : id = e.1
      · simp [hid, hlisted]
      · have hne : (id == e.1) = false := by simpa using hid
        rw [hne]
    | false =>
      have hgoes : gone? listed e = some (.deleted e.2) := if_neg (by simp [hlisted])
      obtain ⟨old, hold⟩ := hm e List.mem_cons_self
      -- the objects that are left have other keys, so they are still in the mirror
      obtain ⟨n, hn, hget⟩ := ih hkeyed' hnodup (m := m.erase (keyOf e.2)) (by
        intro d hd
        have hne : d.1 ≠ e.1 := fun heq => hfresh (List.mem_map.2 ⟨d, hd, heq⟩)
        rw [Dict.get?_erase, hkey, if_neg hne]
        exact hm d (List.mem_cons_of_mem _ hd))
      refine ⟨n, ?_, fun id => ?_⟩
      · rw [hgoes]
        exact (replay?_cons (follow?_deleted (hkey ▸ hold)) _).trans hn
      · rw [hget, Dict.get?_erase, hkey, List.lookup_cons]
        by_cases hid : id = e.1
        · simp [hid, hlisted]
        · have hne : (id == e.1) = false := by simpa using hid
          rw [hne, if_neg hid]

/-- What a list changes is replayed to the list. -/
theorem replay?_difference (hprevious : Keyed previous) (hlisted : Keyed listed) :
    replay? previous (difference previous listed) = some listed := by
  have keyed {m : Dict ObjectKey α} (h : Keyed m) : ∀ e ∈ m.toList, keyOf e.2 = e.1 :=
    fun e he => h e.1 e.2 (Dict.get?_eq_some_iff.2 he)
  have htold : ∃ m, replay? previous (listed.toList.map (told previous)) = some m ∧
      ∀ id, m.get? id = (listed.toList.lookup id).or (previous.get? id) :=
    replay?_told (keyed hlisted) listed.nodup_keys fun _ _ => rfl
  obtain ⟨m, hm, hmget⟩ := htold
  have hknown : ∀ e ∈ previous.toList, ∃ old, m.get? e.1 = some old := by
    intro e he
    rw [hmget]
    have hold : previous.get? e.1 = some e.2 := Dict.get?_eq_some_iff.2 he
    cases listed.toList.lookup e.1 with
    | none => exact ⟨e.2, hold⟩
    | some new => exact ⟨new, rfl⟩
  have hgone : ∃ n, replay? m (previous.toList.filterMap (gone? listed)) = some n ∧
      ∀ id, n.get? id =
        if (previous.toList.lookup id).isSome ∧ listed.contains id = false then none else m.get? id :=
    replay?_gone (keyed hprevious) previous.nodup_keys hknown
  obtain ⟨n, hn, hnget⟩ := hgone
  rw [difference_eq, replay?_append hm, hn]
  refine congrArg some (Dict.ext_get? fun id => ?_)
  rw [hnget, hmget]
  show (if (previous.get? id).isSome ∧ (listed.get? id).isSome = false then none
    else (listed.get? id).or (previous.get? id)) = listed.get? id
  cases listed.get? id with
  | some new => simp
  | none => cases previous.get? id <;> simp

end Lists

variable {c : Cache α}

/-! ## Every event -/

/-- What an event changes is replayed to what is cached after it. -/
theorem replay?_handle (hobjects : Keyed c.objects) (hlisting : Keyed (c.listing.getD .empty))
    (scope : Scope) (e : WatchEvent α) :
    replay? c.objects (c.handle scope e).2 = some (c.handle scope e).1.objects := by
  cases e with
  | listBegins => rfl
  | listed a =>
    simp only [handle]
    split <;> rfl
  | listEnds => exact replay?_difference hobjects hlisting
  | applied a =>
    by_cases hscope : admits scope a = true
    · cases hold : c.objects.get? (keyOf a) with
      | none =>
        rw [handle_created hscope hold]
        exact (replay?_cons (follow?_added hold) []).trans rfl
      | some old =>
        rw [handle_changed hscope hold]
        exact (replay?_cons (follow?_updated hold) []).trans rfl
    · rw [handle_outside hscope]
      rfl
  | deleted a =>
    cases hold : c.objects.get? (keyOf a) with
    | none =>
      rw [handle_unknown hold]
      rfl
    | some old =>
      rw [handle_deleted hold]
      exact (replay?_cons (follow?_deleted hold) []).trans rfl

/-- Reporting everything again changes nothing. -/
theorem replay?_repeated (hobjects : Keyed c.objects) :
    replay? c.objects c.repeated = some c.objects := by
  have held : ∀ a ∈ c.objects.values, c.objects.get? (keyOf a) = some a := by
    intro a ha
    obtain ⟨e, he, rfl⟩ := List.mem_map.1 ha
    have hget : c.objects.get? e.1 = some e.2 := Dict.get?_eq_some_iff.2 he
    rw [hobjects e.1 e.2 hget]
    exact hget
  -- a held object put in its own place leaves the map as it is
  have same : ∀ a ∈ c.objects.values, c.objects.insert (keyOf a) a = c.objects := by
    intro a ha
    refine Dict.ext_get? fun id => ?_
    rw [Dict.get?_insert]
    split
    · rename_i hid
      rw [hid, held a ha]
    · rfl
  rw [repeated]
  generalize c.objects.values = as at held same
  induction as with
  | nil => rfl
  | cons a as ih =>
    rw [List.map_cons, replay?_cons (follow?_updated (held a List.mem_cons_self)),
      same a List.mem_cons_self]
    exact ih (fun b hb => held b (List.mem_cons_of_mem _ hb))
      fun b hb => same b (List.mem_cons_of_mem _ hb)

end Cache

end ScrapeFleet.Watch
