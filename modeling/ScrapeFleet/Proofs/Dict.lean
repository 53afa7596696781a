/-
# ScrapeFleet.Proofs.Dict — what is found in a map after each operation

A map is the ascending list of its entries, so a key is found with a value exactly when the two stand in
the list (`get?_eq_some_iff`). Everything else follows from what each operation does to the list: an
insertion shadows one key and leaves the others alone, and a filter keeps or loses each entry by itself.
Later modules look maps up and never open their lists.
-/
import Mathlib.Data.List.Nodup
import ScrapeFleet.Dict

namespace ScrapeFleet.Dict

variable {κ α β : Type} [Ordered κ]

/-! ## Entries and keys -/

theorem nodup_keys (m : Dict κ α) : m.keys.Nodup := by
  rw [keys, List.Nodup, List.pairwise_map]
  exact m.ascending.imp fun h => Ordered.ne_of_lt h

theorem entry_unique {m : Dict κ α} {k : κ} {a b : α} (ha : (k, a) ∈ m.entries)
    (hb : (k, b) ∈ m.entries) : a = b :=
  (Prod.mk.inj (List.inj_on_of_nodup_map m.nodup_keys ha hb rfl)).2

/-- A key is found with a value exactly when the two are an entry. -/
theorem get?_eq_some_iff [BEq κ] [LawfulBEq κ] {m : Dict κ α} {k : κ} {a : α} :
    m.get? k = some a ↔ (k, a) ∈ m.entries := by
  constructor
  · intro h
    obtain ⟨l, r, hl, _⟩ := List.lookup_eq_some_iff.1 h
    rw [hl]
    simp
  · intro h
    cases hf : m.get? k with
    | none =>
      have := List.lookup_eq_none_iff.1 hf (k, a) h
      simp at this
    | some b =>
      obtain ⟨l, r, hl, _⟩ := List.lookup_eq_some_iff.1 hf
      have hb : (k, b) ∈ m.entries := by rw [hl]; simp
      rw [entry_unique h hb]

/-- Two maps in which every key has the same value are one map. -/
theorem ext_get? [BEq κ] [LawfulBEq κ] {m n : Dict κ α} (h : ∀ k, m.get? k = n.get? k) : m = n := by
  refine ext (List.Perm.eq_of_pairwise ?_ m.ascending n.ascending ?_)
  · intro a b _ _ hab hba
    rw [Ordered.asymm hab] at hba
    cases hba
  · rw [List.perm_ext_iff_of_nodup m.nodup_keys.of_map n.nodup_keys.of_map]
    rintro ⟨k, a⟩
    rw [← get?_eq_some_iff, ← get?_eq_some_iff, h]

theorem mem_insertEntry_iff {k : κ} {a : α} {es : List (κ × α)}
    (h : es.Pairwise (fun a b => Ordered.lt a.1 b.1 = true)) {e : κ × α} :
    e ∈ insertEntry k a es ↔ e = (k, a) ∨ e ∈ es ∧ e.1 ≠ k := by
  induction es with
  | nil => simp [insertEntry]
  | cons d es ih =>
    obtain ⟨hd, hes⟩ := List.pairwise_cons.1 h
    unfold insertEntry
    split
    · rename_i hk
      -- the new key comes first, so no entry that follows has it
      have hne : ∀ e ∈ d :: es, e.1 ≠ k := by
        intro e he
        rcases List.mem_cons.1 he with rfl | he
        · exact (Ordered.ne_of_lt hk).symm
        · exact (Ordered.ne_of_lt (Ordered.trans hk (hd e he))).symm
      constructor
      · intro he
        rcases List.mem_cons.1 he with he | he
        · exact .inl he
        · exact .inr ⟨he, hne e he⟩
      · rintro (he | ⟨he, _⟩)
        · simp [he]
        · exact List.mem_cons_of_mem _ he
    · split
      · rename_i hk
        rw [List.mem_cons, ih hes, List.mem_cons]
        constructor
        · rintro (rfl | he | ⟨he, hne⟩)
          · exact .inr ⟨.inl rfl, Ordered.ne_of_lt hk⟩
          · exact .inl he
          · exact .inr ⟨.inr he, hne⟩
        · rintro (he | ⟨he | he, hne⟩)
          · exact .inr (.inl he)
          · exact .inl he
          · exact .inr (.inr ⟨he, hne⟩)
      · rename_i hk hk'
        have hdk : d.1 = k := Ordered.connected (by simpa using hk') (by simpa using hk)
        have hne : ∀ e ∈ es, e.1 ≠ k := by
          intro e he
          rw [← hdk]
          exact (Ordered.ne_of_lt (hd e he)).symm
        rw [List.mem_cons, List.mem_cons]
        constructor
        · rintro (he | he)
          · exact .inl he
          · exact .inr ⟨.inr he, hne e he⟩
        · rintro (he | ⟨rfl | he, hne'⟩)
          · exact .inl he
          · exact absurd hdk hne'
          · exact .inr he

/-! ## Each operation -/

theorem contains_iff [BEq κ] {m : Dict κ α} {k : κ} :
    m.contains k = true ↔ ∃ a, m.get? k = some a :=
  Option.isSome_iff_exists

theorem mem_keys_iff [BEq κ] [LawfulBEq κ] {m : Dict κ α} {k : κ} : k ∈ m.keys ↔ m.get? k ≠ none := by
  rw [Option.ne_none_iff_exists', keys, List.mem_map]
  constructor
  · rintro ⟨e, he, rfl⟩
    exact ⟨e.2, get?_eq_some_iff.2 he⟩
  · rintro ⟨a, ha⟩
    exact ⟨(k, a), get?_eq_some_iff.1 ha, rfl⟩

/-- A map of a list has no other entries. -/
theorem mem_of_mem_ofList {es : List (κ × α)} {e : κ × α} (h : e ∈ (ofList es).toList) : e ∈ es := by
  have hfold : ∀ m : Dict κ α, e ∈ (es.foldl (fun m e => m.insert e.1 e.2) m).toList →
      e ∈ m.toList ∨ e ∈ es := by
    clear h
    induction es with
    | nil => exact fun m he => .inl he
    | cons d es ih =>
      intro m he
      rcases ih (m.insert d.1 d.2) he with he | he
      · rcases mem_insertEntry he with rfl | he
        · exact .inr List.mem_cons_self
        · exact .inl he
      · exact .inr (List.mem_cons_of_mem _ he)
  exact (hfold empty h).resolve_left List.not_mem_nil

/-- A map of a list in which no key comes twice has all its entries. -/
theorem mem_ofList_iff {es : List (κ × α)} (h : (es.map (·.1)).Nodup) {e : κ × α} :
    e ∈ (ofList es).toList ↔ e ∈ es := by
  refine ⟨mem_of_mem_ofList, ?_⟩
  have hfold : ∀ m : Dict κ α, e ∈ es ∨ e ∈ m.toList ∧ e.1 ∉ es.map (·.1) →
      e ∈ (es.foldl (fun m e => m.insert e.1 e.2) m).toList := by
    induction es with
    | nil => exact fun m he => (he.resolve_left List.not_mem_nil).1
    | cons d es ih =>
      intro m he
      obtain ⟨hd, hes⟩ := List.nodup_cons.1 h
      refine ih hes (m.insert d.1 d.2) ?_
      rcases he with he | ⟨he, hfresh⟩
      · rcases List.mem_cons.1 he with rfl | he
        · exact .inr ⟨(mem_insertEntry_iff m.ascending).2 (.inl rfl), hd⟩
        · exact .inl he
      · obtain ⟨hne, hfresh⟩ := not_or.1 (List.mem_cons.not.1 hfresh)
        exact .inr ⟨(mem_insertEntry_iff m.ascending).2 (.inr ⟨he, hne⟩), hfresh⟩
  exact fun he => hfold empty (.inl he)

/-- A map is the map of its entries. -/
@[simp] theorem ofList_toList (m : Dict κ α) : ofList m.toList = m := by
  classical
  have hentry : ∀ e, e ∈ (ofList m.toList).entries ↔ e ∈ m.entries := fun e => mem_ofList_iff m.nodup_keys
  refine ext_get? fun k => Option.ext fun a => ?_
  rw [get?_eq_some_iff, get?_eq_some_iff, hentry]

variable [BEq κ] [LawfulBEq κ]

theorem get?_insert [DecidableEq κ] (m : Dict κ α) (k k' : κ) (a : α) :
    (m.insert k a).get? k' = if k' = k then some a else m.get? k' := by
  ext b
  rw [get?_eq_some_iff]
  show (k', b) ∈ insertEntry k a m.entries ↔ _
  rw [mem_insertEntry_iff m.ascending]
  by_cases h : k' = k
  · simp [h, eq_comm]
  · simp [h, get?_eq_some_iff]

theorem get?_filter (m : Dict κ α) (p : κ → α → Bool) (k : κ) :
    (m.filter p).get? k = (m.get? k).filter (p k) := by
  ext a
  rw [get?_eq_some_iff]
  show (k, a) ∈ m.entries.filter _ ↔ _
  rw [List.mem_filter, Option.filter_eq_some_iff, get?_eq_some_iff]

theorem get?_erase [DecidableEq κ] (m : Dict κ α) (k k' : κ) :
    (m.erase k).get? k' = if k' = k then none else m.get? k' := by
  rw [erase, get?_filter]
  by_cases h : k' = k
  · simp [h]
  · have hne : (!(k' == k)) = true := by simpa using h
    rw [if_neg h, hne]
    cases m.get? k' <;> rfl

theorem get?_filterMap (m : Dict κ α) (f : κ → α → Option β) (k : κ) :
    (m.filterMap f).get? k = (m.get? k).bind (f k) := by
  ext b
  rw [get?_eq_some_iff, Option.bind_eq_some_iff]
  show (k, b) ∈ m.entries.filterMap _ ↔ _
  rw [List.mem_filterMap]
  constructor
  · rintro ⟨e, he, hb⟩
    obtain ⟨c, hc, heq⟩ := Option.map_eq_some_iff.1 hb
    obtain ⟨rfl, rfl⟩ := Prod.mk.inj heq
    exact ⟨e.2, get?_eq_some_iff.2 he, hc⟩
  · rintro ⟨a, ha, hb⟩
    exact ⟨(k, a), get?_eq_some_iff.1 ha, by simp [hb]⟩

/-! ## When two maps differ -/

/-- Two maps have other entries exactly if some key has another value. -/
theorem entries_ne_iff {m n : Dict κ α} : m.entries ≠ n.entries ↔ ∃ k, m.get? k ≠ n.get? k := by
  constructor
  · intro hne
    by_contra hsame
    exact hne (congrArg entries (ext_get? fun k => not_not.1 fun hk => hsame ⟨k, hk⟩))
  · rintro ⟨k, hk⟩ heq
    exact hk (congrArg (·.lookup k) heq)

/-- A filter leaves as many entries as there were exactly if it leaves all of them. -/
theorem size_filter_ne_iff {m : Dict κ α} {p : κ → α → Bool} :
    (m.filter p).size ≠ m.size ↔ ∃ k, (m.filter p).get? k ≠ m.get? k := by
  rw [← entries_ne_iff, not_iff_not]
  exact ⟨fun h => List.filter_sublist.eq_of_length h, fun h => congrArg List.length h⟩

end ScrapeFleet.Dict
