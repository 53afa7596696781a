/-
# ScrapeFleet.Proofs.Document.Fields — reading back the fields that were written

A record is written field by field, and a field that says nothing is left out. What a reader finds under a
name is therefore known from the list of the written fields (`lookup_field` and the lemmas beside it), and
the readers of required, optional and listed fields only depend on what they find.

Documents are made of values in more than one way: as they were written, or settled. The readers only need
what the two have in common (`Doc.Shows`).
-/
import Mathlib.Data.List.Nodup
import ScrapeFleet.Document.Doc
import ScrapeFleet.Document.Value
import ScrapeFleet.Job.Client

namespace ScrapeFleet

/-! ## The written fields -/

namespace Value

variable {α : Type} {m n : String}

@[simp] theorem lookup_field (v : Value) : (field n v).lookup m = if m = n then some v else none := by
  by_cases h : m = n
  · simp [field, h]
  · have hne : (m == n) = false := by simpa using h
    simp [field, List.lookup_cons, hne, h]

@[simp] theorem lookup_optional (write : α → Value) (o : Option α) :
    (optional n write o).lookup m = if m = n then o.map write else none := by
  cases o with
  | none => simp [optional]
  | some a => exact lookup_field (write a)

@[simp] theorem lookup_unlessEmpty (write : α → Value) (l : List α) :
    (unlessEmpty n write l).lookup m =
      if m = n then if l.isEmpty then none else some (.list (l.map write)) else none := by
  cases l with
  | nil => simp [unlessEmpty]
  | cons a l => exact lookup_field (.list ((a :: l).map write))

@[simp] theorem lookup_entries (write : α → Value) (es : List (String × α)) :
    (entries n write es).lookup m =
      if m = n then if es.isEmpty then none else some (.record (es.map fun e => (e.1, write e.2)))
      else none := by
  cases es with
  | nil => simp [entries]
  | cons e es => exact lookup_field (.record ((e :: es).map fun e => (e.1, write e.2)))

/-- The fields have some of the names, in the order of the names. -/
def Named (fs : List (String × Value)) (names : List String) : Prop := (fs.map (·.1)).Sublist names

theorem named_field (n : String) (v : Value) : Named (field n v) [n] := by simp [Named, field]

theorem named_optional (n : String) (write : α → Value) (o : Option α) :
    Named (optional n write o) [n] := by
  cases o <;> simp [Named, optional]

theorem named_unlessEmpty (n : String) (write : α → Value) (l : List α) :
    Named (unlessEmpty n write l) [n] := by
  cases l <;> simp [Named, unlessEmpty]

theorem named_entries (n : String) (write : α → Value) (es : List (String × α)) :
    Named (entries n write es) [n] := by
  cases es <;> simp [Named, entries]

variable {fs fs' : List (String × Value)} {names names' : List String}

theorem Named.append (h : Named fs names) (h' : Named fs' names') :
    Named (fs ++ fs') (names ++ names') := by
  rw [Named, List.map_append]
  exact List.Sublist.append h h'

theorem Named.mem (h : Named fs names) : ∀ f ∈ fs, f.1 ∈ names :=
  fun _ hf => h.subset (List.mem_map_of_mem hf)

end Value

/-! ## Documents of values -/

namespace Doc

/-- The documents that `doc` makes of values read as the values with `fill` applied to their texts, and none
of them is absent. -/
structure Shows (fill : String → String) (doc : Value → Doc) : Prop where
  text : ∀ s, (doc (.text s)).text? = some (fill s)
  bool : ∀ b, (doc (.bool b)).bool? = some b
  nat : ∀ n : Nat, n < Nat.pow 2 64 → (doc (.nat n)).nat? 64 = some n
  items : ∀ vs, (doc (.list vs)).items? = some (vs.map doc)
  record : ∀ fs, doc (.record fs) = .record (fs.map fun f => (doc (.text f.1), doc f.2))
  present : ∀ (v : Value) {α : Type} (read : Doc → Option α), (doc v).optional? read = (read (doc v)).map some

/-- The fields as a reader holds them. -/
def shownFields (doc : Value → Doc) (fs : List (String × Value)) : Fields :=
  fs.map fun f => (f.1, doc f.2)

variable {fill : String → String} {doc : Value → Doc} {fs : List (String × Value)} {n : String}

theorem lookup_shownFields : (shownFields doc fs).lookup n = (fs.lookup n).map doc := by
  induction fs with
  | nil => rfl
  | cons f fs ih =>
    obtain ⟨k, v⟩ := f
    rw [shownFields, List.map_cons, List.lookup_cons, List.lookup_cons]
    cases n == k with
    | true => rfl
    | false => exact ih

/-! ### Finding the fields of a record -/

/-- A field whose name has not come before is added. -/
theorem addField_shown (hn : n ∉ fs.map (·.1)) (d : Doc) :
    addField (shownFields doc fs) n d = some (shownFields doc fs ++ [(n, d)]) := by
  have hnone : fs.lookup n = none := by
    refine List.lookup_eq_none_iff.2 fun f hf => ?_
    rw [bne_iff_ne]
    rintro rfl
    exact hn (List.mem_map_of_mem hf)
  rw [addField, lookup_shownFields, hnone]
  rfl

theorem fieldName?_of_text {names : List String} {d : Doc} (hd : d.text? = some n) (hn : n ∈ names) :
    fieldName? names d = some (some n) := by
  cases d with
  | int _ => cases hd
  | _ => simp [fieldName?, hd, hn]

/-- Every field that was written is found by its name. -/
theorem collectFields_shown (h : Shows fill doc) {names : List String} (hnames : ∀ m ∈ names, fill m = m)
    (before : List (String × Value)) (hmem : ∀ f ∈ fs, f.1 ∈ names)
    (hnodup : ((before ++ fs).map (·.1)).Nodup) :
    (fs.map fun f => (doc (.text f.1), doc f.2)).foldlM (fun fields (k, v) =>
      match fieldName? names k with
      | none => none
      | some none => some fields
      | some (some name) => addField fields name v) (shownFields doc before) =
        some (shownFields doc (before ++ fs)) := by
  induction fs generalizing before with
  | nil => simp
  | cons f fs ih =>
    obtain ⟨k, v⟩ := f
    have hk : k ∈ names := hmem _ List.mem_cons_self
    have htext : (doc (.text k)).text? = some k := by rw [h.text, hnames k hk]
    have hnew : k ∉ before.map (·.1) := by
      rw [List.map_append, List.map_cons] at hnodup
      exact fun hb => List.disjoint_of_nodup_append hnodup hb List.mem_cons_self
    have hrest := ih (before ++ [(k, v)]) (fun f hf => hmem f (List.mem_cons_of_mem _ hf))
      (by simpa using hnodup)
    rw [List.map_cons, List.foldlM_cons]
    simp only [fieldName?_of_text htext hk, addField_shown hnew, Option.bind_eq_bind, Option.bind_some]
    simpa [shownFields] using hrest

/-- The fields of a written record. -/
theorem fields?_shown (h : Shows fill doc) {names : List String} (hnames : ∀ m ∈ names, fill m = m)
    (hnodup : names.Nodup) (hfs : Value.Named fs names) :
    (doc (.record fs)).fields? names = some (shownFields doc fs) := by
  have hcollect := collectFields_shown h hnames [] hfs.mem (hnodup.sublist hfs)
  rw [h.record]
  exact hcollect

/-- The fold that splits the fields of a record, begun after some of them. -/
theorem foldlM_split_shown (h : Shows fill doc) {settled : Value → Doc} {own other names : List String}
    (hnames : ∀ m ∈ names, fill m = m) (hknown : ∀ m ∈ names, m ∈ own ∨ m ∈ other)
    (before : List (String × Value)) (hmem : ∀ f ∈ fs, f.1 ∈ names)
    (hnodup : ((before ++ fs).map (·.1)).Nodup)
    (hsettle : ∀ f ∈ fs, f.1 ∉ own → (doc f.2).settle? = some (settled f.2)) :
    (fs.map fun f => (doc (.text f.1), doc f.2)).foldlM (fun (mine, set) (k, v) =>
      match k.text? with
      | none => none
      | some name =>
        if own.contains name then (addField mine name v).map fun mine => (mine, set)
        else
          match v.settle? with
          | none => none
          | some v =>
            if other.contains name then (addField set name v).map fun set => (mine, set)
            else some (mine, set))
      (shownFields doc (before.filter fun f => own.contains f.1),
        shownFields settled (before.filter fun f => !own.contains f.1)) =
      some (shownFields doc ((before ++ fs).filter fun f => own.contains f.1),
        shownFields settled ((before ++ fs).filter fun f => !own.contains f.1)) := by
  induction fs generalizing before with
  | nil => simp
  | cons f fs ih =>
    obtain ⟨k, v⟩ := f
    have hk : k ∈ names := hmem _ List.mem_cons_self
    have htext : (doc (.text k)).text? = some k := by rw [h.text, hnames k hk]
    -- a name comes once, so each half takes the field as a new one
    have hnew : ∀ p : String × Value → Bool, k ∉ (before.filter p).map (·.1) := by
      intro p hb
      rw [List.map_append, List.map_cons] at hnodup
      obtain ⟨f, hf, hkf⟩ := List.mem_map.1 hb
      exact List.disjoint_of_nodup_append hnodup
        (List.mem_map.2 ⟨f, List.mem_of_mem_filter hf, hkf⟩) List.mem_cons_self
    have hrest := ih (before ++ [(k, v)]) (fun f hf => hmem f (List.mem_cons_of_mem _ hf))
      (by simpa using hnodup) (fun f hf => hsettle f (List.mem_cons_of_mem _ hf))
    rw [List.map_cons, List.foldlM_cons]
    by_cases hown : k ∈ own
    · simp only [htext, List.contains_eq_mem, hown, decide_true, if_true, addField_shown (hnew _),
        Option.map_some, Option.bind_eq_bind, Option.bind_some]
      simpa [shownFields, List.filter_append, List.filter_cons, hown] using hrest
    · have hother : k ∈ other := (hknown k hk).resolve_left hown
      have hset := hsettle (k, v) List.mem_cons_self hown
      simp only [htext, List.contains_eq_mem, hown, hother, decide_true, decide_false, if_true,
        Bool.false_eq_true, if_false, hset, addField_shown (hnew _), Option.map_some,
        Option.bind_eq_bind, Option.bind_some]
      simpa [shownFields, List.filter_append, List.filter_cons, hown] using hrest

/-- The fields of a written record that has a part set aside. -/
theorem splitFields?_shown (h : Shows fill doc) {settled : Value → Doc} {own other names : List String}
    (hnames : ∀ m ∈ names, fill m = m) (hnodup : names.Nodup) (hfs : Value.Named fs names)
    (hknown : ∀ m ∈ names, m ∈ own ∨ m ∈ other)
    (hsettle : ∀ f ∈ fs, f.1 ∉ own → (doc f.2).settle? = some (settled f.2)) :
    (doc (.record fs)).splitFields? own other =
      some (shownFields doc (fs.filter fun f => own.contains f.1),
        shownFields settled (fs.filter fun f => !own.contains f.1)) := by
  rw [h.record]
  exact foldlM_split_shown h hnames hknown [] hfs.mem (hnodup.sublist hfs) hsettle

/-- A part that a predicate tells from what stands around it. -/
theorem filter_between {α : Type} {p : α → Bool} {before part after : List α}
    (hbefore : ∀ x ∈ before, p x = true) (hpart : ∀ x ∈ part, p x = false)
    (hafter : ∀ x ∈ after, p x = true) :
    (before ++ part ++ after).filter p = before ++ after ∧
      (before ++ part ++ after).filter (fun x => !p x) = part := by
  constructor
  · rw [List.filter_append, List.filter_append, List.filter_eq_self.2 hbefore,
      List.filter_eq_nil_iff.2 (by simpa using hpart), List.filter_eq_self.2 hafter, List.append_nil]
  · rw [List.filter_append, List.filter_append, List.filter_eq_nil_iff.2 (by simpa using hbefore),
      List.filter_eq_self.2 (by simpa using hpart), List.filter_eq_nil_iff.2 (by simpa using hafter),
      List.append_nil, List.nil_append]

/-- The fields of a written record whose part set aside stands between fields of its own. -/
theorem splitFields?_parts (h : Shows fill doc) {settled : Value → Doc} {own own' other : List String}
    {before part after : List (String × Value)} (hnames : ∀ m ∈ own ++ other ++ own', fill m = m)
    (hnodup : (own ++ other ++ own').Nodup) (hbefore : Value.Named before own)
    (hpart : Value.Named part other) (hafter : Value.Named after own')
    (hsettle : ∀ f ∈ part, (doc f.2).settle? = some (settled f.2)) :
    (doc (.record (before ++ part ++ after))).splitFields? (own ++ own') other =
      some (shownFields doc (before ++ after), shownFields settled part) := by
  -- no name of the part is one of the record's own
  have hout : ∀ f ∈ part, f.1 ∉ own ++ own' := by
    intro f hf hown
    have hmem : f.1 ∈ other := hpart.mem f hf
    rw [List.nodup_append, List.nodup_append] at hnodup
    obtain ⟨⟨-, -, hleft⟩, -, hright⟩ := hnodup
    rcases List.mem_append.1 hown with hown | hown
    · exact hleft f.1 hown f.1 hmem rfl
    · exact hright f.1 (List.mem_append_right _ hmem) f.1 hown rfl
  have hfirst : ∀ f ∈ before, f.1 ∈ own ++ own' := fun f hf => List.mem_append_left _ (hbefore.mem f hf)
  have hlast : ∀ f ∈ after, f.1 ∈ own ++ own' := fun f hf => List.mem_append_right _ (hafter.mem f hf)
  obtain ⟨hmine, hset⟩ := filter_between (p := fun f => (own ++ own').contains f.1)
    (fun f hf => List.contains_iff_mem.2 (hfirst f hf)) (fun f hf => by simpa using hout f hf)
    fun f hf => List.contains_iff_mem.2 (hlast f hf)
  have hnamed := (hbefore.append hpart).append hafter
  have hknown : ∀ m ∈ own ++ other ++ own', m ∈ own ++ own' ∨ m ∈ other := by
    intro m hm
    rcases List.mem_append.1 hm with hm | hm
    · rcases List.mem_append.1 hm with hm | hm
      · exact .inl (List.mem_append_left _ hm)
      · exact .inr hm
    · exact .inl (List.mem_append_right _ hm)
  have hsettles : ∀ f ∈ before ++ part ++ after, f.1 ∉ own ++ own' →
      (doc f.2).settle? = some (settled f.2) := by
    intro f hf hown
    simp only [List.mem_append] at hf
    rcases hf with (hf | hf) | hf
    · exact absurd (hfirst f hf) hown
    · exact hsettle f hf
    · exact absurd (hlast f hf) hown
  rw [splitFields?_shown h hnames hnodup hnamed hknown hsettles, hmine, hset]

/-! ### Reading a field -/

/-- What is filled in for a text without a placeholder is the text. -/
def Steady (fill : String → String) : Prop := ∀ s : String, '$' ∉ s.toList → fill s = s

theorem Steady.names (h : Steady fill) {names : List String}
    (hnames : names.all (fun m => !m.toList.contains '$') = true) : ∀ m ∈ names, fill m = m := by
  intro m hm
  have hmark := List.all_eq_true.1 hnames m hm
  exact h m (by simpa using hmark)

namespace Shows

variable {α β : Type} {write : α → Value} {read : Doc → Option β} {g : α → β}

theorem required {v : Value} {b : β} (hl : fs.lookup n = some v) (hread : read (doc v) = some b) :
    (shownFields doc fs).required n read = some b := by
  rw [Fields.required, lookup_shownFields, hl, Option.map_some, Option.bind_some, hread]

theorem optional (h : Shows fill doc) {o : Option α} (hl : fs.lookup n = o.map write)
    (hread : ∀ a, o = some a → read (doc (write a)) = some (g a)) :
    (shownFields doc fs).optional n read = some (o.map g) := by
  rw [Fields.optional, lookup_shownFields, hl]
  cases o with
  | none => rfl
  | some a => simp [h.present, hread a rfl]

theorem list? (h : Shows fill doc) (l : List α)
    (hread : ∀ a ∈ l, read (doc (write a)) = some (g a)) :
    Doc.list? read (doc (.list (l.map write))) = some (l.map g) := by
  rw [Doc.list?, h.items, Option.bind_some]
  induction l with
  | nil => rfl
  | cons a l ih =>
    have hrest := ih fun b hb => hread b (List.mem_cons_of_mem _ hb)
    rw [List.map_cons, List.map_cons, List.mapM_cons, hread a List.mem_cons_self, hrest]
    rfl

theorem list (h : Shows fill doc) {l : List α}
    (hl : fs.lookup n = if l.isEmpty then none else some (.list (l.map write)))
    (hread : ∀ a ∈ l, read (doc (write a)) = some (g a)) :
    (shownFields doc fs).list n read = some (l.map g) := by
  rw [Fields.list, Fields.withDefault, lookup_shownFields, hl]
  cases l with
  | nil => rfl
  | cons a l => exact h.list? (a :: l) hread

theorem readDict (h : Shows fill doc) (es : List (String × α))
    (hread : ∀ e ∈ es, read (doc (write e.2)) = some (g e.2)) :
    Job.readDict read (doc (.record (es.map fun e => (e.1, write e.2)))) =
      some (Dict.ofList (es.map fun e => (fill e.1, g e.2))) := by
  have hmap : Doc.map? read (doc (.record (es.map fun e => (e.1, write e.2)))) =
      some (es.map fun e => (fill e.1, g e.2)) := by
    rw [Doc.map?, h.record, Doc.entries?, Option.bind_some]
    induction es with
    | nil => rfl
    | cons e es ih =>
      have hrest := ih fun e' he => hread e' (List.mem_cons_of_mem _ he)
      rw [List.map_cons, List.map_cons, List.mapM_cons, hrest]
      simp only [h.text, hread e List.mem_cons_self, Option.bind_eq_bind, Option.bind_some]
      rfl
  rw [Job.readDict, hmap]
  rfl

theorem dict (h : Shows fill doc) {es : List (String × α)}
    (hl : fs.lookup n =
      if es.isEmpty then none else some (.record (es.map fun e => (e.1, write e.2))))
    (hread : ∀ e ∈ es, read (doc (write e.2)) = some (g e.2)) :
    (shownFields doc fs).withDefault n .empty (Job.readDict read) =
      some (Dict.ofList (es.map fun e => (fill e.1, g e.2))) := by
  rw [Fields.withDefault, lookup_shownFields, hl]
  cases es with
  | nil => rfl
  | cons e es => exact h.readDict (e :: es) hread

/-! Fields of the plain types. -/

theorem requiredText (h : Shows fill doc) {s : String} (hl : fs.lookup n = some (.text s)) :
    (shownFields doc fs).required n text? = some (fill s) :=
  required hl (h.text s)

theorem optionalText (h : Shows fill doc) {o : Option String} (hl : fs.lookup n = o.map .text) :
    (shownFields doc fs).optional n text? = some (o.map fill) :=
  h.optional hl fun s _ => h.text s

theorem optionalBool (h : Shows fill doc) {o : Option Bool} (hl : fs.lookup n = o.map .bool) :
    (shownFields doc fs).optional n bool? = some o := by
  have hread := h.optional hl fun b _ => (h.bool b).trans (congrArg some (id_eq (a := b)).symm)
  rwa [Option.map_id] at hread

theorem optionalNat (h : Shows fill doc) {o : Option Nat} (hl : fs.lookup n = o.map .nat)
    (ho : ∀ m, o = some m → m < Nat.pow 2 64) :
    (shownFields doc fs).optional n (nat? 64) = some o := by
  have hread := h.optional (g := id) hl fun m hm => h.nat m (ho m hm)
  rwa [Option.map_id] at hread

theorem listText (h : Shows fill doc) {l : List String}
    (hl : fs.lookup n = if l.isEmpty then none else some (.list (l.map .text))) :
    (shownFields doc fs).list n text? = some (l.map fill) :=
  h.list hl fun s _ => h.text s

end Shows

end Doc

end ScrapeFleet
