/-
# ScrapeFleet.Proofs.Yaml.Tree — from the tokens of a value to its document

The tokens of a value hold no anchors, tags or aliases, so the tree that they make expands to itself. Every
scalar of it stays a scalar as it was written: what it means is up to the reader of the document.
-/
import ScrapeFleet.Proofs.Yaml.Stream
import ScrapeFleet.Yaml.Reader

namespace ScrapeFleet.Yaml

/-! ## The tree and the document of a value -/

/-- How a form looks to the reader of a document. -/
def Style.scalarStyle : Style → ScalarStyle
  | .plain => .plain
  | .literal => .literal
  | .single | .double => .quoted

section

variable (fill : String → String)

/-- A text as a scalar. -/
def textScalar (s : String) : Scalar := ⟨fill s, (style s).scalarStyle, none⟩

mutual

/-- The tree of a written value. -/
def valueNode : Value → Node
  | .bool b => .scalar none ⟨if b then "true" else "false", .plain, none⟩
  | .int n => .scalar none ⟨toString n, .plain, none⟩
  | .text s => .scalar none (textScalar fill s)
  | .list vs => .sequence none none (itemNodes vs)
  | .record fs => .mapping none none (fieldNodes fs)

/-- The trees of the items of a list. -/
def itemNodes : List Value → List Node
  | [] => []
  | v :: vs => valueNode v :: itemNodes vs

/-- The trees of the entries of a record. -/
def fieldNodes : List (String × Value) → List (Node × Node)
  | [] => []
  | (k, v) :: fs => (.scalar none (textScalar fill k), valueNode v) :: fieldNodes fs

end

mutual

/-- The document of a written value. -/
def valueDoc : Value → Doc
  | .bool b => .scalar ⟨if b then "true" else "false", .plain, none⟩
  | .int n => .scalar ⟨toString n, .plain, none⟩
  | .text s => .scalar (textScalar fill s)
  | .list vs => .sequence (itemDocs vs)
  | .record fs => .record (fieldDocs fs)

/-- The documents of the items of a list. -/
def itemDocs : List Value → List Doc
  | [] => []
  | v :: vs => valueDoc v :: itemDocs vs

/-- The documents of the entries of a record. -/
def fieldDocs : List (String × Value) → List (Doc × Doc)
  | [] => []
  | (k, v) :: fs => (.scalar (textScalar fill k), valueDoc v) :: fieldDocs fs

end

end

variable {fill : String → String} {handles : TagHandles} {v : Value} {vs : List Value}
  {fs : List (String × Value)}

/-! ## Reading one part -/

theorem readNode_scalar (block unindented : Bool) (text : String) (form : ScalarForm)
    (rest : List Token) :
    readNode handles block unindented (.scalar text form :: rest) =
      some (scalarNode {} text form, rest) := by
  rw [readNode]
  · simp [readProperties]
  · simp

theorem readNode_text (block unindented : Bool) (s : String) (rest : List Token) :
    readNode handles block unindented (textToken fill s :: rest) =
      some (.scalar none (textScalar fill s), rest) := by
  rw [textToken, readNode_scalar]
  unfold scalarNode textScalar
  cases style s <;> rfl

theorem readNode_flowSequence (block unindented : Bool) (rest : List Token) :
    readNode handles block unindented (.flowSequenceStart :: .flowSequenceEnd :: rest) =
      some (.sequence none none [], rest) := by
  rw [readNode]
  · simp [readProperties, readFlowItems]
  · simp

theorem readNode_flowMapping (block unindented : Bool) (rest : List Token) :
    readNode handles block unindented (.flowMappingStart :: .flowMappingEnd :: rest) =
      some (.mapping none none [], rest) := by
  rw [readNode]
  · simp [readProperties, readFlowPairs]
  · simp

theorem readNode_blockSequence (unindented : Bool) {items : List Node} {ts rest : List Token}
    (h : readBlockItems handles [] ts = some (items, rest)) :
    readNode handles true unindented (.blockSequenceStart :: ts) =
      some (.sequence none none items, rest) := by
  rw [readNode]
  · simp [readProperties, h]
  · simp

theorem readNode_blockMapping (unindented : Bool) {entries : List (Node × Node)} {ts rest : List Token}
    (h : readBlockPairs handles [] ts = some (entries, rest)) :
    readNode handles true unindented (.blockMappingStart :: ts) =
      some (.mapping none none entries, rest) := by
  rw [readNode]
  · simp [readProperties, h]
  · simp

theorem readNode_unindented {items : List Node} {ts rest : List Token}
    (h : readUnindented handles [] (.blockEntry :: ts) = some (items, rest)) :
    readNode handles true true (.blockEntry :: ts) = some (.sequence none none items, rest) := by
  rw [readNode]
  · simp [readProperties, h]
  · simp

/-- The tokens at which a part starts, so that it is not absent. -/
def startsPart : Token → Bool
  | .key | .value | .blockEnd | .blockEntry => false
  | _ => true

/-- A value is not absent; a bare list starts with the mark of its first item. -/
theorem exists_valueTokens (fill : String → String) (bare : Bool) (v : Value) :
    ∃ t r, valueTokens fill bare v = t :: r ∧ (startsPart t = true ∨ bare = true ∧ t = .blockEntry) := by
  match v with
  | .bool _ => exact ⟨_, _, rfl, .inl rfl⟩
  | .int _ => exact ⟨_, _, rfl, .inl rfl⟩
  | .text _ => exact ⟨_, _, rfl, .inl rfl⟩
  | .list [] => exact ⟨_, _, rfl, .inl rfl⟩
  | .list (_ :: _) =>
    cases bare with
    | true => exact ⟨_, _, rfl, .inr ⟨rfl, rfl⟩⟩
    | false => exact ⟨_, _, rfl, .inl rfl⟩
  | .record [] => exact ⟨_, _, rfl, .inl rfl⟩
  | .record (_ :: _) => exact ⟨_, _, rfl, .inl rfl⟩

/-! ## Reading a value -/

/-- The reader makes the tree of the value of its tokens and leaves what follows. Behind a bare list no
other item follows. -/
def ReadsNode (fill : String → String) (handles : TagHandles) (v : Value) : Prop :=
  ∀ (bare unindented : Bool) (rest : List Token),
    (bare = true → unindented = true ∧ rest.head? ≠ some .blockEntry) →
    readNode handles true unindented (valueTokens fill bare v ++ rest) = some (valueNode fill v, rest)

/-- The reader makes the trees of the items of a list, in either layout. -/
structure ReadsItemNodes (fill : String → String) (handles : TagHandles) (vs : List Value) : Prop where
  block : ∀ out rest, readBlockItems handles out (itemTokens fill vs ++ .blockEnd :: rest) =
    some (out.reverse ++ itemNodes fill vs, rest)
  bare : ∀ out rest, rest.head? ≠ some .blockEntry →
    readUnindented handles out (itemTokens fill vs ++ rest) =
      some (out.reverse ++ itemNodes fill vs, rest)

/-- The reader makes the trees of the entries of a record. -/
def ReadsFieldNodes (fill : String → String) (handles : TagHandles) (fs : List (String × Value)) : Prop :=
  ∀ out rest, readBlockPairs handles out (fieldTokens fill fs ++ .blockEnd :: rest) =
    some (out.reverse ++ fieldNodes fill fs, rest)

theorem readsItemNodes_nil : ReadsItemNodes fill handles [] where
  block out rest := by
    simp [itemTokens, itemNodes, readBlockItems]
  bare out rest hrest := by
    rw [itemTokens, itemNodes, List.nil_append, List.append_nil]
    unfold readUnindented
    split
    · exact absurd rfl hrest
    · rfl

theorem readsItemNodes_cons (hv : ReadsNode fill handles v) (hvs : ReadsItemNodes fill handles vs) :
    ReadsItemNodes fill handles (v :: vs) := by
  obtain ⟨t, r, ht, hstart⟩ := exists_valueTokens fill false v
  have hends : ∀ after, endsBlockItem (valueTokens fill false v ++ after) = false ∧
      endsUnindentedItem (valueTokens fill false v ++ after) = false := by
    intro after
    rw [ht]
    have hpart : startsPart t = true := hstart.resolve_right (by simp)
    cases t <;> first | exact ⟨rfl, rfl⟩ | cases hpart
  have hlen : ∀ after : List Token, after.length ≤ (valueTokens fill false v ++ after).length := by
    intro after
    rw [List.length_append]
    exact Nat.le_add_left _ _
  constructor
  · intro out rest
    have hnode := hv false false (itemTokens fill vs ++ .blockEnd :: rest) (by simp)
    rw [itemTokens, List.cons_append, List.append_assoc, readBlockItems]
    simp only [(hends _).1, hnode, Bool.false_eq_true, if_false, dif_pos (hlen _)]
    rw [hvs.block, itemNodes]
    simp
  · intro out rest hrest
    have hnode := hv false false (itemTokens fill vs ++ rest) (by simp)
    rw [itemTokens, List.cons_append, List.append_assoc, readUnindented]
    simp only [(hends _).2, hnode, Bool.false_eq_true, if_false, dif_pos (hlen _)]
    rw [hvs.bare _ _ hrest, itemNodes]
    simp

theorem readsFieldNodes_nil : ReadsFieldNodes fill handles [] := by
  intro out rest
  simp [fieldTokens, fieldNodes, readBlockPairs]

theorem readsFieldNodes_cons {k : String} (hv : ReadsNode fill handles v)
    (hfs : ReadsFieldNodes fill handles fs) : ReadsFieldNodes fill handles ((k, v) :: fs) := by
  intro out rest
  -- what follows the value is the next key or the end of the record, never another item
  have hnext : (fieldTokens fill fs ++ .blockEnd :: rest).head? ≠ some .blockEntry := by
    cases fs with
    | nil => simp [fieldTokens]
    | cons f fs => simp [fieldTokens]
  have hnode := hv (isShortKey k) true _ fun _ => ⟨rfl, hnext⟩
  have hkey : ∀ after, endsBlockPart (textToken fill k :: after) = false := fun _ => rfl
  have hvalue : ∀ after, endsBlockPart (valueTokens fill (isShortKey k) v ++ after) = false := by
    intro after
    obtain ⟨t, r, ht, hstart⟩ := exists_valueTokens fill (isShortKey k) v
    rw [ht]
    rcases hstart with hpart | ⟨-, rfl⟩
    · cases t <;> first | rfl | cases hpart
    · rfl
  have hread : readBlockValue handles
      (.value :: (valueTokens fill (isShortKey k) v ++ (fieldTokens fill fs ++ .blockEnd :: rest))) =
        some (valueNode fill v, fieldTokens fill fs ++ .blockEnd :: rest) := by
    rw [readBlockValue]
    simp only [hvalue, Bool.false_eq_true, if_false]
    exact hnode
  have hlen : (fieldTokens fill fs ++ .blockEnd :: rest).length ≤
      (.value :: (valueTokens fill (isShortKey k) v ++ (fieldTokens fill fs ++ .blockEnd :: rest))).length := by
    simp only [List.length_cons, List.length_append]
    omega
  rw [fieldTokens, List.cons_append, List.cons_append, List.cons_append, List.append_assoc,
    readBlockPairs]
  simp only [hkey, readNode_text, Bool.false_eq_true, if_false, hread, dif_pos hlen]
  rw [dif_pos (by simp), hfs, fieldNodes]
  simp

theorem readsNode_list (hvs : ReadsItemNodes fill handles (v :: vs)) :
    ReadsNode fill handles (.list (v :: vs)) := by
  intro bare unindented rest hbare
  rw [valueTokens, valueNode]
  cases bare with
  | true =>
    obtain ⟨rfl, hrest⟩ := hbare rfl
    have hitems := hvs.bare [] rest hrest
    rw [itemTokens, List.cons_append] at hitems
    rw [if_pos rfl, itemTokens, List.cons_append, readNode_unindented hitems]
    rfl
  | false =>
    have hitems := hvs.block [] rest
    rw [if_neg (by decide), List.cons_append, List.append_assoc, List.singleton_append,
      readNode_blockSequence unindented hitems]
    rfl

theorem readsNode_record {f : String × Value} (hfs : ReadsFieldNodes fill handles (f :: fs)) :
    ReadsNode fill handles (.record (f :: fs)) := by
  intro bare unindented rest _
  have hentries := hfs [] rest
  rw [valueTokens, valueNode, List.cons_append, List.append_assoc, List.singleton_append,
    readNode_blockMapping unindented hentries]
  rfl

mutual

theorem readsNode (fill : String → String) (handles : TagHandles) :
    ∀ v : Value, ReadsNode fill handles v
  | .bool _ => fun _ _ _ _ => readNode_scalar _ _ _ _ _
  | .int _ => fun _ _ _ _ => readNode_scalar _ _ _ _ _
  | .text _ => fun _ _ _ _ => readNode_text _ _ _ _
  | .list [] => fun _ _ _ _ => readNode_flowSequence _ _ _
  | .list (v :: vs) =>
    readsNode_list (readsItemNodes_cons (readsNode fill handles v) (readsItemNodes fill handles vs))
  | .record [] => fun _ _ _ _ => readNode_flowMapping _ _ _
  | .record ((_, v) :: fs) =>
    readsNode_record (readsFieldNodes_cons (readsNode fill handles v) (readsFieldNodes fill handles fs))

theorem readsItemNodes (fill : String → String) (handles : TagHandles) :
    ∀ vs : List Value, ReadsItemNodes fill handles vs
  | [] => readsItemNodes_nil
  | v :: vs => readsItemNodes_cons (readsNode fill handles v) (readsItemNodes fill handles vs)

theorem readsFieldNodes (fill : String → String) (handles : TagHandles) :
    ∀ fs : List (String × Value), ReadsFieldNodes fill handles fs
  | [] => readsFieldNodes_nil
  | (_, v) :: fs => readsFieldNodes_cons (readsNode fill handles v) (readsFieldNodes fill handles fs)

end

/-! ## The document -/

/-- A tree without anchors expands to itself. -/
theorem expand_scalar (s : Scalar) (hs : s.tag = none) (x : Expansion) :
    (Node.scalar none s).expand x = some (.scalar s, x) := by
  rw [Node.expand, hs]
  rfl

mutual

theorem expand_valueNode (fill : String → String) :
    ∀ (v : Value) (x : Expansion), (valueNode fill v).expand x = some (valueDoc fill v, x)
  | .bool _, x => expand_scalar _ rfl x
  | .int _, x => expand_scalar _ rfl x
  | .text _, x => expand_scalar _ rfl x
  | .list vs, x => by
    rw [valueNode, Node.expand, Expansion.start, expandAll_itemNodes fill vs x]
    rfl
  | .record fs, x => by
    rw [valueNode, Node.expand, Expansion.start, expandEntries_fieldNodes fill fs x]
    rfl

theorem expandAll_itemNodes (fill : String → String) :
    ∀ (vs : List Value) (x : Expansion),
      Node.expand.expandAll (itemNodes fill vs) x = some (itemDocs fill vs, x)
  | [], _ => rfl
  | v :: vs, x => by
    rw [itemNodes, Node.expand.expandAll, expand_valueNode fill v x]
    simp only [expandAll_itemNodes fill vs x]
    rfl

theorem expandEntries_fieldNodes (fill : String → String) :
    ∀ (fs : List (String × Value)) (x : Expansion),
      Node.expand.expandEntries (fieldNodes fill fs) x = some (fieldDocs fill fs, x)
  | [], _ => rfl
  | (k, v) :: fs, x => by
    rw [fieldNodes, Node.expand.expandEntries, expand_scalar _ rfl x]
    simp only [expand_valueNode fill v x, expandEntries_fieldNodes fill fs x]
    rfl

end

mutual

/-- What is not nested too deep is kept whole. -/
theorem cutBelow_valueDoc (fill : String → String) :
    ∀ (v : Value) (d : Nat), v.depth ≤ d → cutBelow d (valueDoc fill v) = valueDoc fill v
  | .bool _, _, _ => rfl
  | .int _, _, _ => rfl
  | .text _, _, _ => rfl
  | .list vs, d, hd => by
    obtain ⟨d, rfl⟩ : ∃ e, d = e + 1 := ⟨d - 1, by simp only [Value.depth] at hd; omega⟩
    have hitems : Value.itemDepth vs ≤ d := by
      simp only [Value.depth] at hd
      omega
    rw [valueDoc, cutBelow, cutAll_itemDocs fill vs d hitems]
  | .record fs, d, hd => by
    obtain ⟨d, rfl⟩ : ∃ e, d = e + 1 := ⟨d - 1, by simp only [Value.depth] at hd; omega⟩
    have hfields : Value.fieldDepth fs ≤ d := by
      simp only [Value.depth] at hd
      omega
    rw [valueDoc, cutBelow, cutEntries_fieldDocs fill fs d hfields]

theorem cutAll_itemDocs (fill : String → String) :
    ∀ (vs : List Value) (d : Nat), Value.itemDepth vs ≤ d →
      cutBelow.cutAll d (itemDocs fill vs) = itemDocs fill vs
  | [], _, _ => rfl
  | v :: vs, d, hd => by
    simp only [Value.itemDepth] at hd
    rw [itemDocs, cutBelow.cutAll, cutBelow_valueDoc fill v d (by omega),
      cutAll_itemDocs fill vs d (by omega)]

theorem cutEntries_fieldDocs (fill : String → String) :
    ∀ (fs : List (String × Value)) (d : Nat), Value.fieldDepth fs ≤ d →
      cutBelow.cutEntries d (fieldDocs fill fs) = fieldDocs fill fs
  | [], _, _ => rfl
  | (k, v) :: fs, d, hd => by
    simp only [Value.fieldDepth] at hd
    rw [fieldDocs, cutBelow.cutEntries, cutBelow_valueDoc fill v d (by omega),
      cutEntries_fieldDocs fill fs d (by omega)]
    rfl

end

/-- A document that starts with a record needs no mark. -/
theorem readDocument_node {t : Token} {ts : List Token} {n : Node}
    (ht : t = .blockMappingStart ∨ t = .flowMappingStart)
    (hnode : readNode defaultHandles true false (t :: ts) = some (n, [.streamEnd])) :
    readDocument (t :: ts) = some n := by
  rcases ht with rfl | rfl <;> simp [readDocument, endsDocument, hnode, isFinished]

/-- The document of a written record, whatever is filled in for its texts. -/
theorem read?_record (hfill : Suits fill) (fs : List (String × Value))
    (hkeys : ∀ k ∈ (Value.record fs).keys, KeyFits fill k) (hdepth : (Value.record fs).depth ≤ depthLimit) :
    read? (inline (written fill) 0 (.record fs)) = some (valueDoc fill (.record fs)) := by
  have hnode := readsNode fill defaultHandles (.record fs) false false [.streamEnd] (by simp)
  have htree : readDocument (valueTokens fill false (.record fs) ++ [.streamEnd]) =
      some (valueNode fill (.record fs)) := by
    cases fs with
    | nil => exact readDocument_node (.inr rfl) hnode
    | cons f fs => exact readDocument_node (.inl rfl) hnode
  have hdoc : docOfNode? (valueNode fill (.record fs)) = some (valueDoc fill (.record fs)) := by
    rw [docOfNode?, expand_valueNode]
    simp only [cutBelow_valueDoc fill _ _ hdepth]
    rfl
  rw [read?, tokenize_record hfill fs hkeys]
  simp only [htree, Option.bind_some, hdoc]

end ScrapeFleet.Yaml
