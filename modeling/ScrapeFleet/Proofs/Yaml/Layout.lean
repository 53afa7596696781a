/-
# ScrapeFleet.Proofs.Yaml.Layout — from a written document to its tokens

The tokens of a value follow its structure. What the lexer does with a written value is said for each
constructor from what it does with the parts, and for all values by induction.

The forms of the scalars are those chosen for the texts of the value (`style`), but what is written in
them may be something else (`fill`), as long as each form carries what is written in it.
-/
import ScrapeFleet.Proofs.Document.Parts
import ScrapeFleet.Proofs.Yaml.Scalars

namespace ScrapeFleet.Yaml

/-! ## The tokens of a value -/

section

variable (fill : String → String)

/-- A text filled in and written in the form that was chosen for it. -/
def written (indent : Nat) (s : String) : String := (style s).write indent (fill s)

/-- The token of a text. -/
def textToken (s : String) : Token := .scalar (fill s) (style s).form

mutual

/-- The tokens of a value. A `bare` list, one right under its key, has no start and no end. -/
def valueTokens (bare : Bool) : Value → List Token
  | .bool b => [.scalar (if b then "true" else "false") .plain]
  | .int n => [.scalar (toString n) .plain]
  | .text s => [textToken fill s]
  | .list [] => [.flowSequenceStart, .flowSequenceEnd]
  | .list (v :: vs) =>
    if bare then itemTokens (v :: vs) else .blockSequenceStart :: (itemTokens (v :: vs) ++ [.blockEnd])
  | .record [] => [.flowMappingStart, .flowMappingEnd]
  | .record (f :: fs) => .blockMappingStart :: (fieldTokens (f :: fs) ++ [.blockEnd])

/-- The tokens of the items of a list. -/
def itemTokens : List Value → List Token
  | [] => []
  | v :: vs => .blockEntry :: (valueTokens false v ++ itemTokens vs)

/-- The tokens of the entries of a record. -/
def fieldTokens : List (String × Value) → List Token
  | [] => []
  | (k, v) :: fs =>
    .key :: textToken fill k :: .value :: (valueTokens (isShortKey k) v ++ fieldTokens fs)

end

end

/-- What is filled in suits the forms that were chosen. -/
structure Suits (fill : String → String) : Prop where
  /-- Every form carries what is written in it. -/
  carries : ∀ s, (style s).Carries (fill s).toList
  /-- A line stays a line. -/
  unbroken : ∀ s : String, (∀ x ∈ s.toList, isBreak x = false) → ∀ x ∈ (fill s).toList, isBreak x = false

/-- A key that stands on one line with its value is not too long for that. -/
def KeyFits (fill : String → String) (k : String) : Prop :=
  isShortKey k = true → (written fill 2 k).toList.length ≤ keyLimit

variable {fill : String → String}

/-! ## The text of a value -/

theorem inline_bool (scalar : Nat → String → String) (i : Nat) (b : Bool) :
    inline scalar i (.bool b) = (if b then "true" else "false") ++ "\n" := by
  cases b <;> rfl

theorem toList_inline_nil (scalar : Nat → String → String) (i : Nat) :
    (inline scalar i (.list [])).toList = ['[', ']', '\n'] := by
  simp [inline]

theorem toList_inline_empty (scalar : Nat → String → String) (i : Nat) :
    (inline scalar i (.record [])).toList = ['\x7b', '\x7d', '\n'] := by
  simp [inline]

theorem toList_items (scalar : Nat → String → String) (i : Nat) (v : Value) (vs : List Value)
    (text : List Char) : (items scalar i (v :: vs)).toList ++ text = List.replicate i ' ' ++
      '-' :: ' ' :: ((inline scalar (i + 2) v).toList ++ ((items scalar i vs).toList ++ text)) := by
  simp [items, spaces]

theorem toList_fields (scalar : Nat → String → String) (i : Nat) (k : String) (v : Value)
    (fs : List (String × Value)) (text : List Char) :
    (fields scalar i ((k, v) :: fs)).toList ++ text = List.replicate i ' ' ++
      ((keyText scalar i k).toList ++ ':' ::
        ((valueText scalar i (isShortKey k) v).toList ++ ((fields scalar i fs).toList ++ text))) := by
  simp [fields, spaces]

theorem atToken_keyText (hfill : Suits fill) (i : Nat) (k : String) (r : List Char) :
    AtToken ((keyText (written fill) i k).toList ++ r) := by
  unfold keyText
  split
  · obtain ⟨x, w, hw, hx⟩ := (hfill.carries k).exists_start (i + 2)
    rw [written, hw]
    exact .of_start hx _
  · rw [String.toList_append, String.toList_append]
    exact .of_start (x := '?') rfl _

theorem atToken_inline (hfill : Suits fill) (i : Nat) (v : Value) (r : List Char) :
    AtToken ((inline (written fill) i v).toList ++ r) := by
  match v with
  | .bool b =>
    obtain ⟨x, w, hw, hx⟩ := (plainText_bool b).exists_start
    rw [inline_bool, String.toList_append, hw]
    exact .of_start hx _
  | .int n =>
    obtain ⟨x, w, hw, hx⟩ := (plainText_int n).exists_start
    rw [inline, String.toList_append, hw]
    exact .of_start hx _
  | .text s =>
    obtain ⟨x, w, hw, hx⟩ := (hfill.carries s).exists_start i
    rw [inline, toList_endLine, written, hw]
    exact .of_start hx _
  | .list [] =>
    rw [toList_inline_nil]
    exact .of_start rfl _
  | .list (v :: vs) =>
    rw [inline, String.toList_append, String.toList_append]
    exact .of_start (x := '-') rfl _
  | .record [] =>
    rw [toList_inline_empty]
    exact .of_start rfl _
  | .record ((k, v) :: fs) =>
    rw [inline, String.toList_append, String.toList_append, String.toList_append, List.append_assoc,
      List.append_assoc, List.append_assoc]
    exact atToken_keyText hfill i k _

theorem Outdented.mono {i j : Nat} {text : List Char} (h : Outdented i text) (hij : i ≤ j) :
    Outdented j text := by
  obtain ⟨m, body, htext, hm, hbody⟩ := h
  exact ⟨m, body, htext, Nat.le_trans hm hij, hbody⟩

/-- The items of a list are a part of a document like what follows them. -/
theorem outdented_items {i : Nat} {text : List Char} (htext : Outdented i text) (vs : List Value) :
    Outdented i ((items (written fill) i vs).toList ++ text) := by
  cases vs with
  | nil => exact htext
  | cons v vs => exact ⟨i, _, toList_items _ i v vs text, Nat.le_refl i, .of_start rfl _⟩

/-- So are the entries of a record. -/
theorem outdented_fields (hfill : Suits fill) {i : Nat} {text : List Char} (htext : Outdented i text)
    (fs : List (String × Value)) : Outdented i ((fields (written fill) i fs).toList ++ text) := by
  cases fs with
  | nil => exact htext
  | cons f fs =>
    exact ⟨i, _, toList_fields _ i f.1 f.2 fs text, Nat.le_refl i, atToken_keyText hfill i f.1 _⟩

/-- A block ends with the first line that is not as deep. -/
theorem atLine_outdented {i j : Nat} {text : List Char} (htext : Outdented j text) (hij : j < i)
    (tokens : List Token) (outer : List Int) :
    Spot.atLine text tokens i ((j : Int) :: outer) = Spot.atLine text (tokens ++ [.blockEnd]) j outer := by
  obtain ⟨m, body, rfl, hm, hbody⟩ := htext
  have hdeep : (m : Int) < (i : Int) := by omega
  rw [Spot.atLine_spaces hbody, Spot.atLine_spaces hbody, Spot.closed_deeper hdeep]

/-! ## What the lexer makes of a written value -/

/-- The lexer reads a value where it stands on the line of a dash or of a mark, and behind the colon of its
key. -/
structure ReadsValue (fill : String → String) (v : Value) : Prop where
  inline : ∀ {p : Spot} {i : Nat} {text : List Char} {ts : Array Token}, p.indent = i →
    p.column = i + 2 → p.allowed = true → Outdented i text →
    p.rest = (Yaml.inline (written fill) (i + 2) v).toList ++ text →
    (Spot.atLine text (p.tokens ++ valueTokens fill false v) p.indent p.outer).Reads ts → p.Reads ts
  underKey : ∀ {p : Spot} {i : Nat} {short : Bool} {text : List Char} {ts : Array Token},
    p.indent = i → i < p.column → (short = false → p.column = i + 1) → p.allowed = !short →
    Outdented i text → p.rest = (valueText (written fill) i short v).toList ++ text →
    (Spot.atLine text (p.tokens ++ valueTokens fill short v) p.indent p.outer).Reads ts → p.Runs ts

/-- The lexer reads the items of a list from the start of a line. -/
def ReadsItems (fill : String → String) (vs : List Value) : Prop :=
  ∀ {i : Nat} {tokens : List Token} {outer : List Int} {text : List Char} {ts : Array Token},
    Outdented i text → (Spot.atLine text (tokens ++ itemTokens fill vs) i outer).Reads ts →
    (Spot.atLine ((items (written fill) i vs).toList ++ text) tokens i outer).Reads ts

/-- The lexer reads the entries of a record from the start of a line. -/
def ReadsFields (fill : String → String) (fs : List (String × Value)) : Prop :=
  ∀ {i : Nat} {tokens : List Token} {outer : List Int} {text : List Char} {ts : Array Token},
    Outdented i text → (Spot.atLine text (tokens ++ fieldTokens fill fs) i outer).Reads ts →
    (Spot.atLine ((fields (written fill) i fs).toList ++ text) tokens i outer).Reads ts

variable {v : Value} {vs : List Value} {k : String} {fs : List (String × Value)}

/-! ### Values on one line -/

/-- A value that is read alike wherever it ends its line. -/
theorem ReadsValue.of_line (hfill : Suits fill)
    (hbare : ∀ bare, valueTokens fill bare v = valueTokens fill false v)
    (htext : ∀ i short, valueText (written fill) i short v = " " ++ Yaml.inline (written fill) (i + 2) v)
    (hread : ∀ {p : Spot} {i : Nat} {text : List Char} {ts : Array Token}, p.indent = i → i < p.column →
      Outdented i text → p.rest = (Yaml.inline (written fill) (i + 2) v).toList ++ text →
      (Spot.atLine text (p.tokens ++ valueTokens fill false v) p.indent p.outer).Reads ts → p.Reads ts) :
    ReadsValue fill v where
  inline hindent hcol _ hout hp h := hread hindent (by omega) hout hp h
  underKey {p i short text ts} hindent hcol _ _ hout hp h := by
    have hp' : p.rest = ' ' :: ((Yaml.inline (written fill) (i + 2) v).toList ++ text) := by
      rw [hp, htext]
      simp
    refine Spot.runs_space hp' (atToken_inline hfill (i + 2) v text) (by omega) ?_
    refine hread (i := i) hindent ?_ hout rfl ?_
    · show i < p.column + 1
      omega
    · rw [hbare] at h
      simpa [Spot.behind] using h

theorem readsValue_bool (hfill : Suits fill) (b : Bool) : ReadsValue fill (.bool b) := by
  refine .of_line hfill (fun _ => rfl) (fun i short => ?_) ?_
  · cases b <;> rfl
  · intro p i text ts hindent hcol hout hp h
    rw [inline_bool, String.toList_append, List.append_assoc] at hp
    exact Spot.reads_plain_line (plainText_bool b) hindent (by omega) hout hp h

theorem readsValue_int (hfill : Suits fill) (n : Int) : ReadsValue fill (.int n) := by
  refine .of_line hfill (fun _ => rfl) (fun i short => ?_) ?_
  · rw [valueText, Yaml.inline, String.append_assoc]
  · intro p i text ts hindent hcol hout hp h
    rw [Yaml.inline, String.toList_append, List.append_assoc] at hp
    exact Spot.reads_plain_line (plainText_int n) hindent (by omega) hout hp h

theorem readsValue_text (hfill : Suits fill) (s : String) : ReadsValue fill (.text s) := by
  refine .of_line hfill (fun _ => rfl) (fun i short => ?_) ?_
  · rw [valueText, Yaml.inline]
  · intro p i text ts hindent hcol hout hp h
    exact Spot.reads_scalar (hfill.carries s) hindent (by omega) hout hp h

theorem readsValue_nil (hfill : Suits fill) : ReadsValue fill (.list []) := by
  refine .of_line hfill (fun _ => rfl) (fun i short => ?_) ?_
  · rw [valueText, Yaml.inline]
    rfl
  · intro p i text ts hindent hcol hout hp h
    rw [toList_inline_nil] at hp
    exact Spot.reads_brackets .list hp (by omega) hout.atToken h

theorem readsValue_empty (hfill : Suits fill) : ReadsValue fill (.record []) := by
  refine .of_line hfill (fun _ => rfl) (fun i short => ?_) ?_
  · rw [valueText, Yaml.inline]
    rfl
  · intro p i text ts hindent hcol hout hp h
    rw [toList_inline_empty] at hp
    exact Spot.reads_brackets .record hp (by omega) hout.atToken h

/-! ### Blocks -/

/-- A block, which starts where its first line does and ends with the first line that is not as deep. -/
theorem ReadsValue.of_block (hfill : Suits fill) {start : Token} {inner : List Token}
    (hblock : valueTokens fill false v = start :: (inner ++ [.blockEnd]))
    (hmark : ∀ i, valueText (written fill) i false v = " " ++ Yaml.inline (written fill) (i + 2) v)
    (hhere : ∀ {p : Spot} {i : Nat} {text : List Char} {ts : Array Token}, p.column = i → p.indent < i →
      p.allowed = true → Outdented i text → p.rest = (Yaml.inline (written fill) i v).toList ++ text →
      (Spot.atLine text (p.tokens ++ start :: inner) i (p.indent :: p.outer)).Reads ts → p.Reads ts)
    (hbelow : ∀ {p : Spot} {i : Nat} {text : List Char} {ts : Array Token}, p.indent = i →
      Outdented i text → p.rest = (valueText (written fill) i true v).toList ++ text →
      (Spot.atLine text (p.tokens ++ valueTokens fill true v) p.indent p.outer).Reads ts → p.Runs ts) :
    ReadsValue fill v := by
  have hinline : ∀ {p : Spot} {i : Nat} {text : List Char} {ts : Array Token}, p.indent = i →
      p.column = i + 2 → p.allowed = true → Outdented i text →
      p.rest = (Yaml.inline (written fill) (i + 2) v).toList ++ text →
      (Spot.atLine text (p.tokens ++ valueTokens fill false v) p.indent p.outer).Reads ts →
      p.Reads ts := by
    intro p i text ts hindent hcol hallowed hout hp h
    refine hhere hcol (by omega) hallowed (hout.mono (by omega)) hp ?_
    rw [hindent, atLine_outdented hout (by omega), ← hindent]
    rw [hblock] at h
    simpa using h
  refine ⟨hinline, ?_⟩
  intro p i short text ts hindent hcol hexplicit hallowed hout hp h
  cases short with
  | true => exact hbelow hindent hout hp h
  | false =>
    -- behind a colon that stands on a line of its own the block starts at once
    have hp' : p.rest = ' ' :: ((Yaml.inline (written fill) (i + 2) v).toList ++ text) := by
      rw [hp, hmark]
      simp
    refine Spot.runs_space hp' (atToken_inline hfill (i + 2) v text) (by omega) ?_
    refine hinline (i := i) hindent ?_ hallowed hout rfl ?_
    · show p.column + 1 = i + 2
      have := hexplicit rfl
      omega
    · simpa [Spot.behind] using h

/-- The first item of a list, and with it the others. -/
theorem reads_items_here (hfill : Suits fill) (hv : ReadsValue fill v) (hvs : ReadsItems fill vs)
    {p : Spot} {i : Nat} {text : List Char} {ts : Array Token} (hcol : p.column = i)
    (hdeep : p.indent ≤ i) (hallowed : p.allowed = true) (hout : Outdented i text)
    (hp : p.rest = '-' :: ' ' :: ((inline (written fill) (i + 2) v).toList ++
      ((items (written fill) i vs).toList ++ text)))
    (h : (Spot.atLine text ((p.opened .blockSequenceStart).tokens ++ itemTokens fill (v :: vs)) i
      (p.opened .blockSequenceStart).outer).Reads ts) : p.Reads ts := by
  have hopen : (p.opened .blockSequenceStart).indent = i := by
    rw [Spot.indent_opened (by omega), hcol]
  refine Spot.reads_dash hp hallowed (atToken_inline hfill (i + 2) v _) (by omega) ?_
  refine hv.inline (i := i) hopen ?_ rfl (outdented_items hout vs) rfl ?_
  · show (p.opened .blockSequenceStart).column + 2 = i + 2
    rw [Spot.column_opened, hcol]
  · show (Spot.atLine _ _ (p.opened .blockSequenceStart).indent (p.opened .blockSequenceStart).outer).Reads ts
    rw [hopen]
    refine hvs hout ?_
    simpa [Spot.behind, itemTokens] using h

theorem readsItems_cons (hfill : Suits fill) (hv : ReadsValue fill v) (hvs : ReadsItems fill vs) :
    ReadsItems fill (v :: vs) := by
  intro i tokens outer text ts hout h
  have hbody : AtToken ('-' :: ' ' :: ((inline (written fill) (i + 2) v).toList ++
      ((items (written fill) i vs).toList ++ text))) := .of_start rfl _
  rw [toList_items, Spot.atLine_spaces hbody, Spot.closed_same (Int.le_refl _)]
  refine reads_items_here hfill hv hvs rfl (Int.le_refl _) rfl hout rfl ?_
  rw [Spot.opened, if_neg (Int.lt_irrefl _)]
  exact h

theorem readsValue_list (hfill : Suits fill) (hv : ReadsValue fill v) (hvs : ReadsItems fill vs) :
    ReadsValue fill (.list (v :: vs)) := by
  have hblock : valueTokens fill false (.list (v :: vs)) =
      .blockSequenceStart :: (itemTokens fill (v :: vs) ++ [.blockEnd]) := rfl
  refine .of_block hfill hblock ?_ ?_ ?_
  · intro i
    rw [valueText, if_neg (by decide), inline, ← String.append_assoc, ← String.append_assoc]
    rfl
  · intro p i text ts hcol hdeep hallowed hout hp h
    have hp' : p.rest = '-' :: ' ' :: ((inline (written fill) (i + 2) v).toList ++
        ((items (written fill) i vs).toList ++ text)) := by
      rw [hp, inline]
      simp
    refine reads_items_here hfill hv hvs hcol (by omega) hallowed hout hp' ?_
    rw [Spot.opened, if_pos (by omega)]
    simpa using h
  · intro p i text ts hindent hout hp h
    have hp' : p.rest = '\n' :: ((items (written fill) i (v :: vs)).toList ++ text) := by
      rw [hp, valueText, if_pos rfl]
      simp
    refine Spot.runs_line hp' (outdented_items hout (v :: vs)).atToken ?_
    rw [hindent] at h ⊢
    exact readsItems_cons hfill hv hvs hout h

/-- Without a break nothing is indented. -/
theorem singleBody_unbroken (m n : Nat) {t : List Char} (ht : ∀ x ∈ t, isBreak x = false) :
    singleBody m false t = singleBody n false t := by
  induction t with
  | nil => rfl
  | cons x t ih =>
    have hx := ht x List.mem_cons_self
    have hrest := ih fun y hy => ht y (List.mem_cons_of_mem x hy)
    simp [singleBody, hx, hrest]

theorem write_unbroken {st : Style} (hst : st ≠ .literal) {s : String}
    (hs : ∀ x ∈ s.toList, isBreak x = false) (m n : Nat) : st.write m s = st.write n s := by
  cases st with
  | plain => rfl
  | double => rfl
  | single => simp only [Style.write, singleQuoted, singleBody_unbroken m n hs]
  | literal => exact absurd rfl hst

theorem unbroken_of_isShortKey (hk : isShortKey k = true) : ∀ x ∈ k.toList, isBreak x = false := by
  intro x hx
  simp only [isShortKey, Bool.and_eq_true, Bool.not_eq_true', List.any_eq_false] at hk
  simpa using hk.2 x hx

theorem style_ne_literal (hk : ∀ x ∈ k.toList, isBreak x = false) : style k ≠ .literal := by
  have hn : k.toList.contains '\n' = false := by
    rw [List.contains_eq_mem, decide_eq_false_iff_not]
    intro hmem
    exact absurd (hk _ hmem) (by decide)
  unfold style
  simp only [hn, Bool.false_eq_true, if_false]
  split
  · simp
  · split <;> simp

/-- A key and its colon, whether they stand on one line with the value or not. -/
theorem reads_entry (hfill : Suits fill) (hk : KeyFits fill k) {p : Spot} {i : Nat} {rest : List Char}
    {ts : Array Token} (hcol : p.column = i) (hdeep : p.indent ≤ i) (hallowed : p.allowed = true)
    (hrest : isBlankOrEnd rest.head? = true)
    (hp : p.rest = (keyText (written fill) i k).toList ++ ':' :: rest)
    (h : ∀ column, i < column → (isShortKey k = false → column = i + 1) →
      Spot.Runs ⟨rest, column, (p.opened .blockMappingStart).tokens ++ [.key, textToken fill k, .value], i,
        (p.opened .blockMappingStart).outer, !isShortKey k⟩ ts) : p.Reads ts := by
  have hopen : (p.opened .blockMappingStart).indent = i := by
    rw [Spot.indent_opened (by omega), hcol]
  unfold keyText at hp
  cases hshort : isShortKey k with
  | true =>
    -- the key stands on the line of its colon
    simp only [hshort, if_true] at hp h
    have hline := unbroken_of_isShortKey hshort
    have hform := style_ne_literal hline
    have hsame : written fill (i + 2) k = written fill 2 k :=
      write_unbroken hform (hfill.unbroken k hline) (i + 2) 2
    have hlen : (written fill (i + 2) k).toList.length ≤ keyLimit := hsame ▸ hk hshort
    refine Spot.reads_key (hfill.carries k) hform (hfill.unbroken k hline) (by omega) hlen hallowed
      (by omega) hrest hp ?_
    have hbehind := h (p.column + ((written fill (i + 2) k).toList.length + 1)) (by omega) (by simp)
    rw [← hopen] at hbehind
    simpa [Spot.behind, written, textToken] using hbehind
  | false =>
    -- the key stands behind a question mark, and the colon on a line of its own
    simp only [hshort, Bool.false_eq_true, if_false] at hp h
    have hp' : p.rest = '?' :: ' ' :: ((endLine (written fill (i + 2) k)).toList ++
        (List.replicate i ' ' ++ ':' :: rest)) := by
      simp [hp, spaces]
    have hcolon : AtToken (':' :: rest) := .of_start rfl _
    have hout : Outdented i (List.replicate i ' ' ++ ':' :: rest) := ⟨i, _, rfl, Nat.le_refl i, hcolon⟩
    have hstart : AtToken ((endLine (written fill (i + 2) k)).toList ++
        (List.replicate i ' ' ++ ':' :: rest)) := by
      obtain ⟨x, w, hw, hx⟩ := (hfill.carries k).exists_start (i + 2)
      rw [toList_endLine, written, hw]
      exact .of_start hx _
    refine Spot.reads_question hp' hallowed hstart (by omega) ?_
    refine Spot.reads_scalar (i := i) (hfill.carries k) hopen ?_ hout rfl ?_
    · show (p.opened .blockMappingStart).indent < ((p.opened .blockMappingStart).column + 2 : Nat)
      rw [hopen, Spot.column_opened]
      omega
    · show (Spot.atLine _ _ (p.opened .blockMappingStart).indent (p.opened .blockMappingStart).outer).Reads ts
      rw [Spot.atLine_spaces hcolon, hopen, Spot.closed_same (Int.le_refl _)]
      refine Spot.reads_colon rfl rfl hrest rfl ?_
      simpa [Spot.behind, textToken] using h (i + 1) (by omega) (by simp)

/-- What stands behind a colon starts with a blank or a break. -/
theorem valueText_head (scalar : Nat → String → String) (i : Nat) (short : Bool) (v : Value)
    (r : List Char) : isBlankOrEnd ((valueText scalar i short v).toList ++ r).head? = true := by
  match v with
  | .bool b => cases b <;> simp [valueText, isBlankOrEnd, isBlank]
  | .int n => simp [valueText, isBlankOrEnd, isBlank]
  | .text s => simp [valueText, isBlankOrEnd, isBlank]
  | .list [] => simp [valueText, isBlankOrEnd, isBlank]
  | .record [] => simp [valueText, isBlankOrEnd, isBlank]
  | .list (v :: vs) => cases short <;> simp [valueText, isBlankOrEnd, isBlank, isBreak]
  | .record ((k, v) :: fs) => cases short <;> simp [valueText, isBlankOrEnd, isBlank, isBreak]

/-- The first entry of a record, and with it the others. -/
theorem reads_fields_here (hfill : Suits fill) (hk : KeyFits fill k) (hv : ReadsValue fill v)
    (hfs : ReadsFields fill fs) {p : Spot} {i : Nat} {text : List Char} {ts : Array Token}
    (hcol : p.column = i) (hdeep : p.indent ≤ i) (hallowed : p.allowed = true) (hout : Outdented i text)
    (hp : p.rest = (keyText (written fill) i k).toList ++ ':' ::
      ((valueText (written fill) i (isShortKey k) v).toList ++
        ((fields (written fill) i fs).toList ++ text)))
    (h : (Spot.atLine text ((p.opened .blockMappingStart).tokens ++ fieldTokens fill ((k, v) :: fs)) i
      (p.opened .blockMappingStart).outer).Reads ts) : p.Reads ts := by
  refine reads_entry hfill hk hcol hdeep hallowed (valueText_head _ i _ v _) hp fun column hcolumn hmarked => ?_
  refine hv.underKey (i := i) rfl hcolumn hmarked rfl (outdented_fields hfill hout fs) rfl ?_
  refine hfs hout ?_
  simpa [fieldTokens] using h

theorem readsFields_cons (hfill : Suits fill) (hk : KeyFits fill k) (hv : ReadsValue fill v)
    (hfs : ReadsFields fill fs) : ReadsFields fill ((k, v) :: fs) := by
  intro i tokens outer text ts hout h
  rw [toList_fields, Spot.atLine_spaces (atToken_keyText hfill i k _), Spot.closed_same (Int.le_refl _)]
  refine reads_fields_here hfill hk hv hfs rfl (Int.le_refl _) rfl hout rfl ?_
  rw [Spot.opened, if_neg (Int.lt_irrefl _)]
  exact h

theorem readsValue_record (hfill : Suits fill) (hk : KeyFits fill k) (hv : ReadsValue fill v)
    (hfs : ReadsFields fill fs) : ReadsValue fill (.record ((k, v) :: fs)) := by
  have hhere : ∀ {p : Spot} {i : Nat} {text : List Char} {ts : Array Token}, p.column = i → p.indent < i →
      p.allowed = true → Outdented i text →
      p.rest = (inline (written fill) i (.record ((k, v) :: fs))).toList ++ text →
      (Spot.atLine text (p.tokens ++ .blockMappingStart :: fieldTokens fill ((k, v) :: fs)) i
        (p.indent :: p.outer)).Reads ts → p.Reads ts := by
    intro p i text ts hcol hdeep hallowed hout hp h
    have hp' : p.rest = (keyText (written fill) i k).toList ++ ':' ::
        ((valueText (written fill) i (isShortKey k) v).toList ++
          ((fields (written fill) i fs).toList ++ text)) := by
      rw [hp, inline]
      simp
    refine reads_fields_here hfill hk hv hfs hcol (by omega) hallowed hout hp' ?_
    rw [Spot.opened, if_pos (by omega)]
    simpa using h
  refine .of_block hfill rfl ?_ hhere ?_
  · intro i
    simp only [valueText, Bool.false_eq_true, if_false, inline, String.append_assoc]
  · -- behind a colon at the end of a line the fields stand on lines of their own
    intro p i text ts hindent hout hp h
    have hp' : p.rest = '\n' :: ((fields (written fill) (i + 2) ((k, v) :: fs)).toList ++ text) := by
      rw [hp, valueText, if_pos rfl]
      simp
    have hout' := hout.mono (Nat.le_add_right i 2)
    refine Spot.runs_line hp' (outdented_fields hfill hout' ((k, v) :: fs)).atToken ?_
    rw [toList_fields, Spot.atLine_spaces (atToken_keyText hfill _ k _), Spot.closed_same (by omega)]
    refine reads_fields_here hfill hk hv hfs rfl ?_ rfl hout' rfl ?_
    · show p.indent ≤ ((i + 2 : Nat) : Int)
      omega
    · have hdeep : p.indent < ((i + 2 : Nat) : Int) := by omega
      rw [Spot.opened, if_pos hdeep]
      show (Spot.atLine text _ ((i + 2 : Nat) : Int) (p.indent :: p.outer)).Reads ts
      rw [hindent, atLine_outdented hout (by omega), ← hindent]
      simpa [valueTokens] using h

/-! ### All values -/

mutual

theorem readsValue (hfill : Suits fill) :
    ∀ v : Value, (∀ k ∈ v.keys, KeyFits fill k) → ReadsValue fill v
  | .bool b, _ => readsValue_bool hfill b
  | .int n, _ => readsValue_int hfill n
  | .text s, _ => readsValue_text hfill s
  | .list [], _ => readsValue_nil hfill
  | .list (v :: vs), hkeys =>
    readsValue_list hfill
      (readsValue hfill v fun k hk => hkeys k (by simp [Value.keys, Value.itemKeys, hk]))
      (readsItems hfill vs fun k hk => hkeys k (by simp [Value.keys, Value.itemKeys, hk]))
  | .record [], _ => readsValue_empty hfill
  | .record ((k, v) :: fs), hkeys =>
    readsValue_record hfill (hkeys k (by simp [Value.keys, Value.fieldKeys]))
      (readsValue hfill v fun k' hk => hkeys k' (by simp [Value.keys, Value.fieldKeys, hk]))
      (readsFields hfill fs fun k' hk => hkeys k' (by simp [Value.keys, Value.fieldKeys, hk]))

theorem readsItems (hfill : Suits fill) :
    ∀ vs : List Value, (∀ k ∈ Value.itemKeys vs, KeyFits fill k) → ReadsItems fill vs
  | [], _ => fun _ h => by simpa [items, itemTokens] using h
  | v :: vs, hkeys =>
    readsItems_cons hfill (readsValue hfill v fun k hk => hkeys k (by simp [Value.itemKeys, hk]))
      (readsItems hfill vs fun k hk => hkeys k (by simp [Value.itemKeys, hk]))

theorem readsFields (hfill : Suits fill) :
    ∀ fs : List (String × Value), (∀ k ∈ Value.fieldKeys fs, KeyFits fill k) → ReadsFields fill fs
  | [], _ => fun _ h => by simpa [fields, fieldTokens] using h
  | (k, v) :: fs, hkeys =>
    readsFields_cons hfill (hkeys k (by simp [Value.fieldKeys]))
      (readsValue hfill v fun k' hk => hkeys k' (by simp [Value.fieldKeys, hk]))
      (readsFields hfill fs fun k' hk => hkeys k' (by simp [Value.fieldKeys, hk]))

end

end ScrapeFleet.Yaml
