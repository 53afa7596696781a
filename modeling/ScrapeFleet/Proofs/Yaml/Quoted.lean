/-
# ScrapeFleet.Proofs.Yaml.Quoted — reading a text in quotes

Single quotes hold a text as it is, but for the quote, which is doubled, and for breaks, behind which the
next line is indented. The reader takes blanks and breaks in runs, so the induction goes over the runs of
the text. Double quotes stand on one line: what nothing else can hold is escaped, and each escape stands
for one character.
-/
import Mathlib.Algebra.Ring.Nat
import ScrapeFleet.Proofs.Text.Digits
import ScrapeFleet.Proofs.Yaml.Plain

namespace ScrapeFleet.Yaml

open Text (hexValue?)

/-! ## One step -/

section

variable {single : Bool} {out : List Char} {c d : Cursor} {x y : Char} {cs : List Char}

theorem readQuoted_inLine (hc : c.rest = x :: cs) (hblank : isBlank x = false)
    (hbreak : isBreak x = false) (hquote : x ≠ if single then '\'' else '"')
    (hescape : single = true ∨ x ≠ '\\') :
    readQuoted single out c = readQuoted single (x :: out) (c.skip 1) := by
  have hlen : (c.skip 1).rest.length < (x :: cs).length := by simp [hc]
  have hq : (x == if single then '\'' else '"') = false := by simpa using hquote
  have he : (!single && x == '\\') = false := by
    rcases hescape with rfl | h
    · rfl
    · simp [h]
  rw [readQuoted]
  simp only [hc, hq, hblank, hbreak, he, Bool.or_self, Bool.false_eq_true, if_false, dif_pos hlen]

theorem readQuoted_gap {g : Gap} (hc : c.rest = x :: cs) (hx : isBlank x = true ∨ isBreak x = true)
    (hgap : readGap 0 {} c = some (g, d)) (hdoc : d.atDocumentMarker = false)
    (hlen : d.rest.length < c.rest.length) :
    readQuoted single out c = readQuoted single (g.text.reverse ++ out) d := by
  have hq : (x == if single then '\'' else '"') = false := by
    rw [beq_eq_false_iff_ne]
    rintro rfl
    cases single <;> rcases hx with h | h <;> exact absurd h (by decide)
  have hx' : (isBlank x || isBreak x) = true := by simpa using hx
  rw [hc] at hlen
  rw [readQuoted]
  simp only [hc, hq, hx', hgap, hdoc, Bool.false_eq_true, if_false, if_true, dif_pos hlen]

theorem readQuoted_twice (hc : c.rest = '\'' :: '\'' :: cs) :
    readQuoted true out c = readQuoted true ('\'' :: out) (c.skip 2) := by
  have hlen : (c.skip 2).rest.length < ('\'' :: '\'' :: cs).length := by
    rw [Cursor.rest_skip, hc]
    show cs.length < cs.length + 2
    omega
  rw [readQuoted]
  simp only [hc, if_true, beq_self_eq_true, List.head?_cons, Bool.and_self, dif_pos hlen]

theorem readQuoted_end {s : Bool} (hc : c.rest = (if s then '\'' else '"') :: cs)
    (hnext : s = true → cs.head? ≠ some '\'') :
    readQuoted s out c = some (out.reverse, c.skip 1) := by
  have hn : (s && cs.head? == some '\'') = false := by
    cases s with
    | false => rfl
    | true => simpa using hnext rfl
  rw [readQuoted]
  simp only [hc, beq_self_eq_true, if_true, hn, Bool.false_eq_true, if_false]

theorem readQuoted_escape (hc : c.rest = '\\' :: x :: cs) (hbreak : isBreak x = false)
    (hx : escape? x = some y) : readQuoted false out c = readQuoted false (y :: out) (c.skip 2) := by
  have hlen : (c.skip 2).rest.length < ('\\' :: x :: cs).length := by
    rw [Cursor.rest_skip, hc]
    show cs.length < cs.length + 2
    omega
  rw [readQuoted]
  simp only [hc, hx, hbreak, dif_pos hlen, Bool.false_eq_true, if_false]
  rfl

theorem readQuoted_hex {k : Nat} {ds : List Char} (hc : c.rest = '\\' :: x :: (ds ++ cs))
    (hbreak : isBreak x = false) (hx : escape? x = none) (hk : escapeDigits? x = some k)
    (hds : ds.length = k) (hy : hexChar? ds = some y) :
    readQuoted false out c = readQuoted false (y :: out) (c.skip (2 + k)) := by
  have hlen : (c.skip (2 + k)).rest.length < ('\\' :: x :: (ds ++ cs)).length := by
    rw [Cursor.rest_skip, hc, List.length_drop, List.length_cons, List.length_cons]
    omega
  have hlong : ¬ (ds ++ cs).length < k := by simp [hds]
  have htake : (ds ++ cs).take k = ds := by simp [← hds]
  rw [readQuoted]
  simp only [hc, hx, hk, hbreak, hlong, htake, hy, dif_pos hlen, Bool.false_eq_true, if_false]
  rfl

end

/-- The spaces between two words of a quoted text. -/
theorem readQuoted_spaces {single : Bool} {out rest : List Char} {c : Cursor} {y : Char} {k : Nat}
    (hc : c.rest = List.replicate (k + 1) ' ' ++ y :: rest) (hy : isBlank y = false)
    (hy' : isBreak y = false) :
    readQuoted single out c =
      readQuoted single (List.replicate (k + 1) ' ' ++ out) (c.skip (k + 1)) := by
  have hgap := readGap_spaces 0 hy hy' (k + 1) [] c hc
  have hdoc : (c.skip (k + 1)).atDocumentMarker = false :=
    Cursor.atDocumentMarker_of_column (by rw [Cursor.column_skip]; omega)
  have hlen : (c.skip (k + 1)).rest.length < c.rest.length := by
    rw [Cursor.rest_skip, List.length_drop, hc]
    simp
  rw [readQuoted_gap (by rw [hc, List.replicate_succ]; rfl) (.inl rfl) hgap hdoc hlen]
  simp [Gap.text]

/-! ## Single quotes -/

/-- A part of a text in single quotes that no break stands before. -/
structure SingleTail (t : List Char) : Prop where
  printable : ∀ x ∈ t, isPrintable x = true
  feedless : '\n' ∉ t
  breakSpace : hasBreakSpace t = false
  spaceBreak : anyAdjacent (fun a b => a == ' ' && isBreak b) t = false

theorem SingleTail.of_append {s t : List Char} (h : SingleTail (s ++ t)) : SingleTail t where
  printable x hx := h.printable x (List.mem_append_right _ hx)
  feedless hn := h.feedless (List.mem_append_right _ hn)
  breakSpace := anyAdjacent_of_append h.breakSpace
  spaceBreak := anyAdjacent_of_append h.spaceBreak

/-- The breaks between two words of a text in quotes, and the indentation behind them. -/
theorem readQuoted_breaks (single : Bool) (out : List Char) {rest bs : List Char} {c : Cursor}
    {y : Char} {n : Nat} (hn : 0 < n) (hbs : bs ≠ []) (hsep : ∀ x ∈ bs, IsSeparator x)
    (hc : c.rest = bs ++ (List.replicate n ' ' ++ y :: rest)) (hy : isBlank y = false)
    (hy' : isBreak y = false) :
    ∃ d, d.rest = y :: rest ∧ c.line ≤ d.line ∧
      readQuoted single out c = readQuoted single (bs.reverse ++ out) d := by
  obtain ⟨b, bs, rfl⟩ := List.exists_cons_of_ne_nil hbs
  have hb : IsLineEnd b := .inr (hsep b List.mem_cons_self)
  have hafter : ∀ x, (y :: rest).head? = some x → isBlank x = false ∧ isBreak x = false := by
    intro x hx
    obtain rfl : y = x := by simpa using hx
    exact ⟨hy, hy'⟩
  obtain ⟨d, hd, hrest, hdcol, hline⟩ := readGap_lines 0 hafter hb
    (fun x hx => .inr (hsep x (List.mem_cons_of_mem _ hx))) hc
  refine ⟨d, hrest, by omega, ?_⟩
  have hdoc : d.atDocumentMarker = false := Cursor.atDocumentMarker_of_column (by omega)
  have hshort : d.rest.length < c.rest.length := by
    rw [hrest, hc]
    simp
    omega
  have hfirst : [b] ≠ ['\n'] := by
    rcases hsep b List.mem_cons_self with rfl | rfl <;> decide
  rw [readQuoted_gap hc (.inr hb.isBreak) hd hdoc hshort]
  simp [Gap.text, hfirst]

/-! What single quotes write for the parts of a text. -/

theorem singleBody_spaces (n k : Nat) (u : List Char) :
    (singleBody n false (List.replicate k ' ' ++ u)).toList =
      List.replicate k ' ' ++ (singleBody n false u).toList := by
  induction k with
  | zero => rfl
  | succ k ih => simp [List.replicate_succ, singleBody, ih]

theorem singleBody_inLine {x : Char} (hx : x ≠ ' ') (hx' : isBreak x = false) (n : Nat)
    (broken : Bool) (u : List Char) :
    (singleBody n broken (x :: u)).toList =
      (if broken then List.replicate n ' ' else []) ++
        ((if x = '\'' then ['\'', '\''] else [x]) ++ (singleBody n false u).toList) := by
  have hne : (x == ' ') = false := by simpa using hx
  rw [singleBody]
  simp only [hne, hx', Bool.false_eq_true, if_false, String.toList_append]
  cases broken <;> by_cases hq : x = '\'' <;> simp [hq, spaces]

theorem singleBody_breaks (n : Nat) (bs u : List Char) (hbs : ∀ x ∈ bs, isBreak x = true)
    (hu : ∀ x, u.head? = some x → x ≠ ' ' ∧ isBreak x = false) (broken : Bool)
    (hstart : bs ≠ [] ∨ broken = true) :
    (singleBody n broken (bs ++ u)).toList =
      bs ++ (List.replicate n ' ' ++ (singleBody n false u).toList) := by
  induction bs generalizing broken with
  | nil =>
    obtain rfl : broken = true := by simpa using hstart
    cases u with
    | nil => simp [singleBody, spaces]
    | cons x u =>
      obtain ⟨hx, hx'⟩ := hu x rfl
      rw [List.nil_append, List.nil_append, singleBody_inLine hx hx', singleBody_inLine hx hx']
      rfl
  | cons b bs ih =>
    have hb := hbs b List.mem_cons_self
    have hb' : (b == ' ') = false := by
      rw [beq_eq_false_iff_ne]
      rintro rfl
      exact absurd hb (by decide)
    have hrest := ih (fun x hx => hbs x (List.mem_cons_of_mem _ hx)) true (.inr rfl)
    rw [List.cons_append, singleBody]
    simp only [hb, hb', Bool.false_eq_true, if_false, if_true, String.toList_append, hrest]
    simp

/-- Behind a gap something else than blanks and breaks is written, the closing quote at last. -/
theorem singleBody_head (n : Nat) {u : List Char} (after : List Char)
    (hu : ∀ x, u.head? = some x → x ≠ ' ' ∧ InLine x) :
    ∃ y r, (singleBody n false u).toList ++ '\'' :: after = y :: r ∧ isBlank y = false ∧
      isBreak y = false := by
  cases u with
  | nil => exact ⟨'\'', after, rfl, rfl, rfl⟩
  | cons x u =>
    obtain ⟨hx, hline⟩ := hu x rfl
    have hblank : isBlank x = false := by simpa [hline.isBlank_eq] using hx
    rw [singleBody_inLine hx hline.not_break]
    by_cases hq : x = '\''
    · subst hq
      exact ⟨'\'', _, rfl, rfl, rfl⟩
    · refine ⟨x, (singleBody n false u).toList ++ '\'' :: after, ?_, hblank, hline.not_break⟩
      simp [hq]

/-- In single quotes what follows a run of spaces is no break. -/
theorem SingleTail.not_break_of_space {k : Nat} {y : Char} {u : List Char}
    (h : SingleTail (List.replicate (k + 1) ' ' ++ y :: u)) : isBreak y = false := by
  rw [List.replicate_succ', List.append_assoc] at h
  have := (h.of_append (t := [' '] ++ y :: u)).spaceBreak
  simp only [List.singleton_append, anyAdjacent, beq_self_eq_true, Bool.true_and,
    Bool.or_eq_false_iff] at this
  exact this.1

/-- In single quotes what follows a run of breaks is no space. -/
theorem SingleTail.ne_space_of_break {bs : List Char} {b y : Char} {u : List Char}
    (h : SingleTail (bs ++ b :: y :: u)) (hb : isBreak b = true) : y ≠ ' ' := by
  rintro rfl
  have := (h.of_append).breakSpace
  simp [hasBreakSpace, anyAdjacent, hb] at this

/-- In single quotes the breaks are separators, since a feed is not written there. -/
theorem SingleTail.separators {bs u : List Char} (h : SingleTail (bs ++ u))
    (hbs : ∀ b ∈ bs, isBreak b = true) : ∀ b ∈ bs, IsSeparator b := by
  intro b hb
  rcases isLineEnd_of_break (h.printable b (List.mem_append_left _ hb)) (hbs b hb) with rfl | hsep
  · exact absurd (List.mem_append_left _ hb) h.feedless
  · exact hsep

/-- In single quotes a line behind breaks begins with a character of a word. -/
theorem SingleTail.head_of_breaks {bs u : List Char} (h : SingleTail (bs ++ u)) (hne : bs ≠ [])
    (hbs : ∀ b ∈ bs, isBreak b = true) (hu : ∀ y, u.head? = some y → isBreak y = false) :
    ∀ y, u.head? = some y → y ≠ ' ' ∧ InLine y := by
  intro y hy
  obtain ⟨u', rfl⟩ := List.head?_eq_some_iff.1 hy
  refine ⟨?_, h.printable y (by simp), hu y rfl⟩
  obtain ⟨bs', b, rfl⟩ := (List.eq_nil_or_concat bs).resolve_left hne
  rw [List.concat_eq_append, List.append_assoc] at h
  exact h.ne_space_of_break (hbs b (by simp))

/-- A part of a text is read from single quotes, behind whatever was read before it. Without a break in it the
place behind the closing quote is on the same line. -/
def ReadsSingle (n : Nat) (after t : List Char) : Prop :=
  ∀ (out : List Char) (c : Cursor), c.rest = (singleBody n false t).toList ++ '\'' :: after →
    ∃ d, readQuoted true out c = some (out.reverse ++ t, d) ∧ d.rest = after ∧ c.line ≤ d.line ∧
      ((∀ x ∈ t, isBreak x = false) → d = c.skip ((singleBody n false t).toList.length + 1))

namespace ReadsSingle

variable {n : Nat} {after u : List Char}

theorem nil (hafter : after.head? ≠ some '\'') : ReadsSingle n after [] := by
  intro out c hc
  refine ⟨c.skip 1, ?_, by simp [hc, singleBody], Nat.le_refl _, fun _ => rfl⟩
  rw [readQuoted_end hc fun _ => hafter, List.append_nil]

/-- Behind a run of spaces a word begins, or the text ends. -/
theorem spaces (hu : ReadsSingle n after u) (hhead : ∀ y, u.head? = some y → y ≠ ' ' ∧ InLine y)
    (k : Nat) : ReadsSingle n after (List.replicate (k + 1) ' ' ++ u) := by
  intro out c hc
  obtain ⟨y, r, hyr, hy, hy'⟩ := singleBody_head n after hhead
  rw [singleBody_spaces, List.append_assoc, hyr] at hc
  obtain ⟨d, hd, hafter, hline, hskip⟩ := hu (List.replicate (k + 1) ' ' ++ out) (c.skip (k + 1))
    (by simp [hc, hyr])
  refine ⟨d, ?_, hafter, hline, fun hbreaks => ?_⟩
  · rw [readQuoted_spaces hc hy hy', hd]
    simp
  · rw [hskip fun x hx => hbreaks x (List.mem_append_right _ hx), Cursor.skip_skip, singleBody_spaces]
    congr 1
    simp
    omega

/-- Behind a run of breaks an indented line begins. -/
theorem breaks (hu : ReadsSingle n after u) (hhead : ∀ y, u.head? = some y → y ≠ ' ' ∧ InLine y)
    (hn : 0 < n) {bs : List Char} (hne : bs ≠ []) (hsep : ∀ b ∈ bs, IsSeparator b) :
    ReadsSingle n after (bs ++ u) := by
  intro out c hc
  have hbs : ∀ b ∈ bs, isBreak b = true := fun b hb => IsLineEnd.isBreak (.inr (hsep b hb))
  obtain ⟨y, r, hyr, hy, hy'⟩ := singleBody_head n after hhead
  rw [singleBody_breaks n bs u hbs (fun y hy => ⟨(hhead y hy).1, (hhead y hy).2.not_break⟩) false
    (.inl hne), List.append_assoc, List.append_assoc, hyr] at hc
  obtain ⟨d₀, hd₀, hline₀, hread⟩ := readQuoted_breaks true out hn hne hsep hc hy hy'
  obtain ⟨d, hd, hafter, hline, -⟩ := hu (bs.reverse ++ out) d₀ (by rw [hd₀, hyr])
  refine ⟨d, ?_, hafter, Nat.le_trans hline₀ hline, fun hbreaks => ?_⟩
  · rw [hread, hd]
    simp
  · obtain ⟨b, hb⟩ := List.exists_mem_of_ne_nil bs hne
    have hbreak := hbreaks b (List.mem_append_left _ hb)
    rw [hbs b hb] at hbreak
    cases hbreak

/-- A quote is read from two, and any other character of a line as it is. -/
theorem inLine (hu : ReadsSingle n after u) {x : Char} (hspace : x ≠ ' ') (hx : InLine x) :
    ReadsSingle n after (x :: u) := by
  intro out c hc
  have hblank : isBlank x = false := by simpa [hx.isBlank_eq] using hspace
  rw [singleBody_inLine hspace hx.not_break] at hc ⊢
  by_cases hq : x = '\''
  · subst hq
    obtain ⟨d, hd, hafter, hline, hskip⟩ := hu ('\'' :: out) (c.skip 2) (by simp [hc])
    refine ⟨d, ?_, hafter, hline, fun hbreaks => ?_⟩
    · rw [readQuoted_twice (by rw [hc]; rfl), hd]
      simp
    · rw [hskip fun x hx => hbreaks x (List.mem_cons_of_mem _ hx), Cursor.skip_skip]
      congr 1
      simp
      omega
  · obtain ⟨d, hd, hafter, hline, hskip⟩ := hu (x :: out) (c.skip 1) (by simp [hc, hq])
    refine ⟨d, ?_, hafter, hline, fun hbreaks => ?_⟩
    · rw [readQuoted_inLine (by rw [hc]; simp [hq]; rfl) hblank hx.not_break (by simpa using hq)
        (.inl rfl), hd]
      simp
    · rw [hskip fun x hx => hbreaks x (List.mem_cons_of_mem _ hx), Cursor.skip_skip]
      congr 1
      simp [hq]
      omega

end ReadsSingle

/-- What single quotes hold is read from them. The induction goes over the runs of spaces, the runs of breaks
and the single characters of the text. -/
theorem readQuoted_single {n : Nat} (hn : 0 < n) {after : List Char}
    (hafter : after.head? ≠ some '\'') {t : List Char} (ht : SingleTail t) : ReadsSingle n after t := by
  induction hl : t.length using Nat.strong_induction_on generalizing t with
  | _ l ih =>
    subst hl
    cases t with
    | nil => exact .nil hafter
    | cons x t =>
      by_cases hspace : x = ' '
      · subst hspace
        obtain ⟨k, u, rfl, hu⟩ := exists_spaces t
        rw [← List.cons_append, ← List.replicate_succ] at ht ⊢
        refine (ih u.length ?_ ht.of_append rfl).spaces (fun y hy => ?_) k
        · rw [List.length_cons, List.length_append, List.length_replicate]
          omega
        · obtain ⟨u', rfl⟩ := List.head?_eq_some_iff.1 hy
          exact ⟨by simpa using hu, ht.printable y (by simp), ht.not_break_of_space⟩
      cases hbreak : isBreak x with
      | false =>
        exact (ih t.length (by simp) (ht.of_append (s := [x])) rfl).inLine hspace
          ⟨ht.printable x List.mem_cons_self, hbreak⟩
      | true =>
        obtain ⟨bs, u, hbsu, hbs, hu⟩ := exists_run isBreak (x :: t)
        have hne : bs ≠ [] := by
          rintro rfl
          rw [List.nil_append] at hbsu
          subst hbsu
          rw [hu x rfl] at hbreak
          cases hbreak
        have hshort : u.length < (x :: t).length := by
          have hpos := List.length_pos_iff.2 hne
          rw [hbsu, List.length_append]
          omega
        rw [hbsu] at ht ⊢
        exact (ih u.length hshort ht.of_append rfl).breaks (ht.head_of_breaks hne hbs hu) hn hne
          (ht.separators hbs)

/-! ## Double quotes -/

/-- The capitals of a number's hexadecimal digits, filled up with zeros, write the number. -/
theorem hexChar_hexDigits {width : Nat} (hw : 0 < width) {c : Char} (hc : c.toNat < 16 ^ width) :
    (hexDigits width c.toNat).toList.length = width ∧
      hexChar? (hexDigits width c.toNat).toList = some c := by
  have hupper : ∀ d < 16, hexValue? (Nat.digitChar d).toUpper = some d := by decide
  have hlen : (Nat.toDigits 16 c.toNat).length ≤ width :=
    (Nat.length_toDigits_le_iff (by decide) hw).2 hc
  obtain ⟨vs, hvs, hfold⟩ := Text.mapM_toDigits (b := 16) (by decide)
    (f := hexValue? ∘ Char.toUpper) hupper c.toNat
  rw [← List.mapM_map] at hvs
  obtain ⟨us, hus, hfold'⟩ := Text.mapM_zeros (b := 16) (by decide) hvs hfold
    (width - ((Nat.toDigits 16 c.toNat).map Char.toUpper).length)
  refine ⟨?_, ?_⟩
  · simp [hexDigits, Nat.sub_add_cancel hlen]
  · have hvalid : c.toNat.isValidChar := c.valid
    rw [hexDigits, String.toList_ofList, hexChar?, hus]
    simp only [hfold', if_pos hvalid, Char.ofNat_toNat]

/-- What stands for a character in double quotes. -/
inductive Escaped (x : Char) : List Char → Prop
  | itself : InLine x → x ≠ '"' → x ≠ '\\' → Escaped x [x]
  | letter {e : Char} : isBreak e = false → escape? e = some x → Escaped x ['\\', e]
  | hex {e : Char} {k : Nat} {ds : List Char} : isBreak e = false → escape? e = none →
      escapeDigits? e = some k → ds.length = k → hexChar? ds = some x → Escaped x ('\\' :: e :: ds)

theorem escaped_escaped (x : Char) : Escaped x (escaped x).toList := by
  unfold escaped
  split
  all_goals try exact .letter rfl rfl
  rename_i hnul ha hb ht hn hv hf hr he hq hbs hnl hls hps
  split
  · rename_i hp
    have hbreak : isBreak x = false := by
      simp only [isBreak, Bool.or_eq_false_iff, beq_eq_false_iff_ne]
      exact ⟨⟨⟨⟨hr, hn⟩, hnl⟩, hls⟩, hps⟩
    simpa using Escaped.itself ⟨hp, hbreak⟩ hq hbs
  · split
    · rename_i hsmall
      have hlt : x.toNat < 16 ^ 2 := Nat.lt_succ_of_le hsmall
      obtain ⟨hlen, hchar⟩ := hexChar_hexDigits (by decide) hlt
      rw [String.toList_append]
      exact .hex rfl rfl rfl hlen hchar
    · split
      · rename_i hsmall
        have hlt : x.toNat < 16 ^ 4 := Nat.lt_succ_of_le hsmall
        obtain ⟨hlen, hchar⟩ := hexChar_hexDigits (by decide) hlt
        rw [String.toList_append]
        exact .hex rfl rfl rfl hlen hchar
      · have hlt : x.toNat < 16 ^ 8 := by
          have := x.val.toNat_lt
          exact Nat.lt_of_lt_of_le this (by decide)
        obtain ⟨hlen, hchar⟩ := hexChar_hexDigits (by decide) hlt
        rw [String.toList_append]
        exact .hex rfl rfl rfl hlen hchar

/-- Reads what stands for one character other than a space. -/
theorem Escaped.read {x : Char} {w rest out : List Char} {c : Cursor} (hw : Escaped x w)
    (hx : x ≠ ' ') (hc : c.rest = w ++ rest) :
    readQuoted false out c = readQuoted false (x :: out) (c.skip w.length) := by
  cases hw with
  | itself hline hq hbs =>
    have hblank : isBlank x = false := by simpa [hline.isBlank_eq] using hx
    exact readQuoted_inLine hc hblank hline.not_break hq (.inr hbs)
  | letter hbreak hletter => exact readQuoted_escape hc hbreak hletter
  | @hex e k ds hbreak hletter hk hlen hchar =>
    rw [readQuoted_hex hc hbreak hletter hk hlen hchar, ← hlen]
    congr 2
    simp
    omega

/-- What stands for a character other than a space starts with no blank and no break. -/
theorem Escaped.head {x : Char} {w : List Char} (hw : Escaped x w) (hx : x ≠ ' ')
    (rest : List Char) :
    ∃ y r, w ++ rest = y :: r ∧ isBlank y = false ∧ isBreak y = false := by
  cases hw with
  | itself hline hq hbs =>
    have hblank : isBlank x = false := by simpa [hline.isBlank_eq] using hx
    exact ⟨x, rest, rfl, hblank, hline.not_break⟩
  | letter => exact ⟨'\\', _, rfl, rfl, rfl⟩
  | hex => exact ⟨'\\', _, rfl, rfl, rfl⟩

/-- So does what is written behind a run of spaces. -/
theorem escaped_head {u : List Char} (after : List Char) (hu : u.head? ≠ some ' ') :
    ∃ y r, u.flatMap (fun x => (escaped x).toList) ++ '"' :: after = y :: r ∧ isBlank y = false ∧
      isBreak y = false := by
  cases u with
  | nil => exact ⟨'"', after, rfl, rfl, rfl⟩
  | cons x u =>
    rw [List.flatMap_cons, List.append_assoc]
    exact (escaped_escaped x).head (by simpa using hu) _

/-- Reads a text in double quotes, which stands on one line. -/
theorem readQuoted_double {after : List Char} (t out : List Char) (c : Cursor)
    (hc : c.rest = t.flatMap (fun x => (escaped x).toList) ++ '"' :: after) :
    readQuoted false out c = some (out.reverse ++ t,
      c.skip ((t.flatMap fun x => (escaped x).toList).length + 1)) := by
  induction hl : t.length using Nat.strong_induction_on generalizing t out c with
  | _ l ih =>
    subst hl
    cases t with
    | nil =>
      rw [readQuoted_end (s := false) hc (fun h => by cases h), List.append_nil]
      rfl
    | cons x t =>
      by_cases hspace : x = ' '
      · -- spaces are written as they are, and read together
        subst hspace
        obtain ⟨k, u, hku, hu⟩ := exists_spaces t
        have hspaces : ' ' :: t = List.replicate (k + 1) ' ' ++ u := by
          rw [hku, List.replicate_succ, List.cons_append]
        have hwritten : (List.replicate (k + 1) ' ' ++ u).flatMap (fun x => (escaped x).toList) =
            List.replicate (k + 1) ' ' ++ u.flatMap fun x => (escaped x).toList := by
          have hone : (escaped ' ').toList = [' '] := by decide
          rw [List.flatMap_append, List.flatMap_replicate, hone]
          simp
        have hlen : u.length < (' ' :: t).length := by
          rw [hspaces]
          simp
        obtain ⟨y, r, hyr, hy, hy'⟩ := escaped_head after hu
        rw [hspaces, hwritten] at hc ⊢
        rw [List.append_assoc, hyr] at hc
        have hrest := ih u.length hlen u (List.replicate (k + 1) ' ' ++ out) (c.skip (k + 1))
          (by simp [hc, hyr]) rfl
        rw [readQuoted_spaces hc hy hy', hrest, Cursor.skip_skip, List.length_append,
          List.length_replicate, ← Nat.add_assoc]
        simp
      · rw [List.flatMap_cons] at hc ⊢
        rw [List.append_assoc] at hc
        have hrest := ih t.length (by simp) t (x :: out) (c.skip (escaped x).toList.length)
          (by simp [hc]) rfl
        rw [(escaped_escaped x).read hspace hc, hrest, Cursor.skip_skip, List.length_append,
          Nat.add_assoc]
        simp

end ScrapeFleet.Yaml
