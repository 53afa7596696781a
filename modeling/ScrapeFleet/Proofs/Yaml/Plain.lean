/-
# ScrapeFleet.Proofs.Yaml.Plain — reading an unquoted text

An unquoted scalar is read word by word, and between two words the reader looks for a comment, for the
end of the line and for a colon. A text that may stand unquoted has none of these inside, so the reader
goes through all of it (`readPlain_text`) and stops at what stands behind: the colon of a key, or the
break before a line that is not indented deeper.
-/
import ScrapeFleet.Proofs.Yaml.Place
import ScrapeFleet.Yaml.Lexer

namespace ScrapeFleet.Yaml

/-- A part of an unquoted text that starts with a word. -/
structure PlainTail (t : List Char) : Prop where
  chars : ∀ x ∈ t, InLine x
  colon : hasOpenColon t = false
  mark : anyAdjacent (fun a b => isBlankOrEnd (some a) && b == '#') t = false

namespace PlainTail

theorem of_cons {x : Char} {t : List Char} (h : PlainTail (x :: t)) : PlainTail t where
  chars y hy := h.chars y (List.mem_cons_of_mem _ hy)
  colon := by
    have := h.colon
    simp only [hasOpenColon, Bool.or_eq_false_iff] at this
    exact this.2
  mark := by
    have := h.mark
    cases t with
    | nil => rfl
    | cons y t =>
      simp only [anyAdjacent, Bool.or_eq_false_iff] at this
      exact this.2

theorem of_append {s t : List Char} (h : PlainTail (s ++ t)) : PlainTail t := by
  induction s with
  | nil => exact h
  | cons x s ih => exact ih h.of_cons

/-- Behind a space no comment starts. -/
theorem not_mark {k : Nat} {y : Char} {t : List Char}
    (h : PlainTail (List.replicate (k + 1) ' ' ++ y :: t)) : y ≠ '#' := by
  rintro rfl
  have hm : PlainTail (' ' :: '#' :: t) := by
    rw [List.replicate_succ', List.append_assoc] at h
    exact h.of_append
  have := hm.mark
  simp [anyAdjacent, isBlankOrEnd, isBlank] at this

end PlainTail

/-- A text starts with a word, which is the whole text or stands before spaces and another word. -/
theorem exists_word (t : List Char) : ∃ w s, t = w ++ s ∧ (∀ x ∈ w, x ≠ ' ') ∧
    (s = [] ∨ ∃ k u, s = List.replicate (k + 1) ' ' ++ u ∧ u.head? ≠ some ' ') := by
  induction t with
  | nil => exact ⟨[], [], rfl, by simp, .inl rfl⟩
  | cons x t ih =>
    obtain ⟨w, s, rfl, hw, hs⟩ := ih
    by_cases hx : x = ' '
    · subst hx
      refine ⟨[], ' ' :: (w ++ s), rfl, by simp, .inr ?_⟩
      cases w with
      | cons y w =>
        refine ⟨0, y :: w ++ s, rfl, ?_⟩
        simpa using hw y List.mem_cons_self
      | nil =>
        rcases hs with rfl | ⟨k, u, rfl, hu⟩
        · exact ⟨0, [], rfl, by simp⟩
        · exact ⟨k + 1, u, rfl, hu⟩
    · refine ⟨x :: w, s, rfl, ?_, hs⟩
      intro y hy
      rcases List.mem_cons.1 hy with rfl | hy
      · exact hx
      · exact hw y hy

/-- An unquoted word goes up to the next space, or to what stops it behind the text. -/
theorem plainWord_append {w s : List Char} (h : PlainTail (w ++ s)) (hw : ∀ x ∈ w, x ≠ ' ')
    {after : List Char} (hs : s.head? = some ' ' ∨ s = [] ∧ plainWord false after = some []) :
    plainWord false (w ++ (s ++ after)) = some w := by
  induction w with
  | nil =>
    rcases hs with hs | ⟨rfl, hs⟩
    · obtain ⟨u, rfl⟩ := List.head?_eq_some_iff.1 hs
      simp [plainWord, isBlankOrEnd, isBlank]
    · simpa using hs
  | cons x w ih =>
    have hx : isBlankOrEnd (some x) = false := by
      rw [(h.chars x (by simp)).isBlankOrEnd_eq]
      simpa using hw x List.mem_cons_self
    have hopen : (x == ':' && isBlankOrEnd (w ++ s).head?) = false := by
      have hc := h.colon
      simp only [List.cons_append, hasOpenColon, Bool.or_eq_false_iff] at hc
      exact hc.1
    have hcolon : (x == ':' && isBlankOrEnd (w ++ (s ++ after)).head?) = false := by
      rw [← List.append_assoc]
      cases hws : w ++ s with
      | nil =>
        -- a colon at the end of the text would be an open one
        rw [hws] at hopen
        have : (x == ':') = false := by simpa [isBlankOrEnd] using hopen
        rw [this, Bool.false_and]
      | cons y u =>
        rw [hws] at hopen
        simpa using hopen
    have hrest := ih h.of_cons (fun y hy => hw y (List.mem_cons_of_mem _ hy))
    simp only [List.cons_append, plainWord, hx, hcolon, hrest, Bool.false_and, Bool.or_self,
      Bool.false_eq_true, if_false, Option.map_some]

/-- A gap of spaces on one line. -/
theorem readGap_spaces (indent : Nat) {x : Char} {rest : List Char} (hx : isBlank x = false)
    (hx' : isBreak x = false) (k : Nat) (b : List Char) (c : Cursor)
    (hc : c.rest = List.replicate k ' ' ++ x :: rest) :
    readGap indent { blanks := b } c =
      some ({ blanks := b ++ List.replicate k ' ' }, c.skip k) := by
  induction k generalizing b c with
  | zero =>
    rw [readGap, Cursor.peek_of_rest hc]
    simp [hx, hx', Cursor.skip_zero]
  | succ k ih =>
    have hnext : (c.skip 1).rest = List.replicate k ' ' ++ x :: rest := by
      simp [hc, List.replicate_succ]
    have hlen : (c.skip 1).rest.length < c.rest.length := by
      rw [hnext, hc]
      simp
    rw [readGap, Cursor.peek_of_rest (by rw [hc, List.replicate_succ]; rfl)]
    simp only [isBlank, beq_self_eq_true, Bool.true_or, if_true, Bool.false_and,
      Bool.false_eq_true, if_false, dif_pos hlen]
    rw [ih _ _ hnext, Cursor.skip_skip, List.append_assoc, Nat.add_comm 1 k]
    rfl

/-- Behind a break, the spaces up to the next line of a scalar do not count. -/
theorem readGap_indentation (indent : Nat) {after : List Char}
    (hafter : ∀ x, after.head? = some x → isBlank x = false ∧ isBreak x = false)
    (first more : List Char) (n : Nat) (c : Cursor) (hc : c.rest = List.replicate n ' ' ++ after) :
    readGap indent { first, more, broken := true } c =
      some ({ first, more, broken := true }, c.skip n) := by
  induction n generalizing c with
  | zero =>
    rw [readGap, Cursor.skip_zero]
    cases after with
    | nil => simp [Cursor.peek, hc]
    | cons y after =>
      obtain ⟨hy, hy'⟩ := hafter y rfl
      simp [Cursor.peek_of_rest hc, hy, hy']
  | succ n ih =>
    have hnext : (c.skip 1).rest = List.replicate n ' ' ++ after := by
      simp [hc, List.replicate_succ]
    have hlen : (c.skip 1).rest.length < c.rest.length := by
      rw [hnext, hc]
      simp
    have htab : (' ' == '\t') = false := rfl
    rw [readGap, Cursor.peek_of_rest (by rw [hc, List.replicate_succ]; rfl)]
    simp only [isBlank, beq_self_eq_true, Bool.true_or, if_true, htab, Bool.and_false,
      Bool.false_eq_true, if_false, dif_pos hlen]
    rw [ih _ hnext, Cursor.skip_skip, Nat.add_comm 1 n]

/-- The breaks before the next line of a scalar, and the indentation of the line, which does not
count. -/
theorem readGap_broken (indent : Nat) {n : Nat} {after : List Char}
    (hafter : ∀ x, after.head? = some x → isBlank x = false ∧ isBreak x = false)
    (first bs more : List Char) (hbs : ∀ x ∈ bs, IsLineEnd x) (c : Cursor) (hcol : c.column = 0)
    (hc : c.rest = bs ++ (List.replicate n ' ' ++ after)) :
    ∃ d, readGap indent { first, more, broken := true } c =
        some ({ first, more := more ++ bs, broken := true }, d) ∧
      d.rest = after ∧ d.column = n ∧ d.line = c.line + bs.length := by
  induction bs generalizing more c with
  | nil =>
    rw [List.nil_append] at hc
    refine ⟨c.skip n, ?_, by simp [hc], by simp [hcol], rfl⟩
    rw [readGap_indentation indent hafter first more n c hc, List.append_nil]
  | cons b bs ih =>
    rw [List.cons_append] at hc
    have hb : IsLineEnd b := hbs b List.mem_cons_self
    have hline := Cursor.skipLine_of_rest hc hb
    have hlen : (c.nextLine (bs ++ (List.replicate n ' ' ++ after))).rest.length
        < c.rest.length := by simp [Cursor.nextLine, hc]
    obtain ⟨d, hd, hrest, hdcol, hdline⟩ := ih (more ++ [b])
      (fun x hx => hbs x (List.mem_cons_of_mem _ hx)) (c.nextLine _) rfl rfl
    refine ⟨d, ?_, hrest, hdcol, ?_⟩
    · rw [readGap, Cursor.peek_of_rest hc]
      simp only [hb.isBlank, hb.isBreak, hline, Cursor.breakText_of_rest hc hb, dif_pos hlen,
        Bool.false_eq_true, if_false, if_true]
      rw [hd, List.append_assoc]
      rfl
    · rw [hdline, List.length_cons]
      show c.line + 1 + bs.length = _
      omega

/-- A gap that starts with a break. -/
theorem readGap_lines (indent : Nat) {n : Nat} {after : List Char}
    (hafter : ∀ x, after.head? = some x → isBlank x = false ∧ isBreak x = false) {b : Char}
    {bs : List Char} (hb : IsLineEnd b) (hbs : ∀ x ∈ bs, IsLineEnd x) {c : Cursor}
    (hc : c.rest = b :: (bs ++ (List.replicate n ' ' ++ after))) :
    ∃ d, readGap indent {} c = some ({ first := [b], more := bs, broken := true }, d) ∧
      d.rest = after ∧ d.column = n ∧ d.line = c.line + 1 + bs.length := by
  have hline := Cursor.skipLine_of_rest hc hb
  have hlen : (c.nextLine (bs ++ (List.replicate n ' ' ++ after))).rest.length
      < c.rest.length := by simp [Cursor.nextLine, hc]
  obtain ⟨d, hd, hrest, hdcol, hdline⟩ := readGap_broken indent hafter [b] bs [] hbs
    (c.nextLine _) rfl rfl
  refine ⟨d, ?_, hrest, hdcol, hdline⟩
  rw [readGap, Cursor.peek_of_rest hc]
  simp only [hb.isBlank, hb.isBreak, hline, Cursor.breakText_of_rest hc hb, dif_pos hlen,
    Bool.false_eq_true, if_false, if_true]
  rw [hd]
  rfl

/-- How an unquoted scalar ends at a place behind its last word: at once, or behind the break and the
indentation of a line that is not indented as deep as the scalar would have to be. -/
def plainStop (indent : Nat) (d : Cursor) : Option (Bool × Cursor) :=
  if d.atBlank || d.atBreak then
    match readGap indent {} d with
    | some (gap, e) => if e.column < indent then some (gap.broken, e) else none
    | none => none
  else some (false, d)

/-- Reads the last word of an unquoted scalar. -/
theorem readPlain_last {indent : Nat} {out w : List Char} {gap : Gap} {c e : Cursor} {broken : Bool}
    (hdoc : c.atDocumentMarker = false) (hmark : c.at_ '#' = false)
    (hword : plainWord false c.rest = some w) (hne : w ≠ [])
    (hstop : plainStop indent (c.skip w.length) = some (broken, e)) :
    readPlain false indent out gap c = some (out.reverse ++ gap.text ++ w, broken, e) := by
  have hempty : w.isEmpty = false := by simpa using hne
  rw [readPlain]
  simp only [hdoc, hmark, hword, hempty, Bool.or_self, Bool.false_eq_true, if_false]
  unfold plainStop at hstop
  split at hstop
  · rename_i hbreak
    rw [if_pos hbreak]
    split at hstop
    · rename_i g d hg
      split at hstop
      · rename_i hlow
        obtain ⟨rfl, rfl⟩ := by simpa using hstop
        simp [hg, hlow]
      · cases hstop
    · cases hstop
  · rename_i hbreak
    obtain ⟨rfl, rfl⟩ := by simpa using hstop
    rw [if_neg hbreak]
    simp

/-- Reads a word of an unquoted scalar and the spaces behind it. -/
theorem readPlain_word {indent k : Nat} {out w r : List Char} {y : Char} {gap : Gap} {c : Cursor}
    (hdoc : c.atDocumentMarker = false) (hmark : c.at_ '#' = false)
    (hword : plainWord false c.rest = some w) (hne : w ≠ []) (hy : isBlank y = false)
    (hy' : isBreak y = false) (hcol : indent ≤ c.column + 1)
    (hrest : c.rest = w ++ (List.replicate (k + 1) ' ' ++ y :: r)) :
    readPlain false indent out gap c =
      readPlain false indent (w.reverse ++ gap.text.reverse ++ out)
        { blanks := List.replicate (k + 1) ' ' } (c.skip (w.length + (k + 1))) := by
  have hempty : w.isEmpty = false := by simpa using hne
  have hthere : (c.skip w.length).rest = List.replicate (k + 1) ' ' ++ y :: r := by
    simp [hrest]
  have hblank : (c.skip w.length).atBlank = true := by
    rw [Cursor.atBlank_of_rest (x := ' ') (by rw [hthere, List.replicate_succ]; rfl)]
    rfl
  have hgap := readGap_spaces indent hy hy' (k + 1) [] _ hthere
  rw [Cursor.skip_skip] at hgap
  have hpos : 0 < w.length := List.length_pos_iff.2 hne
  have hdeep : decide ((c.skip (w.length + (k + 1))).column < indent) = false := by
    refine decide_eq_false ?_
    rw [Cursor.column_skip]
    omega
  have hlen : (c.skip (w.length + (k + 1))).rest.length < c.rest.length := by
    rw [Cursor.rest_skip, List.length_drop]
    have : w.length + (k + 1) ≤ c.rest.length := by simp [hrest]
    omega
  rw [readPlain]
  simp only [hdoc, hmark, hword, hempty, Bool.or_self, Bool.false_eq_true, if_false, hblank,
    Bool.true_or, if_true]
  rw [hgap]
  simp only [hdeep, Bool.and_false, Bool.false_eq_true, if_false, dif_pos hlen, List.nil_append]

/-- Reads an unquoted text. -/
theorem readPlain_text {indent : Nat} {after : List Char} (hafter : plainWord false after = some [])
    {broken : Bool} {e : Cursor} (t out : List Char) (gap : Gap) (c : Cursor) (ht : PlainTail t)
    (hne : t ≠ []) (hspace : t.head? ≠ some ' ') (hmark : t.head? ≠ some '#')
    (hlast : t.getLast? ≠ some ' ') (hc : c.rest = t ++ after) (hdoc : c.atDocumentMarker = false)
    (hcol : indent ≤ c.column + 1) (hstop : plainStop indent (c.skip t.length) = some (broken, e)) :
    readPlain false indent out gap c = some (out.reverse ++ gap.text ++ t, broken, e) := by
  induction hn : t.length using Nat.strong_induction_on generalizing t out gap c with
  | _ n ih =>
    subst hn
    obtain ⟨w, s, rfl, hw, hs⟩ := exists_word t
    have hwne : w ≠ [] := by
      rintro rfl
      rcases hs with rfl | ⟨k, u, rfl, -⟩
      · exact hne rfl
      · exact hspace rfl
    have hhash : c.at_ '#' = false := by
      obtain ⟨x, w', rfl⟩ := List.exists_cons_of_ne_nil hwne
      rw [Cursor.at_of_rest (by rw [hc]; rfl)]
      simpa using hmark
    rcases hs with rfl | ⟨k, u, rfl, hu⟩
    · -- the last word
      have hword : plainWord false c.rest = some w := by
        rw [hc, List.append_assoc]
        exact plainWord_append ht hw (.inr ⟨rfl, hafter⟩)
      rw [List.append_nil] at hstop ⊢
      exact readPlain_last hdoc hhash hword hwne hstop
    · -- another word follows behind spaces, since the text does not end in one
      have hword : plainWord false c.rest = some w := by
        rw [hc, List.append_assoc]
        exact plainWord_append ht hw (.inl rfl)
      have hune : u ≠ [] := by
        rintro rfl
        apply hlast
        simp [List.replicate_succ']
      obtain ⟨y, u, rfl⟩ := List.exists_cons_of_ne_nil hune
      have hgap : PlainTail (List.replicate (k + 1) ' ' ++ y :: u) := ht.of_append
      have hy : InLine y := hgap.chars y (by simp)
      have hyne : y ≠ ' ' := by simpa using hu
      have hyb : isBlank y = false := by simpa [hy.isBlank_eq] using hyne
      rw [readPlain_word hdoc hhash hword hwne hyb hy.not_break hcol (r := u ++ after) (k := k)
        (by rw [hc]; simp)]
      have hpos : 0 < w.length := List.length_pos_iff.2 hwne
      rw [ih (y :: u).length (by simp; omega) (y :: u) _ _ _ hgap.of_append (by simp) hu
        (by simpa using hgap.not_mark) (by simpa using hlast)
        (by simp [hc])
        (Cursor.atDocumentMarker_of_column (by simp only [Cursor.column_skip]; omega))
        (by simp only [Cursor.column_skip]; omega)
        (by rw [Cursor.skip_skip]; rw [← hstop]; congr 2; simp; omega) rfl]
      simp [Gap.text]

end ScrapeFleet.Yaml
