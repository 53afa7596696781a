/-
# ScrapeFleet.Proofs.Yaml.Place — the characters at a place and the place behind them

What every proof about the reading of scalars needs: what a cursor shows once it is known what is left,
the two classes of characters that a text can hold as they are, and the runs that a text starts with.
-/
import Mathlib.Data.List.TakeDrop
import Mathlib.Data.List.TakeWhile
import ScrapeFleet.Yaml.Cursor
import ScrapeFleet.Yaml.Style

namespace ScrapeFleet.Yaml

namespace Cursor

variable {c : Cursor} {x : Char} {cs : List Char}

@[simp] theorem rest_skip (c : Cursor) (k : Nat) : (c.skip k).rest = c.rest.drop k := rfl
@[simp] theorem column_skip (c : Cursor) (k : Nat) : (c.skip k).column = c.column + k := rfl
@[simp] theorem line_skip (c : Cursor) (k : Nat) : (c.skip k).line = c.line := rfl
@[simp] theorem index_skip (c : Cursor) (k : Nat) : (c.skip k).index = c.index + k := rfl

theorem skip_zero (c : Cursor) : c.skip 0 = c := by simp [skip]

theorem skip_skip (c : Cursor) (j k : Nat) : (c.skip j).skip k = c.skip (j + k) := by
  simp [skip, List.drop_drop, Nat.add_assoc]

theorem peek_of_rest (h : c.rest = x :: cs) : c.peek = some x := by simp [peek, h]

theorem at_of_rest (h : c.rest = x :: cs) (y : Char) : c.at_ y = (x == y) := by
  simp [at_, peek_of_rest h]

theorem atBlank_of_rest (h : c.rest = x :: cs) : c.atBlank = isBlank x := by
  simp [atBlank, peek_of_rest h]

theorem atBreak_of_rest (h : c.rest = x :: cs) : c.atBreak = isBreak x := by
  simp [atBreak, peek_of_rest h]

theorem at_of_end (h : c.rest = []) (y : Char) : c.at_ y = false := by simp [at_, peek, h]

theorem atBreak_of_end (h : c.rest = []) : c.atBreak = false := by simp [atBreak, peek, h]

/-- Behind the start of a line nothing marks a document. -/
theorem atDocumentMarker_of_column (h : 0 < c.column) : c.atDocumentMarker = false := by
  have : (c.column == 0) = false := by simpa using Nat.pos_iff_ne_zero.1 h
  simp [atDocumentMarker, atMarker, this]

end Cursor

/-- A character that stands on a line as it is. -/
structure InLine (x : Char) : Prop where
  printable : isPrintable x = true
  not_break : isBreak x = false

theorem InLine.ne_tab {x : Char} (h : InLine x) : x ≠ '\t' := by
  rintro rfl
  exact absurd h.printable (by decide)

theorem InLine.isBlank_eq {x : Char} (h : InLine x) : isBlank x = (x == ' ') := by
  simp [isBlank, h.ne_tab]

theorem InLine.isBlankOrEnd_eq {x : Char} (h : InLine x) : isBlankOrEnd (some x) = (x == ' ') := by
  have hnul : x ≠ '\x00' := by
    rintro rfl
    exact absurd h.printable (by decide)
  simp [isBlankOrEnd, h.isBlank_eq, h.not_break, hnul]

/-- A separator of lines or paragraphs. -/
def IsSeparator (x : Char) : Prop := x = '\u2028' ∨ x = '\u2029'

/-- A break that stands for itself: the line feed or a separator. -/
def IsLineEnd (x : Char) : Prop := x = '\n' ∨ IsSeparator x

theorem IsLineEnd.isBreak {x : Char} (h : IsLineEnd x) : isBreak x = true := by
  rcases h with rfl | rfl | rfl <;> rfl

theorem IsLineEnd.isBlank {x : Char} (h : IsLineEnd x) : isBlank x = false := by
  rcases h with rfl | rfl | rfl <;> rfl

/-- The other breaks are not printable. -/
theorem isLineEnd_of_break {x : Char} (hp : isPrintable x = true) (hx : isBreak x = true) :
    IsLineEnd x := by
  have hr : x ≠ '\r' := by
    rintro rfl
    exact absurd hp (by decide)
  have hl : x ≠ '\u0085' := by
    rintro rfl
    exact absurd hp (by decide)
  simpa [Yaml.isBreak, hr, hl, IsLineEnd, IsSeparator, or_assoc] using hx

namespace Cursor

variable {c : Cursor} {x : Char} {cs : List Char}

/-- The place at the start of the next line. -/
def nextLine (c : Cursor) (rest : List Char) : Cursor :=
  { rest := rest, line := c.line + 1, column := 0, index := c.index + 1 }

theorem skipLine_of_rest (h : c.rest = x :: cs) (hx : IsLineEnd x) :
    c.skipLine = c.nextLine cs := by
  have hr : x ≠ '\r' := by
    rintro rfl
    rcases hx with hx | hx | hx <;> exact absurd hx (by decide)
  unfold skipLine
  split
  · rename_i heq
    rw [heq] at h
    exact absurd (List.cons.inj h).1.symm hr
  · rename_i heq
    rw [heq] at h
    rw [(List.cons.inj h).2]
    rfl
  · rename_i heq
    rw [heq] at h
    cases h

theorem breakText_of_rest (h : c.rest = x :: cs) (hx : IsLineEnd x) : c.breakText = [x] := by
  unfold breakText
  rw [peek_of_rest h]
  rcases hx with rfl | rfl | rfl <;> rfl

end Cursor

/-! ## Parts of a text -/

theorem anyAdjacent_of_append {p : Char → Char → Bool} {s t : List Char}
    (h : anyAdjacent p (s ++ t) = false) : anyAdjacent p t = false := by
  induction s with
  | nil => exact h
  | cons x s ih =>
    refine ih ?_
    cases hst : s ++ t with
    | nil => rfl
    | cons y u =>
      rw [List.cons_append, hst] at h
      simp only [anyAdjacent, Bool.or_eq_false_iff] at h
      exact h.2

/-- A text starts with a run of the characters that satisfy `p`. -/
theorem exists_run (p : Char → Bool) (t : List Char) :
    ∃ s u, t = s ++ u ∧ (∀ x ∈ s, p x = true) ∧ (∀ x, u.head? = some x → p x = false) := by
  refine ⟨t.takeWhile p, t.dropWhile p, by simp, fun x hx => List.mem_takeWhile_imp hx, ?_⟩
  intro x hx
  have := List.head?_dropWhile_not p t
  rw [hx] at this
  simpa using this

/-- A text starts with a run of spaces. -/
theorem exists_spaces (t : List Char) :
    ∃ k u, t = List.replicate k ' ' ++ u ∧ u.head? ≠ some ' ' := by
  obtain ⟨s, u, rfl, hs, hu⟩ := exists_run (· == ' ') t
  refine ⟨s.length, u, ?_, fun h => by simpa using hu _ h⟩
  rw [← List.eq_replicate_iff.2 ⟨rfl, fun x hx => by simpa using hs x hx⟩]

end ScrapeFleet.Yaml
