/-
# ScrapeFleet.Proofs.Regex.Usable — when a pattern made of texts can be used

A pattern that is written for texts is always read, so it can only be refused for its size. The size grows
with the bytes of the texts alone: each takes a state of the automaton, and the signs around the texts add
the same to every pattern. So the pattern for a text is usable up to a length that no name in a cluster
comes near (`isUsable_literal_iff`), and one for a choice of texts up to that length for all of them
together (`isUsable_choice_iff`). A pattern that is not written for texts can be refused for what it says.
-/
import Mathlib.Algebra.Ring.Nat
import ScrapeFleet.Proofs.Regex.Literal

namespace ScrapeFleet.Regex

open Generate (literalPattern)
open Pattern (bracketed word ofItems ofBranches)

/-! ## Sizes -/

/-- The bytes of some characters. -/
def charBytes (cs : List Char) : Nat := (cs.map Char.utf8Size).sum

/-- The bytes of the automaton for a text: a state for each byte of the text, and one for no text. -/
def textBytes (s : String) : Nat := stateBytes * max 1 (charBytes s.toList)

/-- The bytes of the automaton for a choice of texts; no text at all is the empty text. -/
def choiceBytes : List String → Nat
  | [] => textBytes ""
  | [value] => textBytes value
  | values => (values.map textBytes).sum + values.length * 4 + 2 * stateBytes

theorem one_le_charBytes {cs : List Char} (h : cs ≠ []) : 1 ≤ charBytes cs := by
  match cs with
  | c :: cs =>
    have hpos := Char.utf8Size_pos c
    rw [charBytes, List.map_cons, List.sum_cons]
    omega

namespace Pattern

variable {d : Direction}

theorem total_eq_sum (ps : List Pattern) : bytes.total d ps = (ps.map (·.bytes d)).sum := by
  induction ps with
  | nil => rfl
  | cons p ps ih => rw [bytes.total, ih, List.map_cons, List.sum_cons]

theorem bytes_ofItems {ps : List Pattern} (h : ps ≠ []) :
    (ofItems ps).bytes d = (ps.map (·.bytes d)).sum := by
  match ps with
  | [p] => simp [ofItems]
  | p :: q :: ps => rw [ofItems, bytes, total_eq_sum] <;> simp

theorem bytes_chars (cs : List Char) :
    ((cs.map (Pattern.char · false)).map (·.bytes d)).sum = stateBytes * charBytes cs := by
  induction cs with
  | nil => rfl
  | cons c cs ih =>
    have hchar : (Pattern.char c false).bytes d = stateBytes * c.utf8Size := by
      rw [bytes]
      rfl
    rw [List.map_cons, List.map_cons, List.sum_cons, ih, hchar, charBytes, charBytes, List.map_cons,
      List.sum_cons, Nat.mul_add]

theorem bytes_word (s : String) : (word s.toList).bytes d = textBytes s := by
  by_cases h : s.toList = []
  · rw [textBytes, h]
    rfl
  · rw [word, bytes_ofItems (by simpa using h), bytes_chars, textBytes,
      Nat.max_eq_right (one_le_charBytes h)]

theorem bytes_branches {values : List String} (h : values ≠ []) :
    (ofBranches ((values.map String.toList).map word)).bytes d = choiceBytes values := by
  match values with
  | [value] => exact bytes_word value
  | v :: w :: values =>
    have hwords (vs : List String) :
        (((vs.map String.toList).map word).map (·.bytes d)).sum = (vs.map textBytes).sum := by
      simp [Function.comp_def, bytes_word]
    have hbytes := hwords (v :: w :: values)
    simp only [List.map_cons] at hbytes ⊢
    rw [ofBranches, bytes, total_eq_sum, choiceBytes]
    · simp only [List.map_cons, hbytes, List.length_cons, List.length_map]
    all_goals simp

/-- A part that can be referred to takes two more states to read forward. -/
theorem bytes_group (captures : Bool) (p : Pattern) :
    (group captures p).bytes d =
      p.bytes d + CharSet.pick d (if captures then 2 * stateBytes else 0) 0 := by
  cases captures <;> cases d <;> simp [bytes, CharSet.pick]

theorem bytes_bracketed (p : Pattern) : (bracketed p).bytes d = p.bytes d + 2 * stateBytes := by
  have hgroup : (group false p).bytes d = p.bytes d := by
    rw [bytes_group]
    cases d <;> rfl
  rw [bracketed, bytes, total_eq_sum, List.map_cons, List.map_cons, List.map_cons, List.map_nil, hgroup,
    bytes, bytes]
  simp only [List.sum_cons, List.sum_nil]
  omega

theorem bytes_choiceThen {values : List String} (h : values ≠ []) (ending : String) :
    (choiceThen (values.map String.toList) ending.toList).bytes d =
      choiceBytes values + CharSet.pick d (2 * stateBytes) 0 + stateBytes * charBytes ending.toList := by
  rw [choiceThen, bytes_ofItems (List.cons_ne_nil _ _), List.map_cons, List.sum_cons, bytes_chars,
    bytes_group, bytes_branches h, if_pos rfl]

/-- The automaton that reads forward is the larger one, and the one that decides. -/
theorem fits_iff_of_le {p : Pattern} (h : p.bytes .backward ≤ p.bytes .forward) :
    p.fits = true ↔ p.bytes .forward + 5 * stateBytes ≤ byteLimit := by
  rw [fits, Bool.and_eq_true, decide_eq_true_iff, decide_eq_true_iff]
  refine and_iff_left_of_imp fun hforward => ?_
  have hstate : stateBytes = 32 := rfl
  omega

end Pattern

/-! ## Usable patterns -/

/-- The pattern for a text is usable if the text is not too long. -/
theorem isUsable_literal_iff (value : String) :
    isUsable (literalPattern value) = true ↔ textBytes value + 7 * stateBytes ≤ byteLimit := by
  have hbytes (d : Direction) : (bracketed (word value.toList)).bytes d = textBytes value + 2 * stateBytes := by
    rw [Pattern.bytes_bracketed, Pattern.bytes_word]
  rw [isUsable, parse_literalPattern]
  show (bracketed (word value.toList)).fits = true ↔ _
  rw [Pattern.fits_iff_of_le (by simp only [hbytes, Nat.le_refl]), hbytes]
  omega

/-- The pattern for a choice of texts with an ending. -/
def choicePattern (values : List String) (ending : String) : String :=
  "(" ++ "|".intercalate (values.map literalPattern) ++ ")" ++ literalPattern ending

/-- A choice of no text is written as one of the empty text. -/
theorem choicePattern_nil (ending : String) : choicePattern [] ending = choicePattern [""] ending := by
  simp [choicePattern, literalPattern]

/-- The pattern for a choice of texts is usable if the texts together are not too long. -/
theorem isUsable_choice_iff (values : List String) (ending : String) :
    isUsable (choicePattern values ending) = true ↔
      choiceBytes values + stateBytes * charBytes ending.toList + 9 * stateBytes ≤ byteLimit := by
  have hsome (values : List String) (h : values ≠ []) : isUsable (choicePattern values ending) = true ↔
      choiceBytes values + stateBytes * charBytes ending.toList + 9 * stateBytes ≤ byteLimit := by
    rw [isUsable, choicePattern, parse_choice h]
    show (bracketed (choiceThen (values.map String.toList) ending.toList)).fits = true ↔ _
    rw [Pattern.fits_iff_of_le, Pattern.bytes_bracketed, Pattern.bytes_choiceThen h, CharSet.pick]
    · omega
    · simp only [Pattern.bytes_bracketed, Pattern.bytes_choiceThen h, CharSet.pick]
      omega
  cases values with
  | nil =>
    rw [choicePattern_nil]
    exact hsome [""] (List.cons_ne_nil "" [])
  | cons v vs => exact hsome (v :: vs) (List.cons_ne_nil v vs)

end ScrapeFleet.Regex
