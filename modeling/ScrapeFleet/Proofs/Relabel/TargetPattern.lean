/-
# ScrapeFleet.Proofs.Relabel.TargetPattern — the patterns that targets are held against

The scraper holds a target label against one of two patterns, a plain one for label names and one for templates
in which repetitions nest. A pattern denotes a language, part by part (`Pattern.Denotes`), and by the laws of
repetition (`Regex.nested_eq`) the nested one denotes the templates. So for any text the checks of targets come
to what the scraper finds (`finds_templatePattern`, `finds_labelNamePattern`), whatever its tables of characters
are, as long as they take plain sets as they are written.
-/
import ScrapeFleet.Proofs.Relabel.Template

namespace ScrapeFleet.Relabel

open Regex (oneOf Pattern Tables)
open Regex.Pattern (Denotes denotes_char denotes_set)
open scoped Computability

variable {T : Tables} {c : Char}

/-! ## The patterns as trees -/

/-- The pattern that the scraper holds a template against. -/
def templatePattern : String := "^(?:(?:[a-zA-Z_]|\\$(?:\\\x7b\\w+\\\x7d|\\w+))+\\w*)+$"

/-- The pattern that the scraper holds a label name against. -/
def labelNamePattern : String := "^[a-zA-Z_][a-zA-Z0-9_]*$"

/-- What may stand at the start of a name, as a pattern. -/
def startClass : Pattern := .set (.bracket (.union [.range 'a' 'z', .range 'A' 'Z', .char '_'])) false

/-- What may stand inside a label name, as a pattern. -/
def asciiClass : Pattern :=
  .set (.bracket (.union [.range 'a' 'z', .range 'A' 'Z', .range '0' '9', .char '_'])) false

/-- A run of word characters, as a pattern. -/
def wordRun : Pattern := .rep (.set .word false) 1 none

/-- A reference, as a pattern. -/
def referencePattern : Pattern :=
  .concat [.char '$' false,
    .group false (.alt [.concat [.char '\x7b' false, wordRun, .char '\x7d' false], wordRun])]

theorem parse_templatePattern :
    Regex.parse templatePattern.toList = some (.concat [.look .lineStart false,
      .rep (.group false (.concat [.rep (.group false (.alt [startClass, referencePattern])) 1 none,
        .rep (.set .word false) 0 none])) 1 none,
      .look .lineEnd false]) := by
  -- the reader recurses on the length of what is left, which nothing unfolds unasked
  with_unfolding_all rfl

theorem parse_labelNamePattern :
    Regex.parse labelNamePattern.toList = some (.concat [.look .lineStart false,
      startClass, .rep asciiClass 0 none, .look .lineEnd false]) := by
  with_unfolding_all rfl

/-! ## What the parts denote -/

theorem isAlpha_iff : c.isAlpha = true ↔ 'a' ≤ c ∧ c ≤ 'z' ∨ 'A' ≤ c ∧ c ≤ 'Z' := by
  show (decide ('A' ≤ c ∧ c ≤ 'Z') || (decide ('a' ≤ c) && decide (c ≤ 'z'))) = true ↔ _
  simp only [Bool.or_eq_true, Bool.and_eq_true, decide_eq_true_iff]
  exact or_comm

theorem isDigit_iff : c.isDigit = true ↔ '0' ≤ c ∧ c ≤ '9' := by
  simp only [Char.isDigit, Bool.and_eq_true, decide_eq_true_iff]
  exact Iff.rfl

theorem denotes_startClass (hT : T.PlainSpoken) : Denotes T startClass nameStarts := by
  refine denotes_set fun c => ?_
  simp [hT.bracket, hT.union, hT.range, hT.char, isNameStart, isAlpha_iff, or_assoc]

theorem denotes_asciiClass (hT : T.PlainSpoken) : Denotes T asciiClass (oneOf Text.isAsciiWord) := by
  refine denotes_set fun c => ?_
  simp [hT.bracket, hT.union, hT.range, hT.char, Text.isAsciiWord, Char.isAlphanum, isAlpha_iff, isDigit_iff,
    or_assoc]

theorem denotes_wordRun (hT : T.PlainSpoken) : Denotes T wordRun groupNames :=
  (denotes_set fun _ => hT.word).plus

theorem denotes_reference (hT : T.PlainSpoken) : Denotes T referencePattern references := by
  have hrun := denotes_wordRun hT
  have hbraced := (denotes_char (T := T) '\x7b').cons (hrun.cons (denotes_char '\x7d').single)
  exact (denotes_char '$').cons (hbraced.or hrun).group.single

/-! ## Where the patterns are found -/

/-- **The reader of templates accepts what the scraper's pattern is found in.** -/
theorem finds_templatePattern (hT : T.PlainSpoken) (s : String) :
    ∃ p, Regex.parse templatePattern.toList = some p ∧ (p.Finds T s.toList ↔ isLabelTemplate s = true) := by
  refine ⟨_, parse_templatePattern, ?_⟩
  have hopening : Denotes T (.group false (.alt [startClass, referencePattern])) (nameStarts + references) :=
    ((denotes_startClass hT).or (denotes_reference hT)).group
  have hwords : Denotes T (.rep (.set .word false) 0 none) wordChars∗ :=
    (denotes_set fun _ => hT.word).star
  have hpart : Denotes T (.group false _) _ := (hopening.plus.cons hwords.single).group
  have hwhole := hpart.plus.single
  -- letter for letter this is the pattern; what it nests is one row of parts
  rw [Regex.nested_eq nameStarts_add_wordChars] at hwhole
  rw [isLabelTemplate_iff]
  exact hwhole.finds_anchored

/-- The check of label names accepts what the scraper's pattern is found in. -/
theorem finds_labelNamePattern (hT : T.PlainSpoken) (s : String) :
    ∃ p, Regex.parse labelNamePattern.toList = some p ∧ (p.Finds T s.toList ↔ isLabelName s = true) := by
  refine ⟨_, parse_labelNamePattern, ?_⟩
  rw [isLabelName_iff]
  exact ((denotes_startClass hT).cons (denotes_asciiClass hT).star.single).finds_anchored

end ScrapeFleet.Relabel
