/-
# ScrapeFleet.Proofs.Relabel.Template — the labels that a rule may write

A label name is a letter or `_` and then letters, digits and `_`, of ASCII all. A template may refer to the
groups of a match besides, and its word characters may be of any script. Templates are read with one state
for each place in a reference. Every state has a language of what may still come (`TemplateState.rest`), and
a step takes one character away from it (`cons_mem_rest_iff`); so a text is read to its end if it is in the
language of the first state, and these are the templates (`isLabelTemplate_iff`).
-/
import ScrapeFleet.Proofs.Regex.Language
import ScrapeFleet.Relabel.Check

namespace ScrapeFleet.Relabel

open Regex (oneOf only cons_mem_oneOf_mul cons_mem_only_mul nil_notMem_oneOf_mul)
open scoped Computability

/-! ## What may be written -/

/-- A word character of any script. -/
def wordChars : Language Char := oneOf Text.isWord

/-- A letter of ASCII or `_`. -/
def nameStarts : Language Char := oneOf isNameStart

/-- Names of groups have one word character at least. -/
def groupNames : Language Char := wordChars * wordChars∗

/-- A name as it stands after a dollar, in braces or not. -/
def bracedNames : Language Char := only '\x7b' * (groupNames * only '\x7d') + groupNames

/-- A reference to a group. -/
def references : Language Char := only '$' * bracedNames

/-- A template starts as a name does, or with a reference; word characters and references follow. -/
def templates : Language Char := (nameStarts + references) * (wordChars + references)∗

/-- A label name. -/
def labelNames : Language Char := nameStarts * (oneOf Text.isAsciiWord)∗

theorem nameStarts_add_wordChars : nameStarts + wordChars = wordChars := by
  refine Regex.oneOf_add_eq fun c hc => ?_
  rcases Bool.or_eq_true_iff.1 hc with h | h <;> simp [Text.isWord, Text.isAsciiWord, Char.isAlphanum, h]

theorem nil_notMem_labelNames : [] ∉ labelNames := nil_notMem_oneOf_mul

theorem isLabelName_iff {s : String} : isLabelName s = true ↔ s.toList ∈ labelNames := by
  unfold isLabelName labelNames nameStarts
  cases s.toList with
  | nil => exact iff_of_false nofun nil_notMem_oneOf_mul
  | cons c cs => rw [cons_mem_oneOf_mul, Regex.mem_kstar_oneOf, Bool.and_eq_true, List.all_eq_true]

/-! ## Reading a template -/

/-- What may still come after a state, for the whole to be a template. -/
def TemplateState.rest : TemplateState → Language Char
  | .start => templates
  | .body => (wordChars + references)∗
  | .dollar => bracedNames * (wordChars + references)∗
  | .brace => groupNames * (only '\x7d' * (wordChars + references)∗)
  | .braceName => wordChars∗ * (only '\x7d' * (wordChars + references)∗)

/-- Word characters may always be put in front of what follows. -/
theorem kstar_wordChars_mul : wordChars∗ * (wordChars + references)∗ = (wordChars + references)∗ := by
  refine le_antisymm (kstar_mul_le_self ?_) ?_
  · calc wordChars * (wordChars + references)∗
        ≤ (wordChars + references) * (wordChars + references)∗ := by
          gcongr
          exact le_self_add
      _ ≤ (wordChars + references)∗ := mul_kstar_le_kstar
  · calc (wordChars + references)∗ = 1 * (wordChars + references)∗ := (one_mul _).symm
      _ ≤ wordChars∗ * (wordChars + references)∗ := by
          gcongr
          exact one_le_kstar

namespace TemplateState

theorem rest_start : start.rest = nameStarts * body.rest + only '$' * dollar.rest := by
  simp only [rest, templates, references, add_mul, mul_assoc]

theorem rest_body : body.rest = 1 + (wordChars * body.rest + only '$' * dollar.rest) := by
  calc body.rest = 1 + (wordChars + references) * body.rest :=
        (Language.one_add_self_mul_kstar_eq_kstar _).symm
    _ = _ := by simp only [rest, references, add_mul, mul_assoc]

theorem rest_dollar : dollar.rest = wordChars * body.rest + only '\x7b' * brace.rest := by
  calc dollar.rest = wordChars * (wordChars∗ * body.rest) + only '\x7b' * brace.rest := by
        simp only [rest, bracedNames, groupNames, add_mul, mul_assoc, add_comm]
    _ = _ := by rw [rest, kstar_wordChars_mul]

theorem rest_brace : brace.rest = wordChars * braceName.rest := by
  simp only [rest, groupNames, mul_assoc]

theorem rest_braceName : braceName.rest = wordChars * braceName.rest + only '\x7d' * body.rest := by
  calc braceName.rest = (1 + wordChars * wordChars∗) * (only '\x7d' * body.rest) := by
        rw [Language.one_add_self_mul_kstar_eq_kstar, rest, rest]
    _ = _ := by simp only [rest, add_mul, one_mul, mul_assoc, add_comm]

/-- With two ways on, the character says which one is taken. The character of the second way must not be
let pass on the first. -/
theorem cons_mem_ways {test : Char → Bool} {c d : Char} {cs : List Char} {x y : TemplateState}
    (hd : test d = false) :
    c :: cs ∈ oneOf test * x.rest + only d * y.rest ↔
      ∃ q, (if test c then some x else if c == d then some y else none) = some q ∧ cs ∈ q.rest := by
  rw [Language.mem_add, cons_mem_oneOf_mul, cons_mem_only_mul]
  cases hc : test c with
  | true =>
    have hne : c ≠ d := by
      rintro rfl
      exact absurd hc (by simp [hd])
    simp [hne]
  | false => by_cases hcd : c = d <;> simp [hcd]

/-- A step takes one character away from what may come. -/
theorem cons_mem_rest_iff {q : TemplateState} {c : Char} {cs : List Char} :
    c :: cs ∈ q.rest ↔ ∃ q', q.next? c = some q' ∧ cs ∈ q'.rest := by
  -- the first way lets word characters pass, and a dollar or a brace is none
  cases q with
  | start =>
    rw [rest_start]
    exact cons_mem_ways (by decide)
  | body =>
    rw [rest_body, Language.mem_add, or_iff_right (by simp [Language.mem_one])]
    exact cons_mem_ways (by decide)
  | dollar =>
    rw [rest_dollar]
    exact cons_mem_ways (by decide)
  | brace =>
    rw [rest_brace, wordChars, cons_mem_oneOf_mul, next?]
    cases Text.isWord c <;> simp
  | braceName =>
    rw [rest_braceName]
    exact cons_mem_ways (by decide)

/-- Only after a whole part nothing need come. -/
theorem nil_mem_rest_iff {q : TemplateState} : [] ∈ q.rest ↔ q = .body := by
  have hways {test : Char → Bool} {d : Char} {l m : Language Char} : [] ∉ oneOf test * l + only d * m := by
    rintro (h | h) <;> exact nil_notMem_oneOf_mul h
  cases q with
  | start => exact iff_of_false (rest_start ▸ hways) nofun
  | body => exact iff_of_true (Language.nil_mem_kstar _) rfl
  | dollar => exact iff_of_false (rest_dollar ▸ hways) nofun
  | brace => exact iff_of_false (rest_brace ▸ nil_notMem_oneOf_mul) nofun
  | braceName => exact iff_of_false (rest_braceName ▸ hways) nofun

/-- A text is read to the end of a part from a state if it may come after that state. -/
theorem foldlM_next?_iff {cs : List Char} {q : TemplateState} :
    cs.foldlM next? q = some .body ↔ cs ∈ q.rest := by
  -- for all states at once, since every character changes the state
  induction cs generalizing q with
  | nil => exact Option.some_inj.trans nil_mem_rest_iff.symm
  | cons c cs ih =>
    rw [List.foldlM_cons, cons_mem_rest_iff]
    refine Option.bind_eq_some_iff.trans ?_
    simp only [ih]

end TemplateState

/-- **The reader of templates accepts what starts as a name or with a reference and goes on with word
characters and references.** -/
theorem isLabelTemplate_iff {s : String} : isLabelTemplate s = true ↔ s.toList ∈ templates :=
  beq_iff_eq.trans TemplateState.foldlM_next?_iff

example : isLabelTemplate "zone_$1$\x7bname\x7d" = true ∧ isLabelTemplate "1zone" = false ∧
    isLabelTemplate "zone$" = false := by
  decide

theorem nil_notMem_templates : [] ∉ templates := fun h => nomatch (TemplateState.nil_mem_rest_iff (q := .start)).1 h

end ScrapeFleet.Relabel
