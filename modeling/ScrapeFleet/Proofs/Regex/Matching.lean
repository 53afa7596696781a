/-
# ScrapeFleet.Proofs.Regex.Matching — what a pattern matches

A pattern matches a part of a text, and what stands before and after the part counts too, since a pattern
can ask for the start of the text or for the end of a word. `Pattern.Matches` says this part by part of the
pattern. Which characters belong to a class or are the same letter in another case is up to tables that are
not part of this library, and so is what counts as a word; whatever is said here holds for all such tables.

A text is searched for a pattern (`Pattern.Finds`), and a pattern between anchors is found only where it
matches the whole text (`finds_bracketed`).
-/
import ScrapeFleet.Regex.Size

namespace ScrapeFleet.Regex

/-- What the tables of characters say. -/
structure Tables where
  /-- A character is one of a set, in either case if the flag says so. -/
  within : CharSet → Bool → Char → Prop
  /-- A character ends a line. -/
  endsLine : Char → Prop
  /-- A look holds at a place that words or lines decide, between what is before and what is after. -/
  place : Look → List Char → List Char → Prop

/-- Tables that know single characters only. -/
def Tables.plain : Tables where
  within s _ x := s = .char x
  endsLine x := x = '\n'
  place _ _ _ := False

/-- A look holds between two texts. Unless lines count, only the ends of the whole text are starts and
ends of lines. -/
def Look.Holds (T : Tables) (l : Look) (multiLine : Bool) (before after : List Char) : Prop :=
  match l, multiLine with
  | .textStart, _ | .lineStart, false => before = []
  | .textEnd, _ | .lineEnd, false => after = []
  | l, _ => T.place l before after

namespace Pattern

/-- A pattern matches a text that stands between two others. -/
inductive Matches (T : Tables) : Pattern → List Char → List Char → List Char → Prop where
  | empty {before after : List Char} : Matches T .empty before [] after
  | setting {before after : List Char} : Matches T .setting before [] after
  | char {c : Char} {before after : List Char} : Matches T (.char c false) before [c] after
  | caseless {c x : Char} {before after : List Char} (h : T.within (.char c) true x) :
      Matches T (.char c true) before [x] after
  | set {s : CharSet} {caseless : Bool} {x : Char} {before after : List Char}
      (h : T.within s caseless x) : Matches T (.set s caseless) before [x] after
  | dot {all : Bool} {x : Char} {before after : List Char} (h : all = true ∨ ¬ T.endsLine x) :
      Matches T (.dot all) before [x] after
  | look {l : Look} {multiLine : Bool} {before after : List Char}
      (h : l.Holds T multiLine before after) : Matches T (.look l multiLine) before [] after
  | repNone {p : Pattern} {most : Option Nat} {before after : List Char} :
      Matches T (.rep p 0 most) before [] after
  | repMore {p : Pattern} {least : Nat} {most : Option Nat} {before first others after : List Char}
      (hmost : most ≠ some 0) (hfirst : Matches T p before first (others ++ after))
      (hothers : Matches T (.rep p (least - 1) (most.map (· - 1))) (before ++ first) others after) :
      Matches T (.rep p least most) before (first ++ others) after
  | group {captures : Bool} {p : Pattern} {before text after : List Char}
      (h : Matches T p before text after) : Matches T (.group captures p) before text after
  | concatNil {before after : List Char} : Matches T (.concat []) before [] after
  | concatCons {p : Pattern} {ps : List Pattern} {before first others after : List Char}
      (hfirst : Matches T p before first (others ++ after))
      (hothers : Matches T (.concat ps) (before ++ first) others after) :
      Matches T (.concat (p :: ps)) before (first ++ others) after
  | alt {p : Pattern} {ps : List Pattern} {before text after : List Char} (hmem : p ∈ ps)
      (h : Matches T p before text after) : Matches T (.alt ps) before text after

/-- A pattern matches somewhere in a text. -/
def Finds (T : Tables) (p : Pattern) (text : List Char) : Prop :=
  ∃ before part after, text = before ++ (part ++ after) ∧ p.Matches T before part after

variable {T : Tables} {p : Pattern} {ps : List Pattern} {before text after : List Char}

/-! ## Reading a match back -/

theorem matches_empty : Matches T .empty before text after ↔ text = [] := by
  refine ⟨fun h => ?_, ?_⟩
  · cases h
    rfl
  · rintro rfl
    exact .empty

theorem matches_char {c : Char} : Matches T (.char c false) before text after ↔ text = [c] := by
  refine ⟨fun h => ?_, ?_⟩
  · cases h
    rfl
  · rintro rfl
    exact .char

theorem matches_look {l : Look} {multiLine : Bool} :
    Matches T (.look l multiLine) before text after ↔ text = [] ∧ l.Holds T multiLine before after := by
  refine ⟨fun h => ?_, ?_⟩
  · cases h with
    | look h => exact ⟨rfl, h⟩
  · rintro ⟨rfl, h⟩
    exact .look h

theorem matches_group {captures : Bool} :
    Matches T (.group captures p) before text after ↔ Matches T p before text after := by
  refine ⟨fun h => ?_, .group⟩
  cases h with
  | group h => exact h

theorem matches_alt :
    Matches T (.alt ps) before text after ↔ ∃ p ∈ ps, Matches T p before text after := by
  refine ⟨fun h => ?_, ?_⟩
  · cases h with
    | alt hmem h => exact ⟨_, hmem, h⟩
  · rintro ⟨p, hmem, h⟩
    exact .alt hmem h

theorem matches_concat_nil : Matches T (.concat []) before text after ↔ text = [] := by
  refine ⟨fun h => ?_, ?_⟩
  · cases h
    rfl
  · rintro rfl
    exact .concatNil

theorem matches_concat_cons :
    Matches T (.concat (p :: ps)) before text after ↔
      ∃ first others, text = first ++ others ∧ Matches T p before first (others ++ after) ∧
        Matches T (.concat ps) (before ++ first) others after := by
  refine ⟨fun h => ?_, ?_⟩
  · cases h with
    | concatCons hfirst hothers => exact ⟨_, _, rfl, hfirst, hothers⟩
  · rintro ⟨first, others, rfl, hfirst, hothers⟩
    exact .concatCons hfirst hothers

theorem matches_concat_single :
    Matches T (.concat [p]) before text after ↔ Matches T p before text after := by
  rw [matches_concat_cons]
  refine ⟨?_, fun h => ⟨text, [], by simp, by simpa using h, .concatNil⟩⟩
  rintro ⟨first, others, rfl, hfirst, hothers⟩
  obtain rfl := matches_concat_nil.1 hothers
  simpa using hfirst

/-- A part alone is what a row of it is. -/
theorem matches_ofItems :
    Matches T (ofItems ps) before text after ↔ Matches T (.concat ps) before text after := by
  match ps with
  | [] => exact matches_empty.trans matches_concat_nil.symm
  | [_] => exact matches_concat_single.symm
  | _ :: _ :: _ => exact Iff.rfl

/-- One alternative alone is what a choice of it is. -/
theorem matches_ofBranches (h : ps ≠ []) :
    Matches T (ofBranches ps) before text after ↔ ∃ p ∈ ps, Matches T p before text after := by
  match ps with
  | [] => exact absurd rfl h
  | [p] => simp [ofBranches]
  | _ :: _ :: _ => exact matches_alt

/-! ## Words -/

/-- The pattern of a text itself. -/
def word (cs : List Char) : Pattern := ofItems (cs.map (.char · false))

/-- Characters in a row, and then more. -/
theorem matches_chars_append {cs : List Char} :
    Matches T (.concat (cs.map (.char · false) ++ ps)) before text after ↔
      ∃ others, text = cs ++ others ∧ Matches T (.concat ps) (before ++ cs) others after := by
  induction cs generalizing before text with
  | nil => simp
  | cons c cs ih =>
    rw [List.map_cons, List.cons_append, matches_concat_cons]
    simp only [matches_char, ih, List.append_assoc, List.cons_append]
    refine ⟨?_, ?_⟩
    · rintro ⟨_, _, rfl, rfl, others, rfl, h⟩
      exact ⟨others, rfl, h⟩
    · rintro ⟨others, rfl, h⟩
      exact ⟨[c], cs ++ others, rfl, rfl, others, rfl, h⟩

/-- The pattern of a text matches that text. -/
theorem matches_word {cs : List Char} :
    Matches T (word cs) before text after ↔ text = cs := by
  rw [word, matches_ofItems, ← List.append_nil (cs.map _), matches_chars_append]
  simp [matches_concat_nil]

/-! ## Anchors -/

/-- A row with an anchor at its end matches where the row does, and nothing comes after it. -/
theorem matches_append_lineEnd :
    Matches T (.concat (ps ++ [.look .lineEnd false])) before text after ↔
      Matches T (.concat ps) before text after ∧ after = [] := by
  induction ps generalizing before text with
  | nil =>
    simp only [List.nil_append, matches_concat_cons, matches_concat_nil, matches_look]
    refine ⟨?_, ?_⟩
    · rintro ⟨_, _, rfl, ⟨rfl, hafter⟩, rfl⟩
      exact ⟨rfl, hafter⟩
    · rintro ⟨rfl, rfl⟩
      exact ⟨[], [], rfl, ⟨rfl, rfl⟩, rfl⟩
  | cons p ps ih =>
    simp only [List.cons_append, matches_concat_cons, ih]
    refine ⟨?_, ?_⟩
    · rintro ⟨first, others, rfl, hfirst, hothers, hafter⟩
      exact ⟨⟨first, others, rfl, hfirst, hothers⟩, hafter⟩
    · rintro ⟨⟨first, others, rfl, hfirst, hothers⟩, hafter⟩
      exact ⟨first, others, rfl, hfirst, hothers, hafter⟩

/-- A row of patterns between anchors is found where it matches the whole text. -/
theorem finds_anchored :
    Finds T (.concat (.look .lineStart false :: (ps ++ [.look .lineEnd false]))) text ↔
      Matches T (.concat ps) [] text [] := by
  refine ⟨?_, fun h => ?_⟩
  · rintro ⟨before, part, after, rfl, h⟩
    obtain ⟨start, inner, rfl, hstart, hinner⟩ := matches_concat_cons.1 h
    obtain ⟨rfl, hbefore⟩ := matches_look.1 hstart
    obtain ⟨hwhole, rfl⟩ := matches_append_lineEnd.1 hinner
    obtain rfl : before = [] := hbefore
    simpa using hwhole
  · have hstart : Matches T (.look .lineStart false) [] [] (text ++ []) :=
      matches_look.2 ⟨rfl, rfl⟩
    exact ⟨[], text, [], by simp,
      matches_concat_cons.2 ⟨[], text, rfl, hstart, matches_append_lineEnd.2 ⟨h, rfl⟩⟩⟩

/-- A pattern between anchors, in a group of its own. -/
def bracketed (p : Pattern) : Pattern :=
  .concat [.look .lineStart false, .group false p, .look .lineEnd false]

/-- Between anchors, a pattern is found where it matches the whole text. -/
theorem finds_bracketed : Finds T (bracketed p) text ↔ Matches T p [] text [] := by
  change Finds T (.concat (_ :: ([.group false p] ++ [_]))) text ↔ _
  rw [finds_anchored, matches_concat_single, matches_group]

end Pattern

/-- A text is accepted by an anchored pattern that is given as text. -/
def Accepts (T : Tables) (pattern text : String) : Prop :=
  ∃ p, parse (anchored pattern.toList) = some p ∧ p.Finds T text.toList

end ScrapeFleet.Regex
