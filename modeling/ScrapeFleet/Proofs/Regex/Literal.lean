/-
# ScrapeFleet.Proofs.Regex.Literal — patterns made of plain texts

A text becomes a pattern for itself by a backslash before each mark. Read back, such a pattern is a row of
the characters of the text, whatever they are, and it leaves everything around it as it was: that is one
lemma for each of the signs that are written beside texts, and an induction along the text and along a list
of alternatives. Put between anchors, the pattern of a text accepts that text alone (`accepts_literal`), and
so does a text in which there are no marks (`accepts_plain`). Texts between bars accept each of them
(`accepts_alternatives`), and a choice of texts with an ending accepts each of them with that ending
(`accepts_choice`).
-/
import ScrapeFleet.Proofs.Regex.Matching
import ScrapeFleet.Generate.Relabeling

namespace ScrapeFleet.Regex

open Generate (patternMarks literalPattern)

/-! ## Signs -/

section Signs

variable {level parent : Level} {stack : List Level} {names : List String} {c : Char} {rest : List Char}

/-- A character that is no mark stands for itself. -/
theorem readPattern_plain (hc : patternMarks.contains c = false) :
    readPattern {} level stack names (c :: rest) =
      readPattern {} (level.push (.char c false)) stack names rest := by
  rw [readPattern]
  simp only [skip, Bool.false_eq_true, if_false]
  -- every sign that the reader looks for is a mark
  split
  all_goals first | (exfalso; revert hc; decide) | skip
  simp [Primitive.pattern?]

theorem readEscape_mark (hc : patternMarks.contains c = true) :
    readEscape {} (c :: rest) = some (.char c, rest) := by
  simp only [patternMarks, List.contains_iff_mem, List.mem_cons, List.not_mem_nil, or_false] at hc
  rcases hc with rfl | rfl | rfl | rfl | rfl | rfl | rfl | rfl | rfl | rfl | rfl | rfl | rfl | rfl <;> rfl

/-- A mark after a backslash stands for itself. -/
theorem readPattern_escaped (hc : patternMarks.contains c = true) :
    readPattern {} level stack names ('\\' :: c :: rest) =
      readPattern {} (level.push (.char c false)) stack names rest := by
  have hshorter : rest.length < ('\\' :: c :: rest).length := by
    simp only [List.length_cons]
    omega
  rw [readPattern]
  simp only [skip, Bool.false_eq_true, if_false, readEscape_mark hc, Primitive.pattern?, dif_pos hshorter]

theorem readPattern_bar :
    readPattern {} level stack names ('|' :: rest) =
      readPattern {} level.endBranch stack names rest := by
  rw [readPattern]
  simp [skip]

theorem readPattern_open (h : rest.head? ≠ some '?') :
    readPattern {} level stack names ('(' :: rest) =
      readPattern {} ⟨true, {}, [], []⟩ (level :: stack) names rest := by
  have hopening : readOpening {} rest = some (.group true none {}, rest) := by
    unfold readOpening
    simp only [skip, Bool.false_eq_true, if_false]
    split <;> simp_all
  rw [readPattern]
  simp [skip, hopening]

theorem readPattern_openSilent :
    readPattern {} level stack names ('(' :: '?' :: ':' :: rest) =
      readPattern {} ⟨false, {}, [], []⟩ (level :: stack) names rest := by
  have hopening : readOpening {} ('?' :: ':' :: rest) = some (.group false none {}, rest) := rfl
  have hshorter : rest.length < ('(' :: '?' :: ':' :: rest).length := by
    simp only [List.length_cons]
    omega
  rw [readPattern]
  simp only [skip, Bool.false_eq_true, if_false, hopening, dif_pos hshorter]

theorem readPattern_close (h : level.outerOptions = {}) :
    readPattern {} level (parent :: stack) names (')' :: rest) =
      readPattern {} (parent.push (.group level.captures level.pattern)) stack names rest := by
  rw [readPattern]
  simp [skip, h]

theorem readPattern_start :
    readPattern {} level stack names ('^' :: rest) =
      readPattern {} (level.push (.look .lineStart false)) stack names rest := by
  rw [readPattern]
  simp [skip, Primitive.pattern?]

theorem readPattern_stop :
    readPattern {} level stack names ('$' :: rest) =
      readPattern {} (level.push (.look .lineEnd false)) stack names rest := by
  rw [readPattern]
  simp [skip, Primitive.pattern?]

theorem readPattern_end : readPattern {} level [] names [] = some level.pattern := by
  rw [readPattern]
  simp [skip]

end Signs

/-! ## Texts and alternatives -/

namespace Level

/-- Adds the characters of a text. -/
def spell (l : Level) (cs : List Char) : Level := cs.foldl (fun l c => l.push (.char c false)) l

/-- Adds texts as alternatives, the last of which may go on. -/
def choose (l : Level) : List (List Char) → Level
  | [] => l
  | [cs] => l.spell cs
  | cs :: ds :: others => (l.spell cs).endBranch.choose (ds :: others)

theorem spell_eq (l : Level) (cs : List Char) :
    l.spell cs = { l with items := (cs.map (.char · false)).reverse ++ l.items } := by
  induction cs generalizing l with
  | nil => rfl
  | cons c cs ih =>
    rw [spell, List.foldl_cons, ← spell, ih]
    simp [push]

theorem endBranch_spell {l : Level} (h : l.items = []) (cs : List Char) :
    (l.spell cs).endBranch = { l with branches := Pattern.word cs :: l.branches, items := [] } := by
  simp [spell_eq, endBranch, h, Pattern.word]

/-- Texts that were added as alternatives follow those that were there. -/
theorem endBranch_choose {l : Level} (h : l.items = []) {values : List (List Char)}
    (hsome : values ≠ []) :
    (l.choose values).endBranch =
      { l with branches := (values.map Pattern.word).reverse ++ l.branches, items := [] } := by
  induction values generalizing l with
  | nil => exact absurd rfl hsome
  | cons cs others ih =>
    cases others with
    | nil => exact endBranch_spell h cs
    | cons ds others =>
      rw [choose, endBranch_spell h, ih rfl (List.cons_ne_nil ds others)]
      simp

theorem choose_same (l : Level) (values : List (List Char)) :
    (l.choose values).captures = l.captures ∧ (l.choose values).outerOptions = l.outerOptions := by
  induction values generalizing l with
  | nil => exact ⟨rfl, rfl⟩
  | cons cs others ih =>
    cases others with
    | nil => simp [choose, spell_eq]
    | cons ds others => simp [choose, ih, spell_eq, endBranch]

end Level

/-- The pattern for a text as characters. -/
def literal (cs : List Char) : List Char :=
  cs.flatMap fun c => if patternMarks.contains c then ['\\', c] else [c]

theorem toList_literalPattern (s : String) : (literalPattern s).toList = literal s.toList :=
  String.toList_ofList

/-- A text without marks is its own pattern. -/
theorem literalPattern_of_plain {s : String} (h : ∀ c ∈ s.toList, patternMarks.contains c = false) :
    literalPattern s = s := by
  have hsame (cs : List Char) (h : ∀ c ∈ cs, patternMarks.contains c = false) : literal cs = cs := by
    induction cs with
    | nil => rfl
    | cons c cs ih =>
      rw [literal, List.flatMap_cons, h c List.mem_cons_self, ← literal,
        ih fun d hd => h d (List.mem_cons_of_mem c hd)]
      rfl
  rw [← String.toList_inj, toList_literalPattern, hsame s.toList h]

section Texts

variable {level : Level} {stack : List Level} {names : List String} {rest : List Char}

/-- The pattern for a text is read as the characters of the text. -/
theorem readPattern_literal (cs : List Char) :
    readPattern {} level stack names (literal cs ++ rest) =
      readPattern {} (level.spell cs) stack names rest := by
  induction cs generalizing level with
  | nil => rfl
  | cons c cs ih =>
    rw [literal, List.flatMap_cons, List.append_assoc, ← literal]
    by_cases hc : patternMarks.contains c = true
    · rw [if_pos hc, List.cons_append, List.cons_append, List.nil_append, readPattern_escaped hc, ih]
      rfl
    · rw [if_neg hc, List.cons_append, List.nil_append, readPattern_plain (by simpa using hc), ih]
      rfl

/-- Patterns for texts between bars are read as alternatives. -/
theorem readPattern_choice (values : List (List Char)) :
    readPattern {} level stack names (['|'].intercalate (values.map literal) ++ rest) =
      readPattern {} (level.choose values) stack names rest := by
  induction values generalizing level with
  | nil => rfl
  | cons cs others ih =>
    cases others with
    | nil => simpa [Level.choose] using readPattern_literal cs
    | cons ds others =>
      have hjoined : ['|'].intercalate ((cs :: ds :: others).map literal) ++ rest =
          literal cs ++ '|' :: (['|'].intercalate ((ds :: others).map literal) ++ rest) := by
        simp
      rw [hjoined, readPattern_literal, readPattern_bar, ih]
      rfl

/-- What is written for a text does not start with a question mark. -/
theorem head?_literal (cs : List Char) (h : rest.head? ≠ some '?') :
    (literal cs ++ rest).head? ≠ some '?' := by
  cases cs with
  | nil => exact h
  | cons c cs =>
    rw [literal, List.flatMap_cons, List.append_assoc]
    by_cases hc : patternMarks.contains c = true
    · rw [if_pos hc]
      simp
    · rw [if_neg hc]
      intro hmark
      obtain rfl : c = '?' := by simpa using hmark
      exact hc rfl

theorem head?_choice (values : List (List Char)) (h : rest.head? ≠ some '?') :
    (['|'].intercalate (values.map literal) ++ rest).head? ≠ some '?' := by
  match values with
  | [] => exact h
  | [cs] => simpa using head?_literal cs h
  | cs :: ds :: others =>
    have hbar : ('|' :: (['|'].intercalate ((ds :: others).map literal) ++ rest)).head? ≠ some '?' := by
      simp
    simpa using head?_literal cs hbar

end Texts

/-! ## Depth -/

namespace Pattern

theorem depths_le {ps : List Pattern} {n : Nat} (h : ∀ p ∈ ps, p.depth ≤ n) : depth.depths ps ≤ n := by
  induction ps with
  | nil => exact Nat.zero_le n
  | cons p ps ih =>
    rw [depth.depths]
    exact Nat.max_le.2 ⟨h p List.mem_cons_self, ih fun q hq => h q (List.mem_cons_of_mem p hq)⟩

theorem depth_ofItems_le {ps : List Pattern} {n : Nat} (h : ∀ p ∈ ps, p.depth ≤ n) :
    (ofItems ps).depth ≤ n + 1 := by
  match ps with
  | [] => exact Nat.zero_le _
  | [p] => exact Nat.le_succ_of_le (h p List.mem_cons_self)
  | p :: q :: ps =>
    have hlist := depths_le h
    rw [ofItems, depth]
    · omega
    all_goals simp

theorem depth_ofBranches_le {ps : List Pattern} {n : Nat} (h : ∀ p ∈ ps, p.depth ≤ n) :
    (ofBranches ps).depth ≤ n + 1 := by
  match ps with
  | [] => exact Nat.zero_le _
  | [p] => exact Nat.le_succ_of_le (h p List.mem_cons_self)
  | p :: q :: ps =>
    have hlist := depths_le h
    rw [ofBranches, depth]
    · omega
    all_goals simp

theorem depth_word_le (cs : List Char) : (word cs).depth ≤ 1 := by
  refine depth_ofItems_le fun p hp => ?_
  obtain ⟨c, _, rfl⟩ := List.mem_map.1 hp
  exact Nat.le_refl _

theorem depth_bracketed_le (p : Pattern) : (bracketed p).depth ≤ p.depth + 2 := by
  have hparts (q : Pattern) (hq : q ∈ [.look .lineStart false, .group false p, .look .lineEnd false]) :
      q.depth ≤ p.depth + 1 := by
    simp only [List.mem_cons, List.not_mem_nil, or_false] at hq
    rcases hq with rfl | rfl | rfl
    · exact Nat.zero_le _
    · rw [depth]
      omega
    · exact Nat.zero_le _
  have hlist := depths_le hparts
  rw [bracketed, depth]
  omega

end Pattern

/-! ## Whole patterns -/

open Pattern (bracketed word ofItems ofBranches)

/-- A pattern that can be read in a group is read between anchors. -/
theorem parse_anchored {text : List Char} {inner : Level}
    (hread : ∀ stack names rest, readPattern {} ⟨false, {}, [], []⟩ stack names (text ++ rest) =
      readPattern {} inner stack names rest)
    (houter : inner.outerOptions = {}) (hcaptures : inner.captures = false)
    (hdepth : inner.pattern.depth + 2 ≤ nestLimit) :
    parse (anchored text) = some (bracketed inner.pattern) := by
  have hanchored : anchored text = '^' :: '(' :: '?' :: ':' :: (text ++ [')', '$']) := by
    simp [anchored]
  have hpattern : readPattern {} ⟨true, {}, [], []⟩ [] [] (anchored text) =
      some (bracketed inner.pattern) := by
    rw [hanchored, readPattern_start, readPattern_openSilent, hread, readPattern_close houter,
      readPattern_stop, readPattern_end, hcaptures]
    rfl
  have hbracketed : (bracketed inner.pattern).depth ≤ nestLimit :=
    Nat.le_trans (Pattern.depth_bracketed_le inner.pattern) hdepth
  rw [parse, hpattern]
  exact if_pos hbracketed

/-- The pattern for a text is read as the text. -/
theorem parse_literalPattern (value : String) :
    parse (anchored (literalPattern value).toList) = some (bracketed (word value.toList)) := by
  have hpattern : (Level.spell ⟨false, {}, [], []⟩ value.toList).pattern = word value.toList := by
    rw [Level.pattern, Level.endBranch_spell rfl]
    rfl
  rw [toList_literalPattern, ← hpattern]
  refine parse_anchored (fun stack names rest => readPattern_literal value.toList) ?_ ?_ ?_
  · rw [Level.spell_eq]
  · rw [Level.spell_eq]
  · have hword := Pattern.depth_word_le value.toList
    rw [hpattern, nestLimit]
    omega

variable {T : Tables}

/-- The pattern for a text accepts that text alone. -/
theorem accepts_literal {value text : String} : Accepts T (literalPattern value) text ↔ text = value := by
  rw [Accepts, parse_literalPattern]
  simp only [Option.some.injEq, exists_eq_left', Pattern.finds_bracketed, Pattern.matches_word,
    String.toList_inj]

/-- So does a text without marks, as a pattern. -/
theorem accepts_plain {value text : String} (h : ∀ c ∈ value.toList, patternMarks.contains c = false) :
    Accepts T value text ↔ text = value := by
  have haccepts : Accepts T (literalPattern value) text ↔ text = value := accepts_literal
  rwa [literalPattern_of_plain h] at haccepts

theorem toList_alternatives (values : List String) :
    ("|".intercalate (values.map literalPattern)).toList =
      ['|'].intercalate ((values.map String.toList).map literal) := by
  rw [String.toList_intercalate, List.map_map, List.map_map]
  exact congrArg _ (List.map_congr_left fun value _ => toList_literalPattern value)

theorem pattern_choose {captures : Bool} {values : List (List Char)} (h : values ≠ []) :
    (Level.choose ⟨captures, {}, [], []⟩ values).pattern = ofBranches (values.map word) := by
  rw [Level.pattern, Level.endBranch_choose rfl h]
  simp

theorem depth_words_le (values : List (List Char)) : (ofBranches (values.map word)).depth ≤ 2 := by
  refine Pattern.depth_ofBranches_le fun p hp => ?_
  obtain ⟨cs, _, rfl⟩ := List.mem_map.1 hp
  exact Pattern.depth_word_le cs

/-- Texts between bars are read as a choice of the texts. -/
theorem parse_alternatives {values : List String} (h : values ≠ []) :
    parse (anchored ("|".intercalate (values.map literalPattern)).toList) =
      some (bracketed (ofBranches ((values.map String.toList).map word))) := by
  obtain ⟨hcaptures, houter⟩ := Level.choose_same ⟨false, {}, [], []⟩ (values.map String.toList)
  have hsome : values.map String.toList ≠ [] := by simpa using h
  have hdepth := depth_words_le (values.map String.toList)
  rw [toList_alternatives, ← pattern_choose hsome]
  refine parse_anchored (fun stack names rest => readPattern_choice _) houter hcaptures ?_
  rw [pattern_choose hsome, nestLimit]
  omega

/-- Texts between bars accept each of the texts. -/
theorem accepts_alternatives {values : List String} (h : values ≠ []) {text : String} :
    Accepts T ("|".intercalate (values.map literalPattern)) text ↔ text ∈ values := by
  have hsome : (values.map String.toList).map word ≠ [] := by simpa using h
  rw [Accepts, parse_alternatives h]
  simp only [Option.some.injEq, exists_eq_left', Pattern.finds_bracketed, Pattern.matches_ofBranches hsome]
  constructor
  · rintro ⟨p, hp, hmatches⟩
    obtain ⟨_, hcs, rfl⟩ := List.mem_map.1 hp
    obtain ⟨value, hvalue, rfl⟩ := List.mem_map.1 hcs
    exact String.toList_inj.1 (Pattern.matches_word.1 hmatches) ▸ hvalue
  · intro htext
    exact ⟨word text.toList, List.mem_map_of_mem (List.mem_map_of_mem htext), Pattern.matches_word.2 rfl⟩

/-- A choice of texts and then a text. -/
def choiceThen (values : List (List Char)) (ending : List Char) : Pattern :=
  ofItems (.group true (ofBranches (values.map word)) :: ending.map (.char · false))

theorem matches_choiceThen {values : List (List Char)} (h : values ≠ []) {ending before text after : List Char} :
    Pattern.Matches T (choiceThen values ending) before text after ↔
      ∃ value ∈ values, text = value ++ ending := by
  have hword (b t a : List Char) : Pattern.Matches T (.concat (ending.map (.char · false))) b t a ↔
      t = ending := by
    rw [← Pattern.matches_ofItems]
    exact Pattern.matches_word
  have hbranches : values.map word ≠ [] := by simpa using h
  rw [choiceThen, Pattern.matches_ofItems, Pattern.matches_concat_cons]
  simp only [Pattern.matches_group, Pattern.matches_ofBranches hbranches, List.mem_map, hword]
  constructor
  · rintro ⟨first, _, rfl, ⟨_, ⟨value, hvalue, rfl⟩, hfirst⟩, rfl⟩
    obtain rfl := Pattern.matches_word.1 hfirst
    exact ⟨first, hvalue, rfl⟩
  · rintro ⟨value, hvalue, rfl⟩
    exact ⟨value, ending, rfl, ⟨_, ⟨value, hvalue, rfl⟩, Pattern.matches_word.2 rfl⟩, rfl⟩

theorem depth_choiceThen_le (values : List (List Char)) (ending : List Char) :
    (choiceThen values ending).depth ≤ 4 := by
  have hchoice := depth_words_le values
  refine Pattern.depth_ofItems_le fun p hp => ?_
  rcases List.mem_cons.1 hp with rfl | hp
  · rw [Pattern.depth]
    omega
  · obtain ⟨c, _, rfl⟩ := List.mem_map.1 hp
    exact Nat.zero_le _

/-- Texts in parentheses with an ending are read as a choice of the texts, and then the ending. -/
theorem parse_choice {values : List String} (h : values ≠ []) (ending : String) :
    parse (anchored ("(" ++ "|".intercalate (values.map literalPattern) ++ ")" ++
      literalPattern ending).toList) =
      some (bracketed (choiceThen (values.map String.toList) ending.toList)) := by
  obtain ⟨hcaptures, houter⟩ :=
    Level.choose_same ⟨true, {}, [], []⟩ (values.map String.toList)
  have hsome : values.map String.toList ≠ [] := by simpa using h
  have htext : ("(" ++ "|".intercalate (values.map literalPattern) ++ ")" ++ literalPattern ending).toList =
      '(' :: (['|'].intercalate ((values.map String.toList).map literal) ++
        ')' :: literal ending.toList) := by
    simp only [String.toList_append, toList_alternatives, toList_literalPattern]
    simp
  have hchoice : (Level.choose ⟨true, {}, [], []⟩ (values.map String.toList)).pattern = _ :=
    pattern_choose hsome
  -- the group that the choice stands in, with the ending after it
  let inner : Level := Level.spell (Level.push ⟨false, {}, [], []⟩
    (.group true (ofBranches ((values.map String.toList).map word)))) ending.toList
  have hpattern : inner.pattern = choiceThen (values.map String.toList) ending.toList := by
    simp [inner, Level.pattern, Level.spell_eq, Level.endBranch, Level.push, choiceThen, ofBranches]
  rw [htext, ← hpattern]
  refine parse_anchored (fun stack names rest => ?_) ?_ ?_ ?_
  · rw [List.cons_append, List.append_assoc, List.cons_append,
      readPattern_open (head?_choice _ (by simp)), readPattern_choice, readPattern_close houter,
      hcaptures, hchoice, readPattern_literal]
  · simp [inner, Level.spell_eq, Level.push]
  · simp [inner, Level.spell_eq, Level.push]
  · have hdepth := depth_choiceThen_le (values.map String.toList) ending.toList
    rw [hpattern, nestLimit]
    omega

/-- Texts in parentheses with an ending accept each of the texts with that ending. -/
theorem accepts_choice {values : List String} (h : values ≠ []) {ending text : String} :
    Accepts T ("(" ++ "|".intercalate (values.map literalPattern) ++ ")" ++ literalPattern ending) text ↔
      ∃ value ∈ values, text = value ++ ending := by
  have hsome : values.map String.toList ≠ [] := by simpa using h
  rw [Accepts, parse_choice h]
  simp only [Option.some.injEq, exists_eq_left', Pattern.finds_bracketed, matches_choiceThen hsome]
  constructor
  · rintro ⟨_, hvalue, heq⟩
    obtain ⟨value, hmem, rfl⟩ := List.mem_map.1 hvalue
    exact ⟨value, hmem, String.toList_inj.1 (by rw [heq, String.toList_append])⟩
  · rintro ⟨value, hmem, rfl⟩
    exact ⟨value.toList, List.mem_map_of_mem hmem, String.toList_append⟩

end ScrapeFleet.Regex
