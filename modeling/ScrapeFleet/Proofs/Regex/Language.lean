/-
# ScrapeFleet.Proofs.Regex.Language — patterns that ask for nothing around them

A pattern without looks matches a part of a text whatever stands around it, so it has a language
(`Pattern.Denotes`). The language is put together from those of the parts: a choice is a sum, a row is a
product, a repetition is a star. What a set of characters lets pass is for the tables of characters to say;
tables that say of plain sets what they write down are plain-spoken (`Tables.PlainSpoken`).
-/
import Mathlib.Computability.Language
import ScrapeFleet.Proofs.Regex.Matching
import ScrapeFleet.Text.Word

namespace ScrapeFleet.Regex

open scoped Computability

/-! ## Languages of characters -/

/-- The characters that pass a test, each as a text of its own. -/
def oneOf (test : Char → Bool) : Language Char := {cs | ∃ c, test c = true ∧ cs = [c]}

/-- A character as a text of its own. -/
def only (c : Char) : Language Char := oneOf (· == c)

section OneOf

variable {test : Char → Bool} {l : Language Char} {c : Char} {cs : List Char}

theorem mem_oneOf : cs ∈ oneOf test ↔ ∃ c, test c = true ∧ cs = [c] := Iff.rfl

/-- What passes the narrower of two tests adds nothing to what passes the wider one. -/
theorem oneOf_add_eq {wider : Char → Bool} (h : ∀ c, test c = true → wider c = true) :
    oneOf test + oneOf wider = oneOf wider := by
  ext cs
  rw [Language.mem_add]
  refine or_iff_right_of_imp ?_
  rintro ⟨c, hc, rfl⟩
  exact ⟨c, h c hc, rfl⟩

theorem nil_notMem_oneOf_mul : [] ∉ oneOf test * l := by
  rintro ⟨_, ⟨c, _, rfl⟩, rest, _, h⟩
  cases h

theorem cons_mem_oneOf_mul : c :: cs ∈ oneOf test * l ↔ test c = true ∧ cs ∈ l := by
  refine ⟨?_, fun ⟨hc, hcs⟩ => Language.mem_mul.2 ⟨[c], ⟨c, hc, rfl⟩, cs, hcs, rfl⟩⟩
  rintro ⟨_, ⟨c', hc, rfl⟩, rest, hrest, h⟩
  obtain ⟨rfl, rfl⟩ := List.cons.inj h
  exact ⟨hc, hrest⟩

theorem cons_mem_only_mul {d : Char} : d :: cs ∈ only c * l ↔ d = c ∧ cs ∈ l := by
  rw [only, cons_mem_oneOf_mul, beq_iff_eq]

theorem mem_kstar_oneOf : cs ∈ (oneOf test)∗ ↔ ∀ c ∈ cs, test c = true := by
  induction cs with
  | nil => simp [Language.nil_mem_kstar]
  | cons c cs ih =>
    rw [← Language.one_add_self_mul_kstar_eq_kstar, Language.mem_add, Language.mem_one,
      cons_mem_oneOf_mul, ih, List.forall_mem_cons]
    exact or_iff_right (by simp)

end OneOf

/-! ## Repetitions -/

/-- A run of two kinds of things is split where the second kind stands. -/
theorem kstar_add_le {K : Type*} [KleeneAlgebra K] (a b : K) : (a + b)∗ ≤ a∗ * (b * a∗)∗ := by
  refine kstar_le_of_mul_le_right (one_le_mul one_le_kstar one_le_kstar) ?_
  rw [add_mul]
  refine add_le ?_ ?_
  · rw [← mul_assoc]
    exact mul_le_mul_left mul_kstar_le_kstar _
  · calc b * (a∗ * (b * a∗)∗) = (b * a∗) * (b * a∗)∗ := (mul_assoc ..).symm
      _ ≤ (b * a∗)∗ := mul_kstar_le_kstar
      _ = 1 * (b * a∗)∗ := (one_mul _).symm
      _ ≤ a∗ * (b * a∗)∗ := mul_le_mul_left one_le_kstar _

/-- Repetitions that nest come to one repetition, if all that may start a part may also go on in it. -/
theorem nested_eq {K : Type*} [KleeneAlgebra K] {a w r : K} (h : a + w = w) :
    ((a + r) * (a + r)∗ * w∗) * ((a + r) * (a + r)∗ * w∗)∗ = (a + r) * (w + r)∗ := by
  have hstarts : a + r ≤ w + r := add_le_add_left (add_eq_right_iff_le.1 h) r
  apply le_antisymm
  · -- a part is one start and then whatever goes on, and so are many parts
    have hpart : (a + r) * (a + r)∗ * w∗ ≤ (a + r) * (w + r)∗ := by
      calc (a + r) * (a + r)∗ * w∗ ≤ (a + r) * (w + r)∗ * (w + r)∗ := by
            gcongr
            exact le_self_add
        _ = (a + r) * (w + r)∗ := by rw [mul_assoc, kstar_mul_kstar]
    have hparts : ((a + r) * (a + r)∗ * w∗)∗ ≤ (w + r)∗ := by
      calc ((a + r) * (a + r)∗ * w∗)∗ ≤ ((w + r) * (w + r)∗)∗ := by
            refine kstar_mono (hpart.trans ?_)
            gcongr
        _ ≤ ((w + r)∗)∗ := kstar_mono mul_kstar_le_kstar
        _ = (w + r)∗ := kstar_idem _
    calc (a + r) * (a + r)∗ * w∗ * ((a + r) * (a + r)∗ * w∗)∗
        ≤ (a + r) * (w + r)∗ * (w + r)∗ := by gcongr
      _ = (a + r) * (w + r)∗ := by rw [mul_assoc, kstar_mul_kstar]
  · -- a new part starts at every `r`; up to there it is one start and a run of `w`
    have hfirst : (a + r) * w∗ ≤ (a + r) * (a + r)∗ * w∗ := by
      calc (a + r) * w∗ = (a + r) * 1 * w∗ := by rw [mul_one]
        _ ≤ (a + r) * (a + r)∗ * w∗ := by
            gcongr
            exact one_le_kstar
    have hlater : r * w∗ ≤ (a + r) * (a + r)∗ * w∗ := by
      apply le_trans _ hfirst
      gcongr
      exact le_add_self
    calc (a + r) * (w + r)∗ ≤ (a + r) * (w∗ * (r * w∗)∗) := by
          gcongr
          exact kstar_add_le w r
      _ = (a + r) * w∗ * (r * w∗)∗ := (mul_assoc ..).symm
      _ ≤ _ := mul_le_mul' hfirst (kstar_mono hlater)

/-! ## The language of a pattern -/

namespace Pattern

variable {T : Tables} {p : Pattern} {ps : List Pattern} {l m : Language Char}

/-- Wherever a text stands, the pattern matches it if the language has it. -/
def Denotes (T : Tables) (p : Pattern) (l : Language Char) : Prop :=
  ∀ before text after, p.Matches T before text after ↔ text ∈ l

theorem denotes_char (c : Char) : Denotes T (.char c false) (only c) := by
  intro before text after
  simp [matches_char, only, mem_oneOf]

theorem denotes_set {s : CharSet} {test : Char → Bool} (h : ∀ c, T.within s false c ↔ test c = true) :
    Denotes T (.set s false) (oneOf test) := by
  refine fun before text after => ⟨fun hmatches => ?_, ?_⟩
  · cases hmatches with
    | set hwithin => exact ⟨_, (h _).1 hwithin, rfl⟩
  · rintro ⟨c, hc, rfl⟩
    exact .set ((h c).2 hc)

theorem Denotes.group {captures : Bool} (h : Denotes T p l) : Denotes T (.group captures p) l :=
  fun before text after => matches_group.trans (h before text after)

theorem Denotes.single (h : Denotes T p l) : Denotes T (.concat [p]) l :=
  fun before text after => matches_concat_single.trans (h before text after)

theorem Denotes.cons (hfirst : Denotes T p l) (hothers : Denotes T (.concat ps) m) :
    Denotes T (.concat (p :: ps)) (l * m) := by
  intro before text after
  rw [matches_concat_cons, Language.mem_mul]
  refine ⟨?_, ?_⟩
  · rintro ⟨first, others, rfl, h, h'⟩
    exact ⟨first, (hfirst _ _ _).1 h, others, (hothers _ _ _).1 h', rfl⟩
  · rintro ⟨first, h, others, h', rfl⟩
    exact ⟨first, others, rfl, (hfirst _ _ _).2 h, (hothers _ _ _).2 h'⟩

theorem Denotes.or {q : Pattern} (hp : Denotes T p l) (hq : Denotes T q m) :
    Denotes T (.alt [p, q]) (l + m) := by
  intro before text after
  rw [matches_alt, Language.mem_add, ← hp before text after, ← hq before text after]
  simp

/-- A repetition is a row of any length. -/
theorem Denotes.star (h : Denotes T p l) : Denotes T (.rep p 0 none) l∗ := by
  refine fun before text after => ⟨fun hmatches => ?_, fun htext => ?_⟩
  · -- the match is taken apart from its front; the pattern stays the same repetition
    generalize hrep : Pattern.rep p 0 none = q at hmatches
    induction hmatches with
    | repNone => exact Language.nil_mem_kstar l
    | repMore _ hfirst _ _ ih =>
      cases hrep
      rw [← Language.one_add_self_mul_kstar_eq_kstar]
      exact .inr (Language.append_mem_mul ((h _ _ _).1 hfirst) (ih rfl))
    | _ => cases hrep
  · obtain ⟨parts, rfl, hparts⟩ := Language.mem_kstar.1 htext
    clear htext
    induction parts generalizing before with
    | nil => exact .repNone
    | cons part parts ih =>
      obtain ⟨hpart, hparts⟩ := List.forall_mem_cons.1 hparts
      exact .repMore nofun ((h _ _ _).2 hpart) (ih _ hparts)

/-- A repetition of one at least is one and then a row of any length. -/
theorem Denotes.plus (h : Denotes T p l) : Denotes T (.rep p 1 none) (l * l∗) := by
  refine fun before text after => ⟨fun hmatches => ?_, ?_⟩
  · cases hmatches with
    | repMore _ hfirst hothers =>
      exact Language.append_mem_mul ((h _ _ _).1 hfirst) ((h.star _ _ _).1 hothers)
  · rintro ⟨first, hfirst, others, hothers, rfl⟩
    exact .repMore nofun ((h _ _ _).2 hfirst) ((h.star _ _ _).2 hothers)

/-- Between anchors a pattern that has a language is found in the texts of the language. -/
theorem Denotes.finds_anchored {text : List Char} (h : Denotes T (.concat ps) l) :
    Finds T (.concat (.look .lineStart false :: (ps ++ [.look .lineEnd false]))) text ↔ text ∈ l :=
  Pattern.finds_anchored.trans (h [] text [])

end Pattern

/-! ## Tables that take sets as they are written -/

/-- The tables say of sets of characters, ranges and word characters what is written down. -/
structure Tables.PlainSpoken (T : Tables) : Prop where
  char {c x : Char} : T.within (.char c) false x ↔ x = c
  range {first last x : Char} : T.within (.range first last) false x ↔ first ≤ x ∧ x ≤ last
  word {x : Char} : T.within .word false x ↔ Text.isWord x = true
  union {ss : List CharSet} {x : Char} : T.within (.union ss) false x ↔ ∃ s ∈ ss, T.within s false x
  bracket {s : CharSet} {x : Char} : T.within (.bracket s) false x ↔ T.within s false x

/-- A character is in a set, so far as the set is put together from characters, ranges and word
characters. -/
inductive CharSet.Has : CharSet → Char → Prop where
  | char {c : Char} : Has (.char c) c
  | range {first last c : Char} (h : first ≤ c ∧ c ≤ last) : Has (.range first last) c
  | word {c : Char} (h : Text.isWord c = true) : Has .word c
  | union {ss : List CharSet} {c : Char} {s : CharSet} (hs : s ∈ ss) (h : Has s c) : Has (.union ss) c
  | bracket {s : CharSet} {c : Char} (h : Has s c) : Has (.bracket s) c

/-- There are such tables. -/
theorem exists_plainSpoken : ∃ T : Tables, T.PlainSpoken := by
  refine ⟨{ Tables.plain with within := fun s _ x => s.Has x }, ?_, ?_, ?_, ?_, ?_⟩
  · exact ⟨fun h => by cases h; rfl, fun h => h ▸ .char⟩
  · exact ⟨fun | .range h => h, .range⟩
  · exact ⟨fun | .word h => h, .word⟩
  · exact ⟨fun | .union hs h => ⟨_, hs, h⟩, fun ⟨_, hs, h⟩ => .union hs h⟩
  · exact ⟨fun | .bracket h => h, .bracket⟩

end ScrapeFleet.Regex
