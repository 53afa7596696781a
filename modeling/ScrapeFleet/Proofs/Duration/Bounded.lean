/-
# ScrapeFleet.Proofs.Duration.Bounded — durations read in 64 bits

The exact total of a run of items is compared with the limit once, when all of it is read. A reader with 64 bits
goes from left to right instead and has to stop where a number, its product with the length of the unit, or the
total so far does not fit (`runningTotal?`). Units are at least a millisecond long and totals only grow, so both
refuse the same texts and read the same totals (`runningTotal?_eq`). So the text of a duration, which counts its
whole milliseconds in 64 bits, is read without overflow at any item (`text_reads_back`).
-/
import ScrapeFleet.Proofs.Duration

namespace ScrapeFleet.Duration

/-! ## Reading from left to right -/

/-- A number that 64 bits hold. -/
def bounded? (n : Nat) : Option Nat := if n < limit then some n else none

/-- Reads the items one after the other beside the total so far, all in 64 bits. -/
def runningTotal? (total : Nat) (cs : List Char) : Option Nat :=
  match cs with
  | [] => some total
  | c :: rest =>
    if c.isDigit then do
      let afterNumber := rest.dropWhile Char.isDigit
      let value ← bounded? (digitsValue (c :: rest.takeWhile Char.isDigit))
      let factor ← unitMillis? (afterNumber.takeWhile (!·.isDigit))
      let part ← bounded? (value * factor)
      let total ← bounded? (total + part)
      runningTotal? total (afterNumber.dropWhile (!·.isDigit))
    else none
termination_by cs.length
decreasing_by
  have h1 : (rest.dropWhile Char.isDigit).length ≤ rest.length :=
    (List.dropWhile_suffix _).length_le
  have h2 : ((rest.dropWhile Char.isDigit).dropWhile (!·.isDigit)).length
      ≤ (rest.dropWhile Char.isDigit).length := (List.dropWhile_suffix _).length_le
  simp only [List.length_cons]
  exact Nat.lt_succ_of_le (Nat.le_trans h2 h1)

theorem bounded?_of_lt {n : Nat} (h : n < limit) : bounded? n = some n := if_pos h

theorem bounded?_of_le {n : Nat} (h : limit ≤ n) : bounded? n = none := if_neg (Nat.not_lt.2 h)

theorem one_le_unitMillis {unit : List Char} {factor : Nat} (h : unitMillis? unit = some factor) :
    1 ≤ factor := by
  have hunits : ∀ u ∈ units, 1 ≤ u.2 := by decide
  obtain ⟨before, after, hlist, _⟩ := List.lookup_eq_some_iff.1 h
  exact hunits (String.ofList unit, factor) (by rw [hlist]; simp)

/-- The three checks of an item are the one on the total behind it. -/
theorem bounded?_item (total value : Nat) {factor : Nat} (h : 1 ≤ factor) {α : Type} (next : Nat → Option α) :
    ((bounded? value).bind fun value => (bounded? (value * factor)).bind fun part =>
        (bounded? (total + part)).bind next) =
      (bounded? (total + value * factor)).bind next := by
  have hvalue : value ≤ value * factor := Nat.le_mul_of_pos_right value h
  by_cases htotal : total + value * factor < limit
  · have hpart : value * factor < limit := by omega
    rw [bounded?_of_lt (n := value) (by omega), Option.bind_some, bounded?_of_lt hpart, Option.bind_some]
  · rw [bounded?_of_le (n := total + value * factor) (Nat.not_lt.1 htotal)]
    -- whichever of the checks fails, nothing is read
    by_cases hv : value < limit
    · rw [bounded?_of_lt hv, Option.bind_some]
      by_cases hpart : value * factor < limit
      · rw [bounded?_of_lt hpart, Option.bind_some, bounded?_of_le (Nat.not_lt.1 htotal)]
      · rw [bounded?_of_le (Nat.not_lt.1 hpart)]
        rfl
    · rw [bounded?_of_le (Nat.not_lt.1 hv)]
      rfl

/-- **Nothing is refused on the way.** Reading in 64 bits gives the exact total if that fits, and fails
otherwise. -/
theorem runningTotal?_eq {total : Nat} (h : total < limit) (cs : List Char) :
    runningTotal? total cs = (itemsTotal? cs).bind fun t => bounded? (total + t) := by
  fun_induction runningTotal? total cs with
  | case1 total =>
    rw [itemsTotal?, Option.bind_some, Nat.add_zero, bounded?_of_lt h]
  | case2 total c rest hdigit afterNumber ih =>
    rw [itemsTotal?, if_pos hdigit]
    simp only [bind]
    cases hunit : unitMillis? (afterNumber.takeWhile (!·.isDigit)) with
    | none =>
      show ((bounded? _).bind fun _ => none) = none
      cases bounded? (digitsValue (c :: rest.takeWhile Char.isDigit)) <;> rfl
    | some factor =>
      simp only [Option.bind_some]
      rw [bounded?_item _ _ (one_le_unitMillis hunit)]
      by_cases hnext : total + digitsValue (c :: rest.takeWhile Char.isDigit) * factor < limit
      · rw [bounded?_of_lt hnext, Option.bind_some, ih _ hnext]
        cases itemsTotal? (afterNumber.dropWhile (!·.isDigit)) with
        | none => rfl
        | some t => simp only [Option.bind_some, Nat.add_assoc]
      · -- the total does not fit, and what follows would only add to it
        rw [bounded?_of_le (Nat.not_lt.1 hnext)]
        cases itemsTotal? (afterNumber.dropWhile (!·.isDigit)) with
        | none => rfl
        | some t => exact (bounded?_of_le (by omega)).symm
  | case3 total c rest hdigit =>
    rw [itemsTotal?, if_neg hdigit]
    rfl

/-- A duration is read by the reader with 64 bits. -/
theorem parse_eq_running (s : String) :
    parse s =
      let cs := Text.trim s.toList
      if cs = ['0'] then .ok ⟨0⟩
      else if cs = [] then .error (.malformed "")
      else
        match runningTotal? 0 cs with
        | some ms => .ok (ofMillis ms)
        | none => .error (.malformed (String.ofList cs)) := by
  have hzero : 0 < limit := by decide
  unfold parse
  dsimp only
  congr 2
  rw [runningTotal?_eq hzero]
  cases itemsTotal? (Text.trim s.toList) with
  | none => rfl
  | some ms =>
    rw [Option.bind_some, Nat.zero_add]
    by_cases hms : ms < limit
    · rw [bounded?_of_lt hms]
      exact if_pos hms
    · rw [bounded?_of_le (Nat.not_lt.1 hms)]
      exact if_neg hms

/-! ## The text of a duration -/

/-- **The text of a duration is read, and means what it counts.** What is read is the whole milliseconds in 64
bits, and at no item does the reading overflow. So a duration is read back from its text exactly if it is a whole
number of milliseconds that 64 bits hold, as all durations are that were read from a text. -/
theorem text_reads_back (d : Duration) :
    parse d.text = .ok (ofMillis (d.millis % limit)) ∧
      runningTotal? 0 d.text.toList = some (d.millis % limit) ∧
      (parse d.text = .ok d ↔ ∃ ms < limit, d = ofMillis ms) ∧
      ∀ s e, parse s = .ok e → parse e.text = .ok e := by
  have hlimit : d.millis % limit < limit := Nat.mod_lt _ (by decide)
  refine ⟨d.parse_text_eq, ?_, ⟨fun h => ?_, ?_⟩, fun s e he => parse_text (whole_of_parse he)⟩
  · rw [runningTotal?_eq (by decide), itemsTotal?_text, Option.bind_some, Nat.zero_add, bounded?_of_lt hlimit]
  · rw [parse_text_eq] at h
    exact ⟨_, hlimit, (Except.ok.inj h).symm⟩
  · rintro ⟨ms, hms, rfl⟩
    exact parse_text (whole_ofMillis hms)

/-- A duration of more than 64 bits of milliseconds, and a part of one, has the text of the rest. -/
example : (⟨(limit + 90500) * 1000000 + 7⟩ : Duration).text = "1m30s500ms" := by decide +kernel

end ScrapeFleet.Duration
