/-
# ScrapeFleet.Proofs.Duration.Measured — the measured form tells the duration

A duration is measured in one of four units: so many of them, and of what is left a decimal fraction without
the zeros at its end. The number of places goes with the unit, so the zeros can be put back
(`exists_kept`), and the three parts of the text can be told apart, since a digit is neither a point nor the
first letter of a unit. So durations of the same measured form are the same (`measured_injective`).
-/
import Mathlib.Algebra.Ring.Nat
import ScrapeFleet.Proofs.Duration

namespace ScrapeFleet.Duration

/-! ## Fractions -/

theorem digitsValue_zeros (k : Nat) (ds : List Char) :
    digitsValue (List.replicate k '0' ++ ds) = digitsValue ds := by
  induction k with
  | zero => rfl
  | succ k ih => exact ih

/-- Zeros that were taken from the front of a list can be put back if the length of the list is known. -/
theorem replicate_append_dropWhile (l : List Char) :
    List.replicate (l.length - (l.dropWhile (· == '0')).length) '0' ++ l.dropWhile (· == '0') = l := by
  have hparts : l.takeWhile (· == '0') ++ l.dropWhile (· == '0') = l := List.takeWhile_append_dropWhile
  have hzeros : l.takeWhile (· == '0') = List.replicate (l.takeWhile (· == '0')).length '0' := by
    refine List.eq_replicate_of_mem fun c hc => ?_
    simpa using List.all_eq_true.1 List.all_takeWhile c hc
  have hlength : l.length - (l.dropWhile (· == '0')).length = (l.takeWhile (· == '0')).length := by
    have hsum := congrArg List.length hparts
    rw [List.length_append] at hsum
    omega
  rw [hlength, ← hzeros, hparts]

/-- A point and digits, if there are digits. -/
def pointed (kept : List Char) : List Char := if kept = [] then [] else '.' :: kept

/-- The digits of a fraction, filled up with zeros, write its part. -/
theorem exists_kept {part places : Nat} (hplaces : 0 < places) (h : part < 10 ^ places) :
    ∃ kept, (fractionText part places).toList = pointed kept ∧ (∀ c ∈ kept, c.isDigit = true) ∧
      digitsValue (kept ++ List.replicate (places - kept.length) '0') = part := by
  obtain ⟨padded, hpadded⟩ : ∃ padded, padded =
    ((Nat.toDigits 10 part).reverse ++ List.replicate places '0').take places := ⟨_, rfl⟩
  have hlength : (Nat.toDigits 10 part).length ≤ places :=
    (Nat.length_toDigits_le_iff (by decide) hplaces).2 h
  have hfilled : padded = (Nat.toDigits 10 part).reverse ++
      List.replicate (places - (Nat.toDigits 10 part).length) '0' := by
    rw [hpadded, List.take_append, List.take_of_length_le (by simpa using hlength), List.take_replicate,
      List.length_reverse, Nat.min_eq_left (Nat.sub_le _ _)]
  have hplacesEq : padded.length = places := by
    rw [hfilled, List.length_append, List.length_reverse, List.length_replicate]
    omega
  refine ⟨(padded.dropWhile (· == '0')).reverse, ?_, ?_, ?_⟩
  · rw [fractionText, ← hpadded, pointed]
    cases hkept : (padded.dropWhile (· == '0')).reverse with
    | nil => rfl
    | cons c cs => simp
  · intro c hc
    have hmem : c ∈ padded := (List.dropWhile_sublist _).subset (List.mem_reverse.1 hc)
    rw [hfilled, List.mem_append, List.mem_reverse] at hmem
    rcases hmem with hmem | hmem
    · exact isDigit_of_mem_toDigits hmem
    · rw [(List.mem_replicate.1 hmem).2]
      rfl
  · -- read from the back, the zeros come first and do not count
    have hback : (padded.dropWhile (· == '0')).reverse ++
        List.replicate (places - (padded.dropWhile (· == '0')).reverse.length) '0' = padded.reverse := by
      conv => rhs; rw [← replicate_append_dropWhile padded]
      rw [List.reverse_append, List.reverse_replicate, List.length_reverse, hplacesEq]
    rw [hback, hfilled, List.reverse_append, List.reverse_replicate, List.reverse_reverse, digitsValue_zeros,
      digitsValue_toDigits]

/-! ## Durations -/

/-- The units of the measured form, with the places of what is left of a unit in nanoseconds. -/
def scales : List (String × Nat) := [("s", 9), ("ms", 6), ("µs", 3), ("ns", 0)]

/-- The three parts of the measured form. -/
theorem exists_scale (d : Duration) : ∃ scale ∈ scales, ∃ kept, (∀ c ∈ kept, c.isDigit = true) ∧
    d.measured.toList = Nat.toDigits 10 (d.nanos / 10 ^ scale.2) ++ (pointed kept ++ scale.1.toList) ∧
      digitsValue (kept ++ List.replicate (scale.2 - kept.length) '0') = d.nanos % 10 ^ scale.2 := by
  have hfraction (unit : String) (places : Nat) (hscale : (unit, places) ∈ scales) (hplaces : 0 < places)
      (htext : d.measured =
        toString (d.nanos / 10 ^ places) ++ fractionText (d.nanos % 10 ^ places) places ++ unit) :
      ∃ scale ∈ scales, ∃ kept, (∀ c ∈ kept, c.isDigit = true) ∧
        d.measured.toList = Nat.toDigits 10 (d.nanos / 10 ^ scale.2) ++ (pointed kept ++ scale.1.toList) ∧
          digitsValue (kept ++ List.replicate (scale.2 - kept.length) '0') = d.nanos % 10 ^ scale.2 := by
    obtain ⟨kept, hkept, hdigits, hvalue⟩ :=
      exists_kept hplaces (Nat.mod_lt d.nanos (Nat.pow_pos (by decide : 0 < 10)))
    refine ⟨(unit, places), hscale, kept, hdigits, ?_, hvalue⟩
    rw [htext, String.toList_append, String.toList_append, hkept, List.append_assoc, Text.toList_toString]
  by_cases hs : 1000000000 ≤ d.nanos
  · exact hfraction "s" 9 (by simp [scales]) (by decide) (if_pos hs)
  by_cases hms : 1000000 ≤ d.nanos
  · exact hfraction "ms" 6 (by simp [scales]) (by decide) ((if_neg hs).trans (if_pos hms))
  by_cases hus : 1000 ≤ d.nanos
  · exact hfraction "µs" 3 (by simp [scales]) (by decide)
      ((if_neg hs).trans ((if_neg hms).trans (if_pos hus)))
  · have htext : d.measured = toString d.nanos ++ "ns" :=
      (if_neg hs).trans ((if_neg hms).trans (if_neg hus))
    refine ⟨("ns", 0), by simp [scales], [], by simp, ?_, ?_⟩
    · rw [htext, String.toList_append, Nat.pow_zero, Nat.div_one, Text.toList_toString]
      rfl
    · rw [Nat.pow_zero, Nat.mod_one]
      rfl

/-- Where the digits in front end, no digit stands. -/
theorem head_behind_digits {scale : String × Nat} (hscale : scale ∈ scales) (kept : List Char) :
    ∀ x, (pointed kept ++ scale.1.toList).head? = some x → x.isDigit = false := by
  have hunits : ∀ s ∈ scales, s.1.toList.head?.all (fun x => !x.isDigit) = true := by decide
  intro x hx
  unfold pointed at hx
  split at hx
  · have hunit := hunits scale hscale
    rw [List.nil_append] at hx
    simpa [hx] using hunit
  · obtain rfl := Option.some.inj hx
    rfl

/-- A unit with digits in front of it or none can be told from any other. -/
theorem pointed_append_inj {scale scale' : String × Nat} (h : scale ∈ scales) (h' : scale' ∈ scales)
    {kept kept' : List Char} (hdigits : ∀ c ∈ kept, c.isDigit = true) (hdigits' : ∀ c ∈ kept', c.isDigit = true)
    (heq : pointed kept ++ scale.1.toList = pointed kept' ++ scale'.1.toList) :
    kept = kept' ∧ scale = scale' := by
  have hunits : ∀ s ∈ scales, ∀ s' ∈ scales, s.1.toList = s'.1.toList → s = s' := by decide
  have hpoint : ∀ s ∈ scales, s.1.toList.head? ≠ some '.' := by decide
  have hend : ∀ s ∈ scales, ∀ x, s.1.toList.head? = some x → x.isDigit = false := by
    intro s hs x hx
    exact head_behind_digits hs [] x hx
  by_cases hnone : kept = [] <;> by_cases hnone' : kept' = []
  · subst hnone hnone'
    exact ⟨rfl, hunits scale h scale' h' heq⟩
  · rw [pointed, pointed, if_pos hnone, if_neg hnone'] at heq
    exact absurd (congrArg List.head? heq) (hpoint scale h)
  · rw [pointed, pointed, if_neg hnone, if_pos hnone'] at heq
    exact absurd (congrArg List.head? heq).symm (hpoint scale' h')
  · rw [pointed, pointed, if_neg hnone, if_neg hnone', List.cons_append, List.cons_append] at heq
    have hbehind := (List.cons.inj heq).2
    obtain ⟨htake, hdrop⟩ := Text.while_run hdigits (hend scale h)
    obtain ⟨htake', hdrop'⟩ := Text.while_run hdigits' (hend scale' h')
    rw [← hbehind] at htake' hdrop'
    exact ⟨htake.symm.trans htake', hunits scale h scale' h' (hdrop.symm.trans hdrop')⟩

/-- **Durations of the same measured form are the same.** -/
theorem measured_injective : Function.Injective measured := by
  intro d d' h
  obtain ⟨scale, hscale, kept, hdigits, htext, hvalue⟩ := exists_scale d
  obtain ⟨scale', hscale', kept', hdigits', htext', hvalue'⟩ := exists_scale d'
  have heq := congrArg String.toList h
  rw [htext, htext'] at heq
  -- the whole units are the digits in front
  have hfront := Text.while_run (fun x hx => isDigit_of_mem_toDigits hx) (head_behind_digits hscale kept)
    (s := Nat.toDigits 10 (d.nanos / 10 ^ scale.2))
  have hfront' := Text.while_run (fun x hx => isDigit_of_mem_toDigits hx) (head_behind_digits hscale' kept')
    (s := Nat.toDigits 10 (d'.nanos / 10 ^ scale'.2))
  rw [← heq] at hfront'
  obtain ⟨rfl, rfl⟩ := pointed_append_inj hscale hscale' hdigits hdigits' (hfront.2.symm.trans hfront'.2)
  have hwhole : d.nanos / 10 ^ scale.2 = d'.nanos / 10 ^ scale.2 := by
    rw [← digitsValue_toDigits (d.nanos / 10 ^ scale.2), hfront.1.symm.trans hfront'.1, digitsValue_toDigits]
  have hnanos : d.nanos = d'.nanos := by
    rw [← Nat.div_add_mod d.nanos (10 ^ scale.2), ← Nat.div_add_mod d'.nanos (10 ^ scale.2), hwhole, ← hvalue,
      ← hvalue']
  cases d
  cases d'
  exact congrArg Duration.mk hnanos

end ScrapeFleet.Duration
