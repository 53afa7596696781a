/-
# ScrapeFleet.Proofs.Text.Digits — the digits of a number write it

Numbers are written in several spellings of digits: decimals, and the hexadecimal capitals of an escape.
What they have in common is that each digit reads back as its value, and that is all that a fold over the
values needs (`mapM_toDigits`).
-/
import ScrapeFleet.Text.Digits

namespace ScrapeFleet.Text

/-- What was checked of all characters of a list holds of each. -/
theorem forall_of_all {cs : List Char} {q : Char → Prop} [DecidablePred q]
    (h : cs.all (fun x => decide (q x)) = true) : ∀ x ∈ cs, q x :=
  fun x hx => of_decide_eq_true (List.all_eq_true.1 h x hx)

/-- A run of characters that satisfy `p`, up to one that does not. -/
theorem while_run {p : Char → Bool} {s t : List Char} (hs : ∀ x ∈ s, p x = true)
    (ht : ∀ x, t.head? = some x → p x = false) :
    (s ++ t).takeWhile p = s ∧ (s ++ t).dropWhile p = t := by
  have hstop : t.takeWhile p = [] ∧ t.dropWhile p = t := by
    cases t with
    | nil => exact ⟨rfl, rfl⟩
    | cons x t =>
      have hx : p x = false := ht x rfl
      exact ⟨by simp [hx], by simp [hx]⟩
  rw [List.takeWhile_append_of_pos hs, List.dropWhile_append_of_pos hs, hstop.1, hstop.2]
  exact ⟨List.append_nil s, rfl⟩

/-- A number's digits have the number's value, whatever spelling of the digits is read. -/
theorem mapM_toDigits {b : Nat} (hb : 1 < b) {f : Char → Option Nat}
    (hvalue : ∀ d < b, f d.digitChar = some d) (n : Nat) :
    ∃ vs, (b.toDigits n).mapM f = some vs ∧ vs.foldl (fun n v => b * n + v) 0 = n := by
  induction n using Nat.strongRecOn with
  | ind n ih =>
    by_cases hn : n < b
    · refine ⟨[n], ?_, by simp⟩
      simp [Nat.toDigits_of_lt_base hn, hvalue n hn]
    · have hle : b ≤ n := Nat.le_of_not_lt hn
      have hlast : n % b < b := Nat.mod_lt _ (by omega)
      obtain ⟨vs, hvs, hfold⟩ := ih (n / b) (Nat.div_lt_self (by omega) hb)
      refine ⟨vs ++ [n % b], ?_, ?_⟩
      · simp [Nat.toDigits_of_base_le hb hle, List.mapM_append, hvs, hvalue _ hlast]
      · rw [List.foldl_append, hfold]
        exact Nat.div_add_mod n b

/-- What a number is written with are digits. -/
theorem exists_digit_of_mem_toDigits {b : Nat} (hb : 1 < b) {x : Char} (n : Nat)
    (hx : x ∈ b.toDigits n) : ∃ d < b, x = d.digitChar := by
  induction n using Nat.strongRecOn with
  | ind n ih =>
    by_cases hn : n < b
    · refine ⟨n, hn, ?_⟩
      simpa [Nat.toDigits_of_lt_base hn] using hx
    · rw [Nat.toDigits_of_base_le hb (Nat.le_of_not_lt hn)] at hx
      rcases List.mem_append.1 hx with hx | hx
      · exact ih (n / b) (Nat.div_lt_self (by omega) hb) hx
      · exact ⟨n % b, Nat.mod_lt _ (by omega), by simpa using hx⟩

/-- A number's digits have no zero in front. -/
theorem head_toDigits {n : Nat} (hn : 0 < n) : (Nat.toDigits 10 n).head? ≠ some '0' := by
  induction n using Nat.strongRecOn with
  | ind n ih =>
    by_cases hlt : n < 10
    · have hdigit : ∀ d < 10, 0 < d → (Nat.toDigits 10 d).head? ≠ some '0' := by decide
      exact hdigit n hlt hn
    · have hrest := ih (n / 10) (by omega) (by omega)
      obtain ⟨d, ds, hds⟩ := List.exists_cons_of_ne_nil (Nat.toDigits_ne_nil (b := 10) (n := n / 10))
      rw [Nat.toDigits_of_base_le (by decide) (by omega), hds]
      rwa [hds] at hrest

/-- Zeros in front of a number's digits do not count. -/
theorem mapM_zeros {b : Nat} {f : Char → Option Nat} (hzero : f '0' = some 0) {n : Nat}
    {ds : List Char} {vs : List Nat} (hvs : ds.mapM f = some vs)
    (hfold : vs.foldl (fun n v => b * n + v) 0 = n) (k : Nat) :
    ∃ us, (List.replicate k '0' ++ ds).mapM f = some us ∧
      us.foldl (fun n v => b * n + v) 0 = n := by
  induction k with
  | zero => exact ⟨vs, hvs, hfold⟩
  | succ k ih =>
    obtain ⟨us, hus, hfold'⟩ := ih
    refine ⟨0 :: us, ?_, ?_⟩
    · rw [List.replicate_succ, List.cons_append, List.mapM_cons, hus]
      simp [hzero]
    · simpa using hfold'

theorem digit?_digitChar {b d : Nat} (hb : b ≤ 16) (hd : d < b) : digit? b d.digitChar = some d := by
  have hex : ∀ d < 16, hexValue? (Nat.digitChar d) = some d := by decide
  rw [digit?, hex d (by omega)]
  simp [hd]

/-- The digits of a number write the number. -/
theorem digits?_toDigits {b : Nat} (hb : 1 < b) (hb' : b ≤ 16) (n : Nat) :
    digits? b (b.toDigits n) = some n := by
  obtain ⟨vs, hvs, hfold⟩ := mapM_toDigits hb (fun d hd => digit?_digitChar hb' hd) n
  have hne : b.toDigits n ≠ [] := Nat.toDigits_ne_nil
  obtain ⟨x, xs, hx⟩ := List.exists_cons_of_ne_nil hne
  rw [hx] at hvs ⊢
  rw [digits?, hvs, Option.map_some, hfold]
  simp

theorem toList_toString (n : Nat) : (toString n).toList = Nat.toDigits 10 n := String.toList_ofList

/-- Numbers that are written alike are the same. -/
theorem toString_inj {m n : Nat} : toString m = toString n ↔ m = n := by
  refine ⟨fun h => ?_, congrArg toString⟩
  have hdigits : Nat.toDigits 10 m = Nat.toDigits 10 n := by rw [← toList_toString, h, toList_toString]
  calc
    m = Nat.ofDigitChars 10 (Nat.toDigits 10 m) 0 := Nat.ofDigitChars_ten_toDigits.symm
    _ = Nat.ofDigitChars 10 (Nat.toDigits 10 n) 0 := by rw [hdigits]
    _ = n := Nat.ofDigitChars_ten_toDigits

/-- An integer is written with the digits of its size, and maybe a minus sign in front. -/
theorem exists_sign_natAbs (n : Int) : ∃ sign, (toString n).toList = sign ++ Nat.toDigits 10 n.natAbs ∧
    (sign = [] ∨ sign = ['-']) := by
  cases n with
  | ofNat m => exact ⟨[], String.toList_ofList, .inl rfl⟩
  | negSucc m =>
    have hwritten : (toString (Int.negSucc m)).toList = ['-'] ++ Nat.toDigits 10 (m + 1) := by
      show ("-" ++ String.ofList (Nat.toDigits 10 (m + 1))).toList = _
      simp
    exact ⟨['-'], hwritten, .inr rfl⟩

/-- An integer is written with digits, and maybe a minus sign in front. -/
theorem exists_sign (n : Int) : ∃ sign m, (toString n).toList = sign ++ Nat.toDigits 10 m ∧
    (sign = [] ∨ sign = ['-']) := by
  obtain ⟨sign, hwritten, hsign⟩ := exists_sign_natAbs n
  exact ⟨sign, n.natAbs, hwritten, hsign⟩

end ScrapeFleet.Text
