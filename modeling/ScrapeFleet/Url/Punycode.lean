/-
# ScrapeFleet.Url.Punycode — labels in ASCII

A label of a domain name is written with ASCII characters by the characters it has of them and, behind a
dash, the places of all others: numbers of variable length, the characters in ascending order. How many
digits a number takes follows a bias that adapts to the numbers before it. Writing the digits of a number
ends because the quotient falls, reading a label because its rest gets shorter.
-/
import ScrapeFleet.Text.Digits

namespace ScrapeFleet.Url.Punycode

/-! ## Digits -/

/-- The digit of a value below 36: letters first. -/
def digitChar (d : Nat) : Char := if d < 26 then Char.ofNat (97 + d) else Char.ofNat (22 + d)

/-- The value of a digit. -/
def digitValue? (c : Char) : Option Nat :=
  if 'a' ≤ c ∧ c ≤ 'z' then some (c.toNat - 97)
  else if 'A' ≤ c ∧ c ≤ 'Z' then some (c.toNat - 65)
  else if '0' ≤ c ∧ c ≤ '9' then some (c.toNat - 22)
  else none

/-- A digit below the threshold of its position ends a number. -/
def threshold (position bias : Nat) : Nat :=
  if position ≤ bias then 1 else if bias + 26 ≤ position then 26 else position - bias

theorem threshold_pos (position bias : Nat) : 1 ≤ threshold position bias := by
  unfold threshold; split
  · omega
  · split <;> omega

/-- Divides until the rest is small, and counts the positions that this takes. -/
def scale (delta position : Nat) : Nat × Nat :=
  if 455 < delta then scale (delta / 35) (position + 36) else (delta, position)
termination_by delta
decreasing_by omega

/-- The bias after a number, when `count` characters are in place. -/
def adapt (delta count : Nat) (first : Bool) : Nat :=
  let delta := if first then delta / 700 else delta / 2
  let (delta, position) := scale (delta + delta / count) 0
  position + 36 * delta / (delta + 38)

/-! ## Writing -/

/-- The digits of a number from a position on, the least first. -/
def digits (bias position n : Nat) : List Char :=
  let t := threshold position bias
  if n < t then [digitChar n]
  else digitChar (t + (n - t) % (36 - t)) :: digits bias (position + 36) ((n - t) / (36 - t))
termination_by n
decreasing_by
  have := threshold_pos position bias
  exact Nat.lt_of_le_of_lt (Nat.div_le_self ..) (by omega)

/-- A label that is being written: what stands there, the distance from the last character that was
placed, the bias, and how many characters have been placed. -/
structure Writing where
  out : List Char := []
  delta : Nat := 0
  bias : Nat := 72
  placed : Nat

namespace Writing

/-- Passes by one character of the label when the characters `m` are being placed; `plain` is the number
of its ASCII characters. -/
def pass (plain : Nat) (m : Char) (w : Writing) (c : Char) : Writing :=
  if c < m then { w with delta := w.delta + 1 }
  else if c = m then {
    out := w.out ++ digits w.bias 36 w.delta
    delta := 0
    bias := adapt w.delta (w.placed + 1) (w.placed == plain)
    placed := w.placed + 1 }
  else w

end Writing

/-- The characters of a label that are not ASCII, in ascending order and each once. -/
def extended (label : List Char) : List Char :=
  ((label.filter (128 ≤ ·.toNat)).mergeSort (· ≤ ·)).eraseDups

/-- Writes a label. -/
def encode (label : List Char) : List Char :=
  let plain := label.filter (·.toNat < 128)
  let (w, _) := (extended label).foldl
    (fun (w, next) m =>
      let w := { w with delta := w.delta + (m.toNat - next) * (w.placed + 1) }
      let w := label.foldl (Writing.pass plain.length m) w
      ({ w with delta := w.delta + 1 }, m.toNat + 1))
    (({ placed := plain.length } : Writing), 128)
  plain ++ (if plain.isEmpty then [] else ['-']) ++ w.out

/-! ## Reading -/

/-- Reads a number whose digits weigh `weight` from here on, on top of `n`. Numbers have 32 bits. -/
def number? (bias : Nat) : List Char → (position weight n : Nat) → Option (Nat × List Char)
  | [], _, _, _ => none
  | c :: cs, position, weight, n => do
    let d ← digitValue? c
    let n := n + d * weight
    let t := threshold position bias
    if Nat.pow 2 32 ≤ n then none
    else if d < t then some (n, cs)
    else if Nat.pow 2 32 ≤ weight * (36 - t) then none
    else number? bias cs (position + 36) (weight * (36 - t)) n

theorem number?_length {bias : Nat} {cs : List Char} {position weight n : Nat} {r : Nat × List Char}
    (h : number? bias cs position weight n = some r) : r.2.length < cs.length := by
  fun_induction number? bias cs position weight n <;> simp_all [Option.bind_eq_some_iff]
  · grind

/-- Puts the characters in place whose numbers follow. -/
def place (bias next start : Nat) (out : List Char) (cs : List Char) : Option (List Char) :=
  if cs.isEmpty then some out
  else
    match _h : number? bias cs 36 1 start with
    | none => none
    | some (n, rest) =>
      let count := out.length + 1
      let next := next + n / count
      if next.isValidChar then
        place (adapt (n - start) count (start == 0)) next (n % count + 1)
          (out.insertIdx (n % count) (Char.ofNat next)) rest
      else none
termination_by cs.length
decreasing_by exact number?_length _h

/-- Reads a label: before the last dash stand its ASCII characters. -/
def decode? (cs : List Char) : Option (List Char) :=
  let tail := (cs.reverse.takeWhile (· != '-')).reverse
  let head := cs.take (cs.length - tail.length - 1)
  place 72 128 0 head tail

end ScrapeFleet.Url.Punycode
