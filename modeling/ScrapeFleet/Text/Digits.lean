/-
# ScrapeFleet.Text.Digits — numbers written in digits, and the blanks around them

A run of digits writes a natural number in a radix. A decimal with an exponent is measured against the
range of a double without being rounded.

Text that people type is trimmed of every character with the blank property, not of ASCII blanks only.
-/
import ScrapeFleet.Text.RangeTable

namespace ScrapeFleet.Text

/-! ## Blanks -/

/-- A blank: tab to carriage return, the space, the next-line control, and the spaces and separators
above ASCII. -/
def isBlank (c : Char) : Bool :=
  let n := c.val
  (0x9 ≤ n && n ≤ 0xd) || n == 0x20 || n == 0x85 || n == 0xa0 || n == 0x1680
    || (0x2000 ≤ n && n ≤ 0x200a) || n == 0x2028 || n == 0x2029 || n == 0x202f || n == 0x205f
    || n == 0x3000

/-- Drops the blanks at the end. -/
def trimEnd (cs : List Char) : List Char := (cs.reverse.dropWhile isBlank).reverse

/-- Drops the blanks at both ends. -/
def trim (cs : List Char) : List Char := trimEnd (cs.dropWhile isBlank)

/-! ## Digits -/

/-- The value of a digit below the radix. -/
def digit? (radix : Nat) (c : Char) : Option Nat :=
  match hexValue? c with
  | some v => if v < radix then some v else none
  | none => none

/-- The number that a non-empty run of digits writes. -/
def digits? (radix : Nat) (cs : List Char) : Option Nat :=
  match cs with
  | [] => none
  | cs => (cs.mapM (digit? radix)).map fun vs => vs.foldl (fun n v => radix * n + v) 0

/-- The character with a hexadecimal number. -/
def charOfHex? (ds : List Char) : Option Char :=
  match digits? 16 ds with
  | some n => if n.isValidChar then some (Char.ofNat n) else none
  | none => none

/-- The decimal `m · 10^e` is below the first number that rounds to infinity. -/
def isFiniteDecimal (m : Nat) (e : Int) : Bool :=
  if m = 0 then true
  else
    let size : Int := (Nat.toDigits 10 m).length + e
    if size > 310 then false
    else if size < 300 then true
    else if 0 ≤ e then m * Nat.pow 10 e.toNat < Nat.pow 2 1024 - Nat.pow 2 970
    else m < (Nat.pow 2 1024 - Nat.pow 2 970) * Nat.pow 10 (-e).toNat

end ScrapeFleet.Text
