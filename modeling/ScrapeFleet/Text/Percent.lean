/-
# ScrapeFleet.Text.Percent — bytes behind percent signs

A byte that may not stand for itself is written as `%` and two hexadecimal digits. Reading turns every
such group back into its byte and leaves a percent sign without digits alone.

In the parts of an address, letters, digits and `*`, `-`, `.`, `_` stand for themselves, a space is written
`+`, and every other byte stands behind a percent sign. No separator of an address is left in the result.
-/
import ScrapeFleet.Text.RangeTable

namespace ScrapeFleet.Text

namespace Percent

/-- A hexadecimal digit. -/
def hexDigit (n : Nat) : Char := Char.ofNat (if n < 10 then 48 + n else 55 + n)

/-- A byte behind a percent sign. -/
def escapeByte (b : UInt8) : List Char := ['%', hexDigit (b.toNat / 16), hexDigit (b.toNat % 16)]

/-- The bytes of a character. -/
def bytes (c : Char) : List UInt8 := (String.singleton c).toUTF8.toList

/-- Characters with some of them escaped: those that `escaped` names, control characters, and all that
are not ASCII. -/
def encode (escaped : Char → Bool) (cs : List Char) : List Char :=
  cs.flatMap fun c =>
    if c.val < 0x20 || 0x7f ≤ c.val || escaped c then (bytes c).flatMap escapeByte else [c]

/-- The bytes that characters stand for. -/
def decode : List Char → List UInt8
  | [] => []
  | '%' :: a :: b :: rest =>
    match hexValue? a, hexValue? b with
    | some x, some y => (16 * x + y).toUInt8 :: decode rest
    | _, _ => 0x25 :: decode (a :: b :: rest)
  | c :: rest => bytes c ++ decode rest

end Percent

/-! ## Text in the parts of an address -/

namespace FormEncoded

/-- A byte that stands for itself. -/
def isPlain (b : UInt8) : Bool :=
  let c := Char.ofNat b.toNat
  b < 128 && (c.isAlphanum || c == '*' || c == '-' || c == '.' || c == '_')

/-- A byte as it is written. -/
def encodeByte (b : UInt8) : List Char :=
  if b = 32 then ['+']
  else if isPlain b then [Char.ofNat b.toNat]
  else Percent.escapeByte b

/-- Bytes as they are written. -/
def encodeBytes (bs : List UInt8) : List Char := bs.flatMap encodeByte

/-- A text as it is written. -/
def encode (s : String) : String := String.ofList (encodeBytes s.toUTF8.toList)

end FormEncoded

end ScrapeFleet.Text
