/-
# ScrapeFleet.Yaml.Scalar — what an unquoted scalar means

An unquoted scalar is read as null, a truth value, an integer, a number or text, by its shape alone.
The writer asks the same question the other way round: a text that would be read as something else is
quoted. Integers have 64 bits; shapes of up to 128 bits are still integers, though no field can hold
them.
-/
import ScrapeFleet.Text.Digits

namespace ScrapeFleet.Yaml

open Text (digits? isFiniteDecimal)

/-- The spellings of null. -/
def isNull (s : String) : Bool := s == "null" || s == "Null" || s == "NULL" || s == "~"

/-- The spellings of the truth values. -/
def bool? (s : String) : Option Bool :=
  if s == "true" || s == "True" || s == "TRUE" then some true
  else if s == "false" || s == "False" || s == "FALSE" then some false
  else none

/-! ## Integers -/

/-- Digits with a zero in front that is not the whole number. They are text. -/
def isZeroLed (cs : List Char) : Bool :=
  let body := match cs with
    | '-' :: r => r
    | '+' :: r => r
    | r => r
  match body with
  | '0' :: d :: r => (d :: r).all Char.isDigit
  | _ => false

/-- Digits of a number with a radix mark in front: `0x`, `0o` or `0b`. -/
def marked? (cs : List Char) : Option Nat :=
  match cs with
  | '0' :: 'x' :: r => digits? 16 r
  | '0' :: 'o' :: r => digits? 8 r
  | '0' :: 'b' :: r => digits? 2 r
  | _ => none

/-- A number without a minus sign. -/
def unsigned? (cs : List Char) : Option Nat :=
  let body := match cs with
    | '+' :: r => r
    | r => r
  match marked? body with
  | some n => some n
  | none => if isZeroLed cs then none else digits? 10 body

/-- The amount of a number with a minus sign. -/
def negative? (cs : List Char) : Option Nat :=
  match cs with
  | '-' :: body =>
    match marked? body with
    | some n => some n
    | none => if isZeroLed cs then none else digits? 10 body
  | _ => none

/-- An integer of the given width, unsigned or with a sign. -/
def integer? (bits : Nat) (cs : List Char) : Option Int :=
  match unsigned? cs with
  | some n => if n < Nat.pow 2 bits then some n else none
  | none =>
    match negative? cs with
    | some n => if n ≤ Nat.pow 2 (bits - 1) then some (-(n : Int)) else none
    | none => none

/-! ## Numbers with a point -/

/-- The exponent at the end of a decimal; none is zero. -/
def exponent? (cs : List Char) : Option Int :=
  match cs with
  | [] => some 0
  | c :: r =>
    if c == 'e' || c == 'E' then
      match r with
      | '-' :: d => (digits? 10 d).map fun n => -(n : Int)
      | '+' :: d => (digits? 10 d).map fun n => (n : Int)
      | d => (digits? 10 d).map fun n => (n : Int)
    else none

/-- A decimal without a sign that a double can hold: digits with at most one point, at least one
digit, and an exponent. -/
def isDecimal (cs : List Char) : Bool :=
  let whole := cs.takeWhile Char.isDigit
  let rest := cs.dropWhile Char.isDigit
  let (part, rest) := match rest with
    | '.' :: r => (r.takeWhile Char.isDigit, r.dropWhile Char.isDigit)
    | r => ([], r)
  match digits? 10 (whole ++ part), exponent? rest with
  | some m, some e => isFiniteDecimal m (e - part.length)
  | _, _ => false

/-- A number that is no integer: a decimal, infinity or not-a-number. -/
def isFloat (s : String) : Bool :=
  let cs := s.toList
  let unplus := match cs with
    | '+' :: r => r
    | r => r
  let body := match unplus with
    | '-' :: r => if cs.head? == some '+' then '-' :: r else r
    | r => r
  let u := String.ofList unplus
  u == ".inf" || u == ".Inf" || u == ".INF" || s == "-.inf" || s == "-.Inf" || s == "-.INF"
    || s == ".nan" || s == ".NaN" || s == ".NAN" || isDecimal body

/-! ## The meaning of an unquoted scalar -/

/-- What an unquoted scalar is read as. -/
inductive Meaning where
  | null
  | bool (b : Bool)
  | int (n : Int)
  /-- An integer of more than 64 bits. -/
  | wide
  | float
  | text
deriving DecidableEq, Repr

/-- Reads an unquoted scalar. -/
def meaning (s : String) : Meaning :=
  if s.isEmpty || isNull s then .null
  else
    match bool? s with
    | some b => .bool b
    | none =>
      match integer? 64 s.toList with
      | some n => .int n
      | none =>
        if (integer? 128 s.toList).isSome then .wide
        else if isZeroLed s.toList then .text
        else if isFloat s then .float
        else .text

end ScrapeFleet.Yaml
