/-
# ScrapeFleet.Toml.Number — numbers and times

Numbers and times are runs of letters, digits and a few signs, so such a run is taken whole and then
read as one or the other. Digits may be grouped with single underscores. Integers have 64 bits; a
number with a point is only checked, because no setting holds one.
-/
import ScrapeFleet.Document.Doc

namespace ScrapeFleet.Toml

open Text (digit? digits? isFiniteDecimal)

/-! ## Integers -/

/-- Digits without the underscores between them. -/
def ungrouped? (radix : Nat) : List Char → Option (List Char)
  | [] => none
  | [c] => if (digit? radix c).isSome then some [c] else none
  | c :: '_' :: rest => if (digit? radix c).isSome then (ungrouped? radix rest).map (c :: ·) else none
  | c :: rest => if (digit? radix c).isSome then (ungrouped? radix rest).map (c :: ·) else none

/-- The number that grouped digits write. -/
def grouped? (radix : Nat) (cs : List Char) : Option Nat := (ungrouped? radix cs).bind (digits? radix)

/-- A sign, and what follows it. -/
def splitSign : List Char → Bool × List Char
  | '-' :: rest => (true, rest)
  | '+' :: rest => (false, rest)
  | cs => (false, cs)

/-- A whole number in decimal; only zero starts with a zero. -/
def whole? (cs : List Char) : Option (List Char) :=
  if cs.head? == some '0' && cs != ['0'] then none else ungrouped? 10 cs

/-- An integer. -/
def integer? (cs : List Char) : Option Int :=
  let amount := match cs with
    | '0' :: 'x' :: ds => some (false, grouped? 16 ds)
    | '0' :: 'o' :: ds => some (false, grouped? 8 ds)
    | '0' :: 'b' :: ds => some (false, grouped? 2 ds)
    | cs =>
      let (negative, ds) := splitSign cs
      some (negative, (whole? ds).bind (digits? 10))
  match amount with
  | some (true, some n) => if n ≤ Nat.pow 2 63 then some (-(n : Int)) else none
  | some (false, some n) => if n < Nat.pow 2 63 then some (n : Int) else none
  | _ => none

/-! ## Numbers with a point -/

/-- A number with a point or an exponent, infinity, or not-a-number. One that is too large for a
double is refused, unless it is negative: that is infinity. -/
def isFloat (cs : List Char) : Bool :=
  let (negative, body) := splitSign cs
  if body == "inf".toList || body == "nan".toList then true
  else
    let isMark (c : Char) : Bool := c == 'e' || c == 'E'
    let mantissa := body.takeWhile (!isMark ·)
    let scale := body.dropWhile (!isMark ·)
    let whole := mantissa.takeWhile (· != '.')
    let part := mantissa.dropWhile (· != '.')
    let exponent : Option Int := match scale with
      | [] => if part.isEmpty then none else some 0
      | _ :: ds =>
        let (small, ds) := splitSign ds
        (grouped? 10 ds).map fun n => if small then -(n : Int) else n
    let decimals : Option (List Char) := match part with
      | [] => some []
      | _ :: ds => ungrouped? 10 ds
    match whole? whole, decimals, exponent with
    | some w, some p, some e =>
      negative || ((digits? 10 (w ++ p)).map (isFiniteDecimal · (e - p.length))).getD false
    | _, _, _ => false

/-! ## Times -/

/-- Two digits up to a limit. -/
def two? (lo hi : Nat) (a b : Char) : Option (List Char) :=
  match digits? 10 [a, b] with
  | some n => if lo ≤ n ∧ n ≤ hi then some [a, b] else none
  | none => none

/-- How many days a month has. -/
def daysIn (year month : Nat) : Nat :=
  if month = 2 then if year % 4 = 0 ∧ (year % 100 ≠ 0 ∨ year % 400 = 0) then 29 else 28
  else if [4, 6, 9, 11].contains month then 30
  else 31

/-- A date, and what follows it. -/
def date? : List Char → Option (List Char × List Char)
  | a :: b :: c :: d :: '-' :: e :: f :: '-' :: g :: h :: rest =>
    match digits? 10 [a, b, c, d], digits? 10 [e, f] with
    | some year, some month =>
      match two? 1 12 e f, two? 1 (daysIn year month) g h with
      | some m, some day => some ([a, b, c, d, '-'] ++ m ++ ['-'] ++ day, rest)
      | _, _ => none
    | _, _ => none
  | _ => none

/-- A fraction of a second to nine digits, without zeros at its end, and what follows it. -/
def fraction? : List Char → Option (List Char × List Char)
  | '.' :: rest =>
    let ds := rest.takeWhile Char.isDigit
    let kept := ((ds.take 9).reverse.dropWhile (· == '0')).reverse
    if ds.isEmpty then none
    else some (if kept.isEmpty then [] else '.' :: kept, rest.dropWhile Char.isDigit)
  | rest => some ([], rest)

/-- A time of day, and what follows it. -/
def time? : List Char → Option (List Char × List Char)
  | a :: b :: ':' :: c :: d :: ':' :: e :: f :: rest =>
    match two? 0 23 a b, two? 0 59 c d, two? 0 60 e f, fraction? rest with
    | some h, some m, some s, some (f, rest) => some (h ++ [':'] ++ m ++ [':'] ++ s ++ f, rest)
    | _, _, _, _ => none
  | _ => none

/-- A distance from world time. -/
def offset? : List Char → Option (List Char)
  | [] => some []
  | ['Z'] | ['z'] => some ['Z']
  | [sign, a, b, ':', c, d] =>
    match two? 0 23 a b, two? 0 59 c d with
    | some h, some m =>
      let zero := h ++ m == ['0', '0', '0', '0']
      if sign == '+' || sign == '-' then some ((if zero then '+' else sign) :: h ++ [':'] ++ m)
      else none
    | _, _ => none
  | _ => none

/-- A time with its distance from world time. -/
def zonedTime? (cs : List Char) : Option (List Char) :=
  (time? cs).bind fun (t, rest) => (offset? rest).map (t ++ ·)

/-- A date, a time of day, or both. -/
def moment? (cs : List Char) : Option (List Char) :=
  match date? cs with
  | some (d, []) => some d
  | some (d, sep :: rest) =>
    if sep == 'T' || sep == 't' || sep == ' ' then (zonedTime? rest).map fun t => d ++ 'T' :: t else none
  | none =>
    match time? cs with
    | some (t, []) => some t
    | _ => none

/-- A moment as a document: a record with a field of its own, so that it is never taken for text. -/
def momentDoc (cs : List Char) : Doc :=
  .ofFields [("$__toml_private_datetime", .text (String.ofList cs))]

/-! ## Either -/

/-- A character of a number or a time. -/
def isNumberChar (c : Char) : Bool :=
  c.isAlphanum || c == '+' || c == '-' || c == '.' || c == '_' || c == ':'

/-- A truth value, a number or a time, and what follows it. Between a date and a time of day there may
be a space. -/
def bare? (cs : List Char) : Option (Doc × List Char) :=
  let run := cs.takeWhile isNumberChar
  let rest := cs.dropWhile isNumberChar
  match rest, date? run with
  | ' ' :: after, some (_, []) =>
    let time := after.takeWhile isNumberChar
    if time.isEmpty then some (momentDoc run, rest)
    else (moment? (run ++ ' ' :: time)).map fun m => (momentDoc m, after.dropWhile isNumberChar)
  | rest, _ => (meaning? run).map fun d => (d, rest)
where
  /-- What a run of characters means. -/
  meaning? (run : List Char) : Option Doc :=
    if run == "true".toList then some (.bool true)
    else if run == "false".toList then some (.bool false)
    else
      match moment? run, integer? run with
      | some m, _ => some (momentDoc m)
      | none, some n => some (.int n)
      | none, none => if isFloat run then some .float else none

end ScrapeFleet.Toml
