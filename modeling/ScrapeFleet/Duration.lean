/-
# ScrapeFleet.Duration — spans of time and their text

A duration is written as a run of items, each a number and a unit: `30s`, `1m30s`, `500ms`. Reading
sums the items exactly and refuses a total of 2^64 milliseconds or more; `0` alone needs no unit.
Writing splits the whole milliseconds greedily, the largest unit first.
-/
import ScrapeFleet.Text.Digits
import ScrapeFleet.Text.Quoted

namespace ScrapeFleet

/-- A span of time, in nanoseconds. -/
structure Duration where
  nanos : Nat
deriving DecidableEq, Repr, Inhabited

namespace Duration

/-- Whole milliseconds. -/
def ofMillis (ms : Nat) : Duration := ⟨ms * 1000000⟩

/-- Whole seconds. -/
def ofSeconds (s : Nat) : Duration := ⟨s * 1000000000⟩

/-- The whole milliseconds in a duration. -/
def millis (d : Duration) : Nat := d.nanos / 1000000

instance : LT Duration := ⟨fun a b => a.nanos < b.nanos⟩
instance : LE Duration := ⟨fun a b => a.nanos ≤ b.nanos⟩
instance (a b : Duration) : Decidable (a < b) := inferInstanceAs (Decidable (a.nanos < b.nanos))
instance (a b : Duration) : Decidable (a ≤ b) := inferInstanceAs (Decidable (a.nanos ≤ b.nanos))

/-- The longer of two durations. -/
def max (a b : Duration) : Duration := if a.nanos < b.nanos then b else a

/-- The units and their lengths in milliseconds, the largest first. A year has 365 days. -/
def units : List (String × Nat) :=
  [("y", 31536000000), ("w", 604800000), ("d", 86400000), ("h", 3600000), ("m", 60000),
    ("s", 1000), ("ms", 1)]

/-- Totals are read into 64 bits. -/
def limit : Nat := Nat.pow 2 64

/-- Why a text is no duration. -/
inductive Error where
  | malformed (text : String)
deriving DecidableEq, Repr

/-- The wording of an error. -/
def Error.message : Error → String
  | .malformed text => "invalid duration " ++ Text.quoted text

/-! ## Reading -/

/-- The value of a run of decimal digits. -/
def digitsValue (ds : List Char) : Nat := ds.foldl (fun n c => 10 * n + (c.toNat - 48)) 0

/-- The length of the unit that a text names. -/
def unitMillis? (unit : List Char) : Option Nat := units.lookup (String.ofList unit)

/-- The exact total in milliseconds of a run of items, a number and a unit each. -/
def itemsTotal? (cs : List Char) : Option Nat :=
  match cs with
  | [] => some 0
  | c :: rest =>
    if c.isDigit then
      let number := c :: rest.takeWhile Char.isDigit
      let afterNumber := rest.dropWhile Char.isDigit
      let unit := afterNumber.takeWhile (!·.isDigit)
      match unitMillis? unit, itemsTotal? (afterNumber.dropWhile (!·.isDigit)) with
      | some factor, some total => some (digitsValue number * factor + total)
      | _, _ => none
    else none
termination_by cs.length
decreasing_by
  have h1 : (rest.dropWhile Char.isDigit).length ≤ rest.length :=
    (List.dropWhile_suffix _).length_le
  have h2 : ((rest.dropWhile Char.isDigit).dropWhile (!·.isDigit)).length
      ≤ (rest.dropWhile Char.isDigit).length := (List.dropWhile_suffix _).length_le
  simp only [List.length_cons]
  exact Nat.lt_succ_of_le (Nat.le_trans h2 h1)

/-- Reads a duration; blanks around it do not count. -/
def parse (s : String) : Except Error Duration :=
  let cs := Text.trim s.toList
  if cs = ['0'] then .ok ⟨0⟩
  else if cs = [] then .error (.malformed "")
  else
    match itemsTotal? cs with
    | some ms => if ms < limit then .ok (ofMillis ms) else .error (.malformed (String.ofList cs))
    | none => .error (.malformed (String.ofList cs))

/-! ## Writing -/

/-- The items of a number of milliseconds, each unit taken as often as it fits. -/
def items : List (String × Nat) → Nat → List (Nat × String)
  | [], _ => []
  | (name, length) :: rest, ms =>
    if length ≤ ms then (ms / length, name) :: items rest (ms % length) else items rest ms

/-- The text of a duration: its whole milliseconds, counted in 64 bits. -/
def text (d : Duration) : String :=
  let ms := d.millis % limit
  if ms = 0 then "0s"
  else String.join ((items units ms).map fun (n, name) => toString n ++ name)

/-- A decimal fraction of `places` digits without the zeros at its end. -/
def fractionText (part places : Nat) : String :=
  let digits := (Nat.toDigits 10 part).reverse ++ List.replicate places '0'
  let kept := ((digits.take places).dropWhile (· == '0')).reverse
  if kept.isEmpty then "" else "." ++ String.ofList kept

/-- The measured form, for messages: one unit from `ns` to `s`, and a fraction. -/
def measured (d : Duration) : String :=
  let n := d.nanos
  if 1000000000 ≤ n then toString (n / 1000000000) ++ fractionText (n % 1000000000) 9 ++ "s"
  else if 1000000 ≤ n then toString (n / 1000000) ++ fractionText (n % 1000000) 6 ++ "ms"
  else if 1000 ≤ n then toString (n / 1000) ++ fractionText (n % 1000) 3 ++ "µs"
  else toString n ++ "ns"

end Duration

end ScrapeFleet
