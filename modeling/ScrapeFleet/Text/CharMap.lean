/-
# ScrapeFleet.Text.CharMap — what characters stand for

A table from characters to short lists of characters, kept as ascending runs and looked up by bisection.
It is written as text, one run a word, in hexadecimal: `41-5a>61` maps each letter of the run to one that
moves along with it, `100/12e>101` does so for every second character, and `132*133>69.6a` maps all of
them to the same two characters.
-/
import ScrapeFleet.Text.RangeTable

namespace ScrapeFleet.Text

/-- A run of characters, and what they stand for. -/
structure CharRun where
  first : UInt32
  last : UInt32
  step : UInt32 := 1
  target : List UInt32
  /-- The target belongs to the first character, and that of the others moves along. -/
  moving : Bool := false
deriving Repr, Inhabited

/-- A table from characters to lists of characters. -/
structure CharMap where
  runs : Array CharRun

namespace CharMap

/-- The numbers that a word lists between points. -/
def numbers (word : List Char) : List UInt32 :=
  word.foldr (fun c ns =>
    match c, ns with
    | '.', ns => [] :: ns
    | c, n :: ns => (c :: n) :: ns
    | c, [] => [[c]]) [[]] |>.map RangeTable.hexNumber

/-- The run that a word writes down. -/
def wordRun (word : List Char) : CharRun :=
  let left := word.takeWhile (· != '>')
  let target := numbers (word.dropWhile (· != '>')).tail
  let isMark (c : Char) : Bool := c == '-' || c == '/' || c == '*'
  let first := RangeTable.hexNumber (left.takeWhile (!isMark ·))
  match left.dropWhile (!isMark ·) with
  | mark :: last =>
    { first := first, last := RangeTable.hexNumber last, step := if mark == '/' then 2 else 1
      target := target, moving := mark != '*' }
  | [] => { first := first, last := first, target := target }

/-- The table that a text writes down. -/
def parse (text : String) : CharMap := ⟨((words text).map fun w => wordRun w.toList).toArray⟩

/-- The run that a character is in, between the positions `lo` and `hi`. -/
def search (runs : Array CharRun) (c : UInt32) (lo hi : Nat) : Option CharRun :=
  if lo < hi then
    let mid := (lo + hi) / 2
    match runs[mid]? with
    | none => none
    | some r =>
      if c < r.first then search runs c lo mid
      else if r.last < c then search runs c (mid + 1) hi
      else some r
  else none
termination_by hi - lo

/-- What a character stands for, if it is in the table. -/
def get? (m : CharMap) (c : Char) : Option (List Char) :=
  match search m.runs c.val 0 m.runs.size with
  | none => none
  | some r =>
    let offset := c.val - r.first
    if offset % r.step != 0 then none
    else
      some (r.target.map fun t => Char.ofNat (if r.moving then t + offset else t).toNat)

end CharMap

end ScrapeFleet.Text
