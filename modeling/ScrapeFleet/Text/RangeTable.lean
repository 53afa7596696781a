/-
# ScrapeFleet.Text.RangeTable — sets of characters as sorted ranges

A property of characters is kept as the ascending list of its ranges and looked up by bisection. A
table is written as text, one range a word, in hexadecimal: `41-5a 5f` holds the capital letters and
the underscore.
-/

namespace ScrapeFleet.Text

/-- The value of a hexadecimal digit. -/
def hexValue? (c : Char) : Option Nat :=
  if '0' ≤ c ∧ c ≤ '9' then some (c.toNat - 48)
  else if 'a' ≤ c ∧ c ≤ 'f' then some (c.toNat - 87)
  else if 'A' ≤ c ∧ c ≤ 'F' then some (c.toNat - 55)
  else none

/-- The words of a text, with blanks and line ends between them. -/
def words (text : String) : List String :=
  let close (done : List String) (word : List Char) : List String :=
    if word.isEmpty then done else String.ofList word.reverse :: done
  let (done, word) := text.foldl (fun (done, word) c =>
    if c == ' ' || c == '\n' then (close done word, []) else (done, c :: word)) ([], [])
  (close done word).reverse

/-- Ascending ranges of code points, both ends included. -/
structure RangeTable where
  ranges : Array (UInt32 × UInt32)

namespace RangeTable

/-- The number that a run of hexadecimal digits writes. -/
def hexNumber (cs : List Char) : UInt32 :=
  cs.foldl (fun n c => 16 * n + ((hexValue? c).getD 0).toUInt32) 0

/-- The range that a word writes down: its two ends with a dash between them, or its only member. -/
private def wordRange (word : List Char) : UInt32 × UInt32 :=
  let low := hexNumber (word.takeWhile (· != '-'))
  match word.dropWhile (· != '-') with
  | _ :: high => (low, hexNumber high)
  | [] => (low, low)

/-- The table that a text of hexadecimal ranges writes down. -/
def parse (text : String) : RangeTable := ⟨((words text).map fun w => wordRange w.toList).toArray⟩

/-- Bisection between the positions `lo` and `hi`. -/
def search (ranges : Array (UInt32 × UInt32)) (c : UInt32) (lo hi : Nat) : Bool :=
  if lo < hi then
    let mid := (lo + hi) / 2
    match ranges[mid]? with
    | none => false
    | some (first, last) =>
      if c < first then search ranges c lo mid
      else if last < c then search ranges c (mid + 1) hi
      else true
  else false
termination_by hi - lo

/-- Membership. -/
def contains (t : RangeTable) (c : Char) : Bool := search t.ranges c.val 0 t.ranges.size

end RangeTable

end ScrapeFleet.Text
