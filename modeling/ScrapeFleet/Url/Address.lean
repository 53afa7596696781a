/-
# ScrapeFleet.Url.Address — hosts that are numbers

A version 4 address has one to four numbers, of which the last fills all places that are left; numbers
may be octal or hexadecimal. A version 6 address has eight groups; one run of zero groups may be left
out, and the last two groups may be written as a version 4 address in decimal.
-/
import ScrapeFleet.Text.Digits

namespace ScrapeFleet.Url

open Text (hexValue? digits?)

/-- A text cut at every occurrence of a character. -/
def splitAt (sep : Char) : List Char → List (List Char)
  | [] => [[]]
  | c :: cs =>
    if c == sep then [] :: splitAt sep cs
    else
      match splitAt sep cs with
      | p :: ps => (c :: p) :: ps
      | [] => [[c]]

/-! ## Version 4 -/

/-- A number of a version 4 address: decimal, octal after `0`, hexadecimal after `0x`. -/
def ipv4Number? (cs : List Char) : Option Nat :=
  match cs with
  | '0' :: 'x' :: ds | '0' :: 'X' :: ds => if ds.isEmpty then some 0 else digits? 16 ds
  | '0' :: d :: ds => digits? 8 (d :: ds)
  | ds => digits? 10 ds

/-- The parts of a name between its dots, without an empty one at the end. -/
def dottedParts (cs : List Char) : List (List Char) :=
  let ps := splitAt '.' cs
  if ps.getLast? == some [] then ps.dropLast else ps

/-- The name ends in a number, so that it can only be an address. -/
def endsInNumber (cs : List Char) : Bool :=
  match (dottedParts cs).getLast? with
  | some p => (!p.isEmpty && p.all Char.isDigit) || (ipv4Number? p).isSome
  | none => false

/-- Reads a version 4 address. -/
def ipv4? (cs : List Char) : Option Nat := do
  let ns ← (dottedParts cs).mapM ipv4Number?
  let last ← ns.getLast?
  let front := ns.dropLast
  if 3 < front.length || front.any (255 < ·) || Nat.pow 256 (4 - front.length) ≤ last then none
  else some (front.foldr (fun n rest => n * Nat.pow 256 3 + rest / 256) 0 + last)

/-- A version 4 address as it is written. -/
def ipv4Text (n : Nat) : String :=
  ".".intercalate ([n / Nat.pow 256 3, n / Nat.pow 256 2 % 256, n / 256 % 256, n % 256].map toString)

/-! ## Version 6 -/

/-- A number from 0 to 255 in decimal, without zeros in front. -/
def decimalByte? (cs : List Char) : Option Nat :=
  match digits? 10 cs with
  | some n => if n ≤ 255 ∧ (cs.head? ≠ some '0' ∨ cs = ['0']) then some n else none
  | none => none

/-- The two groups that a version 4 address stands for. -/
def embedded? (cs : List Char) : Option (List Nat) :=
  match (splitAt '.' cs).mapM decimalByte? with
  | some [a, b, c, d] => some [256 * a + b, 256 * c + d]
  | _ => none

/-- The groups of a version 6 address, and where groups are left out. What is left out counts as one
group for now. -/
def ipv6Groups? (cs : List Char) (seen : List Nat) (gap : Option Nat) :
    Option (List Nat × Option Nat) :=
  match cs with
  | [] => some (seen, gap)
  | ':' :: rest =>
    if 8 ≤ seen.length || gap.isSome then none
    else ipv6Groups? rest (seen ++ [0]) (some (seen.length + 1))
  | c :: cs =>
    if 8 ≤ seen.length then none
    else
      let ds := ((c :: cs).take 4).takeWhile (fun d => (hexValue? d).isSome)
      match _h : (c :: cs).drop ds.length, digits? 16 ds with
      | [], some n => some (seen ++ [n], gap)
      | ':' :: after, some n => if after.isEmpty then none else ipv6Groups? after (seen ++ [n]) gap
      | '.' :: _, some _ =>
        if 6 < seen.length then none
        else (embedded? (c :: cs)).map fun groups => (seen ++ groups, gap)
      | _, _ => none
termination_by cs.length
decreasing_by
  · exact Nat.lt_succ_self _
  · have := congrArg List.length _h
    simp only [List.length_drop, List.length_cons] at this ⊢
    omega

/-- Reads a version 6 address. -/
def ipv6? (cs : List Char) : Option (List Nat) := do
  let (groups, gap) ← match cs with
    | [] | [_] => none
    | ':' :: ':' :: rest => ipv6Groups? rest [0] (some 1)
    | ':' :: _ => none
    | cs => ipv6Groups? cs [] none
  match gap with
  | some g => some (groups.take g ++ List.replicate (8 - groups.length) 0 ++ groups.drop g)
  | none => if groups.length = 8 then some groups else none

/-- A group in hexadecimal. -/
def groupText (n : Nat) : String := String.ofList (Nat.toDigits 16 n)

/-- The length of the run of zeros at the front. -/
def zeroRun (groups : List Nat) : Nat := (groups.takeWhile (· == 0)).length

/-- The first of the longest runs of at least two zeros: where it begins, and its length. -/
def longestZeroRun (groups : List Nat) : Option (Nat × Nat) :=
  (List.range groups.length).foldl (fun best i =>
    let n := zeroRun (groups.drop i)
    match best with
    | some (_, m) => if m < n then some (i, n) else best
    | none => if 1 < n then some (i, n) else none) none

/-- A version 6 address as it is written. -/
def ipv6Text (groups : List Nat) : String :=
  let shown (gs : List Nat) : String := ":".intercalate (gs.map groupText)
  match longestZeroRun groups with
  | some (i, n) => shown (groups.take i) ++ "::" ++ shown (groups.drop (i + n))
  | none => shown groups

end ScrapeFleet.Url
