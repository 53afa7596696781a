/-
# ScrapeFleet.Yaml.Writer — values as YAML

Records and lists are written in block style, two spaces a level; a list stands under its key without
further indentation. A key that is long or has several lines is marked with `?` and its value with
`:`, each on a line of its own.

The layout does not look at how a text is written: it is given the writer of scalars, which is told by
how much further lines are indented.
-/
import ScrapeFleet.Document.Value
import ScrapeFleet.Yaml.Style

namespace ScrapeFleet.Yaml

/-- The longest key, in bytes, that stands on one line with its value. -/
def shortKeyLimit : Nat := 128

/-- A key that stands on one line with its value. -/
def isShortKey (k : String) : Bool := k.utf8ByteSize ≤ shortKeyLimit && !k.toList.any isBreak

/-- Ends the line, if no break has ended it yet. -/
def endLine (s : String) : String :=
  match s.toList.getLast? with
  | some c => if isBreak c then s else s ++ "\n"
  | none => s ++ "\n"

section

variable (scalar : Nat → String → String)

/-- The key of an entry up to its colon. -/
def keyText (indent : Nat) (k : String) : String :=
  if isShortKey k then scalar (indent + 2) k
  else "? " ++ endLine (scalar (indent + 2) k) ++ spaces indent

mutual

/-- A value that starts on the present line; its further lines are indented as told. -/
def inline (indent : Nat) : Value → String
  | .bool b => if b then "true\n" else "false\n"
  | .int n => toString n ++ "\n"
  | .text s => endLine (scalar indent s)
  | .list [] => "[]\n"
  | .list (v :: vs) => "- " ++ inline (indent + 2) v ++ items indent vs
  | .record [] => "\x7b\x7d\n"
  | .record ((k, v) :: fs) =>
    keyText scalar indent k ++ ":" ++ valueText indent (isShortKey k) v ++ fields indent fs

/-- A value behind the colon of its key. Under a short key a list is not indented and a record is. -/
def valueText (indent : Nat) (shortKey : Bool) : Value → String
  | .bool b => if b then " true\n" else " false\n"
  | .int n => " " ++ toString n ++ "\n"
  | .text s => " " ++ endLine (scalar (indent + 2) s)
  | .list [] => " []\n"
  | .record [] => " \x7b\x7d\n"
  | .list (v :: vs) =>
    if shortKey then "\n" ++ items indent (v :: vs)
    else " - " ++ inline (indent + 4) v ++ items (indent + 2) vs
  | .record ((k, v) :: fs) =>
    if shortKey then "\n" ++ fields (indent + 2) ((k, v) :: fs)
    else
      " " ++ keyText scalar (indent + 2) k ++ ":" ++ valueText (indent + 2) (isShortKey k) v
        ++ fields (indent + 2) fs

/-- The items of a list, each on lines of its own. -/
def items (indent : Nat) : List Value → String
  | [] => ""
  | v :: vs => spaces indent ++ "- " ++ inline (indent + 2) v ++ items indent vs

/-- The entries of a record, each on lines of its own. -/
def fields (indent : Nat) : List (String × Value) → String
  | [] => ""
  | (k, v) :: fs =>
    spaces indent ++ keyText scalar indent k ++ ":" ++ valueText indent (isShortKey k) v
      ++ fields indent fs

end

end

/-- A document. -/
def render (v : Value) : String := inline scalarText 0 v

end ScrapeFleet.Yaml
