/-
# ScrapeFleet.Regex.Pattern — patterns as trees

The tree of a regular expression. Options such as letter case are settled while reading and stand on
the leaves they concern, so a tree means the same wherever it is placed.
-/

namespace ScrapeFleet.Regex

/-- The options that a pattern can switch inside itself. -/
structure Options where
  caseless : Bool := false
  multiLine : Bool := false
  dotAll : Bool := false
  swapGreed : Bool := false
  /-- Off, the pattern speaks of bytes and may not leave ASCII. -/
  unicode : Bool := true
  crlf : Bool := false
  /-- Blanks and `#` comments do not count. -/
  verbose : Bool := false
deriving DecidableEq, Repr, Inhabited

/-- A condition on a place between characters. -/
inductive Look where
  | lineStart | lineEnd | textStart | textEnd
  | wordBoundary | notWordBoundary
  | wordStart | wordEnd | wordStartHalf | wordEndHalf
deriving DecidableEq, Repr

/-- How two sets are combined. -/
inductive SetOp where
  | intersection | difference | symmetricDifference
deriving DecidableEq, Repr

/-- A set of characters. -/
inductive CharSet where
  | char (c : Char)
  | range (first last : Char)
  | digit | space | word
  /-- A class of ASCII characters such as `alnum`. -/
  | ascii (name : String)
  /-- The characters that have a named property. -/
  | property (text : String)
  | complement (s : CharSet)
  | union (ss : List CharSet)
  /-- A set in brackets. -/
  | bracket (s : CharSet)
  | combine (op : SetOp) (left right : CharSet)
deriving Repr, Inhabited

/-- A regular expression. -/
inductive Pattern where
  | empty
  /-- A change of options, which matches the empty text. -/
  | setting
  | char (c : Char) (caseless : Bool)
  | set (s : CharSet) (caseless : Bool)
  /-- Any character, or any but the end of a line. -/
  | dot (all : Bool)
  | look (l : Look) (multiLine : Bool)
  | rep (p : Pattern) (least : Nat) (most : Option Nat)
  /-- Parentheses; `captures` if the part they match can be referred to. -/
  | group (captures : Bool) (p : Pattern)
  | concat (ps : List Pattern)
  | alt (ps : List Pattern)
deriving Repr, Inhabited

namespace CharSet

/-- How deep brackets and unions nest. -/
def depth : CharSet → Nat
  | .complement s => s.depth
  | .union ss => 1 + depths ss
  | .bracket s => 1 + s.depth
  | .combine _ l r => 1 + Nat.max l.depth r.depth
  | _ => 0
where
  /-- The largest depth in a list. -/
  depths : List CharSet → Nat
    | [] => 0
    | s :: ss => Nat.max s.depth (depths ss)

end CharSet

namespace Pattern

/-- Several parts in a row; a part alone stands for itself. -/
def ofItems : List Pattern → Pattern
  | [] => .empty
  | [p] => p
  | ps => .concat ps

/-- Several alternatives; one alone stands for itself. -/
def ofBranches : List Pattern → Pattern
  | [] => .empty
  | [p] => p
  | ps => .alt ps

/-- How deep a pattern nests. -/
def depth : Pattern → Nat
  | .rep p _ _ => 1 + p.depth
  | .group _ p => 1 + p.depth
  | .concat ps => 1 + depths ps
  | .alt ps => 1 + depths ps
  | .set s _ => s.depth
  | _ => 0
where
  /-- The largest depth in a list. -/
  depths : List Pattern → Nat
    | [] => 0
    | p :: ps => Nat.max p.depth (depths ps)

end Pattern

end ScrapeFleet.Regex
