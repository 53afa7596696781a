/-
# ScrapeFleet.Yaml.Token — the characters and the tokens of YAML

The classes of characters decide where a scalar ends, how lines break and what may be written as it is.

Tokens are what a stream consists of once indentation, line folding and escapes are dealt with. Blocks have
explicit starts and ends; a key is marked before it, although the text only shows its colon after it.
-/

namespace ScrapeFleet.Yaml

/-! ## Characters -/

/-- A line break: carriage return, line feed, next line, and the separators of lines and paragraphs. -/
def isBreak (c : Char) : Bool :=
  c == '\r' || c == '\n' || c == '\u0085' || c == '\u2028' || c == '\u2029'

/-- A space or a tab. -/
def isBlank (c : Char) : Bool := c == ' ' || c == '\t'

/-- A blank, a break, or the end of the text. -/
def isBlankOrEnd : Option Char → Bool
  | none => true
  | some c => isBlank c || isBreak c || c == '\x00'

/-- A break or the end of the text. -/
def isBreakOrEnd : Option Char → Bool
  | none => true
  | some c => isBreak c || c == '\x00'

/-- A character that a reader accepts. -/
def isAllowed (c : Char) : Bool :=
  let n := c.val
  n == 0x9 || n == 0xa || n == 0xd || (0x20 ≤ n && n ≤ 0x7e) || n == 0x85
    || (0xa0 ≤ n && n ≤ 0xd7ff) || (0xe000 ≤ n && n ≤ 0xfffd) || 0x10000 ≤ n

/-- A character that a writer writes as it is: an accepted one that is no tab, no other control and no
byte order mark. -/
def isPrintable (c : Char) : Bool :=
  let n := c.val
  n == 0xa || (0x20 ≤ n && n ≤ 0x7e) || (0xa0 ≤ n && n ≤ 0xd7ff)
    || (0xe000 ≤ n && n ≤ 0xfffd && n != 0xfeff) || 0x10000 ≤ n

/-! ## Tokens -/

/-- How a scalar stands in the text. -/
inductive ScalarForm where
  | plain | single | double | literal | folded
deriving DecidableEq, Repr

/-- A token. -/
inductive Token where
  | streamEnd
  /-- A version directive, major and minor. -/
  | version (major minor : Nat)
  /-- A tag directive: the handle and what it stands for. -/
  | tagDirective (handle expansion : String)
  | documentStart
  | documentEnd
  | blockSequenceStart
  | blockMappingStart
  | blockEnd
  | flowSequenceStart
  | flowSequenceEnd
  | flowMappingStart
  | flowMappingEnd
  /-- The dash of a list item. -/
  | blockEntry
  /-- The comma between the parts of a flow collection. -/
  | flowEntry
  | key
  | value
  | alias (name : String)
  | anchor (name : String)
  | tag (handle suffix : String)
  | scalar (text : String) (form : ScalarForm)
deriving DecidableEq, Repr, Inhabited

end ScrapeFleet.Yaml
