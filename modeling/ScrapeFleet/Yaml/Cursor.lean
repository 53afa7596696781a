/-
# ScrapeFleet.Yaml.Cursor — a place in a text

The text that is left, and the line, column and index of its first character. Line breaks of every
kind count as one, a carriage return with a line feed too.
-/
import ScrapeFleet.Yaml.Token

namespace ScrapeFleet.Yaml

/-- A place in a text. -/
structure Cursor where
  rest : List Char
  line : Nat := 0
  column : Nat := 0
  index : Nat := 0
deriving Repr, Inhabited

namespace Cursor

/-- The character at the place. -/
def peek (c : Cursor) : Option Char := c.rest.head?

/-- The character `k` places further on. -/
def peekAt (c : Cursor) (k : Nat) : Option Char := c.rest[k]?

/-- The character at the place is `x`. -/
def at_ (c : Cursor) (x : Char) : Bool := c.peek == some x

/-- Moves on by `k` characters of the same line. -/
def skip (c : Cursor) (k : Nat) : Cursor :=
  { c with rest := c.rest.drop k, column := c.column + k, index := c.index + k }

/-- Moves past the characters that satisfy `p`, none of which is a break. -/
def skipWhile (p : Char → Bool) (c : Cursor) : Cursor := c.skip (c.rest.takeWhile p).length

/-- Moves to the end of the line. -/
def skipLineRest (c : Cursor) : Cursor := c.skipWhile (!isBreak ·)

/-- Moves past a line break. -/
def skipLine (c : Cursor) : Cursor :=
  match c.rest with
  | '\r' :: '\n' :: cs => { rest := cs, line := c.line + 1, column := 0, index := c.index + 2 }
  | _ :: cs => { rest := cs, line := c.line + 1, column := 0, index := c.index + 1 }
  | [] => c

/-- What a line break counts as in a scalar: a line feed, but separators of lines and paragraphs
stand for themselves. -/
def breakText (c : Cursor) : List Char :=
  match c.peek with
  | some '\u2028' => ['\u2028']
  | some '\u2029' => ['\u2029']
  | some _ => ['\n']
  | none => []

/-- The place is at a line break. -/
def atBreak (c : Cursor) : Bool :=
  match c.peek with
  | some x => isBreak x
  | none => false

/-- The place is at a space or a tab. -/
def atBlank (c : Cursor) : Bool :=
  match c.peek with
  | some x => isBlank x
  | none => false

/-- `x` three times at the start of a line, followed by a blank or nothing. -/
def atMarker (c : Cursor) (x : Char) : Bool :=
  c.column == 0 && [x, x, x].isPrefixOf c.rest && isBlankOrEnd (c.peekAt 3)

/-- Three dashes or three points at the start of a line. -/
def atDocumentMarker (c : Cursor) : Bool := c.atMarker '-' || c.atMarker '.'

end Cursor

end ScrapeFleet.Yaml
