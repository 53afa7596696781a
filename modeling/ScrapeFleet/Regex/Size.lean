/-
# ScrapeFleet.Regex.Size — how large a pattern's automata grow

A pattern is turned into one automaton that reads forward and one that reads backward, over the bytes
of the text. Counted repetitions copy their part, so a short pattern can ask for a huge automaton; one
that passes the limit is refused. A state takes 32 bytes and every further edge of a state 4 or 8.
-/
import ScrapeFleet.Regex.Reader

namespace ScrapeFleet.Regex

/-- The reading direction of an automaton. -/
inductive Direction where
  | forward | backward
deriving DecidableEq, Repr

/-- The bytes of a state. -/
def stateBytes : Nat := 32

namespace CharSet

/-- The bytes for a set in both directions: forward, sets share their endings; backward, each range
of byte sequences keeps more of its own. -/
def pick (d : Direction) (forward backward : Nat) : Nat :=
  match d with
  | .forward => forward
  | .backward => backward

/-- The bytes that a set adds to a choice between bytes. -/
def edgeBytes (d : Direction) : CharSet → Nat
  | .char c => if c.val < 0x80 then 8 else stateBytes * c.utf8Size
  | .range _ last => if last.val < 0x80 then 8 else pick d 300 600
  | .digit => pick d 1408 4640
  | .space => pick d 424 680
  | .word => pick d 19968 48168
  | .ascii _ => 24
  | .property text =>
    if ["l", "letter", "alpha", "alphabetic", "xidcontinue", "idcontinue", "xidstart", "idstart"].contains
        (normalName text.toList) then pick d 19200 45404 else pick d 1408 4640
  | .complement .digit => pick d 2232 11656
  | .complement .space => pick d 824 1924
  | .complement .word => pick d 19440 45064
  | .complement s => pick d 424 1000 + s.edgeBytes d
  | .union ss => total ss
  | .bracket s => s.edgeBytes d
  | .combine _ l r => l.edgeBytes d + r.edgeBytes d
where
  /-- The sum over a list. -/
  total : List CharSet → Nat
    | [] => 0
    | s :: ss => s.edgeBytes d + total ss

end CharSet

namespace Pattern

/-- The bytes of a pattern's automaton. -/
def bytes (d : Direction) : Pattern → Nat
  | .empty => stateBytes
  | .setting => stateBytes
  | .char c caseless =>
    if caseless then 2 * stateBytes + 16 else stateBytes * c.utf8Size
  | .set s _ => 2 * stateBytes + s.edgeBytes d
  | .dot _ => CharSet.pick d 424 1000
  | .look _ _ => stateBytes
  | .rep p least most =>
    let one := p.bytes d
    match most with
    | none => Nat.max least 1 * one + stateBytes + 8
    | some most => least * one + (most - least) * (one + stateBytes + 8) + stateBytes
  | .group captures p =>
    p.bytes d + match captures, d with
      | true, .forward => 2 * stateBytes
      | _, _ => 0
  | .concat ps => total ps
  | .alt ps => total ps + ps.length * 4 + 2 * stateBytes
where
  /-- The sum over a list. -/
  total : List Pattern → Nat
    | [] => 0
    | p :: ps => p.bytes d + total ps

end Pattern

/-- The largest automaton in bytes. -/
def byteLimit : Nat := 10485760

/-- Both automata of a pattern stay within the limit. -/
def Pattern.fits (p : Pattern) : Bool :=
  p.bytes .forward + 5 * stateBytes ≤ byteLimit && p.bytes .backward + 3 * stateBytes ≤ byteLimit

/-- The text as it is used: between anchors, in a group of its own. The text is pasted in as it is,
so it may close that group itself. -/
def anchored (text : List Char) : List Char := "^(?:".toList ++ text ++ ")$".toList

/-- The text can be used as an anchored pattern. -/
def isUsable (text : String) : Bool :=
  match parse (anchored text.toList) with
  | some p => p.fits
  | none => false

end ScrapeFleet.Regex
