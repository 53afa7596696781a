/-
# ScrapeFleet.Yaml.Lexer — from text to tokens

The lexer keeps the indentation of the open blocks and, for each open flow collection, the place where
a key may have started. When a colon shows that it was one, the key is marked there after the fact. A
key has to end on its line and within 1024 characters.

Scalars are read by functions on a cursor; each returns the text and the place after it.
-/
import ScrapeFleet.Text.RangeTable
import ScrapeFleet.Yaml.Cursor
import ScrapeFleet.Yaml.Token

namespace ScrapeFleet.Yaml

open Text (hexValue?)

/-! ## Scalars in flow style -/

/-- The blanks and breaks between two words: the blanks of the first line, the first break and the
further breaks. -/
structure Gap where
  blanks : List Char := []
  first : List Char := []
  more : List Char := []
  broken : Bool := false

/-- What a gap stands for: blanks for themselves, one line feed for a space, several for one less. -/
def Gap.text (g : Gap) : List Char :=
  if g.broken then
    if g.first = ['\n'] then if g.more.isEmpty then [' '] else g.more else g.first ++ g.more
  else g.blanks

/-- Reads a gap. Below `indent` a tab in the indentation is refused. -/
def readGap (indent : Nat) (g : Gap) (c : Cursor) : Option (Gap × Cursor) :=
  match c.peek with
  | none => some (g, c)
  | some x =>
    let onward (g : Gap) (d : Cursor) : Option (Gap × Cursor) :=
      if _h : d.rest.length < c.rest.length then readGap indent g d else none
    if isBlank x then
      if g.broken && c.column < indent && x == '\t' then none
      else onward (if g.broken then g else { g with blanks := g.blanks ++ [x] }) (c.skip 1)
    else if isBreak x then
      onward
        (if g.broken then { g with more := g.more ++ c.breakText }
          else { first := c.breakText, broken := true })
        c.skipLine
    else some (g, c)
termination_by c.rest.length

/-- The character of a one-letter escape. -/
def escape? : Char → Option Char
  | '0' => some '\x00'
  | 'a' => some '\x07'
  | 'b' => some '\x08'
  | 't' | '\t' => some '\t'
  | 'n' => some '\n'
  | 'v' => some '\x0b'
  | 'f' => some '\x0c'
  | 'r' => some '\r'
  | 'e' => some '\x1b'
  | ' ' => some ' '
  | '"' => some '"'
  | '/' => some '/'
  | '\\' => some '\\'
  | 'N' => some '\u0085'
  | '_' => some '\u00a0'
  | 'L' => some '\u2028'
  | 'P' => some '\u2029'
  | _ => none

/-- How many hexadecimal digits follow the letter of an escape. -/
def escapeDigits? : Char → Option Nat
  | 'x' => some 2
  | 'u' => some 4
  | 'U' => some 8
  | _ => none

/-- The character with a hexadecimal number. -/
def hexChar? (digits : List Char) : Option Char :=
  match digits.mapM hexValue? with
  | some vs =>
    let n := vs.foldl (fun n v => 16 * n + v) 0
    if n.isValidChar then some (Char.ofNat n) else none
  | none => none

/-- Reads a quoted scalar behind its opening quote; `out` is what has been read, latest first. -/
def readQuoted (single : Bool) (out : List Char) (c : Cursor) : Option (List Char × Cursor) :=
  let quote := if single then '\'' else '"'
  let onward (out : List Char) (d : Cursor) : Option (List Char × Cursor) :=
    if _h : d.rest.length < c.rest.length then readQuoted single out d else none
  let gap (g : Gap) (start : Cursor) : Option (List Char × Cursor) :=
    match readGap 0 g start with
    | none => none
    | some (g, d) => if d.atDocumentMarker then none else onward (g.text.reverse ++ out) d
  match c.rest with
  | [] => none
  | x :: cs =>
    if x == quote then
      if single && cs.head? == some '\'' then onward ('\'' :: out) (c.skip 2)
      else some (out.reverse, c.skip 1)
    else if isBlank x || isBreak x then gap {} c
    else if !single && x == '\\' then
      match cs with
      | [] => none
      | e :: after =>
        if isBreak e then
          let next := (c.skip 1).skipLine
          if next.at_ quote then some (out.reverse, next.skip 1) else gap { broken := true } next
        else
          match escape? e with
          | some y => onward (y :: out) (c.skip 2)
          | none =>
            match escapeDigits? e with
            | none => none
            | some k =>
              if after.length < k then none
              else
                match hexChar? (after.take k) with
                | some y => onward (y :: out) (c.skip (2 + k))
                | none => none
    else onward (x :: out) (c.skip 1)
termination_by c.rest.length

/-- A character that ends an unquoted scalar in a flow collection. -/
def endsFlowScalar (x : Char) : Bool := [',', '[', ']', '\x7b', '\x7d'].contains x

/-- How far an unquoted scalar goes without a blank: its characters, or `none` at a colon that a flow
collection cannot have there. -/
def plainWord (flow : Bool) : List Char → Option (List Char)
  | [] => some []
  | x :: cs =>
    if isBlankOrEnd (some x) then some []
    else if flow && x == ':' && (match cs with
        | y :: _ => endsFlowScalar y || y == '?'
        | [] => false) then none
    else if (x == ':' && isBlankOrEnd cs.head?) || (flow && endsFlowScalar x) then some []
    else (plainWord flow cs).map (x :: ·)

/-- Reads an unquoted scalar. `out` is what has been read, latest first, and `gap` stands before what
comes. Also tells whether the scalar's end follows a line break. -/
def readPlain (flow : Bool) (indent : Nat) (out : List Char) (gap : Gap) (c : Cursor) :
    Option (List Char × Bool × Cursor) :=
  if c.atDocumentMarker || c.at_ '#' then some (out.reverse, gap.broken, c)
  else
    match plainWord flow c.rest with
    | none => none
    | some word =>
      let out := if word.isEmpty then out else word.reverse ++ gap.text.reverse ++ out
      let pending := if word.isEmpty then gap else {}
      let d := c.skip word.length
      if d.atBlank || d.atBreak then
        match readGap indent pending d with
        | none => none
        | some (gap, e) =>
          if !flow && e.column < indent then some (out.reverse, gap.broken, e)
          else if _h : e.rest.length < c.rest.length then readPlain flow indent out gap e
          else none
      else some (out.reverse, pending.broken, d)
termination_by c.rest.length

/-! ## Scalars in block style -/

/-- Reads the empty lines and the indentation before a line of a block scalar. An indentation that is
not yet known is the deepest seen. Returns the breaks and the deepest column. -/
def readBlockBreaks (indent : Option Nat) (out : List Char) (deepest : Nat) (c : Cursor) :
    Option (List Char × Nat × Cursor) :=
  let d := match indent with
    | some n => c.skip (Nat.min ((c.rest.takeWhile (· == ' ')).length) (n - c.column))
    | none => c.skipWhile (· == ' ')
  let deepest := Nat.max deepest d.column
  let mustIndent := match indent with
    | some n => d.column < n
    | none => true
  if mustIndent && d.at_ '\t' then none
  else if d.atBreak then
    let e := d.skipLine
    if _h : e.rest.length < c.rest.length then
      readBlockBreaks indent (out ++ d.breakText) deepest e
    else none
  else some (out, deepest, d)
termination_by c.rest.length

/-- Reads the lines of a block scalar, `lead` being the break that ended the last line and `trail` the
breaks after it. -/
def readBlockLines (literal : Bool) (indent : Nat) (out lead trail : List Char) (afterBlank : Bool)
    (c : Cursor) : Option (List Char × List Char × List Char × Cursor) :=
  if c.column == indent && !c.rest.isEmpty then
    let startsBlank := c.atBlank
    let joined :=
      if !literal && lead == ['\n'] && !afterBlank && !startsBlank then
        if trail.isEmpty then [' '] else trail
      else lead ++ trail
    let line := c.rest.takeWhile (!isBreak ·)
    let d := c.skip line.length
    let e := if d.rest.isEmpty then d else d.skipLine
    match readBlockBreaks (some indent) [] 0 e with
    | none => none
    | some (breaks, _, f) =>
      if _h : f.rest.length < c.rest.length then
        readBlockLines literal indent (out ++ joined ++ line) d.breakText breaks startsBlank f
      else none
  else some (out, lead, trail, c)
termination_by c.rest.length

/-- Whether the breaks at the end of a block scalar are kept. -/
inductive Chomping where
  | strip | clip | keep
deriving DecidableEq, Repr

/-- The chomping that a sign asks for. -/
def chomping? : Option Char → Option Chomping
  | some '+' => some .keep
  | some '-' => some .strip
  | _ => none

/-- The signs behind the indicator of a block scalar: chomping and indentation, in any order. -/
def readBlockHeader (c : Cursor) : Option (Chomping × Option Nat × Cursor) :=
  let digit? (c : Cursor) : Option Nat :=
    match c.peek with
    | some x => if x.isDigit then some (x.toNat - 48) else none
    | none => none
  match chomping? c.peek with
  | some ch =>
    match digit? (c.skip 1) with
    | some 0 => none
    | some n => some (ch, some n, c.skip 2)
    | none => some (ch, none, c.skip 1)
  | none =>
    match digit? c with
    | some 0 => none
    | some n =>
      match chomping? (c.skip 1).peek with
      | some ch => some (ch, some n, c.skip 2)
      | none => some (.clip, some n, c.skip 1)
    | none => some (.clip, none, c)

/-- Reads a block scalar behind its indicator. `blockIndent` is the indentation of the block around
it, or -1. -/
def readBlockScalar (literal : Bool) (blockIndent : Int) (c : Cursor) :
    Option (List Char × Cursor) :=
  match readBlockHeader c with
  | none => none
  | some (chomping, increment, c) =>
    let c := c.skipWhile isBlank
    let c := if c.at_ '#' then c.skipLineRest else c
    if !isBreakOrEnd c.peek then none
    else
      let c := if c.atBreak then c.skipLine else c
      let known := increment.map fun n => blockIndent.toNat + n
      match readBlockBreaks known [] 0 c with
      | none => none
      | some (breaks, deepest, c) =>
        let indent := known.getD (Nat.max (Nat.max deepest (blockIndent + 1).toNat) 1)
        match readBlockLines literal indent [] [] breaks false c with
        | none => none
        | some (out, lead, trail, c) =>
          let out := match chomping with
            | .strip => out
            | .clip => out ++ lead
            | .keep => out ++ lead ++ trail
          some (out, c)

/-! ## Names, tags and directives -/

/-- A character of an anchor's name or a tag's handle. -/
def isNameChar (x : Char) : Bool := x.isAlphanum || x == '_' || x == '-'

/-- Reads the name of an anchor or alias. -/
def readAnchor (c : Cursor) : Option (String × Cursor) :=
  let name := c.rest.takeWhile isNameChar
  let d := c.skip name.length
  let ends := isBlankOrEnd d.peek
    || ['?', ':', ',', ']', '\x7d', '%', '@', '\x60'].any fun x => d.at_ x
  if name.isEmpty || !ends then none else some (String.ofList name, d)

/-- A character of a tag; `verbatim` ones may also hold the marks of flow collections. -/
def isTagChar (verbatim : Bool) (x : Char) : Bool :=
  isNameChar x
    || [';', '/', '?', ':', '@', '&', '=', '+', '$', '.', '%', '!', '~', '*', '\'', '(', ')'].contains x
    || (verbatim && [',', '[', ']'].contains x)

/-- The octets that a run of tag characters writes. -/
def tagOctets : List Char → Option (List UInt8)
  | [] => some []
  | '%' :: a :: b :: cs =>
    match hexValue? a, hexValue? b, tagOctets cs with
    | some x, some y, some os => some ((16 * x + y).toUInt8 :: os)
    | _, _, _ => none
  | '%' :: _ => none
  | x :: cs => (tagOctets cs).map fun os => (String.singleton x).toUTF8.toList ++ os

/-- Reads the characters of a tag. -/
def readTagText (verbatim : Bool) (head : String) (c : Cursor) : Option (String × Cursor) :=
  let chars := c.rest.takeWhile (isTagChar verbatim)
  if chars.isEmpty && head.isEmpty then none
  else
    match tagOctets chars with
    | none => none
    | some octets =>
      (String.fromUTF8? ⟨octets.toArray⟩).map fun text =>
        (String.ofList (head.toList.drop 1) ++ text, c.skip chars.length)

/-- Reads a tag's handle: `!`, `!!` or a name between two marks. In a directive a handle is closed. -/
def readTagHandle (directive : Bool) (c : Cursor) : Option (String × Cursor) :=
  if !c.at_ '!' then none
  else
    let name := (c.skip 1).rest.takeWhile isNameChar
    let d := c.skip (1 + name.length)
    if d.at_ '!' then some (String.ofList ('!' :: name ++ ['!']), d.skip 1)
    else if directive && !name.isEmpty then none
    else some (String.ofList ('!' :: name), d)

/-- Reads a tag at its mark. A handle that is not closed is the start of the suffix. -/
def readTag (flow : Bool) (c : Cursor) : Option (Token × Cursor) :=
  let finish (t : Token) (d : Cursor) : Option (Token × Cursor) :=
    if (flow && d.at_ ',') || isBlankOrEnd d.peek then some (t, d) else none
  if c.peekAt 1 == some '<' then
    match readTagText true "" (c.skip 2) with
    | some (text, d) => if d.at_ '>' then finish (.tag "" text) (d.skip 1) else none
    | none => none
  else
    match readTagHandle false c with
    | none => none
    | some (handle, d) =>
      if handle.length > 1 && handle.endsWith "!" then
        match readTagText false "" d with
        | some (text, e) => finish (.tag handle text) e
        | none => none
      else
        match readTagText false handle d with
        | some (text, e) => finish (if text.isEmpty then .tag "" "!" else .tag "!" text) e
        | none => none

/-- A decimal number of at most nine digits. -/
def readVersionNumber (c : Cursor) : Option (Nat × Cursor) :=
  let digits := c.rest.takeWhile Char.isDigit
  if digits.isEmpty || digits.length > 9 then none
  else some (digits.foldl (fun n x => 10 * n + (x.toNat - 48)) 0, c.skip digits.length)

/-- Reads a directive at its percent sign. -/
def readDirective (c : Cursor) : Option (Token × Cursor) :=
  let c := c.skip 1
  let name := c.rest.takeWhile isNameChar
  let d := (c.skip name.length)
  if name.isEmpty || !isBlankOrEnd d.peek then none
  else
    let d := d.skipWhile isBlank
    let body : Option (Token × Cursor) :=
      match String.ofList name with
      | "YAML" =>
        match readVersionNumber d with
        | some (major, e) =>
          if e.at_ '.' then
            (readVersionNumber (e.skip 1)).map fun (minor, f) => (.version major minor, f)
          else none
        | none => none
      | "TAG" =>
        match readTagHandle true d with
        | some (handle, e) =>
          if !e.atBlank then none
          else
            match readTagText true "" (e.skipWhile isBlank) with
            | some (text, f) =>
              if isBlankOrEnd f.peek then some (.tagDirective handle text, f) else none
            | none => none
        | none => none
      | _ => none
    match body with
    | none => none
    | some (t, e) =>
      let e := e.skipWhile isBlank
      let e := if e.at_ '#' then e.skipLineRest else e
      if !isBreakOrEnd e.peek then none else some (t, if e.atBreak then e.skipLine else e)

/-! ## The lexer -/

/-- A place where a key may have started. -/
structure PossibleKey where
  /-- The number of tokens before it. -/
  place : Nat
  line : Nat
  column : Nat
  index : Nat
  /-- Nothing else than a key can stand there. -/
  required : Bool
deriving Repr

/-- The longest key, in characters. -/
def keyLimit : Nat := 1024

/-- The state between two tokens. -/
structure Lexer where
  cursor : Cursor
  tokens : Array Token := #[]
  /-- The indentation of the innermost block, or -1. -/
  indent : Int := -1
  /-- The indentations of the blocks around it. -/
  outer : List Int := []
  /-- A key may start here. -/
  keyAllowed : Bool := true
  /-- The possible key of the present level. -/
  key : Option PossibleKey := none
  /-- Those of the flow collections around it. -/
  outerKeys : List (Option PossibleKey) := []
deriving Repr

namespace Lexer

/-- Some flow collection is open. -/
def inFlow (l : Lexer) : Bool := !l.outerKeys.isEmpty

/-- Adds a token and moves on. -/
def emit (l : Lexer) (t : Token) (c : Cursor) : Lexer :=
  { l with tokens := l.tokens.push t, cursor := c }

/-- The place after blanks and a comment. Tabs only count as blanks where no key can start. -/
def pastFiller (l : Lexer) : Cursor :=
  let c := l.cursor
  let c := if c.column == 0 && c.at_ '\ufeff' then c.skip 1 else c
  let tabs := l.inFlow || !l.keyAllowed
  let c := c.skipWhile fun x => x == ' ' || (tabs && x == '\t')
  if c.at_ '#' then c.skipLineRest else c

/-- Moves past blanks, comments and breaks. -/
def skipToToken (l : Lexer) : Lexer :=
  if l.pastFiller.atBreak then
    if _h : l.pastFiller.skipLine.rest.length < l.cursor.rest.length then
      skipToToken
        { l with cursor := l.pastFiller.skipLine, keyAllowed := l.keyAllowed || !l.inFlow }
    else l
  else { l with cursor := l.pastFiller }
termination_by l.cursor.rest.length

/-- A possible key is given up when its line has ended or it has grown too long, which is an error if
it was required. -/
def stale (c : Cursor) : Option PossibleKey → Option (Option PossibleKey)
  | none => some none
  | some k =>
    if k.line < c.line || k.index + keyLimit < c.index then if k.required then none else some none
    else some (some k)

/-- Gives up the possible keys that have become impossible. -/
def dropStaleKeys (l : Lexer) : Option Lexer := do
  let key ← stale l.cursor l.key
  let outerKeys ← l.outerKeys.mapM (stale l.cursor)
  return { l with key, outerKeys }

/-- Closes the blocks that are indented deeper than `column`. -/
def closeBlocks (column : Int) (tokens : Array Token) (indent : Int) (outer : List Int) :
    Array Token × Int × List Int :=
  if column < indent then
    match outer with
    | [] => (tokens.push .blockEnd, -1, [])
    | i :: outer => closeBlocks column (tokens.push .blockEnd) i outer
  else (tokens, indent, outer)

/-- Closes the blocks that are indented deeper than `column`; in a flow collection indentation does
not count. -/
def unindent (l : Lexer) (column : Int) : Lexer :=
  if l.inFlow then l
  else
    let (tokens, indent, outer) := closeBlocks column l.tokens l.indent l.outer
    { l with tokens, indent, outer }

/-- Opens a block at `column` if it is indented deeper; its start goes before the token at `place`. -/
def openBlock (l : Lexer) (column : Nat) (place : Nat) (start : Token) : Lexer :=
  if l.inFlow then l
  else if l.indent < column then
    { l with
      tokens := l.tokens.insertIdxIfInBounds place start
      indent := column
      outer := l.indent :: l.outer }
  else l

/-- Gives up the possible key of the present level, which must not have been required. -/
def dropKey (l : Lexer) : Option Lexer :=
  match l.key with
  | some k => if k.required then none else some { l with key := none }
  | none => some l

/-- Remembers that a key may start here. -/
def saveKey (l : Lexer) : Option Lexer :=
  if l.keyAllowed then
    l.dropKey.map fun l =>
      { l with
        key := some {
          place := l.tokens.size
          line := l.cursor.line
          column := l.cursor.column
          index := l.cursor.index
          required := !l.inFlow && l.indent == l.cursor.column } }
  else some l

/-- A directive or the mark of a document. -/
def lexOutside (l : Lexer) (t : Token) (c : Cursor) : Option Lexer :=
  (l.unindent (-1)).dropKey.map fun l => { l.emit t c with keyAllowed := false }

/-- The start of a flow collection. -/
def lexFlowStart (l : Lexer) (t : Token) : Option Lexer :=
  l.saveKey.map fun l =>
    { l.emit t (l.cursor.skip 1) with
      key := none, outerKeys := l.key :: l.outerKeys, keyAllowed := true }

/-- The end of a flow collection. -/
def lexFlowEnd (l : Lexer) (t : Token) : Option Lexer :=
  l.dropKey.map fun l =>
    let l := match l.outerKeys with
      | k :: ks => { l with key := k, outerKeys := ks }
      | [] => l
    { l.emit t (l.cursor.skip 1) with keyAllowed := false }

/-- The comma of a flow collection. -/
def lexFlowEntry (l : Lexer) : Option Lexer :=
  l.dropKey.map fun l => { l.emit .flowEntry (l.cursor.skip 1) with keyAllowed := true }

/-- The dash of a list item. -/
def lexBlockEntry (l : Lexer) : Option Lexer :=
  if !l.inFlow && !l.keyAllowed then none
  else
    (l.openBlock l.cursor.column l.tokens.size .blockSequenceStart).dropKey.map fun l =>
      { l.emit .blockEntry (l.cursor.skip 1) with keyAllowed := true }

/-- The question mark before a key. -/
def lexKey (l : Lexer) : Option Lexer :=
  if !l.inFlow && !l.keyAllowed then none
  else
    (l.openBlock l.cursor.column l.tokens.size .blockMappingStart).dropKey.map fun l =>
      { l.emit .key (l.cursor.skip 1) with keyAllowed := !l.inFlow }

/-- The colon before a value. If a key may have started before, it did. -/
def lexValue (l : Lexer) : Option Lexer :=
  match l.key with
  | some k =>
    let l := { l with tokens := l.tokens.insertIdxIfInBounds k.place .key }
    let l := l.openBlock k.column k.place .blockMappingStart
    some { l.emit .value (l.cursor.skip 1) with key := none, keyAllowed := false }
  | none =>
    if !l.inFlow && !l.keyAllowed then none
    else
      let l := l.openBlock l.cursor.column l.tokens.size .blockMappingStart
      some { l.emit .value (l.cursor.skip 1) with keyAllowed := !l.inFlow }

/-- A token that may be a key, read by `read`. -/
def lexNode (l : Lexer) (read : Cursor → Option (Token × Cursor)) : Option Lexer :=
  match l.saveKey with
  | none => none
  | some l => (read l.cursor).map fun (t, c) => { l.emit t c with keyAllowed := false }

/-- A block scalar at its indicator. -/
def lexBlockScalar (l : Lexer) (literal : Bool) : Option Lexer :=
  match l.dropKey with
  | none => none
  | some l =>
    (readBlockScalar literal l.indent (l.cursor.skip 1)).map fun (text, c) =>
      { l.emit (.scalar (String.ofList text) (if literal then .literal else .folded)) c with
        keyAllowed := true }

/-- A quoted scalar at its quote. -/
def lexQuoted (l : Lexer) (single : Bool) : Option Lexer :=
  l.lexNode fun c =>
    (readQuoted single [] (c.skip 1)).map fun (text, d) =>
      (.scalar (String.ofList text) (if single then .single else .double), d)

/-- An unquoted scalar. After a break a new key may start. -/
def lexPlain (l : Lexer) : Option Lexer :=
  match l.saveKey with
  | none => none
  | some l =>
    (readPlain l.inFlow (l.indent + 1).toNat [] {} l.cursor).map fun (text, broken, c) =>
      { l.emit (.scalar (String.ofList text) .plain) c with keyAllowed := broken }

/-- An unquoted scalar can start with `x` before `next`. -/
def startsPlain (flow : Bool) (x : Char) (next : Option Char) : Bool :=
  let blankNext := match next with
    | some y => isBlank y
    | none => false
  !(isBlankOrEnd (some x) || ['-', '?', ':', ',', '[', ']', '\x7b', '\x7d', '#', '&', '*', '!', '|',
      '>', '\'', '"', '%', '@', '\x60'].contains x)
    || (x == '-' && !blankNext)
    || (!flow && (x == '?' || x == ':') && !isBlankOrEnd next)

/-- Reads the token at `x`. -/
def lexAt (l : Lexer) (x : Char) : Option Lexer :=
  let c := l.cursor
  let next := c.peekAt 1
  if c.column == 0 && x == '%' then
    match readDirective c with
    | some (t, d) => l.lexOutside t d
    | none => none
  else if c.atMarker '-' then l.lexOutside .documentStart (c.skip 3)
  else if c.atMarker '.' then l.lexOutside .documentEnd (c.skip 3)
  else if x == '[' then l.lexFlowStart .flowSequenceStart
  else if x == '\x7b' then l.lexFlowStart .flowMappingStart
  else if x == ']' then l.lexFlowEnd .flowSequenceEnd
  else if x == '\x7d' then l.lexFlowEnd .flowMappingEnd
  else if x == ',' then l.lexFlowEntry
  else if x == '-' && isBlankOrEnd next then l.lexBlockEntry
  else if x == '?' && (l.inFlow || isBlankOrEnd next) then l.lexKey
  else if x == ':' && (l.inFlow || isBlankOrEnd next) then l.lexValue
  else if x == '*' then l.lexNode fun c => (readAnchor (c.skip 1)).map fun (n, d) => (.alias n, d)
  else if x == '&' then l.lexNode fun c => (readAnchor (c.skip 1)).map fun (n, d) => (.anchor n, d)
  else if x == '!' then l.lexNode (readTag l.inFlow)
  else if x == '|' && !l.inFlow then l.lexBlockScalar true
  else if x == '>' && !l.inFlow then l.lexBlockScalar false
  else if x == '\'' then l.lexQuoted true
  else if x == '"' then l.lexQuoted false
  else if startsPlain l.inFlow x next then l.lexPlain
  else none

/-- The end of the stream: a line of its own, on which all blocks end. -/
def lexEnd (l : Lexer) : Option (Array Token) :=
  let c := l.cursor
  let l := { l with cursor := if c.column == 0 then c else { c with column := 0, line := c.line + 1 } }
  (l.unindent (-1)).dropKey.map fun l => l.tokens.push .streamEnd

/-- Reads tokens to the end of the text. -/
def run (l : Lexer) : Option (Array Token) :=
  let there := l.skipToToken
  match there.dropStaleKeys with
  | none => none
  | some there =>
    let there := there.unindent there.cursor.column
    match there.cursor.peek with
    | none => there.lexEnd
    | some x =>
      match there.lexAt x with
      | none => none
      | some next =>
        if _h : next.cursor.rest.length < l.cursor.rest.length then run next else none
termination_by l.cursor.rest.length

end Lexer

/-- The tokens of a text. A byte order mark in front does not count, and control characters are
refused. -/
def tokenize (text : String) : Option (Array Token) :=
  let cs := match text.toList with
    | '\ufeff' :: cs => cs
    | cs => cs
  if cs.all isAllowed then Lexer.run { cursor := { rest := cs } } else none

end ScrapeFleet.Yaml
