/-
# ScrapeFleet.Regex.Reader — reading patterns

A pattern is read left to right with a stack of open groups. Each group keeps its finished
alternatives and the parts of the one being read, so closing a group only folds what lies on top.
Look-around, references to groups and unknown escapes are refused: they have no finite automaton or
no meaning.
-/
import ScrapeFleet.Regex.Pattern
import ScrapeFleet.Regex.Property
import ScrapeFleet.Text.Digits
import ScrapeFleet.Text.Letter

namespace ScrapeFleet.Regex

open Text (charOfHex? isBlank isLetter isNumber hexValue?)

/-! ## Steps over characters -/

/-- Drops blanks and comments; `inComment` after a `#`. -/
def skipVerbose (inComment : Bool) : List Char → List Char
  | [] => []
  | c :: cs =>
    if inComment then skipVerbose (c != '\n') cs
    else if isBlank c then skipVerbose false cs
    else if c == '#' then skipVerbose true cs
    else c :: cs

/-- Drops what does not count under the options. -/
def skip (o : Options) (cs : List Char) : List Char := if o.verbose then skipVerbose false cs else cs

/-- Moves past one character and what does not count after it. -/
def advance (o : Options) (cs : List Char) : List Char := skip o cs.tail

theorem skipVerbose_length_le (b : Bool) (cs : List Char) :
    (skipVerbose b cs).length ≤ cs.length := by
  induction cs generalizing b with
  | nil => simp [skipVerbose]
  | cons c cs ih =>
    unfold skipVerbose
    split
    · exact Nat.le_succ_of_le (ih _)
    · split
      · exact Nat.le_succ_of_le (ih _)
      · split
        · exact Nat.le_succ_of_le (ih _)
        · exact Nat.le_refl _

theorem skip_length_le (o : Options) (cs : List Char) : (skip o cs).length ≤ cs.length := by
  unfold skip
  split
  · exact skipVerbose_length_le _ _
  · exact Nat.le_refl _

theorem advance_cons_length_lt (o : Options) (c : Char) (cs : List Char) :
    (advance o (c :: cs)).length < (c :: cs).length :=
  Nat.lt_succ_of_le (skip_length_le o cs)

/-- The character that a step would reach. A blank in verbose text is passed over, a comment only
up to its first character. -/
def peekSpace (o : Options) (cs : List Char) : Option Char :=
  if o.verbose then
    let after := cs.tail
    match after.dropWhile isBlank with
    | [] => after.head?
    | '#' :: comment =>
      match comment.dropWhile isBlank with
      | [] => after.head?
      | c :: _ => some c
    | c :: _ => some c
  else cs.tail.head?

/-- The characters for which `p` holds, taken step by step, and what follows. -/
def takeSteps (o : Options) (p : Char → Bool) (cs : List Char) : List Char × List Char :=
  match cs with
  | [] => ([], [])
  | c :: rest =>
    if p c then
      let (taken, after) := takeSteps o p (advance o (c :: rest))
      (c :: taken, after)
    else ([], c :: rest)
termination_by cs.length
decreasing_by exact advance_cons_length_lt o c rest

/-- A decimal number below 2^32, with blanks around it. -/
def readCount (o : Options) (cs : List Char) : Option (Nat × List Char) :=
  let (digits, after) := takeSteps o Char.isDigit (cs.dropWhile isBlank)
  let (_, rest) := takeSteps o isBlank after
  if digits.isEmpty then none
  else
    let n := digits.foldl (fun n c => 10 * n + (c.toNat - 48)) 0
    if n < Nat.pow 2 32 then some (n, rest) else none

/-! ## Escapes -/

/-- A single thing that an escape or a plain character stands for. -/
inductive Primitive where
  | char (c : Char)
  /-- A byte above ASCII, which only exists outside of character mode. -/
  | highByte
  | set (s : CharSet)
  | look (l : Look)
  | dot
deriving Repr

/-- Characters with a meaning of their own, which a backslash takes away. -/
def isMeta (c : Char) : Bool :=
  ['\\', '.', '+', '*', '?', '(', ')', '|', '[', ']', '\x7b', '\x7d', '^', '$', '#', '&', '-', '~'].contains c

/-- A backslash before the character stands for the character. -/
def isEscapable (c : Char) : Bool :=
  isMeta c || (c.val < 0x80 && !c.isAlphanum && c != '<' && c != '>')

/-- Exactly `k` hexadecimal digits, the first of which is at hand. -/
def readHexDigits (o : Options) : Nat → List Char → Option (List Char × List Char)
  | 0, cs => some ([], cs)
  | k + 1, cs =>
    match cs with
    | [] => none
    | c :: _ =>
      if (hexValue? c).isSome then
        (readHexDigits o k (advance o cs)).map fun (ds, rest) => (c :: ds, rest)
      else none

/-- The escape of a character by its number: two, four or eight digits, or any in braces. -/
def readHex (o : Options) (kind : Char) (cs : List Char) : Option (Primitive × List Char) :=
  match advance o cs with
  | [] => none
  | '\x7b' :: inside =>
    let (digits, rest) := takeSteps o (· != '\x7d') (skip o inside)
    match rest, digits with
    | '\x7d' :: after, _ :: _ =>
      (charOfHex? digits).map fun c =>
        (if !o.unicode && kind == 'x' && 0x80 ≤ c.val && c.val ≤ 0xff then .highByte else .char c,
          skip o after)
    | _, _ => none
  | cs =>
    let count := if kind == 'x' then 2 else if kind == 'u' then 4 else 8
    match readHexDigits o count cs with
    | none => none
    | some (digits, rest) =>
      (charOfHex? digits).map fun c =>
        (if !o.unicode && kind == 'x' && 0x80 ≤ c.val then .highByte else .char c, rest)

/-- The escape of a named property; a single letter needs no braces. -/
def readProperty (o : Options) (negated : Bool) (cs : List Char) :
    Option (Primitive × List Char) :=
  let made (text : List Char) (rest : List Char) : Option (Primitive × List Char) :=
    if o.unicode && isProperty text then
      let s := CharSet.property (String.ofList text)
      some (.set (if negated then .complement s else s), rest)
    else none
  match advance o cs with
  | [] => none
  | '\x7b' :: inside =>
    let (text, rest) := takeSteps o (· != '\x7d') (skip o inside)
    match rest with
    | '\x7d' :: after => made text after
    | _ => none
  | '\\' :: _ => none
  | c :: rest =>
    if o.unicode && isSetName [c] then
      let s := CharSet.property c.toString
      some (.set (if negated then .complement s else s), skip o rest)
    else none

/-- The boundaries that are written `\b` and a name in braces. Braces that hold no name are left for
a repetition. -/
def readNamedBoundary (o : Options) (cs : List Char) : Option (Primitive × List Char) :=
  let isNameChar (c : Char) : Bool := c.isAlpha || c == '-'
  match cs with
  | '\x7b' :: _ =>
    match advance o cs with
    | [] => none
    | c :: inside =>
      if isNameChar c then
        match takeSteps o isNameChar (c :: inside) with
        | (name, '\x7d' :: after) =>
          match String.ofList name with
          | "start" => some (.look .wordStart, after)
          | "end" => some (.look .wordEnd, after)
          | "start-half" => some (.look .wordStartHalf, after)
          | "end-half" => some (.look .wordEndHalf, after)
          | _ => none
        | _ => none
      else some (.look .wordBoundary, cs)
  | _ => some (.look .wordBoundary, cs)

/-- A perl class, complemented if its letter is a capital. Outside of character mode a complement
would leave ASCII. -/
def perlSet (o : Options) (s : CharSet) (negated : Bool) : Option CharSet :=
  if negated then if o.unicode then some (.complement s) else none else some s

/-- What follows a backslash. -/
def readEscape (o : Options) (cs : List Char) : Option (Primitive × List Char) :=
  match cs with
  | [] => none
  | c :: rest =>
    if c.isDigit then none
    else if c == 'x' || c == 'u' || c == 'U' then readHex o c cs
    else if c == 'p' || c == 'P' then readProperty o (c == 'P') cs
    else if c == 'd' || c == 'D' then (perlSet o .digit (c == 'D')).map fun s => (.set s, rest)
    else if c == 's' || c == 'S' then (perlSet o .space (c == 'S')).map fun s => (.set s, rest)
    else if c == 'w' || c == 'W' then (perlSet o .word (c == 'W')).map fun s => (.set s, rest)
    else if isEscapable c then some (.char c, rest)
    else
      match c with
      | 'a' => some (.char '\x07', rest)
      | 'f' => some (.char '\x0c', rest)
      | 't' => some (.char '\t', rest)
      | 'n' => some (.char '\n', rest)
      | 'r' => some (.char '\r', rest)
      | 'v' => some (.char '\x0b', rest)
      | 'A' => some (.look .textStart, rest)
      | 'z' => some (.look .textEnd, rest)
      | 'b' => readNamedBoundary o rest
      | 'B' => some (.look .notWordBoundary, rest)
      | '<' => some (.look .wordStart, rest)
      | '>' => some (.look .wordEnd, rest)
      | _ => none

/-! ## Sets in brackets -/

/-- The names of the ASCII classes. -/
def asciiClassNames : List String :=
  ["alnum", "alpha", "ascii", "blank", "cntrl", "digit", "graph", "lower", "print", "punct", "space",
    "upper", "word", "xdigit"]

/-- A class such as `[:alpha:]`, standing after its bracket; `none` if the text is no such class. -/
def readAsciiClass (cs : List Char) : Option (Bool × String × List Char) :=
  match cs with
  | ':' :: rest =>
    let (negated, rest) := match rest with
      | '^' :: r => (true, r)
      | r => (false, r)
    let name := String.ofList (rest.takeWhile (· != ':'))
    match rest.dropWhile (· != ':') with
    | ':' :: ']' :: after =>
      if asciiClassNames.contains name then some (negated, name, after) else none
    | _ => none
  | _ => none

/-- An open bracket with what stood before it, or the left side of an operation. -/
inductive SetFrame where
  | bracket (outer : List CharSet) (negated : Bool)
  | operation (op : SetOp) (left : CharSet)

/-- The items of a set, latest first, as one set. -/
def setOfItems : List CharSet → CharSet
  | [s] => s
  | ss => .union ss.reverse

/-- Completes an operation that waits for its right side. -/
def foldOperation (stack : List SetFrame) (right : CharSet) : List SetFrame × CharSet :=
  match stack with
  | .operation op left :: stack => (stack, .combine op left right)
  | stack => (stack, right)

/-- The dashes at the front of a set and a `]` right there stand for themselves. -/
def readSetFront (o : Options) (items : List CharSet) (cs : List Char) :
    Option (List CharSet × List Char) :=
  match cs with
  | [] => none
  | c :: rest =>
    if c == '-' then
      match _h : advance o (c :: rest) with
      | [] => none
      | after => readSetFront o (.char '-' :: items) after
    else if c == ']' && items.isEmpty then
      match advance o (c :: rest) with
      | [] => none
      | after => some ([.char ']'], after)
    else some (items, c :: rest)
termination_by cs.length
decreasing_by rw [← _h]; exact advance_cons_length_lt o c rest

/-- One end of a range or a single item of a set. -/
def readSetItem (o : Options) (cs : List Char) : Option (Primitive × List Char) :=
  match cs with
  | [] => none
  | '\\' :: rest => readEscape o rest
  | c :: rest => some (.char c, rest)

/-- A character that may stand in a set under the options. -/
def setChar? (o : Options) : Primitive → Option Char
  | .char c => if o.unicode || c.val < 0x80 then some c else none
  | _ => none

/-- A single item, or a range of two characters. -/
def readSetRange (o : Options) (cs : List Char) : Option (CharSet × List Char) :=
  match readSetItem o cs with
  | none => none
  | some (first, rest) =>
    match skip o rest with
    | [] => none
    | c :: rest =>
      let next := peekSpace o (c :: rest)
      if c != '-' || next == some ']' || next == some '-' then
        match first with
        | .set s => some (s, c :: rest)
        | first => (setChar? o first).map fun x => (.char x, c :: rest)
      else
        match advance o (c :: rest) with
        | [] => none
        | after =>
          match readSetItem o after with
          | none => none
          | some (last, rest) =>
            match setChar? o first, setChar? o last with
            | some a, some b => if a ≤ b then some (.range a b, rest) else none
            | _, _ => none

/-- Reads a set in brackets from after its first item on. `items` are those of the innermost
bracket, latest first. -/
def readSet (o : Options) (stack : List SetFrame) (items : List CharSet) (cs : List Char) :
    Option (CharSet × List Char) :=
  match skip o cs with
  | [] => none
  | c :: rest =>
    let onward (stack : List SetFrame) (items : List CharSet) (after : List Char) :
        Option (CharSet × List Char) :=
      if _h : after.length < cs.length then readSet o stack items after else none
    let operation (op : SetOp) : Option (CharSet × List Char) :=
      let (stack, left) := foldOperation stack (setOfItems items)
      onward (.operation op left :: stack) [] rest.tail
    let openSet : Option (CharSet × List Char) :=
      match advance o (c :: rest) with
      | [] => none
      | d :: inside =>
        let negated := d == '^'
        match readSetFront o [] (if negated then advance o (d :: inside) else d :: inside) with
        | none => none
        | some (front, after) =>
          if negated && !o.unicode then none else onward (.bracket items negated :: stack) front after
    if c == '[' then
      match readAsciiClass rest with
      | some (negated, name, after) =>
        match perlSet o (.ascii name) negated with
        | some s => onward stack (s :: items) after
        | none => none
      | none => openSet
    else if c == ']' then
      let (stack, s) := foldOperation stack (setOfItems items)
      match stack with
      | [] => none
      | [.bracket _ negated] => some (.bracket (if negated then .complement s else s), rest)
      | .bracket outer negated :: stack =>
        onward stack (.bracket (if negated then .complement s else s) :: outer) rest
      | .operation _ _ :: _ => none
    else if c == '&' && rest.head? == some '&' then operation .intersection
    else if c == '-' && rest.head? == some '-' then operation .difference
    else if c == '~' && rest.head? == some '~' then operation .symmetricDifference
    else
      match readSetRange o (c :: rest) with
      | none => none
      | some (s, after) => onward stack (s :: items) after
termination_by cs.length

/-- A set in brackets, standing at its opening bracket. -/
def readBracket (o : Options) (cs : List Char) : Option (CharSet × List Char) :=
  match advance o cs with
  | [] => none
  | d :: inside =>
    let negated := d == '^'
    if negated && !o.unicode then none
    else
      match readSetFront o [] (if negated then advance o (d :: inside) else d :: inside) with
      | none => none
      | some (front, after) => readSet o [.bracket [] negated] front after

/-! ## Groups and options -/

/-- Sets one option by its letter. -/
def Options.set? (o : Options) (on : Bool) : Char → Option Options
  | 'i' => some { o with caseless := on }
  | 'm' => some { o with multiLine := on }
  | 's' => some { o with dotAll := on }
  | 'U' => some { o with swapGreed := on }
  | 'u' => some { o with unicode := on }
  | 'R' => some { o with crlf := on }
  | 'x' => some { o with verbose := on }
  | _ => none

/-- Reads option letters up to `:` or `)`. No letter comes twice, a dash at most once and never
last. -/
def readOptions (o : Options) (seen : List Char) : List Char → Option (Options × Char × List Char)
  | [] => none
  | c :: rest =>
    if c == ':' || c == ')' then
      if seen.head? == some '-' || (c == ')' && seen.isEmpty) then none else some (o, c, rest)
    else if seen.contains c then none
    else if c == '-' then readOptions o (c :: seen) rest
    else
      match o.set? (!seen.contains '-') c with
      | none => none
      | some o => readOptions o (c :: seen) rest

/-- The name of a group, up to `>`. -/
def readGroupName (cs : List Char) : Option (String × List Char) :=
  let name := cs.takeWhile (· != '>')
  let fits : Bool := match name with
    | [] => false
    | c :: rest => (c == '_' || isLetter c)
        && rest.all fun c => ['_', '.', '[', ']'].contains c || isLetter c || isNumber c
  match cs.dropWhile (· != '>') with
  | '>' :: after => if fits then some (String.ofList name, after) else none
  | _ => none

/-- What an opening parenthesis starts. -/
inductive Opening where
  | options (o : Options)
  | group (captures : Bool) (name : Option String) (o : Options)

/-- Reads what follows an opening parenthesis. -/
def readOpening (o : Options) (cs : List Char) : Option (Opening × List Char) :=
  match skip o cs with
  | '?' :: '=' :: _ | '?' :: '!' :: _ | '?' :: '<' :: '=' :: _ | '?' :: '<' :: '!' :: _ => none
  | '?' :: 'P' :: '<' :: rest | '?' :: '<' :: rest =>
    (readGroupName rest).map fun (name, after) => (.group true (some name) o, after)
  | '?' :: rest =>
    match readOptions o [] rest with
    | none => none
    | some (o, ':', after) => some (.group false none o, after)
    | some (o, _, after) => some (.options o, after)
  | rest => some (.group true none o, rest)

/-! ## Patterns -/

/-- An open group: its finished alternatives and the parts of the present one, latest first, and the
options to return to. -/
structure Level where
  captures : Bool
  outerOptions : Options
  branches : List Pattern
  items : List Pattern

namespace Level

/-- Ends the present alternative. -/
def endBranch (l : Level) : Level :=
  { l with branches := .ofItems l.items.reverse :: l.branches, items := [] }

/-- The whole group's pattern. -/
def pattern (l : Level) : Pattern := .ofBranches l.endBranch.branches.reverse

/-- Adds a part. -/
def push (l : Level) (p : Pattern) : Level := { l with items := p :: l.items }

/-- Repeats the latest part; a group's start and a change of options cannot be repeated. -/
def repeatLast (l : Level) (least : Nat) (most : Option Nat) : Option Level :=
  match l.items with
  | [] | .empty :: _ | .setting :: _ => none
  | p :: items => some { l with items := .rep p least most :: items }

end Level

/-- The bounds of a counted repetition, standing after its brace, and what follows its `}`. -/
def readBounds (o : Options) (cs : List Char) : Option (Nat × Option Nat × List Char) :=
  match readCount o (skip o cs) with
  | none => none
  | some (least, rest) =>
    match rest with
    | '\x7d' :: after => some (least, some least, after)
    | ',' :: after =>
      match skip o after with
      | [] => none
      | '\x7d' :: after => some (least, none, after)
      | after =>
        match readCount o after with
        | some (most, '\x7d' :: after) =>
          if least ≤ most then some (least, some most, after) else none
        | _ => none
    | _ => none

/-- The pattern of a primitive under the options. A dot and a high byte could match half a
character outside of character mode. -/
def Primitive.pattern? (o : Options) : Primitive → Option Pattern
  | .char c => some (.char c o.caseless)
  | .highByte => none
  | .set s => some (.set s o.caseless)
  | .look l => some (.look l o.multiLine)
  | .dot => if o.unicode then some (.dot o.dotAll) else none

/-- Reads a pattern with the groups `stack` open around `level`. `names` are the group names so
far. -/
def readPattern (o : Options) (level : Level) (stack : List Level) (names : List String)
    (cs : List Char) : Option Pattern :=
  match skip o cs with
  | [] => if stack.isEmpty then some level.pattern else none
  | c :: rest =>
    let onward (o : Options) (level : Level) (stack : List Level) (names : List String)
        (after : List Char) : Option Pattern :=
      if _h : after.length < cs.length then readPattern o level stack names after else none
    let repeated (least : Nat) (most : Option Nat) (after : List Char) : Option Pattern :=
      match level.repeatLast least most with
      | none => none
      | some level => onward o level stack names (if after.head? == some '?' then after.tail else after)
    let primitive (p : Primitive) (after : List Char) : Option Pattern :=
      match p.pattern? o with
      | none => none
      | some p => onward o (level.push p) stack names after
    match c with
    | '(' =>
      match readOpening o rest with
      | none => none
      | some (.options o, after) => onward o (level.push .setting) stack names after
      | some (.group captures name inner, after) =>
        match name with
        | none => onward inner ⟨captures, o, [], []⟩ (level :: stack) names after
        | some n =>
          if names.contains n then none
          else onward inner ⟨captures, o, [], []⟩ (level :: stack) (n :: names) after
    | ')' =>
      match stack with
      | [] => none
      | parent :: stack =>
        onward level.outerOptions (parent.push (.group level.captures level.pattern)) stack names rest
    | '|' => onward o level.endBranch stack names rest
    | '[' =>
      match readBracket o (c :: rest) with
      | none => none
      | some (s, after) => onward o (level.push (.set s o.caseless)) stack names after
    | '?' => repeated 0 (some 1) rest
    | '*' => repeated 0 none rest
    | '+' => repeated 1 none rest
    | '\x7b' =>
      match readBounds o rest with
      | none => none
      | some (least, most, after) => repeated least most (skip o after)
    | '\\' =>
      match readEscape o rest with
      | none => none
      | some (p, after) => primitive p after
    | '.' => primitive .dot rest
    | '^' => primitive (.look .lineStart) rest
    | '$' => primitive (.look .lineEnd) rest
    | c => primitive (.char c) rest
termination_by cs.length

/-- How deep a pattern may nest. -/
def nestLimit : Nat := 250

/-- Reads a whole pattern. -/
def parse (text : List Char) : Option Pattern :=
  match readPattern {} ⟨true, {}, [], []⟩ [] [] text with
  | some p => if p.depth ≤ nestLimit then some p else none
  | none => none

end ScrapeFleet.Regex
