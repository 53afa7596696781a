/-
# ScrapeFleet.Toml.Reader — reading a document

A document is a list of lines: headings, and keys with values. What lies between two headings is one
section; the sections are added to the document in their order. Lists and tables may be written inside
of a value, nested to a limit.
-/
import ScrapeFleet.Toml.Number
import ScrapeFleet.Toml.Table
import ScrapeFleet.Toml.Text

namespace ScrapeFleet.Toml

/-- Reads something from the front of a text. -/
abbrev Reader (α : Type) := StateT (List Char) Option α

/-- How many parts a key may have, and how deep values may be nested. -/
def nestingLimit : Nat := 79

/-! ## Blanks, comments and lines -/

/-- Passes over a character. -/
def expect (c : Char) : Reader Unit := do
  match ← get with
  | x :: rest => if x == c then set rest else failure
  | [] => failure

/-- Passes over a character if it is there. -/
def accept (c : Char) : Reader Bool := do
  match ← get with
  | x :: rest => if x == c then do set rest; return true else return false
  | [] => return false

/-- Passes over spaces and tabs. -/
def blanks : Reader Unit := modify (·.dropWhile isBlank)

/-- Passes over blanks, comments and line ends; `inComment` after a `#`. -/
def dropFiller (inComment : Bool) : List Char → List Char
  | [] => []
  | '\r' :: '\n' :: rest => dropFiller false rest
  | c :: rest =>
    if c == '\n' then dropFiller false rest
    else if inComment then if isPlain c then dropFiller true rest else c :: rest
    else if isBlank c then dropFiller false rest
    else if c == '#' then dropFiller true rest
    else c :: rest

/-- Passes over what may stand between the parts of a list or between lines. -/
def filler : Reader Unit := modify (dropFiller false)

/-- The end of a line, with a comment before it. -/
def lineEnd : Reader Unit := do
  blanks
  if ← accept '#' then modify (·.dropWhile isPlain)
  match ← get with
  | [] => return
  | '\n' :: rest | '\r' :: '\n' :: rest => set rest
  | _ => failure

/-! ## Keys -/

/-- A key: the names of the tables on the way, and a name. -/
structure Key where
  path : List String
  name : String

/-- A character of a key without quotes. -/
def isKeyChar (c : Char) : Bool := c.isAlphanum || c == '_' || c == '-'

/-- One name, quoted or not, with blanks around it. -/
def name : Reader String := do
  blanks
  let cs ← get
  let (s, rest) ← match cs with
    | '"' :: _ | '\'' :: _ => text?.quoted? cs
    | cs =>
      let run := cs.takeWhile isKeyChar
      if run.isEmpty then none else some (String.ofList run, cs.dropWhile isKeyChar)
  set rest
  blanks
  return s

/-- The names of a key after the first, `n` at most. -/
def moreNames : Nat → Reader (List String)
  | 0 => return []
  | n + 1 => do
    if ← accept '.' then
      let s ← name
      return s :: (← moreNames n)
    else return []

/-- A key. -/
def key : Reader Key := do
  let first ← name
  let names := first :: (← moreNames nestingLimit)
  if nestingLimit < names.length then failure
  return { path := names.dropLast, name := names.getLastD "" }

/-! ## Values -/

/-- What a comma, or nothing more, follows. The reader `item` always takes a character, so `n` rounds
are enough for a text of that length. -/
def separated {α : Type} (item : Reader α) : Nat → Reader (List α)
  | 0 => return []
  | n + 1 => do
    let a ← item
    if ← accept ',' then return a :: (← separated item n) else return [a]

/-- The items of a list; the last may be followed by a comma. -/
def listItems (value : Reader Doc) : Nat → Reader (List Doc)
  | 0 => failure
  | n + 1 => do
    filler
    if ← accept ']' then return []
    let d ← value
    filler
    if ← accept ',' then return d :: (← listItems value n)
    expect ']'
    return [d]

/-- A key and its value. -/
def pair (value : Reader Doc) : Reader (Key × Doc) := do
  let k ← key
  expect '='
  blanks
  let d ← value
  blanks
  return (k, d)

/-- The keys and values of a table between braces. -/
def braced (value : Reader Doc) : Reader (List (Key × Doc)) := do
  blanks
  if ← accept '\x7d' then return []
  let ps ← separated (pair value) (← get).length
  expect '\x7d'
  return ps

/-- A table with some keys and values added. -/
def fill (ps : List (Key × Doc)) (t : Table) : Option Table :=
  ps.foldlM (fun t (k, d) => t.put k.path k.name d) t

/-- A value with lists and tables nested `depth` deep at most. -/
def value : Nat → Reader Doc
  | 0 => leaf
  | depth + 1 => do
    if ← accept '[' then return .row (← listItems (value depth) (← get).length)
    if ← accept '\x7b' then
      let ps ← braced (value depth)
      let t ← fill ps (.empty .heading)
      return t.doc
    leaf
where
  /-- A value without parts. -/
  leaf : Reader Doc := fun cs =>
    match cs with
    | '"' :: _ | '\'' :: _ => (text? cs).map fun (s, rest) => (.text s, rest)
    | cs => bare? cs

/-! ## Sections -/

/-- What opens a section. -/
inductive Heading where
  | table (k : Key)
  | element (k : Key)

/-- A line that says something. -/
inductive Line where
  | heading (h : Heading)
  | pair (k : Key) (d : Doc)

/-- A line. -/
def line : Reader Line := do
  let l ← contents
  lineEnd
  return l
where
  /-- What a line says. -/
  contents : Reader Line := do
    if ← accept '[' then
      if ← accept '[' then
        let k ← key
        expect ']'
        expect ']'
        return .heading (.element k)
      let k ← key
      expect ']'
      return .heading (.table k)
    let (k, d) ← pair (value nestingLimit)
    return .pair k d

/-- The lines of a document, of which there are fewer than `n`. -/
def lines : Nat → Reader (List Line)
  | 0 => failure
  | n + 1 => do
    filler
    if (← get).isEmpty then return []
    let l ← line
    return l :: (← lines n)

/-- A document with a section added to it. -/
def addSection (t : Table) (h : Heading) (ps : List (Key × Doc)) : Option Table :=
  match h with
  | .table k => t.openTable k.path k.name (fill ps)
  | .element k => t.openElement k.path k.name (fill ps)

/-- The pairs before the first heading, and each heading with its pairs. -/
def sections : List Line → List (Key × Doc) × List (Heading × List (Key × Doc))
  | [] => ([], [])
  | .pair k d :: ls => ((k, d) :: (sections ls).1, (sections ls).2)
  | .heading h :: ls => ([], (h, (sections ls).1) :: (sections ls).2)

/-- The table of a document. -/
def table? (s : String) : Option Table := do
  let cs := match s.toList with
    | '\ufeff' :: cs => cs
    | cs => cs
  let (ls, _) ← (lines (cs.length + 1)).run cs
  let (top, rest) := sections ls
  let t ← fill top (.empty .heading)
  rest.foldlM (fun t (h, ps) => addSection t h ps) t

/-- Reads a document. -/
def parse (s : String) : Option Doc := (table? s).map Table.doc

end ScrapeFleet.Toml
