/-
# ScrapeFleet.Yaml.Style — how a text is written as a scalar

A text is written without quotes if it stays text when read back, and otherwise in the lightest form
that carries it: single quotes, a literal block for several lines, double quotes with escapes for what
nothing else can hold.
-/
import ScrapeFleet.Document.Doc
import ScrapeFleet.Yaml.Token

namespace ScrapeFleet.Yaml

/-! ## What a text contains -/

/-- The characters that start something else than an unquoted scalar. -/
def startsIndicator (c : Char) : Bool :=
  ['#', ',', '[', ']', '\x7b', '\x7d', '&', '*', '!', '|', '>', '\'', '"', '%', '@', '\x60'].contains c

/-- Two neighbours satisfy `p`. -/
def anyAdjacent (p : Char → Char → Bool) : List Char → Bool
  | a :: b :: cs => p a b || anyAdjacent p (b :: cs)
  | _ => false

/-- A colon stands before a blank or at the end. -/
def hasOpenColon : List Char → Bool
  | [] => false
  | c :: cs => (c == ':' && isBlankOrEnd cs.head?) || hasOpenColon cs

/-- The text would not be read as one unquoted scalar. -/
def hasIndicator (cs : List Char) : Bool :=
  ['-', '-', '-'].isPrefixOf cs || ['.', '.', '.'].isPrefixOf cs
    || (match cs with
      | [] => false
      | c :: rest =>
        startsIndicator c || ((c == '?' || c == '-') && isBlankOrEnd rest.head?))
    || hasOpenColon cs
    || anyAdjacent (fun a b => isBlankOrEnd (some a) && b == '#') cs

/-- A character that only double quotes can hold, or a space right before a break. -/
def needsEscapes (cs : List Char) : Bool :=
  cs.any (!isPrintable ·) || anyAdjacent (fun a b => a == ' ' && isBreak b) cs

/-- A space right after a break. -/
def hasBreakSpace (cs : List Char) : Bool := anyAdjacent (fun a b => isBreak a && b == ' ') cs

/-- A space or a break at one of the ends. -/
def hasEdgeSpace (cs : List Char) : Bool :=
  let edge : Option Char → Bool
    | some c => c == ' ' || isBreak c
    | none => false
  edge cs.head? || edge cs.getLast?

/-! ## The choice -/

/-- The forms of a scalar. -/
inductive Style where
  | plain | single | double | literal
deriving DecidableEq, Repr

/-- The text stays text when it is read without quotes. -/
def readsAsText (s : String) : Bool := meaning s == .text && !isZeroLed s.toList

/-- The text can stand without quotes. -/
def plainAllowed (cs : List Char) : Bool :=
  !hasEdgeSpace cs && !hasBreakSpace cs && !needsEscapes cs && !cs.any isBreak && !hasIndicator cs

/-- The text can stand in single quotes. -/
def singleAllowed (cs : List Char) : Bool := !hasBreakSpace cs && !needsEscapes cs

/-- The text can stand in a literal block. -/
def literalAllowed (cs : List Char) : Bool := !needsEscapes cs && cs.getLast? != some ' '

/-- The form of a text. -/
def style (s : String) : Style :=
  let cs := s.toList
  if cs.contains '\n' then if literalAllowed cs then .literal else .double
  else if readsAsText s && plainAllowed cs then .plain
  else if singleAllowed cs then .single
  else .double

/-! ## The text of each form -/

/-- A run of spaces. -/
def spaces (n : Nat) : String := String.ofList (List.replicate n ' ')

/-- Hexadecimal capitals, filled up with zeros. -/
def hexDigits (width n : Nat) : String :=
  let digits := (Nat.toDigits 16 n).map Char.toUpper
  String.ofList (List.replicate (width - digits.length) '0' ++ digits)

/-- A character in double quotes. -/
def escaped (c : Char) : String :=
  match c with
  | '\x00' => "\\0"
  | '\x07' => "\\a"
  | '\x08' => "\\b"
  | '\t' => "\\t"
  | '\n' => "\\n"
  | '\x0b' => "\\v"
  | '\x0c' => "\\f"
  | '\r' => "\\r"
  | '\x1b' => "\\e"
  | '"' => "\\\""
  | '\\' => "\\\\"
  | '\u0085' => "\\N"
  | '\u2028' => "\\L"
  | '\u2029' => "\\P"
  | c =>
    if isPrintable c then c.toString
    else if c.val ≤ 0xff then "\\x" ++ hexDigits 2 c.toNat
    else if c.val ≤ 0xffff then "\\u" ++ hexDigits 4 c.toNat
    else "\\U" ++ hexDigits 8 c.toNat

/-- A text in double quotes. -/
def doubleQuoted (cs : List Char) : String :=
  "\"" ++ String.join (cs.map escaped) ++ "\""

/-- The inside of single quotes. After a break the next line is indented; `broken` at its start. -/
def singleBody (indent : Nat) (broken : Bool) : List Char → String
  | [] => if broken then spaces indent else ""
  | c :: cs =>
    if c == ' ' then " " ++ singleBody indent broken cs
    else if isBreak c then c.toString ++ singleBody indent true cs
    else
      (if broken then spaces indent else "") ++ (if c == '\'' then "''" else c.toString)
        ++ singleBody indent false cs

/-- A text in single quotes. -/
def singleQuoted (indent : Nat) (cs : List Char) : String := "'" ++ singleBody indent false cs ++ "'"

/-- What stands behind the bar of a literal block: the indentation if the text starts with a space or
a break, and whether the block ends without a break or with several. -/
def literalHints (cs : List Char) : String :=
  let indentation := match cs with
    | c :: _ => if c == ' ' || isBreak c then "2" else ""
    | [] => ""
  let chomping := match cs.reverse with
    | [] => "-"
    | [c] => if isBreak c then "+" else "-"
    | c :: d :: _ => if !isBreak c then "-" else if isBreak d then "+" else ""
  indentation ++ chomping

/-- The lines of a literal block; `broken` at the start of a line. -/
def literalBody (indent : Nat) (broken : Bool) : List Char → String
  | [] => ""
  | c :: cs =>
    if isBreak c then c.toString ++ literalBody indent true cs
    else (if broken then spaces indent else "") ++ c.toString ++ literalBody indent false cs

/-- A text as a literal block. -/
def literalBlock (indent : Nat) (cs : List Char) : String :=
  "|" ++ literalHints cs ++ "\n" ++ literalBody indent true cs

/-- A text in a form; further lines are indented as told. -/
def Style.write (indent : Nat) (s : String) : Style → String
  | .plain => s
  | .single => singleQuoted indent s.toList
  | .double => doubleQuoted s.toList
  | .literal => literalBlock indent s.toList

/-- A text as a scalar. -/
def scalarText (indent : Nat) (s : String) : String := (style s).write indent s

end ScrapeFleet.Yaml
