/-
# ScrapeFleet.Toml.Text — quoted text

Text stands between single or double quotes, three of them if it runs over several lines. Only double
quotes know escapes. A line end inside of text is a line feed, however it is written; other control
characters are refused.
-/
import ScrapeFleet.Text.Digits

namespace ScrapeFleet.Toml

open Text (charOfHex?)

/-- A space or a tab. -/
def isBlank (c : Char) : Bool := c == ' ' || c == '\t'

/-- A character that may stand for itself: anything but a control character. -/
def isPlain (c : Char) : Bool := c == '\t' || ' ' ≤ c && c != '\x7f'

/-- What a single letter after a backslash stands for. -/
def escape? : Char → Option Char
  | 'b' => some '\x08'
  | 't' => some '\t'
  | 'n' => some '\n'
  | 'f' => some '\x0c'
  | 'r' => some '\r'
  | '"' => some '"'
  | '\\' => some '\\'
  | _ => none

/-- The text up to a closing double quote, and what follows it. -/
def escapedLine : List Char → Option (List Char × List Char)
  | [] => none
  | '"' :: rest => some ([], rest)
  | '\\' :: 'u' :: a :: b :: c :: d :: rest => close (charOfHex? [a, b, c, d]) (escapedLine rest)
  | '\\' :: 'U' :: a :: b :: c :: d :: e :: f :: g :: h :: rest =>
    close (charOfHex? [a, b, c, d, e, f, g, h]) (escapedLine rest)
  | '\\' :: e :: rest => close (escape? e) (escapedLine rest)
  | c :: rest => close (if isPlain c && c != '\\' then some c else none) (escapedLine rest)
where
  /-- Puts a character in front of text. -/
  close (c : Option Char) (r : Option (List Char × List Char)) : Option (List Char × List Char) :=
    c.bind fun c => r.map fun (s, rest) => (c :: s, rest)

/-- A line end is at hand. -/
def atLineEnd : List Char → Bool
  | '\n' :: _ | '\r' :: '\n' :: _ => true
  | _ => false

/-- The text up to three double quotes, and what follows them. Up to two more quotes at the end are
text. After a backslash at the end of a line blanks and line ends are passed over: `skipping`. -/
def escapedLines (skipping : Bool) : List Char → Option (List Char × List Char)
  | [] => none
  | '\r' :: '\n' :: rest =>
    if skipping then escapedLines true rest
    else escapedLine.close (some '\n') (escapedLines false rest)
  | '\n' :: rest =>
    if skipping then escapedLines true rest
    else escapedLine.close (some '\n') (escapedLines false rest)
  | '"' :: '"' :: '"' :: '"' :: '"' :: rest => some (['"', '"'], rest)
  | '"' :: '"' :: '"' :: '"' :: rest => some (['"'], rest)
  | '"' :: '"' :: '"' :: rest => some ([], rest)
  | '\\' :: 'u' :: a :: b :: c :: d :: rest =>
    escapedLine.close (charOfHex? [a, b, c, d]) (escapedLines false rest)
  | '\\' :: 'U' :: a :: b :: c :: d :: e :: f :: g :: h :: rest =>
    escapedLine.close (charOfHex? [a, b, c, d, e, f, g, h]) (escapedLines false rest)
  | '\\' :: e :: rest =>
    if atLineEnd ((e :: rest).dropWhile isBlank) then escapedLines true (e :: rest)
    else escapedLine.close (escape? e) (escapedLines false rest)
  | c :: rest =>
    if skipping && isBlank c then escapedLines true rest
    else
      escapedLine.close (if isPlain c && c != '\\' then some c else none) (escapedLines false rest)

/-- The text up to a closing single quote, and what follows it. -/
def literalLine : List Char → Option (List Char × List Char)
  | [] => none
  | '\'' :: rest => some ([], rest)
  | c :: rest => escapedLine.close (if isPlain c then some c else none) (literalLine rest)

/-- The text up to three single quotes, and what follows them. -/
def literalLines : List Char → Option (List Char × List Char)
  | [] => none
  | '\r' :: '\n' :: rest => escapedLine.close (some '\n') (literalLines rest)
  | '\'' :: '\'' :: '\'' :: '\'' :: '\'' :: rest => some (['\'', '\''], rest)
  | '\'' :: '\'' :: '\'' :: '\'' :: rest => some (['\''], rest)
  | '\'' :: '\'' :: '\'' :: rest => some ([], rest)
  | c :: rest =>
    escapedLine.close (if c == '\n' || isPlain c then some c else none) (literalLines rest)

/-- Passes over a line end right after the opening quotes. -/
def dropLineEnd : List Char → List Char
  | '\r' :: '\n' :: rest => rest
  | '\n' :: rest => rest
  | cs => cs

/-- Quoted text of any kind. -/
def text? : List Char → Option (String × List Char)
  | '"' :: '"' :: '"' :: rest => finish (escapedLines false (dropLineEnd rest))
  | '\'' :: '\'' :: '\'' :: rest => finish (literalLines (dropLineEnd rest))
  | cs => quoted? cs
where
  /-- The text of the characters read. -/
  finish (r : Option (List Char × List Char)) : Option (String × List Char) :=
    r.map fun (s, rest) => (String.ofList s, rest)
  /-- Quoted text of a single line. -/
  quoted? : List Char → Option (String × List Char)
    | '"' :: rest => finish (escapedLine rest)
    | '\'' :: rest => finish (literalLine rest)
    | _ => none

end ScrapeFleet.Toml
