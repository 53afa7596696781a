/-
# ScrapeFleet.Url.Basic — addresses of web servers

An address is read as people write it: blanks around it and line ends in it do not count, backslashes
are slashes, and the number of slashes before the host does not matter. The result has one written
form. An address with another scheme is checked as far as its host, and then refused.

A path is a list of segments. A segment of one point is left out, and one of two points takes back the
segment before it; points may be written as `%2e`. A segment that looks like the letter of a drive is
never taken back. What may not stand for itself is escaped.
-/
import ScrapeFleet.Url.Host

namespace ScrapeFleet

open Url (Host)

/-- The address of a web server. -/
structure Url where
  /-- What is before the host, with the `@` after it. -/
  userInfo : String := ""
  host : Host
  port : Option Nat := none
  path : String := "/"
  query : Option String := none
  fragment : Option String := none
deriving DecidableEq, Repr, Inhabited

namespace Url

/-- An address as it is written. -/
def text (u : Url) : String :=
  "http://" ++ u.userInfo ++ u.host.text ++ ((u.port.map fun p => ":" ++ toString p).getD "") ++ u.path
    ++ (u.query.map ("?" ++ ·)).getD "" ++ (u.fragment.map ("#" ++ ·)).getD ""

/-! ## Paths without detours -/

/-- A character that is escaped in a path. -/
def escapedInPath (c : Char) : Bool := " \"<>\x60#?\x7b\x7d".toList.contains c

/-- A segment with its points written out. -/
def plainDots : List Char → List Char
  | '%' :: '2' :: 'e' :: cs => '.' :: plainDots cs
  | '%' :: '2' :: 'E' :: cs => '.' :: plainDots cs
  | c :: cs => c :: plainDots cs
  | [] => []

/-- The letter of a drive. -/
def isDrive : List Char → Bool
  | [c, d] => c.isAlpha && (d == ':' || d == '|')
  | _ => false

/-- The segments that are left, the last first, after `done` has been passed. -/
def walk (done : List (List Char)) : List (List Char) → List (List Char)
  | [] => done
  | s :: rest =>
    let dots := plainDots s
    let last := rest.isEmpty
    if dots == ['.', '.'] then
      let done := match done with
        | d :: before => if isDrive d then done else before
        | [] => []
      walk (if last then [] :: done else done) rest
    else if dots == ['.'] then walk (if last then [] :: done else done) rest
    else walk (s :: done) rest

/-- The path that segments make. -/
def pathText (segments : List (List Char)) : String :=
  "/" ++ "/".intercalate (segments.map String.ofList)

/-- The path of some segments as they were given. -/
def normalizedPath (segments : List (List Char)) : String :=
  pathText (walk [] (segments.map (Text.Percent.encode escapedInPath))).reverse

/-! ## Schemes -/

/-- How the rest of an address is read. -/
inductive Form where
  /-- The common form: slashes, a host, a path. -/
  | common
  | file
  /-- Any other; only after two slashes there is a host. -/
  | opaqueForm
deriving DecidableEq, Repr

/-- The form that a scheme asks for. -/
def formOf (scheme : String) : Form :=
  if ["http", "https", "ws", "wss", "ftp"].contains scheme then .common
  else if scheme == "file" then .file
  else .opaqueForm

/-- A scheme in lower case, and what follows its colon. -/
def splitScheme? (cs : List Char) : Option (String × List Char) :=
  match cs.span fun c => c.isAlphanum || c == '+' || c == '-' || c == '.' with
  | (c :: scheme, ':' :: rest) =>
    if c.isAlpha then some (String.ofList ((c :: scheme).map Char.toLower), rest) else none
  | _ => none

/-! ## Before the path -/

/-- A slash, or what counts as one. -/
def isSlash (common : Bool) (c : Char) : Bool := c == '/' || common && c == '\\'

/-- A character that ends what is before the path. -/
def endsAuthority (common : Bool) (c : Char) : Bool := isSlash common c || c == '?' || c == '#'

/-- A character that is escaped in user information. -/
def escapedInUserInfo (c : Char) : Bool := escapedInPath c || "/:;=@[\\]^|".toList.contains c

/-- User information in its written form. -/
def userInfoText (cs : List Char) : String :=
  let escape := Text.Percent.encode escapedInUserInfo
  let name := cs.takeWhile (· != ':')
  let password := (cs.dropWhile (· != ':')).tail
  let secret := if password.isEmpty then [] else ':' :: escape password
  let body := escape name ++ secret
  if body.isEmpty then "" else String.ofList (body ++ ['@'])

/-- User information, if there is any, and what follows it. The last `@` ends it. -/
def splitUserInfo (common : Bool) (cs : List Char) : Except UrlFailure (String × List Char) :=
  let front := cs.takeWhile (!endsAuthority common ·)
  let rest := cs.dropWhile (!endsAuthority common ·)
  if !front.contains '@' then .ok ("", cs)
  else
    let host := (front.reverse.takeWhile (· != '@')).reverse
    let info := front.take (front.length - host.length - 1)
    if info.isEmpty && host.isEmpty && !rest.isEmpty then .error .emptyHost
    else .ok (userInfoText info, host ++ rest)

/-- The characters of a host, and what follows them. A colon ends a host, but not between brackets. -/
def splitHost (common inBrackets : Bool) : List Char → List Char × List Char
  | [] => ([], [])
  | c :: cs =>
    if c == ':' && !inBrackets || endsAuthority common c then ([], c :: cs)
    else
      let inBrackets := if c == '[' then true else if c == ']' then false else inBrackets
      let (host, rest) := splitHost common inBrackets cs
      (c :: host, rest)

/-- A port, and what follows it. Nothing is no port. -/
def splitPort (cs : List Char) : Except UrlFailure (Option Nat × List Char) :=
  match cs with
  | ':' :: cs =>
    let ds := cs.takeWhile Char.isDigit
    let rest := cs.dropWhile Char.isDigit
    let n := ds.foldl (fun n c => 10 * n + (c.toNat - 48)) 0
    if 65535 < n || !(rest.head?.all (endsAuthority true)) then .error .invalidPort
    else .ok (if ds.isEmpty then none else some n, rest)
  | cs => .ok (none, cs)

/-! ## The path and what follows it -/

/-- Segments between slashes, of which a backslash is one too. -/
def segments (cs : List Char) : List (List Char) :=
  splitAt '/' (cs.map fun c => if c == '\\' then '/' else c)

/-- A character that is escaped in a query. -/
def escapedInQuery (c : Char) : Bool := " \"#<>'".toList.contains c

/-- A character that is escaped in a fragment. -/
def escapedInFragment (c : Char) : Bool := " \"<>\x60".toList.contains c

/-- Reads what follows the slashes of an address in the common form. -/
def parseCommon (cs : List Char) : Except UrlFailure Url := do
  let (userInfo, cs) ← splitUserInfo true cs
  let (hostText, cs) := splitHost true false cs
  if hostText.isEmpty then throw .emptyHost
  let host ← Host.parse hostText
  let (port, cs) ← splitPort cs
  let path := cs.takeWhile fun c => c != '?' && c != '#'
  let path := match path with
    | c :: rest => if isSlash true c then rest else path
    | [] => []
  let (before, fragment) := cs.span (· != '#')
  let query := before.dropWhile (· != '?')
  let part (escaped : Char → Bool) (cs : List Char) : Option String :=
    cs.tail?.map fun cs => String.ofList (Text.Percent.encode escaped cs)
  return {
    userInfo := userInfo
    host := host
    port := port.filter (· != 80)
    path := normalizedPath (segments path)
    query := part escapedInQuery query
    fragment := part escapedInFragment fragment }

/-! ## Addresses of other kinds -/

/-- Checks an address that leads to a file: its host, if it has one, is sound. -/
def checkFile (cs : List Char) : Except UrlFailure Unit :=
  match cs with
  | c :: d :: rest =>
    if isSlash true c && isSlash true d then
      let host := rest.takeWhile (!endsAuthority true ·)
      if host.isEmpty || isDrive host then .ok () else (Host.parse host).map fun _ => ()
    else .ok ()
  | _ => .ok ()

/-- Checks an address with a scheme of its own. -/
def checkOpaque (cs : List Char) : Except UrlFailure Unit := do
  match cs with
  | '/' :: '/' :: rest =>
    let (userInfo, rest) ← splitUserInfo false rest
    let (host, rest) := splitHost false false rest
    Host.checkOpaque host
    if host.isEmpty && (rest.head? == some ':' || !userInfo.isEmpty) then throw .emptyHost
    let _ ← splitPort rest
  | _ => return

/-- The address without what does not count. -/
def trimmed (s : String) : List Char :=
  let blank (c : Char) : Bool := c.val ≤ 0x20
  let cs := ((s.toList.dropWhile blank).reverse.dropWhile blank).reverse
  cs.filter fun c => c != '\t' && c != '\n' && c != '\r'

/-- Reads an address. -/
def parse (s : String) : Except UrlFailure Url :=
  match splitScheme? (trimmed s) with
  | none => .error .relative
  | some (scheme, rest) => do
    match formOf scheme with
    | .common =>
      let u ← parseCommon (rest.dropWhile (isSlash true))
      if scheme == "http" then return u
    | .file => checkFile rest
    | .opaqueForm => checkOpaque rest
    throw (.unsupportedScheme scheme)

end Url

end ScrapeFleet
