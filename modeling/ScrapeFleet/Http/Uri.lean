/-
# ScrapeFleet.Http.Uri — the targets of requests

What a request may name: `*`, a path, a host, or a scheme with a host and a path. A path may carry a
query; a fragment is dropped. Characters are checked and otherwise kept as they are written.
-/

namespace ScrapeFleet.Http

/-- Why a text is no target. -/
inductive UriError where
  | tooLong | empty | invalidCharacter | invalidFormat | invalidAuthority | schemeTooLong
deriving DecidableEq, Repr

/-- The wording of an error. -/
def UriError.message : UriError → String
  | .tooLong => "uri too long"
  | .empty => "empty string"
  | .invalidCharacter => "invalid uri character"
  | .invalidFormat => "invalid format"
  | .invalidAuthority => "invalid authority"
  | .schemeTooLong => "scheme too long"

/-- The target of a request. -/
structure Uri where
  scheme : Option String := none
  authority : String := ""
  /-- The path as it is written; it may be empty. -/
  rawPath : String := ""
  query : Option String := none
deriving DecidableEq, Repr, Inhabited

namespace Uri

/-- A character of a host, of user information or of a port. -/
def isAuthorityChar (c : Char) : Bool :=
  c.isAlphanum || "!$&'()*+,;=-._~:[]@".toList.contains c

/-- A character that a path may carry. Quotes and braces are let through as they come. -/
def isPathChar (c : Char) : Bool :=
  let n := c.toNat
  n == 0x21 || n == 0x22 || 0x24 ≤ n && n ≤ 0x3b || n == 0x3d || 0x40 ≤ n && n ≤ 0x5f
    || 0x61 ≤ n && n ≤ 0x7e || 0x7f ≤ n

/-- A character that a query may carry. -/
def isQueryChar (c : Char) : Bool :=
  let n := c.toNat
  n == 0x21 || 0x24 ≤ n && n ≤ 0x3b || n == 0x3d || 0x3f ≤ n

/-- Reads a path and a query. -/
def readPath (cs : List Char) : Except UriError (String × Option String) :=
  let path := cs.takeWhile fun c => c != '?' && c != '#'
  let rest := cs.dropWhile fun c => c != '?' && c != '#'
  if !path.all isPathChar then .error .invalidCharacter
  else
    match rest with
    | '?' :: query =>
      let query := query.takeWhile (· != '#')
      if query.all isQueryChar then .ok (String.ofList path, some (String.ofList query))
      else .error .invalidCharacter
    | _ => .ok (String.ofList path, none)

/-! ## Hosts -/

/-- What has been seen of an authority. -/
structure AuthorityScan where
  colons : Nat := 0
  opened : Bool := false
  closed : Bool := false
  percent : Bool := false
  /-- The last character was an `@`. -/
  atEnd : Bool := false

/-- Scans one character of an authority. -/
def AuthorityScan.step (s : AuthorityScan) (c : Char) : Except UriError AuthorityScan :=
  let s := { s with atEnd := false }
  match c with
  | ':' => if 8 ≤ s.colons then .error .invalidAuthority else .ok { s with colons := s.colons + 1 }
  | '[' => if s.percent || s.opened then .error .invalidAuthority else .ok { s with opened := true }
  | ']' =>
    if !s.opened || s.closed then .error .invalidAuthority
    else .ok { s with closed := true, colons := 0, percent := false }
  | '@' => .ok { s with colons := 0, percent := false, atEnd := true }
  | '%' => .ok { s with percent := true }
  | c => if isAuthorityChar c then .ok s else .error .invalidCharacter

/-- Checks an authority and splits what follows it off. -/
def splitAuthority (cs : List Char) : Except UriError (List Char × List Char) := do
  let ends (c : Char) : Bool := c == '/' || c == '?' || c == '#'
  let authority := cs.takeWhile (!ends ·)
  let s ← authority.foldlM AuthorityScan.step {}
  if s.opened != s.closed || 1 < s.colons || s.atEnd || s.percent then .error .invalidAuthority
  else .ok (authority, cs.dropWhile (!ends ·))

/-! ## Schemes -/

/-- A character of a scheme. -/
def isSchemeChar (c : Char) : Bool := c.isAlphanum || c == '+' || c == '-' || c == '.'

/-- Splits a scheme off, where there is one. -/
def splitScheme (cs : List Char) : Except UriError (Option (List Char) × List Char) :=
  match cs.span isSchemeChar with
  | (scheme, ':' :: '/' :: '/' :: rest) =>
    let lower := scheme.map Char.toLower
    if lower == "http".toList || lower == "https".toList then .ok (some lower, rest)
    else if 64 < scheme.length then .error .schemeTooLong
    else .ok (some scheme, rest)
  | _ => .ok (none, cs)

/-- Reads a target. -/
def parse (s : String) : Except UriError Uri := do
  if 65534 < s.utf8ByteSize then throw .tooLong
  match s.toList with
  | [] => throw .empty
  | ['*'] => return { rawPath := "*" }
  | '/' :: cs =>
    let (path, query) ← readPath ('/' :: cs)
    return { rawPath := path, query := query }
  | cs =>
    let (scheme, cs) ← splitScheme cs
    let (authority, rest) ← splitAuthority cs
    match scheme with
    | none =>
      if !rest.isEmpty then throw (if 1 < s.length then .invalidFormat else .invalidCharacter)
      return { authority := String.ofList authority }
    | some scheme =>
      if authority.isEmpty then throw .invalidFormat
      let (path, query) ← readPath rest
      return {
        scheme := some (String.ofList scheme)
        authority := String.ofList authority
        rawPath := path
        query := query }

/-- The path: an empty one of a target with a scheme or a query is `/`. -/
def path (u : Uri) : String :=
  if u.rawPath.isEmpty && (u.scheme.isSome || u.query.isSome) then "/" else u.rawPath

/-- A target as it is written. -/
def text (u : Uri) : String :=
  (u.scheme.map (· ++ "://")).getD "" ++ u.authority ++ u.path
    ++ (u.query.map ("?" ++ ·)).getD ""

end Uri

/-- A method: a word of the characters that tokens are made of. -/
def isMethod (s : String) : Bool :=
  !s.isEmpty && s.toList.all fun c => c.isAlphanum || "!#$%&'*+-.^_\x60|~".toList.contains c

end ScrapeFleet.Http
