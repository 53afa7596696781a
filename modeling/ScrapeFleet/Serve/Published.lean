/-
# ScrapeFleet.Serve.Published — what the allocator serves, and where

The allocator serves the document of the jobs that it loaded last, and says whether it has loaded any.

An address to listen at is a number and a port: names are not looked up. A version 6 address stands
between brackets and may name its zone by number.
-/
import ScrapeFleet.Http.Uri
import ScrapeFleet.Job.Digest
import ScrapeFleet.Url.Address

namespace ScrapeFleet.Serve

/-- A loaded configuration: its document, and how many jobs it lists. -/
structure Snapshot where
  jobs : Nat
  body : String
deriving DecidableEq, Repr, Inhabited

/-- What is served: nothing before the first configuration is loaded. -/
structure Published where
  snapshot : Option Snapshot := none
deriving DecidableEq, Repr, Inhabited

namespace Published

/-- The document that is served. -/
def body? (p : Published) : Option String := p.snapshot.map (·.body)

/-- How many jobs the configuration lists. -/
def jobCount (p : Published) : Nat := (p.snapshot.map (·.jobs)).getD 0

/-- A configuration was loaded. -/
def isLoaded (p : Published) : Bool := p.snapshot.isSome

/-- Serves another configuration, and says whether its document is another one. -/
def update (p : Published) (c : ScrapeConfig) : Published × Bool :=
  let body := jobDocument c.jobMap
  (⟨some { jobs := c.jobs.length, body := body }⟩, p.body? != some body)

end Published

/-! ## Requests -/

/-- An answer to a request. -/
structure Response where
  status : Nat
  contentType : Option String := none
  body : String := ""
deriving DecidableEq, Repr, Inhabited

/-- What can be asked for. -/
inductive Route where
  | scrapeConfigs | livez | readyz
deriving DecidableEq, Repr

/-- The route at a path, which is written in one way only. -/
def Route.ofPath? : String → Option Route
  | "/scrape_configs" => some .scrapeConfigs
  | "/livez" => some .livez
  | "/readyz" => some .readyz
  | _ => none

/-- The answer at a route. -/
def Route.get (p : Published) : Route → Response
  | .scrapeConfigs =>
    match p.body? with
    | some body => { status := 200, contentType := some "application/yaml", body := body }
    | none =>
      { status := 503, contentType := some "text/plain; charset=utf-8"
        body := "scrape configuration not loaded yet" }
  | .livez => { status := 200 }
  | .readyz => { status := if p.isLoaded then 200 else 503 }

/-- The answer to a request. Everything can only be read. -/
def respond (p : Published) (method : String) (target : Http.Uri) : Response :=
  match Route.ofPath? target.path with
  | none => { status := 404 }
  | some route =>
    match method with
    | "GET" => route.get p
    | "HEAD" => { route.get p with body := "" }
    | _ => { status := 405 }

/-! ## Addresses to listen at -/

open Text (digits?)

/-- A number in decimal of the given width. -/
def isDecimal (bits : Nat) (cs : List Char) : Bool :=
  match digits? 10 cs with
  | some n => n < Nat.pow 2 bits
  | none => false

/-- A port behind its colon. -/
def isPort : List Char → Bool
  | ':' :: ds => isDecimal 16 ds
  | _ => false

/-- A version 6 address with or without a zone. -/
def isZoned (cs : List Char) : Bool :=
  let address := cs.takeWhile (· != '%')
  let zone := cs.dropWhile (· != '%')
  (Url.ipv6? address).isSome && (zone.isEmpty || isDecimal 32 zone.tail)

/-- An address with a port. -/
def isListenAddress (s : String) : Bool :=
  match s.toList with
  | '[' :: cs =>
    let rest := cs.dropWhile (· != ']')
    !rest.isEmpty && isZoned (cs.takeWhile (· != ']')) && isPort rest.tail
  | cs => (Url.embedded? (cs.takeWhile (· != ':'))).isSome && isPort (cs.dropWhile (· != ':'))

end ScrapeFleet.Serve
