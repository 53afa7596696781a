/-
# ScrapeFleet.Url.Host — hosts

A host is a domain name or an address. A domain name that ends in a number has to be an address.

A text may be no address of a web server for many reasons, most of them in its host. An address that is sound
but leads elsewhere than to a web server is refused too.
-/
import ScrapeFleet.Text.Percent
import ScrapeFleet.Text.Quoted
import ScrapeFleet.Url.Domain

namespace ScrapeFleet

/-- Why a text is no address of a web server. -/
inductive UrlFailure where
  | relative
  | emptyHost
  | invalidDomain
  | invalidHostCharacter
  | invalidPort
  | invalidIpv4
  | invalidIpv6
  | unsupportedScheme (scheme : String)
deriving DecidableEq, Repr, Inhabited

/-- The wording of a failure. -/
def UrlFailure.message : UrlFailure → String
  | .relative => "relative URL without a base"
  | .emptyHost => "empty host"
  | .invalidDomain => "invalid international domain name"
  | .invalidHostCharacter => "invalid domain character"
  | .invalidPort => "invalid port number"
  | .invalidIpv4 => "invalid IPv4 address"
  | .invalidIpv6 => "invalid IPv6 address"
  | .unsupportedScheme scheme => "unsupported scheme " ++ Text.quoted scheme

namespace Url

/-- A host. -/
inductive Host where
  | domain (name : String)
  | ipv4 (n : Nat)
  | ipv6 (groups : List Nat)
deriving DecidableEq, Repr, Inhabited

namespace Host

/-- A host as it is written. -/
def text : Host → String
  | .domain name => name
  | .ipv4 n => ipv4Text n
  | .ipv6 groups => "[" ++ ipv6Text groups ++ "]"

/-- Reads a host between brackets. -/
def bracketed (cs : List Char) : Except UrlFailure Host :=
  match cs.getLast? with
  | some ']' =>
    match ipv6? cs.dropLast with
    | some groups => .ok (.ipv6 groups)
    | none => .error .invalidIpv6
  | _ => .error .invalidIpv6

/-- Reads the host of an address that follows the common scheme. -/
def parse : List Char → Except UrlFailure Host
  | '[' :: cs => bracketed cs
  | cs =>
    match domainToAscii? (Text.Percent.decode cs) with
    | none => .error .invalidDomain
    | some name =>
      if name.isEmpty then .error .emptyHost
      else if endsInNumber name.toList then
        match ipv4? name.toList with
        | some n => .ok (.ipv4 n)
        | none => .error .invalidIpv4
      else .ok (.domain name)

/-- Checks the host of an address that has a scheme of its own. -/
def checkOpaque : List Char → Except UrlFailure Unit
  | '[' :: cs => (bracketed cs).map fun _ => ()
  | cs =>
    if cs.any ("\x00\t\n\r #/:<>?@[\\]^|".toList.contains ·) then .error .invalidHostCharacter
    else .ok ()

end Host

end Url

end ScrapeFleet
