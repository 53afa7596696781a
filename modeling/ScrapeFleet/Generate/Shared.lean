/-
# ScrapeFleet.Generate.Shared — what jobs of every kind have

A job scrapes at an interval and gives up after a timeout, which is never the longer of the two.

Its client gets its credentials one field after the other. A field whose credential has no value is left
out with a warning, and the others are filled in all the same.
-/
import ScrapeFleet.Credential.Lookup
import ScrapeFleet.Generate.Warning
import ScrapeFleet.Job.Basic
import ScrapeFleet.Settings

namespace ScrapeFleet.Generate

/-! ## Intervals -/

/-- An optional text in which empty counts as absent. -/
def filled (o : Option String) : Option String := o.filter (!·.isEmpty)

/-- Reads a duration that may be absent or empty. -/
def optionalDuration (o : Option String) : Except JobError (Option Duration) :=
  match filled o with
  | some s => (Duration.parse s).map some |>.mapError .duration
  | none => .ok none

/-- The interval and the timeout of a job. A timeout that is not set is cut to the interval; one that
is set and longer is an error. -/
def intervals (settings : Settings) (interval timeout : Option String) :
    Except JobError (Duration × Duration) := do
  let interval := (← optionalDuration interval).getD settings.scrapeInterval
  match ← optionalDuration timeout with
  | some t =>
    if interval < t then throw (.timeoutExceedsInterval t interval) else return (interval, t)
  | none =>
    return (interval, if interval < settings.scrapeTimeout then interval else settings.scrapeTimeout)

/-! ## Clients -/

open Credential (Failure Lookup)
open Job (HttpClient)
open Monitor (SecretKey)

/-- A job or the reason why there is none, with what was warned of. -/
abbrev Outcome := Except JobError ScrapeJob × List Warning

/-- The references to credentials that a part of a monitor has. -/
structure AuthRefs where
  basicAuth : Option Monitor.BasicAuth := none
  bearerToken : Option SecretKey := none
  authorization : Option Monitor.Authorization := none
  oauth2 : Option Monitor.OAuth2 := none
  tls : Option Monitor.TlsConfig := none

/-- One field of a client. A field whose credential has no value is left out, with a warning. -/
def authField {ρ α : Type} (job : String) (field : AuthField) (ref : Option ρ)
    (find : ρ → ExceptT Failure Lookup α) : Lookup (Option α × List Warning) :=
  match ref with
  | none => return (none, [])
  | some r => do
    match ← (find r).run with
    | .ok a => return (some a, [])
    | .error f => return (none, [.dropped job field f])

/-- The client of a job. An authorization header that has a value wins over a bearer token. -/
def httpClient (job ns : String) (refs : AuthRefs) : Lookup (HttpClient × List Warning) := do
  let (basicAuth, w1) ← authField job .basicAuth refs.basicAuth (Credential.basicAuth ns)
  let (bearer, w2) ← authField job .bearerToken refs.bearerToken (Credential.bearerToken ns)
  let (header, w3) ← authField job .authorization refs.authorization (Credential.authorization ns)
  let (oauth2, w4) ← authField job .oauth2 refs.oauth2 (Credential.oauth2 ns)
  let (tlsConfig, w5) ← authField job .tlsConfig refs.tls (Credential.tlsConfig ns)
  return ({
    basicAuth := basicAuth
    authorization := header.orElse fun _ => bearer
    oauth2 := oauth2
    tlsConfig := tlsConfig }, w1 ++ w2 ++ w3 ++ w4 ++ w5)

end ScrapeFleet.Generate
