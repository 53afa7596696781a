/-
# ScrapeFleet.Credential.Lookup — work that needs credentials

Work that asks for the values of secret keys, one after the other, and says how it goes on with each
answer. Who answers, from where, and what happens in the meantime is left open: the same work can be
answered from a fixed table, or from a store while the cluster changes. An answer that is a failure names
what was looked for and never what was found.
-/
import ScrapeFleet.Monitor.Reference
import ScrapeFleet.Text.Quoted

namespace ScrapeFleet.Credential

open Monitor (SecretKey KeySource)

/-- Why a reference to a credential has no value. -/
inductive Failure where
  | secretNotFound (ns name : String)
  | keyNotFound (ns name key : String)
  | notText (ns name key : String)
  | fetchFailed (ns name : String)
  | configMap (ns name : String)
  | emptyReference
deriving DecidableEq, Repr, Inhabited

/-- The wording of a failure. -/
def Failure.message : Failure → String
  | .secretNotFound ns name => "secret " ++ ns ++ "/" ++ name ++ " not found"
  | .keyNotFound ns name key => "key " ++ Text.quoted key ++ " missing from secret " ++ ns ++ "/" ++ name
  | .notText ns name key =>
    "key " ++ Text.quoted key ++ " in secret " ++ ns ++ "/" ++ name ++ " is not valid UTF-8"
  | .fetchFailed ns name => "fetching secret " ++ ns ++ "/" ++ name
  | .configMap ns name => "reference to configmap " ++ ns ++ "/" ++ name ++ " cannot be resolved"
  | .emptyReference => "empty secret or configmap reference"

/-- An answer to a question for a credential. -/
abbrev Answer := Except Failure String

/-- Work that may ask for credentials before it is done. -/
inductive Lookup (α : Type) where
  | done (a : α)
  | ask (ns : String) (ref : SecretKey) (next : Answer → Lookup α)

namespace Lookup

variable {α β : Type}

/-- Goes on with what a piece of work yields. -/
def bind : Lookup α → (α → Lookup β) → Lookup β
  | done a, f => f a
  | ask ns ref next, f => ask ns ref fun r => (next r).bind f

instance : Monad Lookup where
  pure := done
  bind := bind

/-- Asks for one credential. -/
def value (ns : String) (ref : SecretKey) : ExceptT Failure Lookup String := ask ns ref done

/-- The result if every question gets the answer that a table has for it. -/
def answered (table : String → SecretKey → Answer) : Lookup α → α
  | done a => a
  | ask ns ref next => (next (table ns ref)).answered table

end Lookup

/-! ## Credentials of each form

The first part that has no value decides the failure. -/

section Forms

open Lookup (value)

variable (ns : String)

/-- The value of a reference that may be absent. -/
def optionalValue : Option SecretKey → ExceptT Failure Lookup (Option String)
  | some ref => some <$> value ns ref
  | none => pure none

/-- The value of a key of a secret. Keys of config maps have none. -/
def sourceValue (source : KeySource) : ExceptT Failure Lookup String :=
  match source.secret, source.configMap with
  | some ref, _ => value ns ref
  | none, some ref => throw (.configMap ns ref.name)
  | none, none => throw .emptyReference

/-- The value of a source that may be absent. -/
def optionalSource : Option KeySource → ExceptT Failure Lookup (Option String)
  | some source => some <$> sourceValue ns source
  | none => pure none

/-- A user name and a password. An absent user name is empty. -/
def basicAuth (a : Monitor.BasicAuth) : ExceptT Failure Lookup Job.BasicAuth := do
  let username ← optionalValue ns a.username
  let password ← optionalValue ns a.password
  return { username := username.getD "", password := password }

/-- A bearer token. -/
def bearerToken (ref : SecretKey) : ExceptT Failure Lookup Job.Authorization := do
  return .bearer (← value ns ref)

/-- An authorization header; one without a type is a bearer token. -/
def authorization (a : Monitor.Authorization) : ExceptT Failure Lookup Job.Authorization := do
  let credentials ← optionalValue ns a.credentials
  return { type := some (a.type.getD "Bearer"), credentials := credentials }

/-- TLS settings with their material. -/
def tlsConfig (t : Monitor.TlsConfig) : ExceptT Failure Lookup Job.TlsConfig := do
  let ca ← optionalSource ns t.ca
  let cert ← optionalSource ns t.cert
  let key ← optionalValue ns t.keySecret
  return {
    ca := ca
    cert := cert
    key := key
    serverName := t.serverName
    insecureSkipVerify := t.insecureSkipVerify }

/-- A client of an authorization server. -/
def oauth2 (a : Monitor.OAuth2) : ExceptT Failure Lookup Job.OAuth2 := do
  let clientId ← sourceValue ns a.clientId
  let clientSecret ← value ns a.clientSecret
  return {
    clientId := clientId
    clientSecret := some clientSecret
    tokenUrl := a.tokenUrl
    scopes := a.scopes
    endpointParams := a.endpointParams }

end Forms

end ScrapeFleet.Credential
