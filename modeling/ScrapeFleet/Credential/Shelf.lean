/-
# ScrapeFleet.Credential.Shelf — where secrets come from

A fetch of a secret from a cluster may fail, find nothing or bring the secret. A shelf is a source of secrets
that needs no cluster: secrets are put on it and fetched from it, and no fetch fails.
-/
import ScrapeFleet.Credential.Store

namespace ScrapeFleet.Credential

open Cluster (ObjectKey Secret)

/-- What a fetch brings. -/
inductive Fetched where
  | unavailable
  | absent
  | present (secret : Secret)
deriving DecidableEq, Repr, Inhabited

/-- The value that a fetch brings for a key. -/
def Fetched.value (f : Fetched) (key : ValueKey) : Answer :=
  match f with
  | .unavailable => .error (.fetchFailed key.1.1 key.1.2)
  | .absent => .error (.secretNotFound key.1.1 key.1.2)
  | .present secret => valueOf secret key

/-- Secrets by namespace and name. -/
abbrev Shelf := Dict ObjectKey Secret

namespace Shelf

/-- Puts a secret on the shelf, in place of the one with its name. -/
def put (s : Shelf) (secret : Secret) : Shelf :=
  s.insert (secret.metadata.namespaceText, secret.metadata.name.getD "") secret

/-- What a fetch from the shelf brings. -/
def fetch (s : Shelf) (id : ObjectKey) : Fetched :=
  match s.get? id with
  | some secret => .present secret
  | none => .absent

end Shelf

end ScrapeFleet.Credential
