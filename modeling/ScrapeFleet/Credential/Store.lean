/-
# ScrapeFleet.Credential.Store — the values that jobs depend on

The store keeps the value of every secret key that a job was given, so that a change of the secret is
noticed. It never keeps a key that nobody asked for. A fetch is registered while it runs; any news of
its secret outdates it, so what an outdated fetch brings is not kept.
-/
import ScrapeFleet.Cluster.Secret
import ScrapeFleet.Credential.Lookup

namespace ScrapeFleet.Credential

open Cluster (ObjectKey Secret)

/-- A key of a secret: the secret, and the key in it. -/
abbrev ValueKey := ObjectKey × String

/-- The fetches of one secret that run: how many there are, and how often there was news. -/
structure Registration where
  generation : Nat := 0
  fetches : Nat := 0
deriving DecidableEq, Repr, Inhabited

/-- The kept values and the running fetches. -/
structure Store where
  values : Dict ValueKey String := .empty
  running : Dict ObjectKey Registration := .empty
deriving DecidableEq, Repr, Inhabited

/-- The value of a key of a secret. -/
def valueOf (secret : Secret) (key : ValueKey) : Except Failure String :=
  match secret.content? key.2 with
  | some (.text s) => .ok s
  | some (.bytes bs) =>
    match String.fromUTF8? ⟨bs.toArray⟩ with
    | some s => .ok s
    | none => .error (.notText key.1.1 key.1.2 key.2)
  | none => .error (.keyNotFound key.1.1 key.1.2 key.2)

namespace Store

/-- The value kept for a key. -/
def get? (s : Store) (key : ValueKey) : Option String := s.values.get? key

/-- How many values are kept. -/
def size (s : Store) : Nat := s.values.size

/-- Some key of the secret is kept. -/
def tracks (s : Store) (id : ObjectKey) : Bool := s.values.keys.any (·.1 == id)

/-! ## Fetches -/

/-- How often there was news of a secret while it was being fetched. -/
def generation (s : Store) (id : ObjectKey) : Nat := ((s.running.get? id).map (·.generation)).getD 0

/-- Registers a fetch. -/
def beginFetch (s : Store) (id : ObjectKey) : Store :=
  let r := (s.running.get? id).getD {}
  { s with running := s.running.insert id { r with fetches := r.fetches + 1 } }

/-- Ends a registered fetch; the last one of a secret takes the registration with it. -/
def endFetch (s : Store) (id : ObjectKey) : Store :=
  match s.running.get? id with
  | none => s
  | some r =>
    if r.fetches ≤ 1 then { s with running := s.running.erase id }
    else { s with running := s.running.insert id { r with fetches := r.fetches - 1 } }

/-- Outdates the running fetches of a secret. -/
def outdate (s : Store) (id : ObjectKey) : Store :=
  match s.running.get? id with
  | none => s
  | some r => { s with running := s.running.insert id { r with generation := r.generation + 1 } }

/-- Keeps a value. -/
def track (s : Store) (key : ValueKey) (value : String) : Store :=
  { s with values := s.values.insert key value }

/-! ## News of secrets -/

/-- What is known of a kept value after news of a secret: a key of another secret keeps its value, a
key of this one gets the new value or is given up. -/
def refreshed (secret : Secret) (id : ObjectKey) (key : ValueKey) (value : String) : Option String :=
  if key.1 == id then (valueOf secret key).toOption else some value

/-- Refreshes the kept values from a new version of a secret, and says whether one of them changed. A
secret without a name or a namespace is none that a job can refer to. -/
def update (s : Store) (secret : Secret) : Store × Bool :=
  match secret.metadata.namespaceName, secret.metadata.name with
  | some ns, some name =>
    let id := (ns, name)
    let values := s.values.filterMap (refreshed secret id)
    ({ s.outdate id with values := values }, values.entries != s.values.entries)
  | _, _ => (s, false)

/-- Gives up all values of a secret, and says whether there were any. -/
def remove (s : Store) (id : ObjectKey) : Store × Bool :=
  let values := s.values.filter fun key _ => !(key.1 == id)
  ({ s.outdate id with values := values }, values.size != s.values.size)

end Store

end ScrapeFleet.Credential
