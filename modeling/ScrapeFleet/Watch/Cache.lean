/-
# ScrapeFleet.Watch.Cache — a view of the cluster that follows its changes

A cache holds the objects of one kind that a scope admits. It follows a stream of lists and single
changes. A list replaces everything, and the difference is reported as if each object had changed by
itself, so that whoever follows the reports always knows what the cache holds.
-/
import ScrapeFleet.Cluster.Metadata
import ScrapeFleet.Settings

namespace ScrapeFleet.Watch

open Cluster (ObjectKey Identified keyOf)

/-- What a stream says of the objects of one kind. -/
inductive WatchEvent (α : Type) where
  | listBegins
  | listed (a : α)
  | listEnds
  | applied (a : α)
  | deleted (a : α)
deriving DecidableEq, Repr, Inhabited

/-- What changed in a cache. -/
inductive Change (α : Type) where
  | added (a : α)
  | updated (old new : α)
  /-- The object is given as it was when it was deleted, which need not be as it was cached. -/
  | deleted (a : α)
deriving DecidableEq, Repr, Inhabited

/-- The cached objects, and as much of the next list as has come. -/
structure Cache (α : Type) where
  objects : Dict ObjectKey α := .empty
  listing : Option (Dict ObjectKey α) := none
deriving DecidableEq, Repr, Inhabited

namespace Cache

variable {α : Type} [Identified α]

/-- The namespace of an object is watched. -/
def admits (scope : Scope) (a : α) : Bool := scope.admits (Identified.metadata a).namespaceName

/-- What a list changes: its own objects first, then those that it no longer has. -/
def difference (previous listed : Dict ObjectKey α) : List (Change α) :=
  (listed.toList.map fun (key, new) =>
    match previous.get? key with
    | some old => .updated old new
    | none => .added new)
  ++ previous.toList.filterMap fun (key, old) =>
    if listed.contains key then none else some (.deleted old)

/-- Follows the stream by one event. -/
def handle (scope : Scope) (c : Cache α) : WatchEvent α → Cache α × List (Change α)
  | .listBegins => ({ c with listing := some .empty }, [])
  | .listed a =>
    if admits scope a then
      ({ c with listing := some ((c.listing.getD .empty).insert (keyOf a) a) }, [])
    else (c, [])
  | .listEnds =>
    let listed := c.listing.getD .empty
    ({ objects := listed, listing := none }, difference c.objects listed)
  | .applied a =>
    if admits scope a then
      ({ c with objects := c.objects.insert (keyOf a) a },
        match c.objects.get? (keyOf a) with
        | some old => [.updated old a]
        | none => [.added a])
    else (c, [])
  | .deleted a =>
    if c.objects.contains (keyOf a) then
      ({ c with objects := c.objects.erase (keyOf a) }, [.deleted a])
    else (c, [])

/-- Every cached object as a change to itself. -/
def repeated (c : Cache α) : List (Change α) := c.objects.values.map fun a => .updated a a

end Cache

end ScrapeFleet.Watch
