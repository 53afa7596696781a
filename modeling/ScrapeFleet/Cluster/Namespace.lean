/-
# ScrapeFleet.Cluster.Namespace — namespaces

Of a namespace its name and its labels matter: monitors are selected by the labels of the namespace
they are in. What else it says is kept to be shown again.
-/
import ScrapeFleet.Cluster.Metadata

namespace ScrapeFleet.Cluster

/-- A namespace. -/
structure Namespace where
  metadata : Metadata := {}
  finalizers : Option (Option (List String)) := none
  phase : Option (Option String) := none
deriving DecidableEq, Repr, Inhabited

namespace Namespace

instance : Identified Namespace := ⟨metadata⟩

/-- Reads a record of which one field counts. -/
def readPart {α : Type} (name : String) (read : Doc → Option α) (d : Doc) : Option (Option α) := do
  (← d.recordFields? [name]).optional name read

/-- Reads a namespace. -/
def read (d : Doc) : Option Namespace := do
  let fs ← d.recordFields? ["apiVersion", "kind", "metadata", "spec", "status"]
  checkKind fs .namespace
  return {
    metadata := (← fs.optional "metadata" Metadata.read).getD {}
    finalizers := ← fs.optional "spec" (readPart "finalizers" (Doc.list? Doc.text?))
    phase := ← fs.optional "status" (readPart "phase" Doc.text?) }

/-- Writes a namespace. -/
def write (n : Namespace) : Value := .record <|
  header .namespace n.metadata
    ++ Value.optional "spec" (fun o => .record (Value.optional "finalizers" .texts o)) n.finalizers
    ++ Value.optional "status" (fun o => .record (Value.optional "phase" .text o)) n.phase

end Namespace

end ScrapeFleet.Cluster
