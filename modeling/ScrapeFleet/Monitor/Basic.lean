/-
# ScrapeFleet.Monitor.Basic — monitors as cluster objects

A monitor is what it says and the metadata it says it under. All jobs of a monitor have names that
start with the monitor's job key.
-/
import ScrapeFleet.Cluster.Metadata
import ScrapeFleet.Monitor.Spec

namespace ScrapeFleet

open Cluster (Metadata Identified)

/-- A monitor. -/
structure Monitor where
  metadata : Metadata
  spec : Monitor.Spec
deriving DecidableEq, Repr, Inhabited

namespace Monitor

instance : Identified Monitor := ⟨metadata⟩

/-- The kind of monitor. -/
def kind (m : Monitor) : Kind := m.spec.kind

/-- The labels. -/
def labels (m : Monitor) : Labels := m.metadata.labelDict

/-- The namespace. -/
def namespaceText (m : Monitor) : String := m.metadata.namespaceText

/-- What the names of the monitor's jobs start with. -/
def jobKey (m : Monitor) : String :=
  m.kind.jobPrefix ++ "/" ++ m.namespaceText ++ "/" ++ m.metadata.displayName

/-- Reads a monitor of a kind. What it says of its own kind and version does not count. -/
def read (kind : Kind) (d : Doc) : Option Monitor := do
  let fs ← d.recordFields? ["metadata", "spec"]
  return {
    metadata := ← fs.required "metadata" Metadata.read
    spec := ← fs.required "spec" (Spec.read kind) }

/-- Writes a monitor. -/
def write (m : Monitor) : Value := .record <|
  Cluster.header m.kind m.metadata ++ Value.field "spec" m.spec.write

end Monitor

end ScrapeFleet
