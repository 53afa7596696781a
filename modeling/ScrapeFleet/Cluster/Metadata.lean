/-
# ScrapeFleet.Cluster.Metadata — what every cluster object carries

Name, namespace, labels and version. An object is known by its namespace and its name; one that has no
name yet goes by the stem from which the cluster will make it, and an object of the whole cluster has
the empty namespace.
-/
import ScrapeFleet.Kind
import ScrapeFleet.Selector

namespace ScrapeFleet.Cluster

open Job (readDict)

/-- The namespace and the name of an object. -/
abbrev ObjectKey := String × String

/-- The metadata of an object. -/
structure Metadata where
  name : Option String := none
  namespaceName : Option String := none
  generateName : Option String := none
  labels : Option Labels := none
  annotations : Option (Dict String String) := none
  generation : Option Int := none
  resourceVersion : Option String := none
deriving DecidableEq, Repr, Inhabited

namespace Metadata

/-- The name, or else the stem of the name to come. -/
def displayName (m : Metadata) : String := (m.name.orElse fun _ => m.generateName).getD ""

/-- The namespace; an object of the whole cluster has the empty one. -/
def namespaceText (m : Metadata) : String := m.namespaceName.getD ""

/-- What the object is known by. -/
def key (m : Metadata) : ObjectKey := (m.namespaceText, m.displayName)

/-- The labels; absent ones are none. -/
def labelDict (m : Metadata) : Labels := m.labels.getD .empty

/-- Reads metadata. -/
def read (d : Doc) : Option Metadata := do
  let fs ← d.recordFields? ["name", "namespace", "generateName", "labels", "annotations",
    "generation", "resourceVersion"]
  return {
    name := ← fs.optional "name" Doc.text?
    namespaceName := ← fs.optional "namespace" Doc.text?
    generateName := ← fs.optional "generateName" Doc.text?
    labels := ← fs.optional "labels" (readDict Doc.text?)
    annotations := ← fs.optional "annotations" (readDict Doc.text?)
    generation := ← fs.optional "generation" fun d =>
      d.int?.bind fun n => if n < Int.pow 2 63 then some n else none
    resourceVersion := ← fs.optional "resourceVersion" Doc.text? }

/-- Writes metadata. -/
def write (m : Metadata) : Value := .record <|
  Value.optional "annotations" writeTexts m.annotations
    ++ Value.optional "generateName" .text m.generateName
    ++ Value.optional "generation" .int m.generation
    ++ Value.optional "labels" writeTexts m.labels
    ++ Value.optional "name" .text m.name
    ++ Value.optional "namespace" .text m.namespaceName
    ++ Value.optional "resourceVersion" .text m.resourceVersion
where
  /-- A map of texts. -/
  writeTexts (d : Dict String String) : Value := .record (d.toList.map fun (k, v) => (k, .text v))

end Metadata

/-- Refuses a record that says it is of another version or kind. -/
def checkHeader (fs : Doc.Fields) (apiVersion kind : String) : Option Unit :=
  let agrees (name wanted : String) : Bool :=
    match fs.lookup name with
    | some d => d.text? == some wanted
    | none => true
  if agrees "apiVersion" apiVersion && agrees "kind" kind then some () else none

/-- Refuses an object that says it is of another kind. -/
def checkKind (fs : Doc.Fields) (kind : Kind) : Option Unit :=
  checkHeader fs kind.apiVersion kind.name

/-- The fields that every written object starts with. -/
def header (kind : Kind) (m : Metadata) : List (String × Value) :=
  Value.field "apiVersion" (.text kind.apiVersion) ++ Value.field "kind" (.text kind.name)
    ++ Value.field "metadata" m.write

/-- A kind of object that is kept by its metadata. -/
class Identified (α : Type) where
  metadata : α → Metadata

/-- What an object is known by. -/
def keyOf {α : Type} [Identified α] (a : α) : ObjectKey := (Identified.metadata a).key

end ScrapeFleet.Cluster
