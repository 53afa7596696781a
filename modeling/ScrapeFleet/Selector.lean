/-
# ScrapeFleet.Selector — label selectors

A selector is a conjunction: wanted labels and requirements on single labels. One that says nothing
selects everything, and so does an absent one; a requirement with an operator that is not known selects
nothing.
-/
import ScrapeFleet.Job.Client

namespace ScrapeFleet

open Job (readDict)

/-- The labels of an object. -/
abbrev Labels := Dict String String

/-- A requirement on one label. -/
structure Requirement where
  key : String
  operator : String
  values : Option (List String) := none
deriving DecidableEq, Repr, Inhabited

namespace Requirement

/-- The values named, absent ones being none. -/
def valueList (r : Requirement) : List String := r.values.getD []

/-- The labels satisfy the requirement. -/
def holds (r : Requirement) (labels : Labels) : Bool :=
  let value := labels.get? r.key
  match r.operator with
  | "In" => value.any fun v => r.valueList.contains v
  | "NotIn" => value.all fun v => !r.valueList.contains v
  | "Exists" => value.isSome
  | "DoesNotExist" => value.isNone
  | _ => false

/-- Reads a requirement; an absent key or operator is empty. -/
def read (d : Doc) : Option Requirement := do
  let fs ← d.recordFields? ["key", "operator", "values"]
  return {
    key := (← fs.optional "key" Doc.text?).getD ""
    operator := (← fs.optional "operator" Doc.text?).getD ""
    values := ← fs.optional "values" (Doc.list? Doc.text?) }

def write (r : Requirement) : Value := .record <|
  Value.field "key" (.text r.key)
    ++ Value.field "operator" (.text r.operator)
    ++ Value.optional "values" .texts r.values

end Requirement

/-- A label selector. -/
structure Selector where
  labels : Option Labels := none
  requirements : Option (List Requirement) := none
deriving DecidableEq, Repr, Inhabited

namespace Selector

/-- The wanted labels in key order. -/
def labelList (s : Selector) : List (String × String) := (s.labels.getD .empty).toList

/-- The requirements in their order. -/
def requirementList (s : Selector) : List Requirement := s.requirements.getD []

/-- Labels are selected if they have all that is wanted and satisfy every requirement. -/
def selects (s : Selector) (labels : Labels) : Bool :=
  s.labelList.all (fun (k, v) => labels.get? k == some v)
    && s.requirementList.all (·.holds labels)

/-- Reads a selector. -/
def read (d : Doc) : Option Selector := do
  let fs ← d.recordFields? ["matchLabels", "matchExpressions"]
  return {
    labels := ← fs.optional "matchLabels" (readDict Doc.text?)
    requirements := ← fs.optional "matchExpressions" (Doc.list? Requirement.read) }

def write (s : Selector) : Value := .record <|
  Value.optional "matchLabels" writeLabels s.labels
    ++ Value.optional "matchExpressions" (fun rs => .list (rs.map Requirement.write)) s.requirements
where
  /-- A map of labels. -/
  writeLabels (m : Labels) : Value := .record (m.toList.map fun (k, v) => (k, .text v))

end Selector

/-- A selector that may be absent; absent selects everything. -/
def selectedBy (s : Option Selector) (labels : Labels) : Bool := s.all (·.selects labels)

end ScrapeFleet
