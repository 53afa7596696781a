/-
# ScrapeFleet.Monitor.RelabelRule — relabel rules as monitors write them

A rule of a monitor has not been checked: its action is any text. It becomes a rule of a job only if
the scraper accepts it.
-/
import ScrapeFleet.Relabel.Check

namespace ScrapeFleet.Monitor

/-- A relabel rule of a monitor. -/
structure RelabelRule where
  sourceLabels : List String := []
  separator : Option String := none
  targetLabel : Option String := none
  regex : Option String := none
  modulus : Option Nat := none
  replacement : Option String := none
  action : Option String := none
deriving DecidableEq, Repr, Inhabited

namespace RelabelRule

/-- The action that a rule names; none is `replace`. -/
def readAction (r : RelabelRule) : Except Relabel.Error Relabel.Action :=
  match r.action with
  | none => .ok .replace
  | some name =>
    match Relabel.Action.ofName? name with
    | some a => .ok a
    | none => .error (.unknownAction name)

/-- The rule for a job. An empty target is no target. -/
def toRule (r : RelabelRule) : Except Relabel.Error Relabel.Rule := do
  let action ← r.readAction
  let rule : Relabel.Rule := {
    sourceLabels := r.sourceLabels
    separator := r.separator
    targetLabel := r.targetLabel.filter (!·.isEmpty)
    regex := r.regex
    modulus := r.modulus
    replacement := r.replacement
    action := action }
  rule.check
  return rule

/-- The rules for a job; the first that is refused decides the error. -/
def toRules (rs : List RelabelRule) : Except Relabel.Error (List Relabel.Rule) := rs.mapM toRule

def read (d : Doc) : Option RelabelRule := do
  let fs ← d.fields? ["sourceLabels", "separator", "targetLabel", "regex", "modulus",
    "replacement", "action"]
  return {
    sourceLabels := ← fs.list "sourceLabels" Doc.text?
    separator := ← fs.optional "separator" Doc.text?
    targetLabel := ← fs.optional "targetLabel" Doc.text?
    regex := ← fs.optional "regex" Doc.text?
    modulus := ← fs.optional "modulus" (Doc.nat? 64)
    replacement := ← fs.optional "replacement" Doc.text?
    action := ← fs.optional "action" Doc.text? }

def write (r : RelabelRule) : Value := .record <|
  Value.unlessEmpty "sourceLabels" .text r.sourceLabels
    ++ Value.optional "separator" .text r.separator
    ++ Value.optional "targetLabel" .text r.targetLabel
    ++ Value.optional "regex" .text r.regex
    ++ Value.optional "modulus" .nat r.modulus
    ++ Value.optional "replacement" .text r.replacement
    ++ Value.optional "action" .text r.action

end RelabelRule

end ScrapeFleet.Monitor
