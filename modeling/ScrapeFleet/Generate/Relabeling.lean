/-
# ScrapeFleet.Generate.Relabeling — relabel rules that jobs are given

Discovery finds every object of a role; rules keep those that the monitor means and give their targets
the labels that people look for. An object's labels are seen by rules under names made of a stem for the
role and the label's name, with another name beside it that says whether the label is there.
-/
import ScrapeFleet.Generate.Warning
import ScrapeFleet.Job.Basic
import ScrapeFleet.Monitor.Endpoint
import ScrapeFleet.Selector

namespace ScrapeFleet.Generate

open Relabel (Rule)
open Job (KubernetesDiscovery Role)
open Monitor (NamespaceChoice RelabelRule)

/-- A label name: all but letters and digits of ASCII becomes `_`. -/
def labelName (s : String) : String :=
  String.ofList (s.toList.map fun c => if Text.isAsciiWord c then c else '_')

/-- The name under which rules see a label. -/
def metaLabel (stem label : String) : String := stem ++ "_label_" ++ labelName label

/-- The name under which rules see whether a label is there. -/
def metaPresent (stem label : String) : String := stem ++ "_labelpresent_" ++ labelName label

/-! ## Patterns -/

/-- The characters that mean more than themselves in a pattern. -/
def patternMarks : List Char :=
  ['\\', '.', '+', '*', '?', '(', ')', '|', '[', ']', '\x7b', '\x7d', '^', '$']

/-- A pattern for a text itself. -/
def literalPattern (s : String) : String :=
  String.ofList (s.toList.flatMap fun c => if patternMarks.contains c then ['\\', c] else [c])

/-- The reference to the first group of a pattern. -/
def firstGroup : String := "$\x7b1\x7d"

/-! ## Selectors as rules -/

/-- The rule that keeps targets whose label has a value. -/
def labelRule (stem : String) (label : String × String) : Rule :=
  .keep [metaLabel stem label.1, metaPresent stem label.1] ("(" ++ literalPattern label.2 ++ ");true")

/-- The rule for a requirement. An operator that is not known has none. -/
def requirementRule? (stem : String) (r : Requirement) : Option Rule :=
  let pair := [metaLabel stem r.key, metaPresent stem r.key]
  let present := [metaPresent stem r.key]
  let values := "(" ++ "|".intercalate (r.valueList.map literalPattern) ++ ");true"
  match r.operator with
  | "In" => some (.keep pair values)
  | "NotIn" => some (.drop pair values)
  | "Exists" => some (.keep present "true")
  | "DoesNotExist" => some (.drop present "true")
  | _ => none

/-- The rules that keep what a selector selects. -/
def selectorRules (stem : String) (s : Selector) : List Rule :=
  s.labelList.map (labelRule stem) ++ s.requirementList.filterMap (requirementRule? stem)

/-! ## Labels of targets -/

/-- Gives a label a fixed value. -/
def setLabel (target value : String) : Rule := { targetLabel := some target, replacement := some value }

/-- Copies a label that has a value. -/
def copyFilled (source target : String) : Rule :=
  { Rule.replace [source] target with regex := some "(.+)", replacement := some firstGroup }

/-- Copies labels of the object onto the target. -/
def copyLabels (stem : String) (names : List String) : List Rule :=
  names.map fun name => copyFilled (metaLabel stem name) (labelName name)

/-- The job label from a label of the object, if one is named. -/
def jobLabelRule (stem : String) (jobLabel : Option String) : List Rule :=
  match jobLabel with
  | some l => if l.isEmpty then [] else [copyFilled (metaLabel stem l) "job"]
  | none => []

/-! ## Rules that monitors bring -/

/-- The relabel rules of a monitor as rules of a job. -/
def relabelings (rs : List RelabelRule) : Except JobError (List Relabel.Rule) :=
  (RelabelRule.toRules rs).mapError .relabeling

/-- The metric relabel rules of a monitor as rules of a job. -/
def metricRelabelings (rs : List RelabelRule) : Except JobError (List Relabel.Rule) :=
  (RelabelRule.toRules rs).mapError .metricRelabeling

/-! ## Discovery and shards -/

/-- Discovery of a role in the namespaces that a monitor chose; without a choice, its own. -/
def discovery (role : Role) (own : String) (choice : Option NamespaceChoice) : KubernetesDiscovery :=
  match choice with
  | some c =>
    if c.any then { role := role }
    else { role := role, namespaces := some { names := if c.names.isEmpty then [own] else c.names } }
  | none => { role := role, namespaces := some { names := [own] } }

/-- The label that holds the shard of a target while rules are applied. -/
def shardLabel : String := "__tmp_hash"

/-- The rules that leave each target to one of several shards. -/
def shardRules (shards : Nat) : List Rule :=
  if shards ≤ 1 then []
  else
    [{ sourceLabels := ["__address__"], targetLabel := some shardLabel, modulus := some shards,
       action := .hashMod },
      .keep [shardLabel] ScrapeJob.shardPlaceholder]

end ScrapeFleet.Generate
