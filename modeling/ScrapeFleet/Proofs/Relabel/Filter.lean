/-
# ScrapeFleet.Proofs.Relabel.Filter — which targets a rule keeps

A target is seen by rules as its labels, an absent label being empty. A rule joins the values of its source
labels and compares the text with its pattern, or with another label; what comes of it is that the target
is kept or dropped. Rules that only write labels drop nothing.
-/
import ScrapeFleet.Proofs.Regex.Literal
import ScrapeFleet.Relabel.Rule

namespace ScrapeFleet.Relabel

open Regex (Tables Accepts)

/-- The labels of a target. -/
abbrev TargetLabels := String → String

namespace Rule

/-- The text that a rule looks at. -/
def subject (r : Rule) (t : TargetLabels) : String :=
  (r.separator.getD defaultSeparator).intercalate (r.sourceLabels.map t)

/-- The rule's pattern, between anchors, accepts what the rule looks at. -/
def Matches (T : Tables) (r : Rule) (t : TargetLabels) : Prop :=
  Accepts T (r.regex.getD defaultRegex) (r.subject t)

/-- The rule does not drop the target. -/
def Keeps (T : Tables) (r : Rule) (t : TargetLabels) : Prop :=
  match r.action with
  | .keep => r.Matches T t
  | .drop => ¬ r.Matches T t
  | .keepEqual => r.subject t = t (r.targetLabel.getD "")
  | .dropEqual => r.subject t ≠ t (r.targetLabel.getD "")
  | .replace | .hashMod | .labelMap | .labelDrop | .labelKeep | .lowercase | .uppercase => True

variable {T : Tables} {t : TargetLabels} {sources : List String} {regex : String}

theorem keep_keeps_iff :
    (keep sources regex).Keeps T t ↔ Accepts T regex (defaultSeparator.intercalate (sources.map t)) :=
  Iff.rfl

theorem drop_keeps_iff :
    (drop sources regex).Keeps T t ↔ ¬ Accepts T regex (defaultSeparator.intercalate (sources.map t)) :=
  Iff.rfl

end Rule

end ScrapeFleet.Relabel
