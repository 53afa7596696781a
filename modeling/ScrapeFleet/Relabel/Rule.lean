/-
# ScrapeFleet.Relabel.Rule — relabel rules

A rule in the form in which a scrape job carries it. Fields that are absent take the defaults of the
program that applies the rule and are not written.

Its action is one of eleven, by their lower-case names. Names are read in any letter case, and the empty name
is the default action.
-/
import ScrapeFleet.Document.Doc
import ScrapeFleet.Document.Value
import ScrapeFleet.Text.Shown

namespace ScrapeFleet.Relabel

open Text (Shown)

/-! ## Actions -/

/-- What a relabel rule does with the labels that it matches. -/
inductive Action where
  | replace | keep | drop | keepEqual | dropEqual | hashMod | labelMap | labelDrop | labelKeep
  | lowercase | uppercase
deriving DecidableEq, Repr, Inhabited

namespace Action

/-- All actions. -/
def all : List Action :=
  [.replace, .keep, .drop, .keepEqual, .dropEqual, .hashMod, .labelMap, .labelDrop, .labelKeep,
    .lowercase, .uppercase]

/-- The name as it is written. -/
def name : Action → String
  | .replace => "replace"
  | .keep => "keep"
  | .drop => "drop"
  | .keepEqual => "keepequal"
  | .dropEqual => "dropequal"
  | .hashMod => "hashmod"
  | .labelMap => "labelmap"
  | .labelDrop => "labeldrop"
  | .labelKeep => "labelkeep"
  | .lowercase => "lowercase"
  | .uppercase => "uppercase"

/-- The name as it is shown. -/
def shownName : Action → String
  | .replace => "Replace"
  | .keep => "Keep"
  | .drop => "Drop"
  | .keepEqual => "KeepEqual"
  | .dropEqual => "DropEqual"
  | .hashMod => "HashMod"
  | .labelMap => "LabelMap"
  | .labelDrop => "LabelDrop"
  | .labelKeep => "LabelKeep"
  | .lowercase => "Lowercase"
  | .uppercase => "Uppercase"

/-- Reads a name in any letter case; the empty name is `replace`. -/
def ofName? (s : String) : Option Action :=
  let lower := String.ofList (s.toList.map Char.toLower)
  if lower.isEmpty then some .replace else all.find? (·.name == lower)

/-- The action writes a label, and so needs to know which. -/
def needsTarget : Action → Bool
  | .replace | .hashMod | .lowercase | .uppercase | .keepEqual | .dropEqual => true
  | _ => false

end Action

/-! ## Rules -/

/-- A relabel rule. -/
structure Rule where
  sourceLabels : List String := []
  separator : Option String := none
  targetLabel : Option String := none
  regex : Option String := none
  modulus : Option Nat := none
  replacement : Option String := none
  action : Action := .replace
deriving DecidableEq, Repr, Inhabited

namespace Rule

/-- The separator of a rule that names none. -/
def defaultSeparator : String := ";"

/-- The pattern of a rule that names none. -/
def defaultRegex : String := "(.*)"

/-- The replacement of a rule that names none. -/
def defaultReplacement : String := "$1"

/-- Writes the joined source labels into a label. -/
def replace (sources : List String) (target : String) : Rule :=
  { sourceLabels := sources, targetLabel := some target }

/-- Keeps the targets whose joined source labels match. -/
def keep (sources : List String) (regex : String) : Rule :=
  { sourceLabels := sources, regex := some regex, action := .keep }

/-- Drops the targets whose joined source labels match. -/
def drop (sources : List String) (regex : String) : Rule :=
  { sourceLabels := sources, regex := some regex, action := .drop }

/-- The names of the fields in the order in which they are written. -/
def fieldNames : List String :=
  ["source_labels", "separator", "target_label", "regex", "modulus", "replacement", "action"]

/-- Reads a rule. -/
def read (d : Doc) : Option Rule := do
  let fs ← d.fields? fieldNames
  return {
    sourceLabels := ← fs.list "source_labels" Doc.text?
    separator := ← fs.optional "separator" Doc.text?
    targetLabel := ← fs.optional "target_label" Doc.text?
    regex := ← fs.optional "regex" Doc.text?
    modulus := ← fs.optional "modulus" (Doc.nat? 64)
    replacement := ← fs.optional "replacement" Doc.text?
    action := ← fs.withDefault "action" .replace fun d => d.text?.bind Action.ofName? }

/-- Writes a rule. The action is always written. -/
def write (r : Rule) : Value := .record <|
  Value.unlessEmpty "source_labels" .text r.sourceLabels
    ++ Value.optional "separator" .text r.separator
    ++ Value.optional "target_label" .text r.targetLabel
    ++ Value.optional "regex" .text r.regex
    ++ Value.optional "modulus" .nat r.modulus
    ++ Value.optional "replacement" .text r.replacement
    ++ Value.field "action" (.text r.action.name)

/-- A rule as it is shown. -/
def shown (r : Rule) : Shown :=
  .struct "RelabelConfig"
    [("source_labels", .list (r.sourceLabels.map .text)), ("separator", .option .text r.separator),
      ("target_label", .option .text r.targetLabel), ("regex", .option .text r.regex),
      ("modulus", .option .nat r.modulus), ("replacement", .option .text r.replacement),
      ("action", .word r.action.shownName)]

end Rule

end ScrapeFleet.Relabel
