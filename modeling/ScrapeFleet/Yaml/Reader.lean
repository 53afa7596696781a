/-
# ScrapeFleet.Yaml.Reader — reading a YAML document

A text is cut into tokens, the tokens make a tree, and in the tree every alias is replaced by what its
anchor stood for when the alias was met. An alias inside its own anchor has no finite expansion: it is
a part that can only be passed over, and so is a part nested too deep. A document whose aliases expand
to far more parts than it has is refused.
-/
import ScrapeFleet.Yaml.Lexer
import ScrapeFleet.Yaml.Node

namespace ScrapeFleet.Yaml

/-- How deep lists and records may be nested. -/
def depthLimit : Nat := 128

/-- How many aliases may be followed for each part of a document. -/
def aliasesPerPart : Nat := 100

namespace Node

/-- The parts of a tree; a list and a record count at both ends. -/
def parts : Node → Nat
  | .scalar _ _ | .alias _ => 1
  | .sequence _ _ items => 2 + partsAll items
  | .mapping _ _ entries => 2 + partsEntries entries
where
  /-- The parts of the items of a list. -/
  partsAll : List Node → Nat
    | [] => 0
    | n :: ns => n.parts + partsAll ns
  /-- The parts of the entries of a mapping. -/
  partsEntries : List (Node × Node) → Nat
    | [] => 0
    | (k, v) :: es => k.parts + v.parts + partsEntries es

end Node

/-! ## Aliases -/

/-- What an anchor stands for, and how many aliases are followed in it. -/
structure Anchored where
  name : String
  doc : Doc
  followed : Nat

/-- The anchors met so far, oldest first, and the number of aliases followed. -/
structure Expansion where
  anchors : Array Anchored := #[]
  followed : Nat := 0

namespace Expansion

/-- What an alias stands for: the latest anchor of its name. -/
def find? (x : Expansion) (name : String) : Option Anchored := x.anchors.findRev? (·.name == name)

/-- Follows an alias. -/
def follow (x : Expansion) (a : Anchored) : Expansion :=
  { x with followed := x.followed + 1 + a.followed }

/-- Starts a part that may have an anchor. Until the part is complete its anchor stands for nothing
that could be read. -/
def start (x : Expansion) (anchor : Option String) : Expansion :=
  match anchor with
  | some name => { x with anchors := x.anchors.push ⟨name, .unreadable, 0⟩ }
  | none => x

/-- Completes a part that was started when the expansion was `before`. -/
def complete (x before : Expansion) (anchor : Option String) (doc : Doc) : Expansion :=
  match anchor with
  | some name =>
    { x with anchors :=
        x.anchors.setIfInBounds before.anchors.size ⟨name, doc, x.followed - before.followed⟩ }
  | none => x

end Expansion

/-- Marks a part that has a tag of the author's own. -/
def branded (tag : Option String) (d : Doc) : Doc :=
  match tag with
  | some t => if t.startsWith "!" then .branded d else d
  | none => d

namespace Node

/-- The document that a tree stands for. An alias without an anchor before it stands for nothing. -/
def expand : Node → Expansion → Option (Doc × Expansion)
  | .scalar anchor s, x =>
    let doc := branded s.tag (.scalar s)
    some (doc, (x.start anchor).complete x anchor doc)
  | .alias name, x => (x.find? name).map fun a => (a.doc, x.follow a)
  | .sequence anchor tag items, x =>
    match expandAll items (x.start anchor) with
    | none => none
    | some (docs, y) =>
      let doc := branded tag (.sequence docs)
      some (doc, y.complete x anchor doc)
  | .mapping anchor tag entries, x =>
    match expandEntries entries (x.start anchor) with
    | none => none
    | some (docs, y) =>
      let doc := branded tag (.record docs)
      some (doc, y.complete x anchor doc)
where
  /-- Expands the items of a list in order. -/
  expandAll : List Node → Expansion → Option (List Doc × Expansion)
    | [], x => some ([], x)
    | n :: ns, x =>
      match n.expand x with
      | none => none
      | some (d, y) => (expandAll ns y).map fun (ds, z) => (d :: ds, z)
  /-- Expands the entries of a mapping in order, each key before its value. -/
  expandEntries : List (Node × Node) → Expansion → Option (List (Doc × Doc) × Expansion)
    | [], x => some ([], x)
    | (k, v) :: es, x =>
      match k.expand x with
      | none => none
      | some (k', y) =>
        match v.expand y with
        | none => none
        | some (v', z) => (expandEntries es z).map fun (ds, w) => ((k', v') :: ds, w)

end Node

/-! ## Depth -/

/-- The document down to a depth; what is nested deeper can only be passed over. -/
def cutBelow (depth : Nat) : Doc → Doc
  | .list items =>
    match depth with
    | 0 => .unreadable
    | depth + 1 => .list (cutAll depth items)
  | .sequence items =>
    match depth with
    | 0 => .unreadable
    | depth + 1 => .sequence (cutAll depth items)
  | .record entries =>
    match depth with
    | 0 => .unreadable
    | depth + 1 => .record (cutEntries depth entries)
  | .branded d => .branded (cutBelow depth d)
  | d => d
where
  /-- Cuts the items of a list. -/
  cutAll (depth : Nat) : List Doc → List Doc
    | [] => []
    | d :: ds => cutBelow depth d :: cutAll depth ds
  /-- Cuts the entries of a record. -/
  cutEntries (depth : Nat) : List (Doc × Doc) → List (Doc × Doc)
    | [] => []
    | (k, v) :: es => (cutBelow depth k, cutBelow depth v) :: cutEntries depth es

/-! ## Reading -/

/-- The document of a tree. -/
def docOfNode? (n : Node) : Option Doc :=
  match n.expand {} with
  | none => none
  | some (d, x) =>
    if aliasesPerPart * n.parts < x.followed then none else some (cutBelow depthLimit d)

/-- Reads a text that holds one document. -/
def read? (s : String) : Option Doc :=
  match tokenize s with
  | none => none
  | some tokens => (readDocument tokens.toList).bind docOfNode?

end ScrapeFleet.Yaml
