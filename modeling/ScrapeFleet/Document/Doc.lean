/-
# ScrapeFleet.Document.Doc — documents to be read

One tree for every format that is read. JSON and TOML say of each leaf what it is. YAML leaves it to
the reader: an unquoted `5` is the text `5` for a field that wants text and an integer for one that
wants an integer. A part that is set aside before it is known what it is wanted for is settled first,
and from then on reads like JSON.
-/
import ScrapeFleet.Yaml.Scalar

namespace ScrapeFleet

/-- How a scalar was written. -/
inductive ScalarStyle where
  | plain | literal | quoted
deriving DecidableEq, Repr

/-- A scalar as it was written. -/
structure Scalar where
  text : String
  style : ScalarStyle := .plain
  /-- The tag in full, such as `tag:yaml.org,2002:int`. -/
  tag : Option String := none
deriving DecidableEq, Repr

namespace Scalar

def boolTag : String := "tag:yaml.org,2002:bool"
def intTag : String := "tag:yaml.org,2002:int"
def floatTag : String := "tag:yaml.org,2002:float"
def nullTag : String := "tag:yaml.org,2002:null"

/-- The scalar may be read as a value of the tag's kind: it is unquoted, or a literal that says so. -/
def mayRead (s : Scalar) (tag : String) : Bool :=
  match s.style with
  | .plain => true
  | .literal => s.tag == some tag
  | .quoted => false

end Scalar

/-- A document, or a part of one. -/
inductive Doc where
  | null
  | bool (b : Bool)
  | int (n : Int)
  | float
  | text (s : String)
  | scalar (s : Scalar)
  /-- A list whose format allows it to stand for a record. -/
  | list (items : List Doc)
  /-- A list whose format allows it to stand for a record, even one with fewer fields. -/
  | row (items : List Doc)
  /-- A list that is only a list. -/
  | sequence (items : List Doc)
  | record (entries : List (Doc × Doc))
  /-- A part with a tag of the author's own. -/
  | branded (d : Doc)
  /-- A part that can only be passed over. -/
  | unreadable
deriving Repr, Inhabited

namespace Doc

/-- A record with named fields. -/
def ofFields (fields : List (String × Doc)) : Doc := .record (fields.map fun (k, v) => (.text k, v))

/-! ## Leaves -/

/-- Text. A written scalar is text whatever it looks like. -/
def text? : Doc → Option String
  | .text s => some s
  | .scalar s => some s.text
  | .branded (.scalar s) => some s.text
  | _ => none

/-- A truth value. -/
def bool? : Doc → Option Bool
  | .bool b => some b
  | .scalar s | .branded (.scalar s) =>
    if s.mayRead Scalar.boolTag then Yaml.bool? s.text else none
  | _ => none

/-- An integer. -/
def int? : Doc → Option Int
  | .int n => some n
  | .scalar s | .branded (.scalar s) =>
    if s.mayRead Scalar.intTag then Yaml.integer? 64 s.text.toList else none
  | _ => none

/-- An unsigned integer of the given width. -/
def nat? (bits : Nat) (d : Doc) : Option Nat :=
  match d.int? with
  | some n => if 0 ≤ n ∧ n < Nat.pow 2 bits then some n.toNat else none
  | none => none

/-- A part that may be absent; null is absence. A scalar tagged as null has to be one. -/
def optional? {α : Type} (read : Doc → Option α) (d : Doc) : Option (Option α) :=
  match d with
  | .null => some none
  | .scalar s =>
    if s.style != .plain then (read d).map some
    else
      match s.tag with
      | some tag =>
        if tag == Scalar.nullTag then if Yaml.isNull s.text then some none else none
        else (read d).map some
      | none => if s.text.isEmpty || Yaml.isNull s.text then some none else (read d).map some
  | d => (read d).map some

/-! ## Lists and records -/

/-- An unquoted empty scalar stands for an empty list or record. -/
def isBlank : Doc → Bool
  | .scalar s => s.style == .plain && s.text.isEmpty
  | _ => false

/-- The items of a list. -/
def items? : Doc → Option (List Doc)
  | .list ds | .row ds | .sequence ds => some ds
  | .branded (.list ds) | .branded (.sequence ds) => some ds
  | d => if d.isBlank then some [] else none

/-- The entries of a record. -/
def entries? : Doc → Option (List (Doc × Doc))
  | .record es | .branded (.record es) => some es
  | d => if d.isBlank then some [] else none

/-- A list, each item read alike. -/
def list? {α : Type} (read : Doc → Option α) (d : Doc) : Option (List α) :=
  d.items?.bind (·.mapM read)

/-- A map from text, in the order of the document. -/
def map? {α : Type} (read : Doc → Option α) (d : Doc) : Option (List (String × α)) :=
  d.entries?.bind (·.mapM fun (k, v) => do return (← k.text?, ← read v))

/-! ## Settling -/

/-- The part with every written scalar read by its shape. A scalar with a known tag has to fit it; a
tag of the author's own and an integer of more than 64 bits have no settled form. -/
def settle? : Doc → Option Doc
  | .scalar s =>
    match s.tag, s.style with
    | none, .plain => ofMeaning (Yaml.meaning s.text) s.text
    | none, _ => some (.text s.text)
    | some tag, _ =>
      if tag == Scalar.boolTag then (Yaml.bool? s.text).map .bool
      else if tag == Scalar.intTag then (Yaml.integer? 64 s.text.toList).map .int
      else if tag == Scalar.floatTag then if Yaml.isFloat s.text then some .float else none
      else if tag == Scalar.nullTag then if Yaml.isNull s.text then some .null else none
      else some (.text s.text)
  | .list ds | .row ds | .sequence ds => (settleAll? ds).map .list
  | .record es => (settleEntries? es).map .record
  | .branded _ | .unreadable => none
  | d => some d
where
  /-- Settles what an unquoted scalar means. -/
  ofMeaning (m : Yaml.Meaning) (s : String) : Option Doc :=
    match m with
    | .null => some .null
    | .bool b => some (.bool b)
    | .int n => some (.int n)
    | .wide => none
    | .float => some .float
    | .text => some (.text s)
  /-- Settles the items of a list. -/
  settleAll? : List Doc → Option (List Doc)
    | [] => some []
    | d :: ds => do return (← d.settle?) :: (← settleAll? ds)
  /-- Settles the entries of a record. -/
  settleEntries? : List (Doc × Doc) → Option (List (Doc × Doc))
    | [] => some []
    | (k, v) :: es => do return (← k.settle?, ← v.settle?) :: (← settleEntries? es)

/-! ## Fields

The fields of a record are found by name; names that are not known are passed over, and a known name
comes at most once. A list in the place of a record gives the fields in order. -/

/-- The known fields of a record. -/
abbrev Fields := List (String × Doc)

/-- Adds a field that has not come before. -/
def addField (fields : Fields) (name : String) (d : Doc) : Option Fields :=
  if (fields.lookup name).isSome then none else some (fields ++ [(name, d)])

/-- The field that a key stands for: its name, or in a settled record its place. -/
def fieldName? (names : List String) : Doc → Option (Option String)
  | .int n => if 0 ≤ n then some names[n.toNat]? else none
  | d => d.text?.map fun s => if names.contains s then some s else none

/-- Collects the known fields of a record's entries. -/
def collectFields (names : List String) (entries : List (Doc × Doc)) : Option Fields :=
  entries.foldlM (fun fields (k, v) =>
    match fieldName? names k with
    | none => none
    | some none => some fields
    | some (some name) => addField fields name v) []

/-- The fields of a record with the given names. -/
def fields? (names : List String) (d : Doc) : Option Fields :=
  match d with
  | .list items => if items.length ≤ names.length then some (names.zip items) else none
  | .row items => some (names.zip items)
  | d => d.entries?.bind (collectFields names)

/-- The fields of a record for which a list does not stand. -/
def recordFields? (names : List String) (d : Doc) : Option Fields :=
  d.entries?.bind (collectFields names)

/-- The record with one of its fields under another name. -/
def renamed (name newName : String) : Doc → Doc
  | .record es => .record (es.map fun (k, v) => (if k.text? == some name then .text newName else k, v))
  | d => d

/-- The fields of a record that has a part set aside: those with the own names, and those for the
other part, settled. Every value that is not an own field is settled. Such a record is never a
list. -/
def splitFields? (own other : List String) (d : Doc) : Option (Fields × Fields) :=
  match d.entries? with
  | none => none
  | some entries =>
    entries.foldlM (fun (mine, set) (k, v) =>
      match k.text? with
      | none => none
      | some name =>
        if own.contains name then (addField mine name v).map fun mine => (mine, set)
        else
          match v.settle? with
          | none => none
          | some v =>
            if other.contains name then (addField set name v).map fun set => (mine, set)
            else some (mine, set)) ([], [])

namespace Fields

variable {α : Type}

/-- A field that has to be there. -/
def required (fs : Fields) (name : String) (read : Doc → Option α) : Option α :=
  (fs.lookup name).bind read

/-- A field that may be absent or null. -/
def optional (fs : Fields) (name : String) (read : Doc → Option α) : Option (Option α) :=
  match fs.lookup name with
  | some d => d.optional? read
  | none => some none

/-- A field that has a value of its own if it is absent; null is not absence here. -/
def withDefault (fs : Fields) (name : String) (default : α) (read : Doc → Option α) : Option α :=
  match fs.lookup name with
  | some d => read d
  | none => some default

/-- A list; absent is empty. -/
def list (fs : Fields) (name : String) (read : Doc → Option α) : Option (List α) :=
  fs.withDefault name [] (list? read)

/-- A map; absent is empty. -/
def map (fs : Fields) (name : String) (read : Doc → Option α) : Option (List (String × α)) :=
  fs.withDefault name [] (map? read)

end Fields

end Doc

end ScrapeFleet
