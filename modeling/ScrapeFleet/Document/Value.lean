/-
# ScrapeFleet.Document.Value — structured values to be written

What a document says once it is settled: truth values, integers, text, lists and records. Records
keep the order in which their fields are written.
-/

namespace ScrapeFleet

/-- A value to be written. -/
inductive Value where
  | bool (b : Bool)
  | int (n : Int)
  | text (s : String)
  | list (items : List Value)
  | record (fields : List (String × Value))
deriving Repr, Inhabited

namespace Value

/-- A natural number. -/
def nat (n : Nat) : Value := .int n

/-- A list of texts. -/
def texts (ss : List String) : Value := .list (ss.map .text)

/-! Fields of a record. A field that says nothing is left out. -/

/-- A field that is always written. -/
def field (name : String) (v : Value) : List (String × Value) := [(name, v)]

/-- A field that is written if it is present. -/
def optional {α : Type} (name : String) (write : α → Value) : Option α → List (String × Value)
  | some a => [(name, write a)]
  | none => []

/-- A list that is written if it has items. -/
def unlessEmpty {α : Type} (name : String) (write : α → Value) (items : List α) :
    List (String × Value) :=
  if items.isEmpty then [] else [(name, .list (items.map write))]

/-- A map that is written if it has entries. -/
def entries {α : Type} (name : String) (write : α → Value) (es : List (String × α)) :
    List (String × Value) :=
  if es.isEmpty then [] else [(name, .record (es.map fun e => (e.1, write e.2)))]

end Value

end ScrapeFleet
