/-
# ScrapeFleet.Toml.Table — tables as they are filled

A document is filled table by table. A table is opened by a heading, or comes to be because a heading
or a key leads through it; how it came to be decides what may still be added to it. A heading opens a
table once, and may open one that other headings have led through. A key may lead only through tables
that keys have made.
-/
import ScrapeFleet.Document.Doc

namespace ScrapeFleet.Toml

/-- How a table came to be: opened by a heading, led through by a heading, or led through by a key. -/
inductive Origin where
  | heading | path | key
deriving DecidableEq, Repr

mutual

/-- A table. -/
inductive Table where
  | mk (origin : Origin) (entries : List (String × Node))

/-- What a key stands for: a value, a table, or a list of tables of which the last is open. -/
inductive Node where
  | leaf (d : Doc)
  | table (t : Table)
  | tables (earlier : List Table) (last : Table)

end

namespace Table

/-- How the table came to be. -/
def origin : Table → Origin
  | .mk o _ => o

/-- What is in the table, in the order in which it was added. -/
def entries : Table → List (String × Node)
  | .mk _ es => es

/-- A table without entries. -/
def empty (o : Origin) : Table := .mk o []

/-- The table with what one of its keys stands for changed. -/
def alter (t : Table) (key : String) (f : Option Node → Option Node) : Option Table :=
  match t.entries.lookup key with
  | none => (f none).map fun n => .mk t.origin (t.entries ++ [(key, n)])
  | some n =>
    (f (some n)).map fun n =>
      .mk t.origin (t.entries.map fun e => if e.1 == key then (key, n) else e)

/-- The table with the one that a path leads to changed. Tables on the way are made if they are not
there. -/
def within (byKey : Bool) : List String → (Table → Option Table) → Table → Option Table
  | [], f, t => f t
  | k :: ks, f, t =>
    t.alter k fun
      | none => (within byKey ks f (.empty (if byKey then .key else .path))).map .table
      | some (.leaf _) => none
      | some (.table s) =>
        if byKey && s.origin == .heading then none else (within byKey ks f s).map .table
      | some (.tables earlier last) => (within byKey ks f last).map (.tables earlier)

/-- Adds a value under a key that is new. -/
def put (t : Table) (path : List String) (name : String) (d : Doc) : Option Table :=
  t.within true path fun s =>
    if (s.origin == .key) == path.isEmpty then none
    else s.alter name fun
      | none => some (.leaf d)
      | some _ => none

/-- Opens a table and fills it. -/
def openTable (t : Table) (path : List String) (name : String) (fill : Table → Option Table) :
    Option Table :=
  t.within false path (·.alter name fun
    | none => (fill (.empty .heading)).map .table
    | some (.table s) =>
      if s.origin == .path then (fill (.mk .heading s.entries)).map .table else none
    | some _ => none)

/-- Opens a further table of a list and fills it. -/
def openElement (t : Table) (path : List String) (name : String) (fill : Table → Option Table) :
    Option Table :=
  t.within false path (·.alter name fun
    | none => (fill (.empty .heading)).map (.tables [])
    | some (.tables earlier last) =>
      (fill (.empty .heading)).map (.tables (earlier ++ [last]))
    | some _ => none)

mutual

/-- The table as a document. -/
def doc : Table → Doc
  | .mk _ es => .record (entryDocs es)

/-- The entries of a table as a document. -/
def entryDocs : List (String × Node) → List (Doc × Doc)
  | [] => []
  | (k, .leaf d) :: es => (.text k, d) :: entryDocs es
  | (k, .table t) :: es => (.text k, t.doc) :: entryDocs es
  | (k, .tables earlier last) :: es => (.text k, .row (tableDocs earlier ++ [last.doc])) :: entryDocs es

/-- The tables of a list as documents. -/
def tableDocs : List Table → List Doc
  | [] => []
  | t :: ts => t.doc :: tableDocs ts

end

end Table

end ScrapeFleet.Toml
