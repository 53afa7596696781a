/-
# ScrapeFleet.Text.Shown — values as shown in messages

The form in which settings are shown to people who look for faults: names of types and fields, text in
double quotes, `Some` and `None` for what may be absent. What must not be shown is replaced before a
value gets here, so rendering has nothing to hide.
-/
import ScrapeFleet.Text.Quoted

namespace ScrapeFleet.Text

/-- A value as it is shown. -/
inductive Shown where
  /-- A word that is shown as it is. -/
  | word (s : String)
  /-- A text in double quotes. -/
  | text (s : String)
  | list (items : List Shown)
  | map (entries : List (String × Shown))
  | tuple (name : String) (item : Shown)
  | struct (name : String) (fields : List (String × Shown))
deriving Repr, Inhabited

namespace Shown

/-- A truth value. -/
def bool (b : Bool) : Shown := .word (if b then "true" else "false")

/-- A number. -/
def nat (n : Nat) : Shown := .word (toString n)

/-- A value that may be absent. -/
def option {α : Type} (shown : α → Shown) : Option α → Shown
  | some a => .tuple "Some" (shown a)
  | none => .word "None"

/-- The rendered text. -/
def render : Shown → String
  | .word s => s
  | .text s => quoted s
  | .list items => "[" ++ ", ".intercalate (renderAll items) ++ "]"
  | .map entries => "\x7b" ++ ", ".intercalate (renderEntries entries) ++ "\x7d"
  | .tuple name item => name ++ "(" ++ item.render ++ ")"
  | .struct name fields => name ++ " \x7b " ++ ", ".intercalate (renderFields fields) ++ " \x7d"
where
  /-- The items of a list. -/
  renderAll : List Shown → List String
    | [] => []
    | s :: ss => s.render :: renderAll ss
  /-- The entries of a map, keys in quotes. -/
  renderEntries : List (String × Shown) → List String
    | [] => []
    | (k, s) :: es => (quoted k ++ ": " ++ s.render) :: renderEntries es
  /-- The fields of a record, names as they are. -/
  renderFields : List (String × Shown) → List String
    | [] => []
    | (k, s) :: es => (k ++ ": " ++ s.render) :: renderFields es

end Shown

end ScrapeFleet.Text
