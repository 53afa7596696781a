/-
# ScrapeFleet.Text.Substitute — replacing a piece of text

Every occurrence of a pattern is replaced, from the left, and what was put in is not looked at again.
-/

namespace ScrapeFleet.Text

/-- The rest of a text after a beginning that it has. -/
def stripPrefix? : List Char → List Char → Option (List Char)
  | [], cs => some cs
  | _ :: _, [] => none
  | p :: ps, c :: cs => if p = c then stripPrefix? ps cs else none

theorem length_of_stripPrefix? {ps cs rest : List Char} (h : stripPrefix? ps cs = some rest) :
    rest.length + ps.length = cs.length := by
  fun_induction stripPrefix? ps cs with
  | case1 => simp_all
  | case2 => simp at h
  | case3 ps c cs ih => have := ih h; simp only [List.length_cons]; omega
  | case4 => simp at h

/-- A text with every occurrence of `p :: ps` replaced. -/
def substituteFrom (p : Char) (ps new : List Char) (cs : List Char) : List Char :=
  match cs with
  | [] => []
  | c :: rest =>
    match _h : stripPrefix? (p :: ps) (c :: rest) with
    | some after => new ++ substituteFrom p ps new after
    | none => c :: substituteFrom p ps new rest
termination_by cs.length
decreasing_by
  · have := length_of_stripPrefix? _h
    simp only [List.length_cons] at *
    omega
  · simp

/-- A text with every occurrence of a pattern replaced. The empty pattern occurs nowhere. -/
def substitute (pattern new text : String) : String :=
  match pattern.toList with
  | [] => text
  | p :: ps => String.ofList (substituteFrom p ps new.toList text.toList)

end ScrapeFleet.Text
