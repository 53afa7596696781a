/-
# ScrapeFleet.Proofs.Yaml.Literal — reading a literal block

A literal block holds a text line by line, each line behind an indentation. Three things in the text
decide how it is read back: a break or a space at its start hides the indentation, which is then written
behind the bar; the breaks at its end are read apart from the lines; and how many of them there are is
what the sign behind the bar says. So a text is taken as its lines with the breaks at both ends apart
(`exists_core`), and the reader is followed over the three parts.
-/
import ScrapeFleet.Proofs.Yaml.Place
import ScrapeFleet.Yaml.Lexer

namespace ScrapeFleet.Yaml

/-! ## What is written -/

theorem literalBody_line (n : Nat) (line u : List Char) (hline : ∀ x ∈ line, isBreak x = false) :
    (literalBody n false (line ++ u)).toList = line ++ (literalBody n false u).toList := by
  induction line with
  | nil => rfl
  | cons x line ih =>
    have hx := hline x List.mem_cons_self
    have hrest := ih fun y hy => hline y (List.mem_cons_of_mem _ hy)
    rw [List.cons_append, literalBody]
    simp [hx, hrest]

/-- Breaks are written as they are, and the line behind them is indented. -/
theorem literalBody_breaks (n : Nat) (bs u : List Char) (hbs : ∀ x ∈ bs, isBreak x = true)
    (hu : ∀ x, u.head? = some x → isBreak x = false) (broken : Bool)
    (hstart : bs ≠ [] ∨ broken = true) :
    (literalBody n broken (bs ++ u)).toList =
      bs ++ ((if u = [] then [] else List.replicate n ' ') ++ (literalBody n false u).toList) := by
  induction bs generalizing broken with
  | nil =>
    obtain rfl : broken = true := by simpa using hstart
    cases u with
    | nil => simp [literalBody]
    | cons x u =>
      have hx := hu x rfl
      simp [literalBody, hx, spaces]
  | cons b bs ih =>
    have hb := hbs b List.mem_cons_self
    have hrest := ih (fun x hx => hbs x (List.mem_cons_of_mem _ hx)) true (.inr rfl)
    rw [List.cons_append, literalBody]
    simp [hb, hrest]

/-- Breaks at the end are written as they are. -/
theorem literalBody_ending (n : Nat) (u es : List Char) (hes : ∀ x ∈ es, isBreak x = true)
    (broken : Bool) :
    (literalBody n broken (u ++ es)).toList = (literalBody n broken u).toList ++ es := by
  induction u generalizing broken with
  | nil =>
    cases es with
    | nil => simp [literalBody]
    | cons e es =>
      have := literalBody_breaks n (e :: es) [] hes (by simp) broken (.inl (by simp))
      rw [List.append_nil] at this
      simpa [literalBody] using this
  | cons x u ih =>
    rw [List.cons_append, literalBody, literalBody]
    split <;> simp [ih]

/-! ## Breaks and indentation -/

/-- What stands behind the indentation of a line that ends a block of depth `n`, or belongs to it: in
front of the block's depth no blank can follow. -/
def Behind (n k : Nat) (after : List Char) : Prop :=
  k ≤ n ∧ ∀ x, after.head? = some x → isBreak x = false ∧ (k < n → isBlank x = false)

/-- The indentation of a line is as deep as the block, if the line belongs to it. -/
theorem Behind.indentation {n k : Nat} {after : List Char} (h : Behind n k after) :
    Nat.min ((List.replicate k ' ' ++ after).takeWhile (· == ' ')).length n = k := by
  obtain ⟨hk, hafter⟩ := h
  rw [List.takeWhile_append_of_pos (by simp), List.length_append, List.length_replicate]
  rcases Nat.lt_or_eq_of_le hk with hlt | rfl
  · have hnone : after.takeWhile (· == ' ') = [] := by
      cases after with
      | nil => rfl
      | cons x after =>
        have hx : isBlank x = false := (hafter x rfl).2 hlt
        have hne : (x == ' ') = false := by
          simp only [isBlank, Bool.or_eq_false_iff] at hx
          exact hx.1
        simp [hne]
    rw [hnone]
    exact Nat.min_eq_left hk
  · exact Nat.min_eq_right (by omega)

theorem Behind.not_break {n k : Nat} {after : List Char} (h : Behind n k after) {c : Cursor}
    (hc : c.rest = after) : c.atBreak = false := by
  cases after with
  | nil => exact Cursor.atBreak_of_end hc
  | cons x after => rw [Cursor.atBreak_of_rest hc, (h.2 x rfl).1]

theorem Behind.not_tab {n k : Nat} {after : List Char} (h : Behind n k after) (hk : k < n)
    {c : Cursor} (hc : c.rest = after) : c.at_ '\t' = false := by
  cases after with
  | nil => exact Cursor.at_of_end hc _
  | cons x after =>
    have hx := (h.2 x rfl).2 hk
    simp only [isBlank, Bool.or_eq_false_iff] at hx
    rw [Cursor.at_of_rest hc, hx.2]

/-- A text that starts with a line is written behind the indentation of its block. -/
theorem Behind.of_literalBody {n : Nat} {t after : List Char} (hne : t ≠ [])
    (hfirst : ∀ x, t.head? = some x → isBreak x = false) :
    Behind n n ((literalBody n false t).toList ++ after) := by
  obtain ⟨y, t, rfl⟩ := List.exists_cons_of_ne_nil hne
  have hy : isBreak y = false := hfirst y rfl
  refine ⟨Nat.le_refl n, fun x hx => ?_⟩
  obtain rfl : y = x := by simpa [literalBody, hy] using hx
  exact ⟨hy, fun h => absurd h (Nat.lt_irrefl n)⟩

/-- The empty lines of a block of known depth, and the indentation of the next line. -/
theorem readBlockBreaks_known {n k : Nat} {after : List Char} (hafter : Behind n k after)
    (bs : List Char) (hbs : ∀ x ∈ bs, IsLineEnd x) (out : List Char) (deepest : Nat)
    (c : Cursor) (hcol : c.column = 0) (hc : c.rest = bs ++ (List.replicate k ' ' ++ after)) :
    ∃ deepest' d, readBlockBreaks (some n) out deepest c = some (out ++ bs, deepest', d) ∧
      d.rest = after ∧ d.column = k := by
  induction bs generalizing out deepest c with
  | nil =>
    rw [List.nil_append] at hc
    have hrun : Nat.min (c.rest.takeWhile (· == ' ')).length (n - c.column) = k := by
      rw [hc, hcol]
      exact hafter.indentation
    have hrest : (c.skip k).rest = after := by simp [hc]
    have hcolumn : (c.skip k).column = k := by simp [hcol]
    have htab : (decide ((c.skip k).column < n) && (c.skip k).at_ '\t') = false := by
      rw [hcolumn]
      by_cases hk : k < n
      · rw [hafter.not_tab hk hrest, Bool.and_false]
      · simp [hk]
    refine ⟨Nat.max deepest (c.skip k).column, c.skip k, ?_, hrest, hcolumn⟩
    rw [readBlockBreaks]
    simp only [hrun, htab, hafter.not_break hrest, Bool.false_eq_true, if_false, List.append_nil]
  | cons b bs ih =>
    rw [List.cons_append] at hc
    have hb : IsLineEnd b := hbs b List.mem_cons_self
    have hspace : (b == ' ') = false := by rcases hb with rfl | rfl | rfl <;> rfl
    have htab : (b == '\t') = false := by rcases hb with rfl | rfl | rfl <;> rfl
    have hrun : Nat.min (c.rest.takeWhile (· == ' ')).length (n - c.column) = 0 := by
      simp [hc, hspace]
    have hline := Cursor.skipLine_of_rest hc hb
    have hlen : (c.nextLine (bs ++ (List.replicate k ' ' ++ after))).rest.length
        < c.rest.length := by simp [Cursor.nextLine, hc]
    obtain ⟨deepest', d, hd, hrest⟩ := ih (fun x hx => hbs x (List.mem_cons_of_mem _ hx)) (out ++ [b])
      (Nat.max deepest c.column) (c.nextLine _) rfl rfl
    refine ⟨deepest', d, ?_, hrest⟩
    rw [readBlockBreaks]
    simp only [hrun, Cursor.skip_zero, Cursor.at_of_rest hc, htab, Bool.and_false,
      Bool.false_eq_true, if_false, Cursor.atBreak_of_rest hc, hb.isBreak, if_true, hline,
      dif_pos hlen, Cursor.breakText_of_rest hc hb]
    rw [hd, List.append_assoc]
    rfl

/-- The indentation of the first line, where nothing tells it. -/
theorem readBlockBreaks_first {n : Nat} {x : Char} {rest : List Char} (hx : InLine x)
    (hspace : x ≠ ' ') (c : Cursor) (hcol : c.column = 0)
    (hc : c.rest = List.replicate n ' ' ++ x :: rest) :
    readBlockBreaks none [] 0 c = some ([], n, c.skip n) := by
  have hne : (x == ' ') = false := by simpa using hspace
  have htab : (x == '\t') = false := by simpa using hx.ne_tab
  have hrun : c.skipWhile (· == ' ') = c.skip n := by
    rw [Cursor.skipWhile, hc, List.takeWhile_append_of_pos (by simp)]
    simp [hne]
  have hrest : (c.skip n).rest = x :: rest := by simp [hc]
  rw [readBlockBreaks]
  simp only [hrun, Cursor.at_of_rest hrest, htab, Bool.and_false, Bool.false_eq_true, if_false,
    Cursor.atBreak_of_rest hrest, hx.not_break, Cursor.column_skip, hcol, Nat.zero_add]
  congr 2

/-! ## Lines -/

/-- One line of a literal block and the empty lines behind it. -/
theorem readBlockLines_line {n deepest : Nat} {line breaks rest : List Char} {b : Char}
    {c f : Cursor} (out lead trail : List Char) (afterBlank : Bool) (hcol : c.column = n)
    (hline : ∀ x ∈ line, isBreak x = false) (hb : IsLineEnd b) (hc : c.rest = line ++ b :: rest)
    (hbreaks : readBlockBreaks (some n) [] 0 ((c.skip line.length).nextLine rest) =
      some (breaks, deepest, f)) (hlen : f.rest.length < c.rest.length) :
    ∃ afterBlank', readBlockLines true n out lead trail afterBlank c =
      readBlockLines true n (out ++ (lead ++ trail) ++ line) [b] breaks afterBlank' f := by
  refine ⟨c.atBlank, ?_⟩
  have htake : c.rest.takeWhile (!isBreak ·) = line := by
    rw [hc, List.takeWhile_append_of_pos fun x hx => by simp [hline x hx]]
    simp [hb.isBreak]
  have hthere : (c.skip line.length).rest = b :: rest := by simp [hc]
  have hsome : c.rest.isEmpty = false := by simp [hc]
  have hsome' : (c.skip line.length).rest.isEmpty = false := by rw [hthere]; rfl
  rw [readBlockLines]
  simp only [hcol, hsome, beq_self_eq_true, Bool.not_false, Bool.and_self, if_true, htake, hsome',
    Bool.false_eq_true, if_false, Cursor.skipLine_of_rest hthere hb, hbreaks, dif_pos hlen,
    Cursor.breakText_of_rest hthere hb, Bool.not_true, Bool.false_and]

/-- A line that is not indented as deep ends the block. -/
theorem readBlockLines_end {n : Nat} {out lead trail : List Char} {c : Cursor} (afterBlank : Bool)
    (hcol : c.column < n) :
    readBlockLines true n out lead trail afterBlank c = some (out, lead, trail, c) := by
  have hne : (c.column == n) = false := by simpa using Nat.ne_of_lt hcol
  rw [readBlockLines]
  simp only [hne, Bool.false_and, Bool.false_eq_true, if_false]

/-- One line of a literal block, the empty lines behind it, and the indentation of the next line. -/
theorem readBlockLines_next {n k : Nat} {line bs after : List Char} {b : Char}
    (out lead trail : List Char) (afterBlank : Bool) {c : Cursor} (hafter : Behind n k after)
    (hline : ∀ x ∈ line, isBreak x = false) (hb : IsLineEnd b) (hbs : ∀ x ∈ bs, IsLineEnd x)
    (hcol : c.column = n) (hc : c.rest = line ++ b :: (bs ++ (List.replicate k ' ' ++ after))) :
    ∃ afterBlank' f, readBlockLines true n out lead trail afterBlank c =
        readBlockLines true n (out ++ (lead ++ trail) ++ line) [b] bs afterBlank' f ∧
      f.rest = after ∧ f.column = k := by
  obtain ⟨deepest, f, hf, hrest, hfcol⟩ := readBlockBreaks_known hafter bs hbs [] 0
    ((c.skip line.length).nextLine _) rfl rfl
  have hlen : f.rest.length < c.rest.length := by
    rw [hrest, hc]
    simp
    omega
  obtain ⟨afterBlank', hstep⟩ :=
    readBlockLines_line out lead trail afterBlank hcol hline hb hc hf hlen
  exact ⟨afterBlank', f, hstep, hrest, hfcol⟩

/-- A text that ends with a line: the line alone, or a line and the breaks behind it in front of
another such text. -/
inductive Lined : List Char → Prop
  | last {line : List Char} : (∀ x ∈ line, isBreak x = false) → Lined line
  | more {line bs u : List Char} {b : Char} : (∀ x ∈ line, isBreak x = false) → IsLineEnd b →
      (∀ x ∈ bs, IsLineEnd x) → u ≠ [] → (∀ x, u.head? = some x → isBreak x = false) → Lined u →
      Lined (line ++ b :: (bs ++ u))

theorem Lined.of_getLast (t : List Char) (hprint : ∀ x ∈ t, isPrintable x = true)
    (hlast : ∀ x, t.getLast? = some x → isBreak x = false) : Lined t := by
  induction hl : t.length using Nat.strong_induction_on generalizing t with
  | _ l ih =>
    subst hl
    obtain ⟨line, u, rfl, hline, hu⟩ := exists_run (!isBreak ·) t
    have hline' : ∀ x ∈ line, isBreak x = false := fun x hx => by simpa using hline x hx
    cases u with
    | nil => exact .last (by simpa using hline')
    | cons b u =>
      have hb : isBreak b = true := by simpa using hu b rfl
      obtain ⟨bs, v, rfl, hbs, hv⟩ := exists_run isBreak u
      have hbreaks : ∀ x ∈ b :: bs, isBreak x = true := List.forall_mem_cons.2 ⟨hb, hbs⟩
      have hends : ∀ x ∈ b :: bs, IsLineEnd x := fun x hx =>
        isLineEnd_of_break (hprint x (List.mem_append_right line (List.mem_append_left v hx)))
          (hbreaks x hx)
      -- the breaks are not at the end, where a line stands
      have hvne : v ≠ [] := by
        rintro rfl
        obtain ⟨init, z, hz⟩ := (List.eq_nil_or_concat (b :: bs)).resolve_left (by simp)
        have hz' : isBreak z = false := hlast z (by rw [List.append_nil, hz]; simp)
        rw [hbreaks z (by rw [hz]; simp)] at hz'
        cases hz'
      have hshort : v.length < (line ++ b :: (bs ++ v)).length := by
        simp
        omega
      refine .more hline' (hends b List.mem_cons_self)
        (fun x hx => hends x (List.mem_cons_of_mem _ hx)) hvne hv
        (ih v.length hshort v (fun x hx => hprint x (by simp [hx])) (fun x hx => hlast x ?_) rfl)
      rw [← List.singleton_append, List.getLast?_append, List.getLast?_append, List.getLast?_append,
        hx]
      rfl

/-- Reads the lines of a text and the breaks behind them. -/
theorem readBlockLines_core {n m : Nat} {core body es : List Char} {e : Char} (hcore : Lined core)
    (he : IsLineEnd e) (hes : ∀ x ∈ es, IsLineEnd x) (hbody : Behind n m body) (hm : m < n)
    (out lead trail : List Char) (afterBlank : Bool) (c : Cursor) (hcol : c.column = n)
    (hc : c.rest = (literalBody n false core).toList ++
      e :: (es ++ (List.replicate m ' ' ++ body))) :
    ∃ f, readBlockLines true n out lead trail afterBlank c =
        some (out ++ (lead ++ trail) ++ core, [e], es, f) ∧ f.rest = body ∧ f.column = m := by
  induction hcore generalizing out lead trail afterBlank c with
  | @last line hline =>
    -- the breaks behind the last line are those at the end
    have hwritten : (literalBody n false line).toList = line := by
      simpa [literalBody] using literalBody_line n line [] hline
    rw [hwritten] at hc
    obtain ⟨ab, f, hstep, hrest, hfcol⟩ :=
      readBlockLines_next out lead trail afterBlank hbody hline he hes hcol hc
    refine ⟨f, ?_, hrest, hfcol⟩
    rw [hstep, readBlockLines_end ab (by rw [hfcol]; exact hm)]
  | @more line bs u b hline hb hbs hne hfirst _ ih =>
    have hends : ∀ x ∈ b :: bs, IsLineEnd x := List.forall_mem_cons.2 ⟨hb, hbs⟩
    have hbreaks : ∀ x ∈ b :: bs, isBreak x = true := fun x hx => (hends x hx).isBreak
    have hthere : c.rest = line ++ b :: (bs ++ (List.replicate n ' ' ++
        ((literalBody n false u).toList ++ e :: (es ++ (List.replicate m ' ' ++ body))))) := by
      rw [hc, literalBody_line n line _ hline, ← List.cons_append,
        literalBody_breaks n (b :: bs) u hbreaks hfirst false (.inl (by simp)), if_neg hne]
      simp
    obtain ⟨ab, f, hstep, hrest, hfcol⟩ := readBlockLines_next out lead trail afterBlank
      (Behind.of_literalBody hne hfirst) hline hb hbs hcol hthere
    obtain ⟨d, hd, hdrest⟩ := ih (out ++ (lead ++ trail) ++ line) [b] bs ab f hfcol hrest
    refine ⟨d, ?_, hdrest⟩
    rw [hstep, hd]
    simp

/-! ## The signs behind the bar -/

/-- The sign of a chomping. -/
def Chomping.sign : Chomping → String
  | .strip => "-"
  | .clip => ""
  | .keep => "+"

/-- How the breaks at the end of a text are kept: none is there, one, or several. -/
def chompingOf : List Char → Chomping
  | [] => .strip
  | [_] => .clip
  | _ => .keep

/-- The signs are read as they are written. -/
theorem readBlockHeader_signs (hinted : Bool) (ch : Chomping) {r : List Char} {c : Cursor}
    (hc : c.rest = ((if hinted then "2" else "") ++ ch.sign).toList ++ '\n' :: r) :
    readBlockHeader c = some (ch, if hinted then some 2 else none,
      c.skip ((if hinted then "2" else "") ++ ch.sign).toList.length) := by
  cases hinted <;> cases ch <;>
    simp [Chomping.sign] at hc <;>
    simp [readBlockHeader, chomping?, Cursor.peek, hc, Chomping.sign, Cursor.skip_zero]

/-- The text starts with a space or a break. -/
def startsHidden (t : List Char) : Bool :=
  match t with
  | c :: _ => c == ' ' || isBreak c
  | [] => false

theorem literalHints_eq (t : List Char) (ch : Chomping)
    (hch : (match t.reverse with
      | [] => "-"
      | [c] => if isBreak c then "+" else "-"
      | c :: d :: _ => if !isBreak c then "-" else if isBreak d then "+" else "") = ch.sign) :
    literalHints t = (if startsHidden t then "2" else "") ++ ch.sign := by
  rw [← hch]
  cases t <;> rfl

/-- The signs of a text that has a line in it. -/
theorem literalHints_core {lead core es : List Char} (hes : ∀ x ∈ es, isBreak x = true)
    (hne : core ≠ []) (hlast : ∀ x, core.getLast? = some x → isBreak x = false) :
    literalHints (lead ++ (core ++ es)) =
      (if startsHidden (lead ++ (core ++ es)) then "2" else "") ++ (chompingOf es).sign := by
  refine literalHints_eq _ _ ?_
  obtain ⟨core, z, rfl⟩ := (List.eq_nil_or_concat core).resolve_left hne
  have hz : isBreak z = false := hlast z (by simp)
  rcases es.eq_nil_or_concat with rfl | ⟨es, y, rfl⟩
  · cases h : core.reverse ++ lead.reverse <;> simp [h, hz, chompingOf, Chomping.sign]
  · have hy := hes y (by simp)
    rcases es.eq_nil_or_concat with rfl | ⟨es, x, rfl⟩
    · simp [hy, hz, chompingOf, Chomping.sign]
    · have hx := hes x (by simp)
      cases es <;> simp [hy, hx, chompingOf, Chomping.sign]

/-- The signs of a text of breaks. -/
theorem literalHints_breaks {t : List Char} (hne : t ≠ []) (ht : ∀ x ∈ t, isBreak x = true) :
    literalHints t = "2" ++ Chomping.sign .keep := by
  have hhidden : startsHidden t = true := by
    obtain ⟨b, t, rfl⟩ := List.exists_cons_of_ne_nil hne
    simp [startsHidden, ht b List.mem_cons_self]
  rw [literalHints_eq t .keep, hhidden]
  · rfl
  · obtain ⟨t, y, rfl⟩ := (List.eq_nil_or_concat t).resolve_left hne
    have hy := ht y (by simp)
    rcases t.eq_nil_or_concat with rfl | ⟨t, x, rfl⟩
    · simp [hy, Chomping.sign]
    · have hx := ht x (by simp)
      simp [hy, hx, Chomping.sign]

/-! ## The block -/

/-- A text is its lines, with the breaks at both ends apart. -/
theorem exists_core (t : List Char) : ∃ lead core es, t = lead ++ (core ++ es) ∧
    (∀ x ∈ lead, isBreak x = true) ∧ (∀ x ∈ es, isBreak x = true) ∧
    (∀ x, core.head? = some x → isBreak x = false) ∧
    (∀ x, core.getLast? = some x → isBreak x = false) ∧ (core = [] → es = []) := by
  obtain ⟨lead, u, rfl, hlead, hu⟩ := exists_run isBreak t
  obtain ⟨es, core, hcore, hes, hlast⟩ := exists_run isBreak u.reverse
  have hu' : u = core.reverse ++ es.reverse := by
    rw [← List.reverse_append, ← hcore, List.reverse_reverse]
  refine ⟨lead, core.reverse, es.reverse, by rw [hu'], hlead, by simpa using hes, ?_, ?_, ?_⟩
  · intro x hx
    refine hu x ?_
    rw [hu', List.head?_append, hx]
    rfl
  · intro x hx
    exact hlast x (by simpa using hx)
  · intro hnil
    -- a text that is nothing but breaks has them all in front
    cases u with
    | nil =>
      simp only [List.nil_eq, List.append_eq_nil_iff] at hu'
      exact hu'.2
    | cons x u =>
      have hx := hu x rfl
      have hmem : x ∈ es := by
        have : x ∈ core.reverse ++ es.reverse := by
          rw [← hu']
          exact List.mem_cons_self
        simpa [hnil] using this
      rw [hes x hmem] at hx
      cases hx

/-- What a chomping keeps of the lines, the break that ends the last of them and those behind it. -/
def Chomping.kept (out lead trail : List Char) : Chomping → List Char
  | .strip => out
  | .clip => out ++ lead
  | .keep => out ++ lead ++ trail

/-- Reads a block scalar in its parts: the signs, the empty lines in front, and the lines. -/
theorem readBlockScalar_parts {i deepest : Nat} (hinted : Bool) (ch : Chomping)
    {out lead trail breaks rest : List Char} {c d e : Cursor}
    (hc : c.rest = ((if hinted then "2" else "") ++ ch.sign).toList ++ '\n' :: rest)
    (hbreaks : readBlockBreaks (if hinted then some (i + 2) else none) [] 0
      ((c.skip ((if hinted then "2" else "") ++ ch.sign).toList.length).nextLine rest) =
        some (breaks, deepest, d))
    (hdeepest : hinted = false → deepest = i + 2)
    (hlines : readBlockLines true (i + 2) [] [] breaks false d = some (out, lead, trail, e)) :
    readBlockScalar true i c = some (ch.kept out lead trail, e) := by
  have hthere : (c.skip ((if hinted then "2" else "") ++ ch.sign).toList.length).rest =
      '\n' :: rest := by
    simp only [Cursor.rest_skip, hc, List.drop_left]
  generalize hsigns : c.skip ((if hinted then "2" else "") ++ ch.sign).toList.length = c' at *
  -- behind the signs stands the end of the line: no blanks and no comment
  have hskip : c'.skipWhile isBlank = c' := by
    have hnone : c'.rest.takeWhile isBlank = [] := by
      rw [hthere]
      rfl
    rw [Cursor.skipWhile, hnone, List.length_nil, Cursor.skip_zero]
  have hhash : c'.at_ '#' = false := Cursor.at_of_rest hthere '#'
  have hend : isBreakOrEnd c'.peek = true := by
    rw [Cursor.peek_of_rest hthere]
    rfl
  have hbreak : c'.atBreak = true := Cursor.atBreak_of_rest hthere
  have hline : c'.skipLine = c'.nextLine rest := Cursor.skipLine_of_rest hthere (.inl rfl)
  have hknown : ((if hinted then some 2 else none : Option Nat).map fun n => (i : Int).toNat + n) =
      if hinted then some (i + 2) else none := by
    cases hinted <;> rfl
  -- the depth that is not written behind the bar is that of the first line
  have hdepth : ((if hinted then some (i + 2) else none : Option Nat).getD
      (Nat.max (Nat.max deepest ((i : Int) + 1).toNat) 1)) = i + 2 := by
    cases hinted with
    | true => rfl
    | false =>
      have h1 : ((i : Int) + 1).toNat = i + 1 := by omega
      have h2 : Nat.max (i + 2) (i + 1) = i + 2 := Nat.max_eq_left (by omega)
      have h3 : Nat.max (i + 2) 1 = i + 2 := Nat.max_eq_left (by omega)
      simp only [Bool.false_eq_true, if_false, Option.getD_none, hdeepest rfl, h1, h2, h3]
  rw [readBlockScalar, readBlockHeader_signs hinted ch hc]
  simp only [hsigns, hskip, hhash, hend, hbreak, hline, hknown, hbreaks, hdepth, hlines,
    Bool.not_true, Bool.false_eq_true, if_false, if_true]
  cases ch <;> rfl

/-- What ends the last line of a literal block. -/
def closing (t : List Char) : List Char :=
  match t.getLast? with
  | some x => if isBreak x then [] else ['\n']
  | none => ['\n']

theorem closing_concat (t : List Char) (x : Char) :
    closing (t ++ [x]) = if isBreak x then [] else ['\n'] := by
  simp [closing]

/-- The breaks at the end of a text, or the one that is added, are what a chomping keeps or drops. -/
theorem exists_ending (lead : List Char) {core es : List Char} (hes : ∀ x ∈ es, IsLineEnd x) (hne : core ≠ [])
    (hlast : ∀ x, core.getLast? = some x → isBreak x = false) :
    ∃ e es', es ++ closing (lead ++ (core ++ es)) = e :: es' ∧ IsLineEnd e ∧
      (∀ x ∈ es', IsLineEnd x) ∧ ∀ out, (chompingOf es).kept out [e] es' = out ++ es := by
  obtain ⟨core, z, rfl⟩ := (List.eq_nil_or_concat core).resolve_left hne
  have hz : isBreak z = false := hlast z (by simp)
  cases es with
  | nil =>
    refine ⟨'\n', [], ?_, .inl rfl, by simp, fun out => by simp [chompingOf, Chomping.kept]⟩
    have hend : lead ++ (core.concat z ++ []) = (lead ++ core) ++ [z] := by simp
    rw [hend, closing_concat, hz]
    rfl
  | cons e es =>
    have hclosing : closing (lead ++ (core.concat z ++ e :: es)) = [] := by
      obtain ⟨init, y, hy⟩ := (List.eq_nil_or_concat (e :: es)).resolve_left (by simp)
      have hbreak : isBreak y = true := (hes y (by rw [hy]; simp)).isBreak
      have hend : lead ++ (core.concat z ++ e :: es) = (lead ++ (core.concat z ++ init)) ++ [y] := by
        rw [hy]
        simp
      rw [hend, closing_concat, hbreak]
      rfl
    refine ⟨e, es, by rw [hclosing, List.append_nil], hes e List.mem_cons_self,
      fun x hx => hes x (List.mem_cons_of_mem _ hx), fun out => ?_⟩
    cases es <;> simp [chompingOf, Chomping.kept]

/-- What ends a text of breaks is already there. -/
theorem closing_breaks {t : List Char} (hne : t ≠ []) (ht : ∀ x ∈ t, isBreak x = true) :
    closing t = [] := by
  obtain ⟨init, y, rfl⟩ := (List.eq_nil_or_concat t).resolve_left hne
  rw [List.concat_eq_append, closing_concat, ht y (by simp)]
  rfl

/-- A literal block of breaks: all of them are empty lines, and all are kept. -/
theorem readBlockScalar_breaks {i m : Nat} {body t : List Char} (hne : t ≠ [])
    (ht : ∀ x ∈ t, IsLineEnd x) (hm : m ≤ i) (hbody : Behind (i + 2) m body)
    (c : Cursor) (hc : c.rest = (literalHints t).toList ++ '\n' ::
      ((literalBody (i + 2) true t).toList ++ (closing t ++ (List.replicate m ' ' ++ body)))) :
    ∃ d, readBlockScalar true i c = some (t, d) ∧ d.rest = body ∧ d.column = m := by
  have hbreaks : ∀ x ∈ t, isBreak x = true := fun x hx => (ht x hx).isBreak
  have hwritten : (literalBody (i + 2) true t).toList = t := by
    simpa [literalBody] using literalBody_ending (i + 2) [] t hbreaks true
  rw [literalHints_breaks hne hbreaks, closing_breaks hne hbreaks, hwritten] at hc
  obtain ⟨deepest, d, hd, hrest, hcol⟩ := readBlockBreaks_known hbody t ht [] 0
    ((c.skip _).nextLine _) rfl rfl
  refine ⟨d, ?_, hrest, hcol⟩
  rw [readBlockScalar_parts true .keep hc hd (by simp) (readBlockLines_end false (by omega))]
  rfl

/-- The empty lines in front of the first line, whose indentation is told by a sign or by the line
itself: it is told where a break or a space hides it. -/
theorem readBlockBreaks_front {n : Nat} {lead core after : List Char}
    (hlead : ∀ x ∈ lead, IsLineEnd x) (hne : core ≠ [])
    (hfirst : ∀ x, core.head? = some x → InLine x) (rest : List Char) (c : Cursor)
    (hcol : c.column = 0) (hc : c.rest = lead ++ (List.replicate n ' ' ++
      ((literalBody n false core).toList ++ after))) :
    ∃ deepest f, readBlockBreaks
        (if startsHidden (lead ++ (core ++ rest)) then some n else none) [] 0 c =
          some (lead, deepest, f) ∧
      (startsHidden (lead ++ (core ++ rest)) = false → deepest = n) ∧
      f.rest = (literalBody n false core).toList ++ after ∧ f.column = n := by
  cases hhidden : startsHidden (lead ++ (core ++ rest)) with
  | true =>
    obtain ⟨deepest, f, hf, hfrest⟩ := readBlockBreaks_known
      (Behind.of_literalBody hne fun x hx => (hfirst x hx).not_break) lead hlead [] 0 c hcol hc
    exact ⟨deepest, f, hf, by simp, hfrest⟩
  | false =>
    cases lead with
    | cons b lead =>
      have hb : isBreak b = true := (hlead b List.mem_cons_self).isBreak
      simp [startsHidden, hb] at hhidden
    | nil =>
      obtain ⟨x, core, rfl⟩ := List.exists_cons_of_ne_nil hne
      have hx : InLine x := hfirst x rfl
      have hspace : x ≠ ' ' := by
        rintro rfl
        simp [startsHidden] at hhidden
      have hthere : c.rest = List.replicate n ' ' ++
          x :: ((literalBody n false core).toList ++ after) := by
        rw [hc, literalBody]
        simp [hx.not_break]
      exact ⟨n, c.skip n, readBlockBreaks_first hx hspace c hcol hthere, fun _ => rfl,
        by simp [hc], by simp [hcol]⟩

/-- A literal block of a text with a line in it: the breaks in front, the lines and the breaks at
the end. -/
theorem readBlockScalar_lines {i m : Nat} {body lead core es : List Char}
    (hlead : ∀ x ∈ lead, IsLineEnd x) (hes : ∀ x ∈ es, IsLineEnd x) (hne : core ≠ [])
    (hprint : ∀ x ∈ core, isPrintable x = true)
    (hfirst : ∀ x, core.head? = some x → isBreak x = false)
    (hlast : ∀ x, core.getLast? = some x → isBreak x = false) (hm : m ≤ i)
    (hbody : Behind (i + 2) m body) (c : Cursor)
    (hc : c.rest = (literalHints (lead ++ (core ++ es))).toList ++ '\n' ::
      ((literalBody (i + 2) true (lead ++ (core ++ es))).toList ++
        (closing (lead ++ (core ++ es)) ++ (List.replicate m ' ' ++ body)))) :
    ∃ d, readBlockScalar true i c = some (lead ++ (core ++ es), d) ∧
      d.rest = body ∧ d.column = m := by
  have hlead' : ∀ x ∈ lead, isBreak x = true := fun x hx => (hlead x hx).isBreak
  have hes' : ∀ x ∈ es, isBreak x = true := fun x hx => (hes x hx).isBreak
  obtain ⟨e, es₀, hending, he, hes₀, hkept⟩ := exists_ending lead hes hne hlast
  have hthere : (literalBody (i + 2) true (lead ++ (core ++ es))).toList ++
      (closing (lead ++ (core ++ es)) ++ (List.replicate m ' ' ++ body)) =
      lead ++ (List.replicate (i + 2) ' ' ++ ((literalBody (i + 2) false core).toList ++
        e :: (es₀ ++ (List.replicate m ' ' ++ body)))) := by
    rw [← List.append_assoc lead, literalBody_ending _ _ _ hes',
      literalBody_breaks _ _ _ hlead' hfirst true (.inr rfl), if_neg hne]
    simp only [List.append_assoc]
    rw [← List.append_assoc es, ← List.append_assoc lead core es, List.append_assoc lead, hending]
    simp
  rw [literalHints_core hes' hne hlast, hthere] at hc
  obtain ⟨deepest, d, hd, hdeepest, hdrest, hdcol⟩ := readBlockBreaks_front hlead hne
    (fun x hx => ⟨hprint x (List.mem_of_head? hx), hfirst x hx⟩) es
    ((c.skip ((if startsHidden (lead ++ (core ++ es)) then "2" else "") ++
      (chompingOf es).sign).toList.length).nextLine _) rfl rfl
  obtain ⟨f, hf, hfrest⟩ := readBlockLines_core (Lined.of_getLast core hprint hlast) he hes₀ hbody
    (by omega) [] [] lead false d hdcol hdrest
  refine ⟨f, ?_, hfrest⟩
  rw [readBlockScalar_parts _ _ hc hd hdeepest hf, hkept]
  simp

/-- Reads a text in a literal block up to the next token. -/
theorem readBlockScalar_literal {i m : Nat} {body t : List Char} (hne : t ≠ [])
    (hprint : ∀ x ∈ t, isPrintable x = true) (hm : m ≤ i) (hbody : Behind (i + 2) m body)
    (c : Cursor) (hc : c.rest = (literalHints t).toList ++ '\n' ::
      ((literalBody (i + 2) true t).toList ++ (closing t ++ (List.replicate m ' ' ++ body)))) :
    ∃ d, readBlockScalar true i c = some (t, d) ∧ d.rest = body ∧ d.column = m := by
  obtain ⟨lead, core, es, rfl, hlead, hes, hfirst, hlast, hnil⟩ := exists_core t
  have hlead' : ∀ x ∈ lead, IsLineEnd x := fun x hx =>
    isLineEnd_of_break (hprint x (by simp [hx])) (hlead x hx)
  have hes' : ∀ x ∈ es, IsLineEnd x := fun x hx =>
    isLineEnd_of_break (hprint x (by simp [hx])) (hes x hx)
  by_cases hcore : core = []
  · obtain rfl := hcore
    obtain rfl := hnil rfl
    simp only [List.append_nil] at hne hc ⊢
    exact readBlockScalar_breaks hne hlead' hm hbody c hc
  · exact readBlockScalar_lines hlead' hes' hcore (fun x hx => hprint x (by simp [hx])) hfirst hlast
      hm hbody c hc

end ScrapeFleet.Yaml
