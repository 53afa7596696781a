/-
# ScrapeFleet.Proofs.Yaml.Alike — texts that differ only in characters of no meaning

Digits, letters and the marks of a placeholder have no meaning to the writer of scalars: no form is chosen or
ruled out for them. Two texts that agree in all other characters and in where there are runs of these
(`Alike`) are carried by the same forms.
-/
import ScrapeFleet.Proofs.Yaml.Form

namespace ScrapeFleet.Yaml

/-- The characters of a shard's placeholder and of shards. -/
def inert : List Char := "0123456789$(SHARD)".toList

/-- The second text has the characters of the first, but with other inert characters where the first has
some. -/
inductive Alike : List Char → List Char → Prop
  | nil : Alike [] []
  | keep {cs ds : List Char} (c : Char) (h : Alike cs ds) : Alike (c :: cs) (c :: ds)
  | swap {u w cs ds : List Char} (hu : u ≠ [] ∧ ∀ x ∈ u, x ∈ inert) (hw : w ≠ [] ∧ ∀ x ∈ w, x ∈ inert)
      (h : Alike cs ds) : Alike (u ++ cs) (w ++ ds)

namespace Alike

variable {cs ds cs' ds' : List Char} {p : Char → Bool} {q : Char → Char → Bool}

theorem append (h : Alike cs ds) (h' : Alike cs' ds') : Alike (cs ++ cs') (ds ++ ds') := by
  induction h with
  | nil => exact h'
  | keep c _ ih => exact .keep c ih
  | swap hu hw _ ih =>
    rw [List.append_assoc, List.append_assoc]
    exact .swap hu hw ih

theorem reverse (h : Alike cs ds) : Alike cs.reverse ds.reverse := by
  induction h with
  | nil => exact .nil
  | keep c _ ih =>
    rw [List.reverse_cons, List.reverse_cons]
    exact ih.append (.keep c .nil)
  | @swap u w cs ds hu hw _ ih =>
    have hlast : Alike u.reverse w.reverse := by
      have hswap := swap (u := u.reverse) (w := w.reverse) (by simpa using hu) (by simpa using hw) nil
      simpa using hswap
    rw [List.reverse_append, List.reverse_append]
    exact ih.append hlast

theorem ne_nil (h : Alike cs ds) (hcs : cs ≠ []) : ds ≠ [] := by
  cases h with
  | nil => exact hcs
  | keep => exact List.cons_ne_nil _ _
  | swap _ hw => exact fun hds => hw.1 (List.append_eq_nil_iff.1 hds).1

/-- What makes no difference between inert characters makes none between the first characters. -/
theorem head {α : Type} {f : Option Char → α} (h : Alike cs ds)
    (hf : ∀ x ∈ inert, ∀ y ∈ inert, f (some x) = f (some y)) : f cs.head? = f ds.head? := by
  cases h with
  | nil => rfl
  | keep => rfl
  | @swap u w _ _ hu hw =>
    obtain ⟨x, u, rfl⟩ := List.exists_cons_of_ne_nil hu.1
    obtain ⟨y, w, rfl⟩ := List.exists_cons_of_ne_nil hw.1
    exact hf x (hu.2 x List.mem_cons_self) y (hw.2 y List.mem_cons_self)

theorem getLast {α : Type} {f : Option Char → α} (h : Alike cs ds)
    (hf : ∀ x ∈ inert, ∀ y ∈ inert, f (some x) = f (some y)) : f cs.getLast? = f ds.getLast? := by
  rw [← List.head?_reverse, ← List.head?_reverse]
  exact h.reverse.head hf

theorem any (h : Alike cs ds) (hp : ∀ x ∈ inert, p x = false) : cs.any p = ds.any p := by
  have hrun : ∀ {u : List Char}, (∀ x ∈ u, x ∈ inert) → u.any p = false := by
    intro u hu
    rw [List.any_eq_false]
    intro x hx
    simp [hp x (hu x hx)]
  induction h with
  | nil => rfl
  | keep c _ ih => rw [List.any_cons, List.any_cons, ih]
  | swap hu hw _ ih => rw [List.any_append, List.any_append, hrun hu.2, hrun hw.2, ih]

end Alike

/-- Whether some two neighbours satisfy `q`, told from the first character. -/
theorem anyAdjacent_cons (q : Char → Char → Bool) (c : Char) (cs : List Char) :
    anyAdjacent q (c :: cs) = (cs.head?.any (q c) || anyAdjacent q cs) := by
  cases cs with
  | nil => rfl
  | cons d cs => rfl

/-- A plain scalar cannot start as the text does. -/
def startsMarked : List Char → Bool
  | [] => false
  | c :: rest => startsIndicator c || ((c == '?' || c == '-') && isBlankOrEnd rest.head?)

/-- The hint at the indentation of a text in a literal block. -/
def indentationHint : List Char → String
  | c :: _ => if c == ' ' || isBreak c then "2" else ""
  | [] => ""

/-- The hint at the breaks with which a text ends; the text is given from its end. -/
def chompingHint : List Char → String
  | [] => "-"
  | [c] => if isBreak c then "+" else "-"
  | c :: d :: _ => if !isBreak c then "-" else if isBreak d then "+" else ""

namespace Alike

variable {cs ds : List Char} {q : Char → Char → Bool}

theorem anyAdjacent (h : Alike cs ds) (hleft : ∀ x ∈ inert, ∀ y, q x y = false)
    (hright : ∀ x ∈ inert, ∀ y, q y x = false) : Yaml.anyAdjacent q cs = Yaml.anyAdjacent q ds := by
  have hrun : ∀ {u : List Char} (r : List Char), (∀ x ∈ u, x ∈ inert) →
      Yaml.anyAdjacent q (u ++ r) = Yaml.anyAdjacent q r := by
    intro u r hu
    induction u with
    | nil => rfl
    | cons x u ih =>
      have hx : ∀ o : Option Char, o.any (q x) = false := by
        intro o
        cases o with
        | none => rfl
        | some y => exact hleft x (hu x List.mem_cons_self) y
      rw [List.cons_append, anyAdjacent_cons, hx, ih fun y hy => hu y (List.mem_cons_of_mem _ hy)]
      rfl
  induction h with
  | nil => rfl
  | @keep cs ds c h ih =>
    have hhead : cs.head?.any (q c) = ds.head?.any (q c) :=
      h.head (f := fun o => o.any (q c)) fun x hx y hy => (hright x hx c).trans (hright y hy c).symm
    rw [anyAdjacent_cons, anyAdjacent_cons, hhead, ih]
  | swap hu hw _ ih => rw [hrun _ hu.2, hrun _ hw.2, ih]

theorem isBlankOrEnd_head (h : Alike cs ds) : isBlankOrEnd cs.head? = isBlankOrEnd ds.head? := by
  have hinert : ∀ x ∈ inert, isBlankOrEnd (some x) = false := Text.forall_of_all (by decide)
  exact h.head fun x hx y hy => (hinert x hx).trans (hinert y hy).symm

theorem hasOpenColon (h : Alike cs ds) : Yaml.hasOpenColon cs = Yaml.hasOpenColon ds := by
  have hrun : ∀ {u : List Char} (r : List Char), (∀ x ∈ u, x ∈ inert) →
      Yaml.hasOpenColon (u ++ r) = Yaml.hasOpenColon r := by
    have hinert : ∀ x ∈ inert, (x == ':') = false := Text.forall_of_all (by decide)
    intro u r hu
    induction u with
    | nil => rfl
    | cons x u ih =>
      rw [List.cons_append, Yaml.hasOpenColon, hinert x (hu x List.mem_cons_self),
        ih fun y hy => hu y (List.mem_cons_of_mem _ hy)]
      rfl
  induction h with
  | nil => rfl
  | keep c h ih => rw [Yaml.hasOpenColon, Yaml.hasOpenColon, h.isBlankOrEnd_head, ih]
  | swap hu hw _ ih => rw [hrun _ hu.2, hrun _ hw.2, ih]

/-- A beginning without inert characters. -/
theorem isPrefixOf (h : Alike cs ds) {t : List Char} (ht : ∀ x ∈ t, x ∉ inert) :
    t.isPrefixOf cs = t.isPrefixOf ds := by
  induction h generalizing t with
  | nil => rfl
  | keep c _ ih =>
    cases t with
    | nil => rfl
    | cons y t =>
      rw [List.isPrefixOf, List.isPrefixOf, ih fun x hx => ht x (List.mem_cons_of_mem _ hx)]
  | @swap u w _ _ hu hw _ _ =>
    cases t with
    | nil => rfl
    | cons y t =>
      have hy : ∀ x ∈ inert, (y == x) = false := by
        intro x hx
        rw [beq_eq_false_iff_ne]
        rintro rfl
        exact ht y List.mem_cons_self hx
      obtain ⟨a, u, rfl⟩ := List.exists_cons_of_ne_nil hu.1
      obtain ⟨b, w, rfl⟩ := List.exists_cons_of_ne_nil hw.1
      rw [List.cons_append, List.cons_append, List.isPrefixOf, List.isPrefixOf,
        hy a (hu.2 a List.mem_cons_self), hy b (hw.2 b List.mem_cons_self)]
      rfl

/-! ### Forms -/

theorem startsMarked (h : Alike cs ds) : Yaml.startsMarked cs = Yaml.startsMarked ds := by
  have hinert : ∀ x ∈ inert, startsIndicator x = false ∧ (x == '?' || x == '-') = false :=
    Text.forall_of_all (by decide)
  cases h with
  | nil => rfl
  | keep c h => simp only [Yaml.startsMarked, h.isBlankOrEnd_head]
  | @swap u w _ _ hu hw _ =>
    obtain ⟨a, u, rfl⟩ := List.exists_cons_of_ne_nil hu.1
    obtain ⟨b, w, rfl⟩ := List.exists_cons_of_ne_nil hw.1
    have ha := hinert a (hu.2 a List.mem_cons_self)
    have hb := hinert b (hw.2 b List.mem_cons_self)
    simp only [Yaml.startsMarked, List.cons_append, ha.1, ha.2, hb.1, hb.2, Bool.false_and]

theorem hasIndicator (h : Alike cs ds) : Yaml.hasIndicator cs = Yaml.hasIndicator ds := by
  have hmark := h.anyAdjacent (q := fun a b => isBlankOrEnd (some a) && b == '#')
    (fun x hx y => by
      have hblank : ∀ x ∈ inert, isBlankOrEnd (some x) = false := Text.forall_of_all (by decide)
      rw [hblank x hx, Bool.false_and])
    (fun x hx y => by
      have hmark : ∀ x ∈ inert, (x == '#') = false := Text.forall_of_all (by decide)
      rw [hmark x hx, Bool.and_false])
  have hdashes : ['-', '-', '-'].isPrefixOf cs = ['-', '-', '-'].isPrefixOf ds :=
    h.isPrefixOf (Text.forall_of_all (by decide))
  have hpoints : ['.', '.', '.'].isPrefixOf cs = ['.', '.', '.'].isPrefixOf ds :=
    h.isPrefixOf (Text.forall_of_all (by decide))
  show (['-', '-', '-'].isPrefixOf cs || ['.', '.', '.'].isPrefixOf cs || Yaml.startsMarked cs
      || Yaml.hasOpenColon cs || Yaml.anyAdjacent (fun a b => isBlankOrEnd (some a) && b == '#') cs) =
    (['-', '-', '-'].isPrefixOf ds || ['.', '.', '.'].isPrefixOf ds || Yaml.startsMarked ds
      || Yaml.hasOpenColon ds || Yaml.anyAdjacent (fun a b => isBlankOrEnd (some a) && b == '#') ds)
  rw [hdashes, hpoints, h.startsMarked, h.hasOpenColon, hmark]

theorem needsEscapes (h : Alike cs ds) : Yaml.needsEscapes cs = Yaml.needsEscapes ds := by
  have hprint : ∀ x ∈ inert, (!isPrintable x) = false := Text.forall_of_all (by decide)
  have hspace : ∀ x ∈ inert, (x == ' ') = false := Text.forall_of_all (by decide)
  have hbreak : ∀ x ∈ inert, isBreak x = false := Text.forall_of_all (by decide)
  have hpair := h.anyAdjacent (q := fun a b => a == ' ' && isBreak b)
    (fun x hx y => by rw [hspace x hx, Bool.false_and]) (fun x hx y => by rw [hbreak x hx, Bool.and_false])
  rw [Yaml.needsEscapes, Yaml.needsEscapes, h.any hprint, hpair]

theorem hasBreakSpace (h : Alike cs ds) : Yaml.hasBreakSpace cs = Yaml.hasBreakSpace ds := by
  have hspace : ∀ x ∈ inert, (x == ' ') = false := Text.forall_of_all (by decide)
  have hbreak : ∀ x ∈ inert, isBreak x = false := Text.forall_of_all (by decide)
  exact h.anyAdjacent (fun x hx y => by rw [hbreak x hx, Bool.false_and])
    (fun x hx y => by rw [hspace x hx, Bool.and_false])

theorem hasEdgeSpace (h : Alike cs ds) : Yaml.hasEdgeSpace cs = Yaml.hasEdgeSpace ds := by
  have hinert : ∀ x ∈ inert, (x == ' ' || isBreak x) = false := Text.forall_of_all (by decide)
  have hedge : ∀ x ∈ inert, ∀ y ∈ inert, (x == ' ' || isBreak x) = (y == ' ' || isBreak y) :=
    fun x hx y hy => (hinert x hx).trans (hinert y hy).symm
  let edge (o : Option Char) : Bool := o.any fun c => c == ' ' || isBreak c
  have hhead : edge cs.head? = edge ds.head? := h.head hedge
  have hlast : edge cs.getLast? = edge ds.getLast? := h.getLast hedge
  have hparts (cs : List Char) : Yaml.hasEdgeSpace cs = (edge cs.head? || edge cs.getLast?) := by
    rw [Yaml.hasEdgeSpace]
    cases cs.head? <;> cases cs.getLast? <;> rfl
  rw [hparts, hparts, hhead, hlast]

theorem unbroken (h : Alike cs ds) : cs.any isBreak = ds.any isBreak := h.any (Text.forall_of_all (by decide))

theorem plainAllowed (h : Alike cs ds) : Yaml.plainAllowed cs = Yaml.plainAllowed ds := by
  rw [Yaml.plainAllowed, Yaml.plainAllowed, h.hasEdgeSpace, h.hasBreakSpace, h.needsEscapes, h.unbroken,
    h.hasIndicator]

theorem singleAllowed (h : Alike cs ds) : Yaml.singleAllowed cs = Yaml.singleAllowed ds := by
  rw [Yaml.singleAllowed, Yaml.singleAllowed, h.hasBreakSpace, h.needsEscapes]

theorem literalAllowed (h : Alike cs ds) : Yaml.literalAllowed cs = Yaml.literalAllowed ds := by
  have hinert : ∀ x ∈ inert, (some x != some ' ') = true := Text.forall_of_all (by decide)
  have hlast := h.getLast (f := fun o => o != some ' ') fun x hx y hy => (hinert x hx).trans (hinert y hy).symm
  rw [Yaml.literalAllowed, Yaml.literalAllowed, h.needsEscapes, hlast]

theorem mem_line (h : Alike cs ds) : '\n' ∈ cs ↔ '\n' ∈ ds := by
  have hmem : ∀ t : List Char, t.any (· == '\n') = true ↔ '\n' ∈ t := by
    intro t
    simp
  have hany : cs.any (· == '\n') = ds.any (· == '\n') := h.any (Text.forall_of_all (by decide))
  rw [← hmem, ← hmem, hany]

/-- Texts that are alike are carried by the same forms. -/
theorem carries (h : Alike cs ds) {st : Style} (hst : st.Carries cs) : st.Carries ds := by
  cases st with
  | plain => exact ⟨h.ne_nil hst.1, h.plainAllowed ▸ hst.2⟩
  | single => exact ⟨h.singleAllowed ▸ hst.1, fun hn => hst.2 (h.mem_line.2 hn)⟩
  | double => trivial
  | literal => exact ⟨h.ne_nil hst.1, h.literalAllowed ▸ hst.2⟩

theorem indentationHint (h : Alike cs ds) : Yaml.indentationHint cs = Yaml.indentationHint ds := by
  have hspace : ∀ x ∈ inert, (x == ' ' || isBreak x) = false := Text.forall_of_all (by decide)
  cases h with
  | nil => rfl
  | keep => rfl
  | @swap u w _ _ hu hw _ =>
    obtain ⟨a, u, rfl⟩ := List.exists_cons_of_ne_nil hu.1
    obtain ⟨b, w, rfl⟩ := List.exists_cons_of_ne_nil hw.1
    simp only [Yaml.indentationHint, List.cons_append, hspace a (hu.2 a List.mem_cons_self),
      hspace b (hw.2 b List.mem_cons_self)]

theorem chompingHint (h : Alike cs ds) : Yaml.chompingHint cs = Yaml.chompingHint ds := by
  have hbreak : ∀ x ∈ inert, isBreak x = false := Text.forall_of_all (by decide)
  have hline : ∀ {x : Char} (r : List Char), x ∈ inert → Yaml.chompingHint (x :: r) = "-" := by
    intro x r hx
    cases r with
    | nil => simp only [Yaml.chompingHint, hbreak x hx, Bool.false_eq_true, if_false]
    | cons y r => simp only [Yaml.chompingHint, hbreak x hx, Bool.not_false, if_true]
  cases h with
  | nil => rfl
  | keep c h =>
    cases h with
    | nil => rfl
    | keep => rfl
    | @swap u w _ _ hu hw _ =>
      obtain ⟨a, u, rfl⟩ := List.exists_cons_of_ne_nil hu.1
      obtain ⟨b, w, rfl⟩ := List.exists_cons_of_ne_nil hw.1
      simp only [Yaml.chompingHint, List.cons_append, hbreak a (hu.2 a List.mem_cons_self),
        hbreak b (hw.2 b List.mem_cons_self)]
  | @swap u w _ _ hu hw _ =>
    obtain ⟨a, u, rfl⟩ := List.exists_cons_of_ne_nil hu.1
    obtain ⟨b, w, rfl⟩ := List.exists_cons_of_ne_nil hw.1
    rw [List.cons_append, List.cons_append, hline _ (hu.2 a List.mem_cons_self),
      hline _ (hw.2 b List.mem_cons_self)]

/-- What stands behind the bar of a literal block. -/
theorem literalHints (h : Alike cs ds) : Yaml.literalHints cs = Yaml.literalHints ds := by
  show Yaml.indentationHint cs ++ Yaml.chompingHint cs.reverse =
    Yaml.indentationHint ds ++ Yaml.chompingHint ds.reverse
  rw [h.indentationHint, h.reverse.chompingHint]

end Alike

end ScrapeFleet.Yaml
