/-
# ScrapeFleet.Proofs.Yaml.Filled — filling in a written document

Replacing the placeholder in a written document gives what the layout writes if each text is filled in behind
the choice of its form: the layout and the marks of the forms have no placeholder in them, and no placeholder
lies across their joints.
-/
import ScrapeFleet.Job.Basic
import ScrapeFleet.Proofs.Text.Substitute
import ScrapeFleet.Proofs.Yaml.Alike
import ScrapeFleet.Proofs.Yaml.Layout
import ScrapeFleet.Proofs.Yaml.Shown

namespace ScrapeFleet.Yaml

open Text (Apart substituteFrom substituteFrom_append substituteFrom_append_left substituteFrom_eq_self
  substituteFrom_hit substituteFrom_miss substituteFrom_induction)

/-- The placeholder behind its first character. -/
def placeholderTail : List Char := "(SHARD)".toList

/-- The characters of a text with the placeholder replaced. -/
def filled (new cs : List Char) : List Char := substituteFrom '$' placeholderTail new cs

/-- What can stand for a shard: decimal digits. -/
def IsShard (new : List Char) : Prop := new ≠ [] ∧ ∀ x ∈ new, x.isDigit = true

variable {new : List Char}

theorem inert_placeholder : ∀ x ∈ '$' :: placeholderTail, x ∈ inert := Text.forall_of_all (by decide)

theorem inert_of_isDigit {x : Char} (hx : x.isDigit = true) : x ∈ inert := by
  have hrange : ∀ n < 10, Char.ofNat (48 + n) ∈ inert := by decide
  have hbounds : 48 ≤ x.toNat ∧ x.toNat ≤ 57 := by
    rw [Char.isDigit, Bool.and_eq_true, decide_eq_true_eq, decide_eq_true_eq] at hx
    exact hx
  obtain ⟨n, hn⟩ : ∃ n, x.toNat = 48 + n := ⟨x.toNat - 48, by omega⟩
  rw [← Char.ofNat_toNat x, hn]
  exact hrange n (by omega)

theorem IsShard.inert (h : IsShard new) : new ≠ [] ∧ ∀ x ∈ new, x ∈ inert :=
  ⟨h.1, fun x hx => inert_of_isDigit (h.2 x hx)⟩

theorem alike_filled (hnew : IsShard new) (cs : List Char) : Alike cs (filled new cs) := by
  induction cs using substituteFrom_induction '$' placeholderTail with
  | nil =>
    rw [filled, Text.substituteFrom_nil]
    exact .nil
  | hit r ih =>
    rw [filled, substituteFrom_hit]
    exact .swap ⟨List.cons_ne_nil _ _, inert_placeholder⟩ hnew.inert ih
  | miss c r hmiss ih =>
    rw [filled, substituteFrom_miss hmiss]
    exact .keep c ih

/-! ## Writers that go character by character -/

/-- A writer of the inside of a scalar. It is told whether a line starts, and leaves inert characters as they
are; what it writes for another character does not look inert and has no placeholder in it. -/
structure Writer (w : Bool → List Char → List Char) (lead : Bool → List Char) : Prop where
  lead_line : lead false = []
  lead_mark : ∀ b, '$' ∉ lead b
  nil_mark : ∀ b, '$' ∉ w b []
  nil_head : ∀ b x, (w b []).head? = some x → x ∉ inert
  inert : ∀ b x r, x ∈ inert → w b (x :: r) = lead b ++ x :: w false r
  other : ∀ b x, x ∉ Yaml.inert → ∃ y t b', y ∉ Yaml.inert ∧ '$' ∉ t ∧ ∀ r, w b (x :: r) = y :: t ++ w b' r

namespace Writer

variable {w : Bool → List Char → List Char} {lead : Bool → List Char}

theorem run (h : Writer w lead) {u : List Char} (hu : ∀ x ∈ u, x ∈ Yaml.inert) (r : List Char) :
    w false (u ++ r) = u ++ w false r := by
  induction u with
  | nil => rfl
  | cons x u ih =>
    rw [List.cons_append, h.inert false x _ (hu x List.mem_cons_self), h.lead_line,
      ih fun y hy => hu y (List.mem_cons_of_mem _ hy)]
    rfl

theorem first_run (h : Writer w lead) (b : Bool) {u : List Char} (hu : u ≠ [] ∧ ∀ x ∈ u, x ∈ Yaml.inert)
    (r : List Char) : w b (u ++ r) = lead b ++ (u ++ w false r) := by
  obtain ⟨x, u, rfl⟩ := List.exists_cons_of_ne_nil hu.1
  rw [List.cons_append, h.inert b x _ (hu.2 x List.mem_cons_self),
    h.run fun y hy => hu.2 y (List.mem_cons_of_mem _ hy)]
  rfl

/-- Inert characters that were written were in the text. -/
theorem prefix_of_prefix (h : Writer w lead) {u r : List Char} (hu : ∀ x ∈ u, x ∈ Yaml.inert)
    (hpre : u <+: w false r) : u <+: r := by
  induction u generalizing r with
  | nil => exact List.nil_prefix
  | cons x u ih =>
    have hx : x ∈ Yaml.inert := hu x List.mem_cons_self
    obtain ⟨after, hafter⟩ := hpre
    cases r with
    | nil => exact absurd hx (h.nil_head false x (by rw [← hafter]; rfl))
    | cons c r =>
      by_cases hc : c ∈ Yaml.inert
      · rw [h.inert false c r hc, h.lead_line, List.nil_append, List.cons_append] at hafter
        obtain ⟨rfl, htail⟩ := List.cons.inj hafter
        exact List.cons_prefix_cons.2 ⟨rfl, ih (fun y hy => hu y (List.mem_cons_of_mem _ hy)) ⟨after, htail⟩⟩
      · obtain ⟨y, t, b', hy, -, hwrite⟩ := h.other false c hc
        rw [hwrite, List.cons_append, List.cons_append] at hafter
        exact absurd ((List.cons.inj hafter).1 ▸ hx) hy

/-- A writer writes the filled text where the text was written. -/
theorem filled (h : Writer w lead) (hnew : IsShard new) (b : Bool) (cs : List Char) :
    Yaml.filled new (w b cs) = w b (Yaml.filled new cs) := by
  induction cs using substituteFrom_induction '$' placeholderTail generalizing b with
  | nil =>
    rw [Yaml.filled, Yaml.filled, substituteFrom_eq_self (h.nil_mark b), Text.substituteFrom_nil]
  | hit r ih =>
    have hpattern : w b ('$' :: placeholderTail ++ r) = lead b ++ ('$' :: placeholderTail ++ w false r) :=
      h.first_run b ⟨List.cons_ne_nil _ _, inert_placeholder⟩ r
    have hrest : substituteFrom '$' placeholderTail new (w false r) =
        w false (substituteFrom '$' placeholderTail new r) := ih false
    rw [Yaml.filled, Yaml.filled, hpattern, substituteFrom_append_left (h.lead_mark b), substituteFrom_hit,
      substituteFrom_hit, h.first_run b hnew.inert, hrest]
  | miss c r hmiss ih =>
    have hrest : ∀ b, substituteFrom '$' placeholderTail new (w b r) =
        w b (substituteFrom '$' placeholderTail new r) := ih
    rw [Yaml.filled, Yaml.filled, substituteFrom_miss hmiss]
    by_cases hc : c ∈ Yaml.inert
    · -- the writer makes no placeholder out of what was none
      have hmiss' : ¬ '$' :: placeholderTail <+: c :: w false r := by
        intro hpre
        obtain ⟨rfl, htail⟩ := List.cons_prefix_cons.1 hpre
        have hin := h.prefix_of_prefix (fun x hx => inert_placeholder x (List.mem_cons_of_mem _ hx)) htail
        exact hmiss (List.cons_prefix_cons.2 ⟨rfl, hin⟩)
      rw [h.inert b c r hc, h.inert b c _ hc, substituteFrom_append_left (h.lead_mark b),
        substituteFrom_miss hmiss', hrest]
    · obtain ⟨y, t, b', hy, ht, hwrite⟩ := h.other b c hc
      have hmark : '$' ∉ y :: t := by
        rintro hmem
        rcases List.mem_cons.1 hmem with rfl | hmem
        · exact hy (by decide)
        · exact ht hmem
      rw [hwrite, hwrite, substituteFrom_append_left hmark, hrest]

end Writer

/-! ## The forms of scalars -/

/-- The indentation at the start of a line. -/
theorem toList_lead (b : Bool) (n : Nat) :
    (if b then spaces n else "").toList = List.replicate (if b then n else 0) ' ' := by
  cases b with
  | false => rfl
  | true => exact String.toList_ofList

theorem mark_not_mem_lead (b : Bool) (n : Nat) : '$' ∉ (if b then spaces n else "").toList := by
  rw [toList_lead]
  intro h
  exact absurd (List.eq_of_mem_replicate h) (by decide)

theorem head_lead (b : Bool) (n : Nat) {x : Char}
    (hx : (if b then spaces n else "").toList.head? = some x) : x ∉ inert := by
  rw [toList_lead] at hx
  rw [List.eq_of_mem_replicate (List.mem_of_head? hx)]
  decide

/-- Indentation and what stands behind it: nothing of it looks inert at first. -/
theorem exists_indented (b : Bool) (n : Nat) {y : Char} {t : List Char} (hy : y ∉ inert) (ht : '$' ∉ t) :
    ∃ z u, (if b then spaces n else "").toList ++ y :: t = z :: u ∧ z ∉ inert ∧ '$' ∉ u := by
  have hmark : '$' ∉ y :: t := by
    intro hmem
    rcases List.mem_cons.1 hmem with rfl | hmem
    · exact hy (by decide)
    · exact ht hmem
  rw [toList_lead]
  cases (if b then n else 0) with
  | zero => exact ⟨y, t, rfl, hy, ht⟩
  | succ k =>
    refine ⟨' ', List.replicate k ' ' ++ y :: t, rfl, by decide, fun hmem => ?_⟩
    rcases List.mem_append.1 hmem with hmem | hmem
    · exact absurd (List.eq_of_mem_replicate hmem) (by decide)
    · exact hmark hmem

theorem writer_singleBody (n : Nat) : Writer (fun b cs => (singleBody n b cs).toList)
    (fun b => (if b then spaces n else "").toList) where
  lead_line := rfl
  lead_mark b := mark_not_mem_lead b n
  nil_mark b := mark_not_mem_lead b n
  nil_head b x hx := head_lead b n hx
  inert b x r hx := by
    have hinert : ∀ x ∈ Yaml.inert, (x == ' ') = false ∧ isBreak x = false ∧ (x == '\'') = false :=
      Text.forall_of_all (by decide)
    obtain ⟨hspace, hbreak, hquote⟩ := hinert x hx
    simp only [singleBody, hspace, hbreak, hquote, Bool.false_eq_true, if_false]
    simp
  other b x hx := by
    have hmark : '$' ≠ x := by
      rintro rfl
      exact hx (by decide)
    by_cases hspace : x = ' '
    · subst hspace
      exact ⟨' ', [], b, by decide, by simp, fun r => by simp [singleBody]⟩
    · have hspace' : (x == ' ') = false := by simpa using hspace
      by_cases hbreak : isBreak x = true
      · exact ⟨x, [], true, hx, by simp, fun r => by simp [singleBody, hspace', hbreak]⟩
      · have hbreak' : isBreak x = false := by simpa using hbreak
        have hquote : '$' ∉ if x = '\'' then ['\''] else [] := by split <;> simp
        obtain ⟨z, u, hzu, hz, hu⟩ := exists_indented b n hx hquote
        refine ⟨z, u, false, hz, hu, fun r => ?_⟩
        rw [← hzu]
        by_cases hx' : x = '\''
        · subst hx'
          simp [singleBody, hbreak']
        · simp [singleBody, hspace', hbreak', hx']

theorem writer_literalBody (n : Nat) : Writer (fun b cs => (literalBody n b cs).toList)
    (fun b => (if b then spaces n else "").toList) where
  lead_line := rfl
  lead_mark b := mark_not_mem_lead b n
  nil_mark b := by simp [literalBody]
  nil_head b x hx := by simp [literalBody] at hx
  inert b x r hx := by
    have hinert : ∀ x ∈ Yaml.inert, isBreak x = false := Text.forall_of_all (by decide)
    simp [literalBody, hinert x hx]
  other b x hx := by
    by_cases hbreak : isBreak x = true
    · exact ⟨x, [], true, hx, by simp, fun r => by simp [literalBody, hbreak]⟩
    · obtain ⟨z, u, hzu, hz, hu⟩ := exists_indented b n (t := []) hx (by simp)
      refine ⟨z, u, false, hz, hu, fun r => ?_⟩
      have hbreak' : isBreak x = false := by simpa using hbreak
      rw [← hzu]
      simp [literalBody, hbreak']

theorem mark_not_mem_hexDigits (width n : Nat) : '$' ∉ (hexDigits width n).toList := by
  have hdigit : ∀ d < 16, '$' ≠ (Nat.digitChar d).toUpper := by decide
  rw [hexDigits, String.toList_ofList, List.mem_append]
  rintro (h | h)
  · exact absurd (List.eq_of_mem_replicate h) (by decide)
  · obtain ⟨y, hy, hmark⟩ := List.mem_map.1 h
    obtain ⟨d, hd, rfl⟩ := Text.exists_digit_of_mem_toDigits (by decide) n hy
    exact hdigit d hd hmark.symm

/-- An escape starts with a backslash; a character that needs none stands for itself. -/
theorem exists_escaped {x : Char} (hx : x ∉ inert) :
    ∃ y t, (escaped x).toList = y :: t ∧ y ∉ inert ∧ '$' ∉ t := by
  have hhex : ∀ width n, ∀ c ≠ '$', '$' ∉ c :: (hexDigits width n).toList := by
    intro width n c hc hmem
    rcases List.mem_cons.1 hmem with hmem | hmem
    · exact hc hmem.symm
    · exact mark_not_mem_hexDigits width n hmem
  unfold escaped
  split
  all_goals try exact ⟨'\\', _, rfl, by decide, by decide⟩
  split
  · exact ⟨x, [], by simp, hx, by simp⟩
  · split
    · exact ⟨'\\', _, by simp, by decide, hhex 2 x.toNat 'x' (by decide)⟩
    · split
      · exact ⟨'\\', _, by simp, by decide, hhex 4 x.toNat 'u' (by decide)⟩
      · exact ⟨'\\', _, by simp, by decide, hhex 8 x.toNat 'U' (by decide)⟩

theorem writer_escaped : Writer (fun _ cs => cs.flatMap fun c => (escaped c).toList) (fun _ => []) where
  lead_line := rfl
  lead_mark _ := by simp
  nil_mark _ := by simp
  nil_head _ x hx := by simp at hx
  inert _ x r hx := by
    have hinert : ∀ x ∈ Yaml.inert, (escaped x).toList = [x] := Text.forall_of_all (by decide)
    simp [hinert x hx]
  other _ x hx := by
    obtain ⟨y, t, hyt, hy, ht⟩ := exists_escaped hx
    exact ⟨y, t, false, hy, ht, fun r => by simp [hyt]⟩

/-- A text as `fill` leaves it. -/
structure Fills (fill : String → String) (new : List Char) : Prop where
  shard : IsShard new
  toList : ∀ s, (fill s).toList = filled new s.toList

variable {fill : String → String}

theorem Fills.append_left (h : Fills fill new) {w : String} (hw : '$' ∉ w.toList) (t : String) :
    fill (w ++ t) = w ++ fill t := by
  rw [← String.toList_inj, h.toList, String.toList_append, String.toList_append, h.toList, filled,
    substituteFrom_append_left hw]
  rfl

theorem Fills.append (h : Fills fill new) {w t : String}
    (hapart : Apart '$' placeholderTail w.toList t.toList) : fill (w ++ t) = fill w ++ fill t := by
  rw [← String.toList_inj, h.toList, String.toList_append, String.toList_append, h.toList, h.toList, filled,
    substituteFrom_append hapart]
  rfl

theorem Fills.eq_self (h : Fills fill new) {w : String} (hw : '$' ∉ w.toList) : fill w = w := by
  rw [← String.toList_inj, h.toList, filled, substituteFrom_eq_self hw]

theorem mark_not_mem_literalHints (cs : List Char) : '$' ∉ (literalHints cs).toList := by
  simp only [literalHints]
  split <;> split
  all_goals (repeat' split) <;> decide

/-- What is filled in for a written text is what is written for the filled text. -/
theorem Fills.write (h : Fills fill new) (st : Style) (n : Nat) (s : String) :
    fill (st.write n s) = st.write n (fill s) := by
  have halike : Alike s.toList (fill s).toList := (h.toList s).symm ▸ alike_filled h.shard s.toList
  -- the marks around a body hold no part of a placeholder, so the body is filled by itself
  cases st with
  | plain => rfl
  | single =>
    have hbody : fill (singleBody n false s.toList) = singleBody n false (fill s).toList := by
      rw [← String.toList_inj, h.toList, h.toList]
      exact (writer_singleBody n).filled h.shard false s.toList
    have hend : fill "'" = "'" := h.eq_self (by decide)
    have hapart : Apart '$' placeholderTail (singleBody n false s.toList).toList "'".toList :=
      .of_head (by decide)
    simp only [Style.write, singleQuoted]
    rw [String.append_assoc, h.append_left (by decide), h.append hapart, hbody, hend, String.append_assoc]
  | double =>
    have hbody : fill (String.join (s.toList.map escaped)) = String.join ((fill s).toList.map escaped) := by
      rw [← String.toList_inj, h.toList, h.toList, String.toList_join, String.toList_join,
        List.flatMap_map, List.flatMap_map]
      exact writer_escaped.filled h.shard false s.toList
    have hend : fill "\"" = "\"" := h.eq_self (by decide)
    have hapart : Apart '$' placeholderTail (String.join (s.toList.map escaped)).toList "\"".toList :=
      .of_head (by decide)
    simp only [Style.write, doubleQuoted]
    rw [String.append_assoc, h.append_left (by decide), h.append hapart, hbody, hend, String.append_assoc]
  | literal =>
    have hbody : fill (literalBody n true s.toList) = literalBody n true (fill s).toList := by
      rw [← String.toList_inj, h.toList, h.toList]
      exact (writer_literalBody n).filled h.shard true s.toList
    simp only [Style.write, literalBlock]
    rw [String.append_assoc, String.append_assoc, h.append_left (by decide),
      h.append_left (mark_not_mem_literalHints _), h.append_left (by decide), hbody, halike.literalHints,
      String.append_assoc, String.append_assoc]

/-! ## The layout -/

/-- `fill` goes through `w`, makes `w'` of it and goes on with what follows. -/
def Passes (fill : String → String) (w w' : String) : Prop := ∀ t, fill (w ++ t) = w' ++ fill t

theorem Passes.append {a a' b b' : String} (ha : Passes fill a a') (hb : Passes fill b b') :
    Passes fill (a ++ b) (a' ++ b') := by
  intro t
  rw [String.append_assoc, ha, hb, String.append_assoc]

theorem isBreak_of_last_endLine {w : String} {x : Char} (hx : (endLine w).toList.getLast? = some x) :
    isBreak x = true := by
  have hadded : (w ++ "\n").toList.getLast? = some '\n' := by simp
  unfold endLine at hx
  split at hx
  · rename_i c hc
    split at hx
    · rename_i hbreak
      obtain rfl : c = x := Option.some.inj (hc.symm.trans hx)
      exact hbreak
    · obtain rfl : '\n' = x := Option.some.inj (hadded.symm.trans hx)
      rfl
  · obtain rfl : '\n' = x := Option.some.inj (hadded.symm.trans hx)
    rfl

section

variable (h : Fills fill new)
include h

theorem Fills.passes (w : String) (hw : '$' ∉ w.toList) : Passes fill w w := fun t => h.append_left hw t

theorem Fills.endLine (w : String) : fill (endLine w) = endLine (fill w) := by
  have halike : Alike w.toList (fill w).toList := (h.toList w).symm ▸ alike_filled h.shard w.toList
  have hend : fill (w ++ "\n") = fill w ++ "\n" := by
    have hapart : Apart '$' placeholderTail w.toList "\n".toList := .of_head (by decide)
    rw [h.append hapart, h.eq_self (by decide : '$' ∉ "\n".toList)]
  let ended (last : Option Char) : Bool := last.any isBreak
  have hended : ended w.toList.getLast? = ended (fill w).toList.getLast? := by
    have hinert : ∀ x ∈ inert, isBreak x = false := Text.forall_of_all (by decide)
    exact halike.getLast fun x hx y hy => (hinert x hx).trans (hinert y hy).symm
  have hline : ∀ s : String, Yaml.endLine s = if ended s.toList.getLast? then s else s ++ "\n" := by
    intro s
    unfold Yaml.endLine
    cases s.toList.getLast? <;> rfl
  rw [hline, hline, ← hended]
  split
  · rfl
  · exact hend

theorem Fills.passes_endLine (w : String) : Passes fill (Yaml.endLine w) (Yaml.endLine (fill w)) := by
  intro t
  have hapart : Apart '$' placeholderTail (Yaml.endLine w).toList t.toList := by
    refine .inr fun x hx hmem => ?_
    have hinert : ∀ x ∈ '$' :: placeholderTail, isBreak x = false := Text.forall_of_all (by decide)
    exact absurd (isBreak_of_last_endLine hx) (by simp [hinert x hmem])
  rw [h.append hapart, h.endLine]

theorem Fills.passes_scalar (n : Nat) (s : String) :
    Passes fill (Yaml.endLine (scalarText n s)) (Yaml.endLine (written fill n s)) := by
  have hpass := h.passes_endLine (scalarText n s)
  rwa [scalarText, h.write] at hpass

theorem Fills.passes_spaces (n : Nat) : Passes fill (spaces n) (spaces n) :=
  h.passes _ (mark_not_mem_lead true n)

theorem Fills.passes_int (n : Int) : Passes fill (toString n) (toString n) := by
  have hdigit : ∀ d < 10, '$' ≠ d.digitChar := by decide
  obtain ⟨sign, m, hwritten, hsign⟩ := Text.exists_sign n
  refine h.passes _ fun hmark => ?_
  rw [hwritten, List.mem_append] at hmark
  rcases hmark with hmark | hmark
  · rcases hsign with rfl | rfl <;> simp at hmark
  · obtain ⟨d, hd, hchar⟩ := Text.exists_digit_of_mem_toDigits (by decide) m hmark
    exact hdigit d hd hchar

theorem Fills.passes_keyText (i : Nat) (k : String) :
    Passes fill (keyText scalarText i k ++ ":") (keyText (written fill) i k ++ ":") := by
  unfold keyText
  split
  · intro t
    have hapart : Apart '$' placeholderTail (scalarText (i + 2) k).toList (":" ++ t).toList := by
      rw [String.toList_append]
      exact .of_head (by decide)
    rw [String.append_assoc, h.append hapart, h.append_left (by decide), scalarText, h.write,
      String.append_assoc]
    rfl
  · have hmark : Passes fill "? " "? " := h.passes _ (by decide)
    exact ((hmark.append (h.passes_scalar (i + 2) k)).append (h.passes_spaces i)).append
      (h.passes _ (by decide))

mutual

theorem Fills.passes_inline : ∀ (i : Nat) (v : Value),
    Passes fill (inline scalarText i v) (inline (written fill) i v)
  | _, .bool b => by
    cases b with
    | true => exact h.passes "true\n" (by decide)
    | false => exact h.passes "false\n" (by decide)
  | _, .int n => (h.passes_int n).append (h.passes _ (by decide))
  | i, .text s => h.passes_scalar i s
  | _, .list [] => h.passes "[]\n" (by decide)
  | i, .list (v :: vs) =>
    ((h.passes _ (by decide)).append (Fills.passes_inline (i + 2) v)).append (Fills.passes_items i vs)
  | _, .record [] => h.passes "\x7b\x7d\n" (by decide)
  | i, .record ((k, v) :: fs) =>
    ((h.passes_keyText i k).append (Fills.passes_valueText i (isShortKey k) v)).append
      (Fills.passes_fields i fs)

theorem Fills.passes_valueText : ∀ (i : Nat) (short : Bool) (v : Value),
    Passes fill (valueText scalarText i short v) (valueText (written fill) i short v)
  | _, _, .bool b => by
    cases b with
    | true => exact h.passes " true\n" (by decide)
    | false => exact h.passes " false\n" (by decide)
  | _, _, .int n => ((h.passes _ (by decide)).append (h.passes_int n)).append (h.passes _ (by decide))
  | i, _, .text s => (h.passes _ (by decide)).append (h.passes_scalar (i + 2) s)
  | _, _, .list [] => h.passes " []\n" (by decide)
  | _, _, .record [] => h.passes " \x7b\x7d\n" (by decide)
  | i, true, .list (v :: vs) => (h.passes _ (by decide)).append (Fills.passes_items i (v :: vs))
  | i, false, .list (v :: vs) =>
    ((h.passes _ (by decide)).append (Fills.passes_inline (i + 4) v)).append (Fills.passes_items (i + 2) vs)
  | i, true, .record ((k, v) :: fs) =>
    (h.passes _ (by decide)).append (Fills.passes_fields (i + 2) ((k, v) :: fs))
  | i, false, .record ((k, v) :: fs) => by
    have hkey := (h.passes_keyText (i + 2) k).append (Fills.passes_valueText (i + 2) (isShortKey k) v)
    have hspace : Passes fill " " " " := h.passes _ (by decide)
    have hall := (hspace.append hkey).append (Fills.passes_fields (i + 2) fs)
    simpa only [valueText, Bool.false_eq_true, if_false, String.append_assoc] using hall

theorem Fills.passes_items : ∀ (i : Nat) (vs : List Value),
    Passes fill (items scalarText i vs) (items (written fill) i vs)
  | _, [] => h.passes "" (by decide)
  | i, v :: vs =>
    (((h.passes_spaces i).append (h.passes _ (by decide))).append (Fills.passes_inline (i + 2) v)).append
      (Fills.passes_items i vs)

theorem Fills.passes_fields : ∀ (i : Nat) (fs : List (String × Value)),
    Passes fill (fields scalarText i fs) (fields (written fill) i fs)
  | _, [] => h.passes "" (by decide)
  | i, (k, v) :: fs => by
    have hkey := (h.passes_keyText i k).append (Fills.passes_valueText i (isShortKey k) v)
    have hall := ((h.passes_spaces i).append hkey).append (Fills.passes_fields i fs)
    simpa only [fields, String.append_assoc] using hall

end

/-- Filling in a written document. -/
theorem Fills.render (v : Value) : fill (render v) = inline (written fill) 0 v := by
  have hpass := Fills.passes_inline h 0 v ""
  have hempty : fill "" = "" := h.eq_self (by decide)
  rwa [hempty, String.append_empty, String.append_empty] at hpass

end

/-! ## What is filled in -/

theorem Fills.alike (h : Fills fill new) (s : String) : Alike s.toList (fill s).toList :=
  (h.toList s).symm ▸ alike_filled h.shard s.toList

/-- What is filled in suits the forms that were chosen for the texts. -/
theorem Fills.suits (h : Fills fill new) : Suits fill where
  carries s := (h.alike s).carries (style_carries s)
  unbroken s hs := by
    have hnone : ∀ {cs : List Char}, cs.any isBreak = false ↔ ∀ x ∈ cs, isBreak x = false := by simp
    exact hnone.1 ((h.alike s).unbroken ▸ hnone.2 hs)

/-- A text that changes has a digit in it then. -/
theorem filled_eq_self_or_digit (hnew : IsShard new) (cs : List Char) :
    filled new cs = cs ∨ ∃ x ∈ filled new cs, x.isDigit = true := by
  induction cs using substituteFrom_induction '$' placeholderTail with
  | nil => exact .inl Text.substituteFrom_nil
  | hit r ih =>
    obtain ⟨x, t, ht⟩ := List.exists_cons_of_ne_nil hnew.1
    have hx : x ∈ new := ht ▸ List.mem_cons_self
    refine .inr ⟨x, ?_, hnew.2 x hx⟩
    rw [filled, substituteFrom_hit]
    exact List.mem_append_left _ hx
  | miss c r hmiss ih =>
    rw [filled, substituteFrom_miss hmiss]
    rcases ih with ih | ⟨x, hx, hdigit⟩
    · exact .inl (congrArg _ ih)
    · exact .inr ⟨x, List.mem_cons_of_mem _ hx, hdigit⟩

/-- What stands without quotes does not become a spelling of null. -/
theorem Fills.isPresent (h : Fills fill new) {s : String} (hs : style s = .plain) : IsPresent (fill s) := by
  rcases filled_eq_self_or_digit h.shard s.toList with hself | ⟨x, hx, hdigit⟩
  · have hfill : fill s = s := by rw [← String.toList_inj, h.toList, hself]
    rw [hfill]
    exact isPresent_of_plain hs
  · exact isPresent_of_digit ((h.toList s).symm ▸ hx) hdigit

end ScrapeFleet.Yaml
