/-
# ScrapeFleet.Proofs.Yaml.Shown — what the document of a written value shows

A reader that knows what it wants finds the written value in its document, with what was filled in for the
texts. A part that is set aside first is settled by the shapes of its scalars: there the value is found only
if what stands without quotes still means text.
-/
import ScrapeFleet.Proofs.Document.Fields
import ScrapeFleet.Proofs.Yaml.Tree

namespace ScrapeFleet.Yaml

open Doc (Shows)

/-! ## Numbers and truth values -/

/-- A number's digits are read as the number, and as nothing else that is a number. -/
theorem integer?_toDigits {n : Nat} (hn : n < Nat.pow 2 64) :
    integer? 64 (Nat.toDigits 10 n) = some (n : Int) := by
  have hdigit : ∀ e < 10, e.digitChar ∉ ['+', '-', 'x', 'o', 'b'] := by decide
  have hmem : ∀ x ∈ Nat.toDigits 10 n, x ∉ ['+', '-', 'x', 'o', 'b'] := by
    intro x hx
    obtain ⟨e, he, rfl⟩ := Text.exists_digit_of_mem_toDigits (by decide) n hx
    exact hdigit e he
  have hread : Text.digits? 10 (Nat.toDigits 10 n) = some n :=
    Text.digits?_toDigits (by decide) (by decide) n
  have hlead : ∀ r, Nat.toDigits 10 n = '0' :: r → r = [] := by
    intro r hr
    rcases Nat.eq_zero_or_pos n with rfl | hpos
    · exact (List.cons.inj hr).2.symm
    · exact absurd (by rw [hr]; rfl) (Text.head_toDigits hpos)
  generalize Nat.toDigits 10 n = cs at hmem hread hlead
  -- no sign, no base in front and no zero that leads
  have hplus : ∀ r, cs ≠ '+' :: r := fun r hr => absurd (hmem '+' (by simp [hr])) (by decide)
  have hminus : ∀ r, cs ≠ '-' :: r := fun r hr => absurd (hmem '-' (by simp [hr])) (by decide)
  have hmarked : marked? cs = none := by
    unfold marked?
    split
    · exact absurd (hmem 'x' (by simp)) (by decide)
    · exact absurd (hmem 'o' (by simp)) (by decide)
    · exact absurd (hmem 'b' (by simp)) (by decide)
    · rfl
  have hzero : isZeroLed cs = false := by
    unfold isZeroLed
    split
    · exact absurd rfl (hminus _)
    · exact absurd rfl (hplus _)
    · dsimp only
      split
      · exact absurd (hlead _ rfl) (List.cons_ne_nil _ _)
      · rfl
  have hunsigned : unsigned? cs = some n := by
    unfold unsigned?
    split
    · exact absurd rfl (hplus _)
    · simp only [hmarked, hzero, hread, Bool.false_eq_true, if_false]
  simp only [integer?, hunsigned, if_pos hn]

theorem toList_nat (n : Nat) : (toString (n : Int)).toList = Nat.toDigits 10 n := String.toList_ofList

/-- The text is there and does not say that something is absent. -/
def IsPresent (s : String) : Prop := s.isEmpty = false ∧ isNull s = false

instance (s : String) : Decidable (IsPresent s) := inferInstanceAs (Decidable (_ ∧ _))

/-- No spelling of null has a digit in it. -/
theorem isPresent_of_digit {s : String} {x : Char} (hx : x ∈ s.toList) (hdigit : x.isDigit = true) :
    IsPresent s := by
  have hspelling : ∀ t ∈ ["", "null", "Null", "NULL", "~"], s ≠ t := by
    rintro t ht rfl
    have hnone : ∀ t ∈ ["", "null", "Null", "NULL", "~"], t.toList.any Char.isDigit = false := by decide
    exact absurd (List.any_eq_true.2 ⟨x, hx, hdigit⟩) (by simp [hnone s ht])
  refine ⟨?_, ?_⟩
  · rw [String.isEmpty_eq_false_iff]
    exact hspelling "" (by simp)
  · simp [isNull, hspelling]

/-- What stands without quotes means text. -/
theorem meaning_of_plain {s : String} (h : style s = .plain) : meaning s = .text := by
  simp only [style] at h
  split at h
  · split at h <;> cases h
  · split at h
    · rename_i hplain
      simp only [readsAsText, Bool.and_eq_true, beq_iff_eq] at hplain
      exact hplain.1.1
    · split at h <;> cases h

/-- A text that stands without quotes is there. -/
theorem isPresent_of_plain {s : String} (h : style s = .plain) : IsPresent s := by
  have hmeaning : meaning s = .text := meaning_of_plain h
  unfold meaning at hmeaning
  split at hmeaning
  · cases hmeaning
  · rename_i hnone
    simpa [IsPresent] using hnone

theorem isPresent_int (n : Int) : IsPresent (toString n) := by
  have hdigit : ∀ d < 10, d.digitChar.isDigit = true := by decide
  obtain ⟨sign, m, hwritten, -⟩ := Text.exists_sign n
  obtain ⟨x, r, hr⟩ := List.exists_cons_of_ne_nil (Nat.toDigits_ne_nil (b := 10) (n := m))
  have hx : x ∈ Nat.toDigits 10 m := hr ▸ List.mem_cons_self
  obtain ⟨d, hd, rfl⟩ := Text.exists_digit_of_mem_toDigits (by decide) m hx
  exact isPresent_of_digit (hwritten ▸ List.mem_append_right _ hx) (hdigit d hd)

/-! ## The document as it came -/

variable {fill : String → String}

theorem itemDocs_eq_map (fill : String → String) (vs : List Value) :
    itemDocs fill vs = vs.map (valueDoc fill) := by
  induction vs with
  | nil => rfl
  | cons v vs ih => rw [itemDocs, ih, List.map_cons]

theorem fieldDocs_eq_map (fill : String → String) (fs : List (String × Value)) :
    fieldDocs fill fs = fs.map fun f => (valueDoc fill (.text f.1), valueDoc fill f.2) := by
  induction fs with
  | nil => rfl
  | cons f fs ih => rw [fieldDocs, ih, List.map_cons, valueDoc]

theorem optional?_scalar {s : Scalar} (htag : s.tag = none) (hpresent : s.style = .plain → IsPresent s.text)
    {α : Type} (read : Doc → Option α) : (Doc.scalar s).optional? read = (read (.scalar s)).map some := by
  rw [Doc.optional?]
  by_cases hplain : s.style = .plain
  · simp [hplain, htag, (hpresent hplain).1, (hpresent hplain).2]
  · simp [hplain]

/-- The document of a written value shows it. -/
theorem shows_valueDoc (hpresent : ∀ s, style s = .plain → IsPresent (fill s)) :
    Shows fill (valueDoc fill) where
  text _ := rfl
  bool b := by
    cases b with
    | true => rfl
    | false => rfl
  nat n hn := by
    have hread : (valueDoc fill (.nat n)).int? = some (n : Int) := by
      show integer? 64 (toString (n : Int)).toList = _
      rw [toList_nat, integer?_toDigits hn]
    have hrange : 0 ≤ (n : Int) ∧ (n : Int) < Nat.pow 2 64 := by omega
    simp only [Doc.nat?, hread, if_pos hrange, Int.toNat_natCast]
  items vs := by
    rw [valueDoc, itemDocs_eq_map]
    rfl
  record fs := by
    rw [valueDoc, fieldDocs_eq_map]
  present v α read := by
    match v with
    | .bool b => exact optional?_scalar rfl (fun _ => by cases b <;> decide) read
    | .int n => exact optional?_scalar rfl (fun _ => isPresent_int n) read
    | .text s =>
      refine optional?_scalar rfl (fun hstyle => hpresent s ?_) read
      revert hstyle
      show (style s).scalarStyle = .plain → style s = .plain
      cases style s <;> simp [Style.scalarStyle]
    | .list _ => rfl
    | .record _ => rfl

/-! ## The settled document -/

mutual

/-- What a value says, with what is filled in for its texts. -/
def settledDoc (fill : String → String) : Value → Doc
  | .bool b => .bool b
  | .int n => .int n
  | .text s => .text (fill s)
  | .list vs => .list (settledItems fill vs)
  | .record fs => .record (settledFields fill fs)

/-- What the items of a list say. -/
def settledItems (fill : String → String) : List Value → List Doc
  | [] => []
  | v :: vs => settledDoc fill v :: settledItems fill vs

/-- What the entries of a record say. -/
def settledFields (fill : String → String) : List (String × Value) → List (Doc × Doc)
  | [] => []
  | (k, v) :: fs => (.text (fill k), settledDoc fill v) :: settledFields fill fs

end

theorem settledItems_eq_map (fill : String → String) (vs : List Value) :
    settledItems fill vs = vs.map (settledDoc fill) := by
  induction vs with
  | nil => rfl
  | cons v vs ih => rw [settledItems, ih, List.map_cons]

theorem settledFields_eq_map (fill : String → String) (fs : List (String × Value)) :
    settledFields fill fs = fs.map fun f => (settledDoc fill (.text f.1), settledDoc fill f.2) := by
  induction fs with
  | nil => rfl
  | cons f fs ih => rw [settledFields, ih, List.map_cons, settledDoc]

theorem shows_settledDoc (fill : String → String) : Shows fill (settledDoc fill) where
  text _ := rfl
  bool _ := rfl
  nat n hn := by
    have hrange : 0 ≤ (n : Int) ∧ (n : Int) < Nat.pow 2 64 := by omega
    show (if 0 ≤ (n : Int) ∧ (n : Int) < Nat.pow 2 64 then some (n : Int).toNat else none) = some n
    rw [if_pos hrange, Int.toNat_natCast]
  items vs := by
    rw [settledDoc, settledItems_eq_map]
    rfl
  record fs := by
    rw [settledDoc, settledFields_eq_map]
  present v α read := by
    cases v <;> rfl

/-- What is filled in for a leaf that stands without quotes still means what the leaf is. -/
def KeepsMeaning (fill : String → String) : Value → Prop
  | .text s => style s = .plain → meaning (fill s) = .text
  | .int n => meaning (toString n) = .int n
  | _ => True

theorem settle?_text {s : String} (h : KeepsMeaning fill (.text s)) :
    (Doc.scalar (textScalar fill s)).settle? = some (.text (fill s)) := by
  unfold textScalar
  cases hstyle : style s with
  | plain =>
    show Doc.settle?.ofMeaning (meaning (fill s)) (fill s) = _
    rw [h hstyle]
    rfl
  | single => rfl
  | double => rfl
  | literal => rfl

mutual

theorem settle?_valueDoc : ∀ v : Value, (∀ l ∈ v.leaves, KeepsMeaning fill l) →
    (valueDoc fill v).settle? = some (settledDoc fill v)
  | .bool b, _ => by cases b <;> rfl
  | .int n, h => by
    have hmeaning : meaning (toString n) = .int n := h (.int n) (by simp [Value.leaves])
    show Doc.settle?.ofMeaning (meaning (toString n)) (toString n) = _
    rw [hmeaning]
    rfl
  | .text s, h => settle?_text (h (.text s) (by simp [Value.leaves]))
  | .list vs, h => by
    rw [valueDoc, Doc.settle?, settleAll?_itemDocs vs h]
    rfl
  | .record fs, h => by
    rw [valueDoc, Doc.settle?, settleEntries?_fieldDocs fs h]
    rfl

theorem settleAll?_itemDocs : ∀ vs : List Value, (∀ l ∈ Value.itemLeaves vs, KeepsMeaning fill l) →
    Doc.settle?.settleAll? (itemDocs fill vs) = some (settledItems fill vs)
  | [], _ => rfl
  | v :: vs, h => by
    have hv := settle?_valueDoc v fun l hl => h l (by simp [Value.itemLeaves, hl])
    have hvs := settleAll?_itemDocs vs fun l hl => h l (by simp [Value.itemLeaves, hl])
    rw [itemDocs, Doc.settle?.settleAll?, hv, hvs]
    rfl

theorem settleEntries?_fieldDocs : ∀ fs : List (String × Value),
    (∀ l ∈ Value.fieldLeaves fs, KeepsMeaning fill l) →
    Doc.settle?.settleEntries? (fieldDocs fill fs) = some (settledFields fill fs)
  | [], _ => rfl
  | (k, v) :: fs, h => by
    have hk := settle?_text (h (.text k) (by simp [Value.fieldLeaves]))
    have hv := settle?_valueDoc v fun l hl => h l (by simp [Value.fieldLeaves, hl])
    have hfs := settleEntries?_fieldDocs fs fun l hl => h l (by simp [Value.fieldLeaves, hl])
    rw [fieldDocs, Doc.settle?.settleEntries?, hk, hv, hfs]
    rfl

end

/-- A value without numbers is settled if its texts stay texts. -/
theorem settle?_of_texts {v : Value} (hint : ∀ l ∈ v.leaves, ∀ n, l ≠ .int n)
    (htext : ∀ s, .text s ∈ v.leaves → style s = .plain → meaning (fill s) = .text) :
    (valueDoc fill v).settle? = some (settledDoc fill v) := by
  refine settle?_valueDoc v fun l hl => ?_
  cases l with
  | text s => exact htext s hl
  | int n => exact absurd rfl (hint _ hl n)
  | bool => trivial
  | list => trivial
  | record => trivial

end ScrapeFleet.Yaml
