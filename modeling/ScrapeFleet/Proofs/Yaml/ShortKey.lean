/-
# ScrapeFleet.Proofs.Yaml.ShortKey — a short key stays short

A reader looks for the colon of a key within a number of characters. A key that the writer takes for short
stays far below it in every form, also with a shard filled in that is no longer than 32 digits: what is put in
the place of a placeholder is then no longer than what an escape may make of its bytes. So a written record is
read back whatever its keys are.
-/
import Mathlib.Algebra.Ring.Nat
import ScrapeFleet.Proofs.Yaml.Filled

namespace ScrapeFleet.Yaml

variable {new : List Char} {fill : String → String}

/-- The bytes of a text. -/
theorem utf8ByteSize_eq_sum (s : String) : s.utf8ByteSize = (s.toList.map Char.utf8Size).sum := by
  have hlist : ∀ cs : List Char, (String.ofList cs).utf8ByteSize = (cs.map Char.utf8Size).sum := by
    intro cs
    induction cs with
    | nil => rfl
    | cons c cs ih =>
      rw [String.ofList_cons, String.utf8ByteSize_append, String.utf8ByteSize_singleton, ih]
      rfl
  have h := hlist s.toList
  rwa [String.ofList_toList] at h

/-- A measure of characters that counts digits once and no character more than four times its bytes. -/
structure Measured (f : Char → Nat) : Prop where
  byte : ∀ c, f c ≤ 4 * c.utf8Size
  digit : ∀ c : Char, c.isDigit = true → f c ≤ 1

theorem Measured.sum_digits_le {f : Char → Nat} (hf : Measured f) {ds : List Char}
    (hds : ∀ c ∈ ds, c.isDigit = true) : (ds.map f).sum ≤ ds.length := by
  induction ds with
  | nil => exact Nat.le_refl 0
  | cons c ds ih =>
    have hc := hf.digit c (hds c List.mem_cons_self)
    have hrest := ih fun d hd => hds d (List.mem_cons_of_mem _ hd)
    rw [List.map_cons, List.sum_cons, List.length_cons]
    omega

theorem Measured.sum_filled_le {f : Char → Nat} (hf : Measured f) (hnew : IsShard new)
    (hlen : new.length ≤ 32) (cs : List Char) :
    ((filled new cs).map f).sum ≤ 4 * (cs.map Char.utf8Size).sum := by
  induction cs using Text.substituteFrom_induction '$' placeholderTail with
  | nil => simp [filled]
  | hit r ih =>
    have hput : (new.map f).sum ≤ new.length := hf.sum_digits_le hnew.2
    have hpattern : (('$' :: placeholderTail).map Char.utf8Size).sum = 8 := by decide
    rw [filled, Text.substituteFrom_hit, List.map_append, List.sum_append, List.map_append,
      List.sum_append, hpattern]
    rw [filled] at ih
    omega
  | miss c r hmiss ih =>
    have hc := hf.byte c
    rw [filled, Text.substituteFrom_miss hmiss, List.map_cons, List.sum_cons, List.map_cons, List.sum_cons]
    rw [filled] at ih
    omega

theorem measured_one : Measured fun _ => 1 where
  byte c := by
    have hpos := c.utf8Size_pos
    omega
  digit _ _ := Nat.le_refl 1

theorem measured_quoted : Measured fun c => if c = '\'' then 2 else 1 where
  byte c := by
    have hpos := c.utf8Size_pos
    split <;> omega
  digit c hc := by
    have hne : c ≠ '\'' := by
      rintro rfl
      cases hc
    rw [if_neg hne]

/-- Characters beyond one byte of code have two bytes, and beyond two bytes of code four. -/
theorem le_utf8Size (c : Char) : (0xff < c.toNat → 2 ≤ c.utf8Size) ∧ (0xffff < c.toNat → 4 ≤ c.utf8Size) := by
  have hcode : ∀ n : UInt32, c.val ≤ n ↔ c.toNat ≤ n.toNat := fun n => UInt32.le_iff_toNat_le
  unfold Char.utf8Size
  simp only [hcode]
  refine ⟨fun h => ?_, fun h => ?_⟩
  · rw [if_neg (by simp; omega)]
    split
    · omega
    · split <;> omega
  · rw [if_neg (by simp; omega), if_neg (by simp; omega), if_neg (by simp; omega)]

theorem length_escaped_le (c : Char) : (escaped c).toList.length ≤ 4 * c.utf8Size := by
  have hpos := c.utf8Size_pos
  have hhex : ∀ (mark : String) width, mark.toList.length = 2 → 0 < width → c.toNat < 16 ^ width →
      (mark ++ hexDigits width c.toNat).toList.length = 2 + width := by
    intro mark width hmark hw hc
    rw [String.toList_append, List.length_append, hmark, (hexChar_hexDigits hw hc).1]
  unfold escaped
  split
  all_goals try decide
  split
  · simp
    omega
  · split
    · rename_i hsmall
      rw [hhex "\\x" 2 (by decide) (by decide) (Nat.lt_succ_of_le hsmall)]
      omega
    · rename_i hbyte
      have htwo : 2 ≤ c.utf8Size := (le_utf8Size c).1 (Nat.lt_of_not_le hbyte)
      split
      · rename_i hsmall
        rw [hhex "\\u" 4 (by decide) (by decide) (Nat.lt_succ_of_le hsmall)]
        omega
      · rename_i hwide
        have hfour : 4 ≤ c.utf8Size := (le_utf8Size c).2 (Nat.lt_of_not_le hwide)
        have hlt : c.toNat < 16 ^ 8 := Nat.lt_of_lt_of_le c.val.toNat_lt (by decide)
        rw [hhex "\\U" 8 (by decide) (by decide) hlt]
        omega

theorem measured_escaped : Measured fun c => (escaped c).toList.length where
  byte := length_escaped_le
  digit c hc := by
    have hinert : ∀ x ∈ inert, (escaped x).toList.length ≤ 1 := Text.forall_of_all (by decide)
    exact hinert c (inert_of_isDigit hc)

/-! ## The length of a written key -/

theorem length_singleBody (n : Nat) {cs : List Char} (hcs : ∀ x ∈ cs, isBreak x = false) :
    (singleBody n false cs).toList.length = (cs.map fun c => if c = '\'' then 2 else 1).sum := by
  induction cs with
  | nil => rfl
  | cons c cs ih =>
    have hc := hcs c List.mem_cons_self
    have hrest := ih fun x hx => hcs x (List.mem_cons_of_mem _ hx)
    rw [List.map_cons, List.sum_cons, ← hrest]
    by_cases hspace : c = ' '
    · subst hspace
      simp [singleBody, Nat.add_comm]
    · by_cases hquote : c = '\''
      · subst hquote
        simp [singleBody, hc]
        omega
      · simp [singleBody, hc, hspace, hquote, Nat.add_comm]

/-- Every short key can be found again where what is filled in is no longer than four times the bytes of the
key, however its characters are counted. -/
theorem keyFits_of_measured (hfill : Suits fill)
    (hcount : ∀ f, Measured f → ∀ k : String,
      ((fill k).toList.map f).sum ≤ 4 * (k.toList.map Char.utf8Size).sum) (k : String) : KeyFits fill k := by
  intro hshort
  have hbytes : (k.toList.map Char.utf8Size).sum ≤ 128 := by
    rw [← utf8ByteSize_eq_sum]
    simp only [isShortKey, Bool.and_eq_true, decide_eq_true_eq] at hshort
    exact hshort.1
  have hline := unbroken_of_isShortKey hshort
  have hsum : ∀ f, Measured f → ((fill k).toList.map f).sum ≤ 512 := by
    intro f hf
    have hle := hcount f hf k
    omega
  unfold written keyLimit
  -- each form has a measure of its own: how many characters it writes for one of the text
  cases hstyle : style k with
  | plain =>
    have hone := hsum _ measured_one
    have hcount : ((fill k).toList.map fun _ => 1).sum = (fill k).toList.length := by simp
    show (fill k).toList.length ≤ 1024
    omega
  | single =>
    have hquoted := hsum _ measured_quoted
    rw [← length_singleBody 2 (hfill.unbroken k hline)] at hquoted
    simp only [Style.write, singleQuoted, String.toList_append, List.length_append]
    have hquote : "'".toList.length = 1 := by decide
    omega
  | double =>
    have hescaped := hsum _ measured_escaped
    simp only [Style.write, doubleQuoted, String.toList_append, List.length_append, String.toList_join,
      List.flatMap_map, List.length_flatMap]
    have hquote : "\"".toList.length = 1 := by decide
    omega
  | literal => exact absurd hstyle (style_ne_literal hline)

/-- Every short key can be found again with a shard in it that is not too long. -/
theorem Fills.keyFits (h : Fills fill new) (hlen : new.length ≤ 32) (k : String) : KeyFits fill k := by
  refine keyFits_of_measured h.suits (fun f hf k => ?_) k
  rw [h.toList]
  exact hf.sum_filled_le h.shard hlen k.toList

/-! ## Texts as they are -/

/-- Every form carries the text that it was chosen for. -/
theorem suits_id : Suits id where
  carries := style_carries
  unbroken _ h := h

theorem keyFits_id (k : String) : KeyFits id k := by
  refine keyFits_of_measured suits_id (fun f hf k => ?_) k
  show (k.toList.map f).sum ≤ _
  induction k.toList with
  | nil => exact Nat.le_refl 0
  | cons c cs ih =>
    have hc := hf.byte c
    rw [List.map_cons, List.sum_cons, List.map_cons, List.sum_cons]
    omega

theorem shows_id : Doc.Shows id (valueDoc id) := shows_valueDoc fun _ => isPresent_of_plain

/-- A written record is read as it is. -/
theorem read?_render (fs : List (String × Value)) (hdepth : (Value.record fs).depth ≤ depthLimit) :
    read? (render (.record fs)) = some (valueDoc id (.record fs)) :=
  read?_record suits_id fs (fun k _ => keyFits_id k) hdepth

end ScrapeFleet.Yaml
