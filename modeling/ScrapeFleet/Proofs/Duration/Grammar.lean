/-
# ScrapeFleet.Proofs.Duration.Grammar — which texts are durations

A duration is written `0`, or as items in a row, each a number in decimal digits with a unit behind it. The
items may come in any order and again, and their numbers may start with zeros (`Says`). Units are made of
letters and numbers of digits, so where an item ends can be seen from the text, and the reader finds the items
that were written and no others (`itemsTotal?_eq_some_iff`). What it reads is what they add up to, as long as
64 bits hold it, and nothing else is read (`parse_exactly`).
-/
import Mathlib.Data.Nat.Digits.Defs
import ScrapeFleet.Proofs.Duration.Bounded

namespace ScrapeFleet.Duration

/-! ## Items -/

/-- An item as it is written: a number in decimal digits and a unit. -/
structure Item where
  digits : List Char
  unit : String × Nat
  digits_ne_nil : digits ≠ []
  isDigit_of_mem : ∀ c ∈ digits, c.isDigit = true
  unit_mem : unit ∈ units

namespace Item

/-- The characters of an item. -/
def chars (i : Item) : List Char := i.digits ++ i.unit.1.toList

/-- The milliseconds that an item says. -/
def millis (i : Item) : Nat := Nat.ofDigits 10 (i.digits.reverse.map fun c => c.toNat - 48) * i.unit.2

/-- The characters of items in a row. -/
def row (is : List Item) : List Char := is.flatMap chars

/-- The milliseconds that items say together. -/
def total (is : List Item) : Nat := (is.map millis).sum

theorem row_cons (i : Item) (is : List Item) : row (i :: is) = i.digits ++ (i.unit.1.toList ++ row is) := by
  rw [row, List.flatMap_cons, chars, List.append_assoc]
  rfl

theorem total_cons (i : Item) (is : List Item) : total (i :: is) = i.millis + total is := by
  rw [total, List.map_cons, List.sum_cons, ← total]

/-- A row of items starts with a digit. -/
theorem head_row (is : List Item) : ∀ x, (row is).head? = some x → x.isDigit = true := by
  intro x hx
  cases is with
  | nil => cases hx
  | cons i is =>
    obtain ⟨d, ds, hds⟩ := List.exists_cons_of_ne_nil i.digits_ne_nil
    rw [row_cons, hds, List.cons_append, List.head?_cons, Option.some.injEq] at hx
    exact i.isDigit_of_mem x (by rw [hds, ← hx]; exact List.mem_cons_self)

end Item

/-- What a text says as a duration, in milliseconds: `0`, or items in a row. -/
inductive Says : List Char → Nat → Prop where
  | zero : Says ['0'] 0
  | items {is : List Item} (h : is ≠ []) : Says (Item.row is) (Item.total is)

/-! ## Reading items -/

/-- The value of digits is the number that they write. -/
theorem digitsValue_eq_ofDigits (ds : List Char) :
    digitsValue ds = Nat.ofDigits 10 (ds.reverse.map fun c => c.toNat - 48) := by
  rw [Nat.ofDigits_eq_foldr, List.foldr_map, List.foldr_reverse, digitsValue]
  simp only [Nat.cast_id, Nat.add_comm]

theorem exists_unit {cs : List Char} {factor : Nat} (h : unitMillis? cs = some factor) :
    ∃ u ∈ units, u.1.toList = cs ∧ u.2 = factor := by
  obtain ⟨before, after, hlist, _⟩ := List.lookup_eq_some_iff.1 h
  refine ⟨(String.ofList cs, factor), ?_, String.toList_ofList, rfl⟩
  rw [hlist]
  exact List.mem_append_right before List.mem_cons_self

/-- The items in a row are read as what they add up to. -/
theorem itemsTotal?_row (is : List Item) : itemsTotal? (Item.row is) = some (Item.total is) := by
  induction is with
  | nil => exact itemsTotal?_nil
  | cons i is ih =>
    rw [Item.row_cons, itemsTotal?_item i.digits_ne_nil i.isDigit_of_mem i.unit_mem (Item.head_row is), ih,
      Option.map_some, Item.total_cons, Item.millis, digitsValue_eq_ofDigits]

/-- What is read is a row of items. -/
theorem exists_row {cs : List Char} {ms : Nat} (h : itemsTotal? cs = some ms) :
    ∃ is, Item.row is = cs ∧ Item.total is = ms := by
  fun_induction itemsTotal? cs generalizing ms with
  | case1 =>
    obtain rfl := Option.some.inj h
    exact ⟨[], rfl, rfl⟩
  | case2 c rest hdigit number afterNumber unit factor total htotal hunit =>
    rename_i ih
    obtain rfl := Option.some.inj h
    obtain ⟨is, hrow, hsum⟩ := ih htotal
    obtain ⟨u, hu, hname, rfl⟩ := exists_unit hunit
    have hdigits : ∀ x ∈ number, x.isDigit = true := by
      intro x hx
      rcases List.mem_cons.1 hx with rfl | hx
      · exact hdigit
      · exact List.all_eq_true.1 List.all_takeWhile x hx
    refine ⟨⟨number, u, List.cons_ne_nil c _, hdigits, hu⟩ :: is, ?_, ?_⟩
    · -- the number, the unit and what is left are the text again
      rw [Item.row_cons, hrow]
      show c :: rest.takeWhile Char.isDigit ++ (u.1.toList ++ _) = c :: rest
      rw [hname, List.takeWhile_append_dropWhile, List.cons_append, List.takeWhile_append_dropWhile]
    · rw [Item.total_cons, hsum, Item.millis, digitsValue_eq_ofDigits]
  | case3 => cases h
  | case4 => cases h

theorem itemsTotal?_eq_some_iff {cs : List Char} {ms : Nat} :
    itemsTotal? cs = some ms ↔ ∃ is, Item.row is = cs ∧ Item.total is = ms := by
  refine ⟨exists_row, ?_⟩
  rintro ⟨is, rfl, rfl⟩
  exact itemsTotal?_row is

/-! ## Reading durations -/

theorem bounded?_eq_some_iff {n m : Nat} : bounded? n = some m ↔ n < limit ∧ n = m := by
  by_cases h : n < limit
  · simp [bounded?_of_lt h, h]
  · simp [bounded?_of_le (Nat.not_lt.1 h), h]

/-- A reader with 64 bits finds the same items, and stops where what they add up to does not fit. -/
theorem runningTotal?_eq_some_iff {cs : List Char} {ms : Nat} :
    runningTotal? 0 cs = some ms ↔ ∃ is, Item.row is = cs ∧ Item.total is = ms ∧ ms < limit := by
  rw [runningTotal?_eq (by decide)]
  constructor
  · intro h
    obtain ⟨total, htotal, hbounded⟩ := Option.bind_eq_some_iff.1 h
    obtain ⟨is, hrow, rfl⟩ := exists_row htotal
    obtain ⟨hlt, rfl⟩ := bounded?_eq_some_iff.1 hbounded
    rw [Nat.zero_add] at hlt ⊢
    exact ⟨is, hrow, rfl, hlt⟩
  · rintro ⟨is, rfl, rfl, hlt⟩
    rw [itemsTotal?_row, Option.bind_some, Nat.zero_add, bounded?_of_lt hlt]

/-- A number without a unit is no row of items. -/
theorem row_ne_zero (is : List Item) : Item.row is ≠ ['0'] := by
  intro h
  have hread := itemsTotal?_row is
  have hnone : itemsTotal? ['0'] = none := by
    rw [itemsTotal?]
    decide
  rw [h, hnone] at hread
  cases hread

theorem says_iff {cs : List Char} {ms : Nat} :
    Says cs ms ↔ cs = ['0'] ∧ ms = 0 ∨ cs ≠ [] ∧ itemsTotal? cs = some ms := by
  rw [itemsTotal?_eq_some_iff]
  constructor
  · intro h
    cases h with
    | zero => exact .inl ⟨rfl, rfl⟩
    | @items is hne =>
      refine .inr ⟨fun hempty => hne ?_, is, rfl, rfl⟩
      -- an item has digits, so only no items have no text
      cases is with
      | nil => rfl
      | cons i is =>
        rw [Item.row_cons] at hempty
        exact absurd (List.append_eq_nil_iff.1 hempty).1 i.digits_ne_nil
  · rintro (⟨rfl, rfl⟩ | ⟨hne, is, rfl, rfl⟩)
    · exact .zero
    · apply Says.items
      rintro rfl
      exact hne rfl

/-- A text says one duration at most. -/
theorem Says.unique {cs : List Char} {ms ms' : Nat} (h : Says cs ms) (h' : Says cs ms') : ms = ms' := by
  rcases says_iff.1 h with ⟨rfl, rfl⟩ | ⟨_, htotal⟩
  · rcases says_iff.1 h' with ⟨_, rfl⟩ | ⟨_, htotal'⟩
    · rfl
    · obtain ⟨is, hrow, _⟩ := exists_row htotal'
      exact absurd hrow (row_ne_zero is)
  · rcases says_iff.1 h' with ⟨rfl, _⟩ | ⟨_, htotal'⟩
    · obtain ⟨is, hrow, _⟩ := exists_row htotal
      exact absurd hrow (row_ne_zero is)
    · exact Option.some.inj (htotal.symm.trans htotal')

/-- Either a text says a duration that fits, and that is read, or it is refused. -/
theorem parse_cases (s : String) :
    (∃ ms, Says (Text.trim s.toList) ms ∧ ms < limit ∧ parse s = .ok (ofMillis ms)) ∨
      (¬ ∃ ms, Says (Text.trim s.toList) ms ∧ ms < limit) ∧
        parse s = .error (.malformed (String.ofList (Text.trim s.toList))) := by
  unfold parse
  dsimp only
  split
  · rename_i hzero
    exact .inl ⟨0, says_iff.2 (.inl ⟨hzero, rfl⟩), by decide, rfl⟩
  · rename_i hzero
    split
    · rename_i hempty
      refine .inr ⟨?_, by rw [hempty]⟩
      rintro ⟨ms, hspells, _⟩
      rcases says_iff.1 hspells with ⟨hzero', _⟩ | ⟨hne, _⟩
      · exact hzero hzero'
      · exact hne hempty
    · rename_i hne
      -- what is neither the zero nor empty says what its items add up to
      have hspells : ∀ ms, Says (Text.trim s.toList) ms ↔ itemsTotal? (Text.trim s.toList) = some ms := by
        intro ms
        rw [says_iff]
        simp [hzero, hne]
      simp only [hspells]
      split
      · rename_i ms htotal
        rw [htotal]
        by_cases hms : ms < limit
        · exact .inl ⟨ms, rfl, hms, if_pos hms⟩
        · refine .inr ⟨?_, if_neg hms⟩
          rintro ⟨ms', hsome, hms'⟩
          exact hms (Option.some.inj hsome ▸ hms')
      · rename_i htotal
        rw [htotal]
        exact .inr ⟨by simp, rfl⟩

/-- **A text is read exactly if it says a duration that 64 bits hold**, and what is read is what it says. Any
other text is refused, in its own words. A reader that adds up items in 64 bits from left to right has the same
totals and fails on the same rows, so no total is ever a wrapped one. -/
theorem parse_exactly (s : String) :
    (∀ d, parse s = .ok d ↔ ∃ ms, Says (Text.trim s.toList) ms ∧ ms < 2 ^ 64 ∧ d = ofMillis ms) ∧
      (parse s = .error (.malformed (String.ofList (Text.trim s.toList))) ↔
        ¬ ∃ ms, Says (Text.trim s.toList) ms ∧ ms < 2 ^ 64) ∧
      ∀ ms, runningTotal? 0 (Text.trim s.toList) = some ms ↔
        ∃ is, Item.row is = Text.trim s.toList ∧ Item.total is = ms ∧ ms < 2 ^ 64 := by
  have hread := parse_cases s
  refine ⟨fun d => ⟨fun hd => ?_, ?_⟩, ⟨fun he => ?_, ?_⟩, fun ms => ?_⟩
  · rcases hread with ⟨ms, hspells, hms, hok⟩ | ⟨_, herror⟩
    · exact ⟨ms, hspells, hms, Except.ok.inj (hd.symm.trans hok)⟩
    · rw [herror] at hd
      cases hd
  · rintro ⟨ms, hspells, hms, rfl⟩
    rcases hread with ⟨ms', hspells', _, hok⟩ | ⟨hnone, _⟩
    · rw [hok, hspells.unique hspells']
    · exact absurd ⟨ms, hspells, hms⟩ hnone
  · rcases hread with ⟨ms, _, _, hok⟩ | ⟨hnone, _⟩
    · rw [hok] at he
      cases he
    · exact hnone
  · intro hnone
    rcases hread with ⟨ms, hspells, hms, _⟩ | ⟨_, herror⟩
    · exact absurd ⟨ms, hspells, hms⟩ hnone
    · exact herror
  · exact runningTotal?_eq_some_iff

end ScrapeFleet.Duration
