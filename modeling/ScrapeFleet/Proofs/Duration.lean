/-
# ScrapeFleet.Proofs.Duration — a duration reads back from its text

The text of a duration is a run of items, each unit of the table at most once and the largest first. Reading
it sums the items, and the sum of what a greedy split takes is what was split as long as the last unit is
one (`itemsTotal?_items`).
-/
import ScrapeFleet.Duration
import ScrapeFleet.Proofs.Text.Digits

namespace ScrapeFleet.Duration

/-- A whole number of milliseconds, counted in 64 bits: what the text of a duration can say. -/
def Whole (d : Duration) : Prop := d.nanos % 1000000 = 0 ∧ d.millis < limit

instance (d : Duration) : Decidable d.Whole := inferInstanceAs (Decidable (_ ∧ _))

/-! ## Reading an item -/

theorem digitsValue_toDigits (n : Nat) : digitsValue (Nat.toDigits 10 n) = n := by
  have hvalue : ∀ d < 10, (some (d.digitChar.toNat - 48) : Option Nat) = some d := by decide
  obtain ⟨vs, hvs, hfold⟩ := Text.mapM_toDigits (f := fun c => some (c.toNat - 48)) (by decide) hvalue n
  have hmap : (Nat.toDigits 10 n).map (fun c => c.toNat - 48) = vs := by
    have hall := List.mapM_pure (m := Option) (l := Nat.toDigits 10 n) (f := fun c => c.toNat - 48)
    exact Option.some.inj (hall.symm.trans hvs)
  rw [← hmap, List.foldl_map] at hfold
  exact hfold

theorem isDigit_of_mem_toDigits {n : Nat} {x : Char} (hx : x ∈ Nat.toDigits 10 n) : x.isDigit = true := by
  have hdigit : ∀ d < 10, d.digitChar.isDigit = true := by decide
  obtain ⟨d, hd, rfl⟩ := Text.exists_digit_of_mem_toDigits (by decide) n hx
  exact hdigit d hd

/-- The characters of items. -/
def itemChars (is : List (Nat × String)) : List Char :=
  is.flatMap fun i => Nat.toDigits 10 i.1 ++ i.2.toList

theorem head_itemChars (is : List (Nat × String)) : ∀ x, (itemChars is).head? = some x → x.isDigit = true := by
  intro x hx
  cases is with
  | nil => cases hx
  | cons i is =>
    obtain ⟨d, ds, hds⟩ := List.exists_cons_of_ne_nil (Nat.toDigits_ne_nil (b := 10) (n := i.1))
    have hd : d.isDigit = true := isDigit_of_mem_toDigits (n := i.1) (hds ▸ List.mem_cons_self)
    simp only [itemChars, List.flatMap_cons, hds, List.cons_append, List.head?_cons,
      Option.some.injEq] at hx
    exact hx ▸ hd

/-- The names of the units are made of letters. -/
theorem isDigit_unit : ∀ u ∈ units, u.1.toList ≠ [] ∧ (u.1.toList.any Char.isDigit) = false ∧
    unitMillis? u.1.toList = some u.2 := by decide

theorem itemsTotal?_nil : itemsTotal? (itemChars []) = some 0 := by
  rw [itemChars, List.flatMap_nil, itemsTotal?]

/-- One item more in front, in digits that may start with zeros. -/
theorem itemsTotal?_item {ds : List Char} (hne : ds ≠ []) (hdigits : ∀ x ∈ ds, x.isDigit = true)
    {u : String × Nat} (hu : u ∈ units) {rest : List Char}
    (hrest : ∀ x, rest.head? = some x → x.isDigit = true) :
    itemsTotal? (ds ++ (u.1.toList ++ rest)) = (itemsTotal? rest).map (digitsValue ds * u.2 + ·) := by
  obtain ⟨hname, hnone, hunit⟩ := isDigit_unit u hu
  have hletters : ∀ x ∈ u.1.toList, x.isDigit = false := by
    intro x hx
    simpa using List.any_eq_false.1 hnone x hx
  obtain ⟨d, ds, rfl⟩ := List.exists_cons_of_ne_nil hne
  have hunitHead : ∀ x, (u.1.toList ++ rest).head? = some x → x.isDigit = false := by
    intro x hx
    obtain ⟨l, ls, hls⟩ := List.exists_cons_of_ne_nil hname
    obtain rfl : l = x := by simpa [hls] using hx
    exact hletters l (hls ▸ List.mem_cons_self)
  -- the number ends before the letters of the unit, and the unit before the next digit
  have hnumber := Text.while_run (fun x hx => hdigits x (List.mem_cons_of_mem d hx)) hunitHead
  have hletter := Text.while_run (p := fun x => !x.isDigit) (s := u.1.toList) (t := rest)
    (fun x hx => by simp [hletters x hx]) (fun x hx => by simp [hrest x hx])
  rw [List.cons_append, itemsTotal?, if_pos (hdigits d List.mem_cons_self)]
  simp only [hnumber.1, hnumber.2, hletter.1, hletter.2, hunit]
  cases itemsTotal? rest <;> rfl

/-- One item more in front. -/
theorem itemsTotal?_cons (n : Nat) {u : String × Nat} (hu : u ∈ units) {is : List (Nat × String)}
    {total : Nat} (h : itemsTotal? (itemChars is) = some total) :
    itemsTotal? (itemChars ((n, u.1) :: is)) = some (n * u.2 + total) := by
  have hchars : itemChars ((n, u.1) :: is) = Nat.toDigits 10 n ++ (u.1.toList ++ itemChars is) := by
    rw [itemChars, List.flatMap_cons, List.append_assoc]
    rfl
  rw [hchars, itemsTotal?_item Nat.toDigits_ne_nil (fun x hx => isDigit_of_mem_toDigits hx) hu
    (head_itemChars is), h, digitsValue_toDigits]
  rfl

/-! ## The text of a duration -/

/-- A greedy split over units that end with one takes everything. -/
theorem itemsTotal?_items (us : List (String × Nat)) (hus : ∀ u ∈ us, u ∈ units) (ms : Nat) :
    itemsTotal? (itemChars (items (us ++ [("ms", 1)]) ms)) = some ms := by
  induction us generalizing ms with
  | nil =>
    rw [List.nil_append, items]
    split
    · have hlast := itemsTotal?_cons (ms / 1) (u := ("ms", 1)) (by decide) itemsTotal?_nil
      simpa [items] using hlast
    · rename_i hms
      obtain rfl : ms = 0 := by omega
      exact itemsTotal?_nil
  | cons u us ih =>
    have hrest := fun m => ih (fun v hv => hus v (List.mem_cons_of_mem _ hv)) m
    obtain ⟨name, length⟩ := u
    rw [List.cons_append, items]
    split
    · rw [itemsTotal?_cons (ms / length) (hus (name, length) List.mem_cons_self) (hrest _)]
      rw [Nat.mul_comm, Nat.div_add_mod]
    · exact hrest ms

theorem name_mem_units {us : List (String × Nat)} {ms : Nat} {i : Nat × String} (hi : i ∈ items us ms) :
    ∃ u ∈ us, u.1 = i.2 := by
  induction us generalizing ms with
  | nil => cases hi
  | cons u us ih =>
    rw [items] at hi
    have hlater : ∀ m, i ∈ items us m → ∃ v ∈ u :: us, v.1 = i.2 := by
      intro m hm
      obtain ⟨v, hv, hname⟩ := ih hm
      exact ⟨v, List.mem_cons_of_mem _ hv, hname⟩
    split at hi
    · rcases List.mem_cons.1 hi with rfl | hi
      · exact ⟨u, List.mem_cons_self, rfl⟩
      · exact hlater _ hi
    · exact hlater _ hi

/-- The characters of a duration's text. -/
def alphabet : List Char := "0123456789ywdhms".toList

theorem mem_text (d : Duration) : ∀ x ∈ d.text.toList, x ∈ alphabet := by
  have hdigit : ∀ d < 10, d.digitChar ∈ alphabet := by decide
  have hunit : ∀ u ∈ units, u.1.toList ⊆ alphabet := by decide
  have hzero : "0s".toList ⊆ alphabet := by decide
  intro x hx
  unfold text at hx
  dsimp only at hx
  split at hx
  · exact hzero hx
  · rw [String.toList_join, List.mem_flatMap] at hx
    obtain ⟨s, hs, hx⟩ := hx
    obtain ⟨i, hi, rfl⟩ := List.mem_map.1 hs
    rw [String.toList_append, List.mem_append] at hx
    rcases hx with hx | hx
    · rw [Text.toList_toString] at hx
      obtain ⟨d, hd, rfl⟩ := Text.exists_digit_of_mem_toDigits (by decide) i.1 hx
      exact hdigit d hd
    · obtain ⟨u, hu, hname⟩ := name_mem_units hi
      exact hunit u hu (hname ▸ hx)

theorem trim_of_not_blank {cs : List Char} (h : ∀ x ∈ cs, Text.isBlank x = false) : Text.trim cs = cs := by
  have hnone : ∀ cs : List Char, (∀ x ∈ cs, Text.isBlank x = false) → cs.dropWhile Text.isBlank = cs := by
    intro cs hcs
    exact (Text.while_run (s := []) (by simp) fun x hx => hcs x (List.mem_of_head? hx)).2
  rw [Text.trim, hnone cs h, Text.trimEnd, hnone _ fun x hx => h x (List.mem_reverse.1 hx),
    List.reverse_reverse]

/-- The items of a text add up to what the text counts: the whole milliseconds, in 64 bits. -/
theorem itemsTotal?_text (d : Duration) : itemsTotal? d.text.toList = some (d.millis % limit) := by
  by_cases hms : d.millis % limit = 0
  · have htext : d.text = "0s" := by simp [text, hms]
    have hzero : itemsTotal? "0s".toList = some 0 :=
      itemsTotal?_cons 0 (u := ("s", 1000)) (by decide) itemsTotal?_nil
    rw [htext, hms]
    exact hzero
  · have htext : d.text.toList = itemChars (items units (d.millis % limit)) := by
      simp only [text, if_neg hms, String.toList_join, List.flatMap_map, String.toList_append,
        Text.toList_toString]
      rfl
    rw [htext]
    exact itemsTotal?_items units.dropLast (by decide) (d.millis % limit)

/-- There is no duration without a text. -/
theorem toList_text_ne_nil (d : Duration) : d.text.toList ≠ [] := by
  intro hempty
  have htotal := d.itemsTotal?_text
  rw [hempty, itemsTotal?, Option.some.injEq] at htotal
  have htext : d.text = "0s" := by simp [text, ← htotal]
  rw [htext] at hempty
  exact absurd hempty (by decide)

/-- Every duration has a text that is read, and what is read is what the text counts. -/
theorem parse_text_eq (d : Duration) : parse d.text = .ok (ofMillis (d.millis % limit)) := by
  have hblank : ∀ x ∈ d.text.toList, Text.isBlank x = false := by
    have hletter : ∀ x ∈ alphabet, Text.isBlank x = false := Text.forall_of_all (by decide)
    exact fun x hx => hletter x (mem_text d x hx)
  -- a number alone is no run of items
  have hbare : d.text.toList ≠ ['0'] := by
    intro hc
    have hnone : itemsTotal? ['0'] = none := by
      rw [itemsTotal?]
      decide
    have htotal := d.itemsTotal?_text
    rw [hc, hnone] at htotal
    cases htotal
  have hlimit : d.millis % limit < limit := Nat.mod_lt _ (by decide)
  simp only [parse, trim_of_not_blank hblank, if_neg hbare, if_neg d.toList_text_ne_nil, d.itemsTotal?_text,
    if_pos hlimit]

theorem ofMillis_millis {d : Duration} (h : d.nanos % 1000000 = 0) : ofMillis d.millis = d := by
  obtain ⟨n⟩ := d
  show (⟨n / 1000000 * 1000000⟩ : Duration) = ⟨n⟩
  congr 1
  exact Nat.div_mul_cancel (Nat.dvd_of_mod_eq_zero h)

/-- A duration that its text can say is read back. -/
theorem parse_text {d : Duration} (h : d.Whole) : parse d.text = .ok d := by
  rw [parse_text_eq, Nat.mod_eq_of_lt h.2, ofMillis_millis h.1]

theorem whole_ofMillis {ms : Nat} (h : ms < limit) : (ofMillis ms).Whole := by
  unfold Whole millis ofMillis
  rw [Nat.mul_div_cancel _ (by decide)]
  exact ⟨Nat.mul_mod_left _ _, h⟩

/-- What is read is a whole number of milliseconds. -/
theorem whole_of_parse {s : String} {d : Duration} (h : parse s = .ok d) : d.Whole := by
  unfold parse at h
  dsimp only at h
  split at h
  · obtain rfl := Except.ok.inj h
    decide
  · split at h
    · cases h
    · split at h
      · split at h
        · rename_i hms
          obtain rfl := Except.ok.inj h
          exact whole_ofMillis hms
        · cases h
      · cases h

end ScrapeFleet.Duration
