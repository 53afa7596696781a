/-
# ScrapeFleet.Proofs.Text.Bytes — texts as bytes, and where one ends

A text is its bytes, and has a byte of zero only where it has the character of zero. So texts without that
character can be put one behind the other, each closed by a zero byte, and taken apart again
(`closed_inj`).
-/
import Mathlib.Data.List.Basic

namespace ScrapeFleet.Text

/-! ## What stands before a mark -/

/-- What stands before the first mark and what stands after it are parts of a list. -/
theorem first_mark_unique {α : Type} {mark : α} {before before' after after' : List α} (h : mark ∉ before)
    (h' : mark ∉ before') (heq : before ++ mark :: after = before' ++ mark :: after') :
    before = before' ∧ after = after' := by
  induction before generalizing before' with
  | nil =>
    cases before' with
    | nil => exact ⟨rfl, (List.cons.inj heq).2⟩
    | cons c cs =>
      obtain ⟨rfl, _⟩ := List.cons.inj heq
      exact absurd List.mem_cons_self h'
  | cons c cs ih =>
    cases before' with
    | nil =>
      obtain ⟨rfl, _⟩ := List.cons.inj heq
      exact absurd List.mem_cons_self h
    | cons d ds =>
      obtain ⟨rfl, htails⟩ := List.cons.inj heq
      obtain ⟨rfl, rfl⟩ := ih (fun hmem => h (List.mem_cons_of_mem c hmem))
        (fun hmem => h' (List.mem_cons_of_mem c hmem)) htails
      exact ⟨rfl, rfl⟩

/-- What stands before the last mark and what stands after it are parts of a list. -/
theorem last_mark_unique {α : Type} {mark : α} {before before' after after' : List α} (h : mark ∉ after)
    (h' : mark ∉ after') (heq : before ++ mark :: after = before' ++ mark :: after') :
    before = before' ∧ after = after' := by
  have hreversed : after.reverse ++ mark :: before.reverse = after'.reverse ++ mark :: before'.reverse := by
    simpa using congrArg List.reverse heq
  obtain ⟨hafter, hbefore⟩ := first_mark_unique (by simpa using h) (by simpa using h') hreversed
  exact ⟨List.reverse_inj.1 hbefore, List.reverse_inj.1 hafter⟩

/-! ## Bytes -/

theorem toList_loop (bs : ByteArray) (i : Nat) (r : List UInt8) :
    ByteArray.toList.loop bs i r = r.reverse ++ bs.data.toList.drop i := by
  induction i, r using ByteArray.toList.loop.induct bs with
  | case1 i r hi ih =>
    have hrest : bs.data.toList.drop i = bs.data[i] :: bs.data.toList.drop (i + 1) :=
      List.drop_eq_getElem_cons (by simpa using hi)
    rw [ByteArray.toList.loop, if_pos hi, ih, hrest]
    simp [ByteArray.get!, hi]
  | case2 i r hi =>
    have hnone : bs.data.toList.drop i = [] := List.drop_of_length_le (by simpa using hi)
    rw [ByteArray.toList.loop, if_neg hi, hnone, List.append_nil]

theorem toList_bytes (bs : ByteArray) : bs.toList = bs.data.toList := toList_loop bs 0 []

/-- The bytes of a text are those of its characters. -/
theorem toList_toUTF8 (s : String) : s.toUTF8.toList = s.toList.flatMap String.utf8EncodeChar := by
  rw [toList_bytes, String.toUTF8, ← String.utf8Encode_toList, List.utf8Encode, List.toList_data_toByteArray]

theorem toList_toUTF8_inj {s t : String} : s.toUTF8.toList = t.toUTF8.toList ↔ s = t := by
  refine ⟨fun h => ?_, fun h => h ▸ rfl⟩
  rw [toList_bytes, toList_bytes] at h
  exact String.toByteArray_inj.1 (ByteArray.ext (Array.toList_inj.1 h))

/-- Bytes are read as the text that they encode, if there is one. -/
theorem fromUTF8?_eq_some_iff {bs : List UInt8} {s : String} :
    String.fromUTF8? ⟨bs.toArray⟩ = some s ↔ bs = s.toUTF8.toList := by
  have hbytes : bs = s.toUTF8.toList ↔ (⟨bs.toArray⟩ : ByteArray) = s.toUTF8 := by
    rw [toList_bytes]
    constructor
    · rintro rfl
      rfl
    · intro h
      rw [← h]
  rw [hbytes]
  unfold String.fromUTF8?
  split
  · rw [Option.some.injEq]
    exact String.toByteArray_inj.symm
  · rename_i hvalid
    refine iff_of_false (by simp) fun h => hvalid ?_
    rw [h]
    exact s.isValidUTF8

theorem ofNat_eq_zero_iff {n : Nat} (h : n < 256) : UInt8.ofNat n = 0 ↔ n = 0 := by
  rw [← UInt8.toNat_inj, UInt8.toNat_ofNat']
  show n % 256 = 0 ↔ n = 0
  omega

theorem zero_mem_utf8EncodeChar {c : Char} : 0 ∈ String.utf8EncodeChar c ↔ c = '\x00' := by
  have hzero : c = '\x00' ↔ c.val.toNat = 0 := by
    rw [Char.ext_iff, ← UInt32.toNat_inj]
    rfl
  rw [hzero]
  -- all bytes of a character beyond the first 128 are at least 128
  have hlarge : ∀ n, 128 ≤ n → n < 256 → (0 : UInt8) ≠ UInt8.ofNat n := by
    intro n hn hlt h
    have := (ofNat_eq_zero_iff hlt).1 h.symm
    omega
  unfold String.utf8EncodeChar
  dsimp only
  split
  · rw [List.mem_singleton, eq_comm, ofNat_eq_zero_iff (by omega)]
  · refine iff_of_false (fun hmem => ?_) (by omega)
    split at hmem
    · simp only [List.mem_cons, List.not_mem_nil, or_false] at hmem
      rcases hmem with h | h <;> exact hlarge _ (by omega) (by omega) h
    · split at hmem
      · simp only [List.mem_cons, List.not_mem_nil, or_false] at hmem
        rcases hmem with h | h | h <;> exact hlarge _ (by omega) (by omega) h
      · simp only [List.mem_cons, List.not_mem_nil, or_false] at hmem
        rcases hmem with h | h | h | h <;> exact hlarge _ (by omega) (by omega) h

/-- Only the character of zero has a byte of zero. -/
theorem zero_mem_toUTF8 {s : String} : 0 ∈ s.toUTF8.toList ↔ '\x00' ∈ s.toList := by
  rw [toList_toUTF8, List.mem_flatMap]
  simp only [zero_mem_utf8EncodeChar, exists_eq_right]

/-! ## Texts behind one another -/

/-- Texts behind one another, each closed by a zero byte. -/
def closed (ss : List String) : List UInt8 := ss.flatMap fun s => s.toUTF8.toList ++ [0]

theorem closed_cons (s : String) (ss : List String) :
    closed (s :: ss) = s.toUTF8.toList ++ 0 :: closed ss := by
  rw [closed, List.flatMap_cons, List.append_assoc]
  rfl

/-- Texts without the character of zero can be told from one another when they are closed. -/
theorem closed_inj {ss ts : List String} (hs : ∀ s ∈ ss, '\x00' ∉ s.toList)
    (ht : ∀ t ∈ ts, '\x00' ∉ t.toList) : closed ss = closed ts ↔ ss = ts := by
  refine ⟨fun h => ?_, congrArg closed⟩
  induction ss generalizing ts with
  | nil =>
    cases ts with
    | nil => rfl
    | cons t ts =>
      rw [closed_cons] at h
      exact absurd h.symm (List.append_ne_nil_of_right_ne_nil _ (List.cons_ne_nil _ _))
  | cons s ss ih =>
    cases ts with
    | nil =>
      rw [closed_cons] at h
      exact absurd h (List.append_ne_nil_of_right_ne_nil _ (List.cons_ne_nil _ _))
    | cons t ts =>
      obtain ⟨hs, hss⟩ := List.forall_mem_cons.1 hs
      obtain ⟨ht, hts⟩ := List.forall_mem_cons.1 ht
      rw [closed_cons, closed_cons] at h
      obtain ⟨htext, hrest⟩ :=
        first_mark_unique (mt zero_mem_toUTF8.1 hs) (mt zero_mem_toUTF8.1 ht) h
      rw [toList_toUTF8_inj.1 htext, ih hss hts hrest]

end ScrapeFleet.Text
