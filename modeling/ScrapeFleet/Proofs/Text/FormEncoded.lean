/-
# ScrapeFleet.Proofs.Text.FormEncoded — text in the parts of an address, read back

Each byte of a text is written by itself: as itself, as a plus sign, or behind a percent sign. What is written
for a byte is read back as that byte whatever follows it (`decode_encodeByte`), so the bytes of a text are read
back, and with them the text (`decode?_encode`). No sign that ends a part of an address is ever written, and a
percent sign only in front of two digits (`isPart_encode`), so the parts of an address can be told from what
stands between them.
-/
import ScrapeFleet.Proofs.Text.Bytes
import ScrapeFleet.Proofs.Text.Digits
import ScrapeFleet.Text.Percent

namespace ScrapeFleet.Text.FormEncoded

/-! ## Parts of an address -/

/-- The signs between the parts of an address. -/
def separators : List Char := ['/', '?', '#', '&']

/-- No sign that ends a part stands in the text, and a percent sign only where two digits follow. -/
inductive IsPart : List Char → Prop where
  | nil : IsPart []
  | escape {a b : Char} {rest : List Char} (ha : (hexValue? a).isSome = true)
      (hb : (hexValue? b).isSome = true) (h : IsPart rest) : IsPart ('%' :: a :: b :: rest)
  | plain {c : Char} {rest : List Char} (hc : c ∉ '%' :: separators) (h : IsPart rest) : IsPart (c :: rest)

/-- A separator is no digit. -/
theorem ne_of_isSome_hexValue? {c s : Char} (hs : s ∈ separators) (hc : (hexValue? c).isSome = true) :
    s ≠ c := by
  have hnone : ∀ s ∈ separators, (hexValue? s).isSome = false := forall_of_all (by decide)
  rintro rfl
  rw [hnone s hs] at hc
  cases hc

theorem IsPart.notMem {cs : List Char} (h : IsPart cs) {s : Char} (hs : s ∈ separators) : s ∉ cs := by
  induction h with
  | nil => exact List.not_mem_nil
  | @escape a b rest ha hb _ ih =>
    have hpercent : '%' ∉ separators := by decide
    intro hmem
    simp only [List.mem_cons] at hmem
    rcases hmem with rfl | rfl | rfl | hmem
    · exact hpercent hs
    · exact ne_of_isSome_hexValue? hs ha rfl
    · exact ne_of_isSome_hexValue? hs hb rfl
    · exact ih hmem
  | @plain c rest hc _ ih =>
    intro hmem
    rcases List.mem_cons.1 hmem with rfl | hmem
    · exact hc (List.mem_cons_of_mem _ hs)
    · exact ih hmem

theorem IsPart.append {cs ds : List Char} (h : IsPart cs) (h' : IsPart ds) : IsPart (cs ++ ds) := by
  induction h with
  | nil => exact h'
  | escape ha hb _ ih => exact .escape ha hb ih
  | plain hc _ ih => exact .plain hc ih

/-! ## Reading back -/

/-- The bytes that characters stand for: a plus sign is a space, and a percent sign with two digits is the byte
that they write. -/
def decode (cs : List Char) : List UInt8 := Percent.decode (cs.map fun c => if c = '+' then ' ' else c)

/-- The text that a part of an address stands for, if its bytes are those of a text. -/
def decode? (s : String) : Option String := String.fromUTF8? ⟨(decode s.toList).toArray⟩

/-- The digits that are written for a byte. -/
theorem hexDigit_read : ∀ n < 16, hexValue? (Percent.hexDigit n) = some n ∧ Percent.hexDigit n ≠ '+' := by
  decide

/-- A character that is no sign is read as its own bytes. -/
theorem decode_plain {c : Char} (hplus : c ≠ '+') (hpercent : c ≠ '%') (rest : List Char) :
    decode (c :: rest) = Percent.bytes c ++ decode rest := by
  rw [decode, List.map_cons, if_neg hplus, Percent.decode]
  · rfl
  · exact fun a b rest hc _ => hpercent hc

theorem decode_escape {a b : Char} {x y : Nat} (ha : hexValue? a = some x) (hb : hexValue? b = some y)
    (hplus : a ≠ '+' ∧ b ≠ '+') (rest : List Char) :
    decode ('%' :: a :: b :: rest) = (16 * x + y).toUInt8 :: decode rest := by
  have hpercent : '%' ≠ '+' := by decide
  rw [decode, List.map_cons, List.map_cons, List.map_cons, if_neg hpercent, if_neg hplus.1, if_neg hplus.2,
    Percent.decode]
  simp only [ha, hb]
  rfl

theorem bytes_ascii {c : Char} (h : c.val.toNat < 128) : Percent.bytes c = [UInt8.ofNat c.val.toNat] := by
  have hshort : c.val.toNat ≤ 127 := by omega
  rw [Percent.bytes, toList_toUTF8, String.toList_singleton, List.flatMap_singleton, String.utf8EncodeChar]
  exact if_pos hshort

/-- A byte that stands for itself is that of a character of ASCII, and no sign. -/
theorem plain_byte {b : UInt8} (h : isPlain b = true) :
    Char.ofNat b.toNat ∉ '+' :: '%' :: separators ∧ Percent.bytes (Char.ofNat b.toNat) = [b] := by
  have hall : ∀ n < 128, isPlain (UInt8.ofNat n) = true →
      Char.ofNat n ∉ '+' :: '%' :: separators ∧ (Char.ofNat n).val.toNat = n := by decide
  have hascii : b.toNat < 128 := by
    rw [isPlain, Bool.and_eq_true, decide_eq_true_iff, UInt8.lt_iff_toNat_lt] at h
    exact h.1
  have hbyte : UInt8.ofNat b.toNat = b := UInt8.ofNat_toNat
  obtain ⟨hsign, hvalue⟩ := hall b.toNat hascii (hbyte.symm ▸ h)
  exact ⟨hsign, by rw [bytes_ascii (hvalue.symm ▸ hascii), hvalue, hbyte]⟩

/-- What is written for a byte is read back as that byte, whatever follows. -/
theorem decode_encodeByte (b : UInt8) (rest : List Char) : decode (encodeByte b ++ rest) = b :: decode rest := by
  unfold encodeByte
  split
  · rename_i hspace
    rw [hspace]
    show decode ('+' :: rest) = _
    -- a plus sign is read as a space is
    have hplus : decode ('+' :: rest) = decode (' ' :: rest) := by simp [decode]
    rw [hplus, decode_plain (by decide) (by decide), bytes_ascii (by decide)]
    rfl
  · split
    · rename_i hplain
      obtain ⟨hsign, hbyte⟩ := plain_byte hplain
      simp only [List.mem_cons, not_or] at hsign
      rw [List.singleton_append, decode_plain hsign.1 hsign.2.1, hbyte]
      rfl
    · have hbound : b.toNat < 256 := b.toNat_lt
      obtain ⟨hhigh, hhighPlus⟩ := hexDigit_read (b.toNat / 16) (by omega)
      obtain ⟨hlow, hlowPlus⟩ := hexDigit_read (b.toNat % 16) (by omega)
      show decode ('%' :: _ :: _ :: rest) = _
      rw [decode_escape hhigh hlow ⟨hhighPlus, hlowPlus⟩, Nat.div_add_mod]
      exact congrArg (· :: decode rest) UInt8.ofNat_toNat

theorem decode_encodeBytes (bs : List UInt8) : decode (encodeBytes bs) = bs := by
  induction bs with
  | nil => rfl
  | cons b bs ih => rw [encodeBytes, List.flatMap_cons, ← encodeBytes, decode_encodeByte, ih]

/-- **A text is read back from what is written for it.** -/
theorem decode?_encode (s : String) : decode? (encode s) = some s := by
  rw [decode?, fromUTF8?_eq_some_iff, encode, String.toList_ofList, decode_encodeBytes]

theorem encode_inj {s t : String} : encode s = encode t ↔ s = t := by
  refine ⟨fun h => ?_, congrArg encode⟩
  have hread := congrArg decode? h
  rw [decode?_encode, decode?_encode] at hread
  exact Option.some.inj hread

/-! ## Signs -/

theorem isPart_encodeByte (b : UInt8) : IsPart (encodeByte b) := by
  unfold encodeByte
  split
  · exact .plain (by decide) .nil
  · split
    · rename_i hplain
      exact .plain (fun hmem => (plain_byte hplain).1 (List.mem_cons_of_mem _ hmem)) .nil
    · have hbound : b.toNat < 256 := b.toNat_lt
      have hhigh := (hexDigit_read (b.toNat / 16) (by omega)).1
      have hlow := (hexDigit_read (b.toNat % 16) (by omega)).1
      exact .escape (by rw [hhigh]; rfl) (by rw [hlow]; rfl) .nil

/-- What is written for a text is a part of an address. -/
theorem isPart_encode (s : String) : IsPart (encode s).toList := by
  rw [encode, String.toList_ofList]
  induction s.toUTF8.toList with
  | nil => exact .nil
  | cons b bs ih =>
    rw [encodeBytes, List.flatMap_cons, ← encodeBytes]
    exact (isPart_encodeByte b).append ih

end ScrapeFleet.Text.FormEncoded
