/-
# ScrapeFleet.Proofs.Yaml.Form — which form carries which text

The form of a scalar is chosen for the text that is written (`style`), but a text may be changed after
that, as long as the form still carries it. So what a form needs of its text is said apart from the
choice (`Style.Carries`), and the choice is shown to be one that carries the text (`style_carries`).
-/
import ScrapeFleet.Proofs.Yaml.Literal
import ScrapeFleet.Proofs.Yaml.Quoted

namespace ScrapeFleet.Yaml

/-- The form holds the text and gives it back. -/
def Style.Carries (cs : List Char) : Style → Prop
  | .plain => cs ≠ [] ∧ plainAllowed cs = true
  | .single => singleAllowed cs = true ∧ '\n' ∉ cs
  | .double => True
  | .literal => cs ≠ [] ∧ literalAllowed cs = true

theorem style_carries (s : String) : (style s).Carries s.toList := by
  simp only [style]
  split
  · rename_i hn
    have hne : s.toList ≠ [] := by
      rintro h
      rw [h] at hn
      cases hn
    split
    · rename_i hl
      exact ⟨hne, hl⟩
    · trivial
  · rename_i hn
    split
    · rename_i hp
      simp only [Bool.and_eq_true] at hp
      refine ⟨?_, hp.2⟩
      rintro h
      have : s = "" := by rw [← String.toList_inj, h]; rfl
      subst this
      exact absurd hp.1 (by decide)
    · split
      · rename_i hs
        exact ⟨hs, by simpa using hn⟩
      · trivial

/-! ## What each form asks for -/

theorem printable_of_not_needsEscapes {cs : List Char} (h : needsEscapes cs = false) :
    ∀ x ∈ cs, isPrintable x = true := by
  simp only [needsEscapes, Bool.or_eq_false_iff, List.any_eq_false] at h
  intro x hx
  simpa using h.1 x hx

/-- A text that may stand unquoted. -/
structure PlainText (t : List Char) : Prop where
  ne_nil : t ≠ []
  tail : PlainTail t
  head_ne_space : t.head? ≠ some ' '
  last_ne_space : t.getLast? ≠ some ' '
  head : ∀ x, t.head? = some x → startsIndicator x = false
  dash : ∀ x r, t = x :: r → x = '-' ∨ x = '?' ∨ x = ':' → isBlankOrEnd r.head? = false
  dashes : ['-', '-', '-'].isPrefixOf t = false
  points : ['.', '.', '.'].isPrefixOf t = false

theorem PlainText.head_ne_hash {t : List Char} (ht : PlainText t) : t.head? ≠ some '#' := by
  intro hhead
  exact absurd (ht.head _ hhead) (by decide)

theorem Style.Carries.plainText {cs : List Char} (h : Style.plain.Carries cs) : PlainText cs := by
  obtain ⟨hne, h⟩ := h
  simp only [plainAllowed, Bool.and_eq_true, Bool.not_eq_true'] at h
  obtain ⟨⟨⟨⟨hedge, -⟩, hescape⟩, hbreak⟩, hind⟩ := h
  simp only [hasIndicator, Bool.or_eq_false_iff] at hind
  obtain ⟨⟨⟨⟨hdashes, hpoints⟩, hstart⟩, hcolon⟩, hmark⟩ := hind
  simp only [hasEdgeSpace, Bool.or_eq_false_iff] at hedge
  have hprint := printable_of_not_needsEscapes hescape
  have hline : ∀ x ∈ cs, InLine x := fun x hx =>
    ⟨hprint x hx, by simpa using List.any_eq_false.1 hbreak x hx⟩
  refine ⟨hne, ⟨hline, hcolon, hmark⟩, ?_, ?_, ?_, ?_, hdashes, hpoints⟩
  · intro hx
    have := hedge.1
    simp [hx] at this
  · intro hx
    have := hedge.2
    simp [hx] at this
  · intro x hx
    obtain ⟨r, rfl⟩ := List.head?_eq_some_iff.1 hx
    simp only [Bool.or_eq_false_iff] at hstart
    exact hstart.1
  · rintro x r rfl hx
    simp only [Bool.or_eq_false_iff] at hstart
    rcases hx with rfl | rfl | rfl
    · simpa using hstart.2
    · simpa using hstart.2
    · simp only [hasOpenColon, Bool.or_eq_false_iff] at hcolon
      simpa using hcolon.1

theorem Style.Carries.singleTail {cs : List Char} (h : Style.single.Carries cs) :
    SingleTail cs := by
  obtain ⟨h, hn⟩ := h
  simp only [singleAllowed, Bool.and_eq_true, Bool.not_eq_true'] at h
  have hescape := h.2
  simp only [needsEscapes, Bool.or_eq_false_iff] at hescape
  exact ⟨printable_of_not_needsEscapes h.2, hn, h.1, hescape.2⟩

theorem Style.Carries.literalText {cs : List Char} (h : Style.literal.Carries cs) :
    cs ≠ [] ∧ ∀ x ∈ cs, isPrintable x = true := by
  obtain ⟨hne, h⟩ := h
  simp only [literalAllowed, Bool.and_eq_true, Bool.not_eq_true'] at h
  exact ⟨hne, printable_of_not_needsEscapes h.1⟩

/-! ## Numbers and truth values stand unquoted -/

theorem hasOpenColon_of_not_mem {t : List Char} (h : ':' ∉ t) : hasOpenColon t = false := by
  induction t with
  | nil => rfl
  | cons x t ih =>
    simp only [List.mem_cons, not_or] at h
    simp [hasOpenColon, ih h.2, Ne.symm h.1]

theorem anyAdjacent_of_not_mem {p : Char → Bool} {z : Char} {t : List Char} (h : z ∉ t) :
    anyAdjacent (fun a b => p a && b == z) t = false := by
  induction t with
  | nil => rfl
  | cons x t ih =>
    simp only [List.mem_cons, not_or] at h
    cases t with
    | nil => rfl
    | cons y t =>
      have hy : (y == z) = false := by
        rw [beq_eq_false_iff_ne]
        rintro rfl
        exact h.2 List.mem_cons_self
      simp only [anyAdjacent, hy, Bool.and_false, Bool.false_or]
      exact ih h.2

/-- What a digit is for the writer: a printed character of no meaning of its own. -/
theorem digit_harmless {x : Char} (hx : ∃ d < 10, x = Nat.digitChar d) :
    startsIndicator x = false ∧ isPrintable x = true ∧ isBreak x = false ∧
      isBlankOrEnd (some x) = false ∧ x ∉ [' ', ':', '#', '-', '?', '.'] := by
  have hall : ∀ d < 10, startsIndicator (Nat.digitChar d) = false ∧
      isPrintable (Nat.digitChar d) = true ∧ isBreak (Nat.digitChar d) = false ∧
      isBlankOrEnd (some (Nat.digitChar d)) = false ∧
      Nat.digitChar d ∉ [' ', ':', '#', '-', '?', '.'] := by decide
  obtain ⟨d, hd, rfl⟩ := hx
  exact hall d hd

section Numbers

variable {sign ds : List Char}

theorem minus_or_digit (hsign : sign = [] ∨ sign = ['-'])
    (hds : ∀ x ∈ ds, ∃ d < 10, x = Nat.digitChar d) {x : Char} (hx : x ∈ sign ++ ds) :
    x = '-' ∨ ∃ d < 10, x = Nat.digitChar d := by
  rcases List.mem_append.1 hx with hx | hx
  · rcases hsign with rfl | rfl
    · cases hx
    · exact .inl (by simpa using hx)
  · exact .inr (hds x hx)

/-- Nothing but the sign has a meaning of its own. -/
theorem not_mem_number (hsign : sign = [] ∨ sign = ['-'])
    (hds : ∀ x ∈ ds, ∃ d < 10, x = Nat.digitChar d) {z : Char} (hz : z ∈ [' ', ':', '#', '?', '.']) :
    z ∉ sign ++ ds := by
  intro hx
  rcases minus_or_digit hsign hds hx with rfl | hdigit
  · exact absurd hz (by decide)
  · refine (digit_harmless hdigit).2.2.2.2 ?_
    simp only [List.mem_cons, List.not_mem_nil, or_false] at hz ⊢
    tauto

/-- Digits, with or without a minus sign, stand unquoted. -/
theorem plainText_digits (hsign : sign = [] ∨ sign = ['-']) (hne : ds ≠ [])
    (hds : ∀ x ∈ ds, ∃ d < 10, x = Nat.digitChar d) : PlainText (sign ++ ds) := by
  have hnot {z : Char} (hz : z ∈ [' ', ':', '#', '?', '.']) : z ∉ sign ++ ds :=
    not_mem_number hsign hds hz
  obtain ⟨y, r, rfl⟩ := List.exists_cons_of_ne_nil hne
  have hy := digit_harmless (hds y List.mem_cons_self)
  simp only [List.mem_cons, List.not_mem_nil, or_false, not_or] at hy
  obtain ⟨-, -, -, hopen, -, hcolon, -, hminus, hquestion, hpoint⟩ := hy
  refine ⟨by simp, ⟨?_, hasOpenColon_of_not_mem (hnot (by simp)),
    anyAdjacent_of_not_mem (hnot (by simp))⟩, ?_, ?_, ?_, ?_, ?_, ?_⟩
  · intro x hx
    rcases minus_or_digit hsign hds hx with rfl | hdigit
    · exact ⟨by decide, by decide⟩
    · obtain ⟨-, hprint, hbreak, -⟩ := digit_harmless hdigit
      exact ⟨hprint, hbreak⟩
  · exact fun h => hnot (by simp) (List.mem_of_head? h)
  · exact fun h => hnot (by simp) (List.mem_of_getLast? h)
  · intro x hx
    rcases minus_or_digit hsign hds (List.mem_of_head? hx) with rfl | hdigit
    · decide
    · exact (digit_harmless hdigit).1
  · -- a sign has a digit behind it
    rintro x t ht hx
    rcases hsign with rfl | rfl
    · obtain ⟨rfl, -⟩ := List.cons.inj ht
      rcases hx with rfl | rfl | rfl
      · exact absurd rfl hminus
      · exact absurd rfl hquestion
      · exact absurd rfl hcolon
    · obtain ⟨-, rfl⟩ := List.cons.inj ht
      exact hopen
  · rcases hsign with rfl | rfl
    · simp [List.isPrefixOf, Ne.symm hminus]
    · simp [List.isPrefixOf, Ne.symm hminus]
  · rcases hsign with rfl | rfl
    · simp [List.isPrefixOf, Ne.symm hpoint]
    · simp [List.isPrefixOf]

end Numbers

theorem plainText_int (n : Int) : PlainText (toString n).toList := by
  obtain ⟨sign, m, hwritten, hsign⟩ := Text.exists_sign n
  rw [hwritten]
  exact plainText_digits hsign Nat.toDigits_ne_nil fun x hx =>
    Text.exists_digit_of_mem_toDigits (by decide) m hx

theorem plainText_bool (b : Bool) : PlainText (if b then "true" else "false").toList := by
  cases b with
  | true =>
    have h : Style.plain.Carries "true".toList := ⟨by decide, by decide⟩
    exact h.plainText
  | false =>
    have h : Style.plain.Carries "false".toList := ⟨by decide, by decide⟩
    exact h.plainText

/-! ## Every form writes printable characters -/

theorem mem_singleBody {n : Nat} {x : Char} (cs : List Char) (broken : Bool)
    (hx : x ∈ (singleBody n broken cs).toList) : x ∈ cs ∨ x = ' ' ∨ x = '\'' := by
  induction cs generalizing broken with
  | nil =>
    cases broken <;> simp [singleBody, spaces] at hx
    exact .inr (.inl hx.2)
  | cons y cs ih =>
    have hspaces : x ∈ (if broken then spaces n else "").toList → x = ' ' := by
      intro h
      cases broken <;> simp [spaces] at h
      exact h.2
    have hquote : x ∈ (if y == '\'' then "''" else y.toString).toList → x ∈ y :: cs ∨ x = '\'' := by
      intro h
      split at h
      · exact .inr (by simpa using h)
      · exact .inl (by simp at h; simp [h])
    have hrest : ∀ b, x ∈ (singleBody n b cs).toList → x ∈ y :: cs ∨ x = ' ' ∨ x = '\'' := by
      intro b h
      rcases ih b h with h | h
      · exact .inl (List.mem_cons_of_mem _ h)
      · exact .inr h
    -- what is written for a space, for a break and for any other character
    rw [singleBody] at hx
    split at hx
    · rw [String.toList_append, List.mem_append] at hx
      rcases hx with hx | hx
      · exact .inr (.inl (by simpa using hx))
      · exact hrest _ hx
    · split at hx
      · rw [String.toList_append, List.mem_append] at hx
        rcases hx with hx | hx
        · exact .inl (by simp at hx; simp [hx])
        · exact hrest _ hx
      · rw [String.toList_append, String.toList_append, List.mem_append, List.mem_append] at hx
        rcases hx with (hx | hx) | hx
        · exact .inr (.inl (hspaces hx))
        · rcases hquote hx with h | h
          · exact .inl h
          · exact .inr (.inr h)
        · exact hrest _ hx

theorem mem_literalBody {n : Nat} {x : Char} (cs : List Char) (broken : Bool)
    (hx : x ∈ (literalBody n broken cs).toList) : x ∈ cs ∨ x = ' ' := by
  induction cs generalizing broken with
  | nil => simp [literalBody] at hx
  | cons y cs ih =>
    have hrest : ∀ b, x ∈ (literalBody n b cs).toList → x ∈ y :: cs ∨ x = ' ' := by
      intro b h
      rcases ih b h with h | h
      · exact .inl (List.mem_cons_of_mem _ h)
      · exact .inr h
    rw [literalBody] at hx
    split at hx
    · rw [String.toList_append, List.mem_append] at hx
      rcases hx with hx | hx
      · exact .inl (by simp at hx; simp [hx])
      · exact hrest _ hx
    · rw [String.toList_append, String.toList_append, List.mem_append, List.mem_append] at hx
      rcases hx with (hx | hx) | hx
      · cases broken <;> simp [spaces] at hx
        exact .inr hx.2
      · exact .inl (by simp at hx; simp [hx])
      · exact hrest _ hx

theorem printable_hexDigits (width n : Nat) : ∀ x ∈ (hexDigits width n).toList,
    isPrintable x = true := by
  have hdigit : ∀ d < 16, isPrintable (Nat.digitChar d).toUpper = true := by decide
  intro x hx
  rw [hexDigits, String.toList_ofList, List.mem_append] at hx
  rcases hx with hx | hx
  · rw [List.eq_of_mem_replicate hx]
    rfl
  · obtain ⟨y, hy, rfl⟩ := List.mem_map.1 hx
    obtain ⟨d, hd, rfl⟩ := Text.exists_digit_of_mem_toDigits (by decide) n hy
    exact hdigit d hd

theorem printable_escaped (c : Char) : ∀ x ∈ (escaped c).toList, isPrintable x = true := by
  have hhex : ∀ (mark : String), mark.toList.all isPrintable = true → ∀ width n,
      ∀ x ∈ (mark ++ hexDigits width n).toList, isPrintable x = true := by
    intro mark hmark width n x hx
    rw [String.toList_append, List.mem_append] at hx
    rcases hx with hx | hx
    · exact List.all_eq_true.1 hmark x hx
    · exact printable_hexDigits width n x hx
  unfold escaped
  split
  all_goals try exact List.all_eq_true.1 (by decide)
  split
  · rename_i hc
    intro x hx
    obtain rfl : x = c := by simpa using hx
    exact hc
  · split
    · exact hhex "\\x" (by decide) 2 _
    · split
      · exact hhex "\\u" (by decide) 4 _
      · exact hhex "\\U" (by decide) 8 _

theorem printable_literalHints (cs : List Char) : ∀ x ∈ (literalHints cs).toList,
    isPrintable x = true := by
  apply List.all_eq_true.1
  simp only [literalHints]
  split <;> split
  all_goals (repeat' split) <;> decide

/-- What is written for a text that its form carries is printable. -/
theorem Style.Carries.printable_write {st : Style} {s : String} (h : st.Carries s.toList)
    (n : Nat) : ∀ x ∈ (st.write n s).toList, isPrintable x = true := by
  intro x hx
  cases st with
  | plain => exact (h.plainText.tail.chars x hx).printable
  | single =>
    simp only [Style.write, singleQuoted, String.toList_append, List.mem_append] at hx
    rcases hx with (hx | hx) | hx
    · obtain rfl : x = '\'' := by simpa using hx
      rfl
    · rcases mem_singleBody _ _ hx with hx | rfl | rfl
      · exact h.singleTail.printable x hx
      · rfl
      · rfl
    · obtain rfl : x = '\'' := by simpa using hx
      rfl
  | double =>
    simp only [Style.write, doubleQuoted, String.toList_append, List.mem_append, String.toList_join,
      List.mem_flatMap, List.mem_map] at hx
    rcases hx with (hx | ⟨_, ⟨c, -, rfl⟩, hx⟩) | hx
    · obtain rfl : x = '"' := by simpa using hx
      rfl
    · exact printable_escaped c x hx
    · obtain rfl : x = '"' := by simpa using hx
      rfl
  | literal =>
    simp only [Style.write, literalBlock, String.toList_append, List.mem_append] at hx
    rcases hx with ((hx | hx) | hx) | hx
    · obtain rfl : x = '|' := by simpa using hx
      rfl
    · exact printable_literalHints _ x hx
    · obtain rfl : x = '\n' := by simpa using hx
      rfl
    · rcases mem_literalBody _ _ hx with hx | rfl
      · exact h.literalText.2 x hx
      · rfl

end ScrapeFleet.Yaml
