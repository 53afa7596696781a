/-
# ScrapeFleet.Proofs.Text.Shown — what is shown of a value tells the value

Numbers, texts and truth values are shown as different things if they are different. What is shown of a list, of
a map or of a value that may be absent tells as much of the items as is shown of them, so if items are shown
alike only where they are related, so are lists (`map_eq_iff_forall₂`) and values that may be absent
(`option_eq_iff`).
-/
import Mathlib.Data.List.Forall2
import Mathlib.Data.Option.Basic
import ScrapeFleet.Dict
import ScrapeFleet.Proofs.Text.Digits
import ScrapeFleet.Text.Shown

namespace ScrapeFleet.Text.Shown

variable {α : Type} {shown : α → Shown} {R : α → α → Prop}

theorem text_injective : Function.Injective Shown.text := fun _ _ h => Shown.text.inj h

theorem bool_injective : Function.Injective Shown.bool := by
  intro b b' h
  revert h
  cases b <;> cases b' <;> simp [Shown.bool]

theorem nat_injective : Function.Injective Shown.nat := fun _ _ h => toString_inj.1 (Shown.word.inj h)

/-- A value that may be absent shows whether it is there, and what the value shows. -/
theorem option_eq_iff (h : ∀ a b, shown a = shown b ↔ R a b) {o o' : Option α} :
    Shown.option shown o = Shown.option shown o' ↔ Option.Rel R o o' := by
  cases o <;> cases o' <;> simp [Shown.option, h]

theorem option_inj (h : Function.Injective shown) {o o' : Option α} :
    Shown.option shown o = Shown.option shown o' ↔ o = o' := by
  cases o <;> cases o' <;> simp [Shown.option, h.eq_iff]

/-- A list shows what its items show. -/
theorem map_eq_iff_forall₂ (h : ∀ a b, shown a = shown b ↔ R a b) {l l' : List α} :
    l.map shown = l'.map shown ↔ List.Forall₂ R l l' := by
  rw [← List.forall₂_eq_eq_eq, List.forall₂_map_left_iff, List.forall₂_map_right_iff]
  simp only [h]

theorem map_inj (h : Function.Injective shown) {l l' : List α} : l.map shown = l'.map shown ↔ l = l' :=
  (List.map_injective_iff.2 h).eq_iff

/-- A map shows its keys and what its values show. -/
theorem entries_inj (h : Function.Injective shown) {m m' : Dict String α} :
    (m.toList.map fun (k, a) => (k, shown a)) = (m'.toList.map fun (k, a) => (k, shown a)) ↔ m = m' := by
  have hentry : Function.Injective fun e : String × α => (e.1, shown e.2) := by
    intro e e' heq
    obtain ⟨hkey, hvalue⟩ := Prod.mk.inj heq
    exact Prod.ext hkey (h hvalue)
  refine (List.map_injective_iff.2 hentry).eq_iff.trans ⟨fun heq => ?_, fun heq => by rw [heq]⟩
  exact Dict.ext heq

end ScrapeFleet.Text.Shown
