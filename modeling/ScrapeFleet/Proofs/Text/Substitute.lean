/-
# ScrapeFleet.Proofs.Text.Substitute — replacing in a text that is put together

A text is read from the left as occurrences of the pattern and characters that start none
(`substituteFrom_induction`). Replacing in a text that was put together is replacing in its parts, as long as
no occurrence lies across the joint (`substituteFrom_append`).
-/
import ScrapeFleet.Text.Substitute

namespace ScrapeFleet.Text

variable {p : Char} {ps new : List Char}

theorem stripPrefix?_eq_some_iff {q cs r : List Char} : stripPrefix? q cs = some r ↔ cs = q ++ r := by
  induction q generalizing cs with
  | nil => simp [stripPrefix?, eq_comm]
  | cons x q ih =>
    cases cs with
    | nil => simp [stripPrefix?]
    | cons c cs =>
      by_cases hx : x = c
      · subst hx
        simp [stripPrefix?, ih]
      · have hx' : c ≠ x := Ne.symm hx
        simp [stripPrefix?, hx, hx']

@[simp] theorem substituteFrom_nil : substituteFrom p ps new [] = [] := by
  rw [substituteFrom]

/-- An occurrence is replaced. -/
theorem substituteFrom_hit (r : List Char) :
    substituteFrom p ps new (p :: ps ++ r) = new ++ substituteFrom p ps new r := by
  have hstrip : stripPrefix? (p :: ps) (p :: (ps ++ r)) = some r := stripPrefix?_eq_some_iff.2 rfl
  rw [List.cons_append, substituteFrom]
  split
  · rename_i after h
    rw [hstrip, Option.some.injEq] at h
    rw [h]
  · rename_i h
    rw [hstrip] at h
    cases h

/-- A character at which no occurrence starts stays. -/
theorem substituteFrom_miss {c : Char} {r : List Char} (h : ¬ p :: ps <+: c :: r) :
    substituteFrom p ps new (c :: r) = c :: substituteFrom p ps new r := by
  rw [substituteFrom]
  split
  · rename_i after hstrip
    exact absurd ⟨after, (stripPrefix?_eq_some_iff.1 hstrip).symm⟩ h
  · rfl

theorem substituteFrom_of_ne {c : Char} (h : c ≠ p) (r : List Char) :
    substituteFrom p ps new (c :: r) = c :: substituteFrom p ps new r :=
  substituteFrom_miss fun hpre => h (List.cons_prefix_cons.1 hpre).1.symm

/-- Every text is made of occurrences and of characters at which none starts. -/
theorem substituteFrom_induction {motive : List Char → Prop} (p : Char) (ps : List Char)
    (nil : motive []) (hit : ∀ r, motive r → motive (p :: ps ++ r))
    (miss : ∀ c r, ¬ p :: ps <+: c :: r → motive r → motive (c :: r)) (cs : List Char) : motive cs := by
  induction hn : cs.length using Nat.strongRecOn generalizing cs with
  | ind n ih =>
    subst hn
    cases cs with
    | nil => exact nil
    | cons c r =>
      by_cases hpre : p :: ps <+: c :: r
      · obtain ⟨after, hafter⟩ := hpre
        rw [← hafter]
        refine hit after (ih after.length ?_ after rfl)
        rw [← hafter, List.length_append, List.length_cons]
        omega
      · exact miss c r hpre (ih r.length (Nat.lt_succ_self _) r rfl)

/-- A text in which the pattern does not occur stays as it is. -/
theorem substituteFrom_of_not_infix {cs : List Char} (h : ¬ p :: ps <:+: cs) :
    substituteFrom p ps new cs = cs := by
  induction cs using substituteFrom_induction p ps with
  | nil => exact substituteFrom_nil
  | hit r _ => exact absurd (List.prefix_append (p :: ps) r).isInfix h
  | miss c r hmiss ih =>
    rw [substituteFrom_miss hmiss, ih fun hin => h (hin.trans (List.suffix_cons c r).isInfix)]

/-- What the pattern does not start in stays as it is. -/
theorem substituteFrom_append_left {w : List Char} (hw : p ∉ w) (t : List Char) :
    substituteFrom p ps new (w ++ t) = w ++ substituteFrom p ps new t := by
  induction w with
  | nil => rfl
  | cons c w ih =>
    have hc : c ≠ p := fun h => hw (h ▸ List.mem_cons_self)
    rw [List.cons_append, substituteFrom_of_ne hc, ih fun h => hw (List.mem_cons_of_mem _ h)]
    rfl

theorem substituteFrom_eq_self {w : List Char} (hw : p ∉ w) : substituteFrom p ps new w = w := by
  have h : substituteFrom p ps new (w ++ []) = w ++ substituteFrom p ps new [] :=
    substituteFrom_append_left hw []
  simpa using h

/-- No occurrence lies across the joint of two texts: the second does not go on with the pattern, or the
first does not end inside it. -/
def Apart (p : Char) (ps w t : List Char) : Prop :=
  (∀ x, t.head? = some x → x ∉ ps) ∨ (∀ x, w.getLast? = some x → x ∉ p :: ps)

theorem Apart.of_head {c : Char} {w r : List Char} (hc : c ∉ ps) : Apart p ps w (c :: r) :=
  .inl fun _ hx => Option.some.inj hx ▸ hc

theorem Apart.right {u w t : List Char} (h : Apart p ps (u ++ w) t) : Apart p ps w t := by
  refine h.imp id fun h x hx => h x ?_
  rw [List.getLast?_append, hx]
  rfl

/-- An occurrence that starts at the first character of the first text ends in it. -/
theorem Apart.ends_first {c : Char} {r t : List Char} (h : Apart p ps (c :: r) t)
    (hpre : p :: ps <+: c :: r ++ t) : p :: ps <+: c :: r := by
  obtain ⟨after, hafter⟩ := hpre
  rcases List.append_eq_append_iff.1 hafter with ⟨w, hw, -⟩ | ⟨v, hv, ht⟩
  · exact ⟨w, hw.symm⟩
  · -- the first text is the beginning of the pattern, and `v` is what the second has of it
    obtain ⟨hc, hps⟩ := List.cons.inj hv
    cases v with
    | nil => exact ⟨[], by rw [hv, List.append_nil, List.append_nil]⟩
    | cons y v =>
      exfalso
      rcases h with h | h
      · exact h y (by rw [ht]; rfl) (by simp [hps])
      · obtain ⟨x, hx⟩ : ∃ x, (c :: r).getLast? = some x := ⟨_, List.getLast?_eq_some_getLast (by simp)⟩
        refine h x hx ?_
        rw [hv]
        exact List.mem_append_left _ (List.mem_of_getLast? hx)

/-- Replacing in a text that is put together. -/
theorem substituteFrom_append {w t : List Char} (h : Apart p ps w t) :
    substituteFrom p ps new (w ++ t) = substituteFrom p ps new w ++ substituteFrom p ps new t := by
  induction w using substituteFrom_induction p ps with
  | nil => simp
  | hit r ih =>
    rw [List.append_assoc, substituteFrom_hit, substituteFrom_hit, ih h.right, List.append_assoc]
  | miss c r hmiss ih =>
    have hfirst : ¬ p :: ps <+: c :: (r ++ t) := fun hpre => hmiss (h.ends_first hpre)
    have hrest : Apart p ps r t := Apart.right (u := [c]) h
    rw [List.cons_append, substituteFrom_miss hfirst, substituteFrom_miss hmiss, ih hrest]
    rfl

end ScrapeFleet.Text
