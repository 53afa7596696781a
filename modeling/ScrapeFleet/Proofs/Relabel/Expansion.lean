/-
# ScrapeFleet.Proofs.Relabel.Expansion — replacements as templates

The program that applies a rule does not write a replacement as it is. A dollar with a name behind it, in braces
or not, is a reference to a group of the rule's pattern, two dollars are a dollar, and every other dollar stands
for itself (`NameChars.Refers`). Behind the dollar of a reference the longest run of name characters is the name
(`reference?_eq_some_iff`). A group that is not there is filled in as nothing, so where there are no groups a
text loses its references, and it stays as it is exactly if it has none (`expand_none_eq_self_iff`).
-/
import ScrapeFleet.Proofs.Text.Digits
import ScrapeFleet.Text.Word

namespace ScrapeFleet.Relabel

/-! ## References -/

/-- The characters of which names of groups are made: letters, digits and `_`. Which letters there are beyond
ASCII is up to the program that fills templates in, but the signs of references are none. -/
structure NameChars where
  isName : Char → Bool
  word : ∀ c, Text.isAsciiWord c = true → isName c = true
  sign : ∀ c ∈ ['$', '\x7b', '\x7d'], isName c = false

/-- The letters and digits of ASCII and `_` alone. -/
def NameChars.ascii : NameChars := ⟨Text.isAsciiWord, fun _ h => h, Text.forall_of_all (by decide)⟩

/-- What a dollar and the signs behind it stand for. -/
inductive Reference where
  /-- A dollar, which is written as two. -/
  | dollar
  /-- A group of the pattern, by its name or number. -/
  | group (name : List Char)

/-- What is filled in for a reference. -/
def Reference.text (groups : List Char → List Char) : Reference → List Char
  | .dollar => ['$']
  | .group name => groups name

namespace NameChars

variable (N : NameChars)

/-- The name at the start of a text, and what comes behind it. -/
def name? (cs : List Char) : Option (List Char × List Char) :=
  if cs.takeWhile N.isName = [] then none else some (cs.takeWhile N.isName, cs.dropWhile N.isName)

/-- The reference that a dollar makes with what stands behind it, and what comes behind the reference. -/
def reference? : List Char → Option (Reference × List Char)
  | '$' :: rest => some (.dollar, rest)
  | '\x7b' :: cs =>
    match N.name? cs with
    | some (name, '\x7d' :: rest) => some (.group name, rest)
    | _ => none
  | cs => (N.name? cs).map fun (name, rest) => (.group name, rest)

/-- A text starts as a reference does behind its dollar. A name without braces ends where the name
characters do. -/
inductive Refers : List Char → Reference → List Char → Prop where
  | dollar {rest : List Char} : Refers ('$' :: rest) .dollar rest
  | braced {name rest : List Char} (hsome : name ≠ []) (hname : ∀ c ∈ name, N.isName c = true) :
      Refers ('\x7b' :: (name ++ '\x7d' :: rest)) (.group name) rest
  | bare {name rest : List Char} (hsome : name ≠ []) (hname : ∀ c ∈ name, N.isName c = true)
      (hend : ∀ c ∈ rest.head?, N.isName c = false) : Refers (name ++ rest) (.group name) rest

variable {N} {cs name rest : List Char} {r : Reference}

theorem name?_eq_some_iff :
    N.name? cs = some (name, rest) ↔
      cs = name ++ rest ∧ name ≠ [] ∧ (∀ c ∈ name, N.isName c = true) ∧
        ∀ c ∈ rest.head?, N.isName c = false := by
  unfold name?
  constructor
  · intro h
    obtain ⟨hsome, heq⟩ := Option.ite_none_left_eq_some.1 h
    obtain ⟨rfl, rfl⟩ := Prod.mk.inj (Option.some.inj heq)
    refine ⟨List.takeWhile_append_dropWhile.symm, hsome, List.all_eq_true.1 List.all_takeWhile, ?_⟩
    intro c hc
    simpa [Option.mem_def.1 hc] using List.head?_dropWhile_not N.isName cs
  · rintro ⟨rfl, hsome, hname, hend⟩
    obtain ⟨htake, hdrop⟩ := Text.while_run hname hend
    rw [htake, hdrop, if_neg hsome]

/-- A name starts with a name character. -/
theorem name?_eq_none_of_head {c : Char} (hc : N.isName c = false) : N.name? (c :: cs) = none := by
  simp [name?, hc]

/-- The reader of references finds what is one. -/
theorem reference?_eq_some_iff : N.reference? cs = some (r, rest) ↔ N.Refers cs r rest := by
  have hdollar : N.isName '$' = false := N.sign _ (by decide)
  have hopen : N.isName '\x7b' = false := N.sign _ (by decide)
  have hclose : N.isName '\x7d' = false := N.sign _ (by decide)
  constructor
  · intro h
    unfold reference? at h
    split at h
    · obtain ⟨rfl, rfl⟩ := Prod.mk.inj (Option.some.inj h)
      exact .dollar
    · split at h
      · rename_i cs name rest hread
        obtain ⟨rfl, rfl⟩ := Prod.mk.inj (Option.some.inj h)
        obtain ⟨rfl, hsome, hname, _⟩ := name?_eq_some_iff.1 hread
        exact .braced hsome hname
      · cases h
    · obtain ⟨⟨name, rest⟩, hread, heq⟩ := Option.map_eq_some_iff.1 h
      obtain ⟨rfl, rfl⟩ := Prod.mk.inj heq
      obtain ⟨rfl, hsome, hname, hend⟩ := name?_eq_some_iff.1 hread
      exact .bare hsome hname hend
  · intro h
    cases h with
    | dollar => rfl
    | @braced name _ hsome hname =>
      have hread : N.name? (name ++ '\x7d' :: rest) = some (name, '\x7d' :: rest) :=
        name?_eq_some_iff.2 ⟨rfl, hsome, hname, fun c hc => Option.some.inj hc ▸ hclose⟩
      simp only [reference?, hread]
    | @bare name _ hsome hname hend =>
      have hread : N.name? (name ++ rest) = some (name, rest) :=
        name?_eq_some_iff.2 ⟨rfl, hsome, hname, hend⟩
      -- a name starts with neither of the two signs
      unfold reference?
      split
      · rename_i heq
        rw [heq, name?_eq_none_of_head hdollar] at hread
        cases hread
      · rename_i heq
        rw [heq, name?_eq_none_of_head hopen] at hread
        cases hread
      · rw [hread]
        rfl

/-- Without groups, a reference is filled in with no more than stands behind its dollar. -/
theorem Refers.length_le (h : N.Refers cs r rest) :
    (r.text fun _ => []).length + rest.length ≤ cs.length := by
  cases h <;> simp only [Reference.text, List.length_append, List.length_cons, List.length_nil] <;> omega

/-- A reference takes some of the text. -/
theorem Refers.length_lt (h : N.Refers cs r rest) : rest.length < cs.length := by
  cases h with
  | dollar => exact Nat.lt_succ_self _
  | braced =>
    simp only [List.length_cons, List.length_append]
    omega
  | bare hsome =>
    have hpos := List.length_pos_iff.2 hsome
    rw [List.length_append]
    omega

/-! ## Filling in -/

variable (N) in
/-- A text with the groups of a match in the place of its references. A dollar that makes no reference
stays. -/
def expand (groups : List Char → List Char) : List Char → List Char
  | [] => []
  | c :: cs =>
    if c = '$' then
      match _h : N.reference? cs with
      | some (r, rest) => r.text groups ++ expand groups rest
      | none => c :: expand groups cs
    else c :: expand groups cs
termination_by cs => cs.length
decreasing_by
  · have hshorter := (reference?_eq_some_iff.1 _h).length_lt
    simp only [List.length_cons]
    omega
  · simp
  · simp

variable (N) in
/-- Somewhere in a text a dollar makes a reference. -/
def HasReference (cs : List Char) : Prop :=
  ∃ before after r rest, cs = before ++ '$' :: after ∧ N.Refers after r rest

theorem hasReference_cons_iff {c : Char} :
    N.HasReference (c :: cs) ↔ c = '$' ∧ (∃ r rest, N.Refers cs r rest) ∨ N.HasReference cs := by
  constructor
  · rintro ⟨before, after, r, rest, heq, hrefers⟩
    cases before with
    | nil =>
      obtain ⟨rfl, rfl⟩ := List.cons.inj heq
      exact .inl ⟨rfl, r, rest, hrefers⟩
    | cons _ before =>
      obtain ⟨_, rfl⟩ := List.cons.inj heq
      exact .inr ⟨before, after, r, rest, rfl, hrefers⟩
  · rintro (⟨rfl, r, rest, hrefers⟩ | ⟨before, after, r, rest, rfl, hrefers⟩)
    · exact ⟨[], cs, r, rest, rfl, hrefers⟩
    · exact ⟨c :: before, after, r, rest, rfl, hrefers⟩

theorem not_hasReference_of_no_dollar (h : '$' ∉ cs) : ¬ N.HasReference cs := by
  rintro ⟨before, after, _, _, rfl, _⟩
  exact h (List.mem_append_right before List.mem_cons_self)

/-- A text without references stays as it is, whatever the groups are. -/
theorem expand_eq_self {groups : List Char → List Char} (h : ¬ N.HasReference cs) :
    N.expand groups cs = cs := by
  induction cs with
  | nil => rw [expand]
  | cons c cs ih =>
    rw [hasReference_cons_iff, not_or] at h
    rw [expand, ih h.2]
    split
    · rename_i hc
      split
      · rename_i r rest hread
        exact absurd ⟨hc, r, rest, reference?_eq_some_iff.1 hread⟩ h.1
      · rfl
    · rfl

/-- Without groups, nothing gets longer. -/
theorem length_expand_none_le (cs : List Char) : (N.expand (fun _ => []) cs).length ≤ cs.length := by
  -- along the run of the program, since a reference takes more than one character
  fun_induction N.expand (fun _ => []) cs with
  | case1 => exact Nat.le_refl 0
  | case2 cs r rest hread ih =>
    have htext := (reference?_eq_some_iff.1 hread).length_le
    simp only [List.length_append, List.length_cons]
    omega
  | case3 cs hread ih => simpa using ih
  | case4 c cs hc ih => simpa using ih

/-- Without groups, a text with a reference gets shorter. -/
theorem length_expand_none_lt (h : N.HasReference cs) : (N.expand (fun _ => []) cs).length < cs.length := by
  induction cs with
  | nil =>
    obtain ⟨before, after, _, _, heq, _⟩ := h
    cases before <;> cases heq
  | cons c cs ih =>
    rw [hasReference_cons_iff] at h
    rw [expand]
    split
    · rename_i hc
      split
      · rename_i r rest hread
        -- the dollar itself goes
        have htext := (reference?_eq_some_iff.1 hread).length_le
        have hrest := length_expand_none_le (N := N) rest
        simp only [List.length_append, List.length_cons]
        omega
      · rename_i hread
        have hnone : ¬ ∃ r rest, N.Refers cs r rest := by
          rintro ⟨r, rest, hrefers⟩
          rw [reference?_eq_some_iff.2 hrefers] at hread
          cases hread
        exact Nat.succ_lt_succ (ih (h.resolve_left fun hfirst => hnone hfirst.2))
    · rename_i hc
      exact Nat.succ_lt_succ (ih (h.resolve_left fun hfirst => hc hfirst.1))

/-- **Without groups, a text stays as it is exactly if it has no reference.** -/
theorem expand_none_eq_self_iff : N.expand (fun _ => []) cs = cs ↔ ¬ N.HasReference cs := by
  refine ⟨fun h href => ?_, expand_eq_self⟩
  have hshorter := length_expand_none_lt href
  rw [h] at hshorter
  exact Nat.lt_irrefl _ hshorter

end NameChars

end ScrapeFleet.Relabel
