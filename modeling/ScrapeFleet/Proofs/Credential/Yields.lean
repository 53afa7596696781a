/-
# ScrapeFleet.Proofs.Credential.Yields — what work may come to

Work asks its questions one after the other, and what it comes to depends on the answers. `Lookup.Yields`
says what it comes to for some answers, whoever gives them, and with anything happening between two
questions; so what holds of all that work yields holds whatever the secrets are and whenever they change.
Work that a table answers (`yields_answered`), or a source that nothing disturbs (`yields_run`), comes to one
of these results.
-/
import Mathlib.Data.List.Forall2
import ScrapeFleet.Credential.Resolution

namespace ScrapeFleet.Credential.Lookup

open Cluster (ObjectKey)
open Monitor (SecretKey)

variable {α β : Type}

/-- Some answers bring the work to a result. -/
inductive Yields : Lookup α → α → Prop where
  | done (a : α) : Yields (done a) a
  | ask {ns : String} {ref : SecretKey} {next : Answer → Lookup α} {a : α} (answer : Answer)
      (h : Yields (next answer) a) : Yields (ask ns ref next) a

variable {a b : α} {work : Lookup α}

theorem yields_pure : (pure a : Lookup α).Yields b ↔ b = a := by
  constructor
  · intro h
    cases h
    rfl
  · rintro rfl
    exact .done b

/-- What work in two steps yields, its second step yields for something that the first yields. -/
theorem yields_bind {f : α → Lookup β} {b : β} :
    (work >>= f).Yields b ↔ ∃ a, work.Yields a ∧ (f a).Yields b := by
  constructor
  · intro h
    induction work with
    | done a => exact ⟨a, .done a, h⟩
    | ask ns ref next ih =>
      cases h with
      | ask answer h =>
        obtain ⟨a, ha, hb⟩ := ih answer h
        exact ⟨a, .ask answer ha, hb⟩
  · rintro ⟨a, ha, hb⟩
    induction ha with
    | done a => exact hb
    | ask answer _ ih => exact .ask answer (ih hb)

/-- What follows work may be changed where nothing that the work yields is concerned. -/
theorem bind_congr_of_yields {f g : α → Lookup β} (h : ∀ a, work.Yields a → f a = g a) :
    work >>= f = work >>= g := by
  induction work with
  | done a => exact h a (.done a)
  | ask ns ref next ih =>
    exact congrArg (ask ns ref) (funext fun answer => ih answer fun a ha => h a (.ask answer ha))

theorem yields_answered (table : String → SecretKey → Answer) (work : Lookup α) :
    work.Yields (work.answered table) := by
  induction work with
  | done a => exact .done a
  | ask ns ref next ih => exact .ask (table ns ref) (ih (table ns ref))

theorem answered_bind (table : String → SecretKey → Answer) (work : Lookup α) (f : α → Lookup β) :
    (work >>= f).answered table = (f (work.answered table)).answered table := by
  induction work with
  | done a => rfl
  | ask ns ref next ih => exact ih (table ns ref)

theorem yields_run (source : ObjectKey → Fetched) (work : Lookup α) (s : Store) :
    work.Yields (work.run source s).2 := by
  induction work generalizing s with
  | done a => exact .done a
  | ask ns ref next ih => exact .ask _ (ih _ _)

theorem map_same (work : Lookup α) : id <$> work = work := by
  induction work with
  | done a => rfl
  | ask ns ref next ih => exact congrArg (ask ns ref) (funext ih)

theorem bind_bind {γ : Type} (work : Lookup α) (f : α → Lookup β) (g : β → Lookup γ) :
    work >>= f >>= g = work >>= fun a => f a >>= g := by
  induction work with
  | done a => rfl
  | ask ns ref next ih => exact congrArg (ask ns ref) (funext ih)

/-- One step after the other is the same work in whatever way the steps are grouped. -/
instance : LawfulMonad Lookup := LawfulMonad.mk' Lookup map_same (fun _ _ => rfl) bind_bind

/-- Work for each element of a list in turn yields, element by element, what the work for it yields. -/
theorem yields_mapM {f : α → Lookup β} {as : List α} {bs : List β} :
    (as.mapM f).Yields bs ↔ List.Forall₂ (fun a b => (f a).Yields b) as bs := by
  induction as generalizing bs with
  | nil => rw [List.mapM_nil, yields_pure, List.forall₂_nil_left_iff]
  | cons a as ih =>
    rw [List.mapM_cons, yields_bind, List.forall₂_cons_left_iff]
    refine exists_congr fun b => ?_
    constructor
    · rintro ⟨hb, hrest⟩
      obtain ⟨bs', hbs', hcons⟩ := yields_bind.1 hrest
      exact ⟨bs', hb, ih.1 hbs', yields_pure.1 hcons⟩
    · rintro ⟨bs', hb, hbs', rfl⟩
      exact ⟨hb, yields_bind.2 ⟨bs', ih.2 hbs', yields_pure.2 rfl⟩⟩

end ScrapeFleet.Credential.Lookup
