/-
# ScrapeFleet.Proofs.Generate.Told — what the rules of a selector tell of it

A requirement may mean nothing: its operator is not known, or it is about values and names none. The labels
of an object are then looked at all the same, and an operator that is not known is never satisfied. The
rules say something else. An operator that is not known has no rule, so nothing is asked of the label; and
a list of no values is written as a list of the empty value is, so what is asked for is a label that is
there and empty. `Selector.told` is the selector that the rules tell of, and what they keep is what that one
selects (`selectorRules_keep_iff_told`). Where it differs from the selector itself, the rules keep targets
that nobody meant (`selectorRules_keep_unmeant`).
-/
import ScrapeFleet.Proofs.Generate.Selection

namespace ScrapeFleet

namespace Requirement

/-- The operator is about presence. -/
def IsAboutPresence (r : Requirement) : Prop := r.operator = "Exists" ∨ r.operator = "DoesNotExist"

/-- The requirement with the empty value as its only one. -/
def forEmpty (r : Requirement) : Requirement := { r with values := some [""] }

@[simp] theorem key_forEmpty (r : Requirement) : r.forEmpty.key = r.key := rfl

@[simp] theorem operator_forEmpty (r : Requirement) : r.forEmpty.operator = r.operator := rfl

@[simp] theorem valueList_forEmpty (r : Requirement) : r.forEmpty.valueList = [""] := rfl

/-- The requirement that the rule for a requirement tells of. -/
def told (r : Requirement) : Option Requirement :=
  match r.operator with
  | "In" | "NotIn" => some (if r.valueList = [] then r.forEmpty else r)
  | "Exists" | "DoesNotExist" => some r
  | _ => none

/-- The rule for a requirement tells the truth about some labels: the operator is known, and where values
are missing the label is not there with the empty value. -/
def ToldTruly (r : Requirement) (labels : Labels) : Prop :=
  r.IsAboutValues ∧ (r.valueList = [] → labels.get? r.key ≠ some "") ∨ r.IsAboutPresence

theorem told_of_values {r : Requirement} (h : r.IsAboutValues) :
    r.told = some (if r.valueList = [] then r.forEmpty else r) := by
  rcases h with h | h <;> simp [told, h]

theorem told_of_presence {r : Requirement} (h : r.IsAboutPresence) : r.told = some r := by
  rcases h with h | h <;> simp [told, h]

section Unknown

variable {r : Requirement}

/-- An operator that is about neither is not known: no rule tells of it, and no labels satisfy it. -/
theorem told_of_unknown (hvalues : ¬ r.IsAboutValues) (hpresence : ¬ r.IsAboutPresence) :
    r.told = none := by
  obtain ⟨hin, hnotIn⟩ := not_or.1 hvalues
  obtain ⟨hexists, hmissing⟩ := not_or.1 hpresence
  unfold told
  split
  all_goals first | contradiction | rfl

theorem holds_of_unknown (hvalues : ¬ r.IsAboutValues) (hpresence : ¬ r.IsAboutPresence)
    (labels : Labels) : r.holds labels = false := by
  obtain ⟨hin, hnotIn⟩ := not_or.1 hvalues
  obtain ⟨hexists, hmissing⟩ := not_or.1 hpresence
  unfold holds
  split
  all_goals first | contradiction | rfl

theorem requirementRule?_of_unknown (hvalues : ¬ r.IsAboutValues) (hpresence : ¬ r.IsAboutPresence)
    (stem : String) : Generate.requirementRule? stem r = none := by
  obtain ⟨hin, hnotIn⟩ := not_or.1 hvalues
  obtain ⟨hexists, hmissing⟩ := not_or.1 hpresence
  unfold Generate.requirementRule?
  split
  all_goals first | contradiction | rfl

end Unknown

/-- What is told of is about the same label, and means something. -/
theorem of_told {r r' : Requirement} (h : r.told = some r') : r'.key = r.key ∧ r'.WellFormed := by
  by_cases hvalues : r.IsAboutValues
  · rw [told_of_values hvalues] at h
    obtain rfl := Option.some.inj h
    by_cases hempty : r.valueList = []
    · rw [if_pos hempty]
      exact ⟨rfl, .inl ⟨hvalues, List.cons_ne_nil _ _⟩⟩
    · rw [if_neg hempty]
      exact ⟨rfl, .inl ⟨hvalues, hempty⟩⟩
  by_cases hpresence : r.IsAboutPresence
  · rw [told_of_presence hpresence] at h
    obtain rfl := Option.some.inj h
    exact ⟨rfl, .inr hpresence⟩
  · rw [told_of_unknown hvalues hpresence] at h
    cases h

/-- What is told of a requirement holds of the same labels as the requirement exactly where the truth is
told. -/
theorem toldTruly_iff {r : Requirement} {labels : Labels} :
    r.ToldTruly labels ↔ r.told.all (·.holds labels) = r.holds labels := by
  by_cases hvalues : r.IsAboutValues
  · have hpresence : ¬ r.IsAboutPresence := by
      rcases hvalues with h | h <;> simp [IsAboutPresence, h]
    rw [ToldTruly, told_of_values hvalues, Option.all_some]
    by_cases hempty : r.valueList = []
    · rw [if_pos hempty]
      unfold holds
      rw [key_forEmpty, operator_forEmpty, valueList_forEmpty, hempty]
      rcases hvalues with h | h
      · cases labels.get? r.key <;> simp [h, hpresence, IsAboutValues]
      · cases labels.get? r.key <;> simp [h, hpresence, IsAboutValues]
    · rw [if_neg hempty]
      simp [hempty, hvalues]
  by_cases hpresence : r.IsAboutPresence
  · rw [told_of_presence hpresence, Option.all_some]
    exact iff_of_true (.inr hpresence) rfl
  · rw [told_of_unknown hvalues hpresence, holds_of_unknown hvalues hpresence]
    simp [ToldTruly, hvalues, hpresence]

end Requirement

/-- The selector that the rules made from a selector tell of. -/
def Selector.told (s : Selector) : Selector :=
  { s with requirements := some (s.requirementList.filterMap Requirement.told) }

/-- What is told of a selector selects the labels that it wants, of which every requirement is told. -/
theorem Selector.selects_told_iff {s : Selector} {labels : Labels} :
    s.told.selects labels = true ↔
      (∀ label ∈ s.labelList, labels.get? label.1 = some label.2) ∧
        ∀ r ∈ s.requirementList, r.told.all (·.holds labels) = true := by
  have hrequirements : s.told.requirementList = s.requirementList.filterMap Requirement.told := rfl
  have hlabels : s.told.labelList = s.labelList := rfl
  rw [selects, hlabels, hrequirements, Bool.and_eq_true, List.all_eq_true, List.all_eq_true,
    List.forall_mem_filterMap]
  refine and_congr (by simp) (forall₂_congr fun r _ => ?_)
  cases r.told <;> simp

namespace Generate

open Regex (Tables)
open Relabel (TargetLabels)

/-- A requirement has the rule of what is told of it. -/
theorem requirementRule?_told (stem : String) (r : Requirement) :
    requirementRule? stem r = r.told.bind (requirementRule? stem) := by
  by_cases hvalues : r.IsAboutValues
  · rw [Requirement.told_of_values hvalues, Option.bind_some]
    by_cases hempty : r.valueList = []
    · rw [if_pos hempty]
      -- no values and the empty value are joined to the same text
      have hpattern : "|".intercalate (r.valueList.map literalPattern) =
          "|".intercalate (r.forEmpty.valueList.map literalPattern) := by
        rw [hempty]
        rfl
      unfold requirementRule?
      rw [hpattern]
      rfl
    · rw [if_neg hempty]
  by_cases hpresence : r.IsAboutPresence
  · rw [Requirement.told_of_presence hpresence, Option.bind_some]
  · rw [Requirement.told_of_unknown hvalues hpresence,
      Requirement.requirementRule?_of_unknown hvalues hpresence, Option.bind_none]

section Kept

variable {T : Tables} {stem : String} {s : Selector} {labels : Labels} {t : TargetLabels}

/-- The rule of a requirement, if it has one, keeps what satisfies what is told. -/
theorem requirementRule?_keeps_told_iff (hapart : NamesApart (labels.keys ++ s.keys))
    (hshows : Shows stem labels t) {r : Requirement} (hr : r ∈ s.requirementList) :
    (∀ rule, requirementRule? stem r = some rule → rule.Keeps T t) ↔
      r.told.all (·.holds labels) = true := by
  have hkey : r.key ∈ s.keys := List.mem_append_right _ (List.mem_map_of_mem hr)
  rw [requirementRule?_told]
  cases htold : r.told with
  | none => simp
  | some r' =>
    obtain ⟨hsame, hmeant⟩ := Requirement.of_told htold
    obtain ⟨rule, hrule, hkeeps⟩ :=
      requirementRule?_keeps_iff (T := T) hshows hapart hmeant (hsame ▸ hkey)
    simp [hrule, hkeeps]

/-- A target is kept by all rules of a selector if its labels are as wanted and satisfy what is told. -/
theorem selectorRules_keep_told (hapart : NamesApart (labels.keys ++ s.keys))
    (hshows : Shows stem labels t) :
    (∀ rule ∈ selectorRules stem s, rule.Keeps T t) ↔
      (∀ label ∈ s.labelList, labels.get? label.1 = some label.2) ∧
        ∀ r ∈ s.requirementList, r.told.all (·.holds labels) = true := by
  rw [selectorRules, List.forall_mem_append, List.forall_mem_map]
  refine and_congr ?_ ⟨fun h r hr => ?_, fun h rule hmem => ?_⟩
  · refine forall₂_congr fun label hlabel => labelRule_keeps_iff hshows hapart ?_
    exact List.mem_append_left _ (List.mem_map_of_mem hlabel)
  · refine (requirementRule?_keeps_told_iff (T := T) hapart hshows hr).1 fun rule hrule => ?_
    exact h rule (List.mem_filterMap.2 ⟨r, hr, hrule⟩)
  · obtain ⟨r, hr, hrule⟩ := List.mem_filterMap.1 hmem
    exact (requirementRule?_keeps_told_iff hapart hshows hr).2 (h r hr) rule hrule

end Kept

/-- **What the rules of any selector keep.** A target is kept by all of them if and only if what they tell
of selects the labels that it shows. Where every requirement is told of truly, that is what the selector
itself selects. -/
theorem selectorRules_keep_iff_told (T : Tables) {stem : String} {s : Selector} {labels : Labels}
    {t : TargetLabels} (hapart : NamesApart (labels.keys ++ s.keys)) (hshows : Shows stem labels t) :
    ((∀ rule ∈ selectorRules stem s, rule.Keeps T t) ↔ s.told.selects labels = true) ∧
      ((∀ r ∈ s.requirementList, r.ToldTruly labels) →
        ((∀ rule ∈ selectorRules stem s, rule.Keeps T t) ↔ s.selects labels = true)) := by
  have hkept := selectorRules_keep_told (T := T) hapart hshows
  refine ⟨hkept.trans Selector.selects_told_iff.symm, fun htruly => hkept.trans ?_⟩
  rw [Selector.selects, Bool.and_eq_true, List.all_eq_true, List.all_eq_true]
  refine and_congr (by simp) (forall₂_congr fun r hr => ?_)
  rw [Requirement.toldTruly_iff.1 (htruly r hr)]

/-! ## Selectors that mean nothing -/

/-- Labels of a pod, one of them empty. -/
def podLabels : Labels := (Dict.empty.insert "app" "").insert "tier" "web"

/-- What the pod shows to rules. -/
def podTarget : TargetLabels := shownUnder "__meta_kubernetes_pod" podLabels

/-- An operator that is not known. -/
def unknownOperator : Requirement := { key := "tier", operator := "Gt", values := some ["1"] }

/-- A selector with a single requirement. -/
def requiring (r : Requirement) : Selector := { requirements := some [r] }

theorem shows_podTarget : Shows "__meta_kubernetes_pod" podLabels podTarget := by
  refine shows_shownUnder _ ?_
  unfold NamesApart
  decide

theorem requiring_keeps_pod :
    (∀ rule ∈ selectorRules "__meta_kubernetes_pod" (requiring unknownOperator),
        rule.Keeps Tables.plain podTarget) ∧
      ¬ ∀ rule ∈ selectorRules "__meta_kubernetes_pod" (requiring { key := "tier", operator := "In" }),
        rule.Keeps Tables.plain podTarget := by
  have hunknown : NamesApart (podLabels.keys ++ (requiring unknownOperator).keys) := by
    unfold NamesApart
    decide
  have hnothing : NamesApart
      (podLabels.keys ++ (requiring { key := "tier", operator := "In" }).keys) := by
    unfold NamesApart
    decide
  have htruly : ∀ r ∈ (requiring { key := "tier", operator := "In" }).requirementList,
      r.ToldTruly podLabels := by
    intro r hr
    obtain rfl := List.mem_singleton.1 hr
    exact .inl ⟨.inl rfl, fun _ => by decide⟩
  refine ⟨?_, fun h => ?_⟩
  · exact (selectorRules_keep_iff_told Tables.plain hunknown shows_podTarget).1.2 (by decide)
  · have hselects := ((selectorRules_keep_iff_told Tables.plain hnothing shows_podTarget).2 htruly).1 h
    revert hselects
    decide

/-- The rules keep a target for an operator that is not known, which selects nothing, and one whose label is
empty for no values; for the values that a label must not have, if there are none, they lose it. -/
theorem selectorRules_keep_unmeant :
    ((∀ rule ∈ selectorRules "__meta_kubernetes_pod" (requiring unknownOperator),
        rule.Keeps Tables.plain podTarget) ∧ (requiring unknownOperator).selects podLabels = false) ∧
      ((∀ rule ∈ selectorRules "__meta_kubernetes_pod" (requiring { key := "app", operator := "In" }),
          rule.Keeps Tables.plain podTarget) ∧
        (requiring { key := "app", operator := "In" }).selects podLabels = false) ∧
      (¬ (∀ rule ∈ selectorRules "__meta_kubernetes_pod" (requiring { key := "app", operator := "NotIn" }),
          rule.Keeps Tables.plain podTarget) ∧
        (requiring { key := "app", operator := "NotIn" }).selects podLabels = true) := by
  have hkept (r : Requirement) (hapart : NamesApart (podLabels.keys ++ (requiring r).keys)) :
      (∀ rule ∈ selectorRules "__meta_kubernetes_pod" (requiring r), rule.Keeps Tables.plain podTarget) ↔
        (requiring r).told.selects podLabels = true :=
    (selectorRules_keep_told hapart shows_podTarget).trans Selector.selects_told_iff.symm
  refine ⟨⟨(hkept _ ?_).2 (by decide), by decide⟩, ⟨(hkept _ ?_).2 (by decide), by decide⟩,
    fun h => ?_, by decide⟩
  · unfold NamesApart
    decide
  · unfold NamesApart
    decide
  · have hselects := (hkept _ (by unfold NamesApart; decide)).1 h
    revert hselects
    decide

end Generate

end ScrapeFleet
