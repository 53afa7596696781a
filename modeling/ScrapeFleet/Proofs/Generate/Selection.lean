/-
# ScrapeFleet.Proofs.Generate.Selection — selectors against the rules made from them

What a selector selects is decided twice: by looking the labels of an object up, and by rules that see the
labels as discovery shows them on a target, under names in which all but letters and digits became `_`
(`Shows`). A rule for values joins the value with the mark of presence, so that a label that is absent and
one that is empty stay apart. As long as no two labels share a name, both decide the same
(`selectorRules_keep_iff`).
-/
import ScrapeFleet.Proofs.Dict
import ScrapeFleet.Proofs.Relabel.Filter

namespace ScrapeFleet

/-- The requirement means something: its operator is known, and it names values where it is about values. -/
def Requirement.WellFormed (r : Requirement) : Prop :=
  (r.operator = "In" ∨ r.operator = "NotIn") ∧ r.valueList ≠ [] ∨
    r.operator = "Exists" ∨ r.operator = "DoesNotExist"

/-- The operator is about values. -/
def Requirement.IsAboutValues (r : Requirement) : Prop := r.operator = "In" ∨ r.operator = "NotIn"

/-- The labels that a selector speaks of. -/
def Selector.keys (s : Selector) : List String :=
  s.labelList.map (·.1) ++ s.requirementList.map (·.key)

namespace Generate

open Regex (Tables Accepts accepts_plain accepts_choice)
open Relabel (Rule TargetLabels)

/-! ## Labels as targets show them -/

/-- Discovery shows the labels of an object on a target: each under its name, with a mark that it is there,
and nothing under the names of other labels. -/
structure Shows (stem : String) (labels : Labels) (t : TargetLabels) : Prop where
  present : ∀ k v, labels.get? k = some v → t (metaLabel stem k) = v ∧ t (metaPresent stem k) = "true"
  absent : ∀ k, (∀ k' ∈ labels.keys, labelName k' ≠ labelName k) →
    t (metaLabel stem k) = "" ∧ t (metaPresent stem k) = ""

/-- No two of some labels share a name. -/
def NamesApart (keys : List String) : Prop :=
  ∀ k ∈ keys, ∀ k' ∈ keys, labelName k = labelName k' → k = k'

/-- What a target shows under a name, if it shows the labels of an object and nothing else. -/
def shownUnder (stem : String) (labels : Labels) (name : String) : String :=
  match labels.entries.find? fun e => metaLabel stem e.1 == name with
  | some e => e.2
  | none => if labels.keys.any fun k => metaPresent stem k == name then "true" else ""

theorem metaLabel_inj {stem k k' : String} (h : metaLabel stem k = metaLabel stem k') :
    labelName k = labelName k' := by
  have htexts := congrArg String.toList h
  simp only [metaLabel, String.toList_append, List.append_assoc, List.append_cancel_left_eq] at htexts
  exact String.toList_inj.1 htexts

theorem metaPresent_inj {stem k k' : String} (h : metaPresent stem k = metaPresent stem k') :
    labelName k = labelName k' := by
  have htexts := congrArg String.toList h
  simp only [metaPresent, String.toList_append, List.append_assoc, List.append_cancel_left_eq] at htexts
  exact String.toList_inj.1 htexts

theorem metaLabel_ne_metaPresent (stem k k' : String) : metaLabel stem k ≠ metaPresent stem k' := by
  intro h
  have htexts := congrArg String.toList h
  simp [metaLabel, metaPresent] at htexts

theorem find?_shown {stem k v : String} {labels : Labels} (hapart : NamesApart labels.keys)
    (h : labels.get? k = some v) :
    labels.entries.find? (fun e => metaLabel stem e.1 == metaLabel stem k) = some (k, v) := by
  have hmem : (k, v) ∈ labels.entries := Dict.get?_eq_some_iff.1 h
  cases hfind : labels.entries.find? (fun e => metaLabel stem e.1 == metaLabel stem k) with
  | none =>
    have hne := List.find?_eq_none.1 hfind (k, v) hmem
    simp at hne
  | some e =>
    have hname : metaLabel stem e.1 = metaLabel stem k := by simpa using List.find?_some hfind
    have hentry : e ∈ labels.entries := List.mem_of_find?_eq_some hfind
    have hkey : e.1 = k :=
      hapart e.1 (List.mem_map_of_mem hentry) k (List.mem_map_of_mem hmem) (metaLabel_inj hname)
    have hvalue : e.2 = v := Dict.entry_unique (hkey ▸ hentry) hmem
    rw [← hkey, ← hvalue]

/-- Labels without two of one name can be shown. -/
theorem shows_shownUnder (stem : String) {labels : Labels} (hapart : NamesApart labels.keys) :
    Shows stem labels (shownUnder stem labels) := by
  have hother (k : String) :
      labels.entries.find? (fun e => metaLabel stem e.1 == metaPresent stem k) = none := by
    refine List.find?_eq_none.2 fun e _ => ?_
    simpa using metaLabel_ne_metaPresent stem e.1 k
  refine ⟨fun k v h => ⟨?_, ?_⟩, fun k h => ⟨?_, ?_⟩⟩
  · rw [shownUnder, find?_shown hapart h]
  · have hmem : k ∈ labels.keys := List.mem_map_of_mem (Dict.get?_eq_some_iff.1 h)
    rw [shownUnder, hother]
    exact if_pos (List.any_eq_true.2 ⟨k, hmem, by simp⟩)
  · have hfind : labels.entries.find? (fun e => metaLabel stem e.1 == metaLabel stem k) = none := by
      refine List.find?_eq_none.2 fun e he => ?_
      have hne : metaLabel stem e.1 ≠ metaLabel stem k :=
        fun heq => h e.1 (List.mem_map_of_mem he) (metaLabel_inj heq)
      simpa using hne
    rw [shownUnder, hfind]
    refine if_neg fun hany => ?_
    obtain ⟨k', _, hk'⟩ := List.any_eq_true.1 hany
    exact metaLabel_ne_metaPresent stem k k' (by simpa using (beq_iff_eq.1 hk').symm)
  · rw [shownUnder, hother]
    refine if_neg fun hany => ?_
    obtain ⟨k', hmem, hk'⟩ := List.any_eq_true.1 hany
    exact h k' hmem (metaPresent_inj (by simpa using hk'))

/-! ## What rules see of one label -/

section OneLabel

variable {T : Tables} {stem k : String} {labels : Labels} {t : TargetLabels} {keys : List String}

/-- A label shows its value and its presence, whether it is there or not. -/
theorem Shows.lookup (h : Shows stem labels t) (hapart : NamesApart (labels.keys ++ keys)) (hk : k ∈ keys) :
    t (metaLabel stem k) = (labels.get? k).getD "" ∧
      t (metaPresent stem k) = if (labels.get? k).isSome then "true" else "" := by
  cases hvalue : labels.get? k with
  | some v => exact h.present k v hvalue
  | none =>
    refine h.absent k fun k' hk' heq => ?_
    obtain rfl := hapart k' (List.mem_append_left keys hk') k (List.mem_append_right labels.keys hk) heq
    obtain ⟨e, he, hkey⟩ := List.mem_map.1 hk'
    have hsome : labels.get? k' = some e.2 := Dict.get?_eq_some_iff.2 (hkey ▸ he)
    rw [hvalue] at hsome
    cases hsome

/-- The value and the presence of a label, joined, are a value with the mark of presence only for the label
that has the value. -/
theorem joined_eq_iff {found : Option String} {v : String} :
    Rule.defaultSeparator.intercalate [found.getD "", if found.isSome then "true" else ""] = v ++ ";true" ↔
      found = some v := by
  rw [← String.toList_inj]
  cases found with
  | none =>
    have hlonger : (";".toList : List Char) ≠ v.toList ++ ";true".toList := by
      intro h
      have hlength := congrArg List.length h
      rw [List.length_append] at hlength
      simp at hlength
    simpa [Rule.defaultSeparator] using hlonger
  | some w => simp [Rule.defaultSeparator, ← String.toList_inj]

/-- Texts as alternatives, and the mark of presence. -/
theorem accepts_values_iff {values : List String} (hvalues : values ≠ []) {found : Option String} :
    Accepts T ("(" ++ "|".intercalate (values.map literalPattern) ++ ");true")
        (Rule.defaultSeparator.intercalate [found.getD "", if found.isSome then "true" else ""]) ↔
      ∃ v ∈ values, found = some v := by
  have hpattern : "(" ++ "|".intercalate (values.map literalPattern) ++ ");true" =
      "(" ++ "|".intercalate (values.map literalPattern) ++ ")" ++ literalPattern ";true" := by
    rw [← String.toList_inj]
    simp [Regex.toList_literalPattern, Regex.literal, patternMarks]
  rw [hpattern, accepts_choice hvalues]
  simp only [joined_eq_iff]

/-- The rule for a wanted label keeps what has it. -/
theorem labelRule_keeps_iff (h : Shows stem labels t) (hapart : NamesApart (labels.keys ++ keys))
    {label : String × String} (hk : label.1 ∈ keys) :
    (labelRule stem label).Keeps T t ↔ labels.get? label.1 = some label.2 := by
  obtain ⟨hvalue, hpresent⟩ := h.lookup hapart hk
  have hone : "(" ++ literalPattern label.2 ++ ");true" =
      "(" ++ "|".intercalate ([label.2].map literalPattern) ++ ");true" := by
    simp
  rw [labelRule, Rule.keep_keeps_iff, List.map_cons, List.map_cons, List.map_nil, hvalue, hpresent, hone,
    accepts_values_iff (List.cons_ne_nil _ _)]
  simp

theorem accepts_true_iff {found : Option String} :
    Accepts T "true" (Rule.defaultSeparator.intercalate [if found.isSome then "true" else ""]) ↔
      found.isSome = true := by
  have hplain : ∀ c ∈ "true".toList, patternMarks.contains c = false := by simp [patternMarks]
  rw [accepts_plain hplain]
  cases found <;> simp

/-- The rule for a requirement keeps what satisfies it. -/
theorem requirementRule?_keeps_iff (h : Shows stem labels t) (hapart : NamesApart (labels.keys ++ keys))
    {r : Requirement} (hr : r.WellFormed) (hk : r.key ∈ keys) :
    ∃ rule, requirementRule? stem r = some rule ∧ (rule.Keeps T t ↔ r.holds labels = true) := by
  obtain ⟨hvalue, hpresent⟩ := h.lookup hapart hk
  unfold requirementRule? Requirement.holds
  rcases hr with ⟨hoperator, hvalues⟩ | hoperator | hoperator
  · rcases hoperator with hoperator | hoperator
    · rw [hoperator]
      refine ⟨_, rfl, ?_⟩
      rw [Rule.keep_keeps_iff, List.map_cons, List.map_cons, List.map_nil, hvalue, hpresent,
        accepts_values_iff hvalues]
      cases labels.get? r.key <;> simp
    · rw [hoperator]
      refine ⟨_, rfl, ?_⟩
      rw [Rule.drop_keeps_iff, List.map_cons, List.map_cons, List.map_nil, hvalue, hpresent,
        accepts_values_iff hvalues]
      cases labels.get? r.key <;> simp
  · rw [hoperator]
    refine ⟨_, rfl, ?_⟩
    rw [Rule.keep_keeps_iff, List.map_cons, List.map_nil, hpresent, accepts_true_iff]
    cases labels.get? r.key <;> simp
  · rw [hoperator]
    refine ⟨_, rfl, ?_⟩
    rw [Rule.drop_keeps_iff, List.map_cons, List.map_nil, hpresent, accepts_true_iff]
    cases labels.get? r.key <;> simp

end OneLabel

/-! ## Whole selectors -/

/-- A target that shows the labels of an object is kept by all rules of a selector if and only if the
selector selects the labels. -/
theorem selectorRules_keep_iff (T : Tables) {stem : String} {s : Selector} {labels : Labels}
    {t : TargetLabels} (hmeant : ∀ r ∈ s.requirementList, r.WellFormed)
    (hapart : NamesApart (labels.keys ++ s.keys)) (hshows : Shows stem labels t) :
    (∀ rule ∈ selectorRules stem s, rule.Keeps T t) ↔ s.selects labels = true := by
  have hlabels : (∀ rule ∈ s.labelList.map (labelRule stem), rule.Keeps T t) ↔
      ∀ label ∈ s.labelList, labels.get? label.1 = some label.2 := by
    rw [List.forall_mem_map]
    refine forall₂_congr fun label hlabel => labelRule_keeps_iff hshows hapart ?_
    exact List.mem_append_left _ (List.mem_map_of_mem hlabel)
  have hrequirements : (∀ rule ∈ s.requirementList.filterMap (requirementRule? stem), rule.Keeps T t) ↔
      ∀ r ∈ s.requirementList, r.holds labels = true := by
    have hrule (r : Requirement) (hr : r ∈ s.requirementList) :
        ∃ rule, requirementRule? stem r = some rule ∧ (rule.Keeps T t ↔ r.holds labels = true) :=
      requirementRule?_keeps_iff hshows hapart (hmeant r hr)
        (List.mem_append_right _ (List.mem_map_of_mem hr))
    constructor
    · intro hkeeps r hr
      obtain ⟨rule, hsome, hiff⟩ := hrule r hr
      exact hiff.1 (hkeeps rule (List.mem_filterMap.2 ⟨r, hr, hsome⟩))
    · intro hholds rule hmem
      obtain ⟨r, hr, hsome⟩ := List.mem_filterMap.1 hmem
      obtain ⟨rule', hsome', hiff⟩ := hrule r hr
      obtain rfl : rule = rule' := Option.some.inj (hsome.symm.trans hsome')
      exact hiff.2 (hholds r hr)
  rw [selectorRules, Selector.selects, List.forall_mem_append, hlabels, hrequirements, Bool.and_eq_true,
    List.all_eq_true, List.all_eq_true]
  simp

/-- Labels of a service, one of them empty. -/
def serviceLabels : Labels := (Dict.empty.insert "app" "a.b").insert "tier" ""

/-- A selector with an operator of each kind, for values that are empty or full of marks. -/
def serviceSelector : Selector where
  labels := some (Dict.empty.insert "app" "a.b")
  requirements := some [
    { key := "tier", operator := "In", values := some ["x|y", ""] },
    { key := "app", operator := "NotIn", values := some ["a+b", ";true"] },
    { key := "tier", operator := "Exists" },
    { key := "k8s.io/zone", operator := "DoesNotExist" }]

theorem serviceSelector_keeps_service : serviceSelector.selects serviceLabels = true ∧
    ∀ rule ∈ selectorRules "__meta_kubernetes_service" serviceSelector,
      rule.Keeps Tables.plain (shownUnder "__meta_kubernetes_service" serviceLabels) := by
  have hmeant : ∀ r ∈ serviceSelector.requirementList, r.WellFormed := by
    simp [serviceSelector, Selector.requirementList, Requirement.WellFormed, Requirement.valueList]
  have hapart : NamesApart (serviceLabels.keys ++ serviceSelector.keys) := by
    unfold NamesApart
    decide
  have hlabels : NamesApart serviceLabels.keys := by
    unfold NamesApart
    decide
  have hselects : serviceSelector.selects serviceLabels = true := by decide
  refine ⟨hselects, ?_⟩
  exact (selectorRules_keep_iff Tables.plain hmeant hapart (shows_shownUnder _ hlabels)).2 hselects

end Generate

end ScrapeFleet
