/-
# ScrapeFleet.Proofs.Relabel.Passing — which rules pass the check

A rule passes if each of the four checks does (`passes_iff`). Every check has a guard for the actions that it
is about, and some actions go through all of them; put together, they ask of each action what is written in
`Rule.Suits`, and of the pattern that it is usable (`passes_iff_acceptable`). A rule that a monitor brings
becomes a rule of a job if its action is known and the rule passes (`toRule_eq_ok_iff`).
-/
import ScrapeFleet.Monitor.RelabelRule
import ScrapeFleet.Proofs.Relabel.Template

namespace ScrapeFleet

/-- Work in two steps succeeds where both steps do. -/
theorem bind_eq_ok_iff {ε α β : Type} {x : Except ε α} {f : α → Except ε β} {b : β} :
    x >>= f = .ok b ↔ ∃ a, x = .ok a ∧ f a = .ok b := by
  cases x with
  | error e =>
    refine iff_of_false (fun h => ?_) ?_
    · cases h
    · rintro ⟨a, h, _⟩
      cases h
  | ok a =>
    constructor
    · exact fun h => ⟨a, rfl, h⟩
    · rintro ⟨a', h, hb⟩
      obtain rfl := Except.ok.inj h
      exact hb

namespace Relabel

/-- A guard goes on where its condition does not hold. -/
theorem guard_iff {c : Prop} [Decidable c] {e : Error} {x : Except Error Unit} :
    (if c then .error e else x) = .ok () ↔ ¬ c ∧ x = .ok () := by
  by_cases h : c <;> simp [h]

/-- A guard goes on where its condition holds. -/
theorem guard_not_iff {c : Prop} [Decidable c] {e : Error} {x : Except Error Unit} :
    (if c then x else .error e) = .ok () ↔ c ∧ x = .ok () := by
  by_cases h : c <;> simp [h]

namespace Rule

/-- The rule is accepted by the scraper. -/
def Passes (r : Rule) : Prop := r.check = .ok ()

instance (r : Rule) : Decidable r.Passes :=
  match h : r.check with
  | .ok () => isTrue h
  | .error _ => isFalse fun hpasses => by cases h.symm.trans hpasses

variable {r : Rule}

theorem passes_iff :
    r.Passes ↔ r.checkRegex = .ok () ∧ r.checkPresence = .ok () ∧ r.checkTarget = .ok () ∧
      r.checkFields = .ok () := by
  rw [Passes, check]
  constructor
  · intro h
    obtain ⟨_, hregex, h⟩ := bind_eq_ok_iff.1 h
    obtain ⟨_, hpresence, h⟩ := bind_eq_ok_iff.1 h
    obtain ⟨_, htarget, hfields⟩ := bind_eq_ok_iff.1 h
    exact ⟨hregex, hpresence, htarget, hfields⟩
  · rintro ⟨hregex, hpresence, htarget, hfields⟩
    rw [hregex, hpresence, htarget, hfields]
    rfl

/-! ## What each action asks -/

/-- There is a target label, and it is of a language. -/
def HasTarget (r : Rule) (l : Language Char) : Prop := ∃ t, r.targetLabel = some t ∧ t.toList ∈ l

/-- What the action of a rule asks of its other fields. -/
def Suits (r : Rule) : Prop :=
  match r.action with
  | .replace | .lowercase | .uppercase => r.HasTarget templates
  | .hashMod => (∃ n, r.modulus = some n ∧ n ≠ 0) ∧ r.HasTarget labelNames
  | .keepEqual | .dropEqual =>
    r.HasTarget labelNames ∧ (∀ text, r.regex = some text → text = "(.*)") ∧
      ∀ n, r.modulus = some n → n = 0
  | .labelDrop | .labelKeep =>
    r.sourceLabels = [] ∧ (∀ t, r.targetLabel = some t → t = "") ∧ ∀ n, r.modulus = some n → n = 0
  | .keep | .drop | .labelMap => True

/-- The pattern is usable, if there is one, and the other fields suit the action. -/
structure Acceptable (r : Rule) : Prop where
  regex : ∀ text, r.regex = some text → Regex.isUsable text = true
  suits : r.Suits

theorem checkRegex_iff :
    r.checkRegex = .ok () ↔ ∀ text, r.regex = some text → Regex.isUsable text = true := by
  unfold checkRegex
  cases r.regex with
  | none => simp
  | some text => simp

theorem hasModulus_iff : r.hasModulus = true ↔ ∃ n, r.modulus = some n ∧ n ≠ 0 := by
  unfold hasModulus
  cases r.modulus <;> simp

theorem hasModulus_eq_false_iff : r.hasModulus = false ↔ ∀ n, r.modulus = some n → n = 0 := by
  rw [← Bool.not_eq_true, hasModulus_iff]
  simp

theorem target_isEmpty_iff : r.target.isEmpty = true ↔ ∀ t, r.targetLabel = some t → t = "" := by
  unfold target
  cases r.targetLabel <;> simp

theorem regex_default_iff :
    r.regex.getD defaultRegex = defaultRegex ↔ ∀ text, r.regex = some text → text = "(.*)" := by
  unfold defaultRegex
  cases r.regex <;> simp

theorem hasTarget_iff {l : Language Char} (hl : [] ∉ l) : r.HasTarget l ↔ r.target.toList ∈ l := by
  unfold target HasTarget
  cases r.targetLabel with
  | none => simp [hl]
  | some t => simp

/-- A target of the form asked for is not empty, so the check for a missing one refuses nothing more. -/
theorem required_iff {l : Language Char} (hl : [] ∉ l) :
    r.target ≠ "" ∧ r.target.toList ∈ l ↔ r.HasTarget l := by
  rw [hasTarget_iff hl]
  refine and_iff_right_of_imp fun h hempty => ?_
  rw [hempty] at h
  exact hl h

/-- The checks of the other fields ask what suits the action. -/
theorem suits_iff :
    r.checkPresence = .ok () ∧ r.checkTarget = .ok () ∧ r.checkFields = .ok () ↔ r.Suits := by
  have htemplate := required_iff (r := r) nil_notMem_templates
  have hname := required_iff (r := r) nil_notMem_labelNames
  unfold checkPresence checkTarget checkFields Suits
  -- with the action known, the guards that are left are those about it
  cases r.action with
  | replace | lowercase | uppercase =>
    simp [Action.needsTarget, isLabelTemplate_iff, ← htemplate]
  | hashMod =>
    simp [Action.needsTarget, guard_iff, isLabelName_iff, ← hname, ← hasModulus_iff, and_assoc]
  | keepEqual | dropEqual =>
    simp [Action.needsTarget, guard_not_iff, isLabelName_iff, ← hname, ← hasModulus_eq_false_iff,
      ← regex_default_iff, and_assoc]
  | labelDrop | labelKeep =>
    simp [Action.needsTarget, guard_not_iff, ← hasModulus_eq_false_iff, ← target_isEmpty_iff]
  | keep | drop | labelMap => simp [Action.needsTarget]

theorem passes_iff_acceptable : r.Passes ↔ r.Acceptable := by
  rw [passes_iff, checkRegex_iff, suits_iff]
  exact ⟨fun ⟨hregex, hsuits⟩ => ⟨hregex, hsuits⟩, fun h => ⟨h.regex, h.suits⟩⟩

/-! ## Rules that the allocator makes -/

/-- A rule that keeps or drops passes if its pattern is usable. -/
theorem passes_filter_iff (h : r.action = .keep ∨ r.action = .drop) :
    r.Passes ↔ ∀ text, r.regex = some text → Regex.isUsable text = true := by
  have hsuits : r.Suits := by
    unfold Suits
    rcases h with h | h <;> simp [h]
  exact passes_iff_acceptable.trans ⟨Acceptable.regex, fun hregex => ⟨hregex, hsuits⟩⟩

theorem keep_passes_iff {sources : List String} {regex : String} :
    (keep sources regex).Passes ↔ Regex.isUsable regex = true := by
  rw [passes_filter_iff (.inl rfl)]
  simp [keep]

theorem drop_passes_iff {sources : List String} {regex : String} :
    (drop sources regex).Passes ↔ Regex.isUsable regex = true := by
  rw [passes_filter_iff (.inr rfl)]
  simp [drop]

/-- A rule that writes a label passes if its pattern is usable and its target is a template. -/
theorem passes_replace_iff (h : r.action = .replace) :
    r.Passes ↔ (∀ text, r.regex = some text → Regex.isUsable text = true) ∧
      isLabelTemplate r.target = true := by
  have hsuits : r.Suits ↔ isLabelTemplate r.target = true := by
    rw [isLabelTemplate_iff, ← hasTarget_iff nil_notMem_templates, Suits, h]
  rw [passes_iff_acceptable, ← hsuits]
  exact ⟨fun hacceptable => ⟨hacceptable.regex, hacceptable.suits⟩, fun ⟨hregex, h⟩ => ⟨hregex, h⟩⟩

/-- A rule that writes a label whatever it sees passes if its target is a template. -/
theorem passes_of_template (haction : r.action = .replace) (hregex : r.regex = none)
    (htarget : isLabelTemplate r.target = true) : r.Passes := by
  refine (passes_replace_iff haction).2 ⟨fun text htext => ?_, htarget⟩
  rw [hregex] at htext
  cases htext

/-- A rule for shards passes if there are any. -/
theorem passes_hashMod (h : r.action = .hashMod) (hregex : r.regex = none) (hmodulus : r.hasModulus = true)
    (htarget : isLabelName r.target = true) : r.Passes := by
  refine passes_iff_acceptable.2 ⟨fun text htext => ?_, ?_⟩
  · rw [hregex] at htext
    cases htext
  · rw [Suits, h]
    exact ⟨hasModulus_iff.1 hmodulus, (hasTarget_iff nil_notMem_labelNames).2 (isLabelName_iff.1 htarget)⟩

end Relabel.Rule

/-! ## Rules that monitors bring -/

namespace Relabel.Action

theorem find?_name_eq_some_iff {name : String} {a : Action} :
    all.find? (·.name == name) = some a ↔ a.name = name := by
  refine ⟨fun h => ?_, ?_⟩
  · have hname := List.find?_some h
    simpa using hname
  · rintro rfl
    cases a <;> decide

/-- An action is known by its name in any letter case, and the empty name is `replace`. -/
theorem ofName?_eq_some_iff {name : String} {a : Action} :
    ofName? name = some a ↔ name = "" ∧ a = .replace ∨ name.toList.map Char.toLower = a.name.toList := by
  unfold ofName?
  by_cases hname : name = ""
  · have hnamed : [] ≠ a.name.toList := by cases a <;> decide
    subst hname
    simpa [hnamed] using eq_comm
  · have hlower : (String.ofList (name.toList.map Char.toLower)).isEmpty = false := by
      simpa using hname
    simp only [hlower, Bool.false_eq_true, if_false, find?_name_eq_some_iff, hname, false_and, false_or]
    rw [← String.toList_inj, String.toList_ofList, eq_comm]

end Relabel.Action

namespace Monitor.RelabelRule

open Relabel (Rule Action)

/-- A rule names an action in any letter case; a rule without a name means `replace`. -/
def Names (r : RelabelRule) (a : Action) : Prop :=
  (r.action = none ∨ r.action = some "") ∧ a = .replace ∨
    ∃ name, r.action = some name ∧ name.toList.map Char.toLower = a.name.toList

/-- The rule with an action in place of its name. -/
def withAction (r : RelabelRule) (a : Action) : Rule where
  sourceLabels := r.sourceLabels
  separator := r.separator
  targetLabel := r.targetLabel.filter (!·.isEmpty)
  regex := r.regex
  modulus := r.modulus
  replacement := r.replacement
  action := a

theorem readAction_eq_ok_iff {r : RelabelRule} {a : Action} : r.readAction = .ok a ↔ r.Names a := by
  unfold readAction Names
  cases r.action with
  | none => simpa using eq_comm
  | some name =>
    simp only [reduceCtorEq, Option.some.injEq, false_or, exists_eq_left', ← Action.ofName?_eq_some_iff]
    cases Action.ofName? name <;> simp

/-- A rule becomes a rule of a job if its action is known and the scraper accepts the outcome. -/
theorem toRule_eq_ok_iff {r : RelabelRule} {rule : Rule} :
    r.toRule = .ok rule ↔ ∃ a, r.Names a ∧ rule = r.withAction a ∧ rule.Passes := by
  rw [toRule, bind_eq_ok_iff]
  refine exists_congr fun a => ?_
  rw [readAction_eq_ok_iff, bind_eq_ok_iff]
  refine and_congr_right fun _ => ⟨?_, ?_⟩
  · rintro ⟨_, hpasses, hsame⟩
    obtain rfl := Except.ok.inj hsame
    exact ⟨rfl, hpasses⟩
  · rintro ⟨rfl, hpasses⟩
    exact ⟨(), hpasses, rfl⟩

/-- A list of rules is read if its first rule is and the others are. -/
theorem toRules_cons_iff {r : RelabelRule} {rs : List RelabelRule} {rules : List Rule} :
    toRules (r :: rs) = .ok rules ↔
      ∃ rule others, r.toRule = .ok rule ∧ toRules rs = .ok others ∧ rules = rule :: others := by
  rw [toRules, List.mapM_cons]
  constructor
  · intro h
    obtain ⟨rule, hrule, h⟩ := bind_eq_ok_iff.1 h
    obtain ⟨others, hothers, h⟩ := bind_eq_ok_iff.1 h
    exact ⟨rule, others, hrule, hothers, (Except.ok.inj h).symm⟩
  · rintro ⟨rule, others, hrule, hothers, rfl⟩
    exact bind_eq_ok_iff.2 ⟨rule, hrule, bind_eq_ok_iff.2 ⟨others, hothers, rfl⟩⟩

/-- The rules that a monitor brings pass. -/
theorem passes_of_toRules {rs : List RelabelRule} {rules : List Rule} (h : toRules rs = .ok rules) :
    ∀ rule ∈ rules, rule.Passes := by
  induction rs generalizing rules with
  | nil =>
    obtain rfl := Except.ok.inj h
    simp
  | cons r rs ih =>
    obtain ⟨rule, others, hrule, hothers, rfl⟩ := toRules_cons_iff.1 h
    obtain ⟨_, _, _, hpasses⟩ := toRule_eq_ok_iff.1 hrule
    exact List.forall_mem_cons.2 ⟨hpasses, ih hothers⟩

/-- **The scraper's conditions are checked in full, and nothing else is.** A rule passes the check if its
pattern is usable and its fields suit its action, and a monitor's rule becomes a rule of a job if its
action is known and the rule so made is of that kind. -/
theorem accepted_exactly :
    (∀ r : Rule, r.check = .ok () ↔ r.Acceptable) ∧
      ∀ (r : RelabelRule) (rule : Rule),
        r.toRule = .ok rule ↔ ∃ a, r.Names a ∧ rule = r.withAction a ∧ rule.Acceptable := by
  refine ⟨fun _ => Rule.passes_iff_acceptable, fun r rule => ?_⟩
  simp only [toRule_eq_ok_iff, Rule.passes_iff_acceptable]

end Monitor.RelabelRule

end ScrapeFleet
