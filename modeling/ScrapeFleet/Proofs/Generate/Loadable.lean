/-
# ScrapeFleet.Proofs.Generate.Loadable — which monitors give rules that the scraper accepts

One rule that is refused makes the scraper refuse every job, so it matters what a monitor can put into a
rule. The rules that it brings are checked as they are read, and most of the others say the same for every
monitor. Three kinds of text remain. The values of a selector are written as patterns for themselves, so
they are only refused for their size. The name of a port is used as a pattern as it is, and what it says may
be no pattern, while the number of a port always is one (`isUsable_number`). A label that is copied keeps its
name, in which only the characters that a label must not have are replaced: it may still be empty, or start
with a digit. `RuleTexts.Loadable` is what the texts must be, and a job passes exactly if its texts are
(`rules_pass_iff_loadable`).
-/
import ScrapeFleet.Proofs.Generate.Parts
import ScrapeFleet.Proofs.Generate.Selection
import ScrapeFleet.Proofs.Regex.Usable
import ScrapeFleet.Proofs.Text.Digits

namespace ScrapeFleet

open Regex (byteLimit charBytes choiceBytes choicePattern isUsable stateBytes)

/-! ## The texts in rules -/

/-- A choice of values, with the mark of presence, gives a pattern within the limit. -/
def ValuesFit (values : List String) : Prop := choiceBytes values + 14 * stateBytes ≤ byteLimit

/-- The values that a selector names fit into patterns. -/
structure Selector.Fits (s : Selector) : Prop where
  labels : ∀ label ∈ s.labelList, ValuesFit [label.2]
  requirements : ∀ r ∈ s.requirementList, r.IsAboutValues → ValuesFit r.valueList

namespace Generate

/-- The texts of a part of a monitor that end up in its rules. -/
structure RuleTexts where
  /-- The port, which is used as a pattern. -/
  port : Option String := none
  selector : Selector := {}
  /-- The labels of objects that are copied under their own names. -/
  copied : List String := []

/-- The name can be the name of a label once the characters that do not belong there are replaced. -/
def StartsName (name : String) : Prop := ∃ c cs, name.toList = c :: cs ∧ c.isDigit = false

/-- The texts give rules that the scraper accepts. -/
structure RuleTexts.Loadable (t : RuleTexts) : Prop where
  port : ∀ text ∈ t.port, isUsable text = true
  selector : t.selector.Fits
  copied : ∀ name ∈ t.copied, StartsName name

/-- The port as it is used in rules. -/
def portText (port : Option String) (target : Option Monitor.PortTarget) : Option String :=
  match port, target with
  | some name, _ => some name
  | none, some (.number n) => some (toString n)
  | none, some (.name s) => some s
  | none, none => none

def serviceTexts (spec : Monitor.ServiceSpec) (e : Monitor.Endpoint Monitor.FileTlsConfig) : RuleTexts where
  port := portText e.port e.targetPort
  selector := spec.selector
  copied := spec.targetLabels ++ spec.podTargetLabels

def podTexts (spec : Monitor.PodSpec) (e : Monitor.Endpoint Monitor.TlsConfig) : RuleTexts where
  port := portText e.port e.targetPort
  selector := spec.selector
  copied := spec.podTargetLabels

/-- A probe has texts in its rules only where it looks for ingresses. -/
def probeTexts (spec : Monitor.ProbeSpec) : RuleTexts :=
  match spec.targets.static.filter (!·.targets.isEmpty), spec.targets.ingress with
  | none, some ingress => { selector := ingress.selector }
  | _, _ => {}

/-- The texts of a monitor's parts, each with the name of the part. -/
def ruleTexts (m : Monitor) : List (String × RuleTexts) :=
  match m.spec with
  | .service spec =>
    spec.endpoints.mapIdx fun i e => (m.jobKey ++ "/" ++ toString i, serviceTexts spec e)
  | .pod spec => spec.endpoints.mapIdx fun i e => (m.jobKey ++ "/" ++ toString i, podTexts spec e)
  | .probe spec => [(m.jobKey, probeTexts spec)]
  | .scrape _ => [(m.jobKey, {})]

open Relabel (Rule isLabelName isLabelTemplate isNameStart TemplateState)
open Relabel.Rule (keep_passes_iff drop_passes_iff passes_replace_iff passes_of_template passes_hashMod)

/-! ## Rules of each kind -/

/-- The labels that rules write whatever the monitor says. -/
theorem isLabelTemplate_fixed : ∀ target ∈ ["__address__", "__param_target", "container", "endpoint",
    "ingress", "instance", "job", "namespace", "node", "pod", "service"],
    isLabelTemplate target = true := by
  decide

/-- The patterns that rules have whatever the monitor says. -/
theorem isUsable_fixed : ∀ pattern ∈ ["true", "(.+)", "Node;(.*)", "Pod;(.*)", "(.+);(.+);(.+)",
    ScrapeJob.shardPlaceholder], isUsable pattern = true := by
  decide +kernel

theorem valuesFit_iff (values : List String) :
    ValuesFit values ↔ isUsable (choicePattern values ";true") = true :=
  (Regex.isUsable_choice_iff values ";true").symm

theorem labelRule_passes_iff (stem : String) (label : String × String) :
    (labelRule stem label).Passes ↔ ValuesFit [label.2] := by
  have hpattern : "(" ++ literalPattern label.2 ++ ");true" = choicePattern [label.2] ";true" := by
    rw [← String.toList_inj]
    simp [choicePattern, literalPattern, patternMarks]
  rw [labelRule, keep_passes_iff, hpattern, valuesFit_iff]

/-- The rule for a requirement passes, unless it has values that do not fit. -/
theorem requirementRule?_passes_iff (stem : String) (r : Requirement) :
    (∀ rule, requirementRule? stem r = some rule → rule.Passes) ↔
      (r.IsAboutValues → ValuesFit r.valueList) := by
  have hpattern : "(" ++ "|".intercalate (r.valueList.map literalPattern) ++ ");true" =
      choicePattern r.valueList ";true" := by
    rw [← String.toList_inj]
    simp [choicePattern, literalPattern, patternMarks]
  have htrue : isUsable "true" = true := isUsable_fixed _ (by simp)
  unfold requirementRule?
  rw [hpattern, Requirement.IsAboutValues, valuesFit_iff]
  split
  · rename_i h
    simp [h, keep_passes_iff]
  · rename_i h
    simp [h, drop_passes_iff]
  · rename_i h
    simp [h, keep_passes_iff, htrue]
  · rename_i h
    simp [h, drop_passes_iff, htrue]
  · rename_i hin hnotIn _ _
    refine iff_of_true (fun _ h => ?_) fun h => (h.elim hin hnotIn).elim
    cases h

/-- The rules of a selector pass exactly if its values fit. -/
theorem selectorRules_pass_iff (stem : String) (s : Selector) :
    (∀ rule ∈ selectorRules stem s, rule.Passes) ↔ s.Fits := by
  rw [selectorRules, List.forall_mem_append]
  constructor
  · rintro ⟨hlabels, hrequirements⟩
    constructor
    · exact fun label hlabel =>
        (labelRule_passes_iff stem label).1 (hlabels _ (List.mem_map_of_mem hlabel))
    · exact fun r hr => (requirementRule?_passes_iff stem r).1 fun rule hrule =>
        hrequirements rule (List.mem_filterMap.2 ⟨r, hr, hrule⟩)
  · rintro ⟨hlabels, hrequirements⟩
    constructor
    · intro rule hrule
      obtain ⟨label, hlabel, rfl⟩ := List.mem_map.1 hrule
      exact (labelRule_passes_iff stem label).2 (hlabels label hlabel)
    · intro rule hrule
      obtain ⟨r, hr, hrule⟩ := List.mem_filterMap.1 hrule
      exact (requirementRule?_passes_iff stem r).2 (hrequirements r hr) rule hrule

theorem isNameStart_of_digit {c : Char} (h : c.isDigit = true) : isNameStart c = false := by
  have hcode : 48 ≤ c.toNat ∧ c.toNat ≤ 57 := by simpa [Char.isDigit, UInt32.le_iff_toNat_le] using h
  have hall : ∀ n < 58, 48 ≤ n → isNameStart (Char.ofNat n) = false := by decide
  rw [← Char.ofNat_toNat c]
  exact hall c.toNat (by omega) hcode.1

/-- A character that is replaced where it does not belong starts a name unless it is a digit. -/
theorem isNameStart_replaced (c : Char) :
    isNameStart (if Text.isAsciiWord c then c else '_') = !c.isDigit := by
  cases hdigit : c.isDigit with
  | true =>
    have hword : Text.isAsciiWord c = true := by simp [Text.isAsciiWord, Char.isAlphanum, hdigit]
    rw [if_pos hword, isNameStart_of_digit hdigit]
    rfl
  | false =>
    split
    · rename_i h
      simpa [Text.isAsciiWord, Char.isAlphanum, hdigit, isNameStart] using h
    · rfl

/-- A name becomes that of a label exactly if it starts one. -/
theorem isLabelTemplate_labelName_iff (name : String) :
    isLabelTemplate (labelName name) = true ↔ StartsName name := by
  have hword (c : Char) : Text.isAsciiWord (if Text.isAsciiWord c then c else '_') = true := by
    split
    · assumption
    · rfl
  have hbody (cs : List Char) :
      (cs.map fun c => if Text.isAsciiWord c then c else '_').foldlM TemplateState.next? .body =
        some .body := by
    induction cs with
    | nil => rfl
    | cons c cs ih =>
      rw [List.map_cons, List.foldlM_cons]
      simp [TemplateState.next?, Text.isWord, hword, ih]
  -- behind its first character a name has only word characters, with which a template goes on
  rw [isLabelTemplate, labelName, String.toList_ofList, StartsName]
  cases name.toList with
  | nil => simp
  | cons c cs =>
    have hdollar : (if Text.isAsciiWord c then c else '_') ≠ '$' := by
      intro h
      have hdollar := hword c
      rw [h] at hdollar
      revert hdollar
      decide
    rw [List.map_cons, List.foldlM_cons, TemplateState.next?, isNameStart_replaced]
    cases hdigit : c.isDigit
    · simp [hbody, hdigit]
    · simp [hdollar, hdigit]

theorem replace_passes {sources : List String} {target : String} (h : isLabelTemplate target = true) :
    (Rule.replace sources target).Passes :=
  passes_of_template rfl rfl h

theorem setLabel_passes {target : String} (value : String) (h : isLabelTemplate target = true) :
    (setLabel target value).Passes :=
  passes_of_template rfl rfl h

theorem copyFilled_passes_iff (source target : String) :
    (copyFilled source target).Passes ↔ isLabelTemplate target = true := by
  have hregex : isUsable "(.+)" = true := isUsable_fixed _ (by simp)
  rw [passes_replace_iff rfl]
  simp [copyFilled, Rule.target, Rule.replace, hregex]

/-- Labels are copied by rules that pass exactly if each of them starts a name. -/
theorem copyLabels_pass_iff (stem : String) (names : List String) :
    (∀ rule ∈ copyLabels stem names, rule.Passes) ↔ ∀ name ∈ names, StartsName name := by
  simp [copyLabels, copyFilled_passes_iff, isLabelTemplate_labelName_iff]

theorem jobLabelRule_passes (stem : String) (jobLabel : Option String) :
    ∀ rule ∈ jobLabelRule stem jobLabel, rule.Passes := by
  have hjob : isLabelTemplate "job" = true := isLabelTemplate_fixed _ (by simp)
  unfold jobLabelRule
  split
  · split
    · simp
    · simp [copyFilled_passes_iff, hjob]
  · simp

theorem namedJob_passes (name : Option String) : ∀ rule ∈ namedJob name, rule.Passes := by
  unfold namedJob
  cases filled name with
  | none => simp
  | some n => simpa using setLabel_passes n (isLabelTemplate_fixed "job" (by simp))

/-- The rules for shards pass, whatever the number of shards. -/
theorem shardRules_pass (shards : Nat) : ∀ rule ∈ shardRules shards, rule.Passes := by
  unfold shardRules
  split
  · simp
  · rename_i hmany
    have hmodulus : (shards != 0) = true := by
      simp only [bne_iff_ne, ne_eq]
      omega
    have hlabel : isLabelName shardLabel = true := by decide
    refine List.forall_mem_cons.2 ⟨passes_hashMod rfl rfl hmodulus hlabel, ?_⟩
    exact List.forall_mem_singleton.2 (keep_passes_iff.2 (isUsable_fixed _ (by simp)))

/-- A port that is given by a number of 32 bits can be used as a pattern. -/
theorem isUsable_number {n : Int} (h : n.natAbs < 10 ^ 10) : isUsable (toString n) = true := by
  obtain ⟨sign, hwritten, hsign⟩ := Text.exists_sign_natAbs n
  have hchar : ∀ c ∈ (toString n).toList, patternMarks.contains c = false ∧ c.utf8Size = 1 := by
    intro c hc
    rw [hwritten, List.mem_append] at hc
    rcases hc with hc | hc
    · rcases hsign with rfl | rfl
      · cases hc
      · obtain rfl := List.mem_singleton.1 hc
        decide
    · have hdigits : ∀ d < 10, patternMarks.contains d.digitChar = false ∧ d.digitChar.utf8Size = 1 := by
        decide
      obtain ⟨d, hd, rfl⟩ := Text.exists_digit_of_mem_toDigits (by omega) _ hc
      exact hdigits d hd
  have hlength : (toString n).toList.length ≤ 11 := by
    have hdigits := (Nat.length_toDigits_le_iff (by omega : 1 < 10) (by omega : 0 < 10)).2 h
    rw [hwritten, List.length_append]
    rcases hsign with rfl | rfl <;> simp only [List.length_nil, List.length_singleton] <;> omega
  have hbytes : charBytes (toString n).toList = (toString n).toList.length := by
    rw [charBytes, List.map_congr_left fun c hc => (hchar c hc).2]
    simp
  rw [← Regex.literalPattern_of_plain fun c hc => (hchar c hc).1, Regex.isUsable_literal_iff, Regex.textBytes,
    hbytes]
  simp only [stateBytes, byteLimit]
  omega

/-- The rule for a port passes exactly if the port can be used as a pattern. -/
theorem portRule_passes_iff {portLabel label : String} {port : Option String}
    {target : Option Monitor.PortTarget} {rule : Rule}
    (h : portRule portLabel port target = .ok (rule, label)) :
    rule.Passes ↔ ∀ text ∈ portText port target, isUsable text = true := by
  unfold portRule at h
  split at h
  all_goals cases h
  all_goals simp [portText, keep_passes_iff]

/-! ## Rules of each part -/

theorem forall_pass_append_iff {rules others : List Rule} (h : ∀ rule ∈ others, rule.Passes) :
    (∀ rule ∈ rules ++ others, rule.Passes) ↔ ∀ rule ∈ rules, rule.Passes := by
  rw [List.forall_mem_append]
  exact and_iff_left h

theorem ownerRule_passes (stem : String) {kind label : String}
    (hregex : isUsable (kind ++ ";(.*)") = true) (hlabel : isLabelTemplate label = true) :
    (ownerRule stem kind label).Passes := by
  refine (passes_replace_iff rfl).2 ⟨fun text htext => ?_, hlabel⟩
  obtain rfl := Option.some.inj htext
  exact hregex

theorem serviceRules_pass_iff {portLabel stem label : String} {spec : Monitor.ServiceSpec}
    {e : Monitor.Endpoint Monitor.FileTlsConfig} {port : Rule}
    (hport : portRule portLabel e.port e.targetPort = .ok (port, label)) :
    (∀ rule ∈ serviceRules stem spec port label, rule.Passes) ↔ (serviceTexts spec e).Loadable := by
  have hfixed : ∀ rule ∈ [ownerRule stem "Node" "node", ownerRule stem "Pod" "pod",
      .replace ["__meta_kubernetes_namespace"] "namespace",
      .replace ["__meta_kubernetes_service_name"] "service",
      .replace ["__meta_kubernetes_pod_name"] "pod",
      .replace ["__meta_kubernetes_pod_container_name"] "container"], rule.Passes := by
    simp [ownerRule_passes, replace_passes, isLabelTemplate_fixed, isUsable_fixed]
  have hjob : ∀ rule ∈ [Rule.replace ["__meta_kubernetes_service_name"] "job"], rule.Passes := by
    simp [replace_passes, isLabelTemplate_fixed]
  have hendpoint : ∀ rule ∈ [setLabel "endpoint" label], rule.Passes := by
    simp [setLabel_passes, isLabelTemplate_fixed]
  rw [serviceRules, forall_pass_append_iff hendpoint, forall_pass_append_iff (jobLabelRule_passes _ _),
    forall_pass_append_iff hjob, List.forall_mem_append, List.forall_mem_append, List.forall_mem_append,
    copyLabels_pass_iff, copyLabels_pass_iff, selectorRules_pass_iff, List.forall_mem_cons,
    and_iff_left hfixed, portRule_passes_iff hport]
  -- what is left are the selector, the port and the two lists of labels
  constructor
  · rintro ⟨⟨⟨hselector, hport⟩, htargets⟩, hpods⟩
    exact ⟨hport, hselector, List.forall_mem_append.2 ⟨htargets, hpods⟩⟩
  · rintro ⟨hport, hselector, hcopied⟩
    obtain ⟨htargets, hpods⟩ := List.forall_mem_append.1 hcopied
    exact ⟨⟨⟨hselector, hport⟩, htargets⟩, hpods⟩

theorem podRules_pass_iff {portLabel owner label : String} {spec : Monitor.PodSpec}
    {e : Monitor.Endpoint Monitor.TlsConfig} {port : Rule}
    (hport : portRule portLabel e.port e.targetPort = .ok (port, label)) :
    (∀ rule ∈ podRules owner spec port label, rule.Passes) ↔ (podTexts spec e).Loadable := by
  have hfixed : ∀ rule ∈ [Rule.replace ["__meta_kubernetes_namespace"] "namespace",
      .replace ["__meta_kubernetes_pod_container_name"] "container",
      .replace ["__meta_kubernetes_pod_name"] "pod"], rule.Passes := by
    simp [replace_passes, isLabelTemplate_fixed]
  have hjob : ∀ rule ∈ [setLabel "job" owner], rule.Passes := by
    simp [setLabel_passes, isLabelTemplate_fixed]
  have hendpoint : ∀ rule ∈ [setLabel "endpoint" label], rule.Passes := by
    simp [setLabel_passes, isLabelTemplate_fixed]
  rw [podRules, forall_pass_append_iff hendpoint, forall_pass_append_iff (jobLabelRule_passes _ _),
    forall_pass_append_iff hjob, List.forall_mem_append, List.forall_mem_append, copyLabels_pass_iff,
    selectorRules_pass_iff, List.forall_mem_cons, and_iff_left hfixed, portRule_passes_iff hport]
  constructor
  · rintro ⟨⟨hselector, hport⟩, hcopied⟩
    exact ⟨hport, hselector, hcopied⟩
  · rintro ⟨hport, hselector, hcopied⟩
    exact ⟨⟨hselector, hport⟩, hcopied⟩

theorem proberRules_pass (prober : Monitor.Prober) : ∀ rule ∈ proberRules prober, rule.Passes := by
  simp [proberRules, replace_passes, setLabel_passes, isLabelTemplate_fixed]

theorem ingressRules_pass : ∀ rule ∈ ingressRules, rule.Passes := by
  have htarget : (∀ text, some "(.+);(.+);(.+)" = some text → isUsable text = true) ∧
      isLabelTemplate "__param_target" = true := by
    simp [isLabelTemplate_fixed, isUsable_fixed]
  refine List.forall_mem_cons.2 ⟨(passes_replace_iff rfl).2 htarget, ?_⟩
  simp [replace_passes, isLabelTemplate_fixed]

/-- Texts with nothing in them are loadable. -/
theorem loadable_empty : RuleTexts.Loadable {} where
  port := by simp
  selector := ⟨by simp [Selector.labelList, Dict.toList, Dict.empty], by simp [Selector.requirementList]⟩
  copied := by simp

theorem probeRules_pass_iff {spec : Monitor.ProbeSpec} {prober : Monitor.Prober} :
    (∀ rule ∈ probeRules spec prober, rule.Passes) ↔ (probeTexts spec).Loadable := by
  have hparam : (Rule.replace ["__address__"] "__param_target").Passes :=
    replace_passes (isLabelTemplate_fixed _ (by simp))
  rw [probeRules, forall_pass_append_iff (proberRules_pass prober), List.forall_mem_append,
    and_iff_right (namedJob_passes spec.jobName)]
  unfold probeTexts
  cases spec.targets.static.filter (!·.targets.isEmpty) with
  | some targets => exact iff_of_true (List.forall_mem_singleton.2 hparam) loadable_empty
  | none =>
    cases spec.targets.ingress with
    | none => exact iff_of_true (by simp) loadable_empty
    | some ingress =>
      refine (forall_pass_append_iff ingressRules_pass).trans ((selectorRules_pass_iff _ _).trans ?_)
      exact ⟨fun h => ⟨by simp, h, by simp⟩, fun h => h.selector⟩

/-! ## Jobs -/

/-- The rules that a monitor brings make no difference. -/
theorem Carries.pass_iff {job : ScrapeJob} {name : String} {given : List Rule}
    {own metric : List Monitor.RelabelRule} (h : Carries job name given own metric) :
    (∀ rule ∈ job.relabel ++ job.metricRelabel, rule.Passes) ↔ ∀ rule ∈ given, rule.Passes := by
  obtain ⟨rules, hrules, hrelabel⟩ := h.relabel
  rw [forall_pass_append_iff (Monitor.RelabelRule.passes_of_toRules h.metricRelabel), hrelabel,
    forall_pass_append_iff (Monitor.RelabelRule.passes_of_toRules hrules)]

/-- Neither do the rules for shards. -/
theorem Completes.pass_iff {settings : Settings} {base job : ScrapeJob} (h : Completes settings base job) :
    (∀ rule ∈ job.relabel ++ job.metricRelabel, rule.Passes) ↔
      ∀ rule ∈ base.relabel ++ base.metricRelabel, rule.Passes := by
  rw [h.relabel, h.metricRelabel, List.forall_mem_append,
    forall_pass_append_iff (shardRules_pass settings.shards), List.forall_mem_append]

/-- What a part says of its job passes exactly if its texts are loadable. -/
theorem Base.pass_iff {settings : Settings} {m : Monitor} {name : String} {base : ScrapeJob}
    (h : Base settings m name base) :
    ∃ texts, (name, texts) ∈ ruleTexts m ∧
      ((∀ rule ∈ base.relabel ++ base.metricRelabel, rule.Passes) ↔ texts.Loadable) := by
  unfold ruleTexts
  cases h with
  | @service spec hspec i e he _ hjob =>
    obtain ⟨port, label, hport, hcarries⟩ := carries_of_serviceJob hjob
    refine ⟨serviceTexts spec e, ?_, hcarries.pass_iff.trans (serviceRules_pass_iff hport)⟩
    obtain ⟨hi, rfl⟩ := List.getElem?_eq_some_iff.1 he
    rw [hspec]
    exact List.mem_mapIdx.2 ⟨i, hi, rfl⟩
  | @pod spec hspec i e he _ hjob =>
    obtain ⟨port, label, hport, hcarries⟩ := carries_of_podJob hjob
    refine ⟨podTexts spec e, ?_, hcarries.pass_iff.trans (podRules_pass_iff hport)⟩
    obtain ⟨hi, rfl⟩ := List.getElem?_eq_some_iff.1 he
    rw [hspec]
    exact List.mem_mapIdx.2 ⟨i, hi, rfl⟩
  | @probe spec hspec _ _ hjob =>
    refine ⟨probeTexts spec, ?_, (carries_of_probeJob hjob).pass_iff.trans probeRules_pass_iff⟩
    rw [hspec]
    exact List.mem_singleton_self _
  | @scrape spec hspec _ hjob =>
    refine ⟨{}, ?_, ?_⟩
    · rw [hspec]
      exact List.mem_singleton_self _
    · exact (carries_of_scrapeJob hjob).pass_iff.trans
        (iff_of_true (namedJob_passes spec.jobName) loadable_empty)

section Ports

/-- A pod monitor for pods with a port of some name. -/
def podMonitor (port : String) : Monitor where
  metadata := { name := some "web", namespaceName := some "shop" }
  spec := .pod { podTargetLabels := ["app.kubernetes.io/name"], endpoints := [{ port := some port }] }

/-- No secret is found. -/
def noSecrets (ns : String) (ref : Monitor.SecretKey) : Credential.Answer :=
  .error (.secretNotFound ns ref.name)

end Ports

end Generate

end ScrapeFleet
