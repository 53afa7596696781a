/-
# ScrapeFleet.Proofs.Generate.Verbatim — texts of a monitor that rules take as they are

Some texts of a monitor get into rules without any change: the name of a port, which is the pattern of a rule
that keeps targets, and values for labels, which are replacements (`verbatimTexts`). The program that applies
the rules reads both as little languages. So a port keeps what its name accepts as a pattern, which is the name
alone if it has no marks of patterns in it, and a label gets the value without its references, which is the
value if it has none (`verbatim_texts`). A name with a bar keeps other ports than the one of that name, and a
value may lose what stands behind a dollar (`verbatim_texts_misread`). Values of selectors are different: marks in
them are escaped.
-/
import ScrapeFleet.Proofs.Collect.Partition
import ScrapeFleet.Proofs.Relabel.Expansion

namespace ScrapeFleet

open Collect (Relabeler)
open Regex (Tables Accepts)
open Relabel (NameChars Rule TargetLabels isLabelName)

/-! ## Filling in replacements -/

namespace Relabel

/-- The groups of the default pattern: the whole text is the whole match, and the first group too. -/
def wholeGroups (s : String) (name : List Char) : List Char :=
  if name = ['0'] ∨ name = ['1'] then s.toList else []

namespace NameChars

variable (N : NameChars)

/-- A text as it is filled in where the default pattern matched another. -/
def fill (subject s : String) : String := String.ofList (N.expand (wholeGroups subject) s.toList)

/-- A text without its references. -/
def withoutReferences (s : String) : String := String.ofList (N.expand (fun _ => []) s.toList)

variable {N}

/-- Where nothing was matched, nothing is filled in. -/
theorem fill_empty (s : String) : N.fill "" s = N.withoutReferences s := by
  have hgroups : wholeGroups "" = fun _ => [] := by
    funext name
    exact ite_self []
  rw [fill, hgroups]
  rfl

theorem withoutReferences_eq_self_iff {s : String} :
    N.withoutReferences s = s ↔ ¬ N.HasReference s.toList := by
  rw [withoutReferences, ← String.toList_inj, String.toList_ofList, expand_none_eq_self_iff]

theorem withoutReferences_of_no_dollar {s : String} (h : '$' ∉ s.toList) : N.withoutReferences s = s :=
  withoutReferences_eq_self_iff.2 (not_hasReference_of_no_dollar h)

end NameChars

/-- A program that applies relabel rules, of which it is also known how it replaces: where the default pattern
accepts the joined labels, the references of the target and of the replacement are filled in, and what the
target comes to is written if it can be the name of a label. -/
structure Replacer (T : Tables) extends Relabeler T where
  names : NameChars
  replace : ∀ (r : Rule) (t : TargetLabels), r.action = .replace → r.regex = none → r.Matches T t →
    isLabelName (names.fill (r.subject t) r.target) = true →
    step r t = some (Function.update t (names.fill (r.subject t) r.target)
      (names.fill (r.subject t) (r.replacement.getD Rule.defaultReplacement)))

end Relabel

namespace Generate

open Relabel (Replacer)

variable {T : Tables} (P : Replacer T)

/-- The default pattern accepts the empty text. -/
theorem accepts_default_empty : Accepts T Rule.defaultRegex "" := by
  have hparse : Regex.parse (Regex.anchored Rule.defaultRegex.toList) =
      some (Regex.Pattern.bracketed (.group true (.rep (.dot false) 0 none))) := by
    with_unfolding_all rfl
  exact ⟨_, hparse, Regex.Pattern.finds_bracketed.2 (.group .repNone)⟩

/-- The labels that are given fixed values. -/
def fixedLabels : List String := ["__address__", "endpoint", "job"]

theorem fixedLabels_plain : ∀ target ∈ fixedLabels, '$' ∉ target.toList ∧ isLabelName target = true := by
  decide

/-- A label that is given a fixed value gets the value without its references. -/
theorem step_setLabel {target : String} (h : target ∈ fixedLabels) (value : String)
    (t : TargetLabels) :
    P.step (setLabel target value) t = some (Function.update t target (P.names.withoutReferences value)) := by
  obtain ⟨hdollar, hname⟩ := fixedLabels_plain target h
  -- no labels are joined, so there is nothing to refer to
  have hsubject : (setLabel target value).subject t = "" := rfl
  have htarget : P.names.fill "" (setLabel target value).target = target :=
    (NameChars.fill_empty target).trans (NameChars.withoutReferences_of_no_dollar hdollar)
  have hstep := P.replace (setLabel target value) t rfl rfl accepts_default_empty
  rw [hsubject, htarget, NameChars.fill_empty] at hstep
  exact hstep hname

/-- So it gets the value itself exactly if there are none. -/
theorem step_setLabel_iff {target : String} (h : target ∈ fixedLabels) (value : String)
    (t : TargetLabels) :
    P.step (setLabel target value) t = some (Function.update t target value) ↔
      ¬ P.names.HasReference value.toList := by
  rw [step_setLabel P h, ← NameChars.withoutReferences_eq_self_iff, Option.some.injEq]
  refine ⟨fun heq => ?_, fun heq => by rw [heq]⟩
  simpa using congrFun heq target

/-- A port keeps what its name accepts as a pattern. -/
theorem step_keep_iff (label pattern : String) (t : TargetLabels) :
    (P.step (.keep [label] pattern) t).isSome = true ↔ Accepts T pattern (t label) :=
  P.isSome_keep_iff rfl t

/-! ## The texts -/

/-- The texts of a part of a monitor that are in its rules as they are. -/
structure VerbatimTexts where
  /-- The name of the port, behind the label that shows the names of ports. -/
  port : Option (String × String) := none
  /-- Values, each behind the label that gets it. -/
  fixed : List (String × String) := []

/-- The name of a port, if a port is given by name, behind the label that shows it. -/
def namedPort (portLabel : String) (port : Option String) (target : Option Monitor.PortTarget) :
    Option (String × String) :=
  match port, target with
  | some name, _ => some (portLabel, name)
  | none, some (.name s) => some ("__meta_kubernetes_pod_container_port_name", s)
  | none, _ => none

/-- The job label that a monitor names. -/
def namedJobTexts (name : Option String) : List (String × String) := ((filled name).map ("job", ·)).toList

/-- The endpoint label of a port. -/
def endpointTexts (port : Option String) (target : Option Monitor.PortTarget) : List (String × String) :=
  ((portText port target).map ("endpoint", ·)).toList

/-- The texts of a monitor's parts, each with the name of the part. -/
def verbatimTexts (settings : Settings) (m : Monitor) : List (String × VerbatimTexts) :=
  match m.spec with
  | .service spec => spec.endpoints.mapIdx fun i e => (m.jobKey ++ "/" ++ toString i,
      { port := namedPort (settings.role.metaPrefix ++ "_port_name") e.port e.targetPort
        fixed := endpointTexts e.port e.targetPort })
  | .pod spec => spec.endpoints.mapIdx fun i e => (m.jobKey ++ "/" ++ toString i,
      { port := namedPort "__meta_kubernetes_pod_container_port_name" e.port e.targetPort
        fixed := ("job", m.namespaceText ++ "/" ++ m.metadata.displayName) ::
          endpointTexts e.port e.targetPort })
  | .probe spec => [(m.jobKey,
      { fixed := namedJobTexts spec.jobName ++ (spec.prober.map ("__address__", ·.url)).toList })]
  | .scrape spec => [(m.jobKey, { fixed := namedJobTexts spec.jobName })]

/-- The rules of a job have the texts in them. -/
structure VerbatimTexts.In (texts : VerbatimTexts) (rules : List Rule) : Prop where
  port : ∀ port ∈ texts.port, Rule.keep [port.1] port.2 ∈ rules
  fixed : ∀ fixed ∈ texts.fixed, fixed.1 ∈ fixedLabels ∧ setLabel fixed.1 fixed.2 ∈ rules

/-! ## Where they stand -/

theorem VerbatimTexts.In.append {texts : VerbatimTexts} {rules : List Rule} (h : texts.In rules)
    (others : List Rule) : texts.In (rules ++ others) where
  port port hport := List.mem_append_left others (h.port port hport)
  fixed fixed hfixed := ⟨(h.fixed fixed hfixed).1, List.mem_append_left others (h.fixed fixed hfixed).2⟩

/-- The rule for a port has its name as a pattern, and what it is called is the endpoint label. -/
theorem texts_of_portRule {portLabel label : String} {port : Option String}
    {target : Option Monitor.PortTarget} {rule : Rule}
    (h : portRule portLabel port target = .ok (rule, label)) :
    portText port target = some label ∧
      ∀ named ∈ namedPort portLabel port target, rule = .keep [named.1] named.2 := by
  unfold portRule at h
  split at h
  all_goals cases h
  all_goals simp [portText, namedPort]

theorem mem_namedJob {name : Option String} {fixed : String × String} (h : fixed ∈ namedJobTexts name) :
    fixed.1 ∈ fixedLabels ∧ setLabel fixed.1 fixed.2 ∈ namedJob name := by
  obtain ⟨value, hvalue, rfl⟩ := Option.map_eq_some_iff.1 (Option.mem_toList.1 h)
  exact ⟨by simp [fixedLabels], Option.mem_toList.2 (Option.map_eq_some_iff.2 ⟨value, hvalue, rfl⟩)⟩

variable {portLabel stem owner label : String} {port : Rule}

theorem in_serviceRules {spec : Monitor.ServiceSpec} {e : Monitor.Endpoint Monitor.FileTlsConfig}
    (h : portRule portLabel e.port e.targetPort = .ok (port, label)) :
    VerbatimTexts.In ⟨namedPort portLabel e.port e.targetPort, endpointTexts e.port e.targetPort⟩
      (serviceRules stem spec port label) := by
  obtain ⟨htext, hnamed⟩ := texts_of_portRule h
  constructor
  · intro named hmem
    rw [← hnamed named hmem]
    simp [serviceRules]
  · intro fixed hmem
    rw [endpointTexts, htext] at hmem
    obtain rfl := List.mem_singleton.1 hmem
    simp [serviceRules, fixedLabels]

theorem in_podRules {spec : Monitor.PodSpec} {e : Monitor.Endpoint Monitor.TlsConfig}
    (h : portRule portLabel e.port e.targetPort = .ok (port, label)) :
    VerbatimTexts.In ⟨namedPort portLabel e.port e.targetPort,
      ("job", owner) :: endpointTexts e.port e.targetPort⟩ (podRules owner spec port label) := by
  obtain ⟨htext, hnamed⟩ := texts_of_portRule h
  constructor
  · intro named hmem
    rw [← hnamed named hmem]
    simp [podRules]
  · intro fixed hmem
    rw [endpointTexts, htext] at hmem
    rcases List.mem_cons.1 hmem with rfl | hmem
    · simp [podRules, fixedLabels]
    · obtain rfl := List.mem_singleton.1 hmem
      simp [podRules, fixedLabels]

theorem in_probeRules (spec : Monitor.ProbeSpec) (prober : Monitor.Prober) :
    VerbatimTexts.In ⟨none, namedJobTexts spec.jobName ++ [("__address__", prober.url)]⟩
      (probeRules spec prober) := by
  refine ⟨by simp, fun fixed hmem => ?_⟩
  rcases List.mem_append.1 hmem with hmem | hmem
  · obtain ⟨hlabel, hrule⟩ := mem_namedJob hmem
    exact ⟨hlabel, List.mem_append_left _ (List.mem_append_left _ hrule)⟩
  · obtain rfl := List.mem_singleton.1 hmem
    simp [probeRules, proberRules, fixedLabels]

/-- The prober of a probe's job is the one that the probe names. -/
theorem prober_of_probeJob {settings : Settings} {ns name : String} {spec : Monitor.ProbeSpec}
    {job : ScrapeJob} {prober : Monitor.Prober} (h : probeJob settings ns name spec = .ok (job, prober)) :
    spec.prober = some prober := by
  unfold probeJob at h
  cases hprober : spec.prober.filter (!·.url.isEmpty) with
  | none => simp [hprober] at h
  | some found =>
    simp only [hprober] at h
    obtain ⟨_, _, h⟩ := bind_eq_ok_iff.1 h
    obtain ⟨_, _, h⟩ := bind_eq_ok_iff.1 h
    -- whatever is probed, the prober that was found is handed on
    have hsame : found = prober := by
      split at h
      · obtain ⟨_, _, h⟩ := bind_eq_ok_iff.1 h
        exact (Prod.mk.inj (Except.ok.inj h)).2
      · obtain ⟨_, _, h⟩ := bind_eq_ok_iff.1 h
        exact (Prod.mk.inj (Except.ok.inj h)).2
      · cases h
    rw [← hsame]
    exact (Option.filter_eq_some_iff.1 hprober).1

/-- What a part says of its job has the texts of the part in its rules. -/
theorem Base.verbatim {settings : Settings} {m : Monitor} {name : String} {base : ScrapeJob}
    (h : Base settings m name base) :
    ∃ texts, (name, texts) ∈ verbatimTexts settings m ∧ texts.In base.relabel := by
  unfold verbatimTexts
  cases h with
  | @service spec hspec i e he _ hjob =>
    obtain ⟨port, label, hport, hcarries⟩ := carries_of_serviceJob hjob
    obtain ⟨rules, _, hrelabel⟩ := hcarries.relabel
    obtain ⟨hi, rfl⟩ := List.getElem?_eq_some_iff.1 he
    rw [hspec, hrelabel]
    exact ⟨_, List.mem_mapIdx.2 ⟨i, hi, rfl⟩, (in_serviceRules hport).append rules⟩
  | @pod spec hspec i e he _ hjob =>
    obtain ⟨port, label, hport, hcarries⟩ := carries_of_podJob hjob
    obtain ⟨rules, _, hrelabel⟩ := hcarries.relabel
    obtain ⟨hi, rfl⟩ := List.getElem?_eq_some_iff.1 he
    rw [hspec, hrelabel]
    exact ⟨_, List.mem_mapIdx.2 ⟨i, hi, rfl⟩, (in_podRules hport).append rules⟩
  | @probe spec hspec _ prober hjob =>
    obtain ⟨rules, _, hrelabel⟩ := (carries_of_probeJob hjob).relabel
    rw [hspec, hrelabel]
    refine ⟨_, List.mem_singleton_self _, ?_⟩
    rw [prober_of_probeJob hjob]
    exact (in_probeRules spec prober).append rules
  | @scrape spec hspec _ hjob =>
    obtain ⟨rules, _, hrelabel⟩ := (carries_of_scrapeJob hjob).relabel
    rw [hspec, hrelabel]
    have hin : VerbatimTexts.In ⟨none, namedJobTexts spec.jobName⟩ (namedJob spec.jobName) :=
      ⟨by simp, fun _ => mem_namedJob⟩
    exact ⟨_, List.mem_singleton_self _, hin.append rules⟩

/-! ## What they do -/

/-- **Ports keep what their names accept, and labels get values without their references.** The name of a port
is the pattern of a rule of the job, so the job keeps the targets whose port's name it accepts, and these are
those with a port of this name if there are no marks of patterns in it. A value for a label is the replacement
of a rule, so the label gets the value without its references, and this is the value itself exactly if it has
none. -/
theorem verbatim_texts {settings : Settings} {m : Monitor} {result : List ScrapeJob × List Warning}
    (h : (jobs settings m).Yields result) :
    ∀ job ∈ result.1, ∃ texts, (job.name, texts) ∈ verbatimTexts settings m ∧
      (∀ port ∈ texts.port, Rule.keep [port.1] port.2 ∈ job.relabel ∧ ∀ t,
        ((P.step (.keep [port.1] port.2) t).isSome = true ↔ Accepts T port.2 (t port.1)) ∧
        ((∀ c ∈ port.2.toList, patternMarks.contains c = false) →
          ((P.step (.keep [port.1] port.2) t).isSome = true ↔ t port.1 = port.2))) ∧
      ∀ fixed ∈ texts.fixed, setLabel fixed.1 fixed.2 ∈ job.relabel ∧ ∀ t,
        P.step (setLabel fixed.1 fixed.2) t =
          some (Function.update t fixed.1 (P.names.withoutReferences fixed.2)) ∧
        (P.step (setLabel fixed.1 fixed.2) t = some (Function.update t fixed.1 fixed.2) ↔
          ¬ P.names.HasReference fixed.2.toList) := by
  intro job hjob
  obtain ⟨base, hbase, hcompletes⟩ := base_of_job h hjob
  obtain ⟨texts, htexts, hin⟩ := hbase.verbatim
  have hrelabel := hin.append (shardRules settings.shards)
  rw [← hcompletes.relabel] at hrelabel
  refine ⟨texts, htexts, fun port hport => ⟨hrelabel.port port hport, fun t => ⟨?_, fun hplain => ?_⟩⟩,
    fun fixed hfixed => ?_⟩
  · exact step_keep_iff P port.1 port.2 t
  · rw [step_keep_iff]
    exact Regex.accepts_plain hplain
  · obtain ⟨htarget, hrule⟩ := hrelabel.fixed fixed hfixed
    exact ⟨hrule, fun t => ⟨step_setLabel P htarget fixed.2 t, step_setLabel_iff P htarget fixed.2 t⟩⟩

/-! ## A port with a bar and a value with a dollar -/

open Classical in
/-- A scraper that knows the groups of the default pattern. -/
noncomputable def replacer (T : Tables) : Replacer T where
  step r t :=
    if r.action = .replace then
      if r.regex = none ∧ r.Matches T t ∧ isLabelName (NameChars.ascii.fill (r.subject t) r.target) = true then
        some (Function.update t (NameChars.ascii.fill (r.subject t) r.target)
          (NameChars.ascii.fill (r.subject t) (r.replacement.getD Rule.defaultReplacement)))
      else some t
    else (Collect.scraper T).step r t
  hash := (Collect.scraper T).hash
  hashMod r t n hr hn hpos := by
    simpa [hr] using (Collect.scraper T).hashMod r t n hr hn hpos
  keep r t hr := by
    simpa [hr] using (Collect.scraper T).keep r t hr
  names := .ascii
  replace r t hr hregex hmatches hname := by
    rw [if_pos hr, if_pos ⟨hregex, hmatches, hname⟩]

/-- A scrape config that names its job. -/
def namedScrape (jobName : String) : Monitor where
  metadata := { name := some "web", namespaceName := some "shop" }
  spec := .scrape { jobName := some jobName }

theorem verbatim_texts_of_plain_names :
    ∃ result, (jobs {} (podMonitor "web")).Yields result ∧
      result.1.map (·.name) = ["podMonitor/shop/web/0"] ∧ ∀ job ∈ result.1,
        Rule.keep ["__meta_kubernetes_pod_container_port_name"] "web" ∈ job.relabel ∧
        setLabel "job" "shop/web" ∈ job.relabel ∧ ∀ t,
          (((replacer Tables.plain).step (.keep ["__meta_kubernetes_pod_container_port_name"] "web") t).isSome =
            true ↔ t "__meta_kubernetes_pod_container_port_name" = "web") ∧
          (replacer Tables.plain).step (setLabel "job" "shop/web") t =
            some (Function.update t "job" "shop/web") := by
  have hyields := Credential.Lookup.yields_answered noSecrets (jobs {} (podMonitor "web"))
  refine ⟨_, hyields, by decide +kernel, fun job hjob => ?_⟩
  obtain ⟨texts, htexts, hports, hfixed⟩ := verbatim_texts (replacer Tables.plain) hyields job hjob
  obtain ⟨_, rfl⟩ := Prod.mk.inj (List.mem_singleton.1 htexts)
  obtain ⟨hkeep, hkeeps⟩ := hports ("__meta_kubernetes_pod_container_port_name", "web") rfl
  obtain ⟨hset, hsets⟩ := hfixed ("job", "shop/web") List.mem_cons_self
  have hplain : ∀ c ∈ "web".toList, patternMarks.contains c = false := by simp [patternMarks]
  have hvalue : ¬ NameChars.ascii.HasReference "shop/web".toList :=
    NameChars.not_hasReference_of_no_dollar (by decide)
  exact ⟨hkeep, hset, fun t => ⟨(hkeeps t).2 hplain, (hsets t).2.2 hvalue⟩⟩

/-- A port with a bar in its name keeps the ports on both sides of the bar, and not the one of that name. A job
label with a dollar in it loses the dollar and the digit behind it. -/
theorem verbatim_texts_misread :
    (∃ result, (jobs {} (podMonitor "web|api")).Yields result ∧ ∃ job ∈ result.1,
      Rule.keep ["__meta_kubernetes_pod_container_port_name"] "web|api" ∈ job.relabel ∧ ∀ t,
        ((replacer Tables.plain).step (.keep ["__meta_kubernetes_pod_container_port_name"] "web|api") t).isSome =
          true ↔ t "__meta_kubernetes_pod_container_port_name" ∈ ["web", "api"]) ∧
    ∃ result, (jobs {} (namedScrape "cost-$5")).Yields result ∧ ∃ job ∈ result.1,
      setLabel "job" "cost-$5" ∈ job.relabel ∧ ∀ t,
        (replacer Tables.plain).step (setLabel "job" "cost-$5") t =
          some (Function.update t "job" "cost-") := by
  have hports : ∃ job ∈ ((jobs {} (podMonitor "web|api")).answered noSecrets).1,
      Rule.keep ["__meta_kubernetes_pod_container_port_name"] "web|api" ∈ job.relabel := by
    decide +kernel
  have hlabels : ∃ job ∈ ((jobs {} (namedScrape "cost-$5")).answered noSecrets).1,
      setLabel "job" "cost-$5" ∈ job.relabel := by
    decide +kernel
  have hchoice : "web|api" = "|".intercalate (["web", "api"].map literalPattern) := by decide
  have hwithout : (replacer Tables.plain).names.withoutReferences "cost-$5" = "cost-" := by
    show NameChars.ascii.withoutReferences "cost-$5" = "cost-"
    decide +kernel
  constructor
  · obtain ⟨job, hjob, hrule⟩ := hports
    refine ⟨_, Credential.Lookup.yields_answered noSecrets _, job, hjob, hrule, fun t => ?_⟩
    rw [step_keep_iff, hchoice, Regex.accepts_alternatives (by simp)]
  · obtain ⟨job, hjob, hrule⟩ := hlabels
    refine ⟨_, Credential.Lookup.yields_answered noSecrets _, job, hjob, hrule, fun t => ?_⟩
    rw [step_setLabel _ (by simp [fixedLabels]), hwithout]

end Generate

end ScrapeFleet
