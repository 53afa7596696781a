/-
# ScrapeFleet.Proofs.Generate.Parts — where the jobs of a monitor come from

A job is made in two steps. What a part of a monitor says decides everything but the credentials
(`Base`): the name, the rules that every such part is given, and behind them the rules that the monitor
brings (`Carries`). Then credentials are asked for, and the rules for shards are put behind the others
(`Completes`). Whatever the answers are, every job of a monitor comes from one of its parts in this way and
has the name of that part (`base_of_job`), and the jobs keep the order of the parts
(`names_sublist_of_jobs`).
-/
import ScrapeFleet.Generate.Basic
import ScrapeFleet.Proofs.Credential.Yields
import ScrapeFleet.Proofs.Relabel.Passing

namespace ScrapeFleet.Generate

open Credential (Lookup)
open Credential.Lookup (yields_bind yields_pure)
open Monitor (RelabelRule)
open Relabel (Rule)

/-! ## What a part says -/

/-- A job has this name, the given rules and behind them the rules that its monitor brings. -/
structure Carries (job : ScrapeJob) (name : String) (given : List Rule) (own metric : List RelabelRule) :
    Prop where
  name : job.name = name
  relabel : ∃ rules, RelabelRule.toRules own = .ok rules ∧ job.relabel = given ++ rules
  metricRelabel : RelabelRule.toRules metric = .ok job.metricRelabel

theorem mapError_eq_ok_iff {ε ε' α : Type} {f : ε → ε'} {x : Except ε α} {a : α} :
    x.mapError f = .ok a ↔ x = .ok a := by
  cases x <;> constructor <;> intro h <;> cases h <;> rfl

section Said

variable {settings : Settings} {ns owner name : String} {base job : ScrapeJob}

theorem carries_of_applyScrape {s : Monitor.ScrapeSettings} (h : applyScrape settings base s = .ok job) :
    Carries job base.name base.relabel s.relabelings s.metricRelabelings := by
  obtain ⟨⟨interval, timeout⟩, _, h⟩ := bind_eq_ok_iff.1 h
  obtain ⟨rules, hrules, h⟩ := bind_eq_ok_iff.1 h
  obtain ⟨metric, hmetric, h⟩ := bind_eq_ok_iff.1 h
  obtain rfl := Except.ok.inj h
  exact ⟨rfl, ⟨rules, mapError_eq_ok_iff.1 hrules, rfl⟩, mapError_eq_ok_iff.1 hmetric⟩

theorem carries_of_serviceJob {spec : Monitor.ServiceSpec} {e : Monitor.Endpoint Monitor.FileTlsConfig}
    (h : serviceJob settings ns name spec e = .ok job) :
    ∃ port label,
      portRule (settings.role.metaPrefix ++ "_port_name") e.port e.targetPort = .ok (port, label) ∧
      Carries job name (serviceRules settings.role.metaPrefix spec port label) e.scrape.relabelings
        e.scrape.metricRelabelings := by
  obtain ⟨⟨port, label⟩, hport, h⟩ := bind_eq_ok_iff.1 h
  exact ⟨port, label, hport, carries_of_applyScrape h⟩

theorem carries_of_podJob {spec : Monitor.PodSpec} {e : Monitor.Endpoint Monitor.TlsConfig}
    (h : podJob settings ns owner name spec e = .ok job) :
    ∃ port label,
      portRule "__meta_kubernetes_pod_container_port_name" e.port e.targetPort = .ok (port, label) ∧
      Carries job name (podRules (ns ++ "/" ++ owner) spec port label) e.scrape.relabelings
        e.scrape.metricRelabelings := by
  obtain ⟨⟨port, label⟩, hport, h⟩ := bind_eq_ok_iff.1 h
  exact ⟨port, label, hport, carries_of_applyScrape h⟩

/-- The rules that a probe is given. -/
def probeRules (spec : Monitor.ProbeSpec) (prober : Monitor.Prober) : List Rule :=
  namedJob spec.jobName
    ++ (match spec.targets.static.filter (!·.targets.isEmpty), spec.targets.ingress with
      | some _, _ => [.replace ["__address__"] "__param_target"]
      | none, some ingress => selectorRules "__meta_kubernetes_ingress" ingress.selector ++ ingressRules
      | none, none => [])
    ++ proberRules prober

/-- The rules that a probe brings. -/
def probeOwn (spec : Monitor.ProbeSpec) : List RelabelRule :=
  match spec.targets.static.filter (!·.targets.isEmpty), spec.targets.ingress with
  | some targets, _ => targets.relabelings
  | none, some ingress => ingress.relabelings
  | none, none => []

theorem carries_of_probeJob {spec : Monitor.ProbeSpec} {prober : Monitor.Prober}
    (h : probeJob settings ns name spec = .ok (job, prober)) :
    Carries job name (probeRules spec prober) (probeOwn spec) spec.metricRelabelings := by
  unfold probeJob at h
  cases hprober : spec.prober.filter (!·.url.isEmpty) with
  | none => simp [hprober] at h
  | some found =>
    simp only [hprober] at h
    obtain ⟨⟨interval, timeout⟩, _, h⟩ := bind_eq_ok_iff.1 h
    obtain ⟨metric, hmetric, h⟩ := bind_eq_ok_iff.1 h
    split at h
    · rename_i targets hstatic
      obtain ⟨made, hmade, h⟩ := bind_eq_ok_iff.1 h
      obtain ⟨rules, hrules, hmade⟩ := bind_eq_ok_iff.1 hmade
      obtain ⟨rfl, rfl⟩ := Prod.mk.inj (Except.ok.inj h)
      obtain rfl := Except.ok.inj hmade
      refine ⟨rfl, ⟨rules, ?_, ?_⟩, mapError_eq_ok_iff.1 hmetric⟩
      · rw [probeOwn, hstatic]
        exact mapError_eq_ok_iff.1 hrules
      · simp [probeRules, hstatic]
    · rename_i ingress hstatic hingress
      obtain ⟨made, hmade, h⟩ := bind_eq_ok_iff.1 h
      obtain ⟨rules, hrules, hmade⟩ := bind_eq_ok_iff.1 hmade
      obtain ⟨rfl, rfl⟩ := Prod.mk.inj (Except.ok.inj h)
      obtain rfl := Except.ok.inj hmade
      refine ⟨rfl, ⟨rules, ?_, ?_⟩, mapError_eq_ok_iff.1 hmetric⟩
      · rw [probeOwn, hstatic, hingress]
        exact mapError_eq_ok_iff.1 hrules
      · simp [probeRules, hstatic, hingress]
    · cases h

theorem carries_of_scrapeJob {spec : Monitor.ScrapeSpec} (h : scrapeJob settings name spec = .ok job) :
    Carries job name (namedJob spec.jobName) spec.relabelings spec.metricRelabelings := by
  obtain ⟨⟨interval, timeout⟩, _, h⟩ := bind_eq_ok_iff.1 h
  obtain ⟨rules, hrules, h⟩ := bind_eq_ok_iff.1 h
  obtain ⟨metric, hmetric, h⟩ := bind_eq_ok_iff.1 h
  obtain rfl := Except.ok.inj h
  exact ⟨rfl, ⟨rules, mapError_eq_ok_iff.1 hrules, rfl⟩, mapError_eq_ok_iff.1 hmetric⟩

end Said

/-! ## From what a part says to its job -/

/-- A job is what a part says, with credentials and the rules for shards. -/
structure Completes (settings : Settings) (base job : ScrapeJob) : Prop where
  name : job.name = base.name
  relabel : job.relabel = base.relabel ++ shardRules settings.shards
  metricRelabel : job.metricRelabel = base.metricRelabel

/-- A monitor has a part of this name, which says so much of its job. -/
inductive Base (settings : Settings) (m : Monitor) : String → ScrapeJob → Prop where
  | service {spec : Monitor.ServiceSpec} (hspec : m.spec = .service spec) {i : Nat}
      {e : Monitor.Endpoint Monitor.FileTlsConfig} (he : spec.endpoints[i]? = some e) {base : ScrapeJob}
      (hjob : serviceJob settings m.namespaceText (m.jobKey ++ "/" ++ toString i) spec e = .ok base) :
      Base settings m (m.jobKey ++ "/" ++ toString i) base
  | pod {spec : Monitor.PodSpec} (hspec : m.spec = .pod spec) {i : Nat}
      {e : Monitor.Endpoint Monitor.TlsConfig} (he : spec.endpoints[i]? = some e) {base : ScrapeJob}
      (hjob : podJob settings m.namespaceText m.metadata.displayName (m.jobKey ++ "/" ++ toString i)
        spec e = .ok base) :
      Base settings m (m.jobKey ++ "/" ++ toString i) base
  | probe {spec : Monitor.ProbeSpec} (hspec : m.spec = .probe spec) {base : ScrapeJob}
      {prober : Monitor.Prober}
      (hjob : probeJob settings m.namespaceText m.jobKey spec = .ok (base, prober)) :
      Base settings m m.jobKey base
  | scrape {spec : Monitor.ScrapeSpec} (hspec : m.spec = .scrape spec) {base : ScrapeJob}
      (hjob : scrapeJob settings m.jobKey spec = .ok base) :
      Base settings m m.jobKey base

section Outcomes

variable {settings : Settings} {ns name : String} {job : ScrapeJob} {warnings : List Warning}

/-- The job of an endpoint has what was decided without credentials. -/
theorem completes_of_endpoint {s : Monitor.ScrapeSettings} {tls : Option Monitor.TlsConfig}
    {adjust : Job.HttpClient → Job.HttpClient} {made : Except JobError ScrapeJob}
    (h : (finishEndpoint settings ns s tls adjust made).Yields (.ok job, warnings)) :
    ∃ base, made = .ok base ∧ Completes settings base job := by
  cases made with
  | error e =>
    have hresult := yields_pure.1 h
    cases hresult
  | ok base =>
    obtain ⟨⟨client, ws⟩, _, hresult⟩ := yields_bind.1 h
    obtain ⟨hjob, _⟩ := Prod.mk.inj (yields_pure.1 hresult)
    obtain rfl := Except.ok.inj hjob
    exact ⟨base, rfl, rfl, rfl, rfl⟩

/-- The job of a probe has what was decided without credentials. -/
theorem completes_of_probe {spec : Monitor.ProbeSpec}
    (h : (probeOutcome settings ns name spec).Yields (.ok job, warnings)) :
    ∃ base prober, probeJob settings ns name spec = .ok (base, prober) ∧ Completes settings base job := by
  unfold probeOutcome at h
  split at h
  · have hresult := yields_pure.1 h
    cases hresult
  · rename_i base prober hmade
    obtain ⟨⟨client, ws⟩, _, hresult⟩ := yields_bind.1 h
    obtain ⟨hjob, _⟩ := Prod.mk.inj (yields_pure.1 hresult)
    obtain rfl := Except.ok.inj hjob
    exact ⟨base, prober, hmade, rfl, rfl, rfl⟩

/-- The job of a scrape config has what was decided without credentials. -/
theorem completes_of_scrape {spec : Monitor.ScrapeSpec}
    (h : (scrapeOutcome settings ns name spec).Yields (.ok job, warnings)) :
    ∃ base, scrapeJob settings name spec = .ok base ∧ Completes settings base job := by
  unfold scrapeOutcome at h
  split at h
  · have hresult := yields_pure.1 h
    cases hresult
  · rename_i base hmade
    obtain ⟨⟨http, ws⟩, _, hrest⟩ := yields_bind.1 h
    cases http with
    | error e =>
      have hresult := yields_pure.1 hrest
      cases hresult
    | ok http =>
      obtain ⟨⟨client, more⟩, _, hresult⟩ := yields_bind.1 hrest
      obtain ⟨hjob, _⟩ := Prod.mk.inj (yields_pure.1 hresult)
      obtain rfl := Except.ok.inj hjob
      exact ⟨base, hmade, rfl, rfl, rfl⟩

end Outcomes

/-! ## The parts of a monitor -/

variable {settings : Settings} {m : Monitor} {name : String} {job : ScrapeJob}

/-- What a part of a monitor comes to as a job was said by the part. -/
theorem base_of_part {part : Lookup Outcome} {warnings : List Warning}
    (hpart : (name, part) ∈ parts settings m) (h : part.Yields (.ok job, warnings)) :
    ∃ base, Base settings m name base ∧ Completes settings base job := by
  unfold parts at hpart
  split at hpart
  · rename_i spec hspec
    obtain ⟨i, hi, heq⟩ := List.mem_mapIdx.1 hpart
    obtain ⟨rfl, rfl⟩ := Prod.mk.inj heq
    obtain ⟨base, hmade, hcompletes⟩ := completes_of_endpoint h
    exact ⟨base, .service hspec (List.getElem?_eq_getElem hi) hmade, hcompletes⟩
  · rename_i spec hspec
    obtain ⟨i, hi, heq⟩ := List.mem_mapIdx.1 hpart
    obtain ⟨rfl, rfl⟩ := Prod.mk.inj heq
    obtain ⟨base, hmade, hcompletes⟩ := completes_of_endpoint h
    exact ⟨base, .pod hspec (List.getElem?_eq_getElem hi) hmade, hcompletes⟩
  · rename_i spec hspec
    obtain ⟨rfl, rfl⟩ := Prod.mk.inj (List.mem_singleton.1 hpart)
    obtain ⟨base, prober, hmade, hcompletes⟩ := completes_of_probe h
    exact ⟨base, .probe hspec hmade, hcompletes⟩
  · rename_i spec hspec
    obtain ⟨rfl, rfl⟩ := Prod.mk.inj (List.mem_singleton.1 hpart)
    obtain ⟨base, hmade, hcompletes⟩ := completes_of_scrape h
    exact ⟨base, .scrape hspec hmade, hcompletes⟩

/-- Jobs are made of some of the parts, in the order of the parts. -/
theorem made_of_runParts {kind : Kind} {ps : List (String × Lookup Outcome)}
    {result : List ScrapeJob × List Warning} (h : (runParts kind ps).Yields result) :
    ∃ made : List ((String × Lookup Outcome) × ScrapeJob), (made.map (·.1)).Sublist ps ∧
      made.map (·.2) = result.1 ∧ ∀ q ∈ made, ∃ warnings, q.1.2.Yields (.ok q.2, warnings) := by
  induction ps generalizing result with
  | nil =>
    obtain rfl := yields_pure.1 h
    exact ⟨[], .slnil, rfl, by simp⟩
  | cons p ps ih =>
    obtain ⟨⟨outcome, warnings⟩, hpart, hrest⟩ := yields_bind.1 h
    obtain ⟨⟨jobs, more⟩, hjobs, hresult⟩ := yields_bind.1 hrest
    obtain ⟨made, hparts, hmade, hall⟩ := ih hjobs
    cases outcome with
    | error e =>
      obtain rfl := yields_pure.1 hresult
      exact ⟨made, hparts.cons p, hmade, hall⟩
    | ok job =>
      obtain rfl := yields_pure.1 hresult
      exact ⟨(p, job) :: made, hparts.cons_cons p, congrArg (job :: ·) hmade,
        List.forall_mem_cons.2 ⟨⟨warnings, hpart⟩, hall⟩⟩

/-- What a part says of its job has the name of the part. -/
theorem Base.name_eq {base : ScrapeJob} (h : Base settings m name base) : base.name = name := by
  cases h with
  | service _ _ hjob =>
    obtain ⟨_, _, _, hcarries⟩ := carries_of_serviceJob hjob
    exact hcarries.name
  | pod _ _ hjob =>
    obtain ⟨_, _, _, hcarries⟩ := carries_of_podJob hjob
    exact hcarries.name
  | probe _ hjob => exact (carries_of_probeJob hjob).name
  | scrape _ hjob => exact (carries_of_scrapeJob hjob).name

variable {result : List ScrapeJob × List Warning}

/-- Every job of a monitor was said by a part that has its name. -/
theorem base_of_job (h : (jobs settings m).Yields result) (hjob : job ∈ result.1) :
    ∃ base, Base settings m job.name base ∧ Completes settings base job := by
  obtain ⟨made, hparts, hmade, hall⟩ := made_of_runParts h
  rw [← hmade] at hjob
  obtain ⟨q, hq, rfl⟩ := List.mem_map.1 hjob
  obtain ⟨warnings, hyields⟩ := hall q hq
  obtain ⟨base, hbase, hcompletes⟩ := base_of_part (hparts.subset (List.mem_map_of_mem hq)) hyields
  rw [hcompletes.name, hbase.name_eq]
  exact ⟨base, hbase, hcompletes⟩

/-- The jobs of a monitor have the names of some of its parts, in the order of the parts. -/
theorem names_sublist_of_jobs (h : (jobs settings m).Yields result) :
    (result.1.map (·.name)).Sublist ((parts settings m).map (·.1)) := by
  obtain ⟨made, hparts, hmade, hall⟩ := made_of_runParts h
  have hname (q : (String × Lookup Outcome) × ScrapeJob) (hq : q ∈ made) : q.2.name = q.1.1 := by
    obtain ⟨warnings, hyields⟩ := hall q hq
    obtain ⟨base, hbase, hcompletes⟩ := base_of_part (hparts.subset (List.mem_map_of_mem hq)) hyields
    rw [hcompletes.name, hbase.name_eq]
  have hnames : result.1.map (·.name) = (made.map (·.1)).map (·.1) := by
    rw [← hmade, List.map_map, List.map_map]
    exact List.map_congr_left hname
  rw [hnames]
  exact hparts.map _

end ScrapeFleet.Generate
