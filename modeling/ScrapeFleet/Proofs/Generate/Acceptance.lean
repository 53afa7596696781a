/-
# ScrapeFleet.Proofs.Generate.Acceptance — which endpoints become jobs, and that each does by itself

An endpoint of a service monitor or a pod monitor becomes a job if it names a port, if its interval and its
timeout are durations and the timeout is not the longer one, and if its rules convert (`Acceptable`). That
is all: credentials come later, and one that is not found costs a field of the client (`Frame.job?_spec`).
The jobs of a monitor are those of its endpoints in their order, where the job of an endpoint depends on its
place and on what the endpoint says, and on nothing that another endpoint says (`Frame.jobs_eq`). The store of
credentials is shared, but it answers alike whoever asked before.

Both kinds of monitor are dealt with at once: a `Frame` is a monitor without its endpoints.
-/
import ScrapeFleet.Proofs.Credential.Undisturbed
import ScrapeFleet.Proofs.Generate.Names

namespace ScrapeFleet

open Cluster (Metadata ObjectKey)
open Credential (Answer Fetched Lookup Store ValueKey)
open Monitor (Endpoint FileTlsConfig PodSpec RelabelRule ScrapeSettings ServiceSpec TlsConfig)

theorem Monitor.RelabelRule.exists_toRules_iff {rs : List RelabelRule} :
    (∃ rules, toRules rs = .ok rules) ↔ ∀ r ∈ rs, ∃ rule, r.toRule = .ok rule := by
  induction rs with
  | nil => exact iff_of_true ⟨[], rfl⟩ (by simp)
  | cons r rs ih =>
    rw [List.forall_mem_cons, ← ih]
    simp only [toRules_cons_iff]
    constructor
    · rintro ⟨_, rule, others, hrule, hothers, _⟩
      exact ⟨⟨rule, hrule⟩, others, hothers⟩
    · rintro ⟨⟨rule, hrule⟩, others, hothers⟩
      exact ⟨_, rule, others, hrule, hothers, rfl⟩

namespace Generate

/-! ## Times -/

/-- A text that may be absent gives a duration: the one that it is, and a given one where it is absent or
empty. -/
def Gives (o : Option String) (otherwise d : Duration) : Prop :=
  (∃ text ∈ o, text ≠ "" ∧ Duration.parse text = .ok d) ∨ (∀ text ∈ o, text = "") ∧ d = otherwise

/-- A job scrapes at some interval and gives up within it. -/
def Timely (job : ScrapeJob) : Prop :=
  ∃ interval timeout, job.scrapeInterval = some interval ∧ job.scrapeTimeout = some timeout ∧
    timeout ≤ interval

section Times

variable {settings : Settings} {o o' : Option String} {d? : Option Duration}

theorem filled_eq_some_iff {text : String} : filled o = some text ↔ text ∈ o ∧ text ≠ "" := by
  simp [filled, Option.filter_eq_some_iff]

theorem filled_eq_none_iff : filled o = none ↔ ∀ text ∈ o, text = "" := by
  simp [filled, Option.filter_eq_none_iff]

theorem optionalDuration_eq_ok_iff :
    optionalDuration o = .ok d? ↔
      (∃ text ∈ o, text ≠ "" ∧ ∃ d, Duration.parse text = .ok d ∧ d? = some d) ∨
        (∀ text ∈ o, text = "") ∧ d? = none := by
  unfold optionalDuration
  rw [← filled_eq_none_iff]
  simp only [← and_assoc, ← filled_eq_some_iff]
  cases filled o with
  | none => simp [eq_comm]
  | some text =>
    simp only [mapError_eq_ok_iff, Option.some.injEq, exists_eq_left', reduceCtorEq, false_and, or_false]
    cases hparse : Duration.parse text with
    | error e => simp [Except.map]
    | ok d => simp [Except.map, eq_comm]

theorem gives_iff {otherwise d : Duration} :
    Gives o otherwise d ↔ ∃ d?, optionalDuration o = .ok d? ∧ d?.getD otherwise = d := by
  simp only [optionalDuration_eq_ok_iff]
  constructor
  · rintro (⟨text, htext, hne, hparse⟩ | ⟨hempty, rfl⟩)
    · exact ⟨some d, .inl ⟨text, htext, hne, d, hparse, rfl⟩, rfl⟩
    · exact ⟨none, .inr ⟨hempty, rfl⟩, rfl⟩
  · rintro ⟨d?, ⟨text, htext, hne, d', hparse, rfl⟩ | ⟨hempty, rfl⟩, rfl⟩
    · exact .inl ⟨text, htext, hne, hparse⟩
    · exact .inr ⟨hempty, rfl⟩

/-- The timeout of a job whose endpoint has none. -/
def timeoutWithin (settings : Settings) (interval : Duration) : Duration :=
  if interval < settings.scrapeTimeout then interval else settings.scrapeTimeout

theorem timeoutWithin_le (settings : Settings) (interval : Duration) :
    timeoutWithin settings interval ≤ interval := by
  unfold timeoutWithin
  split
  · exact Nat.le_refl _
  · rename_i hle
    exact Nat.not_lt.1 hle

/-- What interval and timeout come to. -/
theorem intervals_eq_ok_iff {interval timeout : Duration} :
    intervals settings o o' = .ok (interval, timeout) ↔
      Gives o settings.scrapeInterval interval ∧ Gives o' (timeoutWithin settings interval) timeout ∧
        timeout ≤ interval := by
  simp only [intervals, bind_eq_ok_iff, gives_iff]
  constructor
  · rintro ⟨d?, hd, t?, ht, h⟩
    cases t? with
    | none =>
      obtain ⟨rfl, rfl⟩ := Prod.mk.inj (Except.ok.inj h)
      exact ⟨⟨d?, hd, rfl⟩, ⟨none, ht, rfl⟩, timeoutWithin_le settings _⟩
    | some t =>
      dsimp only at h
      split at h
      · cases h
      · rename_i hle
        obtain ⟨rfl, rfl⟩ := Prod.mk.inj (Except.ok.inj h)
        exact ⟨⟨d?, hd, rfl⟩, ⟨some t, ht, rfl⟩, Nat.not_lt.1 hle⟩
  · rintro ⟨⟨d?, hd, rfl⟩, ⟨t?, ht, rfl⟩, hle⟩
    refine ⟨d?, hd, t?, ht, ?_⟩
    cases t? with
    | none => rfl
    | some t => exact if_neg (Nat.not_lt.2 hle)

/-- There are an interval and a timeout if both texts are durations as far as they say anything, and the
timeout is then not the longer one. -/
theorem exists_intervals_iff :
    (∃ times, intervals settings o o' = .ok times) ↔
      ∃ interval, Gives o settings.scrapeInterval interval ∧
        ∀ text ∈ o', text ≠ "" → ∃ timeout, Duration.parse text = .ok timeout ∧ timeout ≤ interval := by
  constructor
  · rintro ⟨⟨interval, timeout⟩, h⟩
    obtain ⟨hinterval, htimeout, hle⟩ := intervals_eq_ok_iff.1 h
    refine ⟨interval, hinterval, fun text htext hne => ?_⟩
    rcases htimeout with ⟨text', htext', _, hparse⟩ | ⟨hempty, _⟩
    · obtain rfl := Option.mem_unique htext htext'
      exact ⟨timeout, hparse, hle⟩
    · exact absurd (hempty text htext) hne
  · rintro ⟨interval, hinterval, htimeout⟩
    by_cases hempty : ∀ text ∈ o', text = ""
    · exact ⟨(interval, timeoutWithin settings interval), intervals_eq_ok_iff.2
        ⟨hinterval, .inr ⟨hempty, rfl⟩, timeoutWithin_le settings interval⟩⟩
    · simp only [not_forall] at hempty
      obtain ⟨text, htext, hne⟩ := hempty
      obtain ⟨timeout, hparse, hle⟩ := htimeout text htext hne
      exact ⟨(interval, timeout), intervals_eq_ok_iff.2 ⟨hinterval, .inl ⟨text, htext, hne, hparse⟩, hle⟩⟩

end Times

/-! ## Endpoints -/

variable {τ : Type}

/-- An endpoint is fit to become a job: it names a port, interval and timeout are durations as far as they say
anything, a timeout of its own is not longer than the interval, and all its rules convert. -/
structure Acceptable (settings : Settings) (e : Endpoint τ) : Prop where
  port : e.port ≠ none ∨ e.targetPort ≠ none
  times : ∃ interval, Gives e.scrape.interval settings.scrapeInterval interval ∧
    ∀ text ∈ e.scrape.scrapeTimeout, text ≠ "" →
      ∃ timeout, Duration.parse text = .ok timeout ∧ timeout ≤ interval
  relabelings : ∀ r ∈ e.scrape.relabelings, ∃ rule, r.toRule = .ok rule
  metricRelabelings : ∀ r ∈ e.scrape.metricRelabelings, ∃ rule, r.toRule = .ok rule

section Checks

variable {settings : Settings} {base job : ScrapeJob}

theorem exists_portRule_iff {portLabel : String} {port : Option String} {target : Option Monitor.PortTarget} :
    (∃ rule, portRule portLabel port target = .ok rule) ↔ port ≠ none ∨ target ≠ none := by
  cases port with
  | some name => simp [portRule]
  | none =>
    cases target with
    | none => simp [portRule]
    | some target => cases target <;> simp [portRule]

theorem exists_applyScrape_iff {s : ScrapeSettings} :
    (∃ job, applyScrape settings base s = .ok job) ↔
      (∃ times, intervals settings s.interval s.scrapeTimeout = .ok times) ∧
        (∃ rules, RelabelRule.toRules s.relabelings = .ok rules) ∧
          ∃ rules, RelabelRule.toRules s.metricRelabelings = .ok rules := by
  simp only [applyScrape, bind_eq_ok_iff, relabelings, metricRelabelings, mapError_eq_ok_iff]
  constructor
  · rintro ⟨_, times, htimes, rules, hrules, metric, hmetric, _⟩
    exact ⟨⟨times, htimes⟩, ⟨rules, hrules⟩, metric, hmetric⟩
  · rintro ⟨⟨times, htimes⟩, ⟨rules, hrules⟩, metric, hmetric⟩
    exact ⟨_, times, htimes, rules, hrules, metric, hmetric, rfl⟩

theorem timely_of_applyScrape {s : ScrapeSettings} (h : applyScrape settings base s = .ok job) :
    Timely job := by
  obtain ⟨⟨interval, timeout⟩, htimes, h⟩ := bind_eq_ok_iff.1 h
  obtain ⟨rules, _, h⟩ := bind_eq_ok_iff.1 h
  obtain ⟨metric, _, h⟩ := bind_eq_ok_iff.1 h
  obtain rfl := Except.ok.inj h
  exact ⟨interval, timeout, rfl, rfl, (intervals_eq_ok_iff.1 htimes).2.2⟩

/-- Whatever base the port leads to, the checks are those of an acceptable endpoint. -/
theorem exists_base_iff {portLabel : String} {e : Endpoint τ} {baseOf : Relabel.Rule × String → ScrapeJob} :
    (∃ job, (portRule portLabel e.port e.targetPort >>= fun found =>
        applyScrape settings (baseOf found) e.scrape) = .ok job) ↔ Acceptable settings e := by
  simp only [bind_eq_ok_iff]
  constructor
  · rintro ⟨job, found, hport, hjob⟩
    obtain ⟨htimes, hrules, hmetric⟩ := exists_applyScrape_iff.1 ⟨job, hjob⟩
    exact {
      port := exists_portRule_iff.1 ⟨found, hport⟩
      times := exists_intervals_iff.1 htimes
      relabelings := RelabelRule.exists_toRules_iff.1 hrules
      metricRelabelings := RelabelRule.exists_toRules_iff.1 hmetric }
  · intro h
    obtain ⟨found, hport⟩ := exists_portRule_iff.2 h.port
    obtain ⟨job, hjob⟩ := exists_applyScrape_iff.2 ⟨exists_intervals_iff.2 h.times,
      RelabelRule.exists_toRules_iff.2 h.relabelings, RelabelRule.exists_toRules_iff.2 h.metricRelabelings⟩
    exact ⟨job, found, hport, hjob⟩

/-- Credentials make no difference to whether there is a job, nor to its name and its times. -/
theorem of_finishEndpoint {ns : String} {s : ScrapeSettings} {tls : Option TlsConfig}
    {adjust : Job.HttpClient → Job.HttpClient} {outcome : Outcome}
    (h : (finishEndpoint settings ns s tls adjust (.ok base)).Yields outcome) :
    ∃ job, outcome.1 = .ok job ∧ job.name = base.name ∧ (Timely base → Timely job) := by
  obtain ⟨⟨client, ws⟩, _, hresult⟩ := Lookup.yields_bind.1 h
  obtain rfl := Lookup.yields_pure.1 hresult
  exact ⟨_, rfl, rfl, id⟩

end Checks

/-! ## Monitors without their endpoints -/

/-- A monitor that has endpoints with TLS settings of the type `τ`, but for the endpoints. -/
inductive Frame : Type → Type where
  | service (metadata : Metadata) (spec : ServiceSpec) : Frame FileTlsConfig
  | pod (metadata : Metadata) (spec : PodSpec) : Frame TlsConfig

namespace Frame

/-- The monitor with these endpoints. -/
def monitor : Frame τ → List (Endpoint τ) → Monitor
  | .service metadata spec, es => { metadata := metadata, spec := .service { spec with endpoints := es } }
  | .pod metadata spec, es => { metadata := metadata, spec := .pod { spec with endpoints := es } }

/-- The metadata of the monitor. -/
def metadata : Frame τ → Metadata
  | .service metadata _ | .pod metadata _ => metadata

/-- The kind of the monitor. -/
def kind : Frame τ → Kind
  | .service _ _ => .serviceMonitor
  | .pod _ _ => .podMonitor

/-- Every service monitor and every pod monitor is a frame with endpoints. -/
theorem exists_monitor_eq {m : Monitor} (h : m.kind = .serviceMonitor ∨ m.kind = .podMonitor) :
    ∃ (τ : Type) (f : Frame τ) (es : List (Endpoint τ)), f.monitor es = m := by
  obtain ⟨metadata, spec⟩ := m
  cases spec with
  | service spec => exact ⟨_, .service metadata spec, spec.endpoints, rfl⟩
  | pod spec => exact ⟨_, .pod metadata spec, spec.endpoints, rfl⟩
  | probe spec | scrape spec => simp [Monitor.kind, Monitor.Spec.kind] at h

/-- The name of the job of the endpoint in a place. -/
def jobName (f : Frame τ) (i : Nat) : String :=
  f.kind.jobPrefix ++ "/" ++ f.metadata.namespaceText ++ "/" ++ f.metadata.displayName ++ "/" ++ toString i

/-- The job of an endpoint under a name, but for its client. -/
def base (settings : Settings) (name : String) : Frame τ → Endpoint τ → Except JobError ScrapeJob
  | .service metadata spec, e => serviceJob settings metadata.namespaceText name spec e
  | .pod metadata spec, e => podJob settings metadata.namespaceText metadata.displayName name spec e

/-- The outcome for an endpoint under a name. -/
def outcome (settings : Settings) (name : String) : Frame τ → Endpoint τ → Lookup Outcome
  | .service metadata spec, e => serviceEndpoint settings metadata.namespaceText name spec e
  | .pod metadata spec, e => podEndpoint settings metadata.namespaceText metadata.displayName name spec e

variable {settings : Settings} {name : String} {f : Frame τ} {e : Endpoint τ}

theorem jobName_inj {i j : Nat} (h : f.jobName i = f.jobName j) : i = j := numbered_inj h

theorem parts_monitor (settings : Settings) (f : Frame τ) (es : List (Endpoint τ)) :
    parts settings (f.monitor es) =
      es.mapIdx fun i e => (f.jobName i, f.outcome settings (f.jobName i) e) := by
  cases f <;> rfl

theorem exists_base_iff : (∃ job, f.base settings name e = .ok job) ↔ Acceptable settings e := by
  cases f with
  | service metadata spec => exact Generate.exists_base_iff
  | pod metadata spec => exact Generate.exists_base_iff

theorem of_base {base : ScrapeJob} (h : f.base settings name e = .ok base) :
    base.name = name ∧ Timely base := by
  cases f with
  | service metadata spec =>
    obtain ⟨_, _, _, hcarries⟩ := carries_of_serviceJob h
    obtain ⟨_, _, hjob⟩ := bind_eq_ok_iff.1 h
    exact ⟨hcarries.name, timely_of_applyScrape hjob⟩
  | pod metadata spec =>
    obtain ⟨_, _, _, hcarries⟩ := carries_of_podJob h
    obtain ⟨_, _, hjob⟩ := bind_eq_ok_iff.1 h
    exact ⟨hcarries.name, timely_of_applyScrape hjob⟩

/-- An endpoint that is acceptable becomes a job whatever the answers are, and no other does. -/
theorem outcome_yields {result : Outcome} (h : (f.outcome settings name e).Yields result) :
    (∃ job, result.1 = .ok job ∧ Acceptable settings e ∧ job.name = name ∧ Timely job) ∨
      (∃ error, result.1 = .error error) ∧ ¬ Acceptable settings e := by
  have hfinish : ∃ s tls adjust, f.outcome settings name e =
      finishEndpoint settings f.metadata.namespaceText s tls adjust (f.base settings name e) := by
    cases f with
    | service metadata spec => exact ⟨_, _, _, rfl⟩
    | pod metadata spec => exact ⟨_, _, _, rfl⟩
  obtain ⟨s, tls, adjust, hfinish⟩ := hfinish
  rw [hfinish] at h
  -- without a base nothing is asked for, and with one there is a job, with or without credentials
  cases hbase : f.base settings name e with
  | error error =>
    rw [hbase] at h
    obtain rfl := Lookup.yields_pure.1 h
    refine .inr ⟨⟨error, rfl⟩, fun haccept => ?_⟩
    obtain ⟨base, hok⟩ := exists_base_iff.2 haccept
    rw [hbase] at hok
    cases hok
  | ok base =>
    rw [hbase] at h
    obtain ⟨job, hjob, hname, htimely⟩ := of_finishEndpoint h
    obtain ⟨hbasename, hbasetimely⟩ := of_base hbase
    exact .inl ⟨job, hjob, exists_base_iff.1 ⟨base, hbase⟩, hname.trans hbasename, htimely hbasetimely⟩

/-! ## The jobs of all endpoints -/

/-- The job of the endpoint in a place, if it becomes one, where a table has the answers. -/
def job? (settings : Settings) (f : Frame τ) (table : ValueKey → Answer) (i : Nat) (e : Endpoint τ) :
    Option ScrapeJob :=
  ((f.outcome settings (f.jobName i) e).answeredBy table).1.toOption

theorem job?_spec (settings : Settings) (f : Frame τ) (table : ValueKey → Answer) (i : Nat)
    (e : Endpoint τ) :
    (∃ job, f.job? settings table i e = some job ∧ Acceptable settings e ∧ job.name = f.jobName i ∧
        Timely job) ∨
      f.job? settings table i e = none ∧ ¬ Acceptable settings e := by
  unfold job?
  rcases outcome_yields (f := f) (Lookup.yields_answered _ (f.outcome settings (f.jobName i) e)) with
    ⟨job, hjob, hspec⟩ | ⟨⟨error, herror⟩, hrefused⟩
  · exact .inl ⟨job, congrArg Except.toOption hjob, hspec⟩
  · exact .inr ⟨congrArg Except.toOption herror, hrefused⟩

end Frame

theorem runParts_answeredBy (table : ValueKey → Answer) (kind : Kind) (ps : List (String × Lookup Outcome)) :
    ((runParts kind ps).answeredBy table).1 = ps.filterMap fun p => (p.2.answeredBy table).1.toOption := by
  induction ps with
  | nil => rfl
  | cons p ps ih =>
    obtain ⟨name, part⟩ := p
    rw [runParts, Lookup.answeredBy_bind, List.filterMap_cons]
    obtain ⟨outcome, warnings⟩ := part.answeredBy table
    dsimp only
    rw [Lookup.answeredBy_bind]
    cases outcome with
    | ok job => exact congrArg (job :: ·) ih
    | error e => exact ih

namespace Frame

variable {settings : Settings} {f : Frame τ} {es : List (Endpoint τ)} {source : ObjectKey → Fetched}
  {s : Store}

/-- The jobs of a monitor that is made of endpoints, while nothing disturbs. -/
def jobs (settings : Settings) (f : Frame τ) (source : ObjectKey → Fetched) (s : Store)
    (es : List (Endpoint τ)) : List ScrapeJob :=
  ((Generate.jobs settings (f.monitor es)).run source s).2.1

/-- Each endpoint becomes its job by itself, in the order of the endpoints. -/
theorem jobs_eq : f.jobs settings source s es =
    es.zipIdx.filterMap fun p => f.job? settings (s.now source) p.2 p.1 := by
  rw [jobs, Lookup.run_eq_answeredBy, Generate.jobs, runParts_answeredBy, parts_monitor,
    List.mapIdx_eq_zipIdx_map, List.filterMap_map]
  rfl

theorem mem_jobs_iff {job : ScrapeJob} {i : Nat} (hname : job.name = f.jobName i) :
    job ∈ f.jobs settings source s es ↔
      ∃ e, es[i]? = some e ∧ f.job? settings (s.now source) i e = some job := by
  rw [jobs_eq, List.mem_filterMap]
  constructor
  · rintro ⟨⟨e, j⟩, hmem, hjob⟩
    -- no other place gives its job this name
    rcases f.job?_spec settings (s.now source) j e with ⟨job', hjob', _, hname', _⟩ | ⟨hnone, _⟩
    · obtain rfl : job' = job := Option.some.inj (hjob'.symm.trans hjob)
      obtain rfl := jobName_inj (hname.symm.trans hname')
      exact ⟨e, List.mem_zipIdx_iff_getElem?.1 hmem, hjob⟩
    · rw [hnone] at hjob
      cases hjob
  · rintro ⟨e, he, hjob⟩
    exact ⟨(e, i), List.mem_zipIdx_iff_getElem?.2 he, hjob⟩

/-- The names are those of the places of acceptable endpoints, in order. -/
theorem names_jobs :
    ∃ is : List Nat, is.Pairwise (· < ·) ∧ (∀ i, i ∈ is ↔ ∃ e, es[i]? = some e ∧ Acceptable settings e) ∧
      (f.jobs settings source s es).map (·.name) = is.map f.jobName := by
  -- the places are those that the endpoints are counted by, so they ascend with the list
  let place (p : Endpoint τ × Nat) : Option Nat := (f.job? settings (s.now source) p.2 p.1).map fun _ => p.2
  refine ⟨es.zipIdx.filterMap place, ?_, fun i => ?_, ?_⟩
  · have hplaces : es.zipIdx.Pairwise fun p q => p.2 < q.2 := by
      rw [← List.pairwise_map, List.zipIdx_map_snd]
      exact List.pairwise_lt_range'
    refine hplaces.filterMap place fun p q hlt i hi j hj => ?_
    obtain ⟨_, _, rfl⟩ := Option.map_eq_some_iff.1 hi
    obtain ⟨_, _, rfl⟩ := Option.map_eq_some_iff.1 hj
    exact hlt
  · rw [List.mem_filterMap]
    constructor
    · rintro ⟨⟨e, j⟩, hmem, hplace⟩
      obtain ⟨job, hjob, rfl⟩ := Option.map_eq_some_iff.1 hplace
      rcases f.job?_spec settings (s.now source) j e with ⟨_, _, haccept, _⟩ | ⟨hnone, _⟩
      · exact ⟨e, List.mem_zipIdx_iff_getElem?.1 hmem, haccept⟩
      · rw [hnone] at hjob
        cases hjob
    · rintro ⟨e, he, haccept⟩
      refine ⟨(e, i), List.mem_zipIdx_iff_getElem?.2 he, ?_⟩
      rcases f.job?_spec settings (s.now source) i e with ⟨job, hjob, _⟩ | ⟨_, hrefused⟩
      · exact Option.map_eq_some_iff.2 ⟨job, hjob, rfl⟩
      · exact absurd haccept hrefused
  · rw [jobs_eq, List.map_filterMap, List.map_filterMap]
    refine List.filterMap_congr fun ⟨e, i⟩ _ => ?_
    rcases f.job?_spec settings (s.now source) i e with ⟨job, hjob, _, hname, _⟩ | ⟨hnone, _⟩
    · simp only [place, hjob, Option.map_some, hname]
    · simp only [place, hnone, Option.map_none]

theorem timely_of_mem {job : ScrapeJob} (h : job ∈ f.jobs settings source s es) : Timely job := by
  rw [jobs_eq] at h
  obtain ⟨⟨e, i⟩, _, hjob⟩ := List.mem_filterMap.1 h
  rcases f.job?_spec settings (s.now source) i e with ⟨job', hjob', _, _, htimely⟩ | ⟨hnone, _⟩
  · exact Option.some.inj (hjob'.symm.trans hjob) ▸ htimely
  · rw [hnone] at hjob
    cases hjob

/-- A monitor has exactly one job for each of its acceptable endpoints, in their order and named for their
places. Each gives up within its interval. An endpoint that is replaced changes none but its own. Which
credentials there are makes no difference to any of this. -/
theorem jobs_of_acceptable (settings : Settings) (f : Frame τ) (es : List (Endpoint τ))
    (source : ObjectKey → Fetched) (s : Store) :
    (∃ is : List Nat, is.Pairwise (· < ·) ∧
      (∀ i, i ∈ is ↔ ∃ e, es[i]? = some e ∧ Acceptable settings e) ∧
      (f.jobs settings source s es).map (·.name) = is.map f.jobName) ∧
    (∀ job ∈ f.jobs settings source s es, ∃ interval timeout, job.scrapeInterval = some interval ∧
      job.scrapeTimeout = some timeout ∧ timeout ≤ interval) ∧
    ∀ i j e, j ≠ i → ∀ job, job.name = f.jobName i →
      (job ∈ f.jobs settings source s (es.set j e) ↔ job ∈ f.jobs settings source s es) := by
  refine ⟨names_jobs, fun job hjob => timely_of_mem hjob, fun i j e hne job hname => ?_⟩
  rw [mem_jobs_iff hname, mem_jobs_iff hname, List.getElem?_set_ne hne]

/-- A service monitor of a web server. -/
def web : Frame FileTlsConfig := .service { name := some "web", namespaceName := some "shop" } {}

/-- An endpoint with defaults, one without a port, one whose timeout is too long, and one whose credentials
are nowhere. -/
def webEndpoints : List (Endpoint FileTlsConfig) :=
  [{ port := some "http" }, {},
    { port := some "admin", scrape := { interval := some "10s", scrapeTimeout := some "20s" } },
    { targetPort := some (.number 9090),
      scrape := { scrapeTimeout := some "5s", bearerTokenSecret := some { name := "token", key := "value" } } }]

/-- The first and the last become jobs. Whatever stands between them, the last remains the job that it is. -/
theorem jobs_of_web :
    (web.jobs {} (fun _ => .absent) {} webEndpoints).map (·.name) =
        ["serviceMonitor/shop/web/0", "serviceMonitor/shop/web/3"] ∧
      ∀ e job, job.name = "serviceMonitor/shop/web/3" →
        (job ∈ web.jobs {} (fun _ => .absent) {} (webEndpoints.set 1 e) ↔
          job ∈ web.jobs {} (fun _ => .absent) {} webEndpoints) := by
  refine ⟨by decide +kernel, fun e job hname => ?_⟩
  exact (jobs_of_acceptable {} web webEndpoints (fun _ => .absent) {}).2.2 3 1 e (by decide) job hname

end Frame

end Generate

end ScrapeFleet
