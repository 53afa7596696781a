/-
# ScrapeFleet.Proofs.Generate.Dropped — a broken credential costs its own field and nothing else

A field of a client is what its reference comes to, and a reference that comes to nothing leaves the field
out, as if it had never been there (`found_kept`). So the clients of a monitor are those of the monitor
without such references (`resolvable`), and no warning but theirs tells the two apart: the jobs are the same
and the same parts are skipped (`answered_parts`).

A monitor has references in several places (`sites`): at its endpoints, or at the entries of its HTTP
discovery and at itself. It is warned of each failing reference under the label of its place, in the order
of the fields (`AuthRefs.failures`). A part that becomes a job is warned of in all its places; one that is
skipped may have been given up before it came to some of them (`Emits`). No label stands for two places, so
what is warned of under it is what fails there.
-/
import ScrapeFleet.Proofs.Credential.Repetition
import ScrapeFleet.Proofs.Generate.Acceptance

namespace ScrapeFleet.Generate

open Cluster (ObjectKey)
open Credential (Answer Failure Fetched Lookup Store ValueKey)
open Job (HttpClient HttpDiscovery)
open Monitor (Endpoint HttpTargets PodSpec ProbeSpec ScrapeSettings ScrapeSpec ServiceSpec TlsConfig)

/-! ## One reference -/

section Reference

variable {ρ α : Type} (table : ValueKey → Answer) (find : ρ → ExceptT Failure Lookup α)

/-- What a reference comes to with the answers of a table. -/
def resolved (r : ρ) : Except Failure α := (find r).run.answeredBy table

/-- The reference, unless it does not resolve. -/
def kept (ref : Option ρ) : Option ρ := ref.filter fun r => (resolved table find r).isOk

/-- The value of a reference that is there and resolves. -/
def found (ref : Option ρ) : Option α := ref.bind fun r => (resolved table find r).toOption

/-- Why a reference that is there does not resolve. -/
def failure? (ref : Option ρ) : Option Failure :=
  ref.bind fun r =>
    match resolved table find r with
    | .ok _ => none
    | .error f => some f

variable {table find} {r : ρ}

theorem kept_of_ok {a : α} (h : resolved table find r = .ok a) : kept table find (some r) = some r := by
  rw [kept, Option.filter_some, h]
  rfl

theorem kept_of_error {f : Failure} (h : resolved table find r = .error f) :
    kept table find (some r) = none := by
  rw [kept, Option.filter_some, h]
  rfl

variable (table find)

/-- A reference that does not resolve might as well not be there. -/
theorem found_kept (ref : Option ρ) : found table find (kept table find ref) = found table find ref := by
  cases ref with
  | none => rfl
  | some r =>
    cases h : resolved table find r with
    | ok a => rw [kept_of_ok h]
    | error f =>
      rw [kept_of_error h]
      exact (congrArg Except.toOption h).symm

theorem failure?_kept (ref : Option ρ) : failure? table find (kept table find ref) = none := by
  cases ref with
  | none => rfl
  | some r =>
    cases h : resolved table find r with
    | ok a => rw [kept_of_ok h, failure?, Option.bind_some, h]
    | error f =>
      rw [kept_of_error h]
      rfl

/-- A field gets the value of its reference, and it is warned of the failure if there is one. -/
theorem answeredBy_authField (job : String) (field : AuthField) (ref : Option ρ) :
    (authField job field ref find).answeredBy table =
      (found table find ref, (failure? table find ref).toList.map (.dropped job field)) := by
  cases ref with
  | none => rfl
  | some r =>
    simp only [authField, Lookup.answeredBy_bind, found, failure?, Option.bind_some, resolved]
    cases (find r).run.answeredBy table <;> rfl

end Reference

/-! ## The references of one client -/

/-- All fields, in the order in which they are asked for. -/
def AuthField.inOrder : List AuthField := [.basicAuth, .bearerToken, .authorization, .oauth2, .tlsConfig]

namespace AuthRefs

variable (table : ValueKey → Answer) (ns : String) (refs : AuthRefs)

/-- Why a field fails to resolve, if it does. -/
def failureAt : AuthField → Option Failure
  | .basicAuth => failure? table (Credential.basicAuth ns) refs.basicAuth
  | .bearerToken => failure? table (Credential.bearerToken ns) refs.bearerToken
  | .authorization => failure? table (Credential.authorization ns) refs.authorization
  | .oauth2 => failure? table (Credential.oauth2 ns) refs.oauth2
  | .tlsConfig => failure? table (Credential.tlsConfig ns) refs.tls

/-- The fields that fail to resolve, in order. -/
def failures : List (AuthField × Failure) :=
  AuthField.inOrder.filterMap fun field => (refs.failureAt table ns field).map (field, ·)

/-- The references but for those that fail to resolve. -/
def resolvable : AuthRefs where
  basicAuth := kept table (Credential.basicAuth ns) refs.basicAuth
  bearerToken := kept table (Credential.bearerToken ns) refs.bearerToken
  authorization := kept table (Credential.authorization ns) refs.authorization
  oauth2 := kept table (Credential.oauth2 ns) refs.oauth2
  tls := kept table (Credential.tlsConfig ns) refs.tls

/-- The client that the references come to. -/
def client : HttpClient where
  basicAuth := found table (Credential.basicAuth ns) refs.basicAuth
  authorization := (found table (Credential.authorization ns) refs.authorization).orElse fun _ =>
    found table (Credential.bearerToken ns) refs.bearerToken
  oauth2 := found table (Credential.oauth2 ns) refs.oauth2
  tlsConfig := found table (Credential.tlsConfig ns) refs.tls

theorem client_resolvable : (refs.resolvable table ns).client table ns = refs.client table ns := by
  simp only [client, resolvable, found_kept]

theorem failures_resolvable : (refs.resolvable table ns).failures table ns = [] := by
  refine List.filterMap_eq_nil_iff.2 fun field _ => ?_
  cases field <;> exact congrArg _ (failure?_kept table _ _)

end AuthRefs

/-- A place of a monitor with references to credentials, and the label of warnings about them. -/
structure Site where
  label : String
  refs : AuthRefs

/-- What is warned of in a place: each field that fails to resolve, in order. -/
def Site.drops (table : ValueKey → Answer) (ns : String) (site : Site) : List Warning :=
  (site.refs.failures table ns).map fun (field, f) => .dropped site.label field f

section Client

variable {table : ValueKey → Answer} {ns : String}

/-- The client is made of what resolves, and it is warned of what does not. -/
theorem answeredBy_httpClient (label : String) (refs : AuthRefs) :
    (httpClient label ns refs).answeredBy table =
      (refs.client table ns, (Site.mk label refs).drops table ns) := by
  have hdrops (field : AuthField) (f? : Option Failure) :
      f?.toList.map (Warning.dropped label field) =
        ((f?.map (field, ·)).toList.map fun (field, f) => Warning.dropped label field f) := by
    cases f? <;> rfl
  have hfailures : refs.failures table ns =
      AuthField.inOrder.flatMap fun field => ((refs.failureAt table ns field).map (field, ·)).toList :=
    List.filterMap_eq_flatMap_toList _ _
  unfold httpClient
  simp only [Lookup.answeredBy_bind, answeredBy_authField, hdrops]
  refine Prod.ext rfl ?_
  rw [Site.drops, hfailures]
  simp [AuthField.inOrder, AuthRefs.failureAt]
  rfl

end Client

/-! ## The places of a monitor -/

/-- The references of a probe. -/
def probeRefs (spec : ProbeSpec) : AuthRefs where
  basicAuth := spec.basicAuth
  bearerToken := spec.bearerTokenSecret
  authorization := spec.authorization
  oauth2 := spec.oauth2
  tls := spec.tlsConfig

/-- The references of an entry of HTTP discovery. -/
def httpRefs (h : HttpTargets) : AuthRefs where
  basicAuth := h.basicAuth
  authorization := h.authorization
  tls := h.tlsConfig

/-- The references of a scrape config itself. -/
def scrapeRefs (spec : ScrapeSpec) : AuthRefs where
  basicAuth := spec.basicAuth
  authorization := spec.authorization
  oauth2 := spec.oauth2
  tls := spec.tlsConfig

/-- The entries of HTTP discovery from number `i` on. -/
def httpSites (name : String) (i : Nat) (hs : List HttpTargets) : List Site :=
  (hs.zipIdx i).map fun (h, j) => ⟨name ++ "/httpSDConfigs/" ++ toString j, httpRefs h⟩

/-- The parts of a monitor by their names, each with its places. -/
def sites (m : Monitor) : List (String × List Site) :=
  let numbered {α : Type} (refs : α → AuthRefs) (as : List α) :=
    as.mapIdx fun i a =>
      let name := m.jobKey ++ "/" ++ toString i
      (name, [⟨name, refs a⟩])
  match m.spec with
  | .service spec =>
    numbered (fun e => endpointRefs e.scrape (e.tlsConfig.map (·.material))) spec.endpoints
  | .pod spec => numbered (fun e => endpointRefs e.scrape e.tlsConfig) spec.endpoints
  | .probe spec => [(m.jobKey, [⟨m.jobKey, probeRefs spec⟩])]
  | .scrape spec => [(m.jobKey, httpSites m.jobKey 0 spec.http ++ [⟨m.jobKey, scrapeRefs spec⟩])]

/-! ## Monitors without what fails -/

section Resolvable

variable (table : ValueKey → Answer) (ns : String)

/-- An endpoint whose TLS settings have this material, without the references that fail to resolve. -/
def resolvableEndpoint {τ : Type} (material : τ → TlsConfig) (e : Endpoint τ) : Endpoint τ :=
  let refs := (endpointRefs e.scrape none).resolvable table ns
  { e with
    tlsConfig := kept table (fun t => Credential.tlsConfig ns (material t)) e.tlsConfig
    scrape := { e.scrape with
      basicAuth := refs.basicAuth
      bearerTokenSecret := refs.bearerToken
      authorization := refs.authorization
      oauth2 := refs.oauth2 } }

/-- A probe without the references that fail to resolve. -/
def resolvableProbe (spec : ProbeSpec) : ProbeSpec :=
  let refs := (probeRefs spec).resolvable table ns
  { spec with
    basicAuth := refs.basicAuth
    bearerTokenSecret := refs.bearerToken
    authorization := refs.authorization
    oauth2 := refs.oauth2
    tlsConfig := refs.tls }

/-- An entry of HTTP discovery without the references that fail to resolve. -/
def resolvableHttp (h : HttpTargets) : HttpTargets :=
  let refs := (httpRefs h).resolvable table ns
  { h with
    basicAuth := refs.basicAuth
    authorization := refs.authorization
    tlsConfig := refs.tls }

/-- A scrape config without the references that fail to resolve, at its entries and at itself. -/
def resolvableScrape (spec : ScrapeSpec) : ScrapeSpec :=
  let refs := (scrapeRefs spec).resolvable table ns
  { spec with
    http := spec.http.map (resolvableHttp table ns)
    basicAuth := refs.basicAuth
    authorization := refs.authorization
    oauth2 := refs.oauth2
    tlsConfig := refs.tls }

/-- A monitor without the references that fail to resolve with the answers of a table. -/
def resolvable (m : Monitor) : Monitor :=
  let ns := m.namespaceText
  { m with
    spec := match m.spec with
      | .service spec => .service { spec with
          endpoints := spec.endpoints.map (resolvableEndpoint table ns (·.material)) }
      | .pod spec => .pod { spec with endpoints := spec.endpoints.map (resolvableEndpoint table ns id) }
      | .probe spec => .probe (resolvableProbe table ns spec)
      | .scrape spec => .scrape (resolvableScrape table ns spec) }

end Resolvable

/-! ## What parts come to -/

section Outcomes

variable {settings : Settings} {table : ValueKey → Answer} {ns name : String}

theorem answeredBy_finishEndpoint (s : ScrapeSettings) (tls : Option TlsConfig)
    (adjust : HttpClient → HttpClient) (base : ScrapeJob) :
    (finishEndpoint settings ns s tls adjust (.ok base)).answeredBy table =
      (.ok { base with
        client := { adjust ((endpointRefs s tls).client table ns) with
          proxyUrl := s.proxyUrl
          followRedirects := s.followRedirects
          enableHttp2 := s.enableHttp2 }
        relabel := base.relabel ++ shardRules settings.shards },
      (Site.mk base.name (endpointRefs s tls)).drops table ns) := by
  rw [finishEndpoint, Lookup.answeredBy_bind, answeredBy_httpClient]
  rfl

theorem answeredBy_httpDiscovery (h : HttpTargets) (refresh : Option Duration) :
    (httpDiscovery name ns h refresh).answeredBy table =
      (⟨h.url, refresh, { (httpRefs h).client table ns with proxyUrl := h.proxyUrl }⟩,
        (Site.mk name (httpRefs h)).drops table ns) := by
  rw [httpDiscovery, Lookup.answeredBy_bind]
  exact congrArg (fun answer : HttpClient × List Warning =>
    (HttpDiscovery.mk h.url refresh { answer.1 with proxyUrl := h.proxyUrl }, answer.2))
    (answeredBy_httpClient name (httpRefs h))

theorem answeredBy_httpDiscoveries_cons {h : HttpTargets} {refresh : Option Duration}
    (hrefresh : optionalDuration h.refreshInterval = .ok refresh) (i : Nat) (hs : List HttpTargets) :
    (httpDiscoveries name ns i (h :: hs)).answeredBy table =
      (((httpDiscoveries name ns (i + 1) hs).answeredBy table).1.map
          (⟨h.url, refresh, { (httpRefs h).client table ns with proxyUrl := h.proxyUrl }⟩ :: ·),
        (Site.mk (name ++ "/httpSDConfigs/" ++ toString i) (httpRefs h)).drops table ns ++
          ((httpDiscoveries name ns (i + 1) hs).answeredBy table).2) := by
  rw [httpDiscoveries, hrefresh]
  dsimp only
  rw [Lookup.answeredBy_bind, answeredBy_httpDiscovery, Lookup.answeredBy_bind]
  rfl

theorem answeredBy_probeOutcome {spec : ProbeSpec} {base : ScrapeJob} {prober : Monitor.Prober}
    (h : probeJob settings ns name spec = .ok (base, prober)) :
    (probeOutcome settings ns name spec).answeredBy table =
      (.ok { base with
        client := { (probeRefs spec).client table ns with proxyUrl := prober.proxyUrl }
        relabel := base.relabel ++ shardRules settings.shards },
      (Site.mk name (probeRefs spec)).drops table ns) := by
  rw [probeOutcome, h]
  dsimp only
  rw [Lookup.answeredBy_bind, ← probeRefs, answeredBy_httpClient]
  rfl

theorem answeredBy_scrapeOutcome {spec : ScrapeSpec} {base : ScrapeJob}
    (h : scrapeJob settings name spec = .ok base) :
    (scrapeOutcome settings ns name spec).answeredBy table =
      match (httpDiscoveries name ns 0 spec.http).answeredBy table with
      | (.error e, warnings) => (.error e, warnings)
      | (.ok http, warnings) =>
        (.ok { base with
          http := http
          client := { (scrapeRefs spec).client table ns with
            proxyUrl := spec.proxyUrl
            followRedirects := spec.followRedirects
            enableHttp2 := spec.enableHttp2 }
          relabel := base.relabel ++ shardRules settings.shards },
        warnings ++ (Site.mk name (scrapeRefs spec)).drops table ns) := by
  rw [scrapeOutcome, h]
  dsimp only
  rw [Lookup.answeredBy_bind]
  obtain ⟨made, warnings⟩ := (httpDiscoveries name ns 0 spec.http).answeredBy table
  cases made with
  | error e => rfl
  | ok http =>
    dsimp only
    rw [Lookup.answeredBy_bind, ← scrapeRefs, answeredBy_httpClient]
    rfl

/-! ## What is warned of -/

/-- It is warned of what fails in some places: in all of them if something was made, and else in those that
were come to. -/
structure Emits {α : Type} (table : ValueKey → Answer) (ns : String) (sites : List Site)
    (outcome : Except JobError α × List Warning) : Prop where
  made : ∀ a, outcome.1 = .ok a → outcome.2 = sites.flatMap (·.drops table ns)
  sublist : outcome.2.Sublist (sites.flatMap (·.drops table ns))

theorem emits_error {α : Type} (sites : List Site) (e : JobError) :
    Emits (α := α) table ns sites (.error e, []) where
  made _ h := nomatch h
  sublist := List.nil_sublist _

theorem emits_made {α : Type} {sites : List Site} {warnings : List Warning}
    (h : warnings = sites.flatMap (·.drops table ns)) (a : α) : Emits table ns sites (.ok a, warnings) where
  made _ _ := h
  sublist := h ▸ List.Sublist.refl _

theorem drops_singleton (site : Site) : site.drops table ns = [site].flatMap (·.drops table ns) :=
  (List.append_nil _).symm

theorem emits_finishEndpoint (s : ScrapeSettings) (tls : Option TlsConfig)
    (adjust : HttpClient → HttpClient) {job : Except JobError ScrapeJob}
    (hname : ∀ base, job = .ok base → base.name = name) :
    Emits table ns [⟨name, endpointRefs s tls⟩]
      ((finishEndpoint settings ns s tls adjust job).answeredBy table) := by
  cases job with
  | error e => exact emits_error _ e
  | ok base =>
    rw [answeredBy_finishEndpoint, hname base rfl]
    exact emits_made (drops_singleton _) _

theorem emits_probeOutcome (spec : ProbeSpec) :
    Emits table ns [⟨name, probeRefs spec⟩] ((probeOutcome settings ns name spec).answeredBy table) := by
  cases h : probeJob settings ns name spec with
  | error e =>
    rw [probeOutcome, h]
    exact emits_error _ e
  | ok found =>
    rw [answeredBy_probeOutcome h]
    exact emits_made (drops_singleton _) _

/-- An entry that is faulty leaves it at what was warned of before. -/
theorem emits_httpDiscoveries (hs : List HttpTargets) (i : Nat) :
    Emits table ns (httpSites name i hs) ((httpDiscoveries name ns i hs).answeredBy table) := by
  induction hs generalizing i with
  | nil => exact emits_made rfl _
  | cons h hs ih =>
    cases hrefresh : optionalDuration h.refreshInterval with
    | error e =>
      rw [httpDiscoveries, hrefresh]
      exact emits_error _ e
    | ok refresh =>
      obtain ⟨hmade, hsublist⟩ := ih (i + 1)
      rw [answeredBy_httpDiscoveries_cons hrefresh, httpSites, List.zipIdx_cons, List.map_cons, ← httpSites]
      refine ⟨fun ds hds => ?_, (List.Sublist.refl _).append hsublist⟩
      cases hrest : ((httpDiscoveries name ns (i + 1) hs).answeredBy table).1 with
      | error e =>
        rw [hrest] at hds
        cases hds
      | ok rest => exact congrArg _ (hmade rest hrest)

theorem emits_scrapeOutcome (spec : ScrapeSpec) :
    Emits table ns (httpSites name 0 spec.http ++ [⟨name, scrapeRefs spec⟩])
      ((scrapeOutcome settings ns name spec).answeredBy table) := by
  cases h : scrapeJob settings name spec with
  | error e =>
    rw [scrapeOutcome, h]
    exact emits_error _ e
  | ok base =>
    have hhttp : Emits table ns (httpSites name 0 spec.http) _ := emits_httpDiscoveries spec.http 0
    obtain ⟨hmade, hsublist⟩ := hhttp
    rw [answeredBy_scrapeOutcome h]
    generalize (httpDiscoveries name ns 0 spec.http).answeredBy table = answer at hmade hsublist
    obtain ⟨http, warnings⟩ := answer
    cases http with
    | error e =>
      -- the scrape config itself is not come to any more
      refine ⟨fun _ h => (nomatch h), hsublist.trans ?_⟩
      rw [List.flatMap_append]
      exact List.sublist_append_left _ _
    | ok http =>
      refine emits_made ?_ _
      rw [List.flatMap_append, ← drops_singleton]
      exact congrArg (· ++ _) (hmade http rfl)

/-- Each part warns of its own places. -/
theorem emits_part (table : ValueKey → Answer) {m : Monitor} {part : String × Lookup Outcome}
    (h : part ∈ parts settings m) :
    ∃ places, (part.1, places) ∈ sites m ∧
      Emits table m.namespaceText places (part.2.answeredBy table) := by
  obtain ⟨metadata, spec⟩ := m
  cases spec with
  | service spec =>
    obtain ⟨i, hi, rfl⟩ := List.mem_mapIdx.1 h
    refine ⟨_, List.mem_mapIdx.2 ⟨i, hi, rfl⟩, emits_finishEndpoint _ _ _ fun base hbase => ?_⟩
    obtain ⟨_, _, _, hcarries⟩ := carries_of_serviceJob hbase
    exact hcarries.name
  | pod spec =>
    obtain ⟨i, hi, rfl⟩ := List.mem_mapIdx.1 h
    refine ⟨_, List.mem_mapIdx.2 ⟨i, hi, rfl⟩, emits_finishEndpoint _ _ _ fun base hbase => ?_⟩
    obtain ⟨_, _, _, hcarries⟩ := carries_of_podJob hbase
    exact hcarries.name
  | probe spec =>
    obtain rfl := List.mem_singleton.1 h
    exact ⟨_, List.mem_singleton.2 rfl, emits_probeOutcome spec⟩
  | scrape spec =>
    obtain rfl := List.mem_singleton.1 h
    exact ⟨_, List.mem_singleton.2 rfl, emits_scrapeOutcome spec⟩

/-! ## What comes of the monitor without what fails -/

theorem drops_resolvable (label : String) (refs : AuthRefs) :
    (Site.mk label (refs.resolvable table ns)).drops table ns = [] := by
  rw [Site.drops, AuthRefs.failures_resolvable, List.map_nil]

theorem endpointRefs_resolvable {τ : Type} (material : τ → TlsConfig) (e : Endpoint τ) :
    endpointRefs (resolvableEndpoint table ns material e).scrape
        ((resolvableEndpoint table ns material e).tlsConfig.map material) =
      (endpointRefs e.scrape (e.tlsConfig.map material)).resolvable table ns := by
  have htls : (kept table (fun t => Credential.tlsConfig ns (material t)) e.tlsConfig).map material =
      kept table (Credential.tlsConfig ns) (e.tlsConfig.map material) := by
    rw [kept, kept, Option.filter_map]
    rfl
  exact congrArg (fun tls => { (endpointRefs e.scrape none).resolvable table ns with tls := tls }) htls

/-- The files of TLS settings are added only where the material was found. -/
theorem addFiles_kept {files : Option Monitor.FileTlsConfig} {c : HttpClient}
    (hc : c.tlsConfig = found table (Credential.tlsConfig ns) (files.map (·.material))) :
    addFiles (kept table (fun t => Credential.tlsConfig ns t.material) files) c = addFiles files c := by
  cases files with
  | none => rfl
  | some f =>
    cases h : resolved table (fun t : Monitor.FileTlsConfig => Credential.tlsConfig ns t.material) f with
    | ok t => rw [kept_of_ok h]
    | error e =>
      -- there are no settings that the files could be added to
      have hnone : c.tlsConfig = none := hc.trans (congrArg Except.toOption h)
      rw [kept_of_error h]
      simp only [addFiles, hnone]

/-- What is done with the client may look at the TLS settings, if it sees no difference to the material. -/
theorem answeredBy_finishEndpoint_resolvable {τ : Type} (material : τ → TlsConfig) (e : Endpoint τ)
    (adjust adjust' : HttpClient → HttpClient) (job : Except JobError ScrapeJob)
    (hadjust : ∀ c, c.tlsConfig = found table (Credential.tlsConfig ns) (e.tlsConfig.map material) →
      adjust' c = adjust c) :
    let e' := resolvableEndpoint table ns material e
    (finishEndpoint settings ns e'.scrape (e'.tlsConfig.map material) adjust' job).answeredBy table =
      (((finishEndpoint settings ns e.scrape (e.tlsConfig.map material) adjust job).answeredBy table).1,
        []) := by
  intro e'
  cases job with
  | error e => rfl
  | ok base =>
    rw [answeredBy_finishEndpoint, answeredBy_finishEndpoint, endpointRefs_resolvable, drops_resolvable,
      AuthRefs.client_resolvable, hadjust _ rfl]
    rfl

theorem answeredBy_probeOutcome_resolvable (spec : ProbeSpec) :
    (probeOutcome settings ns name (resolvableProbe table ns spec)).answeredBy table =
      (((probeOutcome settings ns name spec).answeredBy table).1, []) := by
  -- whether there is a job is decided before any reference is looked at
  have hjob : probeJob settings ns name (resolvableProbe table ns spec) = probeJob settings ns name spec :=
    rfl
  cases h : probeJob settings ns name spec with
  | error e =>
    rw [probeOutcome, hjob, h, probeOutcome, h]
    rfl
  | ok found =>
    have hrefs : probeRefs (resolvableProbe table ns spec) = (probeRefs spec).resolvable table ns := rfl
    rw [answeredBy_probeOutcome (hjob.trans h), answeredBy_probeOutcome h, hrefs, drops_resolvable,
      AuthRefs.client_resolvable]

theorem answeredBy_httpDiscoveries_resolvable (hs : List HttpTargets) (i : Nat) :
    (httpDiscoveries name ns i (hs.map (resolvableHttp table ns))).answeredBy table =
      (((httpDiscoveries name ns i hs).answeredBy table).1, []) := by
  induction hs generalizing i with
  | nil => rfl
  | cons h hs ih =>
    have hsame : (resolvableHttp table ns h).refreshInterval = h.refreshInterval := rfl
    rw [List.map_cons]
    cases hrefresh : optionalDuration h.refreshInterval with
    | error e =>
      rw [httpDiscoveries, hsame, hrefresh, httpDiscoveries, hrefresh]
      rfl
    | ok refresh =>
      have hrefs : httpRefs (resolvableHttp table ns h) = (httpRefs h).resolvable table ns := rfl
      rw [answeredBy_httpDiscoveries_cons (hsame ▸ hrefresh), answeredBy_httpDiscoveries_cons hrefresh, ih,
        hrefs, drops_resolvable, AuthRefs.client_resolvable]
      rfl

theorem answeredBy_scrapeOutcome_resolvable (spec : ScrapeSpec) :
    (scrapeOutcome settings ns name (resolvableScrape table ns spec)).answeredBy table =
      (((scrapeOutcome settings ns name spec).answeredBy table).1, []) := by
  have hjob : scrapeJob settings name (resolvableScrape table ns spec) = scrapeJob settings name spec := rfl
  cases h : scrapeJob settings name spec with
  | error e =>
    rw [scrapeOutcome, hjob, h, scrapeOutcome, h]
    rfl
  | ok base =>
    have hrefs : scrapeRefs (resolvableScrape table ns spec) = (scrapeRefs spec).resolvable table ns := rfl
    have hhttp : (resolvableScrape table ns spec).http = spec.http.map (resolvableHttp table ns) := rfl
    rw [answeredBy_scrapeOutcome (hjob.trans h), answeredBy_scrapeOutcome h, hrefs, drops_resolvable,
      AuthRefs.client_resolvable, hhttp, answeredBy_httpDiscoveries_resolvable]
    obtain ⟨http, warnings⟩ := (httpDiscoveries name ns 0 spec.http).answeredBy table
    cases http <;> rfl

/-- Numbered parts come to the same if each one does. -/
theorem answered_numbered {α : Type} (key : String) (make : String → α → Lookup Outcome) (change : α → α)
    (as : List α) (h : ∀ name a,
      (make name (change a)).answeredBy table = (((make name a).answeredBy table).1, [])) :
    (((as.map change).mapIdx fun i a => (key ++ "/" ++ toString i, make (key ++ "/" ++ toString i) a)).map
        fun p => (p.1, p.2.answeredBy table)) =
      (as.mapIdx fun i a => (key ++ "/" ++ toString i, make (key ++ "/" ++ toString i) a)).map
        fun p => (p.1, (p.2.answeredBy table).1, []) := by
  rw [List.mapIdx_eq_zipIdx_map, List.mapIdx_eq_zipIdx_map, List.zipIdx_map, List.map_map, List.map_map,
    List.map_map]
  exact List.map_congr_left fun (a, i) _ => congrArg (Prod.mk (key ++ "/" ++ toString i)) (h _ a)

/-- Part by part, the monitor without what fails comes to the same, and it is warned of no reference. -/
theorem answered_parts (settings : Settings) (table : ValueKey → Answer) (m : Monitor) :
    ((parts settings (resolvable table m)).map fun p => (p.1, p.2.answeredBy table)) =
      (parts settings m).map fun p => (p.1, (p.2.answeredBy table).1, []) := by
  obtain ⟨metadata, spec⟩ := m
  let ns := metadata.namespaceText
  cases spec with
  | service spec =>
    exact answered_numbered (Monitor.jobKey ⟨metadata, .service spec⟩)
      (fun name e => serviceEndpoint settings ns name spec e)
      (resolvableEndpoint table ns Monitor.FileTlsConfig.material) spec.endpoints
      fun name e => answeredBy_finishEndpoint_resolvable Monitor.FileTlsConfig.material e _ _ _
        fun c hc => addFiles_kept hc
  | pod spec =>
    refine answered_numbered (Monitor.jobKey ⟨metadata, .pod spec⟩)
      (fun name e => podEndpoint settings ns metadata.displayName name spec e)
      (resolvableEndpoint table ns id) spec.endpoints fun name e => ?_
    have hmap {o : Option TlsConfig} : o.map id = o := Option.map_id'
    rw [podEndpoint, podEndpoint, ← hmap (o := e.tlsConfig),
      ← hmap (o := (resolvableEndpoint table ns id e).tlsConfig)]
    exact answeredBy_finishEndpoint_resolvable id e id id _ fun c _ => rfl
  | probe spec => exact congrArg (fun o => [(_, o)]) (answeredBy_probeOutcome_resolvable spec)
  | scrape spec => exact congrArg (fun o => [(_, o)]) (answeredBy_scrapeOutcome_resolvable spec)

end Outcomes

/-! ## Labels -/

section Labels

/-- If only one of some members that are told apart has anything of what is looked for, it is all from there. -/
theorem filter_flatMap_of_nodup {α β γ : Type} {key : α → γ} {as : List α} (hnodup : (as.map key).Nodup)
    {a : α} (ha : a ∈ as) {g : α → List β} {p : β → Bool}
    (hothers : ∀ b ∈ as, key b ≠ key a → (g b).filter p = []) :
    (as.flatMap g).filter p = (g a).filter p := by
  obtain ⟨before, after, rfl⟩ := List.append_of_mem ha
  rw [List.map_append, List.map_cons, List.nodup_middle, List.nodup_cons] at hnodup
  -- the others stand before it and behind it
  have hnil (bs : List α) (hbs : bs ⊆ before ++ after) (hmem : bs ⊆ before ++ a :: after) :
      (bs.flatMap fun b => (g b).filter p) = [] := by
    refine List.flatMap_eq_nil_iff.2 fun b hb => hothers b (hmem hb) fun hkey => hnodup.1 ?_
    rw [← List.map_append, ← hkey]
    exact List.mem_map_of_mem (hbs hb)
  rw [List.filter_flatMap, List.flatMap_append, List.flatMap_cons, hnil before (by simp) (by simp),
    hnil after (by simp) (by simp), List.nil_append, List.append_nil]

variable {m : Monitor} {name name' : String} {places places' : List Site}

/-- A scrape config is one part. -/
theorem mem_sites_scrape {spec : ScrapeSpec} (hspec : m.spec = .scrape spec) (h : (name, places) ∈ sites m) :
    name = m.jobKey ∧ places = httpSites m.jobKey 0 spec.http ++ [⟨m.jobKey, scrapeRefs spec⟩] := by
  rw [sites, hspec] at h
  exact Prod.mk.inj (List.mem_singleton.1 h)

/-- All other parts have one place, with the name of the part. -/
theorem places_of_mem (h : (name, places) ∈ sites m) :
    (∃ refs, places = [⟨name, refs⟩]) ∨ ∃ spec, m.spec = .scrape spec := by
  unfold sites at h
  split at h
  · obtain ⟨i, hi, heq⟩ := List.mem_mapIdx.1 h
    obtain ⟨rfl, rfl⟩ := Prod.mk.inj heq
    exact .inl ⟨_, rfl⟩
  · obtain ⟨i, hi, heq⟩ := List.mem_mapIdx.1 h
    obtain ⟨rfl, rfl⟩ := Prod.mk.inj heq
    exact .inl ⟨_, rfl⟩
  · obtain ⟨rfl, rfl⟩ := Prod.mk.inj (List.mem_singleton.1 h)
    exact .inl ⟨_, rfl⟩
  · rename_i spec hspec
    exact .inr ⟨spec, hspec⟩

theorem label_inj {i j : Nat}
    (h : name ++ "/httpSDConfigs/" ++ toString i = name ++ "/httpSDConfigs/" ++ toString j) : i = j := by
  have hslash : "/httpSDConfigs/" = "/httpSDConfigs" ++ "/" := rfl
  rw [hslash, ← String.append_assoc] at h
  exact numbered_inj h

theorem label_ne_name (i : Nat) : name ++ "/httpSDConfigs/" ++ toString i ≠ name := by
  intro h
  have hlength := congrArg String.length h
  rw [String.length_append, String.length_append] at hlength
  have hpositive : 0 < "/httpSDConfigs/".length := by decide
  omega

/-- Different places of a part have different labels. -/
theorem nodup_labels (h : (name, places) ∈ sites m) : (places.map (·.label)).Nodup := by
  rcases places_of_mem h with ⟨refs, rfl⟩ | ⟨spec, hspec⟩
  · exact List.nodup_singleton _
  · obtain ⟨-, rfl⟩ := mem_sites_scrape hspec h
    have hlabels : (httpSites m.jobKey 0 spec.http).map (·.label) =
        (List.range' 0 spec.http.length).map fun j => m.jobKey ++ "/httpSDConfigs/" ++ toString j := by
      rw [← List.zipIdx_map_snd, List.map_map, httpSites, List.map_map]
      rfl
    rw [List.map_append, hlabels, List.nodup_append]
    refine ⟨(List.nodup_range' 1).map fun i j hij => label_inj hij, List.nodup_singleton _, ?_⟩
    intro label hlabel name hname
    obtain ⟨i, _, rfl⟩ := List.mem_map.1 hlabel
    obtain rfl := List.mem_singleton.1 hname
    exact label_ne_name i

/-- A label belongs to one part. -/
theorem name_eq_of_label {site site' : Site} (h : (name, places) ∈ sites m)
    (h' : (name', places') ∈ sites m) (hsite : site ∈ places) (hsite' : site' ∈ places')
    (hlabel : site.label = site'.label) : name = name' := by
  have hscrape {spec : ScrapeSpec} (hspec : m.spec = .scrape spec) : name = name' :=
    (mem_sites_scrape hspec h).1.trans (mem_sites_scrape hspec h').1.symm
  rcases places_of_mem h with ⟨refs, rfl⟩ | ⟨spec, hspec⟩
  · rcases places_of_mem h' with ⟨refs', rfl⟩ | ⟨spec, hspec⟩
    · obtain rfl := List.mem_singleton.1 hsite
      obtain rfl := List.mem_singleton.1 hsite'
      exact hlabel
    · exact hscrape hspec
  · exact hscrape hspec

end Labels

/-! ## Monitors -/

namespace Warning

/-- The warning is about a skipped part. -/
def isSkip : Warning → Bool
  | .skipped _ _ _ => true
  | .dropped _ _ _ => false

/-- The warning is about a field in the place of this label. -/
def isDropAt (label : String) : Warning → Bool
  | .skipped _ _ _ => false
  | .dropped job _ _ => job == label

end Warning

/-- What is warned of where a part was not made. -/
def skips (kind : Kind) (name : String) : Except JobError ScrapeJob → List Warning
  | .ok _ => []
  | .error e => [.skipped kind name e]

section Monitors

variable {settings : Settings} {table : ValueKey → Answer} {m : Monitor}

theorem warnings_runParts (kind : Kind) (ps : List (String × Lookup Outcome)) :
    ((runParts kind ps).answeredBy table).2 = ps.flatMap fun p =>
      (p.2.answeredBy table).2 ++ skips kind p.1 (p.2.answeredBy table).1 := by
  induction ps with
  | nil => rfl
  | cons p ps ih =>
    obtain ⟨name, part⟩ := p
    rw [runParts, Lookup.answeredBy_bind, List.flatMap_cons, ← ih]
    dsimp only
    obtain ⟨outcome, warnings⟩ := part.answeredBy table
    dsimp only
    rw [Lookup.answeredBy_bind, List.append_assoc]
    cases outcome <;> rfl

section Part

variable {ns : String} {places : List Site} {outcome : Outcome}

/-- What a part warns of is about a field in one of its places. -/
theorem Emits.exists_site (h : Emits table ns places outcome) {w : Warning} (hw : w ∈ outcome.2) :
    ∃ site ∈ places, w ∈ site.drops table ns :=
  List.mem_flatMap.1 (h.sublist.mem hw)

theorem isSkip_of_mem_drops {site : Site} {w : Warning} (h : w ∈ site.drops table ns) : w.isSkip = false := by
  obtain ⟨_, _, rfl⟩ := List.mem_map.1 h
  rfl

theorem isDropAt_of_mem_drops {site : Site} {w : Warning} (h : w ∈ site.drops table ns) (label : String) :
    w.isDropAt label = (site.label == label) := by
  obtain ⟨_, _, rfl⟩ := List.mem_map.1 h
  rfl

theorem filter_isSkip_skips (kind : Kind) (name : String) (made : Except JobError ScrapeJob) :
    (skips kind name made).filter (·.isSkip) = skips kind name made := by
  cases made <;> rfl

theorem filter_isDropAt_skips (label : String) (kind : Kind) (name : String)
    (made : Except JobError ScrapeJob) : (skips kind name made).filter (·.isDropAt label) = [] := by
  cases made <;> rfl

theorem Emits.filter_isSkip (h : Emits table ns places outcome) : outcome.2.filter (·.isSkip) = [] := by
  refine List.filter_eq_nil_iff.2 fun w hw => ?_
  obtain ⟨site, _, hdrop⟩ := h.exists_site hw
  simp [isSkip_of_mem_drops hdrop]

/-- Under a label that none of its places has a part warns of nothing. -/
theorem Emits.filter_isDropAt_of_ne (h : Emits table ns places outcome) {label : String}
    (hne : ∀ site ∈ places, site.label ≠ label) : outcome.2.filter (·.isDropAt label) = [] := by
  refine List.filter_eq_nil_iff.2 fun w hw => ?_
  obtain ⟨site, hsite, hdrop⟩ := h.exists_site hw
  simp [isDropAt_of_mem_drops hdrop, hne site hsite]

/-- Under the label of one of its places a part that was made warns of what fails there. -/
theorem Emits.filter_isDropAt (h : Emits table ns places outcome) (hnodup : (places.map (·.label)).Nodup)
    {job : ScrapeJob} (hmade : outcome.1 = .ok job) {site : Site} (hsite : site ∈ places) :
    outcome.2.filter (·.isDropAt site.label) = site.drops table ns := by
  rw [h.made job hmade, filter_flatMap_of_nodup hnodup hsite fun other _ hne => ?_]
  · exact List.filter_eq_self.2 fun w hw => by simp [isDropAt_of_mem_drops hw]
  · exact List.filter_eq_nil_iff.2 fun w hw => by simp [isDropAt_of_mem_drops hw, hne]

end Part

/-- The jobs are the same without what fails, and it is warned of the parts that are skipped. -/
theorem answeredBy_jobs_resolvable (settings : Settings) (table : ValueKey → Answer) (m : Monitor) :
    (jobs settings (resolvable table m)).answeredBy table =
      (((jobs settings m).answeredBy table).1, ((jobs settings m).answeredBy table).2.filter (·.isSkip)) := by
  have hkind : (resolvable table m).kind = m.kind := by
    obtain ⟨metadata, spec⟩ := m
    cases spec <;> rfl
  have hparts := answered_parts settings table m
  refine Prod.ext ?_ ?_
  · have hmade := congrArg (List.filterMap fun p => p.2.1.toOption) hparts
    rw [List.filterMap_map, List.filterMap_map] at hmade
    rw [jobs, runParts_answeredBy, jobs, runParts_answeredBy]
    exact hmade
  · have hwarned := congrArg (List.flatMap fun p => p.2.2 ++ skips m.kind p.1 p.2.1) hparts
    rw [List.flatMap_map, List.flatMap_map] at hwarned
    rw [jobs, warnings_runParts, hkind, jobs, warnings_runParts, List.filter_flatMap, hwarned]
    refine List.flatMap_congr fun p hp => ?_
    obtain ⟨places, _, hemits⟩ := emits_part table hp
    rw [List.filter_append, hemits.filter_isSkip, filter_isSkip_skips]

/-- Each job was made by a part of its name, and under the labels of its places it is warned of what fails
there. -/
theorem drops_of_job {job : ScrapeJob} (hjob : job ∈ ((jobs settings m).answeredBy table).1) :
    ∃ places, (job.name, places) ∈ sites m ∧ ∀ site ∈ places,
      ((jobs settings m).answeredBy table).2.filter (·.isDropAt site.label) =
        site.drops table m.namespaceText := by
  rw [jobs, runParts_answeredBy] at hjob
  obtain ⟨part, hpart, hmade⟩ := List.mem_filterMap.1 hjob
  have hok : (part.2.answeredBy table).1 = .ok job := by
    cases h : (part.2.answeredBy table).1 with
    | ok made => exact congrArg Except.ok (Option.some.inj ((congrArg Except.toOption h).symm.trans hmade))
    | error e => cases (congrArg Except.toOption h).symm.trans hmade
  have hname : job.name = part.1 := by
    have hyields : part.2.Yields (.ok job, (part.2.answeredBy table).2) :=
      hok ▸ Lookup.yields_answered _ part.2
    obtain ⟨base, hbase, hcompletes⟩ := base_of_part hpart hyields
    rw [hcompletes.name, hbase.name_eq]
  obtain ⟨places, hplaces, hemits⟩ := emits_part table hpart
  refine ⟨places, hname ▸ hplaces, fun site hsite => ?_⟩
  rw [jobs, warnings_runParts, filter_flatMap_of_nodup (nodup_partNames settings m) hpart]
  · rw [List.filter_append, filter_isDropAt_skips, List.append_nil]
    exact hemits.filter_isDropAt (nodup_labels hplaces) hok hsite
  · intro other hother hne
    obtain ⟨places', hplaces', hemits'⟩ := emits_part table hother
    rw [List.filter_append, filter_isDropAt_skips, List.append_nil]
    refine hemits'.filter_isDropAt_of_ne fun site' hsite' hlabel => hne ?_
    exact name_eq_of_label hplaces' hplaces hsite' hsite hlabel

/-- Whatever it is warned of is a skipped part or a field that fails in some place. -/
theorem skip_or_drop {w : Warning} (hw : w ∈ ((jobs settings m).answeredBy table).2) :
    w.isSkip ∨ ∃ part ∈ sites m, ∃ site ∈ part.2, w ∈ site.drops table m.namespaceText := by
  rw [jobs, warnings_runParts] at hw
  obtain ⟨part, hpart, hw⟩ := List.mem_flatMap.1 hw
  obtain ⟨places, hplaces, hemits⟩ := emits_part table hpart
  rcases List.mem_append.1 hw with hw | hw
  · obtain ⟨site, hsite, hdrop⟩ := hemits.exists_site hw
    exact .inr ⟨_, hplaces, site, hsite, hdrop⟩
  · rw [← filter_isSkip_skips] at hw
    exact .inl (List.mem_filter.1 hw).2

/-- **A broken credential drops only its own field.** A monitor has the same jobs as the monitor without the
references that fail to resolve, whether those are made instead of its own or after them; and the same parts
are skipped, for the same reasons. Of each job there are warnings, in each of its places, of just the fields
that fail there, each once and in their order. There are no other warnings but those of skipped parts and
of fields that fail. -/
theorem jobs_without_failing (settings : Settings) (m : Monitor) (source : ObjectKey → Fetched) (s : Store) :
    let made := (jobs settings m).run source s
    let rest := jobs settings (resolvable (s.now source) m)
    (rest.run source s).2 = (made.2.1, made.2.2.filter (·.isSkip)) ∧
      (rest.run source made.1).2 = (made.2.1, made.2.2.filter (·.isSkip)) ∧
      (∀ job ∈ made.2.1, ∃ places, (job.name, places) ∈ sites m ∧ ∀ site ∈ places,
        made.2.2.filter (·.isDropAt site.label) = site.drops (s.now source) m.namespaceText) ∧
      ∀ w ∈ made.2.2, w.isSkip ∨
        ∃ part ∈ sites m, ∃ site ∈ part.2, w ∈ site.drops (s.now source) m.namespaceText := by
  intro made rest
  have hmade : made.2 = (jobs settings m).answeredBy (s.now source) := Lookup.run_eq_answeredBy _
  have hafter : (rest.run source made.1).2 = rest.answeredBy (s.now source) := by
    rw [Lookup.run_eq_answeredBy, Lookup.now_run]
  rw [Lookup.run_eq_answeredBy, hafter, hmade]
  exact ⟨answeredBy_jobs_resolvable _ _ _, answeredBy_jobs_resolvable _ _ _, fun _ => drops_of_job,
    fun _ => skip_or_drop⟩

end Monitors

/-- A service monitor that has a bearer token and much that is not to be found: a password, the credentials
of a header, and a certificate that goes with a key file. -/
def halfBroken : Monitor where
  metadata := { name := some "web", namespaceName := some "shop" }
  spec := .service {
    endpoints := [{
      port := some "http"
      tlsConfig := some {
        material := { ca := some { configMap := some { name := "trust", key := "ca" } } }
        keyFile := some "/etc/key" }
      scrape := {
        basicAuth := some {
          username := some { name := "account", key := "user" }
          password := some { name := "account", key := "password" } }
        bearerTokenSecret := some { name := "account", key := "token" }
        authorization := some { credentials := some { name := "header", key := "value" } } } }] }

/-- The source has the secret with the user name and the token. -/
def accountOnly (id : ObjectKey) : Fetched :=
  if id = ("shop", "account") then
    .present {
      metadata := { name := some "account", namespaceName := some "shop" }
      stringData := some (.ofList [("user", "ann"), ("token", "sesame")]) }
  else .absent

/-- The job keeps the token, which the header would have replaced, and the key file goes with the
certificate. -/
theorem jobs_without_failing_halfBroken :
    let made := (jobs {} halfBroken).run accountOnly {}
    ((jobs {} (resolvable (Store.now accountOnly {}) halfBroken)).run accountOnly {}).2 = (made.2.1, []) ∧
      made.2.1.map (fun job => (job.name, job.client)) =
        [("serviceMonitor/shop/web/0", { authorization := some (.bearer "sesame") })] ∧
      made.2.2 = [
        .dropped "serviceMonitor/shop/web/0" .basicAuth (.keyNotFound "shop" "account" "password"),
        .dropped "serviceMonitor/shop/web/0" .authorization (.secretNotFound "shop" "header"),
        .dropped "serviceMonitor/shop/web/0" .tlsConfig (.configMap "shop" "trust")] := by
  have hskips : ((jobs {} halfBroken).run accountOnly {}).2.2.filter (·.isSkip) = [] := by decide +kernel
  refine ⟨?_, by decide +kernel, by decide +kernel⟩
  rw [← hskips]
  exact (jobs_without_failing {} halfBroken accountOnly {}).1

end ScrapeFleet.Generate
