/-
# ScrapeFleet.Generate.Single — jobs of probes and scrape configs

One job for each. A probe scrapes its prober and hands it the target as a parameter; a fixed list of
targets wins over ingresses. A scrape config says almost what its job says.
-/
import ScrapeFleet.Generate.Relabeling
import ScrapeFleet.Generate.Shared
import ScrapeFleet.Monitor.Spec

namespace ScrapeFleet.Generate

open Credential (Lookup)
open Job (HttpDiscovery StaticTargets)
open Monitor (ProbeSpec ProbeList ProbeIngress Prober ScrapeSpec HttpTargets)
open Relabel (Rule)

/-- The job label, if the monitor names one. -/
def namedJob (name : Option String) : List Rule := ((filled name).map (setLabel "job")).toList

/-! ## Probes -/

/-- The path of a prober that names none. -/
def defaultProberPath : String := "/probe"

/-- The probed target becomes the instance, and what is scraped is the prober. -/
def proberRules (p : Prober) : List Rule :=
  [.replace ["__param_target"] "instance", setLabel "__address__" p.url]

/-- The job with a fixed list of probed targets. -/
def probeList (ns : String) (p : Prober) (base : ScrapeJob) (targets : ProbeList) :
    Except JobError ScrapeJob := do
  let own ← relabelings targets.relabelings
  return { base with
    static := [⟨targets.targets, targets.labels.insert "namespace" ns⟩]
    relabel := base.relabel ++ [.replace ["__address__"] "__param_target"] ++ proberRules p ++ own }

/-- The rules that turn an ingress into a probed target. -/
def ingressRules : List Rule :=
  [{ Rule.replace ["__meta_kubernetes_ingress_scheme", "__address__", "__meta_kubernetes_ingress_path"]
      "__param_target" with
      separator := some ";"
      regex := some "(.+);(.+);(.+)"
      replacement := some "$\x7b1\x7d://$\x7b2\x7d$\x7b3\x7d" },
    .replace ["__meta_kubernetes_namespace"] "namespace",
    .replace ["__meta_kubernetes_ingress_name"] "ingress"]

/-- The job whose probed targets are ingresses. -/
def probeIngress (ns : String) (p : Prober) (base : ScrapeJob) (i : ProbeIngress) :
    Except JobError ScrapeJob := do
  let own ← relabelings i.relabelings
  return { base with
    kubernetes := [discovery .ingress ns i.namespaces]
    relabel := base.relabel ++ selectorRules "__meta_kubernetes_ingress" i.selector ++ ingressRules
      ++ proberRules p ++ own }

/-- The job of a probe but for its client, with its prober. -/
def probeJob (settings : Settings) (ns name : String) (spec : ProbeSpec) :
    Except JobError (ScrapeJob × Prober) := do
  let some prober := spec.prober.filter (!·.url.isEmpty) | throw .missingProber
  let (interval, timeout) ← intervals settings spec.interval spec.scrapeTimeout
  let metricRules ← metricRelabelings spec.metricRelabelings
  let base : ScrapeJob := {
    name := name
    scrapeInterval := some interval
    scrapeTimeout := some timeout
    metricsPath := some ((filled prober.path).getD defaultProberPath)
    scheme := prober.scheme
    params := .ofList ((filled spec.proberModule).map fun m => ("module", [m])).toList
    sampleLimit := spec.sampleLimit
    targetLimit := spec.targetLimit
    relabel := namedJob spec.jobName
    metricRelabel := metricRules }
  match spec.targets.static.filter (!·.targets.isEmpty), spec.targets.ingress with
  | some targets, _ => return (← probeList ns prober base targets, prober)
  | none, some ingress => return (← probeIngress ns prober base ingress, prober)
  | none, none => throw .missingTargets

/-- The outcome for a probe. -/
def probeOutcome (settings : Settings) (ns name : String) (spec : ProbeSpec) : Lookup Outcome :=
  match probeJob settings ns name spec with
  | .error e => return (.error e, [])
  | .ok (job, prober) => do
    let (client, warnings) ← httpClient name ns {
      basicAuth := spec.basicAuth
      bearerToken := spec.bearerTokenSecret
      authorization := spec.authorization
      oauth2 := spec.oauth2
      tls := spec.tlsConfig }
    return (.ok { job with
      client := { client with proxyUrl := prober.proxyUrl }
      relabel := job.relabel ++ shardRules settings.shards }, warnings)

/-! ## Scrape configs -/

/-- HTTP discovery for one endpoint of a scrape config. -/
def httpDiscovery (job ns : String) (h : HttpTargets) (refreshInterval : Option Duration) :
    Lookup (HttpDiscovery × List Warning) := do
  let (client, warnings) ← httpClient job ns {
    basicAuth := h.basicAuth, authorization := h.authorization, tls := h.tlsConfig }
  return (⟨h.url, refreshInterval, { client with proxyUrl := h.proxyUrl }⟩, warnings)

/-- HTTP discovery for the endpoints from number `i` on. The credentials of an endpoint are asked for
before the next endpoint is looked at, so they are asked for even if that one is faulty. -/
def httpDiscoveries (job ns : String) (i : Nat) :
    List HttpTargets → Lookup (Except JobError (List HttpDiscovery) × List Warning)
  | [] => return (.ok [], [])
  | h :: hs =>
    match optionalDuration h.refreshInterval with
    | .error e => return (.error e, [])
    | .ok refresh => do
      let (d, w) ← httpDiscovery (job ++ "/httpSDConfigs/" ++ toString i) ns h refresh
      let (ds, ws) ← httpDiscoveries job ns (i + 1) hs
      return (ds.map (d :: ·), w ++ ws)

/-- The job of a scrape config but for its client and its HTTP discovery. -/
def scrapeJob (settings : Settings) (name : String) (spec : ScrapeSpec) : Except JobError ScrapeJob := do
  let (interval, timeout) ← intervals settings spec.scrapeInterval spec.scrapeTimeout
  let rules ← relabelings spec.relabelings
  let metricRules ← metricRelabelings spec.metricRelabelings
  return {
    name := name
    scrapeInterval := some interval
    scrapeTimeout := some timeout
    metricsPath := spec.metricsPath
    scheme := spec.scheme
    params := spec.params
    honorLabels := spec.honorLabels
    honorTimestamps := spec.honorTimestamps
    sampleLimit := spec.sampleLimit
    targetLimit := spec.targetLimit
    static := spec.static
    relabel := namedJob spec.jobName ++ rules
    metricRelabel := metricRules }

/-- The outcome for a scrape config. -/
def scrapeOutcome (settings : Settings) (ns name : String) (spec : ScrapeSpec) : Lookup Outcome :=
  match scrapeJob settings name spec with
  | .error e => return (.error e, [])
  | .ok job => do
    match ← httpDiscoveries name ns 0 spec.http with
    | (.error e, warnings) => return (.error e, warnings)
    | (.ok http, warnings) =>
      let (client, more) ← httpClient name ns {
        basicAuth := spec.basicAuth
        authorization := spec.authorization
        oauth2 := spec.oauth2
        tls := spec.tlsConfig }
      return (.ok { job with
        http := http
        client := { client with
          proxyUrl := spec.proxyUrl
          followRedirects := spec.followRedirects
          enableHttp2 := spec.enableHttp2 }
        relabel := job.relabel ++ shardRules settings.shards }, warnings ++ more)

end ScrapeFleet.Generate
