/-
# ScrapeFleet.Generate.Endpoints — jobs of service monitors and pod monitors

One job for each endpoint. Intervals and rules are checked before any credential is asked for, so an
endpoint that is no job asks for nothing. Rules come in a fixed order: what the monitor selects, the
port, labels of the target, labels that the monitor copies, the job label, the endpoint label, and last
the rules that the endpoint brings.
-/
import ScrapeFleet.Generate.Relabeling
import ScrapeFleet.Generate.Shared
import ScrapeFleet.Monitor.Spec

namespace ScrapeFleet.Generate

open Credential (Lookup)
open Job (HttpClient Role)
open Monitor (ServiceSpec PodSpec Endpoint FileTlsConfig PortTarget ScrapeSettings)
open Relabel (Rule)

/-! ## What both kinds have -/

/-- The port of an endpoint: the rule that keeps it and the value of the endpoint label. A named port
of the endpoint itself is seen under the label `portLabel`. -/
def portRule (portLabel : String) (port : Option String) (target : Option PortTarget) :
    Except JobError (Rule × String) :=
  match port, target with
  | some name, _ => .ok (.keep [portLabel] name, name)
  | none, some (.number n) =>
    .ok (.keep ["__meta_kubernetes_pod_container_port_number"] (toString n), toString n)
  | none, some (.name s) => .ok (.keep ["__meta_kubernetes_pod_container_port_name"] s, s)
  | none, none => .error .missingPort

/-- The credentials of an endpoint. -/
def endpointRefs (s : ScrapeSettings) (tls : Option Monitor.TlsConfig) : AuthRefs where
  basicAuth := s.basicAuth
  bearerToken := s.bearerTokenSecret
  authorization := s.authorization
  oauth2 := s.oauth2
  tls := tls

/-- The job of an endpoint but for its client, from a job that has the rules of the monitor. -/
def applyScrape (settings : Settings) (base : ScrapeJob) (s : ScrapeSettings) :
    Except JobError ScrapeJob := do
  let (interval, timeout) ← intervals settings s.interval s.scrapeTimeout
  let rules ← relabelings s.relabelings
  let metricRules ← metricRelabelings s.metricRelabelings
  return { base with
    scrapeInterval := some interval
    scrapeTimeout := some timeout
    metricsPath := s.path
    scheme := s.scheme
    params := s.params
    honorLabels := s.honorLabels
    honorTimestamps := s.honorTimestamps
    relabel := base.relabel ++ rules
    metricRelabel := metricRules }

/-- Completes the job of an endpoint: its client, as `adjust` leaves it, and the rules for shards. -/
def finishEndpoint (settings : Settings) (ns : String) (s : ScrapeSettings)
    (tls : Option Monitor.TlsConfig) (adjust : HttpClient → HttpClient)
    (job : Except JobError ScrapeJob) : Lookup Outcome :=
  match job with
  | .error e => return (.error e, [])
  | .ok job => do
    let (client, warnings) ← httpClient job.name ns (endpointRefs s tls)
    let client := { adjust client with
      proxyUrl := s.proxyUrl
      followRedirects := s.followRedirects
      enableHttp2 := s.enableHttp2 }
    return (.ok { job with
      client := client
      relabel := job.relabel ++ shardRules settings.shards }, warnings)

/-! ## Service monitors -/

/-- A rule that names the node or pod behind an endpoint. -/
def ownerRule (stem kind label : String) : Rule :=
  { Rule.replace [stem ++ "_address_target_kind", stem ++ "_address_target_name"] label with
    separator := some ";"
    regex := some (kind ++ ";(.*)")
    replacement := some firstGroup }

/-- The rules of a service monitor for one of its ports. -/
def serviceRules (stem : String) (spec : ServiceSpec) (port : Rule) (endpoint : String) : List Rule :=
  selectorRules "__meta_kubernetes_service" spec.selector
    ++ [port, ownerRule stem "Node" "node", ownerRule stem "Pod" "pod",
      .replace ["__meta_kubernetes_namespace"] "namespace",
      .replace ["__meta_kubernetes_service_name"] "service",
      .replace ["__meta_kubernetes_pod_name"] "pod",
      .replace ["__meta_kubernetes_pod_container_name"] "container"]
    ++ copyLabels "__meta_kubernetes_service" spec.targetLabels
    ++ copyLabels "__meta_kubernetes_pod" spec.podTargetLabels
    ++ [.replace ["__meta_kubernetes_service_name"] "job"]
    ++ jobLabelRule "__meta_kubernetes_service" spec.jobLabel
    ++ [setLabel "endpoint" endpoint]

/-- The job of an endpoint of a service monitor, but for its client. -/
def serviceJob (settings : Settings) (ns name : String) (spec : ServiceSpec)
    (e : Endpoint FileTlsConfig) : Except JobError ScrapeJob := do
  let stem := settings.role.metaPrefix
  let (port, label) ← portRule (stem ++ "_port_name") e.port e.targetPort
  applyScrape settings
    { name := name
      kubernetes := [discovery settings.role ns spec.namespaces]
      sampleLimit := spec.sampleLimit
      targetLimit := spec.targetLimit
      relabel := serviceRules stem spec port label }
    e.scrape

/-- Adds the files of TLS settings, where there are TLS settings. -/
def addFiles (files : Option FileTlsConfig) (c : HttpClient) : HttpClient :=
  match files, c.tlsConfig with
  | some f, some t =>
    { c with tlsConfig := some { t with
        caFile := f.caFile, certFile := f.certFile, keyFile := f.keyFile } }
  | _, _ => c

/-- The outcome for an endpoint of a service monitor. -/
def serviceEndpoint (settings : Settings) (ns name : String) (spec : ServiceSpec)
    (e : Endpoint FileTlsConfig) : Lookup Outcome :=
  finishEndpoint settings ns e.scrape (e.tlsConfig.map (·.material)) (addFiles e.tlsConfig)
    (serviceJob settings ns name spec e)

/-! ## Pod monitors -/

/-- The rules of the pod monitor `owner` for one of its ports. -/
def podRules (owner : String) (spec : PodSpec) (port : Rule) (endpoint : String) : List Rule :=
  selectorRules "__meta_kubernetes_pod" spec.selector
    ++ [port,
      .replace ["__meta_kubernetes_namespace"] "namespace",
      .replace ["__meta_kubernetes_pod_container_name"] "container",
      .replace ["__meta_kubernetes_pod_name"] "pod"]
    ++ copyLabels "__meta_kubernetes_pod" spec.podTargetLabels
    ++ [setLabel "job" owner]
    ++ jobLabelRule "__meta_kubernetes_pod" spec.jobLabel
    ++ [setLabel "endpoint" endpoint]

/-- The job of an endpoint of a pod monitor, but for its client. -/
def podJob (settings : Settings) (ns owner name : String) (spec : PodSpec)
    (e : Endpoint Monitor.TlsConfig) : Except JobError ScrapeJob := do
  let (port, label) ← portRule "__meta_kubernetes_pod_container_port_name" e.port e.targetPort
  applyScrape settings
    { name := name
      kubernetes := [discovery .pod ns spec.namespaces]
      sampleLimit := spec.sampleLimit
      targetLimit := spec.targetLimit
      relabel := podRules (ns ++ "/" ++ owner) spec port label }
    e.scrape

/-- The outcome for an endpoint of the pod monitor `owner`. -/
def podEndpoint (settings : Settings) (ns owner name : String) (spec : PodSpec)
    (e : Endpoint Monitor.TlsConfig) : Lookup Outcome :=
  finishEndpoint settings ns e.scrape e.tlsConfig id (podJob settings ns owner name spec e)

end ScrapeFleet.Generate
