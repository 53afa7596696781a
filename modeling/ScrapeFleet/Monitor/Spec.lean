/-
# ScrapeFleet.Monitor.Spec — the four kinds of monitor

What each kind of monitor says: which targets it means, how they are scraped, and the limits.
-/
import ScrapeFleet.Monitor.Endpoint
import ScrapeFleet.Job.Discovery
import ScrapeFleet.Kind
import ScrapeFleet.Selector

namespace ScrapeFleet.Monitor

open Job (readDict StaticTargets)

/-! ## Service monitors -/

/-- Scrapes the endpoints of the services that a selector selects. -/
structure ServiceSpec where
  jobLabel : Option String := none
  targetLabels : List String := []
  podTargetLabels : List String := []
  endpoints : List (Endpoint FileTlsConfig) := []
  selector : Selector := {}
  namespaces : Option NamespaceChoice := none
  sampleLimit : Option Nat := none
  targetLimit : Option Nat := none
deriving DecidableEq, Repr, Inhabited

namespace ServiceSpec

def read (d : Doc) : Option ServiceSpec := do
  let fs ← d.fields? ["jobLabel", "targetLabels", "podTargetLabels", "endpoints", "selector",
    "namespaceSelector", "sampleLimit", "targetLimit"]
  return {
    jobLabel := ← fs.optional "jobLabel" Doc.text?
    targetLabels := ← fs.list "targetLabels" Doc.text?
    podTargetLabels := ← fs.list "podTargetLabels" Doc.text?
    endpoints := ← fs.list "endpoints" (Endpoint.read FileTlsConfig.read)
    selector := ← fs.withDefault "selector" {} Selector.read
    namespaces := ← fs.optional "namespaceSelector" NamespaceChoice.read
    sampleLimit := ← fs.optional "sampleLimit" (Doc.nat? 64)
    targetLimit := ← fs.optional "targetLimit" (Doc.nat? 64) }

def write (s : ServiceSpec) : Value := .record <|
  Value.optional "jobLabel" .text s.jobLabel
    ++ Value.unlessEmpty "targetLabels" .text s.targetLabels
    ++ Value.unlessEmpty "podTargetLabels" .text s.podTargetLabels
    ++ Value.field "endpoints" (.list (s.endpoints.map (Endpoint.write FileTlsConfig.write)))
    ++ Value.field "selector" s.selector.write
    ++ Value.optional "namespaceSelector" NamespaceChoice.write s.namespaces
    ++ Value.optional "sampleLimit" .nat s.sampleLimit
    ++ Value.optional "targetLimit" .nat s.targetLimit

end ServiceSpec

/-! ## Pod monitors -/

/-- Scrapes the pods that a selector selects. -/
structure PodSpec where
  jobLabel : Option String := none
  podTargetLabels : List String := []
  endpoints : List (Endpoint TlsConfig) := []
  selector : Selector := {}
  namespaces : Option NamespaceChoice := none
  sampleLimit : Option Nat := none
  targetLimit : Option Nat := none
deriving DecidableEq, Repr, Inhabited

namespace PodSpec

def read (d : Doc) : Option PodSpec := do
  let fs ← d.fields? ["jobLabel", "podTargetLabels", "podMetricsEndpoints", "selector",
    "namespaceSelector", "sampleLimit", "targetLimit"]
  return {
    jobLabel := ← fs.optional "jobLabel" Doc.text?
    podTargetLabels := ← fs.list "podTargetLabels" Doc.text?
    endpoints := ← fs.list "podMetricsEndpoints" (Endpoint.read TlsConfig.read)
    selector := ← fs.withDefault "selector" {} Selector.read
    namespaces := ← fs.optional "namespaceSelector" NamespaceChoice.read
    sampleLimit := ← fs.optional "sampleLimit" (Doc.nat? 64)
    targetLimit := ← fs.optional "targetLimit" (Doc.nat? 64) }

def write (s : PodSpec) : Value := .record <|
  Value.optional "jobLabel" .text s.jobLabel
    ++ Value.unlessEmpty "podTargetLabels" .text s.podTargetLabels
    ++ Value.field "podMetricsEndpoints" (.list (s.endpoints.map (Endpoint.write TlsConfig.write)))
    ++ Value.field "selector" s.selector.write
    ++ Value.optional "namespaceSelector" NamespaceChoice.write s.namespaces
    ++ Value.optional "sampleLimit" .nat s.sampleLimit
    ++ Value.optional "targetLimit" .nat s.targetLimit

end PodSpec

/-! ## Probes -/

/-- Where the prober listens. -/
structure Prober where
  url : String
  scheme : Option String := none
  path : Option String := none
  proxyUrl : Option String := none
deriving DecidableEq, Repr, Inhabited

namespace Prober

def read (d : Doc) : Option Prober := do
  let fs ← d.fields? ["url", "scheme", "path", "proxyUrl"]
  return {
    url := ← fs.required "url" Doc.text?
    scheme := ← fs.optional "scheme" Doc.text?
    path := ← fs.optional "path" Doc.text?
    proxyUrl := ← fs.optional "proxyUrl" Doc.text? }

def write (p : Prober) : Value := .record <|
  Value.field "url" (.text p.url)
    ++ Value.optional "scheme" .text p.scheme
    ++ Value.optional "path" .text p.path
    ++ Value.optional "proxyUrl" .text p.proxyUrl

end Prober

/-- A fixed list of probed targets. -/
structure ProbeList where
  targets : List String := []
  labels : Labels := .empty
  relabelings : List RelabelRule := []
deriving DecidableEq, Repr, Inhabited

namespace ProbeList

def read (d : Doc) : Option ProbeList := do
  let fs ← d.fields? ["static", "labels", "relabelingConfigs"]
  return {
    targets := ← fs.list "static" Doc.text?
    labels := ← fs.withDefault "labels" .empty (readDict Doc.text?)
    relabelings := ← fs.list "relabelingConfigs" RelabelRule.read }

def write (p : ProbeList) : Value := .record <|
  Value.field "static" (.texts p.targets)
    ++ Value.entries "labels" .text p.labels.toList
    ++ Value.unlessEmpty "relabelingConfigs" RelabelRule.write p.relabelings

end ProbeList

/-- Probed targets that are found as ingresses. -/
structure ProbeIngress where
  selector : Selector := {}
  namespaces : Option NamespaceChoice := none
  relabelings : List RelabelRule := []
deriving DecidableEq, Repr, Inhabited

namespace ProbeIngress

def read (d : Doc) : Option ProbeIngress := do
  let fs ← d.fields? ["selector", "namespaceSelector", "relabelingConfigs"]
  return {
    selector := ← fs.withDefault "selector" {} Selector.read
    namespaces := ← fs.optional "namespaceSelector" NamespaceChoice.read
    relabelings := ← fs.list "relabelingConfigs" RelabelRule.read }

def write (p : ProbeIngress) : Value := .record <|
  Value.field "selector" p.selector.write
    ++ Value.optional "namespaceSelector" NamespaceChoice.write p.namespaces
    ++ Value.unlessEmpty "relabelingConfigs" RelabelRule.write p.relabelings

end ProbeIngress

/-- What is probed. -/
structure ProbeTargets where
  static : Option ProbeList := none
  ingress : Option ProbeIngress := none
deriving DecidableEq, Repr, Inhabited

namespace ProbeTargets

def read (d : Doc) : Option ProbeTargets := do
  let fs ← d.fields? ["staticConfig", "ingress"]
  return {
    static := ← fs.optional "staticConfig" ProbeList.read
    ingress := ← fs.optional "ingress" ProbeIngress.read }

def write (t : ProbeTargets) : Value := .record <|
  Value.optional "staticConfig" ProbeList.write t.static
    ++ Value.optional "ingress" ProbeIngress.write t.ingress

end ProbeTargets

/-- Has a prober look at targets. -/
structure ProbeSpec where
  jobName : Option String := none
  prober : Option Prober := none
  proberModule : Option String := none
  targets : ProbeTargets := {}
  interval : Option String := none
  scrapeTimeout : Option String := none
  tlsConfig : Option TlsConfig := none
  bearerTokenSecret : Option SecretKey := none
  basicAuth : Option BasicAuth := none
  oauth2 : Option OAuth2 := none
  authorization : Option Authorization := none
  metricRelabelings : List RelabelRule := []
  sampleLimit : Option Nat := none
  targetLimit : Option Nat := none
deriving DecidableEq, Repr, Inhabited

namespace ProbeSpec

def read (d : Doc) : Option ProbeSpec := do
  let fs ← d.fields? ["jobName", "prober", "module", "targets", "interval", "scrapeTimeout",
    "tlsConfig", "bearerTokenSecret", "basicAuth", "oauth2", "authorization", "metricRelabelings",
    "sampleLimit", "targetLimit"]
  return {
    jobName := ← fs.optional "jobName" Doc.text?
    prober := ← fs.optional "prober" Prober.read
    proberModule := ← fs.optional "module" Doc.text?
    targets := ← fs.withDefault "targets" {} ProbeTargets.read
    interval := ← fs.optional "interval" Doc.text?
    scrapeTimeout := ← fs.optional "scrapeTimeout" Doc.text?
    tlsConfig := ← fs.optional "tlsConfig" TlsConfig.read
    bearerTokenSecret := ← fs.optional "bearerTokenSecret" SecretKey.read
    basicAuth := ← fs.optional "basicAuth" BasicAuth.read
    oauth2 := ← fs.optional "oauth2" OAuth2.read
    authorization := ← fs.optional "authorization" Authorization.read
    metricRelabelings := ← fs.list "metricRelabelings" RelabelRule.read
    sampleLimit := ← fs.optional "sampleLimit" (Doc.nat? 64)
    targetLimit := ← fs.optional "targetLimit" (Doc.nat? 64) }

def write (s : ProbeSpec) : Value := .record <|
  Value.optional "jobName" .text s.jobName
    ++ Value.optional "prober" Prober.write s.prober
    ++ Value.optional "module" .text s.proberModule
    ++ Value.field "targets" s.targets.write
    ++ Value.optional "interval" .text s.interval
    ++ Value.optional "scrapeTimeout" .text s.scrapeTimeout
    ++ Value.optional "tlsConfig" TlsConfig.write s.tlsConfig
    ++ Value.optional "bearerTokenSecret" SecretKey.write s.bearerTokenSecret
    ++ Value.optional "basicAuth" BasicAuth.write s.basicAuth
    ++ Value.optional "oauth2" OAuth2.write s.oauth2
    ++ Value.optional "authorization" Authorization.write s.authorization
    ++ Value.unlessEmpty "metricRelabelings" RelabelRule.write s.metricRelabelings
    ++ Value.optional "sampleLimit" .nat s.sampleLimit
    ++ Value.optional "targetLimit" .nat s.targetLimit

end ProbeSpec

/-! ## Scrape configs -/

/-- An HTTP endpoint that lists targets. -/
structure HttpTargets where
  url : String
  refreshInterval : Option String := none
  basicAuth : Option BasicAuth := none
  authorization : Option Authorization := none
  tlsConfig : Option TlsConfig := none
  proxyUrl : Option String := none
deriving DecidableEq, Repr, Inhabited

namespace HttpTargets

def read (d : Doc) : Option HttpTargets := do
  let fs ← d.fields? ["url", "refreshInterval", "basicAuth", "authorization", "tlsConfig",
    "proxyUrl"]
  return {
    url := ← fs.required "url" Doc.text?
    refreshInterval := ← fs.optional "refreshInterval" Doc.text?
    basicAuth := ← fs.optional "basicAuth" BasicAuth.read
    authorization := ← fs.optional "authorization" Authorization.read
    tlsConfig := ← fs.optional "tlsConfig" TlsConfig.read
    proxyUrl := ← fs.optional "proxyUrl" Doc.text? }

def write (h : HttpTargets) : Value := .record <|
  Value.field "url" (.text h.url)
    ++ Value.optional "refreshInterval" .text h.refreshInterval
    ++ Value.optional "basicAuth" BasicAuth.write h.basicAuth
    ++ Value.optional "authorization" Authorization.write h.authorization
    ++ Value.optional "tlsConfig" TlsConfig.write h.tlsConfig
    ++ Value.optional "proxyUrl" .text h.proxyUrl

end HttpTargets

/-- Carries its own targets; a job says almost the same, field by field. -/
structure ScrapeSpec where
  jobName : Option String := none
  static : List StaticTargets := []
  http : List HttpTargets := []
  relabelings : List RelabelRule := []
  metricsPath : Option String := none
  scrapeInterval : Option String := none
  scrapeTimeout : Option String := none
  honorTimestamps : Option Bool := none
  honorLabels : Option Bool := none
  params : Dict String (List String) := .empty
  scheme : Option String := none
  basicAuth : Option BasicAuth := none
  authorization : Option Authorization := none
  oauth2 : Option OAuth2 := none
  tlsConfig : Option TlsConfig := none
  sampleLimit : Option Nat := none
  targetLimit : Option Nat := none
  metricRelabelings : List RelabelRule := []
  proxyUrl : Option String := none
  followRedirects : Option Bool := none
  enableHttp2 : Option Bool := none
deriving DecidableEq, Repr, Inhabited

namespace ScrapeSpec

/-- The HTTP endpoints have two spellings; together they are one field given twice. -/
def read (d : Doc) : Option ScrapeSpec := do
  let fs ← (d.renamed "httpSdConfigs" "httpSDConfigs").fields? ["jobName", "staticConfigs",
    "httpSDConfigs", "relabelings", "metricsPath", "scrapeInterval", "scrapeTimeout",
    "honorTimestamps", "honorLabels", "params", "scheme", "basicAuth", "authorization", "oauth2",
    "tlsConfig", "sampleLimit", "targetLimit", "metricRelabelings", "proxyUrl", "followRedirects",
    "enableHttp2"]
  return {
    jobName := ← fs.optional "jobName" Doc.text?
    static := ← fs.list "staticConfigs" StaticTargets.read
    http := ← fs.list "httpSDConfigs" HttpTargets.read
    relabelings := ← fs.list "relabelings" RelabelRule.read
    metricsPath := ← fs.optional "metricsPath" Doc.text?
    scrapeInterval := ← fs.optional "scrapeInterval" Doc.text?
    scrapeTimeout := ← fs.optional "scrapeTimeout" Doc.text?
    honorTimestamps := ← fs.optional "honorTimestamps" Doc.bool?
    honorLabels := ← fs.optional "honorLabels" Doc.bool?
    params := ← fs.withDefault "params" .empty (readDict (Doc.list? Doc.text?))
    scheme := ← fs.optional "scheme" Doc.text?
    basicAuth := ← fs.optional "basicAuth" BasicAuth.read
    authorization := ← fs.optional "authorization" Authorization.read
    oauth2 := ← fs.optional "oauth2" OAuth2.read
    tlsConfig := ← fs.optional "tlsConfig" TlsConfig.read
    sampleLimit := ← fs.optional "sampleLimit" (Doc.nat? 64)
    targetLimit := ← fs.optional "targetLimit" (Doc.nat? 64)
    metricRelabelings := ← fs.list "metricRelabelings" RelabelRule.read
    proxyUrl := ← fs.optional "proxyUrl" Doc.text?
    followRedirects := ← fs.optional "followRedirects" Doc.bool?
    enableHttp2 := ← fs.optional "enableHttp2" Doc.bool? }

def write (s : ScrapeSpec) : Value := .record <|
  Value.optional "jobName" .text s.jobName
    ++ Value.unlessEmpty "staticConfigs" StaticTargets.write s.static
    ++ Value.unlessEmpty "httpSDConfigs" HttpTargets.write s.http
    ++ Value.unlessEmpty "relabelings" RelabelRule.write s.relabelings
    ++ Value.optional "metricsPath" .text s.metricsPath
    ++ Value.optional "scrapeInterval" .text s.scrapeInterval
    ++ Value.optional "scrapeTimeout" .text s.scrapeTimeout
    ++ Value.optional "honorTimestamps" .bool s.honorTimestamps
    ++ Value.optional "honorLabels" .bool s.honorLabels
    ++ Value.entries "params" .texts s.params.toList
    ++ Value.optional "scheme" .text s.scheme
    ++ Value.optional "basicAuth" BasicAuth.write s.basicAuth
    ++ Value.optional "authorization" Authorization.write s.authorization
    ++ Value.optional "oauth2" OAuth2.write s.oauth2
    ++ Value.optional "tlsConfig" TlsConfig.write s.tlsConfig
    ++ Value.optional "sampleLimit" .nat s.sampleLimit
    ++ Value.optional "targetLimit" .nat s.targetLimit
    ++ Value.unlessEmpty "metricRelabelings" RelabelRule.write s.metricRelabelings
    ++ Value.optional "proxyUrl" .text s.proxyUrl
    ++ Value.optional "followRedirects" .bool s.followRedirects
    ++ Value.optional "enableHttp2" .bool s.enableHttp2

end ScrapeSpec

/-! ## Any monitor -/

/-- What a monitor of any kind says. -/
inductive Spec where
  | service (s : ServiceSpec)
  | pod (s : PodSpec)
  | probe (s : ProbeSpec)
  | scrape (s : ScrapeSpec)
deriving DecidableEq, Repr, Inhabited

namespace Spec

/-- The kind of monitor. -/
def kind : Spec → Kind
  | .service _ => .serviceMonitor
  | .pod _ => .podMonitor
  | .probe _ => .probe
  | .scrape _ => .scrapeConfig

/-- Reads what a monitor of the given kind says; other kinds are no monitors. -/
def read (kind : Kind) (d : Doc) : Option Spec :=
  match kind with
  | .serviceMonitor => (ServiceSpec.read d).map .service
  | .podMonitor => (PodSpec.read d).map .pod
  | .probe => (ProbeSpec.read d).map .probe
  | .scrapeConfig => (ScrapeSpec.read d).map .scrape
  | .secret | .namespace => none

def write : Spec → Value
  | .service s => s.write
  | .pod s => s.write
  | .probe s => s.write
  | .scrape s => s.write

end Spec

end ScrapeFleet.Monitor
