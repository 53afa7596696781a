/-
# ScrapeFleet.Job.Discovery — where a scrape job finds its targets

Three sources of targets: a role in the cluster, a fixed list, and an HTTP endpoint.
-/
import ScrapeFleet.Duration
import ScrapeFleet.Job.Client

namespace ScrapeFleet.Job

open Text (Shown)

/-- Reads a duration from its text. -/
def readDuration (d : Doc) : Option Duration := d.text?.bind fun s => (Duration.parse s).toOption

/-- Writes a duration as text. -/
def writeDuration (d : Duration) : Value := .text d.text

/-- A duration as it is shown. -/
def shownDuration (d : Duration) : Shown := .tuple "PromDuration" (.word d.measured)

/-! ## Discovery in the cluster -/

/-- The kinds of cluster object that can be targets. -/
inductive Role where
  | endpointSlice | endpoints | pod | service | ingress | node
deriving DecidableEq, Repr, Inhabited

namespace Role

def all : List Role := [.endpointSlice, .endpoints, .pod, .service, .ingress, .node]

/-- The name as it is written. -/
def name : Role → String
  | .endpointSlice => "endpointslice"
  | .endpoints => "endpoints"
  | .pod => "pod"
  | .service => "service"
  | .ingress => "ingress"
  | .node => "node"

/-- The name as it is shown. -/
def shownName : Role → String
  | .endpointSlice => "EndpointSlice"
  | .endpoints => "Endpoints"
  | .pod => "Pod"
  | .service => "Service"
  | .ingress => "Ingress"
  | .node => "Node"

/-- What the meta labels of the role's targets start with. -/
def metaPrefix : Role → String
  | .endpointSlice => "__meta_kubernetes_endpointslice"
  | .endpoints => "__meta_kubernetes_endpoint"
  | .pod => "__meta_kubernetes_pod"
  | .service => "__meta_kubernetes_service"
  | .ingress => "__meta_kubernetes_ingress"
  | .node => "__meta_kubernetes_node"

/-- The role with a name. -/
def ofName? (s : String) : Option Role := all.find? (·.name == s)

/-- Reads a role; a record with the name and null says the same. -/
def read : Doc → Option Role
  | .record [(k, .null)] => k.text?.bind ofName?
  | d => d.text?.bind ofName?

end Role

/-- The namespaces in which targets are looked for. -/
structure NamespaceDiscovery where
  ownNamespace : Option Bool := none
  names : List String := []
deriving DecidableEq, Repr, Inhabited

namespace NamespaceDiscovery

def read (d : Doc) : Option NamespaceDiscovery := do
  let fs ← d.fields? ["own_namespace", "names"]
  return { ownNamespace := ← fs.optional "own_namespace" Doc.bool?, names := ← fs.list "names" Doc.text? }

def write (n : NamespaceDiscovery) : Value := .record <|
  Value.optional "own_namespace" .bool n.ownNamespace ++ Value.unlessEmpty "names" .text n.names

def shown (n : NamespaceDiscovery) : Shown :=
  .struct "NamespaceDiscovery"
    [("own_namespace", .option .bool n.ownNamespace), ("names", .list (n.names.map .text))]

end NamespaceDiscovery

/-- Targets of one role in the cluster. -/
structure KubernetesDiscovery where
  role : Role
  namespaces : Option NamespaceDiscovery := none
deriving DecidableEq, Repr, Inhabited

namespace KubernetesDiscovery

def read (d : Doc) : Option KubernetesDiscovery := do
  let fs ← d.fields? ["role", "namespaces"]
  return {
    role := ← fs.required "role" Role.read
    namespaces := ← fs.optional "namespaces" NamespaceDiscovery.read }

def write (k : KubernetesDiscovery) : Value := .record <|
  Value.field "role" (.text k.role.name)
    ++ Value.optional "namespaces" NamespaceDiscovery.write k.namespaces

def shown (k : KubernetesDiscovery) : Shown :=
  .struct "KubernetesSdConfig"
    [("role", .word k.role.shownName), ("namespaces", .option NamespaceDiscovery.shown k.namespaces)]

end KubernetesDiscovery

/-! ## Fixed targets -/

/-- A fixed list of targets with common labels. -/
structure StaticTargets where
  targets : List String := []
  labels : Dict String String := .empty
deriving DecidableEq, Repr, Inhabited

namespace StaticTargets

def read (d : Doc) : Option StaticTargets := do
  let fs ← d.fields? ["targets", "labels"]
  return {
    targets := ← fs.list "targets" Doc.text?
    labels := ← fs.withDefault "labels" .empty (readDict Doc.text?) }

/-- Writes the list. The targets are always written. -/
def write (s : StaticTargets) : Value := .record <|
  Value.field "targets" (.texts s.targets) ++ Value.entries "labels" .text s.labels.toList

def shown (s : StaticTargets) : Shown :=
  .struct "StaticConfig"
    [("targets", .list (s.targets.map .text)),
      ("labels", .map (s.labels.toList.map fun (k, v) => (k, .text v)))]

end StaticTargets

/-! ## Targets from an HTTP endpoint -/

/-- An HTTP endpoint that lists targets, and the client to ask it with. -/
structure HttpDiscovery where
  url : String
  refreshInterval : Option Duration := none
  client : HttpClient := {}
deriving DecidableEq, Repr, Inhabited

namespace HttpDiscovery

def read (d : Doc) : Option HttpDiscovery := do
  let (fs, client) ← d.splitFields? ["url", "refresh_interval"] HttpClient.fieldNames
  return {
    url := ← fs.required "url" Doc.text?
    refreshInterval := ← fs.optional "refresh_interval" readDuration
    client := ← HttpClient.readFields client }

def write (h : HttpDiscovery) : Value := .record <|
  Value.field "url" (.text h.url)
    ++ Value.optional "refresh_interval" writeDuration h.refreshInterval
    ++ h.client.writeFields

def shown (h : HttpDiscovery) : Shown :=
  .struct "HttpSdConfig"
    [("url", .text h.url), ("refresh_interval", .option shownDuration h.refreshInterval),
      ("http_client", h.client.shown)]

end HttpDiscovery

end ScrapeFleet.Job
