/-
# ScrapeFleet.Kind — the kinds of cluster object that are watched

Four kinds of monitor turn into scrape jobs. Secrets and namespaces are watched because jobs depend on
them.
-/

namespace ScrapeFleet

/-- A kind of cluster object. -/
inductive Kind where
  | serviceMonitor | podMonitor | probe | scrapeConfig | secret | namespace
deriving DecidableEq, Repr, Inhabited

namespace Kind

/-- The kinds that turn into jobs, in the order in which their jobs are generated. -/
def monitors : List Kind := [.serviceMonitor, .podMonitor, .probe, .scrapeConfig]

/-- All kinds, the monitors first. -/
def all : List Kind := monitors ++ [.secret, .namespace]

/-- The name of the kind. -/
def name : Kind → String
  | .serviceMonitor => "ServiceMonitor"
  | .podMonitor => "PodMonitor"
  | .probe => "Probe"
  | .scrapeConfig => "ScrapeConfig"
  | .secret => "Secret"
  | .namespace => "Namespace"

/-- The kind with a name. -/
def ofName? (s : String) : Option Kind := all.find? (·.name == s)

/-- What the names of the kind's jobs start with. -/
def jobPrefix : Kind → String
  | .serviceMonitor => "serviceMonitor"
  | .podMonitor => "podMonitor"
  | .probe => "probe"
  | .scrapeConfig => "scrapeConfig"
  | .secret => "secret"
  | .namespace => "namespace"

/-- The API group of the monitors. -/
def monitorGroup : String := "monitoring.coreos.com"

/-- The group and version under which a kind of monitor is served. -/
def groupVersion? : Kind → Option String
  | .serviceMonitor | .podMonitor | .probe => some (monitorGroup ++ "/v1")
  | .scrapeConfig => some (monitorGroup ++ "/v1alpha1")
  | .secret | .namespace => none

/-- The version that an object of the kind names. -/
def apiVersion (k : Kind) : String := k.groupVersion?.getD "v1"

/-- The name of the kind in paths. -/
def plural : Kind → String
  | .serviceMonitor => "servicemonitors"
  | .podMonitor => "podmonitors"
  | .probe => "probes"
  | .scrapeConfig => "scrapeconfigs"
  | .secret => "secrets"
  | .namespace => "namespaces"

/-- An optional kind is watched only where the cluster serves it. -/
def isOptional : Kind → Bool
  | .probe | .scrapeConfig => true
  | _ => false

/-- The kind turns into jobs. -/
def isMonitor (k : Kind) : Bool := monitors.contains k

end Kind

end ScrapeFleet
