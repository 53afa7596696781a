/-
# ScrapeFleet.Settings — the allocator's settings

How monitors are selected, what their jobs default to, how often changes are announced, and which
namespaces are watched at all.
-/
import ScrapeFleet.Job.Discovery
import ScrapeFleet.Kind
import ScrapeFleet.Selector
import ScrapeFleet.Text.Quoted
import ScrapeFleet.Toml.Reader

namespace ScrapeFleet

open Job (Role readDuration writeDuration)

/-! ## Namespaces -/

/-- The namespaces that are watched: those not denied, and if any are allowed only those. -/
structure Scope where
  allow : List String := []
  deny : List String := []
deriving DecidableEq, Repr, Inhabited

namespace Scope

/-- A namespace is watched. What belongs to no namespace always is. -/
def admits (s : Scope) (ns : Option String) : Bool :=
  match ns with
  | none => true
  | some ns => (s.allow.isEmpty || s.allow.contains ns) && !s.deny.contains ns

def read (d : Doc) : Option Scope := do
  let fs ← d.fields? ["allow", "deny"]
  return { allow := ← fs.list "allow" Doc.text?, deny := ← fs.list "deny" Doc.text? }

def write (s : Scope) : Value := .record <|
  Value.field "allow" (.texts s.allow) ++ Value.field "deny" (.texts s.deny)

end Scope

/-! ## Jobs and selection -/

/-- Which monitors of a kind are selected: by their own labels, and by those of their namespace. -/
structure Selection where
  selector : Option Selector := none
  namespaceSelector : Option Selector := none
deriving DecidableEq, Repr, Inhabited

/-- How monitors are turned into jobs. -/
structure Settings where
  scrapeInterval : Duration := .ofSeconds 30
  scrapeTimeout : Duration := .ofSeconds 10
  eventInterval : Duration := .ofSeconds 5
  resyncPeriod : Duration := .ofSeconds 300
  syncTimeout : Duration := .ofSeconds 15
  role : Role := .endpointSlice
  shards : Nat := 1
  serviceMonitors : Selection := {}
  podMonitors : Selection := {}
  probes : Selection := {}
  scrapeConfigs : Selection := {}
deriving DecidableEq, Repr, Inhabited

/-- What is wrong with settings, and mended. -/
inductive Settings.Warning where
  | eventInterval (configured : Duration)
  | noShards
deriving DecidableEq, Repr

namespace Settings

/-- Events are never closer together than this. -/
def minEventInterval : Duration := .ofSeconds 5

/-- How monitors of a kind are selected; other kinds are not selected by anything. -/
def selection (s : Settings) : Kind → Selection
  | .serviceMonitor => s.serviceMonitors
  | .podMonitor => s.podMonitors
  | .probe => s.probes
  | .scrapeConfig => s.scrapeConfigs
  | .secret | .namespace => {}

/-- The time between events, however short it is set. -/
def effectiveEventInterval (s : Settings) : Duration := s.eventInterval.max minEventInterval

/-- The settings with values that make no sense mended. -/
def normalized (s : Settings) : Settings :=
  { s with eventInterval := s.effectiveEventInterval, shards := if s.shards = 0 then 1 else s.shards }

/-- What is mended. -/
def warnings (s : Settings) : List Warning :=
  (if s.eventInterval < minEventInterval then [.eventInterval s.eventInterval] else [])
    ++ if s.shards = 0 then [.noShards] else []

/-- A warning as it is logged. -/
def Warning.log : Warning → LogLine
  | .eventInterval d =>
    ⟨"event_interval below minimum, clamping",
      [("configured", d.text), ("minimum", minEventInterval.text)]⟩
  | .noShards => ⟨"shards must be at least 1, using 1", []⟩

def read (d : Doc) : Option Settings := do
  let fs ← d.fields? ["scrape_interval", "scrape_timeout", "event_interval", "resync_period",
    "sync_timeout", "service_discovery_role", "shards", "service_monitor_selector",
    "service_monitor_namespace_selector", "pod_monitor_selector", "pod_monitor_namespace_selector",
    "probe_selector", "probe_namespace_selector", "scrape_config_selector",
    "scrape_config_namespace_selector"]
  let base : Settings := {}
  let selection (name : String) : Option Selection := do
    return {
      selector := ← fs.optional (name ++ "_selector") Selector.read
      namespaceSelector := ← fs.optional (name ++ "_namespace_selector") Selector.read }
  return {
    scrapeInterval := ← fs.withDefault "scrape_interval" base.scrapeInterval readDuration
    scrapeTimeout := ← fs.withDefault "scrape_timeout" base.scrapeTimeout readDuration
    eventInterval := ← fs.withDefault "event_interval" base.eventInterval readDuration
    resyncPeriod := ← fs.withDefault "resync_period" base.resyncPeriod readDuration
    syncTimeout := ← fs.withDefault "sync_timeout" base.syncTimeout readDuration
    role := ← fs.withDefault "service_discovery_role" base.role Role.read
    shards := ← fs.withDefault "shards" base.shards (Doc.nat? 32)
    serviceMonitors := ← selection "service_monitor"
    podMonitors := ← selection "pod_monitor"
    probes := ← selection "probe"
    scrapeConfigs := ← selection "scrape_config" }

def write (s : Settings) : Value :=
  let selection (name : String) (c : Selection) : List (String × Value) :=
    Value.optional (name ++ "_selector") Selector.write c.selector
      ++ Value.optional (name ++ "_namespace_selector") Selector.write c.namespaceSelector
  .record <|
    Value.field "scrape_interval" (writeDuration s.scrapeInterval)
      ++ Value.field "scrape_timeout" (writeDuration s.scrapeTimeout)
      ++ Value.field "event_interval" (writeDuration s.eventInterval)
      ++ Value.field "resync_period" (writeDuration s.resyncPeriod)
      ++ Value.field "sync_timeout" (writeDuration s.syncTimeout)
      ++ Value.field "service_discovery_role" (.text s.role.name)
      ++ Value.field "shards" (.nat s.shards)
      ++ selection "service_monitor" s.serviceMonitors
      ++ selection "pod_monitor" s.podMonitors
      ++ selection "probe" s.probes
      ++ selection "scrape_config" s.scrapeConfigs

end Settings

/-- The allocator's settings: where it listens, how it makes jobs, and what it watches. -/
structure AllocatorSettings where
  listenAddress : String := "0.0.0.0:8080"
  settings : Settings := {}
  scope : Scope := {}
deriving DecidableEq, Repr, Inhabited

namespace AllocatorSettings

/-- Reads the settings as they are written. -/
def read (d : Doc) : Option AllocatorSettings := do
  let fs ← d.fields? ["listen_addr", "prometheus_cr", "namespaces"]
  return {
    listenAddress := ← fs.withDefault "listen_addr" "0.0.0.0:8080" Doc.text?
    settings := ← fs.withDefault "prometheus_cr" {} Settings.read
    scope := ← fs.withDefault "namespaces" {} Scope.read }

def write (a : AllocatorSettings) : Value := .record <|
  Value.field "listen_addr" (.text a.listenAddress)
    ++ Value.field "prometheus_cr" a.settings.write
    ++ Value.field "namespaces" a.scope.write

/-- Reads a document of settings and mends what makes no sense. -/
def ofDocument? (text : String) : Option (AllocatorSettings × List Settings.Warning) := do
  let a ← read (← Toml.parse text)
  return ({ a with settings := a.settings.normalized }, a.settings.warnings)

end AllocatorSettings

end ScrapeFleet
