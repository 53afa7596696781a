/-
# ScrapeFleet.Watch.Connection — a watcher of a cluster

Each kind is listed and then watched at a path of its own. If just one namespace is allowed only that one
is asked for, and denied namespaces are excluded by the cluster already; what comes all the same is
sorted out by the informer. Namespaces themselves are always watched without limits.
-/
import ScrapeFleet.Cluster.Discovery
import ScrapeFleet.Watch.Watcher

namespace ScrapeFleet.Watch

open Cluster (Identified Namespace Secret)

/-! ## Requests -/

/-- The path below which a kind is found. -/
def apiRoot (k : Kind) : String :=
  match k.groupVersion? with
  | some groupVersion => "/apis/" ++ groupVersion
  | none => "/api/v1"

/-- The path of a kind, or of what one namespace has of it. -/
def kindPath (k : Kind) (ns : Option String) : String :=
  apiRoot k ++ (ns.map ("/namespaces/" ++ ·)).getD "" ++ "/" ++ k.plural

/-- The one namespace that is asked for, if there is just one. -/
def onlyNamespace (scope : Scope) (k : Kind) : Option String :=
  match k, scope.allow with
  | .namespace, _ => none
  | _, [ns] => some ns
  | _, _ => none

/-- What the cluster is asked to leave out. -/
def fieldSelector (scope : Scope) (k : Kind) : Option String :=
  if k == .namespace || scope.deny.isEmpty then none
  else some (",".intercalate (scope.deny.map ("metadata.namespace!=" ++ ·)))

/-- The path at which a secret is fetched. -/
def secretPath (ns name : String) : String := kindPath .secret (some ns) ++ "/" ++ name

/-! ## Answers -/

/-- How the objects of a kind are read, and how an item of their stream is delivered. -/
def Delivery.forKind {β : Type} (k : Kind)
    (f : {α : Type} → (Doc → Option α) → (StreamItem α → Delivery) → β) : β :=
  match k with
  | .secret => f Secret.read .secret
  | .namespace => f Namespace.read .ns
  | k => f (Monitor.read k) (.monitor k)

/-- What a list brings, if it can be read. -/
def Delivery.ofList? (k : Kind) (objects : List Doc) : Option (List Delivery) :=
  forKind k fun read wrap => (objects.mapM read).map fun as => (StreamItem.list as).map wrap

/-- A stream that failed. -/
def Delivery.failed (k : Kind) : Delivery := forKind k fun _ wrap => wrap .failed

/-- What a change brings. A bookmark brings nothing; what cannot be read fails the stream. -/
def Delivery.ofChange (k : Kind) (type : String) (object : Doc) : List Delivery :=
  forKind k fun read wrap =>
    match type with
    | "ADDED" | "MODIFIED" => [wrap (((read object).map fun a => .event (.applied a)).getD .failed)]
    | "DELETED" => [wrap (((read object).map fun a => .event (.deleted a)).getD .failed)]
    | "BOOKMARK" => []
    | _ => [wrap .failed]

/-! ## The watcher -/

/-- The name of the watcher of a cluster. -/
def watcherName : String := "prometheus-cr-watcher"

/-- The kinds that are followed: all but the optional ones that are not served. -/
def followedKinds (installed : List Kind) : List Kind :=
  Kind.all.filter fun k => !k.isOptional || installed.contains k

/-- The watcher of a cluster that serves some of the optional kinds. -/
def Watcher.connect (a : AllocatorSettings) (installed : List Kind) (capacity : Nat) : Watcher :=
  let informer {α : Type} [Identified α] (k : Kind) (scope : Scope) : Informer α :=
    if (followedKinds installed).contains k then
      { kind := k, scope := scope, resyncPeriod := a.settings.resyncPeriod }
    else .standIn k
  { settings := a.settings
    informers := {
      serviceMonitors := informer .serviceMonitor a.scope
      podMonitors := informer .podMonitor a.scope
      probes := informer .probe a.scope
      scrapeConfigs := informer .scrapeConfig a.scope
      secrets := informer .secret a.scope
      namespaces := informer .namespace {} }
    outlet := { watcher := watcherName, channel := { capacity := capacity } } }

end ScrapeFleet.Watch
