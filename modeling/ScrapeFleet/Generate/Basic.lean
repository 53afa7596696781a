/-
# ScrapeFleet.Generate.Basic — the jobs of monitors

Which monitors of a kind are selected, and the jobs of a monitor. A part of a monitor that cannot become
a job is skipped with a warning and the other parts still become jobs.
-/
import ScrapeFleet.Cluster.Namespace
import ScrapeFleet.Generate.Endpoints
import ScrapeFleet.Generate.Single
import ScrapeFleet.Monitor.Basic

namespace ScrapeFleet.Generate

open Credential (Lookup)

/-! ## Selection -/

/-- A namespace is selected: by no selector every one is, else those that are known and have the right
labels. -/
def namespaceSelected (selector : Option Selector) (known : String → Option Labels) (ns : String) :
    Bool :=
  match selector with
  | none => true
  | some s => (known ns).any s.selects

/-- A monitor is selected by the settings for its kind. -/
def selected (settings : Settings) (known : String → Option Labels) (m : Monitor) : Bool :=
  let c := settings.selection m.kind
  selectedBy c.selector m.labels && namespaceSelected c.namespaceSelector known m.namespaceText

/-- The selected monitors of a kind by their job keys; of two with one key the later counts. -/
def selectAll (settings : Settings) (known : String → Option Labels) (kind : Kind)
    (ms : List Monitor) : Dict String Monitor :=
  .ofList ((ms.filter fun m => m.kind == kind && selected settings known m).map fun m => (m.jobKey, m))

/-! ## Jobs -/

/-- The parts of a monitor that become jobs, each with the name of its job. -/
def parts (settings : Settings) (m : Monitor) : List (String × Lookup Outcome) :=
  let ns := m.namespaceText
  let numbered {α : Type} (make : String → α → Lookup Outcome) (as : List α) :=
    as.mapIdx fun i a =>
      let name := m.jobKey ++ "/" ++ toString i
      (name, make name a)
  match m.spec with
  | .service spec => numbered (fun name e => serviceEndpoint settings ns name spec e) spec.endpoints
  | .pod spec =>
    numbered (fun name e => podEndpoint settings ns m.metadata.displayName name spec e) spec.endpoints
  | .probe spec => [(m.jobKey, probeOutcome settings ns m.jobKey spec)]
  | .scrape spec => [(m.jobKey, scrapeOutcome settings ns m.jobKey spec)]

/-- Makes the jobs of some parts in their order. -/
def runParts (kind : Kind) : List (String × Lookup Outcome) → Lookup (List ScrapeJob × List Warning)
  | [] => return ([], [])
  | (name, part) :: rest => do
    let (outcome, warnings) ← part
    let (jobs, more) ← runParts kind rest
    match outcome with
    | .ok job => return (job :: jobs, warnings ++ more)
    | .error e => return (jobs, warnings ++ .skipped kind name e :: more)

/-- The jobs of a monitor. -/
def jobs (settings : Settings) (m : Monitor) : Lookup (List ScrapeJob × List Warning) :=
  runParts m.kind (parts settings m)

end ScrapeFleet.Generate
