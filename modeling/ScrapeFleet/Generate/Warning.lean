/-
# ScrapeFleet.Generate.Warning — monitors that do not become jobs

A part of a monitor that cannot become a job is skipped and leaves its siblings alone. A credential
that cannot be found costs the job only the field that needs it.
-/
import ScrapeFleet.Credential.Lookup
import ScrapeFleet.Duration
import ScrapeFleet.Kind
import ScrapeFleet.Relabel.Check
import ScrapeFleet.Text.Quoted

namespace ScrapeFleet.Generate

open Credential (Failure)

/-- Why a part of a monitor is no job. -/
inductive JobError where
  | relabeling (e : Relabel.Error)
  | metricRelabeling (e : Relabel.Error)
  | duration (e : Duration.Error)
  | timeoutExceedsInterval (timeout interval : Duration)
  | missingPort
  | missingProber
  | missingTargets
deriving DecidableEq, Repr

/-- The wording of an error. -/
def JobError.message : JobError → String
  | .relabeling e => "invalid relabeling: " ++ e.message
  | .metricRelabeling e => "invalid metric relabeling: " ++ e.message
  | .duration e => e.message
  | .timeoutExceedsInterval timeout interval =>
    "scrape timeout " ++ timeout.text ++ " exceeds interval " ++ interval.text
  | .missingPort => "endpoint sets neither port nor targetPort"
  | .missingProber => "probe has no prober url"
  | .missingTargets => "probe has no targets"

/-- The fields of a job that need credentials. -/
inductive AuthField where
  | basicAuth | bearerToken | authorization | oauth2 | tlsConfig
deriving DecidableEq, Repr

/-- The name of a field. -/
def AuthField.name : AuthField → String
  | .basicAuth => "basicAuth"
  | .bearerToken => "bearerTokenSecret"
  | .authorization => "authorization"
  | .oauth2 => "oauth2"
  | .tlsConfig => "tlsConfig"

/-- What is warned of while jobs are made. -/
inductive Warning where
  /-- A part of a monitor is skipped. -/
  | skipped (kind : Kind) (job : String) (e : JobError)
  /-- A field is left out of a job. -/
  | dropped (job : String) (field : AuthField) (f : Failure)
deriving DecidableEq, Repr

namespace Warning

/-- What is skipped of a monitor of a kind. -/
def skippedPart (k : Kind) : String :=
  match k with
  | .serviceMonitor | .podMonitor => k.name ++ " endpoint"
  | _ => k.name

/-- The warning as it is logged. -/
def log : Warning → LogLine
  | .skipped kind job e => ⟨"skipping " ++ skippedPart kind, [("job", job), ("error", e.message)]⟩
  | .dropped job field f =>
    ⟨"dropping auth field", [("job", job), ("field", field.name), ("error", f.message)]⟩

end Warning

end ScrapeFleet.Generate
