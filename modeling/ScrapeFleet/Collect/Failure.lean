/-
# ScrapeFleet.Collect.Failure — why a collector's configuration is not renewed

Nothing of this is final: the collector keeps what it has and tries again later.
-/
import ScrapeFleet.Text.Quoted

namespace ScrapeFleet.Collect

/-- Why a manager did not take a configuration. -/
inductive ApplyFailure where
  | storage
  | rejected (manager reason : String)
deriving DecidableEq, Repr, Inhabited

/-- The wording of a failure. -/
def ApplyFailure.message : ApplyFailure → String
  | .storage => "io error"
  | .rejected manager reason => manager ++ " rejected configuration: " ++ reason

/-- Why a collector did not renew its configuration. -/
inductive SyncFailure where
  | invalidUrl (url reason : String)
  | fetch
  | status (code : Nat) (reason : String)
  | parse
  | apply (e : ApplyFailure)
deriving DecidableEq, Repr, Inhabited

/-- The wording of a failure. -/
def SyncFailure.message : SyncFailure → String
  | .invalidUrl url reason => "invalid allocator url " ++ Text.quoted url ++ ": " ++ reason
  | .fetch => "fetching scrape configs"
  | .status code reason => "allocator returned HTTP " ++ toString code ++ " " ++ reason
  | .parse => "parsing scrape configs"
  | .apply e => "applying scrape configs: " ++ e.message

/-- The allocator has loaded nothing yet. -/
def SyncFailure.unavailable : SyncFailure := .status 503 "Service Unavailable"

/-- What a collector warns of. -/
inductive SyncWarning where
  | restoreFailed (e : ApplyFailure)
  | failed (e : SyncFailure)
deriving DecidableEq, Repr

/-- A warning as it is logged. -/
def SyncWarning.log : SyncWarning → LogLine
  | .restoreFailed e => ⟨"restoring previous scrape config failed", [("error", e.message)]⟩
  | .failed e => ⟨"config sync failed, keeping previous configuration", [("error", e.message)]⟩

end ScrapeFleet.Collect
