/-
# ScrapeFleet.Collect.Targets — jobs and targets from the allocator

The document of all jobs has a fixed name below the allocator's address. The name is written behind the
address as it stands, query and fragment included.

A collector does not look for targets itself. In each job that it takes over, whatever the job says of
discovery is replaced by one address at the allocator, which lists the targets of that job for that
collector.
-/
import ScrapeFleet.Collect.Failure
import ScrapeFleet.Http.Uri
import ScrapeFleet.Job.Basic
import ScrapeFleet.Text.Percent
import ScrapeFleet.Url.Basic

namespace ScrapeFleet.Collect

open Job (HttpDiscovery)

/-- How a collector is set up. -/
structure CollectorSettings where
  allocatorUrl : String := "http://localhost:8080"
  collectorId : String := ""
  shard : String := "0"
  interval : Duration := .ofSeconds 30
deriving DecidableEq, Repr, Inhabited

/-- A text without the slashes at its end. -/
def withoutEndSlashes (s : String) : String :=
  String.ofList (s.toList.reverse.dropWhile (· == '/')).reverse

/-- Where the jobs of an allocator are fetched. -/
def sourceUri (allocatorUrl : String) : Except SyncFailure Http.Uri :=
  match Url.parse allocatorUrl with
  | .error e => .error (.invalidUrl allocatorUrl e.message)
  | .ok url =>
    match Http.Uri.parse (withoutEndSlashes url.text ++ "/scrape_configs") with
    | .error e => .error (.invalidUrl allocatorUrl e.message)
    | .ok uri => .ok uri

/-- Where the targets of a job are listed. -/
def CollectorSettings.targetsUrl (c : CollectorSettings) (job : String) : String :=
  withoutEndSlashes c.allocatorUrl ++ "/jobs/" ++ Text.FormEncoded.encode job
    ++ "/targets?collector_id=" ++ Text.FormEncoded.encode c.collectorId

/-- Discovery by the address that lists the targets of a job. -/
def CollectorSettings.discovery (c : CollectorSettings) (job : String) : HttpDiscovery :=
  { url := c.targetsUrl job, client := { followRedirects := some false } }

/-- A job under a name, with its discovery replaced. -/
def CollectorSettings.retarget (c : CollectorSettings) (name : String) (job : ScrapeJob) : ScrapeJob :=
  { job with name := name, kubernetes := [], static := [], http := [c.discovery name] }

/-- The discovery of every job. -/
abbrev DiscoveryMap := Dict String (List HttpDiscovery)

/-- The configuration of a collector. -/
def CollectorSettings.configuration (c : CollectorSettings) (jobs : Dict String ScrapeJob) :
    ScrapeConfig :=
  .ofJobs (jobs.mapValues c.retarget).values

/-- The discovery of a collector. -/
def CollectorSettings.discoveryMap (c : CollectorSettings) (jobs : Dict String ScrapeJob) :
    DiscoveryMap :=
  (jobs.mapValues c.retarget).mapValues fun _ job => job.http

end ScrapeFleet.Collect
