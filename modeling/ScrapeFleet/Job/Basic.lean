/-
# ScrapeFleet.Job.Basic — scrape jobs

One job of the scraper's configuration, and the configuration as far as it is made of jobs. A job
carries a placeholder where a collector's shard number belongs; each collector fills it in.
-/
import ScrapeFleet.Job.Discovery
import ScrapeFleet.Relabel.Rule

namespace ScrapeFleet

open Text (Shown)
open Job

/-- A scrape job. -/
structure ScrapeJob where
  name : String
  honorLabels : Option Bool := none
  honorTimestamps : Option Bool := none
  params : Dict String (List String) := .empty
  scrapeInterval : Option Duration := none
  scrapeTimeout : Option Duration := none
  metricsPath : Option String := none
  scheme : Option String := none
  sampleLimit : Option Nat := none
  targetLimit : Option Nat := none
  client : HttpClient := {}
  kubernetes : List KubernetesDiscovery := []
  static : List StaticTargets := []
  http : List HttpDiscovery := []
  relabel : List Relabel.Rule := []
  metricRelabel : List Relabel.Rule := []
deriving DecidableEq, Repr, Inhabited

namespace ScrapeJob

/-- What stands in a job for the number of the shard that applies it. -/
def shardPlaceholder : String := "$(SHARD)"

/-- The job has some source of targets. -/
def hasDiscovery (j : ScrapeJob) : Bool :=
  !j.kubernetes.isEmpty || !j.static.isEmpty || !j.http.isEmpty

/-- The names of the fields that are a job's own. -/
def fieldNames : List String :=
  ["job_name", "honor_labels", "honor_timestamps", "params", "scrape_interval", "scrape_timeout",
    "metrics_path", "scheme", "sample_limit", "target_limit", "kubernetes_sd_configs",
    "static_configs", "http_sd_configs", "relabel_configs", "metric_relabel_configs"]

/-- Reads a job. -/
def read (d : Doc) : Option ScrapeJob := do
  let (fs, client) ← d.splitFields? fieldNames HttpClient.fieldNames
  return {
    name := ← fs.required "job_name" Doc.text?
    honorLabels := ← fs.optional "honor_labels" Doc.bool?
    honorTimestamps := ← fs.optional "honor_timestamps" Doc.bool?
    params := ← fs.withDefault "params" .empty (readDict (Doc.list? Doc.text?))
    scrapeInterval := ← fs.optional "scrape_interval" readDuration
    scrapeTimeout := ← fs.optional "scrape_timeout" readDuration
    metricsPath := ← fs.optional "metrics_path" Doc.text?
    scheme := ← fs.optional "scheme" Doc.text?
    sampleLimit := ← fs.optional "sample_limit" (Doc.nat? 64)
    targetLimit := ← fs.optional "target_limit" (Doc.nat? 64)
    client := ← HttpClient.readFields client
    kubernetes := ← fs.list "kubernetes_sd_configs" KubernetesDiscovery.read
    static := ← fs.list "static_configs" StaticTargets.read
    http := ← fs.list "http_sd_configs" HttpDiscovery.read
    relabel := ← fs.list "relabel_configs" Relabel.Rule.read
    metricRelabel := ← fs.list "metric_relabel_configs" Relabel.Rule.read }

/-- Writes a job. -/
def write (j : ScrapeJob) : Value := .record <|
  Value.field "job_name" (.text j.name)
    ++ Value.optional "honor_labels" .bool j.honorLabels
    ++ Value.optional "honor_timestamps" .bool j.honorTimestamps
    ++ Value.entries "params" .texts j.params.toList
    ++ Value.optional "scrape_interval" writeDuration j.scrapeInterval
    ++ Value.optional "scrape_timeout" writeDuration j.scrapeTimeout
    ++ Value.optional "metrics_path" .text j.metricsPath
    ++ Value.optional "scheme" .text j.scheme
    ++ Value.optional "sample_limit" .nat j.sampleLimit
    ++ Value.optional "target_limit" .nat j.targetLimit
    ++ j.client.writeFields
    ++ Value.unlessEmpty "kubernetes_sd_configs" KubernetesDiscovery.write j.kubernetes
    ++ Value.unlessEmpty "static_configs" StaticTargets.write j.static
    ++ Value.unlessEmpty "http_sd_configs" HttpDiscovery.write j.http
    ++ Value.unlessEmpty "relabel_configs" Relabel.Rule.write j.relabel
    ++ Value.unlessEmpty "metric_relabel_configs" Relabel.Rule.write j.metricRelabel

/-- A job as it is shown: what its clients know is hidden, wherever in the job they stand. -/
def shown (j : ScrapeJob) : Shown :=
  .struct "ScrapeConfig"
    [("job_name", .text j.name), ("honor_labels", .option .bool j.honorLabels),
      ("honor_timestamps", .option .bool j.honorTimestamps),
      ("params", .map (j.params.toList.map fun (k, vs) => (k, .list (vs.map .text)))),
      ("scrape_interval", .option shownDuration j.scrapeInterval),
      ("scrape_timeout", .option shownDuration j.scrapeTimeout),
      ("metrics_path", .option .text j.metricsPath), ("scheme", .option .text j.scheme),
      ("sample_limit", .option .nat j.sampleLimit), ("target_limit", .option .nat j.targetLimit),
      ("http_client", j.client.shown),
      ("kubernetes_sd_configs", .list (j.kubernetes.map KubernetesDiscovery.shown)),
      ("static_configs", .list (j.static.map StaticTargets.shown)),
      ("http_sd_configs", .list (j.http.map HttpDiscovery.shown)),
      ("relabel_configs", .list (j.relabel.map Relabel.Rule.shown)),
      ("metric_relabel_configs", .list (j.metricRelabel.map Relabel.Rule.shown))]

end ScrapeJob

/-- The jobs of a configuration, in the order in which it lists them. -/
structure ScrapeConfig where
  jobs : List ScrapeJob := []
deriving DecidableEq, Repr, Inhabited

namespace ScrapeConfig

/-- The configuration of some jobs, by name; jobs of one name keep their order. -/
def ofJobs (jobs : List ScrapeJob) : ScrapeConfig :=
  ⟨jobs.mergeSort fun a b => !(decide (b.name < a.name))⟩

/-- The jobs by name; of two with one name the later counts. -/
def jobMap (c : ScrapeConfig) : Dict String ScrapeJob :=
  Dict.ofList (c.jobs.map fun j => (j.name, j))

/-- Reads a configuration. -/
def read (d : Doc) : Option ScrapeConfig := do
  let fs ← d.fields? ["scrape_configs"]
  return ⟨← fs.list "scrape_configs" ScrapeJob.read⟩

/-- Writes a configuration. -/
def write (c : ScrapeConfig) : Value :=
  .record (Value.field "scrape_configs" (.list (c.jobs.map ScrapeJob.write)))

/-- A configuration as it is shown. -/
def shown (c : ScrapeConfig) : Shown :=
  .struct "PromConfig" [("scrape_configs", .list (c.jobs.map ScrapeJob.shown))]

end ScrapeConfig

/-- Reads a map from names to jobs. -/
def readJobMap (d : Doc) : Option (Dict String ScrapeJob) := readDict ScrapeJob.read d

/-- Writes a map from names to jobs. -/
def writeJobMap (m : Dict String ScrapeJob) : Value :=
  .record (m.toList.map fun (name, j) => (name, j.write))

end ScrapeFleet
