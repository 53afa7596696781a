/-
# ScrapeFleet.Job.Digest — documents of jobs, and their digest

The document that carries jobs from the allocator to the collectors is a map from job names to jobs.
Its digest is taken over the names and the written jobs, each closed by a zero byte.
-/
import ScrapeFleet.Digest.Sha256
import ScrapeFleet.Job.Basic
import ScrapeFleet.Yaml.Reader
import ScrapeFleet.Yaml.Writer

namespace ScrapeFleet

/-- The document of a map of jobs. -/
def jobDocument (jobs : Dict String ScrapeJob) : String := Yaml.render (writeJobMap jobs)

/-- Reads a document of jobs. -/
def readJobDocument (text : String) : Option (Dict String ScrapeJob) :=
  (Yaml.read? text).bind readJobMap

/-- What the digest of a map of jobs is taken of. -/
def digestInput (jobs : Dict String ScrapeJob) : List UInt8 :=
  jobs.toList.flatMap fun (name, job) =>
    name.toUTF8.toList ++ [0] ++ (Yaml.render job.write).toUTF8.toList ++ [0]

/-- The digest of a map of jobs. Equal maps have equal digests. -/
def jobMapDigest (jobs : Dict String ScrapeJob) : String := Digest.sha256 (digestInput jobs)

namespace ScrapeConfig

/-- The configuration as a document. -/
def document (c : ScrapeConfig) : String := Yaml.render c.write

/-- Reads a configuration from a document. -/
def ofDocument? (text : String) : Option ScrapeConfig := (Yaml.read? text).bind ScrapeConfig.read

end ScrapeConfig

end ScrapeFleet
