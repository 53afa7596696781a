/-
# ScrapeFleet.Main — the command line

Looks around in the real system, starts what the arguments ask for, and runs it. Neither a cluster nor an
allocator can be reached from here: an allocator reports that it cannot connect, and a collector keeps
trying and keeps what it has.
-/
import ScrapeFleet.CommandLine.Start

namespace ScrapeFleet

open Collect (Client Collector Output SyncFailure)
open CommandLine

/-- The real system. -/
def system : Surroundings IO where
  getVariable name := IO.getEnv name
  textAt? path := do
    try return some (← IO.FS.readFile path)
    catch _ => return none
  makeFolders path := do
    try
      IO.FS.createDirAll path
      return true
    catch _ => return false
  reach? _ := return none

/-- Fetches the jobs of an allocator. -/
def fetchJobs (_source : Http.Uri) : IO (Except SyncFailure String) := return .error .fetch

/-- A log line in one line of text. -/
def LogLine.text (l : LogLine) : String :=
  " ".intercalate (l.message :: l.details.map fun (name, value) => name ++ "=" ++ value)

/-- Replaces a file. -/
def replaceFile (path text : String) : IO Unit := do
  IO.FS.writeFile (path ++ ".tmp") text
  IO.FS.rename (path ++ ".tmp") path

/-- Runs a collector from one sync to the next, and carries over to the real file what it writes. -/
partial def keepUp (source : Http.Uri) (c : Collector Output) : IO Unit := do
  c.warnings.forM fun w => IO.println w.log.text
  let written := c.world.files.text? c.world.folder c.world.path
  if let some text := written then replaceFile c.world.path text
  let span := c.client.alarm.period
  IO.sleep span.toUInt32
  let c := { c with warnings := [] }
  keepUp source (c.sleep Output.managers (← fetchJobs source) span)

/-- What is shown to those who ask for help. -/
def helpText : String :=
  "Usage: [--log-format text|json] allocator [--config FILE]\n"
    ++ "       [--log-format text|json] collector [--allocator-url URL] [--collector-id ID]\n"
    ++ "         [--shard SHARD] [--sync-interval SECONDS] [--output FILE]\n"
    ++ "         [--request-timeout SECONDS]"

/-- Runs what the arguments ask for, and gives the exit code. -/
def run (args : List String) : IO UInt32 := do
  let names := ["ALLOCATOR_URL", "COLLECTOR_ID", "SHARD"]
  let env ← names.mapM fun name => return (name, ← IO.getEnv name)
  match CommandLine.parse (fun name => (env.lookup name).join) args with
  | .error .help =>
    IO.println helpText
    return 0
  | .error .usage =>
    IO.eprintln helpText
    return 2
  | .ok invocation =>
    match ← (CommandLine.start system invocation.command).run with
    | .error e =>
      e.lines.forM IO.eprintln
      return 1
    | .ok (.allocator _ _) => return 0
    | .ok (.collector a source) =>
      let client : Client := { settings := a.settings }
      keepUp source (.start Output.managers (← fetchJobs source) client { path := a.output })
      return 0

end ScrapeFleet

def main (args : List String) : IO UInt32 := ScrapeFleet.run args
