/-
# ScrapeFleet.CommandLine.Arguments — what a command line asks for

Options are named in full, and their value follows as the next argument or behind `=`. An option is
checked as soon as the next argument shows that it is complete, so of two faults the first counts, and
help that is asked for in front of a fault is given. An argument that begins with a dash is never the
value of the option before it.
-/
import ScrapeFleet.Collect.Targets
import ScrapeFleet.Text.Digits

namespace ScrapeFleet.CommandLine

/-- Why a command line asks for nothing to be run. -/
inductive Refusal where
  /-- It asks for help. -/
  | help
  /-- It makes no sense. -/
  | usage
deriving DecidableEq, Repr, Inhabited

/-- An option: its name, and which values it takes. -/
structure OptionSpec where
  name : String
  accepts : String → Bool := fun _ => true

/-- The values that options were given, in order. -/
abbrev Given := List (String × String)

/-! ## Reading options -/

/-- An option that was met and is not checked yet. -/
structure Pending where
  spec : OptionSpec
  value : Option String := none

/-- The options read so far. -/
structure Progress where
  given : Given := []
  pending : Option Pending := none

namespace Progress

/-- Takes a value for an option. An option is given once. -/
def take (p : Progress) (spec : OptionSpec) (value : String) : Except Refusal Progress :=
  if (p.given.lookup spec.name).isSome || !spec.accepts value then .error .usage
  else .ok { given := p.given ++ [(spec.name, value)] }

/-- Checks the option that is not checked yet. -/
def settle (p : Progress) : Except Refusal Progress :=
  match p.pending with
  | none => .ok p
  | some ⟨spec, some value⟩ => p.take spec value
  | some ⟨_, none⟩ => .error .usage

/-- The last option still waits for its value. -/
def waits (p : Progress) : Bool :=
  match p.pending with
  | some ⟨_, none⟩ => true
  | _ => false

end Progress

/-- What an argument looks like. -/
inductive Shape where
  /-- Two dashes, which end the options. -/
  | terminator
  | long (name : String) (value : Option String)
  | short (flag : Char)
  | plain
deriving DecidableEq, Repr

/-- The shape of an argument. -/
def shape (arg : String) : Shape :=
  match arg.toList with
  | ['-', '-'] => .terminator
  | '-' :: '-' :: cs =>
    let value := cs.dropWhile (· != '=')
    .long (String.ofList (cs.takeWhile (· != '=')))
      (if value.isEmpty then none else some (String.ofList value.tail))
  | '-' :: c :: _ => .short c
  | _ => .plain

/-- Reads options until the arguments end or a subcommand comes. -/
def readOptions (specs : List OptionSpec) (subcommands : List String) (p : Progress) :
    List String → Except Refusal (Progress × Option (String × List String))
  | [] => .ok (p, none)
  | arg :: rest => do
    if subcommands.contains arg && !p.waits then return (p, some (arg, rest))
    match shape arg with
    | .terminator =>
      if rest.isEmpty then return (p, none)
      throw .usage
    | .long "help" none | .short 'h' =>
      let _ ← p.settle
      throw .help
    | .long name value =>
      match specs.find? (·.name == name) with
      | none => throw .usage
      | some spec =>
        let p ← p.settle
        match value with
        | some v => readOptions specs subcommands (← p.take spec v) rest
        | none => readOptions specs subcommands { p with pending := some { spec := spec } } rest
    | .short _ => throw .usage
    | .plain =>
      match p.pending with
      | some ⟨spec, none⟩ =>
        readOptions specs subcommands { p with pending := some { spec := spec, value := some arg } } rest
      | _ => throw .usage

/-! ## Commands -/

/-- How the log is written. -/
inductive LogFormat where
  | text | json
deriving DecidableEq, Repr, Inhabited

/-- The arguments of a collector. -/
structure CollectorArguments where
  settings : Collect.CollectorSettings := {}
  output : String := "scrape_configs.yaml"
  /-- How long to wait for an answer of the allocator. -/
  requestTimeout : Duration := .ofSeconds 10
deriving DecidableEq, Repr, Inhabited

/-- What is to be run. -/
inductive Command where
  | allocator (config : Option String)
  | collector (arguments : CollectorArguments)
deriving DecidableEq, Repr, Inhabited

/-- What a command line asks for. -/
structure Invocation where
  logFormat : LogFormat := .text
  command : Command
deriving DecidableEq, Repr, Inhabited

/-- A number of seconds. -/
def seconds? (s : String) : Option Nat :=
  let ds := match s.toList with
    | '+' :: ds => ds
    | ds => ds
  (Text.digits? 10 ds).filter (· < Nat.pow 2 64)

/-- The option that every command has. -/
def logOption : OptionSpec := { name := "log-format", accepts := fun s => s == "text" || s == "json" }

/-- The options of the allocator. -/
def allocatorOptions : List OptionSpec := [logOption, { name := "config", accepts := (· != "") }]

/-- The options of a collector. -/
def collectorOptions : List OptionSpec :=
  [logOption, { name := "allocator-url" }, { name := "collector-id" }, { name := "shard" },
    { name := "sync-interval", accepts := fun s => (seconds? s).isSome },
    { name := "output", accepts := (· != "") },
    { name := "request-timeout", accepts := fun s => (seconds? s).isSome }]

/-- Reads all arguments as options. -/
def readAll (specs : List OptionSpec) (args : List String) : Except Refusal Given := do
  let (p, _) ← readOptions specs [] {} args
  return (← p.settle).given

/-- The arguments of a collector from its options, and else from the environment. -/
def collectorArguments (env : String → Option String) (given : Given) : CollectorArguments :=
  let base : CollectorArguments := {}
  let text (option fallback : String) (default : String) : String :=
    ((given.lookup option).orElse fun _ => env fallback).getD default
  let span (option : String) (default : Duration) : Duration :=
    (((given.lookup option).bind seconds?).map Duration.ofSeconds).getD default
  { settings := {
      allocatorUrl := text "allocator-url" "ALLOCATOR_URL" base.settings.allocatorUrl
      collectorId := text "collector-id" "COLLECTOR_ID" base.settings.collectorId
      shard := text "shard" "SHARD" base.settings.shard
      interval := span "sync-interval" base.settings.interval }
    output := (given.lookup "output").getD base.output
    requestTimeout := span "request-timeout" base.requestTimeout }

/-- The names that may follow a request for help. -/
def helpTopics : List String := ["allocator", "collector", "help"]

/-- Reads a command line. -/
def parse (env : String → Option String) (args : List String) : Except Refusal Invocation := do
  let (top, rest) ← readOptions [logOption] helpTopics {} args
  match rest with
  | none => throw .usage
  | some ("help", topics) =>
    match topics with
    | [] => throw .help
    | [topic] => throw (if helpTopics.contains topic then .help else .usage)
    | _ => throw .usage
  | some (name, args) =>
    let own ← readAll (if name == "allocator" then allocatorOptions else collectorOptions) args
    let outer := (← top.settle).given
    let format := (own.lookup "log-format").orElse fun _ => outer.lookup "log-format"
    return {
      logFormat := if format == some "json" then .json else .text
      command := if name == "allocator" then .allocator (own.lookup "config")
        else .collector (collectorArguments env own) }

end ScrapeFleet.CommandLine
