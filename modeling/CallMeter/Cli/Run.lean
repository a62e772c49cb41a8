import CallMeter.Cli.Arguments
import CallMeter.Cli.Report
import CallMeter.Http.Address
import CallMeter.Settings.Load
import CallMeter.Settings.Source
import CallMeter.Store.Location
import CallMeter.Usage.Service
import CallMeter.Usage.SummaryJson

/-!
# Running a command

A run takes arguments to a status, a text and, for `start`, a service that waits for requests.
Arguments that make no sense end it with status 2 and any other failure with status 1, each with
the text printed so far. The settings are loaded before any command but `version`.

## Main definitions

* `Host`: what a run finds around it
* `Outcome`: what a run comes to
* `run`: the run of a command
-/

namespace CallMeter.Cli

open Pricing (RateCard PriceSource)

variable {m : Type → Type} [Monad m]

/-- **Host**: its files, the variables of the environment and the time. -/
structure Host (m : Type → Type) where
  look : String → m FileEntry
  environment : List (String × String)
  now : Time.Instant

/-- **Service**: a portal with the source of its prices, ready for requests. -/
structure Service where
  portal : Portal TableStore
  prices : PriceSource
  address : Http.Address
  port : UInt16

/-- **Outcome** of a run: its status and text, the database file that it created, and the
service that it started. -/
structure Outcome where
  status : Nat
  output : String
  created : Option String := none
  service : Option Service := none

namespace Outcome

/-- A run that does what it should. -/
def success (output : String) : Outcome :=
  ⟨0, output, none, none⟩

/-- A run that fails after some text. -/
def failure (output : String) : Outcome :=
  ⟨1, output, none, none⟩

/-- A run with arguments that make no sense. -/
def misused : Outcome :=
  ⟨2, "", none, none⟩

/-- A run that stops short: it needs what no clock can show or no list can hold. -/
def broken : Outcome :=
  ⟨101, "", none, none⟩

end Outcome

/-- The text for `--help`. -/
def helpText : String :=
  lines [
    "Voice agent usage and cost portal",
    "",
    "Usage: usage-portal [OPTIONS] [COMMAND]",
    "",
    "Commands:",
    "  start    Start the HTTP server (default)",
    "  usage    Compute a usage summary for one tenant and print it",
    "  test     Test configuration and pricing validity",
    "  version  Show version information",
    "",
    "Options:",
    "  -c, --config <CONFIG>  Configuration file path [default: config.toml]",
    "  -h, --help             Print help",
    "  -V, --version          Print version"]

/-- The text of the `version` command. -/
def versionText : String :=
  lines ["Usage Portal v" ++ version]

/-- The rate card that a source gives on a host. -/
def Host.card (h : Host m) (source : PriceSource) : m RateCard :=
  source.load fun path => return (← h.look path).text?

/-- The `test` command: the settings and prices, once it is known where the records are. -/
def testSettings (h : Host m) (s : Settings) : m Outcome := do
  let title := "Testing configuration..."
  match s.storage.database with
  | .error fault => return .failure (lines [title, "✗ " ++ (ServiceFault.config fault).report])
  | .ok _ => return .success (lines [title] ++ settingsReport s (← h.card s.prices))

/-- A summary as the `usage` command prints it. -/
def summaryText (json : Bool) (summary : Summary) : String :=
  if json then lines [summary.toJson.pretty] else usageReport summary

/-- The `usage` command: the summary of a tenant. -/
def printUsage (h : Host m) (s : Settings) (tenant : String) (days : Option String)
    (json : Bool) : m Outcome := do
  match ← s.storage.connect h.look with
  | .error _ => return .failure ""
  | .ok connection =>
    let card ← h.card s.prices
    match Window.endingNow h.now (clampDaysText days) with
    | none => return { Outcome.broken with created := connection.created }
    | some window =>
      match (Portal.ofStore connection.store).summarize card tenant window with
      | (.error _, _) => return { Outcome.failure "" with created := connection.created }
      | (.ok summary, _) =>
        return { Outcome.success (summaryText json summary) with created := connection.created }

/-- The `start` command: a service at a local address. -/
def startService (h : Host m) (s : Settings) : m Outcome := do
  let output := lines ["Starting usage portal..."]
  match ← s.storage.connect h.look with
  | .error _ => return .failure output
  | .ok connection =>
    -- the store is there by now, even if the address turns out to be useless
    match (Http.Address.ofText? s.server.host).filter Http.Address.isLocal with
    | none => return { Outcome.failure output with created := connection.created }
    | some address =>
      return { Outcome.success output with
        created := connection.created
        service := some ⟨.ofStore connection.store, s.prices, address, s.server.port⟩ }

/-- A command with the settings loaded. -/
def execute (h : Host m) (s : Settings) : Command → m Outcome
  | .start => startService h s
  | .usage tenant days json => printUsage h s tenant days json
  | .test => testSettings h s
  | .version => return .success versionText

/-- A command of an invocation. -/
def invocationOutcome (h : Host m) (i : Invocation) : m Outcome := do
  match Settings.load (← settingsFile h.look i.settingsPath) h.environment with
  | .error (.unread .misplaced) => return .broken
  | .error _ => return .failure ""
  | .ok s => execute h s i.command

/-- **The run of a command.** -/
def run (h : Host m) (args : List String) : m Outcome :=
  match Arguments.parse args with
  | .misuse => return .misused
  | .showHelp => return .success helpText
  | .showVersion => return .success (lines ["usage-portal " ++ version])
  | .run ⟨_, .version⟩ => return .success versionText
  | .run i => invocationOutcome h i

end CallMeter.Cli
