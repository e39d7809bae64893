import WireSchema.Command.Arguments
import WireSchema.Generation.Run
import WireSchema.Settings.Basic

/-!
The program on a disk. Documents that fail are counted in the summary; only bad arguments, bad settings and a
destination that cannot be used make the program fail.
-/

namespace WireSchema.Command

open WireSchema.Generation

/-- Why a destination cannot be used. -/
inductive DestinationError where
  | cannotCreate (path : String)
  | cannotInspect (path : String)
  | readOnly (path : String)
  deriving DecidableEq, Repr

def DestinationError.message : DestinationError → String
  | .cannotCreate path => "Failed to create destination: " ++ path
  | .cannotInspect path => "Failed to inspect destination: " ++ path
  | .readOnly path => "Destination is read-only: " ++ path

/-- Makes the destination where it is missing. -/
def prepare (d : Disk) (destination : String) : Except DestinationError Disk :=
  match d.makeFolders destination with
  | none => .error (.cannotCreate destination)
  | some d =>
    match d.find destination with
    | .ok (.folder p) => if d.isLocked p then .error (.readOnly destination) else .ok d
    | _ => .error (.cannotInspect destination)

/-- Compiles all sources into the destination. -/
def generate (d : Disk) (settings : Settings) (destination : String) (sources : List String) :
    Except DestinationError (Disk × Report) :=
  match prepare d destination with
  | .error e => .error e
  | .ok d =>
    let (w, report) := Workspace.run ⟨d, Generator.create destination settings.options⟩ sources
    .ok (w.disk, report)

/-- What the program leaves behind. -/
structure Outcome where
  exitCode : Nat
  output : String
  errors : List String
  disk : Disk
  deriving DecidableEq, Repr

def versionText : String := "kafkagen 0.3.0\n"

def helpText : String :=
  "Compile Kafka message schemas into Rust\n\n" ++
  "Usage: kafkagen [OPTIONS] <DST> <SOURCES>...\n\n" ++
  "Arguments:\n" ++
  "  <DST>         Output directory for generated code\n" ++
  "  <SOURCES>...  Schema documents to compile\n\n" ++
  "Options:\n" ++
  "  -c, --config <CONFIG>  Path to a kafkagen.toml config file\n" ++
  "  -v, --verbose...       Increase log verbosity (repeatable)\n" ++
  "  -q, --quiet...         Decrease log verbosity (repeatable)\n" ++
  "  -h, --help             Print help\n" ++
  "  -V, --version          Print version\n"

def usageText : String := "Usage: kafkagen [OPTIONS] <DST> <SOURCES>..."

/-- The settings a request asks for. -/
def settingsOf (d : Disk) (r : Request) : Except Settings.Error Settings :=
  match r.config with
  | some path => Settings.readFrom d path
  | none => .ok {}

/-- Options on the command line go before the settings. -/
def levelOf (s : Settings) (r : Request) : Settings.Level :=
  if 0 < r.verbose ∨ 0 < r.quiet then .ofVerbosity r.verbose r.quiet else s.level

/-- What is logged of a run. -/
def log (level : Settings.Level) (report : Report) : List String :=
  let failures := report.failures.map fun f => f.path ++ ": " ++ f.error.message
  let incomplete := report.incomplete.map (· ++ ": group incomplete, nothing generated")
  match level with
  | .off => []
  | .error => failures
  | _ => failures ++ incomplete

def runRequest (d : Disk) (r : Request) : Outcome :=
  match settingsOf d r with
  | .error e => ⟨1, "", e.chain, d⟩
  | .ok settings =>
    match generate d settings r.destination r.sources with
    | .error e => ⟨1, "", [e.message], d⟩
    | .ok (d, report) => ⟨0, report.summary ++ "\n", log (levelOf settings r) report, d⟩

def run (d : Disk) (args : List String) : Outcome :=
  match parse args with
  | .error .refused => ⟨2, "", [usageText], d⟩
  | .error .help => ⟨0, helpText, [], d⟩
  | .error .version => ⟨0, versionText, [], d⟩
  | .ok r => runRequest d r

end WireSchema.Command
