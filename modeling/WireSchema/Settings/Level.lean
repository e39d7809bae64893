import WireSchema.Text.Blank

/-!
How much is logged.
-/

namespace WireSchema.Settings

open WireSchema.Text

inductive Level where
  | trace
  | debug
  | info
  | warn
  | error
  | off
  deriving DecidableEq, Repr

namespace Level

def name : Level → String
  | .trace => "trace"
  | .debug => "debug"
  | .info => "info"
  | .warn => "warn"
  | .error => "error"
  | .off => "off"

/-- How a level is shown in logs. -/
def display : Level → String
  | .trace => "TRACE"
  | .debug => "DEBUG"
  | .info => "INFO"
  | .warn => "WARN"
  | .error => "ERROR"
  | .off => "OFF"

/-- Every `verbose` lowers the level by one step from `info`, and every `quiet` raises it. -/
def ofVerbosity (verbose quiet : Nat) : Level :=
  if verbose = quiet then .info
  else if quiet < verbose then if quiet + 1 = verbose then .debug else .trace
  else if verbose + 1 = quiet then .warn
  else if verbose + 2 = quiet then .error
  else .off

def lowerAscii (c : Char) : Char :=
  if 'A' ≤ c ∧ c ≤ 'Z' then Char.ofNat (c.toNat + 32) else c

/-- Blanks around a name and the case of ASCII letters do not matter. -/
def parse? (text : String) : Option Level :=
  match String.ofList ((trim text.toList).map lowerAscii) with
  | "trace" => some .trace
  | "debug" => some .debug
  | "info" => some .info
  | "warn" | "warning" => some .warn
  | "error" => some .error
  | "off" | "none" => some .off
  | _ => none

/-- What is said of a text that names no level. -/
def unknownMessage (text : String) : String :=
  "unknown log level: " ++ text

end Level

end WireSchema.Settings
