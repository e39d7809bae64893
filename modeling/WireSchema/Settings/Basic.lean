import WireSchema.Disk.Store
import WireSchema.Generation.Generator
import WireSchema.Settings.Entries
import WireSchema.Settings.Level
import WireSchema.Text.Utf8

/-!
The settings of a run. Every setting has a default; a text may set each of them once and nothing else.
-/

namespace WireSchema

open WireSchema.Text

structure Settings where
  options : Generation.Options := {}
  logLevel : String := Settings.Level.name .info
  deriving DecidableEq, Repr

namespace Settings

inductive Error where
  | unreadable (path reason : String)
  | invalid (path : String) (cause : Error)
  | malformed
  | emptyRuntimePath
  | emptyHeaderFileName
  | sameHeaders (name : String)
  | unknownLevel (text : String)
  deriving DecidableEq, Repr

namespace Error

/-- The error from the outside in. -/
def chain : Error → List String
  | .unreadable path reason => ["Failed to read config: " ++ path, reason]
  | .invalid path cause => ("Invalid config: " ++ path) :: cause.chain
  | .malformed => ["Failed to parse config"]
  | .emptyRuntimePath => ["runtime_path cannot be empty"]
  | .emptyHeaderFileName => ["header_file_name cannot be empty"]
  | .sameHeaders name => ["request and response headers must differ (both are " ++ name ++ ")"]
  | .unknownLevel text => ["Invalid log_level: " ++ text, Level.unknownMessage text]

def message (e : Error) : String :=
  e.chain.head?.getD ""

end Error

/-- Sets one setting; nothing if there is none of that name. -/
def set (s : Settings) (name value : String) : Option Settings :=
  match name with
  | "runtime_path" => some { s with options := { s.options with runtimePath := value } }
  | "header_file_name" => some { s with options := { s.options with headerFileName := value } }
  | "file_suffix" => some { s with options := { s.options with fileSuffix := value } }
  | "request_header_name" =>
    some { s with options := { s.options with requestHeaderName := value } }
  | "response_header_name" =>
    some { s with options := { s.options with responseHeaderName := value } }
  | "log_level" => some { s with logLevel := value }
  | _ => none

def setAll (s : Settings) : List (String × String) → Option Settings
  | [] => some s
  | (name, value) :: rest =>
    if rest.any (·.1 == name) then none
    else (s.set name value).bind (·.setAll rest)

/-- The first reason to refuse the settings. -/
def flaw? (s : Settings) : Option Error :=
  let o := s.options
  if (trim o.runtimePath.toList).isEmpty then some .emptyRuntimePath
  else if (trim o.headerFileName.toList).isEmpty then some .emptyHeaderFileName
  else if o.requestHeaderName = o.responseHeaderName then some (.sameHeaders o.requestHeaderName)
  else if (Level.parse? s.logLevel).isNone then some (.unknownLevel s.logLevel)
  else none

def parse (text : String) : Except Error Settings :=
  match (entries text).bind ({} : Settings).setAll with
  | none => .error .malformed
  | some s =>
    match s.flaw? with
    | some e => .error e
    | none => .ok s

/-- What is said of a file that is no text. -/
def notTextMessage : String := "stream did not contain valid UTF-8"

def readFrom (d : Disk) (path : String) : Except Error Settings :=
  match d.find path with
  | .error t => .error (.unreadable path t.message)
  | .ok (.folder _) => .error (.unreadable path (Disk.Trouble.message .isDirectory))
  | .ok (.file bytes) =>
    match Utf8.decode? bytes with
    | none => .error (.unreadable path notTextMessage)
    | some text => (parse text).mapError (.invalid path ·)

/-- The level of accepted settings. -/
def level (s : Settings) : Level :=
  (Level.parse? s.logLevel).getD .info

end Settings

end WireSchema
