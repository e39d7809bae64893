import WireSchema.Disk.Path
import WireSchema.Generation.Group
import WireSchema.Name.Case
import WireSchema.Source.Compile

/-!
Routing messages into groups. A message that completes its group yields the file of that group; every other
message waits in its slot.
-/

namespace WireSchema.Generation

open WireSchema.Schema (Message)
open WireSchema.Source (Sheet)

structure Options where
  /-- Where the generated files find the codec's types. -/
  runtimePath : String := Source.defaultRuntimePath
  headerFileName : String := "headers_gen.rs"
  /-- What follows the base name in the file names of APIs. -/
  fileSuffix : String := "_gen.rs"
  requestHeaderName : String := "RequestHeader"
  responseHeaderName : String := "ResponseHeader"
  deriving DecidableEq, Repr

/-- A file to be written for the group called `group`. -/
structure Artifact where
  group : String
  path : String
  sheet : Sheet
  deriving DecidableEq, Repr

/-- API groups in the order of their keys. -/
abbrev ApiTable := List ApiGroup

namespace ApiTable

def find (t : ApiTable) (key : Int16) : ApiGroup :=
  (List.find? (fun g => g.key = key) t).getD { key }

/-- Puts a group in the place of the one with its key, or where its key belongs. -/
def insert (g : ApiGroup) : ApiTable → ApiTable
  | [] => [g]
  | h :: t =>
    if g.key.toInt < h.key.toInt then g :: h :: t
    else if h.key.toInt < g.key.toInt then h :: insert g t
    else g :: t

/-- The table with a group for a key: an empty one, if there was none. -/
def enter (t : ApiTable) (key : Int16) : ApiTable :=
  if List.any t fun g => g.key = key then t else insert { key } t

end ApiTable

structure Generator where
  destination : String
  options : Options
  apis : ApiTable
  headers : HeaderGroup
  /-- The number of groups that have been compiled, with success or not. -/
  compiled : Nat
  deriving Repr

namespace Generator

def create (destination : String) (options : Options) : Generator :=
  { destination, options, apis := [], compiled := 0,
    headers := { requestName := options.requestHeaderName,
                 responseName := options.responseHeaderName } }

/-- The file name of an API, whose two messages have one base name. -/
def apiFileName (o : Options) (key : Int16) (pair : Pair) : Except Error String :=
  let request := pair.request.baseName
  let response := pair.response.baseName
  if request = response then .ok (Name.snake request ++ o.fileSuffix)
  else .error (.nameMismatch key request response)

/-- Compiles a completed group. -/
def emit (g : Generator) (group path : String) (pair : Pair) :
    Generator × Except Error Artifact :=
  let g := { g with compiled := g.compiled + 1 }
  match Source.compileGroup g.options.runtimePath [pair.request, pair.response] with
  | .ok sheet => (g, .ok ⟨group, path, sheet⟩)
  | .error e => (g, .error (.compile group e))

def complete (g : Generator) (group : String) (path : Except Error String) (pair : Pair) :
    Generator × Except Error (Option Artifact) :=
  match path with
  | .error e => (g, .error e)
  | .ok path =>
    let (g, result) := g.emit group path pair
    (g, result.map some)

def submitHeader (g : Generator) (m : Message) : Generator × Except Error (Option Artifact) :=
  match g.headers.fill m with
  | .error e => (g, .error e)
  | .ok (headers, none) => ({ g with headers }, .ok none)
  | .ok (headers, some pair) =>
    complete { g with headers } headersLabel
      (.ok (Disk.Path.join g.destination g.options.headerFileName)) pair

def submitApi (g : Generator) (key : Int16) (m : Message) :
    Generator × Except Error (Option Artifact) :=
  let g := { g with apis := g.apis.enter key }
  match (g.apis.find key).fill m with
  | .error e => (g, .error e)
  | .ok (group, none) => ({ g with apis := ApiTable.insert group g.apis }, .ok none)
  | .ok (group, some pair) =>
    complete { g with apis := ApiTable.insert group g.apis } (apiLabel key)
      ((apiFileName g.options key pair).map (Disk.Path.join g.destination)) pair

/-- Routes a message; gives a file if the message completes its group. -/
def submit (g : Generator) (m : Message) : Generator × Except Error (Option Artifact) :=
  match m.kind, m.apiKey with
  | .header, _ => g.submitHeader m
  | _, some key => g.submitApi key m
  | kind, none => (g, .error (.fault (.missingKey kind m.name)))

def missingText (label : String) (slot : Slot) : String :=
  label ++ " (missing " ++ slot.name ++ ")"

/-- The groups that wait for their second message: APIs by key, then the headers. -/
def incomplete (g : Generator) : List String :=
  g.apis.filterMap (fun a => a.missing.map (missingText (apiLabel a.key))) ++
    (g.headers.missing.map (missingText headersLabel)).toList

end Generator

end WireSchema.Generation
