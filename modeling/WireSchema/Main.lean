import WireSchema.Command.Run

/-!
The command line. The part of the disk that a request names is read, the program runs on it, and what it
changed is written back.
-/

open WireSchema

/-- The text of a place from the root. -/
def placePath (p : Disk.Place) : String :=
  "/" ++ String.intercalate "/" p

def isRealFolder (path : String) : IO Bool := do
  try
    return ← (← IO.FS.realPath path).isDir
  catch _ => return false

def readReal? (path : String) : IO (Option (List UInt8)) := do
  try
    return some (← IO.FS.readBinFile path).toList
  catch _ => return none

/-- Takes a copy of what lies on the way along names. -/
def gather (d : Disk) (here : Disk.Place) : List String → IO Disk
  | [] => return d
  | n :: rest => do
    let p := Disk.step here n
    if d.isFolder p then gather d p rest
    else if ← isRealFolder (placePath p) then gather { d with folders := p :: d.folders } p rest
    else
      match ← readReal? (placePath p) with
      | some bytes => return d.put p bytes
      | none => return d

def gatherPath (d : Disk) (path : String) : IO Disk :=
  gather d (d.start path) (Disk.Path.names path)

/-- Writes a file beside its place first, so that no half of it is ever seen there. -/
def scatterFile (p : Disk.Place) (bytes : List UInt8) : IO Unit := do
  let path := placePath p
  IO.FS.writeBinFile (path ++ ".tmp") (ByteArray.mk bytes.toArray)
  IO.FS.rename (path ++ ".tmp") path

def scatter (before after : Disk) : IO Unit := do
  for p in after.folders.reverse do
    if !before.isFolder p then IO.FS.createDirAll (placePath p)
  for (p, bytes) in after.files do
    if before.file? p != some bytes then scatterFile p bytes

def pathsOf (args : List String) : List String :=
  match Command.parse args with
  | .ok r => r.config.toList ++ r.destination :: r.sources
  | .error _ => []

def main (args : List String) : IO UInt32 := do
  let home := Disk.Path.names (← IO.currentDir).toString
  let mut disk ← gather Disk.empty [] home
  disk := { disk with home }
  for path in pathsOf args do
    disk ← gatherPath disk path
  let outcome := Command.run disk args
  scatter disk outcome.disk
  for line in outcome.errors do
    IO.eprintln line
  IO.print outcome.output
  return outcome.exitCode.toUInt32
