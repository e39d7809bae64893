import WireSchema.Disk.Path

/-!
A disk is a set of folders and files. A place on it is the list of names that lead there from the root, which
is a folder always. Paths that do not begin with a slash start from the disk's home.
-/

namespace WireSchema

namespace Disk

/-- What keeps a path from being used. -/
inductive Trouble where
  | notFound
  | notDirectory
  | isDirectory
  deriving DecidableEq, Repr

def Trouble.message : Trouble → String
  | .notFound => "No such file or directory (os error 2)"
  | .notDirectory => "Not a directory (os error 20)"
  | .isDirectory => "Is a directory (os error 21)"

abbrev Place := List String

/-- What is found at a path. -/
inductive Node where
  | file (bytes : List UInt8)
  | folder (place : Place)
  deriving DecidableEq, Repr

end Disk

/-- Folders in `locked` bear the mark of being read-only. It is there for those who ask: writing does not look at
it. -/
structure Disk where
  files : List (Disk.Place × List UInt8) := []
  folders : List Disk.Place := []
  locked : List Disk.Place := []
  home : Disk.Place := []
  deriving DecidableEq, Repr

namespace Disk

def empty : Disk := {}

def file? (d : Disk) (p : Place) : Option (List UInt8) :=
  d.files.lookup p

def isFolder (d : Disk) (p : Place) : Bool :=
  p.isEmpty || d.folders.contains p

/-- Where the names of a path start. -/
def start (d : Disk) (path : String) : Place :=
  if path.toList.head? = some '/' then [] else d.home

/-- One step from a folder; two dots lead to the folder above. -/
def step (here : Place) (name : String) : Place :=
  if name = ".." then here.dropLast else here ++ [name]

/-- Goes from a folder by names, through folders only. -/
def enter (d : Disk) : Place → List String → Except Trouble Place
  | here, [] => .ok here
  | here, n :: rest =>
    let p := step here n
    if d.isFolder p then d.enter p rest
    else if (d.file? p).isSome then .error .notDirectory
    else .error .notFound

/-- The place a path means. All folders on the way to it have to be there. -/
def locate (d : Disk) (path : String) : Except Trouble Place :=
  let names := Path.names path
  match names.getLast? with
  | none => .ok (d.start path)
  | some name => (d.enter (d.start path) names.dropLast).map (step · name)

/-- What a path leads to. -/
def find (d : Disk) (path : String) : Except Trouble Node :=
  if path = "" then .error .notFound
  else
    match d.locate path with
    | .error t => .error t
    | .ok p =>
      if d.isFolder p then .ok (.folder p)
      else
        match d.file? p with
        | some bytes => if Path.meansFolder path then .error .notDirectory else .ok (.file bytes)
        | none => .error .notFound

/-- Puts a file at a place, whether there was one or not. -/
def put (d : Disk) (p : Place) (bytes : List UInt8) : Disk :=
  { d with files := (p, bytes) :: d.files.filter fun f => f.1 != p }

/-- Writes a whole file at once. Its folder has to be there. -/
def replace (d : Disk) (path : String) (bytes : List UInt8) : Except Trouble Disk :=
  match d.locate path with
  | .error t => .error t
  | .ok p =>
    if d.isFolder p then .error .isDirectory
    else if Path.meansFolder path then .error .notDirectory
    else .ok (d.put p bytes)

/-- Makes the folders that names lead through, where they are missing; nothing if a file is in the way. -/
def makeFrom (d : Disk) : Place → List String → Option Disk
  | _, [] => some d
  | here, n :: rest =>
    let p := step here n
    if d.isFolder p then d.makeFrom p rest
    else if (d.file? p).isSome then none
    else makeFrom { d with folders := p :: d.folders } p rest

def makeFolders (d : Disk) (path : String) : Option Disk :=
  d.makeFrom (d.start path) (Path.names path)

/-- A disk with one more file and the folders above it. -/
def withFile (d : Disk) (path : String) (bytes : List UInt8) : Disk :=
  let names := Path.names path
  ((d.makeFrom (d.start path) names.dropLast).getD d).put (names.foldl step (d.start path)) bytes

/-- Marks a folder as read-only. -/
def lock (d : Disk) (path : String) : Disk :=
  { d with locked := (Path.names path).foldl step (d.start path) :: d.locked }

def isLocked (d : Disk) (p : Place) : Bool :=
  d.locked.contains p

end Disk

end WireSchema
