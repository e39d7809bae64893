import WireSchema.Generation.Generator
import WireSchema.Schema.Load
import WireSchema.Source.Check

/-!
Runs over the documents on a disk. A failure is kept for the report and does not stop the other documents.
-/

namespace WireSchema.Generation

open WireSchema.Schema (Message)

/-- Loads the document at a path. A folder can be opened but not read. -/
def loadFrom (d : Disk) (path : String) : Except Schema.Error Message :=
  match d.find path with
  | .error t => .error (.unreadable path t.message)
  | .ok (.file bytes) => Schema.loadBytes path bytes
  | .ok (.folder _) =>
    Schema.load path [.trouble ⟨.isDirectory, Disk.Trouble.message .isDirectory⟩]

structure Failure where
  path : String
  error : Error
  deriving DecidableEq, Repr

/-- What came of a run, in the order of its documents. -/
structure Report where
  written : List String := []
  failures : List Failure := []
  incomplete : List String := []
  deriving DecidableEq, Repr

namespace Report

def isClean (r : Report) : Bool :=
  r.failures.isEmpty && r.incomplete.isEmpty

def summary (r : Report) : String :=
  let count (n : Nat) (what : String) : String := Text.Numeral.ofNat 10 n ++ " " ++ what
  count r.written.length "file(s) written, " ++ count r.failures.length "failure(s)" ++
    if r.incomplete.isEmpty then "" else ", " ++ count r.incomplete.length "incomplete group(s)"

end Report

/-- A generator and the disk it works on. -/
structure Workspace where
  disk : Disk
  generator : Generator
  deriving Repr

namespace Workspace

variable [Source.Parser]

/-- Writes the file of a completed group; gives its path. -/
def deliver (w : Workspace) (a : Artifact) : Workspace × Except Error String :=
  match a.sheet.persist a.path w.disk with
  | .ok disk => ({ w with disk }, .ok a.path)
  | .error e => (w, .error (.compile a.group e))

/-- Routes a message and writes the file of the group it completes. -/
def submit (w : Workspace) (m : Message) : Workspace × Except Error (Option String) :=
  match w.generator.submit m with
  | (generator, .error e) => ({ w with generator }, .error e)
  | (generator, .ok none) => ({ w with generator }, .ok none)
  | (generator, .ok (some a)) =>
    let (w, result) := deliver { w with generator } a
    (w, result.map some)

/-- Loads a document and routes it. -/
def process (w : Workspace) (path : String) : Workspace × Except Error (Option String) :=
  match loadFrom w.disk path with
  | .error e => (w, .error (.load path e))
  | .ok m => w.submit m

/-- Takes down what came of one document. -/
def note (r : Report) (path : String) : Except Error (Option String) → Report
  | .ok none => r
  | .ok (some written) => { r with written := r.written ++ [written] }
  | .error error => { r with failures := r.failures ++ [⟨path, error⟩] }

def runFrom (w : Workspace) (r : Report) : List String → Workspace × Report
  | [] => (w, { r with incomplete := w.generator.incomplete })
  | path :: paths =>
    let (w, result) := w.process path
    runFrom w (note r path result) paths

def run (w : Workspace) (paths : List String) : Workspace × Report :=
  w.runFrom {} paths

end Workspace

end WireSchema.Generation
