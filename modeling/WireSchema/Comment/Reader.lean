import WireSchema.Comment.Filter

/-!
Reading through the comment filter. The source behind the reader answers each request with some bytes or
with an error. The reader asks for a chunk only when it has no filtered bytes left, asks again after an
interruption and after a chunk that was all comment, and hands out no more bytes than were asked for.
-/

namespace WireSchema.Comment

inductive TroubleKind where
  | interrupted
  | wouldBlock
  | isDirectory
  | other
  deriving DecidableEq, Repr

/-- What goes wrong with a read. -/
structure Trouble where
  kind : TroubleKind
  text : String
  deriving DecidableEq, Repr

/-- One answer of a source. Data larger than the request is delivered in parts, and no data at all says
that there is nothing to read for now. -/
inductive Delivery where
  | data (bytes : List UInt8)
  | trouble (t : Trouble)
  deriving DecidableEq, Repr

/-- The answers still to come. After the last one there is nothing to read. -/
abbrev Source := List Delivery

namespace Source

/-- Asks for at most `size` bytes. -/
def read (size : Nat) : Source → Except Trouble (List UInt8) × Source
  | [] => (.ok [], [])
  | .trouble t :: rest => (.error t, rest)
  | .data bytes :: rest =>
    if bytes.length ≤ size then (.ok bytes, rest)
    else (.ok (bytes.take size), .data (bytes.drop size) :: rest)

/-- A bound on the number of reads that do not yield nothing. -/
def weight : Source → Nat
  | [] => 0
  | .trouble _ :: rest => 1 + weight rest
  | .data bytes :: rest => 1 + bytes.length + weight rest

end Source

structure Reader where
  source : Source
  chunkSize : Nat
  filter : Filter := {}
  /-- Filtered bytes that were not handed out. -/
  pending : List UInt8 := []
  deriving DecidableEq, Repr

namespace Reader

/-- A chunk has at least one byte. -/
def ofSource (source : Source) (chunkSize : Nat) : Reader :=
  { source, chunkSize := max 1 chunkSize }

def defaultChunkSize : Nat := 8192

/-- Reads chunks until there are filtered bytes, there is nothing to read or there is trouble. -/
def fill : Nat → Reader → Except Trouble Unit × Reader
  | 0, r => (.ok (), r)
  | fuel + 1, r =>
    if r.pending ≠ [] then (.ok (), r)
    else
      match r.source.read r.chunkSize with
      | (.ok [], source) => (.ok (), { r with source })
      | (.ok bytes, source) =>
        let filter := r.filter.feed bytes
        fill fuel { r with source, filter, pending := filter.textSince r.filter }
      | (.error t, source) =>
        if t.kind = .interrupted then fill fuel { r with source } else (.error t, { r with source })

/-- Has filtered bytes at hand, unless there is nothing to read or there is trouble. -/
def prepare (r : Reader) : Except Trouble Unit × Reader :=
  if r.pending ≠ [] then (.ok (), r) else fill (r.source.weight + 1) r

/-- Hands out at most `size` bytes. A request for none does not touch the source. -/
def read (r : Reader) (size : Nat) : Except Trouble (List UInt8) × Reader :=
  if size = 0 then (.ok [], r)
  else
    match r.prepare with
    | (.error t, r) => (.error t, r)
    | (.ok _, r) => (.ok (r.pending.take size), { r with pending := r.pending.drop size })

/-- The reader after `n` requests for one byte each. -/
def after : Nat → Reader → Reader
  | 0, r => r
  | n + 1, r => after n (r.read 1).2

def comments (r : Reader) : List UInt8 :=
  r.filter.comments

end Reader

end WireSchema.Comment
