import WireSchema.Comment.Reader
import WireSchema.Schema.Document
import WireSchema.Schema.Normalize
import WireSchema.Text.Utf8

/-!
Loading a message from a source. The document is what the comment filter hands out byte by byte, and the
comments of the message are those that the filter has collected when the document has been read.
-/

namespace WireSchema.Schema

open WireSchema.Comment WireSchema.Text

/-- The answers to requests for one byte each, added to those in `doc`. That nothing is left to read is no
answer, but the end of the document. -/
def pullsFrom : Nat → Comment.Reader → Json.Document → Json.Document
  | 0, _, doc => doc
  | fuel + 1, r, doc =>
    match r.read 1 with
    | (.ok [], r) => if r.source.isEmpty then doc else pullsFrom fuel r (doc.push .pause)
    | (.ok (b :: _), r) => pullsFrom fuel r (doc.push (.byte b))
    | (.error t, r) => pullsFrom fuel r (doc.push (.failed t.text))

/-- The document behind a reader. No byte, pause or failure comes without a part of the source. -/
def documentOf (r : Comment.Reader) : Json.Document :=
  pullsFrom (r.source.weight + 1) r #[]

def readerOf (source : Source) : Comment.Reader :=
  Comment.Reader.ofSource source Comment.Reader.defaultChunkSize

/-- What becomes of the result of reading `doc`: a failure gets its position, and a message with the API key
that it needs gets the comments met so far and is put right. -/
def conclude (origin : String) (source : Source) (doc : Json.Document) :
    Except Json.Failure Message × Json.Cursor → Except Error Message
  | (.error e, _) => .error (.document origin e.cause (e.place.map doc.positionAt))
  | (.ok m, c) =>
    if m.isApi && m.apiKey.isNone then .error (.missingApiKey m.name)
    else .ok { m with comments := Utf8.decodeLossy ((readerOf source).after c.taken).comments }.normalize

/-- Loads a message; `origin` names the source in errors. -/
def load (origin : String) (source : Source) : Except Error Message :=
  let doc := documentOf (readerOf source)
  conclude origin source doc (Json.Reader.whole readMessage doc)

/-- Loads a message from bytes at hand. -/
def loadBytes (origin : String) (bytes : List UInt8) : Except Error Message :=
  load origin (if bytes.isEmpty then [] else [.data bytes])

end WireSchema.Schema
