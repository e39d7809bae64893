import WireSchema.Wire.Layout

/-!
The messages that come with the codec: a request and its response, and the headers that go before them.
-/

namespace WireSchema.Wire.Bundled

open WireSchema.Schema WireSchema.Version

def primitive (p : Primitive) : FieldType := ⟨.primitive p, false⟩

def arrayOf (e : Element) : FieldType := ⟨e, true⟩

def echoRequest : Message where
  apiKey := some 1000
  kind := .request
  name := "EchoRequest"
  validVersions := some (.closed 0 3)
  flexibleVersions := some (.openFrom 3)
  fields := [
    { name := "Payload", type := primitive .string, versions := some (.openFrom 0)
      default := .string "ping" },
    { name := "Urgent", type := primitive .bool, versions := some (.openFrom 0)
      default := .string "false" },
    { name := "Tags", type := arrayOf (.primitive .string), versions := some (.openFrom 1) },
    { name := "Entries", type := arrayOf (.struct "EchoEntry"), versions := some (.openFrom 2)
      fields := [
        { name := "Key", type := primitive .string, versions := some (.openFrom 2) },
        { name := "Weight", type := primitive .int64, versions := some (.openFrom 2)
          default := .string "0x10" },
        { name := "Blob", type := primitive .bytes, versions := some (.openFrom 3) }] }]

def echoResponse : Message where
  apiKey := some 1000
  kind := .response
  name := "EchoResponse"
  validVersions := some (.closed 0 3)
  flexibleVersions := some (.openFrom 3)
  fields := [
    { name := "ErrorCode", type := primitive .int16, versions := some (.openFrom 0) },
    { name := "ThrottleTimeMs", type := primitive .int32, versions := some (.closed 0 2)
      default := .string "-1" },
    { name := "Payload", type := primitive .string, versions := some (.openFrom 0) },
    { name := "Node", type := ⟨.struct "EchoNode", false⟩, versions := some (.openFrom 1) }]
  structures := [
    { name := "EchoNode", versions := some (.openFrom 1)
      fields := [
        { name := "NodeId", type := primitive .int32, versions := some (.openFrom 1) },
        { name := "Rack", type := primitive .string, versions := some (.openFrom 1) }] }]

def requestHeader : Message where
  kind := .header
  name := "RequestHeader"
  validVersions := some (.closed 0 1)
  flexibleVersions := some .empty
  fields := [
    { name := "RequestApiKey", type := primitive .int16, versions := some (.openFrom 0) },
    { name := "RequestApiVersion", type := primitive .int16, versions := some (.openFrom 0) },
    { name := "CorrelationId", type := primitive .int32, versions := some (.openFrom 0) },
    { name := "ClientId", type := primitive .string, versions := some (.openFrom 1)
      default := .string "" }]

def responseHeader : Message where
  kind := .header
  name := "ResponseHeader"
  validVersions := some (.closed 0 1)
  flexibleVersions := some .empty
  fields := [
    { name := "CorrelationId", type := primitive .int32, versions := some (.openFrom 0) }]

/-- A bundled type: its shape and, if it is a message of its own, the message. -/
structure Bundle where
  shape : Shape
  message : Option Message

def bundleOf (m : Message) (r : Record) (isTop : Bool) : Option Bundle :=
  (shapeOf m r).map (⟨·, if isTop then some m else none⟩)

/-- The bundled types by name. -/
def find? (name : String) : Option Bundle :=
  match name with
  | "EchoRequest" => bundleOf echoRequest echoRequest.record true
  | "EchoResponse" => bundleOf echoResponse echoResponse.record true
  | "RequestHeader" => bundleOf requestHeader requestHeader.record true
  | "ResponseHeader" => bundleOf responseHeader responseHeader.record true
  | "EchoEntry" =>
    (echoRequest.innerRecords.find? (·.name == "EchoEntry")).bind (bundleOf echoRequest · false)
  | "EchoNode" =>
    (echoResponse.innerRecords.find? (·.name == "EchoNode")).bind (bundleOf echoResponse · false)
  | _ => none

end WireSchema.Wire.Bundled
