import TrustedPlatform.Layout
import TrustedPlatform.CommandCode
import TrustedPlatform.Envelope.Request

/-!
# Building request envelopes

`RequestBuilder` gathers the areas of a request in the order they are added and puts the header,
with the total size, in front of them. `RequestBuilder.request` does so for a typed request.
-/

namespace TrustedPlatform

/-- A request under construction: its tag, its command code, and what follows the header. -/
structure RequestBuilder where
  tag : StructureTag
  commandCode : UInt32
  body : Bytes
  deriving DecidableEq, Repr

namespace RequestBuilder

/-- A request with nothing after the header. -/
def start (tag : StructureTag) (commandCode : UInt32) : RequestBuilder := ⟨tag, commandCode, []⟩

/-- Adds octets. -/
def add (request : RequestBuilder) (b : Bytes) : RequestBuilder :=
  { request with body := request.body ++ b }

/-- Adds a handle. -/
def addHandle (request : RequestBuilder) (handle : UInt32) : RequestBuilder :=
  request.add (be32 handle)

/-- Adds an authorization area that holds `sessions`. -/
def addSessions (request : RequestBuilder) (sessions : List AuthCommand) : RequestBuilder :=
  let area := sessions.flatMap Wire.write
  request.add (be32 (UInt32.ofNat area.length) ++ area)

/-- The envelope. -/
def envelope (request : RequestBuilder) : Bytes :=
  be16 request.tag.code ++ be32 (UInt32.ofNat (headerSize + request.body.length))
    ++ be32 request.commandCode ++ request.body

/-- The envelope of a typed request; it has an authorization area if there are sessions. -/
def request {α : Type} [Layout α] (command : CommandCode) (arguments : α)
    (sessions : List AuthCommand) : Bytes :=
  if sessions.isEmpty then
    ((start .noSessions command.code).add (Layout.handleArea arguments)
      |>.add (Layout.parameterArea arguments)).envelope
  else
    ((start .sessions command.code).add (Layout.handleArea arguments)
      |>.addSessions sessions
      |>.add (Layout.parameterArea arguments)).envelope

end RequestBuilder

end TrustedPlatform
