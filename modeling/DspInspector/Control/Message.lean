import DspInspector.Module.Id
import DspInspector.Module.Parameter

/-!
# Control messages

The audio driver takes parameter accesses as messages: a size, a header of two words, and a payload.
The first word names module, instance and command, the second the parameter and the size of its
value. An access that the driver cannot route by itself is tunneled: the header then names a vendor
parameter, and a second header the real one.
-/

namespace DspInspector

/-- The parameter that announces a tunneled access. -/
def tunnelParameter : UInt32 := 0xFF

/-- The driver routes only the props of an instance by itself. -/
def needsTunnel (parameter : UInt32) : Bool := parameter != (ParameterId.ofInstance .props).raw

/-- The first word of a header: sixteen bits of module, eight of instance, five of command. -/
def primaryWord (command : UInt32) (target : InstanceId) : UInt32 :=
  target.moduleId.toUInt32 ||| ((target.instanceId.toUInt32 &&& 0xFF) <<< 16) |||
    ((command &&& 0x1F) <<< 24)

/-- The header of a message. -/
structure MessageHeader where
  primary : UInt32
  extended : UInt32
  deriving DecidableEq

namespace MessageHeader

/-- A header for a value of `size` bytes; sizes above the payload limit are cut to it. -/
def of (command : UInt32) (target : InstanceId) (parameter : UInt32) (size : Nat) : MessageHeader where
  primary := primaryWord command target
  extended :=
    let dataSize : UInt32 := UInt32.ofNat (min size payloadLimit) &&& 0xFFFFF
    let parameterBits : UInt32 := (parameter &&& 0xFF) <<< 20
    dataSize ||| parameterBits

/-- The size in the header. -/
def dataSize (header : MessageHeader) : UInt32 := header.extended &&& 0xFFFFF

/-- The parameter in the header. -/
def parameter (header : MessageHeader) : UInt32 := (header.extended >>> 20) &&& 0xFF

instance : Wire MessageHeader :=
  Wire.via (fun (primary, extended) => ⟨primary, extended⟩) (fun header => (header.primary, header.extended))

/-- The bytes of a header. -/
def bytes : Nat := 8

end MessageHeader

/-- The second header of a tunneled access. -/
structure TunnelHeader where
  parameter : UInt32
  size : UInt32
  deriving DecidableEq

namespace TunnelHeader

instance : Wire TunnelHeader :=
  Wire.via (fun (parameter, size) => ⟨parameter, size⟩) (fun header => (header.parameter, header.size))

/-- The bytes of a second header. -/
def bytes : Nat := 8

end TunnelHeader

/-- Reading or writing. -/
inductive MessageKind where
  | get
  | set
  deriving DecidableEq

/-- A message that reads or writes a parameter of any size. -/
structure LargeMessage where
  header : MessageHeader
  tunnel : Option TunnelHeader
  payload : List UInt8
  deriving DecidableEq

namespace LargeMessage

/-- The command in a header. -/
def command : MessageKind → UInt32
  | .get => 3
  | .set => 4

/-- The message for a parameter: `size` is the room for the value when it is read, and the length of
the payload when it is written. -/
def of (kind : MessageKind) (target : InstanceId) (parameter : UInt32) (size : Nat)
    (payload : List UInt8) : LargeMessage :=
  if needsTunnel parameter then
    let tunneled := size + TunnelHeader.bytes
    { header := .of (command kind) target tunnelParameter tunneled
      tunnel := some ⟨parameter, UInt32.ofNat (min tunneled payloadLimit)⟩
      payload }
  else
    { header := .of (command kind) target parameter size
      tunnel := none
      payload }

/-- The bytes of the headers. -/
def headerBytes (message : LargeMessage) : Nat :=
  match message.tunnel with
  | some _ => MessageHeader.bytes + TunnelHeader.bytes
  | none => MessageHeader.bytes

/-- The request: the size of what follows, cut to the payload limit, the headers and the payload. -/
def encode (message : LargeMessage) : List UInt8 :=
  littleEndian 4 (min (message.headerBytes + message.payload.length) payloadLimit) ++
    Wire.write message.header ++
    (match message.tunnel with
      | some tunnel => Wire.write tunnel
      | none => []) ++
    message.payload

/-- The value in a reply. The driver repeats the second header and never the first; the value is cut
to what was really returned. -/
def replyPayload (message : LargeMessage) (reply : List UInt8) : Except WireError (List UInt8) :=
  match message.tunnel with
  | none => .ok (reply.take message.header.dataSize.toNat)
  | some _ =>
    match (Wire.read : Decoder TunnelHeader) reply with
    | .ok tunnel rest => .ok (rest.take tunnel.size.toNat)
    | .error cause _ => .error cause

end LargeMessage

/-- A message without payload, which enables a module instance. -/
structure ShortMessage where
  primary : UInt32
  extended : UInt32
  deriving DecidableEq

namespace ShortMessage

/-- The command in a header. -/
def command : MessageKind → UInt32
  | .set => 1
  | .get => 2

/-- The message for a parameter, of which thirty bits travel. -/
def of (kind : MessageKind) (target : InstanceId) (parameter : UInt32) : ShortMessage where
  primary := primaryWord (command kind) target
  extended := parameter &&& 0x3FFFFFFF

/-- The request. -/
def encode (message : ShortMessage) : List UInt8 :=
  Wire.write ((8 : UInt32), message.primary, message.extended)

end ShortMessage

end DspInspector
