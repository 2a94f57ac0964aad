import DspInspector.Probe.Point
import DspInspector.Text.Hex

/-!
# Extraction packets

Extracted samples arrive in packets: a sync word, the probe point, the format, two clock words, the
counted data, and the sum of the header words and the data length. The firmware sends the sum in
eight bytes; clients are given the low four.
-/

namespace DspInspector

/-- A block of samples extracted at a probe point. -/
structure Packet where
  point : ProbePoint
  format : UInt32
  clockHigh : UInt32
  clockLow : UInt32
  data : List UInt8
  deriving DecidableEq

namespace Packet

/-- The word at the start of every packet. -/
def syncWord : UInt32 := 0xBABEBEBA

/-- The bytes in front of the data: five words and the count. -/
def headerSize : Nat := 24

/-- The bytes of the sum that the firmware sends. -/
def checksumSize : Nat := 8

/-- The sum of the header words and the data length. -/
def checksum (packet : Packet) : UInt64 :=
  syncWord.toUInt64 + packet.point.raw.toUInt64 + packet.format.toUInt64 + packet.clockHigh.toUInt64 +
    packet.clockLow.toUInt64 + UInt64.ofNat packet.data.length

/-- The header as it is shown to a person. -/
def text (packet : Packet) : String :=
  "Probe packet header \x7b probe point id \x7b" ++ packet.point.text ++ "\x7d syncWord=" ++
    Text.hexWord syncWord.toNat ++ ", format=" ++ Text.hexWord packet.format.toNat ++
    ", dspWallClockTsHw=" ++ Text.hexWord packet.clockHigh.toNat ++ ", dspWallClockTsLw=" ++
    Text.hexWord packet.clockLow.toNat ++ ", dataSize=" ++ Text.hexWord packet.data.length ++ " \x7d"

/-- Everything in front of the sum. -/
def writeBody (packet : Packet) : List UInt8 :=
  Wire.write (syncWord, packet.point, packet.format, packet.clockHigh, packet.clockLow, packet.data)

/-- The packet with a sum of four bytes, as clients read it. -/
def writeCompact (packet : Packet) : List UInt8 :=
  packet.writeBody ++ Wire.write packet.checksum.toUInt32

/-- Reads the sync word and refuses any other. -/
def readSync : Decoder Unit := do
  let found : UInt32 ← Wire.read
  if found = syncWord then pure () else Decoder.reject (.syncWord syncWord found)

instance : Wire Packet where
  read := do
    readSync
    let (point, format, clockHigh, clockLow, data) ← Wire.read
    let packet : Packet := { point, format, clockHigh, clockLow, data }
    let found : UInt64 ← Wire.read
    if found = packet.checksum then pure packet
    else Decoder.reject (.checksum packet.checksum found packet.text)
  write packet := packet.writeBody ++ Wire.write packet.checksum
  size := none

/-- The data count in a header. Only the sync word is checked, so that a caller can decide whether the
rest of the packet is worth waiting for. -/
def peekDataSize (header : List UInt8) : Except WireError Nat :=
  let reader : Decoder Nat := do
    readSync
    let _ ← Decoder.take 16
    let count : UInt32 ← Wire.read
    pure count.toNat
  match reader header with
  | .ok count _ => .ok count
  | .error cause _ => .error cause

end Packet

end DspInspector
