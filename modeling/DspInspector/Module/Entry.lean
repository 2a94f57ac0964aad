import DspInspector.Wire.Basic
import DspInspector.Text.Hex
import DspInspector.Text.Utf8

/-!
# The module table

One entry per module type that the firmware contains: a short name, a UUID, attribute words and the
memory segments of its code.
-/

namespace DspInspector

/-- Attributes of a memory segment in one word. -/
structure SegmentFlags where
  raw : UInt32
  deriving DecidableEq, Inhabited

namespace SegmentFlags

/-- The segment holds code. -/
def isCode (flags : SegmentFlags) : Bool := flags.raw &&& 0x10 != 0

/-- The segment holds data. -/
def isData (flags : SegmentFlags) : Bool := flags.raw &&& 0x20 != 0

/-- The kind of segment. -/
def kind (flags : SegmentFlags) : UInt32 := (flags.raw >>> 8) &&& 0xF

/-- The length of the segment in pages. -/
def pages (flags : SegmentFlags) : UInt32 := flags.raw >>> 16

end SegmentFlags

/-- A memory segment of a module. -/
structure Segment where
  flags : SegmentFlags
  baseAddress : UInt32
  fileOffset : UInt32
  deriving DecidableEq, Inhabited

instance : Wire Segment :=
  Wire.via (fun (flags, baseAddress, fileOffset) => ⟨⟨flags⟩, baseAddress, fileOffset⟩)
    (fun segment => (segment.flags.raw, segment.baseAddress, segment.fileOffset))

/-- How a module is loaded and scheduled, in one word. -/
structure ModuleType where
  raw : UInt32
  deriving DecidableEq, Inhabited

namespace ModuleType

/-- The kind of loading. -/
def loadType (type : ModuleType) : UInt32 := type.raw &&& 0xF

/-- The module is started with the firmware. -/
def autoStart (type : ModuleType) : Bool := type.raw &&& 0x10 != 0

/-- The module can run in the low-latency domain. -/
def lowLatency (type : ModuleType) : Bool := type.raw &&& 0x20 != 0

/-- The module can run in the data-processing domain. -/
def dataProcessing (type : ModuleType) : Bool := type.raw &&& 0x40 != 0

end ModuleType

/-- The hash of a module image. On the wire it always has `Digest.size` bytes. -/
structure Digest where
  bytes : List UInt8
  deriving DecidableEq, Inhabited

namespace Digest

/-- The bytes of a SHA-256 hash. -/
def size : Nat := 32

/-- A hash of another length is cut or filled with zeros. -/
instance : Wire Digest where
  read := do
    let bytes ← Decoder.take size
    pure ⟨bytes⟩
  write digest := (digest.bytes ++ List.replicate size 0).take size
  size := some size

end Digest

/-- One entry of the module table. -/
structure ModuleEntry where
  moduleId : UInt16
  stateFlags : UInt16
  nameBytes : Vector UInt8 8
  /-- Four little-endian words. -/
  uuid : Vector UInt32 4
  moduleType : ModuleType
  hash : Digest
  entryPoint : UInt32
  configOffset : UInt16
  configCount : UInt16
  /-- The cores that may run the module. -/
  affinityMask : UInt32
  instanceMaxCount : UInt16
  /-- The stack of each instance task in bytes. -/
  instanceStackSize : UInt16
  segments : Vector Segment 3
  deriving DecidableEq

namespace ModuleEntry

/-- An entry with a name cut or filled with zeros to eight bytes, and nothing else. -/
def named (moduleId : UInt16) (name : List UInt8) : ModuleEntry where
  moduleId
  stateFlags := 0
  nameBytes := Vector.ofFn fun i => name.getD i 0
  uuid := Vector.replicate 4 0
  moduleType := ⟨0⟩
  hash := ⟨List.replicate Digest.size 0⟩
  entryPoint := 0
  configOffset := 0
  configCount := 0
  affinityMask := 0
  instanceMaxCount := 0
  instanceStackSize := 0
  segments := Vector.replicate 3 default

/-- The name up to the first zero byte. -/
def name (entry : ModuleEntry) : String :=
  Text.lossyText (entry.nameBytes.toList.takeWhile (· != 0))

/-- The UUID in upper-case registry form: the first three fields are stored little-endian, the last
eight bytes in order. -/
def uuidChars (entry : ModuleEntry) : List Char :=
  let bytes := entry.uuid.toList.flatMap Wire.write
  let hex (bytes : List UInt8) : List Char := bytes.flatMap fun byte => Text.hexPadded true 2 byte.toNat
  Text.hexPadded true 8 entry.uuid[0].toNat ++
    '-' :: Text.hexPadded true 4 (ofLittleEndian ((bytes.drop 4).take 2)) ++
    '-' :: Text.hexPadded true 4 (ofLittleEndian ((bytes.drop 6).take 2)) ++
    '-' :: hex ((bytes.drop 8).take 2) ++
    '-' :: hex (bytes.drop 10)

/-- The UUID as it is shown to a person. -/
def uuidText (entry : ModuleEntry) : String := String.ofList entry.uuidChars

instance : Wire ModuleEntry :=
  Wire.via
    (fun (moduleId, stateFlags, nameBytes, uuid, moduleType, hash, entryPoint, configOffset,
        configCount, affinityMask, instanceMaxCount, instanceStackSize, segments) =>
      { moduleId, stateFlags, nameBytes, uuid, moduleType := ⟨moduleType⟩, hash, entryPoint,
        configOffset, configCount, affinityMask, instanceMaxCount, instanceStackSize, segments })
    (fun entry => (entry.moduleId, entry.stateFlags, entry.nameBytes, entry.uuid,
      entry.moduleType.raw, entry.hash, entry.entryPoint, entry.configOffset, entry.configCount,
      entry.affinityMask, entry.instanceMaxCount, entry.instanceStackSize, entry.segments))

/-- The size of a module table with `count` entries. -/
def listSize (count : Nat) : Nat := 4 + count * 116

end ModuleEntry

end DspInspector
