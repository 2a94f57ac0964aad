/-!
# Failures of reading

Two things can go wrong while a value is read from bytes: the bytes run out, or they are there and
contradict the format. The wording of both is fixed by `WireError.message`.
-/

namespace DspInspector

/-- What is wrong with bytes that are all there. -/
inductive Malformation where
  /-- A value that had to span the whole buffer left bytes over. -/
  | trailing (count : Nat)
  /-- An extraction packet starts with another word than the sync word. -/
  | syncWord (expected found : UInt32)
  /-- The checksum after an extraction packet is not the sum of its header; the packet is described in words. -/
  | checksum (expected found : UInt64) (packet : String)
  /-- A reason worded elsewhere. -/
  | worded (text : String)
  deriving DecidableEq

/-- The reason as it is shown to a person. -/
def Malformation.message : Malformation → String
  | .trailing count => s!"{count} trailing bytes after value"
  | .syncWord expected found =>
    s!"Invalid sync word in extracted probe packet header. Expected {expected.toNat}, found {found.toNat}"
  | .checksum expected found packet =>
    s!"Header checksum mismatch. Expected {expected.toNat}, found {found.toNat}. " ++
      "While checking integrity of " ++ packet
  | .worded text => text

/-- Why a value could not be read from a run of bytes. -/
inductive WireError where
  /-- The value needs more bytes than are left. -/
  | endOfStream
  | invalid (reason : Malformation)
  deriving DecidableEq

/-- The failure as it is shown to a person. -/
def WireError.message : WireError → String
  | .endOfStream => "Read failed: end of stream reached"
  | .invalid reason => "Invalid value: " ++ reason.message

end DspInspector
