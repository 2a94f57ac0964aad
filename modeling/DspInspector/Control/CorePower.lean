import DspInspector.Fault
import DspInspector.Data.Action
import DspInspector.Text.Utf8

/-!
# Control entries and core power

The driver is reached through control entries, which take a request and may give a reply. One of
them counts votes for each core: a core stays awake as long as there are more votes to wake it than
to let it sleep, so each wake vote needs its sleep vote.
-/

namespace DspInspector

/-- Byte-level access to control entries, as actions on the state `δ` of the device. -/
structure ControlDevice (δ : Type) where
  /-- Writes a request to an entry and reads back at most `capacity` bytes. -/
  read : (path : String) → (request : List UInt8) → (capacity : Nat) → Action Fault δ (List UInt8)
  /-- Writes a request to an entry. -/
  write : (path : String) → (request : List UInt8) → Action Fault δ Unit

/-- The entry that counts the votes, and the core to vote for. -/
structure CorePower where
  path : String
  coreId : UInt32
  deriving DecidableEq

namespace CorePower

variable {δ : Type}

/-- The request that casts a vote. -/
def vote (verb : String) (power : CorePower) : List UInt8 :=
  Text.utf8 s!"{verb} {power.coreId.toNat}"

/-- Casts a vote. -/
def cast (device : ControlDevice δ) (verb : String) (power : CorePower) : Action Fault δ Unit :=
  Action.mapError (fun cause => .transport (.corePower cause.message)) <|
    device.write power.path (power.vote verb)

/-- Votes against sleep. -/
def wake (device : ControlDevice δ) (power : CorePower) : Action Fault δ Unit := power.cast device "wake"

/-- Takes a vote against sleep back. -/
def sleep (device : ControlDevice δ) (power : CorePower) : Action Fault δ Unit := power.cast device "sleep"

/-- Does something while the core is awake. When the wake vote fails nothing is done; else the sleep
vote follows whatever came of it, and its own failure is passed over. -/
def whileAwake {α : Type} (device : ControlDevice δ) (power : CorePower)
    (action : Action Fault δ α) : Action Fault δ α := do
  power.wake device
  let outcome ← action.attempt
  let _ ← (power.sleep device).attempt
  Action.ofExcept outcome

end CorePower

end DspInspector
