import DspInspector.Proofs.Control.Accesses
import DspInspector.Proofs.Data.BitFields
import DspInspector.Proofs.Wire.RoundTrip

/-!
# What a request says

Two words in front of a request say where it goes: the words are sums of bit fields that do not overlap
(`toNat_primaryWord`, `MessageHeader.toNat_extended`), so equal words have equal fields. The large messages
tell their kind, module, parameter and payload apart, and instances by the low eight bits of their number
(`LargeMessage.encode_injective`). Two things do not travel: the other eight bits of an instance number, and
the payload of a request that enables an instance.
-/

namespace DspInspector

/-! ## The two words of a header -/

theorem toNat_primaryWord (command : UInt32) (target : InstanceId) :
    (primaryWord command target).toNat =
      target.moduleId.toNat + target.instanceId.toNat % 256 * 2 ^ 16 + command.toNat % 32 * 2 ^ 24 := by
  have module := target.moduleId.toNat_lt
  have instanceBits : (target.instanceId.toUInt32 &&& 0xFF).toNat = target.instanceId.toNat % 256 :=
    toNat_and_mask 8 rfl target.instanceId.toUInt32
  have commandBits : (command &&& 0x1F).toNat = command.toNat % 32 := toNat_and_mask 5 rfl command
  have low : (target.moduleId.toUInt32 ||| (target.instanceId.toUInt32 &&& 0xFF) <<< UInt32.ofNat 16).toNat =
      target.moduleId.toNat + target.instanceId.toNat % 256 * 2 ^ 16 := by
    rw [toNat_or_shiftLeft module (by omega) (by decide), instanceBits]
    rfl
  show ((target.moduleId.toUInt32 ||| (target.instanceId.toUInt32 &&& 0xFF) <<< UInt32.ofNat 16) |||
    (command &&& 0x1F) <<< UInt32.ofNat 24).toNat = _
  rw [toNat_or_shiftLeft (by omega) (by omega) (by decide), low, commandBits]

/-- Equal first words name the same module, the same low bits of an instance, and the same command. -/
theorem primaryWord_injective {command command' : UInt32} {target target' : InstanceId}
    (same : primaryWord command target = primaryWord command' target') :
    target.moduleId = target'.moduleId ∧
      target.instanceId.toNat % 256 = target'.instanceId.toNat % 256 ∧
      command.toNat % 32 = command'.toNat % 32 := by
  have sums := congrArg UInt32.toNat same
  rw [toNat_primaryWord, toNat_primaryWord] at sums
  have module := target.moduleId.toNat_lt
  have module' := target'.moduleId.toNat_lt
  refine ⟨UInt16.toNat_inj.mp ?_, ?_, ?_⟩ <;> omega

theorem MessageHeader.toNat_extended (command : UInt32) (target : InstanceId) (parameter : UInt32) (size : Nat) :
    (MessageHeader.of command target parameter size).extended.toNat =
      min size payloadLimit + parameter.toNat % 256 * 2 ^ 20 := by
  have limit : payloadLimit = 4096 := rfl
  have parameterBits : (parameter &&& 0xFF).toNat = parameter.toNat % 256 := toNat_and_mask 8 rfl parameter
  have sizeBits : (UInt32.ofNat (min size payloadLimit) &&& 0xFFFFF).toNat =
      (UInt32.ofNat (min size payloadLimit)).toNat % 2 ^ 20 := toNat_and_mask 20 rfl _
  have small : (UInt32.ofNat (min size payloadLimit)).toNat = min size payloadLimit :=
    UInt32.toNat_ofNat_of_lt' (by rw [limit]; exact Nat.lt_of_le_of_lt (Nat.min_le_right _ _) (by decide))
  show ((UInt32.ofNat (min size payloadLimit) &&& 0xFFFFF) ||| (parameter &&& 0xFF) <<< UInt32.ofNat 20).toNat = _
  rw [toNat_or_shiftLeft (by omega) (by omega) (by decide)]
  omega

/-! ## Messages -/

/-- Values that are echoed are told apart by their bytes, and so is what follows them. -/
theorem Wire.Echoed.append_inj {α : Type} [Wire α] {value value' : α} {rest rest' : List UInt8}
    (echoed : Wire.Echoed value) (echoed' : Wire.Echoed value')
    (same : Wire.write value ++ rest = Wire.write value' ++ rest') : value = value' ∧ rest = rest' := by
  have read := echoed rest
  rw [same, echoed' rest'] at read
  cases read
  exact ⟨rfl, rfl⟩

/-- Whatever the sizes in front say, equal requests have equal headers and go on with equal bytes. -/
theorem header_inj {size size' : Nat} {header header' : MessageHeader} {tail tail' : List UInt8}
    (same : littleEndian 4 size ++ (Wire.write header ++ tail) =
      littleEndian 4 size' ++ (Wire.write header' ++ tail')) : header = header' ∧ tail = tail' := by
  have behindSize := List.append_inj_right same (by rw [length_littleEndian, length_littleEndian])
  exact Wire.Echoed.append_inj (Wire.Faithful.echoed _) (Wire.Faithful.echoed _) behindSize

theorem ShortMessage.encode_eq (message : ShortMessage) :
    message.encode = littleEndian 4 8 ++ (Wire.write (MessageHeader.mk message.primary message.extended) ++ []) := by
  rw [List.append_nil]
  rfl

namespace LargeMessage

/-- The bytes behind the first header. -/
def tail (message : LargeMessage) : List UInt8 :=
  (match message.tunnel with
    | some tunnel => Wire.write tunnel
    | none => []) ++ message.payload

theorem encode_eq (message : LargeMessage) :
    message.encode = littleEndian 4 (min (message.headerBytes + message.payload.length) payloadLimit) ++
      (Wire.write message.header ++ message.tail) := by
  refine (List.append_assoc _ _ _).trans ((List.append_assoc _ _ _).trans ?_)
  rfl

theorem of_tunneled {parameter : UInt32} (tunneled : needsTunnel parameter = true) (kind : MessageKind)
    (target : InstanceId) (size : Nat) (payload : List UInt8) :
    (of kind target parameter size payload).header =
        .of (command kind) target tunnelParameter (size + TunnelHeader.bytes) ∧
      (of kind target parameter size payload).tail =
        Wire.write (TunnelHeader.mk parameter (UInt32.ofNat (min (size + TunnelHeader.bytes) payloadLimit))) ++
          payload := by
  rw [of, if_pos tunneled]
  exact ⟨rfl, rfl⟩

theorem of_direct {parameter : UInt32} (direct : ¬ needsTunnel parameter = true) (kind : MessageKind)
    (target : InstanceId) (size : Nat) (payload : List UInt8) :
    (of kind target parameter size payload).header = .of (command kind) target parameter size ∧
      (of kind target parameter size payload).tail = payload := by
  rw [of, if_neg direct]
  exact ⟨rfl, rfl⟩

/-- Only one parameter is not tunneled. -/
theorem eq_of_direct {parameter : UInt32} (direct : ¬ needsTunnel parameter = true) :
    parameter = (ParameterId.ofInstance .props).raw := by
  simpa [needsTunnel] using direct

/-- The header of a tunneled request names a parameter that no direct request names. -/
theorem extended_ne {command command' : UInt32} {target target' : InstanceId} {parameter : UInt32} {size size' : Nat}
    (direct : ¬ needsTunnel parameter = true) :
    (MessageHeader.of command target tunnelParameter size).extended ≠
      (MessageHeader.of command' target' parameter size').extended := by
  intro same
  have sums := congrArg UInt32.toNat same
  rw [MessageHeader.toNat_extended, MessageHeader.toNat_extended, eq_of_direct direct] at sums
  have limit : payloadLimit = 4096 := rfl
  have tunnel : tunnelParameter.toNat = 255 := rfl
  have props : (ParameterId.ofInstance .props).raw.toNat = 254 := rfl
  omega

/-- The first word of a large message tells the kind and the target. -/
theorem primary_of (kind : MessageKind) (target : InstanceId) (parameter : UInt32) (size : Nat)
    (payload : List UInt8) :
    (of kind target parameter size payload).header.primary = primaryWord (command kind) target := by
  unfold of
  split <;> rfl

/-- Equal requests agree in everything that travels. -/
theorem encode_injective {kind kind' : MessageKind} {target target' : InstanceId} {parameter parameter' : UInt32}
    {size size' : Nat} {payload payload' : List UInt8}
    (same : (of kind target parameter size payload).encode = (of kind' target' parameter' size' payload').encode) :
    primaryWord (command kind) target = primaryWord (command kind') target' ∧ parameter = parameter' ∧
      payload = payload' := by
  rw [encode_eq, encode_eq] at same
  obtain ⟨header, tail⟩ := header_inj same
  by_cases tunneled : needsTunnel parameter = true <;> by_cases tunneled' : needsTunnel parameter' = true
  · obtain ⟨headerEq, tailEq⟩ := of_tunneled tunneled kind target size payload
    obtain ⟨headerEq', tailEq'⟩ := of_tunneled tunneled' kind' target' size' payload'
    rw [headerEq, headerEq'] at header
    rw [tailEq, tailEq'] at tail
    obtain ⟨tunnel, payloads⟩ := Wire.Echoed.append_inj (Wire.Faithful.echoed _) (Wire.Faithful.echoed _) tail
    exact ⟨congrArg MessageHeader.primary header, congrArg TunnelHeader.parameter tunnel, payloads⟩
  · rw [(of_tunneled tunneled kind target size payload).1,
      (of_direct tunneled' kind' target' size' payload').1] at header
    exact absurd (congrArg MessageHeader.extended header) (extended_ne tunneled')
  · rw [(of_direct tunneled kind target size payload).1,
      (of_tunneled tunneled' kind' target' size' payload').1] at header
    exact absurd (congrArg MessageHeader.extended header).symm (extended_ne tunneled)
  · obtain ⟨headerEq, tailEq⟩ := of_direct tunneled kind target size payload
    obtain ⟨headerEq', tailEq'⟩ := of_direct tunneled' kind' target' size' payload'
    rw [headerEq, headerEq'] at header
    rw [tailEq, tailEq'] at tail
    exact ⟨congrArg MessageHeader.primary header, (eq_of_direct tunneled).trans (eq_of_direct tunneled').symm, tail⟩

end LargeMessage

namespace DebugFs

/-! ## Requests at the control entry -/

/-- The short message that enables an instance is no large message. -/
theorem short_ne_large (target target' : InstanceId) (parameter parameter' : UInt32) (payload : List UInt8) :
    (ShortMessage.of .set target parameter).encode ≠
      (LargeMessage.of .set target' parameter' payload.length payload).encode := by
  intro same
  rw [ShortMessage.encode_eq, LargeMessage.encode_eq] at same
  have words := congrArg MessageHeader.primary (header_inj same).1
  rw [LargeMessage.primary_of] at words
  exact absurd (primaryWord_injective words).2.2 (by decide)

/-- Equal requests to write are about the same module, parameter and payload, but for a payload that
enables an instance, which is not sent. -/
theorem configureRequest_injective {target target' : InstanceId} {parameter parameter' : ParameterId}
    {payload payload' : List UInt8}
    (same : configureRequest target parameter payload = configureRequest target' parameter' payload') :
    target.moduleId = target'.moduleId ∧
      target.instanceId.toNat % 256 = target'.instanceId.toNat % 256 ∧ parameter = parameter' ∧
      (parameter ≠ .ofInstance .enable → payload = payload') := by
  unfold configureRequest at same
  split at same <;> split at same
  · rename_i enable enable'
    rw [ShortMessage.encode_eq, ShortMessage.encode_eq] at same
    have words := congrArg MessageHeader.primary (header_inj same).1
    obtain ⟨modules, instances, _⟩ := primaryWord_injective words
    exact ⟨modules, instances, enable.trans enable'.symm, fun other => absurd enable other⟩
  · exact absurd same (short_ne_large _ _ _ _ _)
  · exact absurd same.symm (short_ne_large _ _ _ _ _)
  · obtain ⟨words, parameters, payloads⟩ := LargeMessage.encode_injective same
    obtain ⟨modules, instances, _⟩ := primaryWord_injective words
    exact ⟨modules, instances, congrArg ParameterId.mk parameters, fun _ => payloads⟩

theorem queryMessage_injective {target target' : InstanceId} {parameter parameter' : ParameterId}
    {capacity capacity' : Nat}
    (same : (queryMessage target parameter capacity).encode = (queryMessage target' parameter' capacity').encode) :
    target.moduleId = target'.moduleId ∧
      target.instanceId.toNat % 256 = target'.instanceId.toNat % 256 ∧ parameter = parameter' := by
  obtain ⟨words, parameters, _⟩ := LargeMessage.encode_injective same
  obtain ⟨modules, instances, _⟩ := primaryWord_injective words
  exact ⟨modules, instances, congrArg ParameterId.mk parameters⟩

variable {δ : Type}

/-- Each access puts one request on the control entry, and accesses with equal requests agree in module and
parameter, in the low eight bits of the instance number, and where they write in the payload, unless it
enables an instance. -/
theorem request_names_access {device : ControlDevice δ} {entries : ControlEntries}
    {first second : CountedDevice (Recording δ)} (firstWakes : entries.Wakes device first.device.device)
    (secondWakes : entries.Wakes device second.device.device) (target target' : InstanceId)
    (parameter parameter' : ParameterId) :
    (∀ payload payload' : List UInt8, payload.length ≤ payloadLimit → payload'.length ≤ payloadLimit →
      ∃ request request',
        Records (Visit entries (.write entries.control request))
          (Connection.setParameter (transport entries device.recorded) target parameter payload) first ∧
        Records (Visit entries (.write entries.control request'))
          (Connection.setParameter (transport entries device.recorded) target' parameter' payload') second ∧
        (request = request' → target.moduleId = target'.moduleId ∧
          target.instanceId.toNat % 256 = target'.instanceId.toNat % 256 ∧ parameter = parameter' ∧
          (parameter ≠ .ofInstance .enable → payload = payload'))) ∧
    (∀ capacity capacity' : Nat, ∃ request request',
      Records (Visit entries (.read entries.control request payloadLimit))
        (query entries device.recorded target parameter capacity) first ∧
      Records (Visit entries (.read entries.control request' payloadLimit))
        (query entries device.recorded target' parameter' capacity') second ∧
      (request = request' → target.moduleId = target'.moduleId ∧
        target.instanceId.toNat % 256 = target'.instanceId.toNat % 256 ∧ parameter = parameter')) := by
  refine ⟨?_, ?_⟩
  · intro payload payload' fits fits'
    exact ⟨_, _, records_setParameter firstWakes target parameter fits,
      records_setParameter secondWakes target' parameter' fits', configureRequest_injective⟩
  · intro capacity capacity'
    exact ⟨_, _, records_query firstWakes target parameter capacity,
      records_query secondWakes target' parameter' capacity', queryMessage_injective⟩

/-- A device that takes every write. -/
def willing : ControlDevice DeviceScript :=
  DeviceScript.device id (fun script _ => script) fun _ script => script

/-- That device, before any access. -/
def untouched : CountedDevice (Recording DeviceScript) := ⟨⟨⟨[], []⟩, []⟩, .zero⟩

theorem willing_wakes : ControlEntries.standard.Wakes willing untouched.device.device := ⟨_, rfl⟩

/-- Two instances that differ in one bit. -/
theorem request_names_instance :
    ControlEntries.standard.Wakes willing untouched.device.device ∧ [0xAA].length ≤ payloadLimit ∧
      ∃ request request',
        Records (Visit .standard (.write ControlEntries.standard.control request))
          (Connection.setParameter (transport .standard willing.recorded) ⟨5, 1⟩ ⟨0x20⟩ [0xAA]) untouched ∧
        Records (Visit .standard (.write ControlEntries.standard.control request'))
          (Connection.setParameter (transport .standard willing.recorded) ⟨5, 3⟩ ⟨0x20⟩ [0xAA]) untouched ∧
        request ≠ request' := by
  have small : [0xAA].length ≤ payloadLimit := by decide
  obtain ⟨request, request', one, other, named⟩ :=
    (request_names_access willing_wakes willing_wakes ⟨5, 1⟩ ⟨5, 3⟩ ⟨0x20⟩ ⟨0x20⟩).1 [0xAA] [0xAA] small small
  refine ⟨willing_wakes, small, request, request', one, other, fun same => ?_⟩
  exact absurd (named same).2.1 (by decide)

/-- Requests that are shared: between instances whose numbers have the same low eight bits, for writing and
for reading, and between payloads that enable an instance. -/
theorem request_shared :
    (∃ request,
      Records (Visit .standard (.write ControlEntries.standard.control request))
        (Connection.setParameter (transport .standard willing.recorded) ⟨5, 1⟩ ⟨0x20⟩ [0xAA]) untouched ∧
      Records (Visit .standard (.write ControlEntries.standard.control request))
        (Connection.setParameter (transport .standard willing.recorded) ⟨5, 257⟩ ⟨0x20⟩ [0xAA]) untouched) ∧
    (∃ request,
      Records (Visit .standard (.write ControlEntries.standard.control request))
        (Connection.setParameter (transport .standard willing.recorded) ⟨9, 2⟩ (.ofInstance .enable) [1]) untouched ∧
      Records (Visit .standard (.write ControlEntries.standard.control request))
        (Connection.setParameter (transport .standard willing.recorded) ⟨9, 2⟩ (.ofInstance .enable) [2]) untouched) ∧
    (∃ request,
      Records (Visit .standard (.read ControlEntries.standard.control request payloadLimit))
        (query .standard willing.recorded ⟨5, 1⟩ ⟨0x20⟩ 64) untouched ∧
      Records (Visit .standard (.read ControlEntries.standard.control request payloadLimit))
        (query .standard willing.recorded ⟨5, 257⟩ ⟨0x20⟩ 64) untouched) := by
  have written : configureRequest ⟨5, 1⟩ ⟨0x20⟩ [0xAA] = configureRequest ⟨5, 257⟩ ⟨0x20⟩ [0xAA] := by decide
  have enabled : configureRequest ⟨9, 2⟩ (.ofInstance .enable) [1] =
      configureRequest ⟨9, 2⟩ (.ofInstance .enable) [2] := by decide
  have asked : (queryMessage ⟨5, 1⟩ ⟨0x20⟩ 64).encode = (queryMessage ⟨5, 257⟩ ⟨0x20⟩ 64).encode := by decide
  refine ⟨⟨_, records_setParameter willing_wakes _ _ (by decide), ?_⟩,
    ⟨_, records_setParameter willing_wakes _ _ (by decide), ?_⟩, ⟨_, records_query willing_wakes _ _ _, ?_⟩⟩
  · rw [written]
    exact records_setParameter willing_wakes _ _ (by decide)
  · rw [enabled]
    exact records_setParameter willing_wakes _ _ (by decide)
  · rw [asked]
    exact records_query willing_wakes _ _ _

end DebugFs

end DspInspector
