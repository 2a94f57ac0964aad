import DspInspector.Probe.Service
import DspInspector.Proofs.Control.Transcripts
import DspInspector.Proofs.Data.BitFields
import DspInspector.Proofs.Probe.Slots

/-!
# The sizes of samples

Before a session is started, the size of a sample is found out for every point that samples are injected at. The
point is a packed word: it names the instance that is asked (`ProbePoint.owner`), and one of its pins
(`ProbePoint.Addresses`). The reply decides, and nothing else does: it gives a size (`ProbePoint.Measured`) or it is
refused (`ProbePoint.Refused`). The slots are gone through in order, up to the first one that is refused.
-/

namespace DspInspector

/-! ## Points -/

namespace ProbePoint

variable (point : ProbePoint)

/-- The instance that the point sits on: sixteen bits of module id, and eight above them. -/
def owner : InstanceId :=
  ⟨UInt16.ofNat (point.raw.toNat % 2 ^ 16), UInt16.ofNat (point.raw.toNat / 2 ^ 16 % 2 ^ 8)⟩

/-- Two bits for the side of the module. -/
def side : Nat := point.raw.toNat / 2 ^ 24 % 2 ^ 2

/-- The place of the pin is what stands above. -/
def place : Nat := point.raw.toNat / 2 ^ 26

theorem toNat_field {shift width : Nat} (small : shift < 32) {ones : UInt32} (mask : ones.toNat = 2 ^ width - 1) :
    (point.raw >>> UInt32.ofNat shift &&& ones).toNat = point.raw.toNat / 2 ^ shift % 2 ^ width := by
  rw [toNat_and_mask width mask, UInt32.toNat_shiftRight, UInt32.toNat_ofNat', Nat.mod_mod_of_dvd _ (by decide),
    Nat.mod_eq_of_lt small, Nat.shiftRight_eq_div_pow]

theorem owner_eq : (⟨point.moduleId.toUInt16, point.instanceId.toUInt16⟩ : InstanceId) = point.owner := by
  have module : point.moduleId.toNat = point.raw.toNat / 2 ^ 0 % 2 ^ 16 :=
    point.toNat_field (by decide) (by decide)
  have instanceOf : point.instanceId.toNat = point.raw.toNat / 2 ^ 16 % 2 ^ 8 :=
    point.toNat_field (by decide) (by decide)
  rw [Nat.pow_zero, Nat.div_one] at module
  rw [owner, ← module, ← instanceOf]
  rfl

theorem toNat_index : point.index.toNat = point.place := by
  have index : point.index.toNat = point.raw.toNat / 2 ^ 26 % 2 ^ 6 := point.toNat_field (by decide) (by decide)
  have small := point.raw.toNat_lt
  rw [index, place]
  omega

theorem type_eq : point.type = Coded.ofRaw (UInt32.ofNat point.side) := by
  have side : (point.field 24 2).toNat = point.raw.toNat / 2 ^ 24 % 2 ^ 2 :=
    point.toNat_field (by decide) (by decide)
  rw [type, ProbePoint.side, ← side, UInt32.ofNat_toNat]

/-- The pins on the side of the point: the inputs or the outputs. -/
def Pins (props : InstanceProps) (pins : List Pin) : Prop :=
  point.side = 0 ∧ pins = props.inputPins ∨ point.side = 1 ∧ pins = props.outputPins

/-! ## Replies -/

/-- The reply has the props of an instance, and this is the pin of the point among them. -/
def Addresses (reply : Except Fault (List UInt8)) (pin : Pin) : Prop :=
  ∃ bytes props pins, reply = .ok bytes ∧ Connection.decodeReply InstanceProps bytes = .ok props ∧
    point.Pins props pins ∧ pins[point.place]? = some pin

/-- The size that a reply gives. The valid bits are whole bytes; what the container has beyond whole bytes is lost in
each channel. -/
def Measured (reply : Except Fault (List UInt8)) (size : Nat) : Prop :=
  ∃ pin, point.Addresses reply pin ∧ pin.format.validBitDepth.toNat % 8 = 0 ∧
    8 * size + pin.format.bitDepth.toNat % 8 * pin.format.channels.toNat =
      pin.format.bitDepth.toNat * pin.format.channels.toNat

/-- What is said against a reply. -/
inductive Refused : Except Fault (List UInt8) → Fault → Prop where
  | unanswered {cause : Fault} :
    Refused (.error cause) (.inContext
      (s!"Unable to query parameter 254 of module {point.owner.moduleId.toNat} " ++
        s!"instance {point.owner.instanceId.toNat}") cause)
  | undecodable {bytes : List UInt8} {cause : WireError} (failure : Wire.decode InstanceProps bytes = .error cause) :
    Refused (.ok bytes) (.inContext "Can not decode fw parameter" (.wire cause))
  | neitherSide {bytes : List UInt8} {props : InstanceProps} (beyond : 2 ≤ point.side)
    (decoded : Connection.decodeReply InstanceProps bytes = .ok props) :
    Refused (.ok bytes) (.probe (.unsupportedPinType (Coded.ofRaw (UInt32.ofNat point.side))))
  | noPin {bytes : List UInt8} {props : InstanceProps} {pins : List Pin}
    (decoded : Connection.decodeReply InstanceProps bytes = .ok props) (side : point.Pins props pins)
    (beyond : pins.length ≤ point.place) :
    Refused (.ok bytes) (.probe (.invalidPinIndex point.index pins.length))
  | partOfByte {reply : Except Fault (List UInt8)} {pin : Pin} (addresses : point.Addresses reply pin)
    (part : pin.format.validBitDepth.toNat % 8 ≠ 0) :
    Refused reply (.probe (.unsupportedBitDepth pin.format.validBitDepth.toNat))

variable {point}

theorem Pins.unique {props : InstanceProps} {pins others : List Pin} (one : point.Pins props pins)
    (other : point.Pins props others) : pins = others := by
  rcases one with ⟨side, rfl⟩ | ⟨side, rfl⟩
  · rcases other with ⟨-, rfl⟩ | ⟨another, -⟩
    · rfl
    · omega
  · rcases other with ⟨another, -⟩ | ⟨-, rfl⟩
    · omega
    · rfl

theorem Addresses.unique {reply : Except Fault (List UInt8)} {pin other : Pin} (one : point.Addresses reply pin)
    (another : point.Addresses reply other) : pin = other := by
  obtain ⟨bytes, props, pins, rfl, decoded, side, found⟩ := one
  obtain ⟨_, _, _, same, decodedAgain, sideAgain, foundAgain⟩ := another
  cases same
  cases decoded.symm.trans decodedAgain
  cases side.unique sideAgain
  exact Option.some.inj (found.symm.trans foundAgain)

/-- A slot that is refused has no size. -/
theorem Refused.not_measured {reply : Except Fault (List UInt8)} {cause : Fault} (refused : point.Refused reply cause)
    (size : Nat) : ¬ point.Measured reply size := by
  rintro ⟨pin, addresses, whole, -⟩
  cases refused with
  | unanswered =>
    obtain ⟨_, _, _, answered, -⟩ := addresses
    cases answered
  | undecodable failure =>
    obtain ⟨_, _, _, answered, decoded, -⟩ := addresses
    cases answered
    rw [Connection.decodeReply, failure] at decoded
    cases decoded
  | neitherSide beyond _ =>
    obtain ⟨_, _, _, _, _, ⟨side, -⟩ | ⟨side, -⟩, -⟩ := addresses
    · omega
    · omega
  | noPin decoded side beyond =>
    obtain ⟨_, _, _, answered, decodedAgain, sideAgain, found⟩ := addresses
    cases answered
    cases decoded.symm.trans decodedAgain
    cases side.unique sideAgain
    rw [List.getElem?_eq_none beyond] at found
    cases found
  | partOfByte addressed part =>
    rw [addresses.unique addressed] at whole
    exact part whole

/-- The bits that have no place are those of the last byte of the container, once for each channel. -/
theorem Measured.eq_iff {reply : Except Fault (List UInt8)} {size : Nat} {pin : Pin}
    (measured : point.Measured reply size) (addresses : point.Addresses reply pin) :
    8 * size = pin.format.bitDepth.toNat * pin.format.channels.toNat ↔
      8 ∣ pin.format.bitDepth.toNat ∨ pin.format.channels.toNat = 0 := by
  obtain ⟨other, addressed, -, bits⟩ := measured
  cases addresses.unique addressed
  have lost : 8 * size = pin.format.bitDepth.toNat * pin.format.channels.toNat ↔
      pin.format.bitDepth.toNat % 8 * pin.format.channels.toNat = 0 := by omega
  rw [lost, Nat.mul_eq_zero, Nat.dvd_iff_mod_eq_zero]

variable (point)

/-- The choice of the side, as the service makes it. -/
def pinsIn (props : InstanceProps) : Except Fault (List Pin) :=
  match point.type with
  | .known .input => .ok props.inputPins
  | .known .output => .ok props.outputPins
  | other => .error (.probe (.unsupportedPinType other))

/-- There are two sides with pins. The third has a name, and the fourth has none. -/
theorem pinsIn_spec (props : InstanceProps) :
    (∃ pins, point.pinsIn props = .ok pins ∧ point.Pins props pins) ∨
      2 ≤ point.side ∧
        point.pinsIn props = .error (.probe (.unsupportedPinType (Coded.ofRaw (UInt32.ofNat point.side)))) := by
  have small : point.side < 4 := Nat.mod_lt _ (by decide)
  have sides : point.side = 0 ∨ point.side = 1 ∨ point.side = 2 ∨ point.side = 3 := by omega
  rw [pinsIn, type_eq]
  rcases sides with side | side | side | side
  · rw [side]
    exact .inl ⟨_, rfl, .inl ⟨side, rfl⟩⟩
  · rw [side]
    exact .inl ⟨_, rfl, .inr ⟨side, rfl⟩⟩
  · rw [side]
    exact .inr ⟨by decide, rfl⟩
  · rw [side]
    exact .inr ⟨by decide, rfl⟩

end ProbePoint

/-! ## One slot -/

section Slot

open DspInspector.Action

variable {σ : Type} (transport : Transport σ) (point : ProbePoint)

/-- The one question about a point. -/
def ProbePoint.Asked (exchange : Exchange) : Prop :=
  exchange.target = point.owner ∧ exchange.parameter = .ofInstance .props ∧ exchange.capacity = payloadLimit

theorem yields_instanceProps (transcript : Transcript σ) :
    (Connection.instanceProps transport.transcribed point.owner).Yields transcript
      (fun props after => ∃ bytes, Connection.decodeReply InstanceProps bytes = .ok props ∧
        after.exchanges = transcript.exchanges ++ [⟨point.owner, .ofInstance .props, payloadLimit, .ok bytes⟩])
      (fun cause after => ∃ reply, point.Refused reply cause ∧
        after.exchanges = transcript.exchanges ++ [⟨point.owner, .ofInstance .props, payloadLimit, reply⟩]) := by
  rw [Connection.instanceProps, Connection.askValue, yields_bind, Connection.ask, yields_mapError]
  show Action.Yields (Transcript.noting point.owner (.ofInstance .props) payloadLimit _) transcript _ _
  cases ran : transport.query point.owner (.ofInstance .props) payloadLimit transcript.state with
  | error cause after =>
    simp only [Yields, Transcript.noting, ran]
    exact ⟨_, .unanswered, rfl⟩
  | ok bytes after =>
    simp only [Yields, Transcript.noting, ran]
    cases decoded : Connection.decodeReply InstanceProps bytes with
    | ok props => exact ⟨bytes, decoded, rfl⟩
    | error cause =>
      rw [Connection.decodeReply] at decoded
      split at decoded
      · cases decoded
      · rename_i failure
        cases decoded
        exact ⟨_, .undecodable failure, rfl⟩

theorem yields_sampleSize (transcript : Transcript σ) :
    (point.sampleSize transport.transcribed).Yields transcript
      (fun size after => ∃ exchange, point.Asked exchange ∧ point.Measured exchange.reply size ∧
        after.exchanges = transcript.exchanges ++ [exchange])
      (fun cause after => ∃ exchange, point.Asked exchange ∧ point.Refused exchange.reply cause ∧
        after.exchanges = transcript.exchanges ++ [exchange]) := by
  rw [ProbePoint.sampleSize, point.owner_eq, yields_bind]
  refine (yields_instanceProps transport point transcript).mono ?_ ?_
  · rintro props after ⟨bytes, decoded, exchanged⟩
    show (Action.ofExcept (point.pinsIn props) >>= _).Yields after _ _
    rw [yields_bind, yields_ofExcept]
    obtain ⟨pins, taken, side⟩ | ⟨beyond, refused⟩ := point.pinsIn_spec props
    · simp only [taken, point.toNat_index]
      cases found : pins[point.place]? with
      | none =>
        have missing : pins.length ≤ point.place := List.getElem?_eq_none_iff.mp found
        exact ⟨_, ⟨rfl, rfl, rfl⟩, .noPin decoded side missing, exchanged⟩
      | some pin =>
        have addresses : point.Addresses (.ok bytes) pin := ⟨bytes, props, pins, rfl, decoded, side, found⟩
        by_cases whole : pin.format.validBitDepth.toNat % 8 = 0
        · simp only [AudioFormat.sampleBytes, whole, ↓reduceIte]
          refine ⟨_, ⟨rfl, rfl, rfl⟩, ⟨pin, addresses, whole, ?_⟩, exchanged⟩
          rw [← Nat.mul_assoc, ← Nat.add_mul, Nat.div_add_mod]
        · simp only [AudioFormat.sampleBytes, whole, ↓reduceIte]
          exact ⟨_, ⟨rfl, rfl, rfl⟩, .partOfByte addresses whole, exchanged⟩
    · rw [refused]
      exact ⟨_, ⟨rfl, rfl, rfl⟩, .neitherSide beyond decoded, exchanged⟩
  · rintro cause after ⟨reply, refused, exchanged⟩
    exact ⟨_, ⟨rfl, rfl, rfl⟩, refused, exchanged⟩

end Slot

/-! ## The transcript makes no difference -/

section Transcript

variable {σ α β : Type}

/-- Whatever it leaves, the action does to the state what the original does. -/
def Shadows (action : Action Fault (Transcript σ) α) (original : Action Fault σ α) : Prop :=
  Transcribes action original fun _ _ => True

theorem Transcribes.shadows {action : Action Fault (Transcript σ) α} {original : Action Fault σ α}
    {leaves : α → List Exchange → Prop} (transcribes : Transcribes action original leaves) :
    Shadows action original :=
  transcribes.mono fun _ _ _ => trivial

theorem Shadows.bind {action : Action Fault (Transcript σ) α} {original : Action Fault σ α}
    {next : α → Action Fault (Transcript σ) β} {originalNext : α → Action Fault σ β}
    (first : Shadows action original) (second : ∀ value, Shadows (next value) (originalNext value)) :
    Shadows (action >>= next) (original >>= originalNext) :=
  (Transcribes.bind first second).shadows

variable (transport : Transport σ)

theorem shadows_sampleSize (point : ProbePoint) :
    Shadows (point.sampleSize transport.transcribed) (point.sampleSize transport) := by
  refine (transcribes_instanceProps transport _).shadows.bind fun props => ?_
  refine (transcribes_ofExcept _).shadows.bind fun pins => ?_
  cases pins[point.index.toNat]? with
  | none => exact transcribes_throw _
  | some pin =>
    dsimp only
    cases pin.format.sampleBytes with
    | none => exact transcribes_throw _
    | some size => exact (transcribes_pure size).shadows

theorem shadows_sampleSizesOf (probes : List Probe) (slots : List Nat) (sizes : SampleSizes) :
    Shadows (sampleSizesOf transport.transcribed probes slots sizes) (sampleSizesOf transport probes slots sizes) := by
  induction slots generalizing sizes with
  | nil => exact (transcribes_pure sizes).shadows
  | cons slot slots ih => exact (shadows_sampleSize transport _).bind fun size => ih _

end Transcript

/-! ## All slots -/

/-- The slots of the enabled probes that inject, in ascending order. -/
def Injecting (probes : List Probe) (slots : List Nat) : Prop :=
  slots.Pairwise (· < ·) ∧
    ∀ slot, slot ∈ slots ↔
      ∃ probe, probes[slot]? = some probe ∧ probe.enabled = true ∧ probe.purpose.injects = true

theorem injecting_injection (probes : List Probe) : Injecting probes (ActiveSlots.of probes).injection := by
  show Injecting probes (ActiveSlots.slotsWhere (fun probe => probe.enabled && probe.purpose.injects) probes)
  refine ⟨ActiveSlots.pairwise_slotsWhere, fun slot => ?_⟩
  simp only [ActiveSlots.mem_slotsWhere, Bool.and_eq_true]

section Slots

open DspInspector.Action

variable {σ : Type} (transport : Transport σ) (probes : List Probe)

/-- The exchange about a slot, by which the slot has its size. -/
def Sized (entry : Nat × Nat) (exchange : Exchange) : Prop :=
  ∃ probe, probes[entry.1]? = some probe ∧
    probe.point.Asked exchange ∧ probe.point.Measured exchange.reply entry.2

/-- The exchange about a slot that is refused. -/
def Unsized (slot : Nat) (exchange : Exchange) (cause : Fault) : Prop :=
  ∃ probe, probes[slot]? = some probe ∧ probe.point.Asked exchange ∧ probe.point.Refused exchange.reply cause

/-- The slots are gone through in order. The sizes that were there come before the others. -/
theorem yields_sampleSizesOf {slots : List Nat} (sizes : SampleSizes) (there : ∀ slot ∈ slots, slot < probes.length)
    (ascending : (sizes.keys ++ slots).Pairwise (· < ·)) (transcript : Transcript σ) :
    (sampleSizesOf transport.transcribed probes slots sizes).Yields transcript
      (fun result after => ∃ found exchanges,
        result.entries = sizes.entries ++ found ∧ found.map Prod.fst = slots ∧
        after.exchanges = transcript.exchanges ++ exchanges ∧ List.Forall₂ (Sized probes) found exchanges)
      (fun cause after => ∃ found slot later exchanges last,
        found.map Prod.fst ++ slot :: later = slots ∧
        after.exchanges = transcript.exchanges ++ exchanges ++ [last] ∧
        List.Forall₂ (Sized probes) found exchanges ∧ Unsized probes slot last cause) := by
  induction slots generalizing sizes transcript with
  | nil => exact ⟨[], [], (List.append_nil _).symm, rfl, (List.append_nil _).symm, .nil⟩
  | cons slot slots ih =>
    have inside : slot < probes.length := there slot List.mem_cons_self
    have probe : probes[slot]? = some (probes.getD slot Probe.disabled) := by
      rw [List.getD_eq_getElem?_getD, List.getElem?_eq_getElem inside]
      rfl
    rw [sampleSizesOf, yields_bind]
    -- The slots ascend, so the size of each one goes behind those that are there.
    refine (yields_sampleSize transport _ transcript).mono ?_ ?_
    · rintro size between ⟨first, asked, measured, exchanged⟩
      have above : ∀ entry ∈ sizes.entries, Ranked.rank entry.1 < Ranked.rank slot := by
        intro entry member
        have key : entry.1 ∈ sizes.keys := List.mem_map_of_mem member
        exact (List.pairwise_append.mp ascending).2.2 entry.1 key slot List.mem_cons_self
      have grown : (sizes.insert slot size).entries = sizes.entries ++ [(slot, size)] :=
        OrderedMap.insertInto_above above
      have keys : (sizes.insert slot size).keys ++ slots = sizes.keys ++ slot :: slots := by
        rw [OrderedMap.keys, grown, List.map_append, List.append_assoc]
        rfl
      refine (ih _ (fun other member => there other (List.mem_cons_of_mem _ member)) (keys ▸ ascending) between).mono
        ?_ ?_
      · rintro result after ⟨found, exchanges, entries, rfl, added, fits⟩
        refine ⟨(slot, size) :: found, first :: exchanges, ?_, rfl, ?_, .cons ⟨_, probe, asked, measured⟩ fits⟩
        · rw [entries, grown, List.append_assoc]
          rfl
        · rw [added, exchanged, List.append_assoc]
          rfl
      · rintro cause after ⟨found, failing, later, exchanges, last, rfl, added, fits, fails⟩
        refine ⟨(slot, size) :: found, failing, later, first :: exchanges, last, rfl, ?_,
          .cons ⟨_, probe, asked, measured⟩ fits, fails⟩
        rw [added, exchanged, List.append_assoc transcript.exchanges]
        rfl
    · rintro cause after ⟨only, asked, refused, exchanged⟩
      refine ⟨[], slot, slots, [], only, rfl, ?_, .nil, ⟨_, probe, asked, refused⟩⟩
      rw [exchanged, List.append_nil]

/-- The sizes that a session is started with, whatever carries the questions. There is a size for each slot that
injects, and for no other slot: the reply about its point has the pin, and the size is what the reply says. Where there
are no sizes, the slots up to the one that is refused have been asked about, and the slots behind it have not. A size
has all bits of its samples exactly when the container of a channel is a whole number of bytes, or there is none. -/
theorem injection_sizes_match_pins (transcript : Transcript σ) :
    (∃ slots, Injecting probes slots ∧
      (injectionSampleSizes transport.transcribed probes).Yields transcript
        (fun sizes after => injectionSampleSizes transport probes transcript.state = .ok sizes after.state ∧
          sizes.keys = slots ∧
          ∃ exchanges, after.exchanges = transcript.exchanges ++ exchanges ∧
            List.Forall₂ (Sized probes) sizes.entries exchanges)
        (fun cause after => injectionSampleSizes transport probes transcript.state = .error cause after.state ∧
          ∃ earlier slot later exchanges last, earlier.map Prod.fst ++ slot :: later = slots ∧
            after.exchanges = transcript.exchanges ++ exchanges ++ [last] ∧
            List.Forall₂ (Sized probes) earlier exchanges ∧
            Unsized probes slot last cause ∧ ∀ size, ¬ Sized probes (slot, size) last)) ∧
    ∀ point reply size pin, ProbePoint.Measured point reply size → ProbePoint.Addresses point reply pin →
      (8 * size = pin.format.bitDepth.toNat * pin.format.channels.toNat ↔
        8 ∣ pin.format.bitDepth.toNat ∨ pin.format.channels.toNat = 0) := by
  refine ⟨⟨(ActiveSlots.of probes).injection, injecting_injection probes, ?_⟩, ?_⟩
  · obtain ⟨ascending, active⟩ := injecting_injection probes
    have there : ∀ slot ∈ (ActiveSlots.of probes).injection, slot < probes.length := by
      intro slot member
      obtain ⟨probe, found, -⟩ := (active slot).mp member
      exact (List.getElem?_eq_some_iff.mp found).1
    have walked := yields_sampleSizesOf transport probes .empty there ascending transcript
    have shadowed := shadows_sampleSizesOf transport probes (ActiveSlots.of probes).injection .empty transcript
    refine (walked.and shadowed).mono ?_ ?_
    · rintro sizes after ⟨⟨found, exchanges, entries, keys, added, fits⟩, ran, -⟩
      have entries : sizes.entries = found := entries
      subst entries
      exact ⟨ran, keys, exchanges, added, fits⟩
    · rintro cause after ⟨⟨earlier, slot, later, exchanges, last, slots, added, fits, fails⟩, ran⟩
      refine ⟨ran, earlier, slot, later, exchanges, last, slots, added, fits, fails, ?_⟩
      rintro size ⟨other, foundOther, -, measured⟩
      obtain ⟨probe, found, -, refused⟩ := fails
      cases found.symm.trans foundOther
      exact refused.not_measured size measured
  · intro point reply size pin measured addresses
    exact measured.eq_iff addresses

end Slots

/-! ## Two firmwares -/

/-- A firmware whose modules have one pin, an input of this format. -/
def firmwareOf (format : AudioFormat) : Transport Unit where
  query target _ _ := pure (Wire.write { InstanceProps.bare target with inputPins := [.pcm format 0] })
  configure _ _ _ := pure ()

/-- One pin, listened to and played into. -/
def bothWays : List Probe := [⟨true, ⟨1⟩, .extract⟩, ⟨true, ⟨1⟩, .inject⟩]

/-- Stereo in sixteen bits has samples of four bytes. The probe that listens has no size. -/
theorem injection_sizes_match_pins_stereo :
    ∃ sizes, injectionSampleSizes (firmwareOf .standard) bothWays () = .ok sizes () ∧
      Injecting bothWays sizes.keys ∧ sizes.entries = [(1, 4)] ∧
      8 * 4 = AudioFormat.standard.bitDepth.toNat * AudioFormat.standard.channels.toNat := by
  obtain ⟨⟨slots, injecting, answered⟩, whole⟩ :=
    injection_sizes_match_pins (firmwareOf .standard) bothWays ⟨(), []⟩
  have ran : injectionSampleSizes (firmwareOf .standard) bothWays () = .ok (OrderedMap.empty.insert 1 4) () := rfl
  have addresses : ProbePoint.Addresses ⟨1⟩
      (.ok (Wire.write { InstanceProps.bare ⟨1, 0⟩ with inputPins := [.pcm .standard 0] })) (.pcm .standard 0) :=
    ⟨_, _, _, rfl, rfl, .inl ⟨rfl, rfl⟩, rfl⟩
  have bits := whole ⟨1⟩ _ 4 _ ⟨_, addresses, rfl, rfl⟩ addresses
  cases asked : injectionSampleSizes (firmwareOf .standard).transcribed bothWays ⟨(), []⟩ with
  | ok sizes after =>
    obtain ⟨same, rfl, -⟩ := answered.of_ok asked
    cases ran.symm.trans same
    exact ⟨_, ran, injecting, rfl, bits.mpr (.inl (by decide))⟩
  | error cause after =>
    obtain ⟨failed, -⟩ := answered.of_error asked
    cases ran.symm.trans failed

/-- Samples of twenty bits, of which sixteen are valid. -/
def oddFormat : AudioFormat := { AudioFormat.standard with bitDepth := 20, channels := 1 }

/-- Two bytes are taken for a sample of twenty bits: four bits of each sample have no place. -/
theorem odd_container_accepted :
    ∃ sizes, injectionSampleSizes (firmwareOf oddFormat) [⟨true, ⟨1⟩, .inject⟩] () = .ok sizes () ∧
      sizes.entries = [(0, 2)] ∧ 8 * 2 ≠ oddFormat.bitDepth.toNat * oddFormat.channels.toNat :=
  ⟨OrderedMap.empty.insert 0 2, rfl, rfl, by decide⟩

end DspInspector
