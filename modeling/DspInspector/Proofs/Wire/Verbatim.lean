import DspInspector.Proofs.Wire.RoundTrip

/-!
# Writing undoes reading

The bytes of an accepted value are the bytes of its writer, also when they came from a firmware that no
writer here has seen: an unnamed code, a reserved byte and the low byte of a sample encoding come back as
they were. The property goes through the pieces of a format as `Echoed` does, for all values at once: what
the reader accepts is written as it stood there and is echoed (`Verbatim`). Both halves are needed for a
pair, whose second part is read behind the first.
-/

namespace DspInspector

namespace Wire

open Decoder

variable {α β : Type}

/-- A type whose reader accepts nothing but written values: what it has read stood there as it is
written, and reads the same in front of anything else. -/
class Verbatim (α : Type) [Wire α] : Prop where
  of_read {bytes rest : List UInt8} {value : α} (read : (Wire.read : Decoder α) bytes = .ok value rest) :
    bytes = Wire.write value ++ rest ∧ Echoed value

/-! ## Words and arrangements -/

theorem verbatim_word {width : Nat} {ofNat : Nat → α} {toNat : α → Nat}
    (bound : ∀ value, toNat value < 256 ^ width) (inverse : ∀ value, ofNat (toNat value) = value)
    (whole : ∀ n < 256 ^ width, toNat (ofNat n) = n) : @Verbatim α (word width ofNat toNat) :=
  @Verbatim.mk α (word width ofNat toNat) fun {_ _ value} read =>
    ⟨of_read_word whole read, echoed_word (bound value) (inverse value)⟩

instance : Verbatim UInt8 :=
  verbatim_word UInt8.toNat_lt (fun _ => UInt8.ofNat_toNat) fun _ => UInt8.toNat_ofNat_of_lt
instance : Verbatim UInt16 :=
  verbatim_word UInt16.toNat_lt (fun _ => UInt16.ofNat_toNat) fun _ => UInt16.toNat_ofNat_of_lt
instance : Verbatim UInt32 :=
  verbatim_word UInt32.toNat_lt (fun _ => UInt32.ofNat_toNat) fun _ => UInt32.toNat_ofNat_of_lt
instance : Verbatim UInt64 :=
  verbatim_word UInt64.toNat_lt (fun _ => UInt64.ofNat_toNat) fun _ => UInt64.toNat_ofNat_of_lt

/-- Another arrangement, when it forgets nothing of what it is made from. -/
theorem verbatim_via [Wire β] [Verbatim β] {into : β → α} {outOf : α → β}
    (inverse : ∀ value, outOf (into value) = value) : @Verbatim α (via into outOf) := by
  refine @Verbatim.mk α (via into outOf) fun {bytes rest value} read => ?_
  obtain ⟨arranged, left, readArranged, whole⟩ := bind_eq_ok read
  cases whole
  obtain ⟨stood, echoed⟩ := Verbatim.of_read readArranged
  have back : outOf (into arranged) = arranged := inverse arranged
  refine ⟨?_, echoed_via ?_ ?_⟩
  · show bytes = Wire.write (outOf (into arranged)) ++ rest
    rw [back]
    exact stood
  · rw [back]
    exact echoed
  · rw [back]

instance : Verbatim Int8 := verbatim_via fun _ => rfl
instance : Verbatim Int16 := verbatim_via fun _ => rfl
instance : Verbatim Int32 := verbatim_via fun _ => rfl
instance : Verbatim Int64 := verbatim_via fun _ => rfl

/-! ## Sequences -/

instance [Wire α] [Wire β] [Verbatim α] [Verbatim β] : Verbatim (α × β) where
  of_read {bytes rest pair} read := by
    obtain ⟨between, readFirst, readSecond⟩ := of_read_pair read
    obtain ⟨stoodFirst, echoedFirst⟩ := Verbatim.of_read readFirst
    obtain ⟨stoodSecond, echoedSecond⟩ := Verbatim.of_read readSecond
    refine ⟨?_, echoed_pair echoedFirst echoedSecond⟩
    show bytes = Wire.write pair.1 ++ Wire.write pair.2 ++ rest
    rw [List.append_assoc, ← stoodSecond]
    exact stoodFirst

/-- Values read one after the other stood one after the other. -/
theorem verbatim_many [Wire α] [Verbatim α] {n : Nat} {bytes rest : List UInt8} {values : List α}
    (read : many (Wire.read : Decoder α) n bytes = .ok values rest) :
    bytes = values.flatMap Wire.write ++ rest ∧ ∀ value ∈ values, Echoed value := by
  induction n generalizing bytes values with
  | zero =>
    cases read
    exact ⟨rfl, fun _ member => absurd member List.not_mem_nil⟩
  | succ n ih =>
    obtain ⟨first, between, readFirst, read⟩ := bind_eq_ok read
    obtain ⟨others, _, readOthers, whole⟩ := bind_eq_ok read
    cases whole
    obtain ⟨stoodFirst, echoedFirst⟩ := Verbatim.of_read readFirst
    obtain ⟨stoodOthers, echoedOthers⟩ := ih readOthers
    refine ⟨?_, List.forall_mem_cons.mpr ⟨echoedFirst, echoedOthers⟩⟩
    rw [List.flatMap_cons, List.append_assoc, ← stoodOthers]
    exact stoodFirst

/-- The count that was read is the count of the values, so it is written again in the same bytes. -/
instance [Wire α] [Verbatim α] : Verbatim (List α) where
  of_read {bytes rest values} read := by
    have fits : Fits values := length_lt_of_read read
    obtain ⟨count, left, took, read⟩ := bind_eq_ok read
    obtain ⟨stood, echoed⟩ := verbatim_many read
    have counted : values.length = ofLittleEndian count := length_of_many read
    rw [take_eq] at took
    split at took
    · rename_i enough
      cases took
      have width : (bytes.take 4).length = 4 := List.length_take_of_le enough
      have written : littleEndian 4 (ofLittleEndian (bytes.take 4)) = bytes.take 4 := by
        have := littleEndian_ofLittleEndian (bytes.take 4)
        rwa [width] at this
      refine ⟨?_, echoed_list fits echoed⟩
      show bytes = littleEndian 4 values.length ++ values.flatMap Wire.write ++ rest
      rw [List.append_assoc, ← stood, counted]
      show bytes = littleEndian 4 (ofLittleEndian (bytes.take 4)) ++ bytes.drop 4
      rw [written, List.take_append_drop]
    · cases took

/-- The vector reader appends the members one by one, so the last member is the last bytes. -/
theorem verbatim_vector [Wire α] [Verbatim α] {n : Nat} {bytes rest : List UInt8} {values : Vector α n}
    (read : Decoder.vector (Wire.read : Decoder α) n bytes = .ok values rest) :
    bytes = values.toList.flatMap Wire.write ++ rest ∧ ∀ value ∈ values, Echoed value := by
  induction n generalizing rest with
  | zero =>
    cases read
    exact ⟨rfl, fun _ member => absurd member (Vector.not_mem_empty _)⟩
  | succ n ih =>
    obtain ⟨before, between, readBefore, read⟩ := bind_eq_ok read
    obtain ⟨last, _, readLast, whole⟩ := bind_eq_ok read
    cases whole
    obtain ⟨stoodBefore, echoedBefore⟩ := ih readBefore
    obtain ⟨stoodLast, echoedLast⟩ := Verbatim.of_read readLast
    refine ⟨?_, ?_⟩
    · rw [Vector.toList_push, List.flatMap_append, List.append_assoc, List.flatMap_singleton, ← stoodLast]
      exact stoodBefore
    · intro value member
      obtain earlier | rfl := Vector.mem_push.mp member
      · exact echoedBefore value earlier
      · exact echoedLast

instance [Wire α] [Verbatim α] {n : Nat} : Verbatim (Vector α n) where
  of_read read := by
    obtain ⟨stood, echoed⟩ := verbatim_vector read
    exact ⟨stood, echoed_vector echoed⟩

end Wire

open Wire

/-! ## Enumerations and records -/

/-- A code is kept, with a name or without. -/
theorem Coded.raw_ofRaw {κ : Type} [Enumeration κ] (code : UInt32) : (Coded.ofRaw code : Coded κ).raw = code := by
  unfold Coded.ofRaw
  split
  · rename_i member found
    have same := List.find?_some found
    exact beq_iff_eq.mp same
  · rfl

instance {κ : Type} [Enumeration κ] : Verbatim (Coded κ) := verbatim_via Coded.raw_ofRaw

instance : Verbatim FirmwareVersion := verbatim_via fun _ => rfl
instance : Verbatim DmaBuffer := verbatim_via fun _ => rfl
instance : Verbatim I2sCapabilities := verbatim_via fun _ => rfl
instance : Verbatim GpdmaCapabilities := verbatim_via fun _ => rfl
instance : Verbatim InstanceId := verbatim_via fun _ => rfl
instance : Verbatim ConnectorId := verbatim_via fun _ => rfl
instance : Verbatim Gateway := verbatim_via fun _ => rfl
instance : Verbatim Segment := verbatim_via fun _ => rfl
instance : Verbatim Measurement := verbatim_via fun _ => rfl
instance : Verbatim ProbePoint := verbatim_via fun _ => rfl
instance : Verbatim MessageHeader := verbatim_via fun _ => rfl
instance : Verbatim TunnelHeader := verbatim_via fun _ => rfl
instance : Verbatim BankState := verbatim_via fun _ => rfl
instance : Verbatim ScheduledTask := verbatim_via fun _ => rfl
instance : Verbatim Scheduler := verbatim_via fun _ => rfl
instance : Verbatim CoreSchedule := verbatim_via fun _ => rfl
instance : Verbatim Pipeline := verbatim_via fun _ => rfl

/-- The byte of the sample encoding is the low byte of the code that it becomes. -/
instance : Verbatim AudioFormat := by
  refine verbatim_via ?_
  rintro ⟨frequency, depth, map, config, interleaving, channels, valid, sampleByte, reserved⟩
  have byte : (Coded.ofRaw sampleByte.toUInt32 : Coded SampleType).raw.toUInt8 = sampleByte := by
    rw [Coded.raw_ofRaw]
    exact UInt8.toUInt8_toUInt32 sampleByte
  simp only [byte]

instance : Verbatim Pin := verbatim_via fun _ => rfl
instance : Verbatim InstanceProps := verbatim_via fun _ => rfl

theorem Digest.of_read {bytes rest : List UInt8} {digest : Digest} (read : Wire.read bytes = .ok digest rest) :
    Digest.size ≤ bytes.length ∧ digest = ⟨bytes.take Digest.size⟩ ∧ rest = bytes.drop Digest.size := by
  obtain ⟨taken, left, took, whole⟩ := Decoder.bind_eq_ok read
  cases whole
  rw [Decoder.take_eq] at took
  split at took
  · rename_i enough
    cases took
    exact ⟨enough, rfl, rfl⟩
  · cases took

instance : Verbatim Digest where
  of_read {bytes rest digest} read := by
    obtain ⟨enough, rfl, rfl⟩ := Digest.of_read read
    have length : (bytes.take Digest.size).length = Digest.size := List.length_take_of_le enough
    refine ⟨?_, Digest.echoed length⟩
    show bytes = (bytes.take Digest.size ++ List.replicate Digest.size 0).take Digest.size ++ _
    rw [List.take_left' length, List.take_append_drop]

instance : Verbatim ModuleEntry := verbatim_via fun _ => rfl

/-- The sync word is the one word that is not kept in the value: the writer puts back the only one that
the reader lets pass. -/
theorem Packet.of_readSync {bytes rest : List UInt8} (read : readSync bytes = .ok () rest) :
    bytes = Wire.write syncWord ++ rest := by
  obtain ⟨found, left, readWord, checked⟩ := Decoder.bind_eq_ok read
  split at checked
  · rename_i same
    subst same
    cases checked
    exact (Verbatim.of_read readWord).1
  · cases checked

/-- The sum is not kept either: the reader has compared it with the one that the writer computes. -/
instance : Verbatim Packet where
  of_read {bytes rest packet} read := by
    obtain ⟨_, afterSync, readSync, read⟩ := Decoder.bind_eq_ok read
    obtain ⟨⟨point, format, clockHigh, clockLow, data⟩, afterFields, readFields, read⟩ :=
      Decoder.bind_eq_ok read
    obtain ⟨found, left, readSum, checked⟩ := Decoder.bind_eq_ok read
    have stoodSync := Packet.of_readSync readSync
    have stoodFields := (Verbatim.of_read readFields).1
    have stoodSum := (Verbatim.of_read readSum).1
    have fits : Fits data := by
      obtain ⟨_, _, readFields⟩ := of_read_pair readFields
      obtain ⟨_, _, readFields⟩ := of_read_pair readFields
      obtain ⟨_, _, readFields⟩ := of_read_pair readFields
      obtain ⟨_, _, readData⟩ := of_read_pair readFields
      exact length_lt_of_read readData
    split at checked
    · rename_i same
      subst same
      cases checked
      refine ⟨?_, Packet.echoed fits⟩
      show bytes = (Wire.write Packet.syncWord ++ Wire.write _) ++ Wire.write _ ++ rest
      rw [stoodSync, stoodFields, stoodSum]
      simp only [List.append_assoc]
    · cases checked

/-! ## All layouts -/

/-- Every layout reads written values only, by induction over arrays and lists. -/
theorem Layout.verbatim (layout : Layout) : Verbatim layout.Value := by
  induction layout with
  | array length item ih => exact inferInstanceAs (Verbatim (Vector item.Value length))
  | list item ih => exact inferInstanceAs (Verbatim (List item.Value))
  | _ => infer_instance

/-- A read from the start of a buffer consumes the bytes that the writer gives. -/
theorem Wire.consumed_of_read {α : Type} [Wire α] [Verbatim α] {buffer : List UInt8} {value : α} {after : Cursor}
    (read : (Cursor.start buffer).read Wire.read = (.ok value, after)) :
    after.buffer = buffer ∧ after.position = (Wire.write value).length ∧
      buffer.take after.position = Wire.write value ∧ Echoed value := by
  rw [Cursor.read] at read
  split at read
  · rename_i found rest decoded
    obtain ⟨stood, echoed⟩ : buffer = Wire.write found ++ rest ∧ Echoed found := Verbatim.of_read decoded
    cases read
    have position : buffer.length - rest.length = (Wire.write value).length := by
      rw [stood, List.length_append, Nat.add_sub_cancel]
    refine ⟨rfl, position, ?_, echoed⟩
    show buffer.take (buffer.length - rest.length) = Wire.write value
    rw [position, stood, List.take_left]
  · cases read

/-- Whatever bytes a value of a layout was read from: they are the bytes that the writer gives, they alone
decide the value and where the cursor stops, and no other bytes give the same value. -/
theorem write_read (layout : Layout) {buffer : List UInt8} {value : layout.Value} {after : Cursor}
    (read : (Cursor.start buffer).read layout.wire.read = (.ok value, after)) :
    after.buffer = buffer ∧ after.position ≤ buffer.length ∧
      layout.wire.write value = buffer.take after.position ∧
      (∀ rest, (Cursor.start (buffer.take after.position ++ rest)).read layout.wire.read =
        (.ok value, ⟨buffer.take after.position ++ rest, after.position⟩)) ∧
      ∀ other otherAfter, (Cursor.start other).read layout.wire.read = (.ok value, otherAfter) →
        other.take otherAfter.position = buffer.take after.position := by
  have lawful := layout.verbatim
  obtain ⟨same, position, consumed, echoed⟩ := consumed_of_read read
  refine ⟨same, ?_, consumed.symm, ?_, ?_⟩
  · have bounded := congrArg List.length consumed
    rw [List.length_take, ← position] at bounded
    omega
  · intro rest
    rw [consumed, position]
    have again := echoed.read_cursor [] rest
    rw [List.nil_append, List.length_nil, Nat.zero_add] at again
    exact again
  · intro other otherAfter readOther
    rw [(consumed_of_read readOther).2.2.1, consumed]

/-- A pin of a newer firmware: its stream, its channels and its sample encoding have no name, and a byte
is set that nobody reads. -/
def foreignPin : Pin where
  streamType := .unknown 7
  format := { AudioFormat.standard with
    channelConfig := .unknown 0x80000063, interleaving := .known .blocks, sampleType := .unknown 200
    reserved := 0x5A }
  queueId := 3

/-- A list of that pin, and two bytes of something else. -/
def foreignBytes : List UInt8 :=
  [1, 0, 0, 0] ++ [7, 0, 0, 0] ++
    [0x80, 0xBB, 0, 0, 16, 0, 0, 0, 0x10, 0xFF, 0xFF, 0xFF, 99, 0, 0, 0x80, 1, 0, 0, 0, 2, 16, 200, 0x5A] ++
    [3, 0, 0, 0] ++ [0xBB, 0xCC]

theorem write_read_foreignPin :
    (Cursor.start foreignBytes).read (Layout.list .pin).wire.read = (.ok [foreignPin], ⟨foreignBytes, 36⟩) ∧
      (Layout.list .pin).wire.write [foreignPin] = foreignBytes.take 36 ∧
      (Cursor.start (foreignBytes.take 36)).read (Layout.list .pin).wire.read =
        (.ok [foreignPin], ⟨foreignBytes.take 36, 36⟩) := by
  have read : (Cursor.start foreignBytes).read (Layout.list .pin).wire.read =
      (.ok [foreignPin], ⟨foreignBytes, 36⟩) := rfl
  obtain ⟨-, -, written, again, -⟩ := write_read (.list .pin) read
  exact ⟨read, written, again []⟩

end DspInspector
