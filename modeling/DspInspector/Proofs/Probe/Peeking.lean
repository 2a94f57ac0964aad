import DspInspector.Proofs.Probe.PacketLayout
import DspInspector.Proofs.Wire.Truncation
import DspInspector.Proofs.Wire.Verbatim

/-!
# Peeking at a packet

Before a packet is read, its size is looked up in its header, and the bytes behind it are waited for. So two readers
walk over the same header: one of them passes over sixteen bytes, the other one reads them field by field. They have to
agree, and they do (`Packet.peeked_and_read`): what is refused by one is refused by the other in the same words, and
the packet that is read ends where the size says that it ends. That a packet cannot be read without the bytes that its
header announces follows from what happens when they are there (`Packet.read_short`), because a reader does not change
its mind when more bytes come.
-/

namespace DspInspector

open Decoder

namespace Cursor

variable {α : Type} {decoder : Decoder α} {bytes rest : List UInt8}

theorem read_start_of_ok {value : α} (ran : decoder bytes = .ok value rest) :
    (start bytes).read decoder = (.ok value, ⟨bytes, bytes.length - rest.length⟩) := by
  simp only [read, start, Cursor.rest, List.drop_zero, ran, before]

theorem read_start_of_error {cause : WireError} (ran : decoder bytes = .error cause rest) :
    (start bytes).read decoder = (.error cause, ⟨bytes, bytes.length - rest.length⟩) := by
  simp only [read, start, Cursor.rest, List.drop_zero, ran, before]

end Cursor

namespace Packet

variable {bytes : List UInt8}

/-- The bytes begin with the sync word. -/
def Synced (bytes : List UInt8) : Prop := Wire.write syncWord <+: bytes

instance (bytes : List UInt8) : Decidable (Synced bytes) := inferInstanceAs (Decidable (_ <+: bytes))

theorem synced_iff (enough : 4 ≤ bytes.length) : Synced bytes ↔ wordAt 0 bytes = syncWord := by
  constructor
  · rintro ⟨rest, rfl⟩
    exact wordAt_front syncWord rest
  · intro found
    have read := read_wordAt 0 enough
    rw [found] at read
    exact ⟨bytes.drop 4, (Wire.Verbatim.of_read read).1.symm⟩

/-! ## The three ways of reading a packet whose header is there -/

/-- Another word than the sync word is refused where it ends. -/
theorem read_unsynced (enough : 4 ≤ bytes.length) (other : ¬ Synced bytes) :
    (Wire.read : Decoder Packet) bytes = .error (syncFault bytes) (bytes.drop 4) := by
  rw [synced_iff enough] at other
  exact bind_error ((readSync_eq enough).trans (if_neg other))

/-- A packet that is not there in full cannot be read. -/
theorem read_short (header : headerSize ≤ bytes.length) (synced : Synced bytes) (missing : bytes.length < span bytes) :
    (Wire.read : Decoder Packet) bytes = .error .endOfStream [] := by
  have word : 4 ≤ bytes.length := Nat.le_trans (by decide) header
  -- With enough bytes behind, the reader stops at the end of the packet. So it does not stop before.
  obtain ⟨more, length⟩ : ∃ more : List UInt8, more.length = span bytes := ⟨.replicate _ 0, List.length_replicate⟩
  have started : wordAt 0 (bytes ++ more) = syncWord := (wordAt_append word more).trans ((synced_iff word).mp synced)
  have extent : span (bytes ++ more) = span bytes := span_append header more
  have whole : span (bytes ++ more) ≤ (bytes ++ more).length := by
    rw [extent, List.length_append]
    omega
  have read := read_whole started whole
  have stopsLater {rest : List UInt8} (left : rest ++ more = (bytes ++ more).drop (span (bytes ++ more))) : False := by
    have lengths := congrArg List.length left
    rw [extent, List.length_append, List.length_drop, List.length_append] at lengths
    omega
  cases (Wire.Streamed.steady : Steady (Wire.read : Decoder Packet)) bytes with
  | short dry => exact dry
  | @value taken rest _ split reads =>
    rw [split, List.append_assoc, reads, ← List.append_assoc, ← split] at read
    split at read
    · injection read with _ left
      exact (stopsLater left).elim
    · cases read
  | @refusal taken rest _ _ split refuses =>
    rw [split, List.append_assoc, refuses, ← List.append_assoc, ← split] at read
    split at read
    · cases read
    · injection read with _ left
      exact (stopsLater left).elim

/-- A packet that is there in full is judged by its sum, with the cursor behind the sum. -/
theorem read_start_whole (synced : Synced bytes) (whole : span bytes ≤ bytes.length) :
    (Cursor.start bytes).read (Wire.read : Decoder Packet) =
      (if frontSum bytes = (front bytes).checksum then .ok (front bytes) else .error (sumFault bytes),
        ⟨bytes, span bytes⟩) := by
  have word : 4 ≤ bytes.length := Nat.le_trans (by decide) (headerSize_le_of_whole whole)
  have read := read_whole ((synced_iff word).mp synced) whole
  have stops : bytes.length - (bytes.drop (span bytes)).length = span bytes := by
    rw [List.length_drop]
    omega
  by_cases sound : frontSum bytes = (front bytes).checksum
  · rw [if_pos sound] at read ⊢
    rw [Cursor.read_start_of_ok read, stops]
  · rw [if_neg sound] at read ⊢
    rw [Cursor.read_start_of_error read, stops]

/-- Peeking at a header and reading the packet behind it agree. Peeking fails exactly if the sync word is another one,
and then reading fails in the same words. If it gives a size and so many bytes are there, reading ends behind them and
the sum, with a packet of this size or a complaint about the sum; if bytes are missing, reading runs out of them. And a
packet that is read has the size that peeking gives. -/
theorem peeked_and_read (bytes : List UInt8) (header : headerSize ≤ bytes.length) :
    let peeked := peekDataSize (bytes.take headerSize)
    let read := (Cursor.start bytes).read (Wire.read : Decoder Packet)
    ((∃ cause, peeked = .error cause) ↔ ¬ Synced bytes) ∧
    (∀ cause, peeked = .error cause → read.1 = .error cause) ∧
    (∀ size, peeked = .ok size →
      (headerSize + size + checksumSize ≤ bytes.length →
        read.2.position = headerSize + size + checksumSize ∧
          ∃ packet found, packet.data = (bytes.drop headerSize).take size ∧ packet.data.length = size ∧
            read.1 = if found = packet.checksum then .ok packet
              else .error (.invalid (.checksum packet.checksum found packet.text))) ∧
      (bytes.length < headerSize + size + checksumSize →
        read.2.position = bytes.length ∧ read.1 = .error .endOfStream)) ∧
    ∀ packet, read.1 = .ok packet → peeked = .ok packet.data.length := by
  intro peeked read
  have word : 4 ≤ bytes.length := Nat.le_trans (by decide) header
  by_cases synced : Synced bytes
  · have told : peeked = .ok (announced bytes) :=
      (peekDataSize_eq header).trans (if_pos ((synced_iff word).mp synced))
    have short (missing : bytes.length < span bytes) : read = (.error .endOfStream, ⟨bytes, bytes.length⟩) :=
      Cursor.read_start_of_error (read_short header synced missing)
    have whole (enough : span bytes ≤ bytes.length) : read = _ := read_start_whole synced enough
    refine ⟨iff_of_false ?_ (not_not_intro synced), ?_, ?_, ?_⟩
    · rintro ⟨cause, failed⟩
      cases told.symm.trans failed
    · intro cause failed
      cases told.symm.trans failed
    · intro size given
      cases told.symm.trans given
      refine ⟨fun enough => ?_, fun missing => ?_⟩
      · rw [whole enough]
        exact ⟨rfl, front bytes, frontSum bytes, rfl, length_data_front enough, rfl⟩
      · rw [short missing]
        exact ⟨rfl, rfl⟩
    · intro packet accepted
      by_cases enough : span bytes ≤ bytes.length
      · rw [whole enough] at accepted
        dsimp only at accepted
        split at accepted
        · cases accepted
          rw [told, length_data_front enough]
        · cases accepted
      · rw [short (Nat.lt_of_not_le enough)] at accepted
        cases accepted
  · have told : peeked = .error (syncFault bytes) :=
      (peekDataSize_eq header).trans (if_neg fun found => synced ((synced_iff word).mpr found))
    have refused : read.1 = .error (syncFault bytes) :=
      congrArg Prod.fst (Cursor.read_start_of_error (read_unsynced word synced))
    refine ⟨iff_of_true ⟨_, told⟩ synced, ?_, ?_, ?_⟩
    · intro cause failed
      cases told.symm.trans failed
      exact refused
    · intro size given
      cases told.symm.trans given
    · intro packet accepted
      cases refused.symm.trans accepted

/-- A packet of two bytes with a wrong last byte of its sum, in front of the next one, and the same packet cut off
there. -/
theorem damaged_peeked_and_read :
    let damaged := (Wire.write shortPacket).take 33 ++ [0xFF]
    headerSize ≤ (damaged ++ [0xBA]).length ∧ headerSize ≤ (damaged.take 33).length ∧
      peekDataSize ((damaged ++ [0xBA]).take headerSize) = .ok 2 ∧
      ((Cursor.start (damaged ++ [0xBA])).read (Wire.read : Decoder Packet)).2.position = 34 ∧
      ((Cursor.start (damaged.take 33)).read (Wire.read : Decoder Packet)).1 = .error .endOfStream := by
  intro damaged
  have header : headerSize ≤ (damaged ++ [0xBA]).length := by decide
  have cutHeader : headerSize ≤ (damaged.take 33).length := by decide
  have peeked : peekDataSize ((damaged ++ [0xBA]).take headerSize) = .ok 2 := rfl
  have cutPeeked : peekDataSize ((damaged.take 33).take headerSize) = .ok 2 := rfl
  obtain ⟨-, -, sized, -⟩ := peeked_and_read (damaged ++ [0xBA]) header
  obtain ⟨-, -, cutSized, -⟩ := peeked_and_read (damaged.take 33) cutHeader
  exact ⟨header, cutHeader, peeked, ((sized 2 peeked).1 (by decide)).1, ((cutSized 2 cutPeeked).2 (by decide)).2⟩

end Packet

end DspInspector
