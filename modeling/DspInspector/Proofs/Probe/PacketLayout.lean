import DspInspector.Probe.Router
import DspInspector.Proofs.Wire.Reading

/-!
# Where the parts of a packet stand

A packet starts with six words, the last of which counts the data; the data and a sum of eight bytes
follow. What a stream begins with (`Packet.ahead`) is therefore decided by the words at fixed places and
by the bytes up to the end that the header announces (`ahead_eq`), and more bytes behind them change
nothing (`ahead_append_packet`, `ahead_append_error`).
-/

namespace DspInspector.Packet

/-- The word at a place of a stream. -/
def wordAt (place : Nat) (bytes : List UInt8) : UInt32 :=
  UInt32.ofNat (ofLittleEndian ((bytes.drop place).take 4))

/-- The data size that a header announces. -/
def announced (bytes : List UInt8) : Nat := (wordAt 20 bytes).toNat

/-- The length of the packet that a header announces. -/
def span (bytes : List UInt8) : Nat := headerSize + announced bytes + checksumSize

/-- The packet at the front of a stream that has all its bytes. -/
def front (bytes : List UInt8) : Packet where
  point := ⟨wordAt 4 bytes⟩
  format := wordAt 8 bytes
  clockHigh := wordAt 12 bytes
  clockLow := wordAt 16 bytes
  data := (bytes.drop headerSize).take (announced bytes)

/-- The sum that stands behind that packet. -/
def frontSum (bytes : List UInt8) : UInt64 :=
  UInt64.ofNat (ofLittleEndian ((bytes.drop (headerSize + announced bytes)).take checksumSize))

/-- The complaint about another word in the place of the sync word. -/
def syncFault (bytes : List UInt8) : WireError := .invalid (.syncWord syncWord (wordAt 0 bytes))

/-- The complaint about another sum than that of the packet. -/
def sumFault (bytes : List UInt8) : WireError :=
  .invalid (.checksum (front bytes).checksum (frontSum bytes) (front bytes).text)

/-! ## Reading at a place -/

variable {bytes : List UInt8}

theorem read_wordAt (place : Nat) (enough : place + 4 ≤ bytes.length) :
    (Wire.read : Decoder UInt32) (bytes.drop place) = .ok (wordAt place bytes) (bytes.drop (place + 4)) := by
  refine (Wire.read_word (by rw [List.length_drop]; omega)).trans ?_
  rw [List.drop_drop, wordAt]

theorem read_pointAt (place : Nat) (enough : place + 4 ≤ bytes.length) :
    (Wire.read : Decoder ProbePoint) (bytes.drop place) =
      .ok ⟨wordAt place bytes⟩ (bytes.drop (place + 4)) :=
  Decoder.bind_ok (read_wordAt place enough)

theorem ofLittleEndian_wordAt (place : Nat) :
    ofLittleEndian ((bytes.drop place).take 4) = (wordAt place bytes).toNat := by
  have small : ofLittleEndian ((bytes.drop place).take 4) < 256 ^ 4 :=
    Nat.lt_of_lt_of_le (ofLittleEndian_lt _) (Nat.pow_le_pow_right (by decide) (List.length_take_le ..))
  rw [wordAt, UInt32.toNat_ofNat_of_lt' small]

/-- The words between the sync word and the data, and the data. -/
theorem read_fields (whole : span bytes ≤ bytes.length) :
    (Wire.read : Decoder (ProbePoint × UInt32 × UInt32 × UInt32 × List UInt8)) (bytes.drop 4) =
      .ok ((front bytes).point, (front bytes).format, (front bytes).clockHigh, (front bytes).clockLow,
        (front bytes).data) (bytes.drop (headerSize + announced bytes)) := by
  have long : 32 + announced bytes ≤ bytes.length := by
    simp only [span, headerSize, checksumSize] at whole
    omega
  have data : (Wire.read : Decoder (List UInt8)) (bytes.drop 20) =
      .ok (front bytes).data (bytes.drop (headerSize + announced bytes)) := by
    refine (Wire.read_bytes (ofLittleEndian_wordAt 20) ?_).trans ?_
    · rw [List.length_drop, ← announced]
      omega
    · rw [List.drop_drop, List.drop_drop, ← announced, ← Nat.add_assoc]
      rfl
  exact Wire.read_pair (read_pointAt 4 (by omega)) <| Wire.read_pair (read_wordAt 8 (by omega)) <|
    Wire.read_pair (read_wordAt 12 (by omega)) <| Wire.read_pair (read_wordAt 16 (by omega)) data

theorem readSync_eq (enough : 4 ≤ bytes.length) :
    readSync bytes = if wordAt 0 bytes = syncWord then .ok () (bytes.drop 4)
      else .error (syncFault bytes) (bytes.drop 4) := by
  refine (Decoder.bind_ok (read_wordAt 0 enough)).trans ?_
  split <;> rfl

/-- A stream that starts with the sync word and has all announced bytes is read as a packet if the sum is
right. -/
theorem read_whole (synced : wordAt 0 bytes = syncWord) (whole : span bytes ≤ bytes.length) :
    (Wire.read : Decoder Packet) bytes =
      if frontSum bytes = (front bytes).checksum then .ok (front bytes) (bytes.drop (span bytes))
      else .error (sumFault bytes) (bytes.drop (span bytes)) := by
  have start : readSync bytes = .ok () (bytes.drop 4) := by
    rw [readSync_eq (by simp only [span, headerSize] at whole; omega), if_pos synced]
  have sum : (Wire.read : Decoder UInt64) (bytes.drop (headerSize + announced bytes)) =
      .ok (frontSum bytes) (bytes.drop (span bytes)) := by
    refine (Wire.read_word ?_).trans ?_
    · rw [List.length_drop]
      simp only [span, checksumSize] at whole
      omega
    · rw [List.drop_drop]
      rfl
  refine (Decoder.bind_ok start).trans ((Decoder.bind_ok (read_fields whole)).trans
    ((Decoder.bind_ok sum).trans ?_))
  split <;> rfl

theorem wordAt_behind (before : List UInt8) (word : UInt32) (rest : List UInt8) :
    wordAt before.length (before ++ (Wire.write word ++ rest)) = word := by
  have small : word.toNat < 256 ^ 4 := word.toNat_lt
  change wordAt before.length (before ++ (littleEndian 4 word.toNat ++ rest)) = word
  rw [wordAt, List.drop_left, List.take_left' (length_littleEndian 4 _), ofLittleEndian_littleEndian,
    Nat.mod_eq_of_lt small, UInt32.ofNat_toNat]

theorem wordAt_front (word : UInt32) (rest : List UInt8) : wordAt 0 (Wire.write word ++ rest) = word :=
  wordAt_behind [] word rest

/-- What clients are given shows the probe point of the packet. -/
theorem wordAt_writeCompact (packet : Packet) : wordAt 4 packet.writeCompact = packet.point.raw := by
  have shape : ∃ rest, packet.writeCompact = Wire.write syncWord ++ (Wire.write packet.point.raw ++ rest) :=
    ⟨_, (List.append_assoc _ _ _).trans (congrArg _ (List.append_assoc _ _ _))⟩
  obtain ⟨rest, shape⟩ := shape
  have four : (Wire.write syncWord).length = 4 := length_littleEndian 4 _
  rw [shape, ← four, wordAt_behind]

/-! ## More bytes behind -/

/-- What stands at a place stays there when more bytes follow. -/
private theorem window_append {place width : Nat} (enough : place + width ≤ bytes.length)
    (more : List UInt8) : ((bytes ++ more).drop place).take width = (bytes.drop place).take width := by
  rw [List.drop_append_of_le_length (by omega), List.take_append_of_le_length]
  rw [List.length_drop]
  omega

theorem wordAt_append {place : Nat} (enough : place + 4 ≤ bytes.length) (more : List UInt8) :
    wordAt place (bytes ++ more) = wordAt place bytes := by
  rw [wordAt, window_append enough, wordAt]

theorem announced_append (enough : headerSize ≤ bytes.length) (more : List UInt8) :
    announced (bytes ++ more) = announced bytes := by
  rw [announced, wordAt_append (by simpa [headerSize] using enough), announced]

theorem span_append (enough : headerSize ≤ bytes.length) (more : List UInt8) :
    span (bytes ++ more) = span bytes := by
  rw [span, announced_append enough, span]

theorem headerSize_le_of_whole (whole : span bytes ≤ bytes.length) : headerSize ≤ bytes.length := by
  simp only [span] at whole
  omega

/-- The packet at the front has as much data as its header announces. -/
theorem length_data_front (whole : span bytes ≤ bytes.length) : (front bytes).data.length = announced bytes := by
  refine List.length_take_of_le ?_
  rw [List.length_drop]
  simp only [span] at whole
  omega

theorem front_append (whole : span bytes ≤ bytes.length) (more : List UInt8) :
    front (bytes ++ more) = front bytes := by
  have header := headerSize_le_of_whole whole
  have data : headerSize + announced bytes ≤ bytes.length := by
    simp only [span] at whole
    omega
  simp only [headerSize] at header
  simp only [front, announced_append (headerSize_le_of_whole whole), window_append data,
    wordAt_append (by omega : 4 + 4 ≤ bytes.length), wordAt_append (by omega : 8 + 4 ≤ bytes.length),
    wordAt_append (by omega : 12 + 4 ≤ bytes.length), wordAt_append (by omega : 16 + 4 ≤ bytes.length)]

theorem frontSum_append (whole : span bytes ≤ bytes.length) (more : List UInt8) :
    frontSum (bytes ++ more) = frontSum bytes := by
  rw [frontSum, announced_append (headerSize_le_of_whole whole), window_append whole, frontSum]

theorem syncFault_append (enough : headerSize ≤ bytes.length) (more : List UInt8) :
    syncFault (bytes ++ more) = syncFault bytes := by
  rw [syncFault, wordAt_append (by simp only [headerSize] at enough; omega), syncFault]

theorem sumFault_append (whole : span bytes ≤ bytes.length) (more : List UInt8) :
    sumFault (bytes ++ more) = sumFault bytes := by
  rw [sumFault, front_append whole, frontSum_append whole, sumFault]

/-! ## What a stream begins with -/

/-- A header alone tells the size of the data, unless it starts with another word. -/
theorem peekDataSize_eq (enough : headerSize ≤ bytes.length) :
    peekDataSize (bytes.take headerSize) =
      if wordAt 0 bytes = syncWord then .ok (announced bytes) else .error (syncFault bytes) := by
  obtain ⟨header, rest, rfl, exact⟩ : ∃ header rest, bytes = header ++ rest ∧ header.length = headerSize :=
    ⟨_, _, (List.take_append_drop headerSize bytes).symm, List.length_take_of_le enough⟩
  rw [List.take_left' exact, announced_append (Nat.le_of_eq exact.symm),
    syncFault_append (Nat.le_of_eq exact.symm), wordAt_append (by rw [exact]; decide)]
  have long : header.length = 24 := exact
  have start : readSync header = _ := readSync_eq (by omega)
  unfold peekDataSize
  dsimp only
  by_cases synced : wordAt 0 header = syncWord
  · have skip : Decoder.take 16 (header.drop 4) = .ok ((header.drop 4).take 16) (header.drop 20) := by
      rw [Decoder.take_of_le (by rw [List.length_drop]; omega), List.drop_drop]
    have count : (Wire.read : Decoder UInt32) (header.drop 20) = _ := read_wordAt 20 (by omega)
    rw [if_pos synced] at start ⊢
    rw [Decoder.bind_ok start, Decoder.bind_ok skip, Decoder.bind_ok count]
    rfl
  · rw [if_neg synced] at start ⊢
    rw [Decoder.bind_error start]

/-- A stream is judged by its first word, then by the size its header announces, then by the sum. -/
theorem ahead_eq (limit : Nat) (bytes : List UInt8) :
    ahead limit bytes =
      if bytes.length < headerSize then .ok .incomplete
      else if wordAt 0 bytes ≠ syncWord then .error (.malformed (syncFault bytes))
      else if limit < announced bytes then .error (.oversized (announced bytes) limit)
      else if bytes.length < span bytes then .ok .incomplete
      else if frontSum bytes ≠ (front bytes).checksum then .error (.malformed (sumFault bytes))
      else .ok (.packet (front bytes) (bytes.drop (span bytes))) := by
  unfold ahead
  by_cases short : bytes.length < headerSize
  · rw [if_pos short, if_pos short]
  · rw [if_neg short, if_neg short, peekDataSize_eq (by omega)]
    by_cases synced : wordAt 0 bytes = syncWord
    · rw [if_pos synced, if_neg (not_not_intro synced)]
      dsimp only
      by_cases large : limit < announced bytes
      · rw [if_pos large, if_pos large]
      · rw [if_neg large, if_neg large]
        change (if bytes.length < span bytes then _ else _) = _
        by_cases cut : bytes.length < span bytes
        · rw [if_pos cut, if_pos cut]
        · rw [if_neg cut, if_neg cut, read_whole synced (by omega)]
          by_cases sound : frontSum bytes = (front bytes).checksum
          · simp [sound]
          · simp [sound]
    · rw [if_neg synced, if_pos synced]

/-- What is decided about a stream stays so when more bytes follow. -/
private theorem ahead_append {limit : Nat} (decided : ahead limit bytes ≠ .ok .incomplete)
    (more : List UInt8) :
    ahead limit (bytes ++ more) = (ahead limit bytes).map fun
      | .incomplete => .incomplete
      | .packet packet rest => .packet packet (rest ++ more) := by
  rw [ahead_eq] at decided
  rw [ahead_eq, ahead_eq]
  by_cases short : bytes.length < headerSize
  · exact absurd (if_pos short) decided
  · have header : headerSize ≤ bytes.length := by omega
    have still : ¬ (bytes ++ more).length < headerSize := by
      rw [List.length_append]
      omega
    have sync : wordAt 0 (bytes ++ more) = wordAt 0 bytes :=
      wordAt_append (Nat.le_trans (by decide) header) more
    rw [if_neg short] at decided ⊢
    rw [if_neg still, sync, announced_append header, span_append header, syncFault_append header]
    by_cases synced : wordAt 0 bytes = syncWord
    · rw [if_neg (not_not_intro synced)] at decided ⊢
      rw [if_neg (not_not_intro synced)]
      by_cases large : limit < announced bytes
      · rw [if_pos large, if_pos large]
        rfl
      · rw [if_neg large] at decided ⊢
        rw [if_neg large]
        by_cases cut : bytes.length < span bytes
        · exact absurd (if_pos cut) decided
        · have whole : span bytes ≤ bytes.length := by omega
          have longer : ¬ (bytes ++ more).length < span bytes := by
            rw [List.length_append]
            omega
          rw [if_neg cut, if_neg longer, front_append whole, frontSum_append whole, sumFault_append whole,
            List.drop_append_of_le_length whole]
          by_cases sound : frontSum bytes = (front bytes).checksum
          · rw [if_neg (not_not_intro sound), if_neg (not_not_intro sound)]
            rfl
          · rw [if_pos sound, if_pos sound]
            rfl
    · rw [if_pos synced, if_pos synced]
      rfl

/-- A packet stays the first one of a stream when more bytes follow. -/
theorem ahead_append_packet {limit : Nat} {packet : Packet} {rest : List UInt8}
    (next : ahead limit bytes = .ok (.packet packet rest)) (more : List UInt8) :
    ahead limit (bytes ++ more) = .ok (.packet packet (rest ++ more)) := by
  rw [ahead_append (by rw [next]; nofun), next]
  rfl

/-- A stream that is refused stays so, for the same reason, when more bytes follow. -/
theorem ahead_append_error {limit : Nat} {cause : StreamFault}
    (next : ahead limit bytes = .error cause) (more : List UInt8) :
    ahead limit (bytes ++ more) = .error cause := by
  rw [ahead_append (by rw [next]; nofun), next]
  rfl

end DspInspector.Packet
