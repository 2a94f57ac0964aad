import DspInspector.Proofs.Wire.RoundTrip

/-!
# Bytes that end too soon

A reader looks at the bytes one after the other and stops where it knows enough. So either it runs out of
bytes, or the bytes that it has taken decide, whatever follows (`Decides`). Every format is read this way, the
checks of a packet included, because a check comes behind the word that it looks at (`Layout.steady`). From this
follow both sides of `truncation_noticed`: a value that is cut short is always noticed as such
(`Layout.read_cut`), and a cursor moves forward with every call (`Cursor.moves_read`), hence over any calls
(`Cursor.moves_afterCalls`).
-/

namespace DspInspector

namespace Decoder

variable {α β : Type}

/-- What a reader makes of some bytes: it runs out of them, or the bytes that it takes decide, whatever
follows. Nothing is refused unseen. -/
inductive Decides (decoder : Decoder α) (bytes : List UInt8) : Prop where
  | short (dry : decoder bytes = .error .endOfStream [])
  | value {taken rest : List UInt8} {value : α} (split : bytes = taken ++ rest)
    (reads : ∀ more, decoder (taken ++ more) = .ok value more)
  | refusal {taken rest : List UInt8} {reason : Malformation} (some : taken ≠ []) (split : bytes = taken ++ rest)
    (refuses : ∀ more, decoder (taken ++ more) = .error (.invalid reason) more)

/-- The reader decides on the bytes that it takes. -/
def Steady (decoder : Decoder α) : Prop := ∀ bytes, decoder.Decides bytes

theorem steady_pure (value : α) : Steady (pure value : Decoder α) :=
  fun bytes => .value (List.nil_append bytes).symm fun _ => rfl

theorem steady_take (n : Nat) : Steady (take n) := by
  intro bytes
  by_cases enough : n ≤ bytes.length
  · apply Decides.value (List.take_append_drop n bytes).symm
    intro more
    have length : (bytes.take n).length = n := List.length_take_of_le enough
    rw [take_of_le (by simp [length]), List.take_left' length, List.drop_left' length]
  · exact .short (take_of_lt (by omega))

theorem Steady.bind {first : Decoder α} {second : α → Decoder β} (one : Steady first)
    (two : ∀ value, Steady (second value)) : Steady (first >>= second) := by
  intro bytes
  cases one bytes with
  | short dry => exact .short (bind_error dry)
  | @value taken rest value split reads =>
    subst split
    -- the second reader decides on what the first one left, so both decide on what they take together
    have goesOn (more : List UInt8) : (first >>= second) (taken ++ more) = second value more := bind_ok (reads more)
    cases two value rest with
    | short dry => exact .short ((goesOn rest).trans dry)
    | @value taken' rest' _ split reads' =>
      subst split
      apply Decides.value (List.append_assoc taken taken' rest').symm
      intro more
      rw [List.append_assoc, goesOn, reads']
    | @refusal taken' rest' _ some split refuses =>
      subst split
      apply Decides.refusal (List.append_ne_nil_of_right_ne_nil taken some) (List.append_assoc taken taken' rest').symm
      intro more
      rw [List.append_assoc, goesOn, refuses]
  | refusal some split refuses => exact .refusal some split fun more => bind_error (refuses more)

/-- A value is checked when it has been read. -/
theorem Steady.check {first : Decoder α} (one : Steady first) (consuming : Consuming first) {holds : α → Prop}
    [DecidablePred holds] (result : α → β) (reason : α → Malformation) :
    Steady (first >>= fun value => if holds value then pure (result value) else reject (reason value)) := by
  intro bytes
  cases one bytes with
  | short dry => exact .short (bind_error dry)
  | @value taken rest value split reads =>
    by_cases passes : holds value
    · apply Decides.value split
      intro more
      rw [bind_ok (reads more), if_pos passes]
      rfl
    · have some : taken ≠ [] := by
        rintro rfl
        have shorter := consuming _ _ _ (reads [])
        simp at shorter
      apply Decides.refusal some split
      intro more
      rw [bind_ok (reads more), if_neg passes]
      rfl
  | refusal some split refuses => exact .refusal some split fun more => bind_error (refuses more)

theorem steady_many {item : Decoder α} (steady : Steady item) : ∀ n, Steady (many item n)
  | 0 => steady_pure _
  | n + 1 => steady.bind fun _ => (steady_many steady n).bind fun _ => steady_pure _

theorem steady_vector {item : Decoder α} (steady : Steady item) : ∀ n, Steady (Decoder.vector item n)
  | 0 => steady_pure _
  | n + 1 => (steady_vector steady n).bind fun _ => steady.bind fun _ => steady_pure _

/-- A reader of nothing: it gives a value without taking a byte. -/
def Idle (decoder : Decoder α) : Prop := ∃ value, ∀ bytes, decoder bytes = .ok value bytes

theorem Steady.dry {decoder : Decoder α} (steady : Steady decoder) (busy : ¬ Idle decoder) :
    decoder [] = .error .endOfStream [] := by
  cases steady [] with
  | short dry => exact dry
  | value split reads =>
    obtain ⟨rfl, rfl⟩ := List.append_eq_nil_iff.mp split.symm
    exact absurd ⟨_, reads⟩ busy
  | refusal some split refuses => exact absurd (List.append_eq_nil_iff.mp split.symm).1 some

/-- Of bytes that decode, no shorter beginning decodes or is refused. -/
theorem Steady.short_of_prefix {decoder : Decoder α} (steady : Steady decoder) {whole front : List UInt8} {value : α}
    (read : decoder whole = .ok value []) (begins : front <+: whole) (proper : front ≠ whole) :
    decoder front = .error .endOfStream [] := by
  obtain ⟨missing, rfl⟩ := begins
  have some : missing ≠ [] := by
    rintro rfl
    exact proper (List.append_nil front).symm
  cases steady front with
  | short dry => exact dry
  | @value taken rest _ split reads =>
    subst split
    rw [List.append_assoc, reads] at read
    injection read with _ left
    exact absurd (List.append_eq_nil_iff.mp left).2 some
  | @refusal taken rest _ _ split refuses =>
    subst split
    rw [List.append_assoc, refuses] at read
    cases read

end Decoder

open Decoder

/-! ## All layouts -/

namespace Wire

variable {α β : Type}

theorem steady_word {width : Nat} {ofNat : Nat → α} {toNat : α → Nat} : Steady (word width ofNat toNat).read :=
  (steady_take width).bind fun _ => steady_pure _

theorem steady_via [format : Wire β] {into : β → α} {outOf : α → β} (steady : Steady (Wire.read : Decoder β)) :
    Steady (via into outOf).read :=
  steady.bind fun _ => steady_pure _

theorem steady_counted (width : CountWidth) {item : Wire α} (steady : Steady item.read) :
    Steady (counted width item).read :=
  (steady_take width.bytes).bind fun _ => steady_many steady _

/-- A type whose reader decides on the bytes that it takes. -/
class Streamed (α : Type) [Wire α] : Prop where
  steady : Steady (Wire.read : Decoder α)

instance : Streamed UInt8 := ⟨steady_word⟩
instance : Streamed UInt16 := ⟨steady_word⟩
instance : Streamed UInt32 := ⟨steady_word⟩
instance : Streamed UInt64 := ⟨steady_word⟩

theorem streamed_via [Wire β] [streamed : Streamed β] {into : β → α} {outOf : α → β} :
    @Streamed α (via into outOf) :=
  @Streamed.mk α (via into outOf) (steady_via streamed.steady)

instance : Streamed Int8 := streamed_via
instance : Streamed Int16 := streamed_via
instance : Streamed Int32 := streamed_via
instance : Streamed Int64 := streamed_via

instance [Wire α] [Wire β] [one : Streamed α] [two : Streamed β] : Streamed (α × β) :=
  ⟨one.steady.bind fun _ => two.steady.bind fun _ => steady_pure _⟩

instance [Wire α] [item : Streamed α] : Streamed (List α) := ⟨steady_counted .four item.steady⟩

instance [Wire α] [item : Streamed α] {n : Nat} : Streamed (Vector α n) := ⟨steady_vector item.steady n⟩

end Wire

open Wire

instance {κ : Type} [Enumeration κ] : Streamed (Coded κ) := streamed_via

instance : Streamed FirmwareVersion := streamed_via
instance : Streamed DmaBuffer := streamed_via
instance : Streamed I2sCapabilities := streamed_via
instance : Streamed GpdmaCapabilities := streamed_via
instance : Streamed InstanceId := streamed_via
instance : Streamed ConnectorId := streamed_via
instance : Streamed AudioFormat := streamed_via
instance : Streamed Pin := streamed_via
instance : Streamed InstanceProps := streamed_via
instance : Streamed Pipeline := streamed_via
instance : Streamed ScheduledTask := streamed_via
instance : Streamed Scheduler := streamed_via
instance : Streamed CoreSchedule := streamed_via
instance : Streamed Gateway := streamed_via
instance : Streamed BankState := streamed_via
instance : Streamed Segment := streamed_via
instance : Streamed Digest := ⟨(steady_take Digest.size).bind fun _ => steady_pure _⟩
instance : Streamed ModuleEntry := streamed_via
instance : Streamed Measurement := streamed_via
instance : Streamed ProbePoint := streamed_via
instance : Streamed MessageHeader := streamed_via
instance : Streamed TunnelHeader := streamed_via

/-- The sync word and the sum are checked where they end. -/
instance : Streamed Packet where
  steady := by
    have word : Consuming (Wire.read : Decoder UInt32) := (consuming_take (by decide)).bind fun _ => forward_pure _
    have sum : Consuming (Wire.read : Decoder UInt64) := (consuming_take (by decide)).bind fun _ => forward_pure _
    have sync : Steady Packet.readSync :=
      (Streamed.steady : Steady (Wire.read : Decoder UInt32)).check word (fun _ => ()) _
    apply sync.bind
    intro _
    apply Steady.bind (Streamed.steady : Steady (Wire.read : Decoder (_ × _ × _ × _ × List UInt8)))
    rintro ⟨point, format, clockHigh, clockLow, data⟩
    exact (Streamed.steady : Steady (Wire.read : Decoder UInt64)).check sum _ _

/-- Every layout is read this way, by induction over arrays and lists. -/
theorem Layout.steady (layout : Layout) : Steady layout.wire.read := by
  suffices streamed : Streamed layout.Value from streamed.steady
  induction layout with
  | array length item ih => exact inferInstanceAs (Streamed (Vector item.Value length))
  | list item ih => exact inferInstanceAs (Streamed (List item.Value))
  | _ => infer_instance

/-- Wherever the bytes of a value are cut, reading it there runs out of bytes. -/
theorem Layout.read_cut (layout : Layout) {value : layout.Value} (canonical : layout.Canonical value)
    {front : List UInt8} (begins : front <+: layout.wire.write value) (proper : front ≠ layout.wire.write value)
    (before : List UInt8) :
    (Cursor.mk (before ++ front) before.length).read layout.wire.read =
      (.error .endOfStream, ⟨before ++ front, (before ++ front).length⟩) := by
  have whole : layout.wire.read (layout.wire.write value) = .ok value [] := by
    have read := layout.echoed value canonical []
    rwa [List.append_nil] at read
  have short := layout.steady.short_of_prefix whole begins proper
  rw [Cursor.read, Cursor.rest, List.drop_left, short]
  rfl

/-! ## From a cursor -/

namespace Cursor

/-- The later cursor is in the same buffer, no further back and not behind the end. -/
structure Moves (before after : Cursor) : Prop where
  buffer : after.buffer = before.buffer
  forward : before.position ≤ after.position
  within : after.position ≤ before.buffer.length

variable {α : Type} {decoder : Decoder α} {cursor before between after : Cursor}

theorem Moves.trans (first : Moves before between) (second : Moves between after) : Moves before after where
  buffer := second.buffer.trans first.buffer
  forward := Nat.le_trans first.forward second.forward
  within := first.buffer ▸ second.within

theorem Moves.balance (moves : Moves before after) : after.position + after.remaining = before.buffer.length := by
  have within := moves.within
  rw [remaining, moves.buffer]
  omega

theorem Moves.inside (moves : Moves before after) : after.position ≤ after.buffer.length :=
  moves.buffer ▸ moves.within

/-- From the end there is nowhere to go. -/
theorem Moves.eq_end (moves : Moves before after) (ended : before.position = before.buffer.length) :
    after = ⟨before.buffer, before.buffer.length⟩ := by
  obtain ⟨buffer, forward, within⟩ := moves
  cases after with
  | mk bytes position =>
    subst buffer
    have last : position = before.buffer.length := by
      dsimp only at forward within
      omega
    rw [last]

theorem moves_before (within : cursor.position ≤ cursor.buffer.length) {taken rest : List UInt8}
    (split : cursor.rest = taken ++ rest) : Moves cursor (cursor.before rest) := by
  have length : taken.length + rest.length = cursor.buffer.length - cursor.position := by
    rw [← List.length_append, ← split, Cursor.rest, List.length_drop]
  refine ⟨rfl, ?_, Nat.sub_le _ _⟩
  show cursor.position ≤ cursor.buffer.length - rest.length
  omega

/-- One read: the cursor moves forward, and to the end when the bytes run out. -/
theorem moves_read (steady : Steady decoder) (within : cursor.position ≤ cursor.buffer.length) :
    cursor.Moves (cursor.read decoder).2 ∧
      ((cursor.read decoder).1 = .error .endOfStream →
        (cursor.read decoder).2.position = cursor.buffer.length) := by
  cases steady cursor.rest with
  | short dry =>
    rw [read, dry]
    exact ⟨moves_before within (List.append_nil _).symm, fun _ => rfl⟩
  | @value taken rest value split reads =>
    have ran : decoder cursor.rest = .ok value rest := by rw [split, reads]
    rw [read, ran]
    refine ⟨moves_before within split, fun ended => ?_⟩
    cases ended
  | @refusal taken rest reason _ split refuses =>
    have ran : decoder cursor.rest = .error (.invalid reason) rest := by rw [split, refuses]
    rw [read, ran]
    refine ⟨moves_before within split, fun ended => ?_⟩
    cases ended

theorem read_at_end (steady : Steady decoder) (busy : ¬ Idle decoder) (buffer : List UInt8) :
    (Cursor.mk buffer buffer.length).read decoder = (.error .endOfStream, ⟨buffer, buffer.length⟩) := by
  rw [read, rest, List.drop_length, steady.dry busy]
  rfl

end Cursor

/-! ## Calls in sequence -/

/-- A call on a cursor: one value, a list behind a count of some width, or some bytes as they are, of a number
that is fixed or that was read before. -/
inductive ReadCall where
  | value (layout : Layout)
  | list (width : CountWidth) (layout : Layout)
  | bytes (count : Nat)

namespace ReadCall

@[reducible] def Value : ReadCall → Type
  | value layout => layout.Value
  | list _ layout => List layout.Value
  | bytes _ => List UInt8

def decoder : (call : ReadCall) → Decoder call.Value
  | value layout => layout.wire.read
  | list width layout => (counted width layout.wire).read
  | bytes count => take count

theorem steady (call : ReadCall) : Steady call.decoder := by
  cases call with
  | value layout => exact layout.steady
  | list width layout => exact steady_counted width layout.steady
  | bytes count => exact steady_take count

end ReadCall

namespace Cursor

/-- The cursor after some calls, each made whatever came of the ones before it. -/
def afterCalls (cursor : Cursor) (calls : List ReadCall) : Cursor :=
  calls.foldl (fun cursor call => (cursor.read call.decoder).2) cursor

theorem moves_afterCalls (calls : List ReadCall) :
    ∀ {cursor : Cursor}, cursor.position ≤ cursor.buffer.length → cursor.Moves (cursor.afterCalls calls) := by
  induction calls with
  | nil =>
    intro cursor within
    exact ⟨rfl, Nat.le_refl _, within⟩
  | cons call calls ih =>
    intro cursor within
    have step := (moves_read call.steady within).1
    exact step.trans (ih step.inside)

end Cursor

/-- A value that is cut short is never read and never refused: its reader runs out of bytes and stands at the
end of them. And over any calls on one buffer, whatever comes of them, the cursor does not go back or beyond
the end; once a call has run out of bytes it stands at the end, and there every call that reads anything runs
out of bytes again. -/
theorem truncation_noticed :
    (∀ (layout : Layout) (value : layout.Value), layout.Canonical value →
      ∀ front, front <+: layout.wire.write value → front ≠ layout.wire.write value →
        ∀ before, (Cursor.mk (before ++ front) before.length).read layout.wire.read =
          (.error .endOfStream, ⟨before ++ front, (before ++ front).length⟩)) ∧
    ∀ (buffer : List UInt8) (earlier : List ReadCall) (call : ReadCall),
      let before := (Cursor.start buffer).afterCalls earlier
      let after := (before.read call.decoder).2
      after.buffer = buffer ∧ before.position ≤ after.position ∧ after.position ≤ buffer.length ∧
        after.position + after.remaining = buffer.length ∧
        ((before.read call.decoder).1 = .error .endOfStream → after.position = buffer.length ∧
          ∀ (between : List ReadCall) (later : ReadCall), ¬ Idle later.decoder →
            (after.afterCalls between).read later.decoder = (.error .endOfStream, ⟨buffer, buffer.length⟩)) := by
  constructor
  · intro layout value canonical front begins proper before
    exact layout.read_cut canonical begins proper before
  · intro buffer earlier call
    have reached : (Cursor.start buffer).Moves ((Cursor.start buffer).afterCalls earlier) :=
      Cursor.moves_afterCalls earlier (Nat.zero_le _)
    obtain ⟨step, dry⟩ := Cursor.moves_read call.steady reached.inside
    have whole := reached.trans step
    refine ⟨whole.buffer, step.forward, whole.within, whole.balance, ?_⟩
    intro ended
    have last := dry ended
    rw [← step.buffer] at last
    refine ⟨last.trans (congrArg List.length whole.buffer), ?_⟩
    intro between later busy
    have stays := (Cursor.moves_afterCalls between step.inside).eq_end last
    rw [stays, whole.buffer]
    exact Cursor.read_at_end later.steady busy buffer

/-- A packet of two bytes. -/
def shortPacket : Packet where
  point := ⟨5⟩
  format := 1
  clockHigh := 2
  clockLow := 3
  data := [0xAA, 0xBB]

/-- The packet is cut in the middle of its sum; and a buffer of three bytes has no second word. -/
theorem truncation_noticed_in_sum :
    let front := (Layout.packet.wire.write shortPacket).take 30
    Layout.packet.Canonical shortPacket ∧ front <+: Layout.packet.wire.write shortPacket ∧
      front ≠ Layout.packet.wire.write shortPacket ∧
      (Cursor.mk ([0xCC] ++ front) 1).read Layout.packet.wire.read =
        (.error .endOfStream, ⟨[0xCC] ++ front, 31⟩) ∧
      ((Cursor.mk [1, 2, 3] 1).read (ReadCall.value .u32).decoder).1 = .error .endOfStream ∧
      ¬ Idle (ReadCall.list .one .u16).decoder ∧
      (Cursor.mk [1, 2, 3] 3).read (ReadCall.list .one .u16).decoder =
        (.error .endOfStream, ⟨[1, 2, 3], 3⟩) := by
  obtain ⟨cut, calls⟩ := truncation_noticed
  have canonical : Layout.packet.Canonical shortPacket := by
    show 2 < UInt32.size
    decide
  have begins : (Layout.packet.wire.write shortPacket).take 30 <+: Layout.packet.wire.write shortPacket :=
    List.take_prefix _ _
  have proper : (Layout.packet.wire.write shortPacket).take 30 ≠ Layout.packet.wire.write shortPacket := by decide
  have dry : ((Cursor.mk [1, 2, 3] 1).read (ReadCall.value .u32).decoder).1 = .error .endOfStream := rfl
  have busy : ¬ Idle (ReadCall.list .one .u16).decoder := by
    rintro ⟨value, idle⟩
    cases idle []
  obtain ⟨-, -, -, -, ended⟩ := calls [1, 2, 3] [.value .u8] (.value .u32)
  exact ⟨canonical, begins, proper, cut .packet shortPacket canonical _ begins proper [0xCC], dry, busy,
    (ended dry).2 [.bytes 0] (.list .one .u16) busy⟩

end DspInspector
