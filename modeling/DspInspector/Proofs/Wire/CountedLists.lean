import DspInspector.Proofs.Wire.Shapes
import DspInspector.Proofs.Wire.Truncation

/-!
# Counts that promise too much

A count says how many elements follow, and it can say four billion in front of three bytes. Nothing is set aside for
the elements, so all that such a count could cost is reads. `counted_lists_bounded` says what it does cost. Where the
elements are of one size, the length of the buffer decides (`ReadCall.reads_list`, `ReadCall.runsDry_list`), and at most
one element is begun that is not there (`ReadCall.elements_tally`). Where lists hold lists, no element is begun in vain
but the last one at each level, and the counts on the way to it have paid for that (`Shape.pays`).
-/

namespace DspInspector

open Decoder Tallying Wire

/-! ## Elements of one size -/

namespace Tallying

variable {α : Type} {item : Tallying α} {decoder : Decoder α} {size : Nat}

/-- From here exactly so many elements are begun, however the reader ends. -/
def Begins (tallying : Tallying α) (elements : Nat) (before : List UInt8 × Tally) : Prop :=
  tallying.Yields before (fun _ after => after.2.elements = before.2.elements + elements)
    (fun _ after => after.2.elements = before.2.elements + elements)

/-- Elements of one size are begun as long as more are asked for and the last one was there. -/
theorem begins_many (follows : Follows item decoder) (extent : Extent decoder size)
    (keeps : Action.Keeps Prod.snd item) (some : 0 < size) :
    ∀ n before, Begins (many item n) (min n (before.1.length / size + 1)) before
  | 0, before => by
    rw [Begins, many, Action.yields_pure, Nat.zero_min, Nat.add_zero]
  | n + 1, before => by
    rw [Begins, many, Action.yields_bind, begun, Action.yields_modify, Action.yields_bind]
    refine ((follows _ _).and (keeps _)).mono ?_ ?_
    · rintro value between ⟨read, same⟩
      obtain ⟨available, left⟩ := extent.of_ok read
      have fewer : before.1.length / size = between.1.length / size + 1 := by
        rw [left, List.length_drop]
        exact Nat.div_eq_sub_div some available
      have sum : between.2.elements + min n (between.1.length / size + 1) =
          before.2.elements + min (n + 1) (before.1.length / size + 1) := by
        rw [same, fewer]
        dsimp only
        omega
      have others := begins_many follows extent keeps some n between
      rw [Begins, sum] at others
      rw [Action.yields_bind]
      exact others
    · rintro cause after ⟨failed, same⟩
      dsimp only at same
      rw [same, Nat.div_eq_of_lt (extent.of_error failed)]
      dsimp only
      omega

/-- What a count and the bytes behind it make of a list: no element is begun if the count is not there, else as many as
it asks for, but at most one more than there are. -/
def asked (width : CountWidth) (size : Nat) (bytes : List UInt8) : Nat :=
  if width.bytes ≤ bytes.length then
    min (ofLittleEndian (bytes.take width.bytes)) ((bytes.length - width.bytes) / size + 1)
  else 0

theorem asked_of_available {width : CountWidth} {bytes : List UInt8} (some : 0 < size)
    (enough : width.bytes ≤ bytes.length)
    (available : ofLittleEndian (bytes.take width.bytes) * size ≤ bytes.length - width.bytes) :
    asked width size bytes = ofLittleEndian (bytes.take width.bytes) := by
  have fits := (Nat.le_div_iff_mul_le some).mpr available
  rw [asked, if_pos enough]
  exact Nat.min_eq_left (Nat.le_succ_of_le fits)

theorem asked_le (width : CountWidth) (size : Nat) (bytes : List UInt8) :
    asked width size bytes ≤ (bytes.length - width.bytes) / size + 1 := by
  unfold asked
  split
  · exact Nat.min_le_right _ _
  · exact Nat.zero_le _

theorem begins_counted (follows : Follows item decoder) (extent : Extent decoder size)
    (keeps : Action.Keeps Prod.snd item) (some : 0 < size) (width : CountWidth) (least : Nat)
    (before : List UInt8 × Tally) :
    Begins (counted width least item) (asked width size before.1) before := by
  rw [Begins, counted, Action.yields_bind, quiet, Action.yields_onPart, Action.Yields, asked]
  by_cases enough : width.bytes ≤ before.1.length
  · rw [take_of_le enough, if_pos enough]
    dsimp only
    rw [Action.yields_bind, met, Action.yields_modify]
    have elements := begins_many follows extent keeps some (ofLittleEndian (before.1.take width.bytes))
    rw [← List.length_drop]
    exact elements _
  · rw [take_of_lt (Nat.lt_of_not_le enough), if_neg enough]
    rfl

end Tallying

namespace Wire

variable {α : Type} {item : Wire α} {width : CountWidth} {size : Nat} {bytes : List UInt8}

theorem read_counted_of_enough (extent : Extent item.read size) (enough : width.bytes ≤ bytes.length)
    (available : ofLittleEndian (bytes.take width.bytes) * size ≤ bytes.length - width.bytes) :
    ∃ values, values.length = ofLittleEndian (bytes.take width.bytes) ∧
      (counted width item).read bytes =
        .ok values (bytes.drop (width.bytes + ofLittleEndian (bytes.take width.bytes) * size)) := by
  rw [← List.length_drop] at available
  obtain ⟨values, read⟩ := (extent_many extent _).enough available
  refine ⟨values, length_of_many read, ?_⟩
  rw [← List.drop_drop, ← read]
  exact bind_ok (take_of_le enough)

theorem read_counted_of_short (extent : Extent item.read size)
    (missing : ¬ (width.bytes ≤ bytes.length ∧
      ofLittleEndian (bytes.take width.bytes) * size ≤ bytes.length - width.bytes)) :
    (counted width item).read bytes = .error .endOfStream [] := by
  by_cases enough : width.bytes ≤ bytes.length
  · have short : (bytes.drop width.bytes).length < ofLittleEndian (bytes.take width.bytes) * size := by
      rw [List.length_drop]
      exact Nat.lt_of_not_le fun available => missing ⟨enough, available⟩
    exact (bind_ok (take_of_le enough)).trans ((extent_many extent _).short short)
  · exact bind_error (take_of_lt (Nat.lt_of_not_le enough))

end Wire

/-! ## Calls with a tally -/

namespace Cursor

variable {α : Type} {decoder : Decoder α} {cursor : Cursor}

/-- The read fails for want of bytes and leaves the cursor at the end. -/
def RunsDry (cursor : Cursor) (decoder : Decoder α) : Prop :=
  cursor.read decoder = (.error .endOfStream, { cursor with position := cursor.buffer.length })

theorem runsDry_of_error (dry : decoder cursor.rest = .error .endOfStream []) : cursor.RunsDry decoder := by
  rw [RunsDry, Cursor.read, dry]
  rfl

end Cursor

namespace ReadCall

def shape : (call : ReadCall) → Shape call.Value
  | value layout => layout.shape
  | list width layout => .list width layout.shape
  | bytes count => .plain (take count) count (extent_take count)

/-- The call, made with a tally. -/
def tallied (call : ReadCall) : Tallying call.Value := call.shape.tallied

/-- What is noted during a call, however it ends. -/
def tally (call : ReadCall) (cursor : Cursor) : Tally := (call.tallied.run (cursor.rest, {})).2.2

/-- The call reads a packet somewhere, which it can refuse. -/
def Checked : ReadCall → Prop
  | value layout | list _ layout => layout.Checked
  | bytes _ => False

/-- The lists of the call can be held against their bytes. -/
def Countable : ReadCall → Prop
  | value layout => layout.Countable
  | list _ layout => (Layout.list layout).Countable
  | bytes _ => True

theorem follows (call : ReadCall) : Follows call.tallied call.decoder := by
  have same : call.shape.read = call.decoder := by
    cases call with
    | value layout => exact layout.shaped.read_shape
    | list width layout =>
      show (Shape.list width layout.shaped.shape).read = _
      rw [Shape.read, layout.shaped.read_shape]
      rfl
    | bytes count => rfl
  rw [← same]
  exact call.shape.follows

theorem pays (call : ReadCall) (countable : call.Countable) :
    Pays call.tallied call.shape.least call.shape.least 0 call.Checked := by
  have checked : call.shape.checks = true → call.Checked := by
    intro checks
    cases call with
    | value layout | list width layout => exact layout.checked_of_shape checks
    | bytes count => cases checks
  have shape : call.shape.countable = true := by
    cases call with
    | value layout => exact layout.countable_shape countable
    | list width layout => exact (Layout.list layout).countable_shape countable
    | bytes count => rfl
  exact (call.shape.pays shape).imp checked

section OfOneSize

variable {width : CountWidth} {layout : Layout} {size : Nat} {cursor : Cursor}

theorem reads_list (declared : layout.declared = some size) (enough : width.bytes ≤ cursor.remaining)
    (available : ofLittleEndian (cursor.rest.take width.bytes) * size ≤ cursor.remaining - width.bytes) :
    ∃ values : List layout.Value, values.length = ofLittleEndian (cursor.rest.take width.bytes) ∧
      cursor.read (list width layout).decoder = (.ok values, { cursor with
        position := cursor.position + (width.bytes + ofLittleEndian (cursor.rest.take width.bytes) * size) }) := by
  have extent : Extent layout.wire.read size := layout.extent declared
  have inside : cursor.position ≤ cursor.buffer.length := by
    have wide : 0 < width.bytes := by cases width <;> decide
    rw [Cursor.remaining] at enough
    omega
  have behind := cursor.before_drop inside (Nat.add_le_of_le_sub' enough available)
  rw [← cursor.length_rest] at enough available
  obtain ⟨values, length, read⟩ := read_counted_of_enough extent enough available
  refine ⟨values, length, ?_⟩
  rw [Cursor.read, show (list width layout).decoder cursor.rest = _ from read]
  exact congrArg _ behind

theorem runsDry_list (declared : layout.declared = some size)
    (missing : ¬ (width.bytes ≤ cursor.remaining ∧
      ofLittleEndian (cursor.rest.take width.bytes) * size ≤ cursor.remaining - width.bytes)) :
    cursor.RunsDry (list width layout).decoder := by
  have extent : Extent layout.wire.read size := layout.extent declared
  rw [← cursor.length_rest] at missing
  exact Cursor.runsDry_of_error (read_counted_of_short extent missing)

theorem elements_tally (declared : layout.declared = some size) (some : 0 < size) (width : CountWidth)
    (cursor : Cursor) :
    ((list width layout).tally cursor).elements = asked width size cursor.rest := by
  have follows : Follows layout.shape.tallied layout.wire.read := (value layout).follows
  have extent : Extent layout.wire.read size := layout.extent declared
  have begins := begins_counted follows extent (layout.keeps_tally declared) some width layout.shape.least
  have noted : ((list width layout).tally cursor).elements = 0 + asked width size cursor.rest :=
    (begins (cursor.rest, {})).run
  rwa [Nat.zero_add] at noted

end OfOneSize

/-- A call with a tally comes to the same as the call, and is paid for. -/
theorem yields_tallied (call : ReadCall) (countable : call.Countable) (cursor : Cursor) :
    call.tallied.Yields (cursor.rest, {})
      (fun value after => call.decoder cursor.rest = .ok value after.1 ∧
        Paid call.shape.least call.shape.least (cursor.rest, {}) after)
      (fun cause after => call.decoder cursor.rest = .error cause after.1 ∧
        Broke 0 call.Checked (cursor.rest, {}) cause after) :=
  (call.follows cursor.rest {}).and (call.pays countable (cursor.rest, {}))

theorem elements_le_remaining (call : ReadCall) (countable : call.Countable) (cursor : Cursor) :
    (call.tally cursor).elements ≤ cursor.remaining := by
  have bounded : call.tallied.Yields (cursor.rest, {}) (fun _ after => after.2.elements ≤ cursor.remaining)
      (fun _ after => after.2.elements ≤ cursor.remaining) := by
    rw [← cursor.length_rest]
    refine (call.pays countable (cursor.rest, {})).mono (fun _ after paid => ?_) fun cause after broke => ?_
    · have elements := paid.elements
      dsimp only at elements
      omega
    · have elements := broke.elements
      dsimp only at elements
      omega
  exact bounded.run

/-- Behind a hostile count there is no success and no refusal. -/
theorem runsDry_of_hostile (call : ReadCall) (countable : call.Countable) (cursor : Cursor)
    (hostile : ∃ count ∈ (call.tally cursor).counts, count.Hostile) : cursor.RunsDry call.decoder := by
  have noticed : call.tallied.Yields (cursor.rest, {})
      (fun _ after => (∃ count ∈ after.2.counts, count.Hostile) → cursor.RunsDry call.decoder)
      (fun _ after => (∃ count ∈ after.2.counts, count.Hostile) → cursor.RunsDry call.decoder) := by
    refine (call.yields_tallied countable cursor).mono ?_ ?_
    · rintro value after ⟨-, paid⟩ ⟨count, member, hostile⟩
      exact absurd (paid.honest count member hostile) List.not_mem_nil
    · rintro cause after ⟨read, broke⟩ ⟨count, member, hostile⟩
      obtain ⟨rfl, dry⟩ | ⟨-, honest⟩ := broke.ends
      · rw [dry] at read
        exact Cursor.runsDry_of_error read
      · exact absurd (honest count member hostile) List.not_mem_nil
  exact noticed.run hostile

theorem ok_or_runsDry (call : ReadCall) (countable : call.Countable) (unchecked : ¬ call.Checked) (cursor : Cursor) :
    (∃ value after, cursor.read call.decoder = (.ok value, after)) ∨ cursor.RunsDry call.decoder := by
  have ends := call.yields_tallied countable cursor
  cases ran : call.tallied (cursor.rest, {}) with
  | ok value after =>
    obtain ⟨read, -⟩ := ends.of_ok ran
    refine .inl ⟨value, cursor.before after.1, ?_⟩
    rw [Cursor.read, read]
  | error cause after =>
    obtain ⟨read, broke⟩ := ends.of_error ran
    obtain ⟨rfl, dry⟩ | ⟨checked, -⟩ := broke.ends
    · rw [dry] at read
      exact .inr (Cursor.runsDry_of_error read)
    · exact absurd checked unchecked

end ReadCall

/-- Lists are bounded by the bytes that are there, whatever their counts say. Every call can be made with a tally, and
comes to the same then. A list of elements of one size is read if its count is there and so many elements are behind
it: it has that many elements, all of them begun, and the cursor stands behind them. Otherwise the bytes run out, and at
most one element more is begun than fits in what is behind the count. Where lists hold lists, behind counts of any
kind, no more elements are begun at all levels together than bytes are left, and if one of the counts asks for more than
is behind it the bytes run out; without a packet in the elements there is no other failure. -/
theorem counted_lists_bounded :
    (∀ call : ReadCall, Follows call.tallied call.decoder) ∧
    (∀ (width : CountWidth) (layout : Layout) (size : Nat), layout.declared = some size → 0 < size →
      ∀ cursor : Cursor,
        let call := ReadCall.list width layout
        let count := ofLittleEndian (cursor.rest.take width.bytes)
        let left := cursor.remaining - width.bytes
        (width.bytes ≤ cursor.remaining ∧ count * size ≤ left →
          (∃ values : List layout.Value, values.length = count ∧ cursor.read call.decoder =
            (.ok values, { cursor with position := cursor.position + (width.bytes + count * size) })) ∧
          (call.tally cursor).elements = count) ∧
        (¬ (width.bytes ≤ cursor.remaining ∧ count * size ≤ left) →
          cursor.RunsDry call.decoder ∧ (call.tally cursor).elements ≤ left / size + 1)) ∧
    ∀ call : ReadCall, call.Countable → ∀ cursor : Cursor,
      (call.tally cursor).elements ≤ cursor.remaining ∧
      ((∃ count ∈ (call.tally cursor).counts, count.Hostile) → cursor.RunsDry call.decoder) ∧
      (¬ call.Checked →
        (∃ value after, cursor.read call.decoder = (.ok value, after)) ∨ cursor.RunsDry call.decoder) := by
  refine ⟨ReadCall.follows, ?_, ?_⟩
  · intro width layout size declared some cursor
    have elements := ReadCall.elements_tally declared some width cursor
    have rest := cursor.length_rest
    constructor
    · rintro ⟨enough, available⟩
      refine ⟨ReadCall.reads_list declared enough available, elements.trans ?_⟩
      rw [← rest] at enough available
      exact asked_of_available some enough available
    · intro missing
      refine ⟨ReadCall.runsDry_list declared missing, ?_⟩
      rw [elements, ← rest]
      exact asked_le width size cursor.rest
  · intro call countable cursor
    exact ⟨call.elements_le_remaining countable cursor, call.runsDry_of_hostile countable cursor,
      fun unchecked => call.ok_or_runsDry countable unchecked cursor⟩

/-- A schedule with one scheduler and one task, which claims to run 4294967295 instances and names one. -/
def crowdedSchedule : List UInt8 :=
  [1, 0, 0, 0,
   0, 0, 0, 0, 0, 0, 0, 0, 1, 0, 0, 0,
   7, 0, 0, 0, 0xFF, 0xFF, 0xFF, 0xFF,
   5, 0, 2, 0]

/-- Two tasks of eight bytes would fit, but the first one runs two instances. -/
def cutTasks : List UInt8 :=
  [2, 0,
   7, 0, 0, 0, 2, 0, 0, 0,
   5, 0, 2, 0, 5, 0, 3, 0]

/-- Two words behind a count of two are read. Where a count promises 4294967295 long words and one is there, a second
one is begun at most. The crowded schedule ends with its bytes, and its bytes bound what is begun at all three levels.
The tasks end with their bytes as well, though neither of the counts that are met is hostile. -/
theorem crowdedSchedule_bounded :
    let two : Cursor := ⟨[9, 2, 10, 0, 11, 0], 1⟩
    let longWords := Cursor.start [0xFF, 0xFF, 0xFF, 0xFF, 7, 0, 0, 0, 0, 0, 0, 0]
    let schedule := Cursor.start crowdedSchedule
    let tasks := Cursor.start cutTasks
    ((∃ values, values.length = 2 ∧
        two.read (ReadCall.list .one .u16).decoder = (.ok values, { two with position := 6 })) ∧
      ((ReadCall.list .one .u16).tally two).elements = 2) ∧
    (longWords.RunsDry (ReadCall.list .four .u64).decoder ∧
      ((ReadCall.list .four .u64).tally longWords).elements ≤ 2) ∧
    (((ReadCall.value .coreSchedule).tally schedule).counts = [⟨1, 12, 24⟩, ⟨1, 8, 12⟩, ⟨4294967295, 4, 4⟩] ∧
      schedule.RunsDry (ReadCall.value .coreSchedule).decoder ∧
      ((ReadCall.value .coreSchedule).tally schedule).elements ≤ 28) ∧
    (ReadCall.list .two .scheduledTask).Countable ∧ ¬ (ReadCall.list .two .scheduledTask).Checked ∧
    ((ReadCall.list .two .scheduledTask).tally tasks).counts = [⟨2, 8, 16⟩, ⟨2, 4, 8⟩] ∧
    tasks.RunsDry (ReadCall.list .two .scheduledTask).decoder := by
  intro two longWords schedule tasks
  obtain ⟨-, ofOneSize, nested⟩ := counted_lists_bounded
  have read := (ofOneSize .one .u16 2 rfl (by decide) two).1 (by decide)
  obtain ⟨dry, begun⟩ := (ofOneSize .four .u64 8 rfl (by decide) longWords).2 (by decide)
  have atMostOneMore : (longWords.remaining - CountWidth.four.bytes) / 8 + 1 = 2 := by decide
  rw [atMostOneMore] at begun
  obtain ⟨few, fails, -⟩ := nested (.value .coreSchedule) trivial schedule
  have counts : ((ReadCall.value .coreSchedule).tally schedule).counts =
      [⟨1, 12, 24⟩, ⟨1, 8, 12⟩, ⟨4294967295, 4, 4⟩] := by decide +kernel
  have hostile : ∃ count ∈ ((ReadCall.value .coreSchedule).tally schedule).counts, count.Hostile := by
    rw [counts]
    decide
  have countable : (ReadCall.list .two .scheduledTask).Countable := ⟨trivial, id, trivial⟩
  have cut : tasks.RunsDry (ReadCall.list .two .scheduledTask).decoder := by
    obtain ⟨value, after, whole⟩ | cut := (nested (.list .two .scheduledTask) countable tasks).2.2 id
    · have ended : (tasks.read (ReadCall.list .two .scheduledTask).decoder).1 = .error .endOfStream := rfl
      rw [whole] at ended
      cases ended
    · exact cut
  exact ⟨read, ⟨dry, begun⟩, ⟨counts, fails hostile, few⟩, countable, id, by decide +kernel, cut⟩

end DspInspector
