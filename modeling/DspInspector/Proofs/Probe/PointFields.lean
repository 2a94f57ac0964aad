import DspInspector.Probe.Point
import DspInspector.Proofs.Data.BitFields
import DspInspector.Proofs.Wire.Verbatim

/-!
# The fields of a probe point

A probe point is a word that four fields share. A number that is put into one of them is found there again, and the
others do not notice (`Setting.apply_of_fits`); one that does not fit is refused. So after any settings each field has
the last number that was accepted for it (`fields_after`). And there is nothing in the word beside the four fields:
they tell points apart (`fields_injective`), and a point can be packed again from them (`of_fields`).
-/

namespace DspInspector.ProbePoint

variable {point : ProbePoint} {shift width shift' width' value : UInt32}

/-! ## One field -/

theorem field_lt (inside : FieldInside shift width) (point : ProbePoint) :
    (point.field shift width).toNat < 2 ^ width.toNat := by
  refine Nat.lt_pow_two_of_testBit _ fun i high => ?_
  rw [field, testBit_field inside, decide_eq_false (Nat.not_lt.mpr high), Bool.false_and]

/-- A number that fits is found again where it was put. -/
theorem field_withField (inside : FieldInside shift width) (fits : value.toNat < 2 ^ width.toNat) :
    (point.withField shift width value).field shift width = value := by
  refine UInt32.toNat_inj.mp (Nat.eq_of_testBit_eq fun i => ?_)
  rw [field, testBit_field inside, withField, mask, testBit_put inside]
  by_cases low : i < width.toNat
  · have own : shift.toNat ≤ shift.toNat + i ∧ shift.toNat + i < shift.toNat + width.toNat := by omega
    rw [if_pos own, decide_eq_true low, Bool.true_and, Nat.add_sub_cancel_left]
  · have high : 2 ^ width.toNat ≤ 2 ^ i := Nat.pow_le_pow_right (by decide) (Nat.not_lt.mp low)
    rw [decide_eq_false low, Bool.false_and, Nat.testBit_lt_two_pow (Nat.lt_of_lt_of_le fits high)]

/-- A field that shares no bit with another one does not notice what is put there. -/
theorem field_withField_of_apart (inside : FieldInside shift width) (inside' : FieldInside shift' width')
    (apart : shift.toNat + width.toNat ≤ shift'.toNat ∨ shift'.toNat + width'.toNat ≤ shift.toNat) :
    (point.withField shift width value).field shift' width' = point.field shift' width' := by
  refine UInt32.toNat_inj.mp (Nat.eq_of_testBit_eq fun i => ?_)
  rw [field, field, testBit_field inside', testBit_field inside', withField, mask, testBit_put inside]
  by_cases low : i < width'.toNat
  · have other : ¬ (shift.toNat ≤ shift'.toNat + i ∧ shift'.toNat + i < shift.toNat + width.toNat) := by omega
    rw [if_neg other]
  · rw [decide_eq_false low, Bool.false_and, Bool.false_and]

/-! ## The four fields -/

theorem moduleInside : FieldInside 0 16 := ⟨by decide, by decide, by decide⟩
theorem instanceInside : FieldInside 16 8 := ⟨by decide, by decide, by decide⟩
theorem typeInside : FieldInside 24 2 := ⟨by decide, by decide, by decide⟩
theorem indexInside : FieldInside 26 6 := ⟨by decide, by decide, by decide⟩

/-- What a point is packed from. -/
@[ext] structure Fields where
  moduleId : UInt32
  instanceId : UInt32
  type : Coded ProbeType
  index : UInt32
  deriving DecidableEq

/-- What is found in the fields of a point. -/
def fields (point : ProbePoint) : Fields := ⟨point.moduleId, point.instanceId, point.type, point.index⟩

/-- The type is found by its two bits, also when they have no name. -/
theorem raw_type (point : ProbePoint) : point.type.raw = point.field 24 2 := Coded.raw_ofRaw _

/-- Points with the same number in a field have the same bits there. -/
theorem testBit_congr (inside : FieldInside shift width) {one other : ProbePoint}
    (same : one.field shift width = other.field shift width) {i : Nat} (above : shift.toNat ≤ i)
    (below : i < shift.toNat + width.toNat) : one.raw.toNat.testBit i = other.raw.toNat.testBit i := by
  have low : i - shift.toNat < width.toNat := by omega
  have bits := congrArg (fun word : UInt32 => word.toNat.testBit (i - shift.toNat)) same
  simpa only [field, testBit_field inside, decide_eq_true low, Bool.true_and, Nat.add_sub_cancel' above] using bits

/-- Every bit of the word is in one of the fields. -/
theorem fields_injective {one other : ProbePoint} (same : one.fields = other.fields) : one = other := by
  obtain ⟨module, instanceOf, type, index⟩ := Fields.mk.inj same
  have side : one.field 24 2 = other.field 24 2 := by rw [← raw_type, ← raw_type, type]
  have words : one.raw = other.raw := by
    refine UInt32.toNat_inj.mp (Nat.eq_of_testBit_eq fun i => ?_)
    have cut : i < 16 ∨ 16 ≤ i ∧ i < 24 ∨ 24 ≤ i ∧ i < 26 ∨ 26 ≤ i ∧ i < 32 ∨ 32 ≤ i := by omega
    rcases cut with below | ⟨above, below⟩ | ⟨above, below⟩ | ⟨above, below⟩ | high
    · exact testBit_congr moduleInside module (Nat.zero_le i) below
    · exact testBit_congr instanceInside instanceOf above below
    · exact testBit_congr typeInside side above below
    · exact testBit_congr indexInside index above below
    · rw [testBit_high _ high, testBit_high _ high]
  cases one
  cases other
  exact congrArg mk words

/-! ## Settings -/

/-- A number that is to be put into a field. -/
inductive Setting where
  | moduleId (value : UInt32)
  | instanceId (value : UInt32)
  | type (value : Coded ProbeType)
  | index (value : UInt32)
  deriving DecidableEq

namespace Setting

/-- Sets the field of a point. -/
def apply : Setting → ProbePoint → Except ArgumentError ProbePoint
  | moduleId value, point => point.setModuleId value
  | instanceId value, point => point.setInstanceId value
  | type value, point => point.setType value
  | index value, point => point.setIndex value

/-- The field has room for the number, and a type is one of those with a name. -/
def Fits : Setting → Prop
  | moduleId value => value.toNat < 2 ^ 16
  | instanceId value => value.toNat < 2 ^ 8
  | type value => ∃ member, value = .known member
  | index value => value.toNat < 2 ^ 6

instance : DecidablePred Fits
  | moduleId _ | instanceId _ | index _ => inferInstanceAs (Decidable (_ < _))
  | type (.known member) => .isTrue ⟨member, rfl⟩
  | type (.unknown _) => .isFalse nofun

/-- What is said about a number that does not fit. -/
def refusal : Setting → ArgumentError
  | moduleId value => .moduleId value
  | instanceId value => .instanceId value
  | type value => .probeType value.raw
  | index value => .pinIndex value

/-- The fields with the one that is set. -/
def put : Setting → Fields → Fields
  | moduleId value, fields => { fields with moduleId := value }
  | instanceId value, fields => { fields with instanceId := value }
  | type value, fields => { fields with type := value }
  | index value, fields => { fields with index := value }

theorem apply_of_not_fits {setting : Setting} (large : ¬ setting.Fits) (point : ProbePoint) :
    setting.apply point = .error setting.refusal := by
  cases setting with
  | moduleId value => exact if_neg large
  | instanceId value => exact if_neg large
  | index value => exact if_neg large
  | type value =>
    cases value with
    | known member => exact absurd ⟨member, rfl⟩ large
    | unknown raw => rfl

/-- A number that fits is put into its field, and nothing else changes. -/
theorem apply_of_fits (setting : Setting) (fits : setting.Fits) (point : ProbePoint) :
    ∃ changed, setting.apply point = .ok changed ∧ changed.fields = setting.put point.fields := by
  cases setting with
  | moduleId value =>
    refine ⟨_, if_pos fits, Fields.ext (field_withField moduleInside fits) ?_ ?_ ?_⟩
    · exact field_withField_of_apart moduleInside instanceInside (by decide)
    · exact congrArg Coded.ofRaw (field_withField_of_apart moduleInside typeInside (by decide))
    · exact field_withField_of_apart moduleInside indexInside (by decide)
  | instanceId value =>
    refine ⟨_, if_pos fits, Fields.ext ?_ (field_withField instanceInside fits) ?_ ?_⟩
    · exact field_withField_of_apart instanceInside moduleInside (by decide)
    · exact congrArg Coded.ofRaw (field_withField_of_apart instanceInside typeInside (by decide))
    · exact field_withField_of_apart instanceInside indexInside (by decide)
  | type value =>
    obtain ⟨member, rfl⟩ := fits
    have narrow : (Enumeration.coding member).code.toNat < 2 ^ 2 := by cases member <;> decide
    have accepted : (Coded.known member).isKnown && decide ((Coded.known member).raw < 4) := by
      cases member <;> rfl
    have named : Coded.ofRaw (Enumeration.coding member).code = Coded.known member := by cases member <;> rfl
    refine ⟨_, if_pos accepted, Fields.ext ?_ ?_ ?_ ?_⟩
    · exact field_withField_of_apart typeInside moduleInside (by decide)
    · exact field_withField_of_apart typeInside instanceInside (by decide)
    · exact (congrArg Coded.ofRaw (field_withField typeInside narrow)).trans named
    · exact field_withField_of_apart typeInside indexInside (by decide)
  | index value =>
    refine ⟨_, if_pos fits, Fields.ext ?_ ?_ ?_ (field_withField indexInside fits)⟩
    · exact field_withField_of_apart indexInside moduleInside (by decide)
    · exact field_withField_of_apart indexInside instanceInside (by decide)
    · exact congrArg Coded.ofRaw (field_withField_of_apart indexInside typeInside (by decide))

/-- A point after an attempt to set a field: a refusal leaves it as it is. -/
def change (setting : Setting) (point : ProbePoint) : ProbePoint :=
  match setting.apply point with
  | .ok changed => changed
  | .error _ => point

theorem fields_change (setting : Setting) (point : ProbePoint) :
    (setting.change point).fields = if setting.Fits then setting.put point.fields else point.fields := by
  by_cases fits : setting.Fits
  · obtain ⟨changed, accepted, found⟩ := setting.apply_of_fits fits point
    rw [change, accepted, if_pos fits, found]
  · rw [change, apply_of_not_fits fits, if_neg fits]

end Setting

/-! ## Settings one after the other -/

open Setting

/-- A point after some attempts. -/
def after (point : ProbePoint) (settings : List Setting) : ProbePoint :=
  settings.foldl (fun point setting => setting.change point) point

section Latest

variable {α : Type} (own : Setting → Option α)

/-- The last number among those that fit and are for one's own field, or the one that was there before. -/
def latest (before : α) (settings : List Setting) : α :=
  ((settings.filter fun setting => setting.Fits).filterMap own).getLast?.getD before

theorem latest_cons (before : α) (setting : Setting) (settings : List Setting) :
    latest own before (setting :: settings) =
      latest own (if setting.Fits then (own setting).getD before else before) settings := by
  unfold latest
  by_cases fits : setting.Fits
  · simp only [List.filter_cons, fits, decide_true, ↓reduceIte, List.filterMap_cons]
    cases own setting with
    | none => rfl
    | some value => simp only [List.getLast?_cons, Option.getD_some]
  · simp only [List.filter_cons, fits, decide_false, Bool.false_eq_true, ↓reduceIte]

/-- A field has what was last put into it. -/
theorem get_after (get : Fields → α)
    (puts : ∀ (setting : Setting) fields, get (setting.put fields) = (own setting).getD (get fields))
    (settings : List Setting) (point : ProbePoint) :
    get (point.after settings).fields = latest own (get point.fields) settings := by
  induction settings generalizing point with
  | nil => rfl
  | cons setting settings ih =>
    show get ((setting.change point).after settings).fields = _
    rw [ih, latest_cons, fields_change]
    split
    · rw [puts]
    · rfl

end Latest

namespace Setting

/-- The number of a setting, when it is for the module id. -/
def forModuleId : Setting → Option UInt32
  | moduleId value => some value
  | _ => none

/-- The number of a setting, when it is for the instance id. -/
def forInstanceId : Setting → Option UInt32
  | instanceId value => some value
  | _ => none

/-- The type of a setting, when it is for the type. -/
def forType : Setting → Option (Coded ProbeType)
  | type value => some value
  | _ => none

/-- The number of a setting, when it is for the pin index. -/
def forIndex : Setting → Option UInt32
  | index value => some value
  | _ => none

end Setting

theorem fields_after (point : ProbePoint) (settings : List Setting) :
    (point.after settings).fields =
      ⟨latest forModuleId point.moduleId settings, latest forInstanceId point.instanceId settings,
        latest forType point.type settings, latest forIndex point.index settings⟩ := by
  refine Fields.ext ?_ ?_ ?_ ?_
  · exact get_after forModuleId Fields.moduleId (fun setting _ => by cases setting <;> rfl) settings point
  · exact get_after forInstanceId Fields.instanceId (fun setting _ => by cases setting <;> rfl) settings point
  · exact get_after forType Fields.type (fun setting _ => by cases setting <;> rfl) settings point
  · exact get_after forIndex Fields.index (fun setting _ => by cases setting <;> rfl) settings point

/-- A point is packed again from what is found in its fields. -/
theorem of_fields (known : ∃ member, point.type = .known member) :
    of point.moduleId point.instanceId point.type point.index = .ok point := by
  obtain ⟨one, setModule, first⟩ := apply_of_fits (.moduleId _) (field_lt moduleInside point) ⟨0⟩
  obtain ⟨two, setInstance, second⟩ := apply_of_fits (.instanceId _) (field_lt instanceInside point) one
  obtain ⟨three, setType, third⟩ := apply_of_fits (.type _) known two
  obtain ⟨four, setIndex, fourth⟩ := apply_of_fits (.index _) (field_lt indexInside point) three
  have packed : of point.moduleId point.instanceId point.type point.index = .ok four := by
    change ((Setting.moduleId (point.field 0 16)).apply ⟨0⟩ >>= fun one =>
      (Setting.instanceId (point.field 16 8)).apply one >>= fun two =>
        (Setting.type point.type).apply two >>= (Setting.index (point.field 26 6)).apply) = _
    simp only [setModule, setInstance, setType, setIndex, bind, Except.bind]
  rw [packed]
  refine congrArg Except.ok (fields_injective ?_)
  rw [fourth, third, second, first]
  rfl

/-- The four fields of a point are independent. A setting is accepted exactly if it fits, and is put into its own
field; a refused one is told apart by its field and its number, and changes nothing. After any settings each field has
the last accepted number for it, or the one from the start. A point whose type has a name is packed again from its
fields, and points with equal fields are equal. -/
theorem fields_independent (point : ProbePoint) :
    (∀ setting : Setting,
      ((∃ changed, setting.apply point = .ok changed) ↔ setting.Fits) ∧
      (∀ changed, setting.apply point = .ok changed → changed.fields = setting.put point.fields) ∧
      (¬ setting.Fits → setting.apply point = .error setting.refusal ∧ setting.change point = point)) ∧
    (∀ settings, (point.after settings).fields =
      ⟨latest forModuleId point.moduleId settings, latest forInstanceId point.instanceId settings,
        latest forType point.type settings, latest forIndex point.index settings⟩) ∧
    ((∃ member, point.type = .known member) →
      of point.moduleId point.instanceId point.type point.index = .ok point) ∧
    ∀ other : ProbePoint, other.fields = point.fields → other = point := by
  refine ⟨fun setting => ?_, point.fields_after, of_fields, fun other => fields_injective⟩
  by_cases fits : setting.Fits
  · obtain ⟨changed, accepted, found⟩ := setting.apply_of_fits fits point
    refine ⟨iff_of_true ⟨changed, accepted⟩ fits, ?_, fun large => absurd fits large⟩
    intro other same
    cases accepted.symm.trans same
    exact found
  · have refused := apply_of_not_fits fits point
    refine ⟨iff_of_false ?_ fits, ?_, fun _ => ⟨refused, by rw [change, refused]⟩⟩
    · rintro ⟨changed, accepted⟩
      cases refused.symm.trans accepted
    · intro changed accepted
      cases refused.symm.trans accepted

/-- The type of the point has no name at first, and the second index does not fit. -/
example : (after ⟨0xC0000007⟩ [.index 3, .instanceId 200, .index 64, .type (.known .output)]).fields =
    ⟨7, 200, .known .output, 3⟩ := by
  decide

end DspInspector.ProbePoint
