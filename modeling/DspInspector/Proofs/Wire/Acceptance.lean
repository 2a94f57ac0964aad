import DspInspector.Proofs.Wire.Verbatim

/-!
# What a reply decodes to

A reader gives nothing but canonical values (`Layout.gives_canonical`), so that the values that a buffer
decodes to are the canonical values whose bytes it begins with (`Wire.decode_eq_ok_iff`). There is at most
one of them (`Wire.value_unique`).
-/

namespace DspInspector

namespace Wire

open Decoder

variable {α β : Type}

/-- Every value that the reader gives has the property. -/
def Gives [Wire α] (property : α → Prop) : Prop :=
  ∀ bytes value rest, (Wire.read : Decoder α) bytes = .ok value rest → property value

theorem Gives.mono [Wire α] {property weaker : α → Prop} (gives : Gives property)
    (implies : ∀ value, property value → weaker value) : Gives weaker :=
  fun bytes value rest read => implies value (gives bytes value rest read)

theorem gives_any (α : Type) [Wire α] : Gives fun _ : α => True := fun _ _ _ _ => trivial

theorem gives_pair [Wire α] [Wire β] {first : α → Prop} {second : β → Prop} (one : Gives first) (two : Gives second) :
    Gives fun pair : α × β => first pair.1 ∧ second pair.2 := by
  intro bytes pair rest read
  obtain ⟨between, readFirst, readSecond⟩ := of_read_pair read
  exact ⟨one _ _ _ readFirst, two _ _ _ readSecond⟩

theorem Gives.behind [Wire α] [Wire β] {property : β → Prop} (gives : Gives property) :
    Gives fun pair : α × β => property pair.2 :=
  (gives_pair (gives_any α) gives).mono fun _ both => both.2

theorem Gives.ahead [Wire α] [Wire β] {property : α → Prop} (gives : Gives property) :
    Gives fun pair : α × β => property pair.1 :=
  (gives_pair gives (gives_any β)).mono fun _ both => both.1

theorem gives_via [Wire β] {into : β → α} {outOf : α → β} {property : α → Prop}
    (gives : Gives fun value => property (into value)) : @Gives α (via into outOf) property := by
  intro bytes value rest read
  obtain ⟨arranged, left, readArranged, whole⟩ := bind_eq_ok read
  cases whole
  exact gives _ _ _ readArranged

theorem forall_of_many [Wire α] {property : α → Prop} (gives : Gives property) {n : Nat} {bytes rest : List UInt8}
    {values : List α} (read : many (Wire.read : Decoder α) n bytes = .ok values rest) :
    ∀ value ∈ values, property value := by
  induction n generalizing bytes values with
  | zero =>
    cases read
    exact fun _ member => absurd member List.not_mem_nil
  | succ n ih =>
    obtain ⟨first, between, readFirst, read⟩ := bind_eq_ok read
    obtain ⟨others, _, readOthers, whole⟩ := bind_eq_ok read
    cases whole
    exact List.forall_mem_cons.mpr ⟨gives _ _ _ readFirst, ih readOthers⟩

theorem gives_list [Wire α] {property : α → Prop} (gives : Gives property) :
    Gives fun values : List α => Fits values ∧ ∀ value ∈ values, property value := by
  intro bytes values rest read
  obtain ⟨count, left, -, readMany⟩ := bind_eq_ok read
  exact ⟨length_lt_of_read read, forall_of_many gives readMany⟩

theorem gives_fits [Wire α] : Gives (Fits : List α → Prop) := fun _ _ _ => length_lt_of_read

theorem forall_of_vector [Wire α] {property : α → Prop} (gives : Gives property) {n : Nat} {bytes rest : List UInt8}
    {values : Vector α n} (read : Decoder.vector (Wire.read : Decoder α) n bytes = .ok values rest) :
    ∀ value ∈ values, property value := by
  induction n generalizing rest with
  | zero =>
    cases read
    exact fun _ member => absurd member (Vector.not_mem_empty _)
  | succ n ih =>
    obtain ⟨before, between, readBefore, read⟩ := bind_eq_ok read
    obtain ⟨last, _, readLast, whole⟩ := bind_eq_ok read
    cases whole
    intro value member
    obtain earlier | rfl := Vector.mem_push.mp member
    · exact ih readBefore value earlier
    · exact gives _ _ _ readLast

theorem gives_vector [Wire α] {property : α → Prop} (gives : Gives property) {n : Nat} :
    Gives fun values : Vector α n => ∀ value ∈ values, property value :=
  fun _ _ _ => forall_of_vector gives

end Wire

open Wire

/-! ## Enumerations and records -/

/-- A code that was read hides no member. -/
theorem Coded.canonical_ofRaw {κ : Type} [Enumeration κ] [Lawful κ] (code : UInt32) :
    (Coded.ofRaw code : Coded κ).Canonical := by
  have back : (Coded.ofRaw code : Coded κ).raw = code := Coded.raw_ofRaw code
  cases found : (Coded.ofRaw code : Coded κ) with
  | known member => trivial
  | unknown raw =>
    rintro member rfl
    rw [found] at back
    change (Enumeration.coding member).code = code at back
    rw [← back, Lawful.ofRaw_code] at found
    cases found

theorem Coded.gives_canonical {κ : Type} [Enumeration κ] [Lawful κ] : Gives (Coded.Canonical : Coded κ → Prop) :=
  gives_via ((gives_any UInt32).mono fun code _ => Coded.canonical_ofRaw code)

theorem AudioFormat.gives_canonical : Gives AudioFormat.Canonical := by
  refine gives_via ((gives_pair (gives_any _) (gives_pair (gives_any _) (gives_pair (gives_any _)
    (gives_pair Coded.gives_canonical (gives_pair Coded.gives_canonical (gives_any _)))))).mono ?_)
  rintro ⟨frequency, depth, map, config, interleaving, channels, valid, sampleByte, reserved⟩
    ⟨-, -, -, canonicalConfig, canonicalInterleaving, -⟩
  refine ⟨canonicalConfig, canonicalInterleaving, Coded.canonical_ofRaw _, ?_⟩
  rw [Coded.raw_ofRaw]
  exact UInt32.lt_iff_toNat_lt.mpr sampleByte.toNat_lt

theorem Pin.gives_canonical : Gives Pin.Canonical :=
  gives_via ((gives_pair Coded.gives_canonical (gives_pair AudioFormat.gives_canonical (gives_any _))).mono
    fun _ parts => ⟨parts.1, parts.2.1⟩)

theorem I2sCapabilities.gives_canonical : Gives I2sCapabilities.Canonical :=
  gives_via ((gives_pair (gives_any _) gives_fits).mono fun _ parts => parts.2)

theorem GpdmaCapabilities.gives_canonical : Gives GpdmaCapabilities.Canonical :=
  gives_via ((gives_pair gives_fits gives_fits).mono fun _ parts => ⟨parts.1, parts.2⟩)

theorem BankState.gives_canonical : Gives BankState.Canonical :=
  gives_via ((gives_pair (gives_any _) (gives_pair gives_fits gives_fits)).mono
    fun _ parts => ⟨parts.2.1, parts.2.2⟩)

theorem ScheduledTask.gives_canonical : Gives ScheduledTask.Canonical :=
  gives_via ((gives_pair (gives_any _) gives_fits).mono fun _ parts => parts.2)

theorem Scheduler.gives_canonical : Gives Scheduler.Canonical :=
  gives_via ((gives_pair (gives_any _) (gives_pair (gives_any _) (gives_list ScheduledTask.gives_canonical))).mono
    fun _ parts => ⟨parts.2.2.1, parts.2.2.2⟩)

theorem CoreSchedule.gives_canonical : Gives CoreSchedule.Canonical :=
  gives_via ((gives_list Scheduler.gives_canonical).mono fun _ parts => ⟨parts.1, parts.2⟩)

theorem Pipeline.gives_canonical : Gives Pipeline.Canonical := by
  have lists : Gives fun lists : List InstanceId × List UInt32 × List UInt32 =>
      Fits lists.1 ∧ Fits lists.2.1 ∧ Fits lists.2.2 :=
    gives_pair gives_fits (gives_pair gives_fits gives_fits)
  exact gives_via (lists.behind.behind.behind.behind.behind.behind.mono
    fun _ parts => ⟨parts.1, parts.2.1, parts.2.2⟩)

theorem InstanceProps.gives_canonical : Gives InstanceProps.Canonical := by
  have tail : Gives fun tail : List Pin × List Pin × ConnectorId × ConnectorId =>
      (Fits tail.1 ∧ ∀ pin ∈ tail.1, pin.Canonical) ∧ Fits tail.2.1 ∧ ∀ pin ∈ tail.2.1, pin.Canonical :=
    gives_pair (gives_list Pin.gives_canonical) (gives_list Pin.gives_canonical).ahead
  exact gives_via (tail.behind.behind.behind.behind.behind.behind.behind.behind.behind.behind.behind.mono
    fun _ parts => ⟨parts.1.1, parts.1.2, parts.2.1, parts.2.2⟩)

theorem Digest.gives_canonical : Gives Digest.Canonical := by
  intro bytes digest rest read
  obtain ⟨enough, rfl, -⟩ := Digest.of_read read
  exact List.length_take_of_le enough

theorem ModuleEntry.gives_canonical : Gives ModuleEntry.Canonical :=
  gives_via (Digest.gives_canonical.ahead.behind.behind.behind.behind.behind.mono fun _ canonical => canonical)

theorem Packet.gives_canonical : Gives Packet.Canonical := by
  intro bytes packet rest read
  obtain ⟨_, afterSync, -, read⟩ := Decoder.bind_eq_ok read
  obtain ⟨fields, afterFields, readFields, read⟩ := Decoder.bind_eq_ok read
  obtain ⟨found, left, -, checked⟩ := Decoder.bind_eq_ok read
  have bytes : Gives (Fits : List UInt8 → Prop) := gives_fits
  have data : Fits fields.2.2.2.2 := bytes.behind.behind.behind.behind _ _ _ readFields
  split at checked
  · cases checked
    exact data
  · cases checked

/-! ## All layouts -/

/-- Every layout is read to canonical values only, by induction over arrays and lists. -/
theorem Layout.gives_canonical (layout : Layout) : Gives layout.Canonical := by
  induction layout with
  | array length item ih => exact gives_vector ih
  | list item ih => exact gives_list ih
  | enumeration name => exact Coded.gives_canonical
  | audioFormat => exact AudioFormat.gives_canonical
  | pin => exact Pin.gives_canonical
  | instanceProps => exact InstanceProps.gives_canonical
  | pipeline => exact Pipeline.gives_canonical
  | scheduledTask => exact ScheduledTask.gives_canonical
  | scheduler => exact Scheduler.gives_canonical
  | coreSchedule => exact CoreSchedule.gives_canonical
  | bankState => exact BankState.gives_canonical
  | i2sCapabilities => exact I2sCapabilities.gives_canonical
  | gpdmaCapabilities => exact GpdmaCapabilities.gives_canonical
  | moduleEntry => exact ModuleEntry.gives_canonical
  | packet => exact Packet.gives_canonical
  | u8 | u16 | u32 | u64 | i8 | i16 | i32 | i64 | firmwareVersion | dmaBuffer | instanceId | connectorId
  | gateway | segment | measurement | probePoint | messageHeader | tunnelHeader => exact gives_any _

namespace Wire

variable {layout : Layout} {buffer : List UInt8} {value : layout.Value}

/-- A buffer decodes to the canonical values whose bytes it begins with. -/
theorem decode_eq_ok_iff :
    decode layout.Value buffer = .ok value ↔ layout.Canonical value ∧ layout.wire.write value <+: buffer := by
  constructor
  · intro decoded
    cases read : layout.wire.read buffer with
    | ok found rest =>
      rw [decode, read] at decoded
      cases decoded
      have lawful := layout.verbatim
      exact ⟨layout.gives_canonical _ _ _ read, rest, (Verbatim.of_read read).1.symm⟩
    | error cause rest =>
      rw [decode, read] at decoded
      cases decoded
  · rintro ⟨canonical, rest, rfl⟩
    rw [decode, layout.echoed value canonical rest]

/-- Where a buffer begins with no canonical value, decoding fails. -/
theorem decode_eq_error (none : ∀ value, layout.Canonical value → ¬ layout.wire.write value <+: buffer) :
    ∃ cause, decode layout.Value buffer = .error cause := by
  cases decoded : decode layout.Value buffer with
  | ok value =>
    obtain ⟨canonical, begins⟩ := decode_eq_ok_iff.mp decoded
    exact absurd begins (none value canonical)
  | error cause => exact ⟨cause, rfl⟩

end Wire

end DspInspector
