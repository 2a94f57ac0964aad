import DspInspector.Proofs.Data.Outcomes
import DspInspector.Proofs.Wire.Extents

/-!
# Readers that keep a tally

A count in front of a list comes from outside, so it matters how much work it can ask for. A reader only says what it
has read and what it has left. Here it also notes the counts that it has met and how often it has begun to read an
element, at any depth (`Tally`). `Shape` says how a type is put together, and with that how it is read, with a tally and
without: the two readers take the same bytes (`Shape.follows`). Where the elements of every list take bytes, all that
the tally grows by is paid for in bytes, and no read succeeds behind a count that asks for more than is there
(`Shape.pays`). Both are proved along the shape, one case for each way to put types together.
-/

namespace DspInspector

open Decoder

/-- A count as it is met in front of a list: the elements that it declares, the bytes that each of them takes at the
least, and the bytes that are left behind it. -/
structure Count where
  declared : Nat
  least : Nat
  left : Nat
  deriving DecidableEq

/-- So many elements are not there, however small they are. -/
def Count.Hostile (count : Count) : Prop := count.left < count.declared * count.least

instance (count : Count) : Decidable count.Hostile :=
  inferInstanceAs (Decidable (count.left < count.declared * count.least))

/-- What has been done about lists so far. -/
structure Tally where
  /-- How many times the read of an element was begun. -/
  elements : Nat := 0
  /-- The counts that were met, in order. -/
  counts : List Count := []

/-- A reader with a tally, which it keeps also where it fails. -/
abbrev Tallying (α : Type) := Action WireError (List UInt8 × Tally) α

namespace Tallying

variable {α β : Type}

/-- A reader that has nothing to do with lists. -/
def quiet (decoder : Decoder α) : Tallying α := Action.onPart Prod.fst (fun rest state => (rest, state.2)) decoder

/-- Notes that the read of an element is begun. -/
def begun : Tallying Unit :=
  modify fun state => (state.1, { state.2 with elements := state.2.elements + 1 })

/-- Notes a count in front of elements that take so many bytes at the least. -/
def met (declared least : Nat) : Tallying Unit :=
  modify fun state => (state.1, { state.2 with counts := state.2.counts ++ [⟨declared, least, state.1.length⟩] })

/-- Reads `n` values one after the other, as elements of a list. -/
def many (item : Tallying α) : Nat → Tallying (List α)
  | 0 => pure []
  | n + 1 => do
    begun
    let first ← item
    let others ← many item n
    pure (first :: others)

/-- Reads exactly `n` values into a vector, which has no count. -/
def vector (item : Tallying α) : (n : Nat) → Tallying (Vector α n)
  | 0 => pure #v[]
  | n + 1 => do
    let before ← vector item n
    let last ← item
    pure (before.push last)

/-- Reads a count and that many values. -/
def counted (width : CountWidth) (least : Nat) (item : Tallying α) : Tallying (List α) := do
  let count ← quiet (take width.bytes)
  met (ofLittleEndian count) least
  many item (ofLittleEndian count)

end Tallying

/-- Passes on what was accepted and gives up for the reason of a refusal. -/
def Decoder.accept {α : Type} : Except Malformation α → Decoder α
  | .ok value => pure value
  | .error reason => reject reason

theorem Decoder.accept_ite {α : Type} (holds : Prop) [Decidable holds] (value : α) (reason : Malformation) :
    accept (if holds then .ok value else .error reason) = if holds then pure value else reject reason := by
  split <;> rfl

/-- How the values of a type are put together. -/
inductive Shape : Type → Type 1 where
  /-- Values of a size, without a list in them. -/
  | plain {α : Type} (read : Decoder α) (size : Nat) (extent : Extent read size) : Shape α
  | pair {α β : Type} (first : Shape α) (second : Shape β) : Shape (α × β)
  | vector {α : Type} (item : Shape α) (length : Nat) : Shape (Vector α length)
  | list {α : Type} (width : CountWidth) (item : Shape α) : Shape (List α)
  /-- The values of a type in another arrangement. -/
  | via {α β : Type} (into : β → α) (shape : Shape β) : Shape α
  /-- Those values of a type that pass a check. -/
  | check {α β : Type} (judge : β → Except Malformation α) (shape : Shape β) : Shape α

namespace Shape

variable {α β : Type}

/-- The reader of the type. -/
def read {α : Type} : Shape α → Decoder α
  | plain read _ _ => read
  | pair first second => do
    let a ← first.read
    let b ← second.read
    pure (a, b)
  | vector item length => Decoder.vector item.read length
  | list width item => do
    let count ← take width.bytes
    Decoder.many item.read (ofLittleEndian count)
  | via into shape => do
    let value ← shape.read
    pure (into value)
  | check judge shape => do
    let value ← shape.read
    accept (judge value)

/-- The fewest bytes that a value takes. -/
def least {α : Type} : Shape α → Nat
  | plain _ size _ => size
  | pair first second => first.least + second.least
  | vector item length => length * item.least
  | list width _ => width.bytes
  | via _ shape => shape.least
  | check _ shape => shape.least

/-- The reader of the type, with a tally. -/
def tallied {α : Type} : Shape α → Tallying α
  | plain read _ _ => Tallying.quiet read
  | pair first second => do
    let a ← first.tallied
    let b ← second.tallied
    pure (a, b)
  | vector item length => Tallying.vector item.tallied length
  | list width item => Tallying.counted width item.least item.tallied
  | via into shape => do
    let value ← shape.tallied
    pure (into value)
  | check judge shape => do
    let value ← shape.tallied
    Tallying.quiet (accept (judge value))

/-- Some part of a value has to pass a check. -/
def checks {α : Type} : Shape α → Bool
  | plain _ _ _ => false
  | pair first second => first.checks || second.checks
  | vector item _ => item.checks
  | list _ item => item.checks
  | via _ shape => shape.checks
  | check _ _ => true

/-- The elements of every list take bytes, and there is nothing in them to be refused. -/
def countable {α : Type} : Shape α → Bool
  | plain _ _ _ => true
  | pair first second => first.countable && second.countable
  | vector item _ => item.countable
  | list _ item => decide (0 < item.least) && !item.checks && item.countable
  | via _ shape => shape.countable
  | check _ shape => shape.countable

end Shape

/-! ## The same reads -/

namespace Tallying

variable {α β : Type} {tallying : Tallying α} {decoder : Decoder α}

/-- Whatever the tally says, the reader with a tally ends as the other one does: with the same value or failure, in
front of the same bytes. -/
def Follows (tallying : Tallying α) (decoder : Decoder α) : Prop :=
  ∀ bytes tally, tallying.Yields (bytes, tally) (fun value after => decoder bytes = .ok value after.1)
    (fun cause after => decoder bytes = .error cause after.1)

theorem follows_quiet (decoder : Decoder α) : Follows (quiet decoder) decoder := by
  intro bytes tally
  rw [quiet, Action.yields_onPart, Action.Yields]
  cases ran : decoder bytes <;> rfl

theorem follows_pure (value : α) : Follows (pure value) (pure value) := fun _ _ => rfl

theorem Follows.bind {next : α → Tallying β} {second : α → Decoder β} (one : Follows tallying decoder)
    (two : ∀ value, Follows (next value) (second value)) : Follows (tallying >>= next) (decoder >>= second) := by
  intro bytes tally
  rw [Action.yields_bind]
  refine (one bytes tally).mono (fun value between first => ?_) fun cause after first => bind_error first
  exact (two value between.1 between.2).mono (fun _ _ last => (bind_ok first).trans last)
    fun _ _ last => (bind_ok first).trans last

theorem Follows.begun (follows : Follows tallying decoder) :
    Follows (do Tallying.begun; tallying) decoder := by
  intro bytes tally
  rw [Action.yields_bind, Tallying.begun, Action.yields_modify]
  exact follows bytes _

theorem Follows.met (follows : Follows tallying decoder) (declared least : Nat) :
    Follows (do Tallying.met declared least; tallying) decoder := by
  intro bytes tally
  rw [Action.yields_bind, Tallying.met, Action.yields_modify]
  exact follows bytes _

theorem Follows.many (follows : Follows tallying decoder) : ∀ n, Follows (many tallying n) (Decoder.many decoder n)
  | 0 => follows_pure _
  | n + 1 => (follows.bind fun _ => (follows.many n).bind fun _ => follows_pure _).begun

theorem Follows.vector (follows : Follows tallying decoder) :
    ∀ n, Follows (vector tallying n) (Decoder.vector decoder n)
  | 0 => follows_pure _
  | n + 1 => (follows.vector n).bind fun _ => follows.bind fun _ => follows_pure _

end Tallying

theorem Shape.follows {α : Type} (shape : Shape α) : Tallying.Follows shape.tallied shape.read := by
  induction shape with
  | plain read _ _ => exact Tallying.follows_quiet read
  | pair first second one two => exact one.bind fun _ => two.bind fun _ => Tallying.follows_pure _
  | vector item length ih => exact ih.vector length
  | list width item ih =>
    exact (Tallying.follows_quiet _).bind fun count => (ih.many _).met (ofLittleEndian count) item.least
  | via into shape ih => exact ih.bind fun _ => Tallying.follows_pure _
  | check judge shape ih => exact ih.bind fun _ => Tallying.follows_quiet _

/-! ## Readers without lists -/

namespace Tallying

variable {α : Type} {item : Tallying α}

theorem keeps_quiet (decoder : Decoder α) : Action.Keeps Prod.snd (quiet decoder) := by
  intro state
  rw [quiet, Action.yields_onPart]
  exact Action.yields_of_forall (fun _ _ => rfl) fun _ _ => rfl

theorem keeps_vector (keeps : Action.Keeps Prod.snd item) : ∀ n, Action.Keeps Prod.snd (vector item n)
  | 0 => Action.keeps_pure _
  | n + 1 => (keeps_vector keeps n).bind fun _ => keeps.bind fun _ => Action.keeps_pure _

end Tallying

/-! ## What is paid for -/

/-- No hostile count was met on the way from one tally to another. -/
def Tally.Honest (before after : Tally) : Prop := ∀ count ∈ after.counts, count.Hostile → count ∈ before.counts

namespace Tallying

variable {α β : Type} {tallying : Tallying α} {before between after : List UInt8 × Tally} {cause : WireError}
  {spare least spare' least' slack slack' : Nat} {refuses refuses' : Prop}

/-- A success: the elements that were begun are paid for in bytes, with some to spare, and at least so many bytes are
gone. -/
structure Paid (spare least : Nat) (before after : List UInt8 × Tally) : Prop where
  elements : spare + after.2.elements + after.1.length ≤ before.2.elements + before.1.length
  bytes : least + after.1.length ≤ before.1.length
  honest : before.2.Honest after.2

/-- A failure: what was begun is paid for up to some slack, and either the bytes have run out or a check has failed. -/
structure Broke (slack : Nat) (refuses : Prop) (before : List UInt8 × Tally) (cause : WireError)
    (after : List UInt8 × Tally) : Prop where
  elements : after.2.elements + after.1.length ≤ before.2.elements + before.1.length + slack
  ends : cause = .endOfStream ∧ after.1 = [] ∨ refuses ∧ before.2.Honest after.2

/-- The reader pays with bytes for what it notes in its tally. -/
def Pays (tallying : Tallying α) (spare least slack : Nat) (refuses : Prop) : Prop :=
  ∀ before, tallying.Yields before (fun _ after => Paid spare least before after) (Broke slack refuses before)

theorem Paid.trans (first : Paid spare least before between) (second : Paid spare' least' between after) :
    Paid (spare + spare') (least + least') before after where
  elements := by
    have one := first.elements
    have two := second.elements
    omega
  bytes := by
    have one := first.bytes
    have two := second.bytes
    omega
  honest count member hostile := first.honest count (second.honest count member hostile) hostile

/-- What the first reader had to spare is slack for the second one. -/
theorem Paid.broke (first : Paid spare least before between) (second : Broke (slack + spare) refuses between cause after) :
    Broke slack refuses before cause after where
  elements := by
    have one := first.elements
    have two := second.elements
    omega
  ends := second.ends.imp_right fun refused =>
    ⟨refused.1, fun count member hostile => first.honest count (refused.2 count member hostile) hostile⟩

theorem Pays.mono (pays : Pays tallying spare least slack refuses) (less : spare' ≤ spare) (fewer : least' ≤ least)
    (more : slack ≤ slack') : Pays tallying spare' least' slack' refuses := by
  intro before
  refine (pays before).mono (fun _ after paid => ⟨?_, ?_, paid.honest⟩) fun cause after broke => ⟨?_, broke.ends⟩
  · have elements := paid.elements
    omega
  · have bytes := paid.bytes
    omega
  · have elements := broke.elements
    omega

theorem Pays.imp (pays : Pays tallying spare least slack refuses) (implies : refuses → refuses') :
    Pays tallying spare least slack refuses' := fun before =>
  (pays before).mono (fun _ _ paid => paid) fun _ _ broke =>
    ⟨broke.elements, broke.ends.imp_right fun refused => ⟨implies refused.1, refused.2⟩⟩

/-- Where nothing is owed, more slack changes nothing. -/
theorem Pays.slacken (pays : Pays tallying spare least slack refuses) (more : slack ≤ slack') :
    Pays tallying spare least slack' refuses :=
  pays.mono (Nat.le_refl spare) (Nat.le_refl least) more

theorem pays_pure (value : α) : Pays (pure value) 0 0 slack refuses := by
  intro before
  rw [Action.yields_pure]
  exact ⟨by omega, by omega, fun _ member _ => member⟩

theorem Pays.bind {next : α → Tallying β} (one : Pays tallying spare least slack refuses)
    (two : ∀ value, Pays (next value) spare' least' (slack + spare) refuses) :
    Pays (tallying >>= next) (spare + spare') (least + least') slack refuses := by
  intro before
  rw [Action.yields_bind]
  refine (one before).mono (fun value between paid => ?_) fun _ _ broke => broke
  exact (two value between).mono (fun _ _ last => paid.trans last) fun _ _ last => paid.broke last

theorem pays_quiet {decoder : Decoder α} {size : Nat} (extent : Extent decoder size) :
    Pays (quiet decoder) size size 0 refuses := by
  rintro ⟨bytes, tally⟩
  rw [quiet, Action.yields_onPart, Action.Yields]
  by_cases available : size ≤ bytes.length
  · obtain ⟨value, ran⟩ := extent.enough available
    rw [ran]
    have length : size + (bytes.drop size).length = bytes.length := by
      rw [List.length_drop]
      omega
    exact ⟨by dsimp only; omega, Nat.le_of_eq length, fun _ member _ => member⟩
  · rw [extent.short (Nat.lt_of_not_le available)]
    exact ⟨Nat.add_le_add_left (Nat.zero_le _) _, .inl ⟨rfl, rfl⟩⟩

/-- A check costs nothing, whether it is passed or not. -/
theorem pays_accept (verdict : Except Malformation α) (checks : refuses) :
    Pays (quiet (accept verdict)) 0 0 slack refuses := by
  cases verdict with
  | ok value => exact (pays_quiet (extent_pure value)).slacken (Nat.zero_le slack)
  | error reason =>
    intro before
    rw [quiet, Action.yields_onPart]
    exact ⟨Nat.le_add_right _ _, .inr ⟨checks, fun _ member _ => member⟩⟩

/-- A read that is begun is one more to be paid for. -/
theorem Pays.begun (pays : Pays tallying (spare + 1) least slack refuses) :
    Pays (do Tallying.begun; tallying) spare least (slack + 1) refuses := by
  intro before
  rw [Action.yields_bind, Tallying.begun, Action.yields_modify]
  refine (pays _).mono (fun _ after paid => ⟨?_, paid.bytes, paid.honest⟩) fun cause after broke => ⟨?_, broke.ends⟩
  · have elements := paid.elements
    dsimp only at elements
    omega
  · have elements := broke.elements
    dsimp only at elements
    omega

/-- Behind a count, a success takes what the count asks for at the least. -/
theorem Pays.met {declared : Nat} (pays : Pays tallying spare (declared * least) slack False) :
    Pays (do Tallying.met declared least; tallying) spare (declared * least) slack refuses := by
  intro before
  rw [Action.yields_bind, Tallying.met, Action.yields_modify]
  refine (pays _).mono (fun _ after paid => ⟨paid.elements, paid.bytes, ?_⟩) fun cause after broke =>
    ⟨broke.elements, broke.ends.imp_right fun refused => refused.1.elim⟩
  intro count member hostile
  obtain earlier | new := List.mem_append.mp (paid.honest count member hostile)
  · exact earlier
  · obtain rfl := List.mem_singleton.mp new
    have bytes := paid.bytes
    have short : before.1.length < declared * least := hostile
    dsimp only at bytes
    omega

/-- Every element pays for its own read, the last one possibly on credit. -/
theorem Pays.many (pays : Pays tallying (spare + 1) least 0 refuses) :
    ∀ n, Pays (many tallying n) (n * spare) (n * least) 1 refuses
  | 0 => by
    rw [Nat.zero_mul, Nat.zero_mul]
    exact pays_pure _
  | n + 1 => by
    have others : ∀ first, Pays (do let others ← Tallying.many tallying n; pure (first :: others))
        (n * spare) (n * least) (0 + (spare + 1)) refuses := fun first =>
      ((pays.many n).bind fun _ => pays_pure _).slacken (by omega)
    have whole := pays.bind others
    rw [Nat.add_right_comm, Nat.add_comm spare, ← Nat.add_one_mul, Nat.add_comm least, ← Nat.add_one_mul] at whole
    exact whole.begun

theorem Pays.vector (pays : Pays tallying spare least 0 refuses) :
    ∀ n, Pays (vector tallying n) (n * spare) (n * least) 0 refuses
  | 0 => by
    rw [Nat.zero_mul, Nat.zero_mul]
    exact pays_pure _
  | n + 1 => by
    have last : ∀ before : Vector α n, Pays (do let last ← tallying; pure (before.push last))
        spare least (0 + n * spare) refuses := fun before =>
      (pays.bind fun _ => pays_pure _).slacken (Nat.zero_le _)
    have whole := (pays.vector n).bind last
    rwa [← Nat.add_one_mul, ← Nat.add_one_mul] at whole

/-- The bytes of the count are the credit for the one element that may be begun in vain. -/
theorem Pays.counted (pays : Pays tallying (spare + 1) least 0 False) (width : CountWidth) :
    Pays (counted width least tallying) width.bytes width.bytes 0 refuses := by
  have credit : 1 ≤ 0 + width.bytes := by cases width <;> decide
  have elements : ∀ count,
      Pays (do Tallying.met (ofLittleEndian count) least; Tallying.many tallying (ofLittleEndian count))
        0 0 (0 + width.bytes) refuses := fun count =>
    (pays.many (ofLittleEndian count)).met.mono (Nat.zero_le _) (Nat.zero_le _) credit
  exact (pays_quiet (extent_take width.bytes)).bind elements

end Tallying

open Tallying

/-- Countable values pay for what is noted about them, with as many bytes to spare as they take at the least. -/
theorem Shape.pays {α : Type} (shape : Shape α) (countable : shape.countable = true) :
    Pays shape.tallied shape.least shape.least 0 (shape.checks = true) := by
  induction shape with
  | plain read size extent => exact pays_quiet extent
  | pair first second one two =>
    obtain ⟨countableFirst, countableSecond⟩ := Bool.and_eq_true_iff.mp countable
    have checks : (pair first second).checks = true ↔ first.checks = true ∨ second.checks = true := Bool.or_eq_true_iff
    have ahead := (one countableFirst).imp (checks.mpr ∘ .inl)
    have behind := (two countableSecond).imp (checks.mpr ∘ .inr)
    exact ahead.bind fun a => (behind.bind fun b => pays_pure (a, b)).slacken (Nat.zero_le _)
  | vector item length ih => exact (ih countable).vector length
  | list width item ih =>
    simp only [Shape.countable, Bool.and_eq_true, decide_eq_true_eq, Bool.not_eq_true'] at countable
    obtain ⟨⟨some, unchecked⟩, countable⟩ := countable
    have elements := (ih countable).imp fun checks => Bool.false_ne_true (unchecked.symm.trans checks)
    obtain ⟨spare, least⟩ := Nat.exists_eq_add_one.mpr some
    have credit : Pays item.tallied (spare + 1) item.least 0 False := least ▸ elements
    exact credit.counted width
  | via into shape ih => exact (ih countable).bind fun _ => pays_pure _
  | check judge shape ih =>
    have checks : (check judge shape).checks = true := rfl
    exact ((ih countable).imp fun _ => checks).bind fun value => pays_accept (judge value) checks

end DspInspector
