import DspInspector.Proofs.Probe.Feeding
import Mathlib.Data.List.ReduceOption
import Mathlib.Tactic.Ring

/-!
# Sample alignment of injected audio

The stream is aligned when every complete host sample of it stands at a multiple of the sample size,
with whole silence samples between them (`Aligned`). A feeder that runs dry in the middle of a host
sample fills the sample up with silence. This is harmless when the missing bytes never come; when they
do, that sample is torn apart and every later one is shifted (`shifted_after_underrun`).
`aligned_iff_kept` says exactly when it happens. Clients that push whole samples are safe
(`aligned_of_whole_blocks`).
-/

namespace DspInspector

/-- Whole silence samples and whole host samples, up to where fewer host bytes than a sample follow. -/
inductive Aligned (size : Nat) : List (Option UInt8) → Prop where
  | tail {stream : List (Option UInt8)} (short : stream.reduceOption.length < size) : Aligned size stream
  | silence {stream : List (Option UInt8)} (later : Aligned size stream) :
    Aligned size (List.replicate size none ++ stream)
  | sample {bytes : List UInt8} {stream : List (Option UInt8)} (whole : bytes.length = size)
    (later : Aligned size stream) : Aligned size (bytes.map some ++ stream)

namespace Aligned

variable {size : Nat} {stream : List (Option UInt8)}

theorem reduceOption_host (bytes : List UInt8) : (bytes.map some).reduceOption = bytes := by
  induction bytes with
  | nil => rfl
  | cons byte bytes ih => rw [List.map_cons, List.reduceOption_cons_of_some, ih]

/-- What stands first in an aligned stream: nothing complete, silence or a host sample. -/
theorem cases_head (aligned : Aligned size stream) : stream.reduceOption.length < size ∨
    (∃ later, stream = List.replicate size none ++ later ∧ Aligned size later) ∨
    ∃ (bytes : List UInt8) (later : List (Option UInt8)),
      bytes.length = size ∧ stream = bytes.map some ++ later ∧ Aligned size later := by
  cases aligned with
  | tail short => exact .inl short
  | silence later => exact .inr (.inl ⟨_, rfl, later⟩)
  | sample whole later => exact .inr (.inr ⟨_, _, whole, rfl, later⟩)

theorem silence_iff (positive : 0 < size) :
    Aligned size (List.replicate size none ++ stream) ↔ Aligned size stream := by
  constructor
  · intro aligned
    obtain short | ⟨later, same, aligned⟩ | ⟨bytes, later, whole, same, _⟩ := aligned.cases_head
    · rw [List.reduceOption_append, List.reduceOption_replicate_none, List.nil_append] at short
      exact .tail short
    · rw [List.append_cancel_left same]
      exact aligned
    · obtain ⟨size, rfl⟩ := Nat.exists_eq_succ_of_ne_zero (Nat.ne_of_gt positive)
      obtain ⟨byte, bytes, rfl⟩ := List.exists_cons_of_length_eq_add_one whole
      cases same
  · exact .silence

theorem sample_iff (positive : 0 < size) {bytes : List UInt8} (whole : bytes.length = size) :
    Aligned size (bytes.map some ++ stream) ↔ Aligned size stream := by
  constructor
  · intro aligned
    obtain short | ⟨later, same, _⟩ | ⟨others, later, long, same, aligned⟩ := aligned.cases_head
    · rw [List.reduceOption_append, reduceOption_host, List.length_append] at short
      omega
    · obtain ⟨size, rfl⟩ := Nat.exists_eq_succ_of_ne_zero (Nat.ne_of_gt positive)
      obtain ⟨byte, bytes, rfl⟩ := List.exists_cons_of_length_eq_add_one whole
      cases same
    · obtain ⟨_, rest⟩ := List.append_inj same (by rw [List.length_map, List.length_map, whole, long])
      rw [rest]
      exact aligned
  · exact .sample whole

/-- Any number of whole host samples in front changes nothing. -/
theorem hosts_iff (positive : 0 < size) {bytes : List UInt8} (whole : bytes.length % size = 0) :
    Aligned size (bytes.map some ++ stream) ↔ Aligned size stream := by
  obtain ⟨count, length⟩ : ∃ count, bytes.length = count * size :=
    ⟨bytes.length / size, (Nat.div_mul_cancel (Nat.dvd_of_mod_eq_zero whole)).symm⟩
  clear whole
  induction count generalizing bytes with
  | zero =>
    rw [Nat.zero_mul, List.length_eq_zero_iff] at length
    rw [length]
    rfl
  | succ count ih =>
    rw [Nat.succ_mul] at length
    have front : (bytes.take size).length = size := List.length_take_of_le (by omega)
    have back : (bytes.drop size).length = count * size := by
      rw [List.length_drop]
      omega
    rw [← List.take_append_drop size bytes, List.map_append, List.append_assoc, sample_iff positive front,
      ih back]

/-- Any number of whole silence samples in front changes nothing. -/
theorem silences_iff (positive : 0 < size) {count : Nat} (whole : count % size = 0) :
    Aligned size (List.replicate count none ++ stream) ↔ Aligned size stream := by
  obtain ⟨samples, rfl⟩ : ∃ samples, count = samples * size :=
    ⟨count / size, (Nat.div_mul_cancel (Nat.dvd_of_mod_eq_zero whole)).symm⟩
  clear whole
  induction samples with
  | zero =>
    rw [Nat.zero_mul]
    rfl
  | succ samples ih =>
    rw [Nat.succ_mul, Nat.add_comm, ← List.replicate_append_replicate, List.append_assoc, silence_iff positive, ih]

/-- Silence inside a host sample is only right when the sample is never completed. -/
theorem torn_iff {part : List UInt8} {silence : Nat} (started : 0 < part.length)
    (open_ : part.length < size) (silent : 0 < silence) :
    Aligned size (part.map some ++ (List.replicate silence none ++ stream)) ↔
      part.length + stream.reduceOption.length < size := by
  have count : (part.map some ++ (List.replicate silence none ++ stream)).reduceOption.length =
      part.length + stream.reduceOption.length := by
    rw [List.reduceOption_append, List.reduceOption_append, reduceOption_host, List.reduceOption_replicate_none,
      List.nil_append, List.length_append]
  constructor
  · intro aligned
    obtain short | ⟨later, same, _⟩ | ⟨bytes, later, whole, same, _⟩ := aligned.cases_head
    · rwa [count] at short
    · have first := congrArg (·[0]?) same
      have host : (part.map some ++ (List.replicate silence none ++ stream))[0]? = some (some part[0]) := by
        rw [List.getElem?_append_left (by rwa [List.length_map]), List.getElem?_map,
          List.getElem?_eq_getElem started]
        rfl
      have silent : (List.replicate size none ++ later)[0]? = some (none : Option UInt8) := by
        rw [List.getElem?_append_left (by rw [List.length_replicate]; omega), List.getElem?_replicate,
          if_pos (by omega)]
      rw [host, silent] at first
      cases first
    · have place := congrArg (·[part.length]?) same
      have silent : (part.map some ++ (List.replicate silence none ++ stream))[part.length]? =
          some (none : Option UInt8) := by
        rw [List.getElem?_append_right (by simp), List.length_map, Nat.sub_self,
          List.getElem?_append_left (by rwa [List.length_replicate]), List.getElem?_replicate, if_pos silent]
      have host : (bytes.map some ++ later)[part.length]? = some (some bytes[part.length]) := by
        rw [List.getElem?_append_left (by rw [List.length_map]; omega), List.getElem?_map,
          List.getElem?_eq_getElem (by omega)]
        rfl
      rw [silent, host] at place
      cases place
  · intro short
    exact .tail (count.symm ▸ short)

end Aligned

/-! ## Portions -/

/-- How many host bytes were given. -/
def emitted (portions : List Portion) : Nat := (portions.flatMap Portion.host).length

/-- Whenever a call ends inside a host sample, no later call completes that sample. -/
def KeepsSamples (size : Nat) (portions : List Portion) : Prop :=
  ∀ calls ≤ portions.length, emitted (portions.take calls) % size = 0 ∨
    emitted portions < (emitted (portions.take calls) / size + 1) * size

variable {size : Nat} {portion : Portion} {portions : List Portion}

theorem emitted_cons (portion : Portion) (portions : List Portion) :
    emitted (portion :: portions) = portion.host.length + emitted portions := by
  rw [emitted, List.flatMap_cons, List.length_append, emitted]

theorem emitted_mod_of_whole (whole : ∀ portion ∈ portions, portion.host.length % size = 0) :
    emitted portions % size = 0 := by
  induction portions with
  | nil => exact Nat.zero_mod size
  | cons portion portions ih =>
    obtain ⟨first, others⟩ := List.forall_mem_cons.mp whole
    rw [emitted_cons, Nat.add_mod, first, ih others, Nat.zero_add, Nat.zero_mod]

theorem length_reduceOption_marked (portions : List Portion) :
    (portions.flatMap Portion.marked).reduceOption.length = emitted portions := by
  induction portions with
  | nil => rfl
  | cons portion portions ih =>
    rw [List.flatMap_cons, Portion.marked, List.reduceOption_append, List.reduceOption_append,
      Aligned.reduceOption_host, List.reduceOption_replicate_none, List.append_nil, List.length_append,
      ih, emitted_cons]

/-- A call that ends between two host samples leaves the question to the later calls. -/
theorem keepsSamples_cons_of_whole (positive : 0 < size) (whole : portion.host.length % size = 0) :
    KeepsSamples size (portion :: portions) ↔ KeepsSamples size portions := by
  obtain ⟨count, length⟩ : ∃ count, portion.host.length = size * count :=
    Nat.dvd_of_mod_eq_zero whole
  have shift (bytes : Nat) : (size * count + bytes) % size = bytes % size ∧
      (size * count + bytes) / size = count + bytes / size :=
    ⟨Nat.mul_add_mod size count bytes, Nat.mul_add_div positive count bytes⟩
  have bound (bytes total : Nat) : size * count + total < (count + bytes / size + 1) * size ↔
      total < (bytes / size + 1) * size := by
    have split : (count + bytes / size + 1) * size = size * count + (bytes / size + 1) * size := by ring
    rw [split]
    omega
  constructor
  · intro keeps calls within
    have kept := keeps (calls + 1) (Nat.succ_le_succ within)
    rwa [List.take_succ_cons, emitted_cons, emitted_cons, length, (shift _).1, (shift _).2, bound] at kept
  · intro keeps calls within
    cases calls with
    | zero =>
      left
      exact Nat.zero_mod size
    | succ calls =>
      rw [List.take_succ_cons, emitted_cons, emitted_cons, length, (shift _).1, (shift _).2, bound]
      exact keeps calls (Nat.le_of_succ_le_succ within)

/-- A call that ends inside a host sample decides the question. -/
theorem keepsSamples_cons_of_torn (torn : portion.host.length % size ≠ 0) :
    KeepsSamples size (portion :: portions) ↔
      emitted (portion :: portions) < (portion.host.length / size + 1) * size := by
  have alone : emitted [portion] = portion.host.length := by rw [emitted_cons]; rfl
  constructor
  · intro keeps
    have kept := keeps 1 (by simp)
    rw [List.take_succ_cons, List.take_zero, alone] at kept
    exact kept.resolve_left torn
  · intro short calls within
    cases calls with
    | zero =>
      left
      exact Nat.zero_mod size
    | succ calls =>
      right
      have further : portion.host.length / size ≤ emitted ((portion :: portions).take (calls + 1)) / size := by
        rw [List.take_succ_cons, emitted_cons]
        exact Nat.div_le_div_right (Nat.le_add_right _ _)
      exact Nat.lt_of_lt_of_le short (Nat.mul_le_mul_right size (Nat.succ_le_succ further))

/-- Portions that are whole samples each are aligned where they keep the host samples together. -/
theorem aligned_portions_iff (positive : 0 < size)
    (samples : ∀ portion ∈ portions, (portion.host.length + portion.silence) % size = 0) :
    Aligned size (portions.flatMap Portion.marked) ↔ KeepsSamples size portions := by
  induction portions with
  | nil =>
    constructor
    · intro _ calls _
      left
      rw [List.take_nil]
      exact Nat.zero_mod size
    · intro _
      exact .tail positive
  | cons portion portions ih =>
    obtain ⟨first, others⟩ := List.forall_mem_cons.mp samples
    rw [List.flatMap_cons, Portion.marked, List.append_assoc]
    by_cases whole : portion.host.length % size = 0
    · have silent : portion.silence % size = 0 := by
        rwa [Nat.add_mod, whole, Nat.zero_add, Nat.mod_mod] at first
      rw [Aligned.hosts_iff positive whole, Aligned.silences_iff positive silent, ih others,
        keepsSamples_cons_of_whole positive whole]
    · -- the whole host samples of the portion, the torn one, and the silence in it
      have split := Nat.div_add_mod portion.host.length size
      have below := Nat.mod_lt portion.host.length positive
      have silent : 0 < portion.silence := by
        by_contra none
        rw [Nat.eq_zero_of_not_pos none, Nat.add_zero] at first
        exact whole first
      have front : (portion.host.take (size * (portion.host.length / size))).length % size = 0 := by
        rw [List.length_take_of_le (by omega), Nat.mul_mod_right]
      have back : (portion.host.drop (size * (portion.host.length / size))).length =
          portion.host.length % size := by
        rw [List.length_drop]
        omega
      rw [keepsSamples_cons_of_torn whole]
      rw [← List.take_append_drop (size * (portion.host.length / size)) portion.host, List.map_append,
        List.append_assoc, Aligned.hosts_iff positive front,
        Aligned.torn_iff (by omega) (by omega) silent, length_reduceOption_marked, emitted_cons,
        List.take_append_drop, back]
      have end_ : (portion.host.length / size + 1) * size =
          size * (portion.host.length / size) + size := by ring
      rw [end_]
      omega

/-! ## Runs of a feeder -/

/-- What a feeder gives is aligned exactly when no call that ran dry inside a host sample is followed by
the rest of that sample. The marks are right: the portions are the outputs that were given, and their
host bytes with the stock that is left are the bytes that were accepted. -/
theorem aligned_iff_kept (size : Nat) (positive : 0 < size) (queue : BlockQueue) (calls : List FeederCall) :
    let run := (Feeding.fresh size queue).run calls
    run.outputs = run.portions.map Portion.bytes ∧
      run.accepted.flatten = run.portions.flatMap Portion.host ++ run.feeder.stock run.queue ∧
      (Aligned size (run.portions.flatMap Portion.marked) ↔ KeepsSamples size run.portions) := by
  intro run
  have settled : run.Settled size := (Feeding.settled_fresh size queue).run calls
  exact ⟨settled.outputs, settled.conserved, aligned_portions_iff positive settled.samples⟩

/-- The stock and the portions are whole samples. -/
structure Feeding.Whole (size : Nat) (feeding : Feeding) : Prop where
  sampleBytes : feeding.feeder.sampleBytes = size
  stock : (feeding.feeder.stock feeding.queue).length % size = 0
  portions : ∀ portion ∈ feeding.portions, portion.host.length % size = 0

/-- As long as the blocks are whole samples, so is everything else. -/
theorem Feeding.Whole.step {feeding : Feeding} (whole : feeding.Whole size) {call : FeederCall}
    (blocks : ∀ block ∈ (feeding.step call).accepted, block.length % size = 0) :
    (feeding.step call).Whole size := by
  cases call with
  | push block =>
    obtain same | changed := feeding.step_push block
    · rw [same]
      exact whole
    · rw [changed] at blocks ⊢
      refine ⟨whole.sampleBytes, ?_, whole.portions⟩
      have last := blocks block (List.mem_append_right _ List.mem_cons_self)
      rw [Feeding.stock_append, List.length_append, Nat.add_mod, whole.stock, last, Nat.zero_add,
        Nat.zero_mod]
  | next count =>
    obtain ⟨_, sampleBytes, stock⟩ := Feeder.next_eq count feeding.feeder feeding.queue
    obtain ⟨samples, length⟩ := Nat.dvd_of_mod_eq_zero whole.stock
    refine ⟨sampleBytes.trans whole.sampleBytes, ?_, ?_⟩
    · show ((feeding.feeder.next count feeding.queue).2.1.stock
        (feeding.feeder.next count feeding.queue).2.2).length % size = 0
      rw [stock, List.length_drop, whole.sampleBytes, length, Nat.mul_comm count, ← Nat.mul_sub,
        Nat.mul_mod_right]
    · intro portion member
      obtain earlier | last := List.mem_append.mp member
      · exact whole.portions portion earlier
      · rw [List.mem_singleton.mp last, Feeding.portion, List.length_take, whole.sampleBytes, length,
          Nat.mul_comm count, Nat.mul_min_mul_left, Nat.mul_mod_right]

theorem Feeding.Whole.run {feeding : Feeding} (whole : feeding.Whole size) {calls : List FeederCall}
    (blocks : ∀ block ∈ (feeding.run calls).accepted, block.length % size = 0) :
    (feeding.run calls).Whole size := by
  induction calls generalizing feeding with
  | nil => exact whole
  | cons call calls ih =>
    refine ih (whole.step fun block member => ?_) blocks
    exact blocks block ((feeding.step call).accepted_subset_run calls member)

/-- Clients that push whole samples never see the stream shifted, however late they are. -/
theorem aligned_of_whole_blocks (size : Nat) (positive : 0 < size) (budget : Nat) (calls : List FeederCall)
    (blocks : ∀ block ∈ ((Feeding.fresh size (BlockQueue.ofBudget budget).opened).run calls).accepted,
      block.length % size = 0) :
    Aligned size (((Feeding.fresh size (BlockQueue.ofBudget budget).opened).run calls).portions.flatMap
      Portion.marked) := by
  have start : (Feeding.fresh size (BlockQueue.ofBudget budget).opened).Whole size :=
    ⟨rfl, Nat.zero_mod size, by simp [Feeding.fresh]⟩
  have whole := start.run blocks
  have settled := (Feeding.settled_fresh size (BlockQueue.ofBudget budget).opened).run calls
  rw [aligned_portions_iff positive settled.samples]
  intro count _
  left
  exact emitted_mod_of_whole fun portion member => whole.portions portion (List.mem_of_mem_take member)

/-- An open queue without blocks. -/
def roomyQueue : BlockQueue := (BlockQueue.ofBudget 16).opened

/-- The queue runs dry between two samples, and again inside the last one. -/
theorem aligned_after_dry_end :
    let run := (Feeding.fresh 2 roomyQueue).run [.push [1, 2], .next 2, .push [3, 4, 5], .next 2]
    0 < 2 ∧ run.outputs = [[1, 2, 0, 0], [3, 4, 5, 0]] ∧
      Aligned 2 (run.portions.flatMap Portion.marked) := by
  have kept := (aligned_iff_kept 2 (by decide) roomyQueue
    [.push [1, 2], .next 2, .push [3, 4, 5], .next 2]).2.2
  refine ⟨by decide, by decide +kernel, kept.mpr ?_⟩
  show ∀ calls ≤ List.length _, _
  decide +kernel

/-- The second byte of the first sample comes too late: the sample is torn, and the whole sample behind
it begins at an odd place. -/
theorem shifted_after_underrun :
    let run := (Feeding.fresh 2 roomyQueue).run [.push [1], .next 1, .push [2, 3, 4], .next 2]
    run.accepted = [[1], [2, 3, 4]] ∧ run.outputs = [[1, 0], [2, 3, 4, 0]] ∧
      run.portions.flatMap Portion.marked = [some 1, none, some 2, some 3, some 4, none] ∧
      ¬ Aligned 2 (run.portions.flatMap Portion.marked) := by
  have portions : ((Feeding.fresh 2 roomyQueue).run
      [.push [1], .next 1, .push [2, 3, 4], .next 2]).portions = [⟨[1], 1⟩, ⟨[2, 3, 4], 1⟩] := by
    decide +kernel
  refine ⟨by decide +kernel, by decide +kernel, by rw [portions]; rfl, ?_⟩
  rw [portions, aligned_portions_iff (by decide) (by decide)]
  intro keeps
  have torn := keeps 1 (by decide)
  revert torn
  decide

end DspInspector
