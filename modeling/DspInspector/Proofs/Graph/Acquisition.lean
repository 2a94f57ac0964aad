import DspInspector.Proofs.Control.Transcripts
import DspInspector.Proofs.Graph.Relinking
import DspInspector.Proofs.Graph.Snapshots

/-!
# What a snapshot is made of

A topology is acquired from a transport that answers as it likes. Every instance that the topology refers to is asked
for once (`Topology.AskedFor`), but an answer is put away under the id it names itself. So the topology has the
instances that it refers to exactly if every answer names the instance that was asked for.
-/

namespace DspInspector

namespace Topology

open Snapshot

/-- A pipeline or a task of the topology refers to the instance. -/
def Refers (topology : Topology) (id : InstanceId) : Prop :=
  (∃ pipeline ∈ topology.pipelines, id ∈ pipeline.instances) ∨
    ∃ schedule ∈ topology.schedules, id ∈ schedule.instances

instance (topology : Topology) (id : InstanceId) : Decidable (topology.Refers id) := inferInstanceAs (Decidable (_ ∨ _))

/-- Exactly the instances that the topology refers to are there, each with what was answered for it. -/
structure Complete (topology : Topology) (answers : List (InstanceId × InstanceProps)) : Prop where
  covers : ∀ id, id ∈ topology.instances.keys ↔ topology.Refers id
  answered : ∀ answer ∈ answers, topology.instances.find? answer.1 = some answer.2

/-- The instances of the topology are answers to questions for the instances that it refers to. -/
structure AskedFor (topology : Topology) (answers : List (InstanceId × InstanceProps)) : Prop where
  asked : answers.map Prod.fst = referenced topology.pipelines topology.schedules
  named : ∀ id, id ∈ topology.instances.keys ↔ ∃ answer ∈ answers, answer.2.id = id
  stored : ∀ id props, topology.instances.find? id = some props → props.id = id ∧ ∃ asked, (asked, props) ∈ answers
  linked : ∀ pipeline ∈ topology.pipelines, ∀ id ∈ pipeline.instances, id ∈ topology.instances.keys

/-- The topology was put together from these answers, and its links were computed. -/
def MadeOf (capturedAt : Timestamp) (topology : Topology) (answers : List (InstanceId × InstanceProps)) : Prop :=
  ∃ gateways pipelines schedules, answers.map Prod.fst = referenced pipelines schedules ∧
    (Topology.of capturedAt (answers.map Prod.snd) gateways pipelines schedules).computeLinks = .ok topology

variable {capturedAt : Timestamp} {topology : Topology} {answers : List (InstanceId × InstanceProps)}

theorem mem_referenced_iff {id : InstanceId} :
    id ∈ referenced topology.pipelines topology.schedules ↔ topology.Refers id := mem_referenced

/-- The order of the pipelines does not matter. -/
theorem referenced_byPriority (pipelines : List Pipeline) (schedules : List CoreSchedule) :
    referenced (byPriority pipelines) schedules = referenced pipelines schedules := by
  refine OrderedMap.keys_eq_of_mem_iff fun id => ?_
  have members : id ∈ referenced (byPriority pipelines) schedules ↔ _ := mem_referenced
  simp only [mem_byPriority] at members
  exact members.trans mem_referenced.symm

theorem MadeOf.instances_eq (made : MadeOf capturedAt topology answers) :
    topology.instances = .ofList (answers.map fun answer => (answer.2.id, answer.2)) := by
  obtain ⟨gateways, pipelines, schedules, -, computed⟩ := made
  rw [(relinked_of_computeLinks computed).instances, Topology.of, List.map_map]
  rfl

theorem MadeOf.askedFor (made : MadeOf capturedAt topology answers) : topology.AskedFor answers where
  asked := by
    obtain ⟨gateways, pipelines, schedules, asked, computed⟩ := made
    obtain ⟨resolution, -, rfl⟩ := computeLinks_eq_ok_iff.mp computed
    exact asked.trans (referenced_byPriority pipelines schedules).symm
  named id := by
    rw [made.instances_eq, OrderedMap.mem_keys_ofList, List.map_map, List.mem_map]
    rfl
  stored id props found := by
    rw [made.instances_eq] at found
    obtain ⟨answer, given, same⟩ := List.mem_map.mp (OrderedMap.mem_of_find?_ofList found)
    cases same
    exact ⟨rfl, answer.1, given⟩
  linked := by
    obtain ⟨gateways, pipelines, schedules, -, computed⟩ := made
    exact exists_computeLinks_iff.mp ⟨topology, computeLinks_linked computed⟩

/-- Answers that name what was asked for are put away where they belong, and only these are. -/
theorem MadeOf.complete_iff (made : MadeOf capturedAt topology answers) :
    topology.Complete answers ↔ ∀ answer ∈ answers, answer.2.id = answer.1 := by
  have report := made.askedFor
  constructor
  · intro complete answer given
    exact (report.stored _ _ (complete.answered answer given)).1
  · intro own
    have instances : topology.instances = .ofList answers := by
      rw [made.instances_eq]
      congr 1
      refine (List.map_congr_left fun answer given => ?_).trans (List.map_id answers)
      rw [own answer given]
      rfl
    have ascending : answers.Pairwise fun a b => Ranked.rank a.1 < Ranked.rank b.1 := by
      have asked : (referenced topology.pipelines topology.schedules).Pairwise fun a b =>
          Ranked.rank a < Ranked.rank b := OrderedMap.ascending_keys _
      rw [← report.asked, List.pairwise_map] at asked
      exact asked
    refine ⟨fun id => ?_, fun answer given => ?_⟩
    · rw [instances, OrderedMap.mem_keys_ofList, report.asked, mem_referenced_iff]
    · rw [instances, OrderedMap.find?_eq_some_iff, OrderedMap.entries_ofList ascending]
      exact given

end Topology

namespace Snapshot

variable {σ : Type} (connection : Connection) (transport : Transport σ) (capturedAt : Timestamp)

theorem incurious_pipelineIds :
    Incurious (connection.pipelineIds transport.transcribed) (connection.pipelineIds transport) :=
  (incurious_askValue transport _ _ _ (by decide)).then fun _ => incurious_ofExcept _

theorem incurious_gateways : Incurious (connection.gateways transport.transcribed) (connection.gateways transport) :=
  (incurious_askValue transport _ _ _ (by decide)).then fun _ => incurious_ofExcept _

theorem incurious_schedulesFrom (count : Nat) : ∀ core : UInt32,
    Incurious (schedulesFrom transport.transcribed count core) (schedulesFrom transport count core) := by
  -- one core after the other, so for every first core
  induction count with
  | zero => exact fun _ => incurious_pure []
  | succ count ih =>
    intro core
    exact (incurious_askObject transport CoreSchedule .schedulers core).then fun _ => (ih (core + 1)).then fun _ =>
      incurious_pure _

theorem transcribes_linked (result : Except TopologyError Topology) :
    Transcribes
      (match result with
        | .ok topology => pure topology
        | .error cause => throw (.topology cause) : Action Fault (Transcript σ) Topology)
      (match result with
        | .ok topology => pure topology
        | .error cause => throw (.topology cause))
      fun topology added => result = .ok topology ∧ added = [] := by
  cases result with
  | ok topology => exact (transcribes_pure topology).mono fun _ _ left => ⟨congrArg _ left.1.symm, left.2⟩
  | error cause => exact transcribes_throw (.topology cause)

/-- What comes back for instances is what the topology is made of. -/
theorem transcribes_acquire : Transcribes (acquire connection transport.transcribed capturedAt)
    (acquire connection transport capturedAt)
    fun topology added => topology.MadeOf capturedAt (propsOf added) := by
  -- Whatever is asked before the instances leaves no props, so that the answers are those of the last question.
  refine ((incurious_pipelineIds connection transport).mapError _).bind fun ids => ?_
  refine (incurious_mapM (incurious_askObject transport Pipeline .pipelineProps) ids).bind fun pipelines => ?_
  refine (incurious_schedulesFrom transport _ 0).bind fun schedules => ?_
  refine ((incurious_gateways connection transport).mapError _).bind fun gateways => ?_
  refine ((transcribes_instances transport (referenced pipelines schedules)).bind fun instances =>
    transcribes_linked _).mono ?_
  rintro topology _ ⟨instances, asking, _, ⟨asked, answered⟩, ⟨computed, rfl⟩, rfl⟩
  rw [List.append_nil]
  exact ⟨gateways, pipelines, schedules, asked, answered ▸ computed⟩

/-- A topology that is acquired has answers to the questions for the instances that it refers to, and it is complete
exactly if every answer names the instance that was asked for. -/
theorem acquire_complete_iff {state after : σ} {topology : Topology}
    (acquired : acquire connection transport capturedAt state = .ok topology after) :
    ∃ exchanges, acquire connection transport.transcribed capturedAt ⟨state, []⟩ = .ok topology ⟨after, exchanges⟩ ∧
      topology.AskedFor (propsOf exchanges) ∧
      (topology.Complete (propsOf exchanges) ↔ ∀ answer ∈ propsOf exchanges, answer.2.id = answer.1) := by
  have transcribes := transcribes_acquire connection transport capturedAt ⟨state, []⟩
  cases ran : acquire connection transport.transcribed capturedAt ⟨state, []⟩ with
  | ok result last =>
    obtain ⟨original, added, grown, made⟩ := transcribes.of_ok ran
    cases acquired.symm.trans original
    obtain rfl : last.exchanges = added := grown
    exact ⟨last.exchanges, rfl, made.askedFor, made.complete_iff⟩
  | error cause last => cases acquired.symm.trans (transcribes.of_error ran)

/-- Firmware of one core, where one task runs one instance. Whatever instance is asked for, the answer is this one. -/
def oneTask (answer : InstanceProps) : Transport Unit where
  query _ parameter _ := fun _ =>
    if parameter = .ofInstance .props then .ok (Wire.write answer) ()
    else if parameter = .ofBase .schedulers then .ok (Wire.write (CoreSchedule.mk [⟨0, 0, [⟨1, [⟨3, 0⟩]⟩]⟩])) ()
    else .ok (Wire.write (0 : UInt32)) ()
  configure _ _ _ := fun _ => .ok () ()

theorem oneTask_complete : ∃ topology exchanges,
    acquire Image.demo.connection (oneTask (.bare ⟨3, 0⟩)) ⟨0, 0⟩ () = .ok topology () ∧
      acquire Image.demo.connection (oneTask (.bare ⟨3, 0⟩)).transcribed ⟨0, 0⟩ ⟨(), []⟩ =
        .ok topology ⟨(), exchanges⟩ ∧
      topology.AskedFor (propsOf exchanges) ∧ topology.Complete (propsOf exchanges) := by
  have succeeds : (acquire Image.demo.connection (oneTask (.bare ⟨3, 0⟩)) ⟨0, 0⟩).Yields () (fun _ _ => True)
      fun _ _ => False := by decide +kernel
  have own : (acquire Image.demo.connection (oneTask (.bare ⟨3, 0⟩)).transcribed ⟨0, 0⟩).Yields ⟨(), []⟩
      (fun _ after => ∀ answer ∈ propsOf after.exchanges, answer.2.id = answer.1) fun _ _ => False := by decide +kernel
  obtain ⟨topology, _, acquired, -⟩ := succeeds.exists_ok
  obtain ⟨exchanges, transcribed, asked, complete⟩ := acquire_complete_iff _ _ _ acquired
  exact ⟨topology, exchanges, acquired, transcribed, asked, complete.mpr (own.of_ok transcribed)⟩

/-- An answer that names another instance puts that one into the topology, instead of the one that the task runs. -/
theorem misnamed_not_complete : ∃ topology,
    acquire Image.demo.connection (oneTask (.bare ⟨9, 9⟩)) ⟨0, 0⟩ () = .ok topology () ∧
      topology.Refers ⟨3, 0⟩ ∧ topology.instances.keys = [⟨9, 9⟩] ∧ ∀ answers, ¬ topology.Complete answers := by
  have acquired : (acquire Image.demo.connection (oneTask (.bare ⟨9, 9⟩)) ⟨0, 0⟩).Yields ()
      (fun topology _ => topology.Refers ⟨3, 0⟩ ∧ topology.instances.keys = [⟨9, 9⟩]) fun _ _ => False := by
    decide +kernel
  obtain ⟨topology, _, acquired, refers, keys⟩ := acquired.exists_ok
  refine ⟨topology, acquired, refers, keys, fun answers complete => ?_⟩
  have missing : (⟨3, 0⟩ : InstanceId) ∈ topology.instances.keys := (complete.covers _).mpr refers
  rw [keys] at missing
  exact absurd missing (by decide)

end Snapshot

end DspInspector
