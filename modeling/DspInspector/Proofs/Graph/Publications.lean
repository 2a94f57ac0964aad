import DspInspector.Graph.Publication
import DspInspector.Proofs.Graph.Relinking

/-!
# What readers see

Rebuilds and readers take turns in any order. A rebuild reads nothing of the publication and touches it only where it
ends, so it is one move. Whoever looks sees the latest topology that a rebuild has brought, and this one is whole:
its pipelines are sorted, and its links, loose pins and peers are those of its own objects (`Topology.Whole`).
-/

namespace DspInspector

namespace Topology

variable {topology linked : Topology}

/-- What is computed fits to the rest, so that computing it again changes nothing. -/
structure Whole (topology : Topology) : Prop where
  fixed : topology.computeLinks = .ok topology
  ascending : topology.pipelines.Pairwise fun a b => a.priority ≤ b.priority
  resolved : topology.instances.resolve topology.pipelines = .ok ⟨topology.links, topology.unresolved⟩
  gatewayPeers : topology.gatewayPeers = peers topology.instances topology.gateways

theorem whole_of_computeLinks (computed : topology.computeLinks = .ok linked) : linked.Whole := by
  have relinked := relinked_of_computeLinks computed
  refine ⟨computeLinks_linked computed, relinked.sorted.ascending, ?_, ?_⟩
  · rw [relinked.instances, relinked.resolved]
  · rw [relinked.instances, relinked.gateways, relinked.gatewayPeers]

theorem whole_empty (capturedAt : Timestamp) : (empty capturedAt).Whole := by
  have sorted : byPriority (empty capturedAt).pipelines = [] := byPriority_of_ascending .nil
  have computed : (empty capturedAt).computeLinks = .ok (empty capturedAt) := by
    refine computeLinks_eq_ok_iff.mpr ⟨⟨[], []⟩, ?_, ?_⟩
    · rw [sorted]
      rfl
    · rw [withResolution, sorted]
      rfl
  exact whole_of_computeLinks computed

end Topology

/-- A snapshot is acquired when every question is answered and the links of the answers can be computed. -/
theorem Snapshot.acquire_eq_ok_iff {σ : Type} {connection : Connection} {transport : Transport σ}
    {capturedAt : Timestamp} {state after : σ} {topology : Topology} :
    acquire connection transport capturedAt state = .ok topology after ↔
      ∃ ids one pipelines two schedules three gateways four instances,
        connection.pipelineIds transport state = .ok ids one ∧
        ids.mapM (Connection.pipelineProps transport) one = .ok pipelines two ∧
        schedulesFrom transport connection.limits.cores.toNat 0 two = .ok schedules three ∧
        connection.gateways transport three = .ok gateways four ∧
        (referenced pipelines schedules).mapM (Connection.instanceProps transport) four = .ok instances after ∧
        (Topology.of capturedAt instances gateways pipelines schedules).computeLinks = .ok topology := by
  constructor
  · intro ran
    obtain ⟨ids, one, asked, ran⟩ := Action.of_bind_ok ran
    obtain ⟨pipelines, two, described, ran⟩ := Action.of_bind_ok ran
    obtain ⟨schedules, three, scheduled, ran⟩ := Action.of_bind_ok ran
    obtain ⟨gateways, four, listed, ran⟩ := Action.of_bind_ok ran
    obtain ⟨instances, five, found, ran⟩ := Action.of_bind_ok ran
    cases computed : (Topology.of capturedAt instances gateways pipelines schedules).computeLinks with
    | ok linked =>
      rw [computed] at ran
      cases ran
      exact ⟨ids, one, pipelines, two, schedules, three, gateways, four, instances, Action.of_mapError_ok asked,
        described, scheduled, Action.of_mapError_ok listed, found, computed⟩
    | error cause =>
      rw [computed] at ran
      cases ran
  · rintro ⟨ids, one, pipelines, two, schedules, three, gateways, four, instances, asked, described, scheduled, listed,
      found, computed⟩
    refine (Action.bind_of_ok (Action.mapError_of_ok asked)).trans ?_
    refine (Action.bind_of_ok described).trans ?_
    refine (Action.bind_of_ok scheduled).trans ?_
    refine (Action.bind_of_ok (Action.mapError_of_ok listed)).trans ?_
    refine (Action.bind_of_ok found).trans ?_
    rw [computed]
    rfl

namespace Publication

/-- An acquisition through any connection and any transport, whatever state the transport is in. -/
structure Attempt where
  {σ : Type}
  connection : Connection
  transport : Transport σ
  capturedAt : Timestamp
  state : σ

namespace Attempt

def outcome (attempt : Attempt) : Except Fault Topology :=
  ((Snapshot.acquire attempt.connection attempt.transport attempt.capturedAt).run attempt.state).1

/-- The pipelines in the order in which the firmware lists them. -/
def listed (attempt : Attempt) : Except Fault (List Pipeline) :=
  (Action.run (do
    let ids ← attempt.connection.pipelineIds attempt.transport
    ids.mapM (Connection.pipelineProps attempt.transport)) attempt.state).1

/-- What was acquired is whole, and its pipelines are those of the firmware, sorted. -/
theorem whole_of_outcome {attempt : Attempt} {topology : Topology} (acquired : attempt.outcome = .ok topology) :
    topology.Whole ∧ ∃ listed, attempt.listed = .ok listed ∧ Topology.StablySorted listed topology.pipelines := by
  obtain ⟨after, ran⟩ := Action.of_run_ok acquired
  obtain ⟨ids, _, pipelines, _, _, _, _, _, _, asked, described, -, -, -, computed⟩ := Snapshot.acquire_eq_ok_iff.mp ran
  have listed : attempt.listed = .ok pipelines := by
    rw [Attempt.listed, Action.run, (Action.bind_of_ok asked).trans described]
  have relinked := Topology.relinked_of_computeLinks computed
  exact ⟨Topology.whole_of_computeLinks computed, pipelines, listed, relinked.sorted⟩

end Attempt

/-- What happens to a publication: somebody rebuilds it, or somebody looks at it. -/
inductive Move where
  | rebuild (attempt : Attempt)
  | snapshot (reader : Nat)

/-- What the rebuilds brought that succeeded, in order. -/
def brought (moves : List Move) : List Topology :=
  moves.filterMap fun
    | .rebuild attempt => attempt.outcome.toOption
    | .snapshot _ => none

theorem brought_of_ok {attempt : Attempt} {topology : Topology} (acquired : attempt.outcome = .ok topology)
    (moves : List Move) : brought (.rebuild attempt :: moves) = topology :: brought moves := by
  simp [brought, acquired, Except.toOption]

theorem brought_of_error {attempt : Attempt} {cause : Fault} (failed : attempt.outcome = .error cause)
    (moves : List Move) : brought (.rebuild attempt :: moves) = brought moves := by
  simp [brought, failed, Except.toOption]

theorem of_mem_brought {moves : List Move} {topology : Topology} (member : topology ∈ brought moves) :
    ∃ attempt, .rebuild attempt ∈ moves ∧ attempt.outcome = .ok topology := by
  obtain ⟨move, listed, brings⟩ := List.mem_filterMap.mp member
  cases move with
  | snapshot reader => cases brings
  | rebuild attempt =>
    refine ⟨attempt, listed, ?_⟩
    cases acquired : attempt.outcome <;> simp_all [Except.toOption]

def step (publication : Publication) : Move → Publication
  | .rebuild attempt =>
    (publication.rebuild attempt.connection attempt.transport attempt.capturedAt attempt.state).1.2
  | .snapshot _ => publication

def after (publication : Publication) (moves : List Move) : Publication := moves.foldl step publication

/-- Who looks, and what there is to see, in order. -/
def views (publication : Publication) : List Move → List (Nat × Publication)
  | [] => []
  | .rebuild attempt :: moves => (publication.step (.rebuild attempt)).views moves
  | .snapshot reader :: moves => (reader, publication) :: publication.views moves

variable (publication : Publication)

@[simp] theorem step_rebuild (attempt : Attempt) :
    publication.step (.rebuild attempt) = publication.refresh attempt.outcome := rfl

@[simp] theorem step_snapshot (reader : Nat) : publication.step (.snapshot reader) = publication := rfl

@[simp] theorem after_cons (move : Move) (moves : List Move) :
    publication.after (move :: moves) = (publication.step move).after moves := rfl

/-- After any moves there is the latest topology that was brought, and the publications have been counted. -/
theorem after_eq (moves : List Move) : publication.after moves =
    ⟨publication.number + (brought moves).length, (brought moves).getLastD publication.topology⟩ := by
  induction moves generalizing publication with
  | nil => rfl
  | cons move moves ih =>
    -- What the first move brings is what readers fall back on if the later ones bring nothing.
    rw [after_cons, ih]
    cases move with
    | snapshot reader => rfl
    | rebuild attempt =>
      cases acquired : attempt.outcome with
      | error cause => simp [brought_of_error acquired, refresh, acquired]
      | ok topology =>
        simp only [step_rebuild, refresh, publish, acquired, brought_of_ok acquired, List.length_cons,
          List.getLastD_cons]
        congr 1
        omega

theorem views_append (before later : List Move) :
    publication.views (before ++ later) = publication.views before ++ (publication.after before).views later := by
  induction before generalizing publication with
  | nil => rfl
  | cons move moves ih => cases move <;> simp [views, ih]

theorem whole_step {move : Move} (whole : publication.topology.Whole) : (publication.step move).topology.Whole := by
  cases move with
  | snapshot reader => exact whole
  | rebuild attempt =>
    cases acquired : attempt.outcome with
    | error cause => simpa [refresh, acquired] using whole
    | ok topology => simpa [refresh, publish, acquired] using (Attempt.whole_of_outcome acquired).1

theorem whole_after {publication : Publication} (whole : publication.topology.Whole) (moves : List Move) :
    (publication.after moves).topology.Whole := by
  induction moves generalizing publication with
  | nil => exact whole
  | cons move moves ih => exact ih (publication.whole_step whole)

/-- What there is to see after some moves: the topology that was brought last, or none but the empty one. -/
def latest (capturedAt : Timestamp) (moves : List Move) : Publication :=
  ⟨(brought moves).length, (brought moves).getLastD (.empty capturedAt)⟩

/-- Readers see what the latest rebuild has brought that succeeded, a rebuild that fails changes nothing that anybody
sees, and what is published is whole: the pipelines of the firmware, sorted, with the links and peers of its objects. -/
theorem views_whole (capturedAt : Timestamp) (before later : List Move) :
    let start := first (.empty capturedAt)
    (∀ reader, start.views (before ++ .snapshot reader :: later) =
      start.views before ++ (reader, latest capturedAt before) :: (latest capturedAt before).views later) ∧
    (∀ attempt cause, attempt.outcome = .error cause →
      start.views (before ++ .rebuild attempt :: later) = start.views (before ++ later)) ∧
    (latest capturedAt before).topology.Whole ∧
    ∀ topology ∈ brought before, ∃ attempt, .rebuild attempt ∈ before ∧ attempt.outcome = .ok topology ∧
      topology.Whole ∧ ∃ listed, attempt.listed = .ok listed ∧ Topology.StablySorted listed topology.pipelines := by
  have seen : (first (.empty capturedAt)).after before = latest capturedAt before := by
    rw [after_eq, first, Nat.zero_add, latest]
  refine ⟨fun reader => ?_, fun attempt cause failed => ?_, ?_, fun topology member => ?_⟩
  · rw [views_append, seen]
    rfl
  · rw [views_append, views_append]
    simp [views, refresh, failed]
  · rw [← seen]
    exact whole_after (Topology.whole_empty capturedAt) before
  · obtain ⟨attempt, listed, acquired⟩ := of_mem_brought member
    exact ⟨attempt, listed, acquired, Attempt.whole_of_outcome acquired⟩

/-- Firmware that lists pipeline 7 before pipeline 5, which is the first one by priority. -/
def twoPipelines : Transport Unit where
  query _ parameter _ := fun _ =>
    if parameter = .ofBase .pipelineList then .ok (Wire.write [(7 : UInt32), 5]) ()
    else if parameter.typeTag = (Enumeration.coding BaseParameter.pipelineProps).code then
      .ok (Wire.write (Pipeline.bare parameter.subId (if parameter.subId = 7 then 1 else 0) [])) ()
    else .ok (Wire.write (0 : UInt32)) ()
  configure _ _ _ := fun _ => .ok () ()

/-- Firmware that does not answer. -/
def silent : Transport Unit where
  query _ _ _ := fun _ => .error (.transport (.reported "no answer")) ()
  configure _ _ _ := fun _ => .ok () ()

/-- An attempt at firmware of two pipelines and nothing else. -/
def sampleAttempt (transport : Transport Unit) : Attempt :=
  ⟨⟨.empty, .empty, ⟨⟨1, 0, 0, 0⟩, 0, 2, 0, 0, 0⟩⟩, transport, ⟨60, 0⟩, ()⟩

theorem outcome_twoPipelines : ∃ topology, (sampleAttempt twoPipelines).outcome = .ok topology ∧
    topology.pipelines = [.bare 5 0 [], .bare 7 1 []] := by
  have sorted : Topology.byPriority [.bare 7 1 [], .bare 5 0 []] = [.bare 5 0 [], .bare 7 1 []] := by
    rw [Topology.byPriority_eq_of_perm (List.Perm.swap (.bare 5 0 []) (.bare 7 1 []) []) (by decide)]
    exact Topology.byPriority_of_ascending (by decide)
  obtain ⟨topology, computed⟩ : ∃ topology,
      (Topology.of ⟨60, 0⟩ [] [] [.bare 7 1 [], .bare 5 0 []] []).computeLinks = .ok topology :=
    Topology.exists_computeLinks_iff.mpr (by simp [Topology.of, Pipeline.bare])
  have ran : Snapshot.acquire (sampleAttempt twoPipelines).connection twoPipelines ⟨60, 0⟩ () = .ok topology () :=
    Snapshot.acquire_eq_ok_iff.mpr ⟨[7, 5], (), [.bare 7 1 [], .bare 5 0 []], (), [], (), [], (), [], rfl, rfl, rfl, rfl,
      rfl, computed⟩
  refine ⟨topology, Action.run_of_ok ran, ?_⟩
  obtain ⟨resolution, -, rfl⟩ := Topology.computeLinks_eq_ok_iff.mp computed
  exact sorted

theorem sample_views_whole : ∃ topology cause,
    (sampleAttempt twoPipelines).outcome = .ok topology ∧ (sampleAttempt silent).outcome = .error cause ∧
      topology.pipelineOrder = [5, 7] ∧ topology.Whole ∧
      (first (.empty ⟨0, 0⟩)).views
          [.snapshot 1, .rebuild (sampleAttempt twoPipelines), .rebuild (sampleAttempt silent), .snapshot 2] =
        [(1, ⟨0, .empty ⟨0, 0⟩⟩), (2, ⟨1, topology⟩)] := by
  obtain ⟨topology, acquired, pipelines⟩ := outcome_twoPipelines
  obtain ⟨cause, failed⟩ : ∃ cause, (sampleAttempt silent).outcome = .error cause := ⟨_, rfl⟩
  have seen : latest ⟨0, 0⟩ [.snapshot 1, .rebuild (sampleAttempt twoPipelines)] = ⟨1, topology⟩ := by
    simp [latest, brought, acquired, Except.toOption]
  obtain ⟨-, unchanged, whole, -⟩ :=
    views_whole ⟨0, 0⟩ [.snapshot 1, .rebuild (sampleAttempt twoPipelines)] [.snapshot 2]
  refine ⟨topology, cause, acquired, failed, by simp [Topology.pipelineOrder, pipelines, Pipeline.bare], ?_, ?_⟩
  · rwa [seen] at whole
  · refine (unchanged _ cause failed).trans ?_
    obtain ⟨sees, -⟩ := views_whole ⟨0, 0⟩ [.snapshot 1, .rebuild (sampleAttempt twoPipelines)] []
    refine (sees 2).trans ?_
    rw [seen]
    rfl

end Publication

end DspInspector
