import DspInspector.Graph.Snapshot
import DspInspector.Proofs.Control.Inquiries
import DspInspector.Proofs.Graph.Snapshots

/-!
# The agenda of an acquisition

What is asked next depends on what was answered before: the list of the pipelines tells which pipelines are asked for,
and pipelines and tasks tell which instances. From the answers so far the agenda can be told (`agenda`). An acquisition
keeps to it: it asks one question of the agenda after the other and nothing else, and the first one that is not answered
is the last one, and its failure is the outcome (`agenda_followed`).
-/

namespace DspInspector

namespace Snapshot

variable {σ α κ ω : Type}

/-! ## Answers -/

/-- What was answered, by what it tells. -/
structure Answers where
  ids : List UInt32 := []
  pipelines : List Pipeline := []
  schedules : List CoreSchedule := []
  gateways : List Gateway := []
  instances : List InstanceProps := []

/-- What was answered early, and behind it what was answered late. -/
instance : Append Answers where
  append early late :=
    { ids := early.ids ++ late.ids
      pipelines := early.pipelines ++ late.pipelines
      schedules := early.schedules ++ late.schedules
      gateways := early.gateways ++ late.gateways
      instances := early.instances ++ late.instances }

/-- What one question brings. -/
def answer : Inquiry → Answers
  | ⟨.pipelines, .ok ids⟩ => { ids }
  | ⟨.pipeline _, .ok pipeline⟩ => { pipelines := [pipeline] }
  | ⟨.schedule _, .ok schedule⟩ => { schedules := [schedule] }
  | ⟨.gateways, .ok gateways⟩ => { gateways }
  | ⟨.props _, .ok props⟩ => { instances := [props] }
  | _ => {}

/-- What some questions bring, in their order. -/
def answers : List Inquiry → Answers
  | [] => {}
  | inquiry :: inquiries => answer inquiry ++ answers inquiries

@[simp] theorem ids_append (early late : Answers) : (early ++ late).ids = early.ids ++ late.ids := rfl

@[simp] theorem append_nothing (told : Answers) : told ++ {} = told := by
  show Answers.mk (_ ++ []) (_ ++ []) (_ ++ []) (_ ++ []) (_ ++ []) = told
  simp only [List.append_nil]

theorem append_assoc (one two three : Answers) : one ++ two ++ three = one ++ (two ++ three) := by
  show Answers.mk (_ ++ _ ++ _) (_ ++ _ ++ _) (_ ++ _ ++ _) (_ ++ _ ++ _) (_ ++ _ ++ _) = _
  simp only [List.append_assoc]
  rfl

@[simp] theorem answers_append (early late : List Inquiry) :
    answers (early ++ late) = answers early ++ answers late := by
  induction early with
  | nil => rfl
  | cons inquiry early ih => rw [List.cons_append, answers, ih, answers, append_assoc]

@[simp] theorem answers_singleton (inquiry : Inquiry) : answers [inquiry] = answer inquiry := append_nothing _

/-! ## Agendas -/

/-- The questions of an acquisition, as far as they are known from what was answered. -/
def agenda (cores : UInt32) (told : Answers) : List Question :=
  [.pipelines] ++ (told.ids.map .pipeline ++
    ((List.range cores.toNat).map (fun core => .schedule (UInt32.ofNat core)) ++
      ([.gateways] ++ (referenced told.pipelines told.schedules).map .props)))

/-- Every question of an agenda was put, in its order, and answered. -/
structure Complete (agenda : List Question) (inquiries : List Inquiry) : Prop where
  asked : inquiries.map Inquiry.question = agenda
  answered : ∀ inquiry ∈ inquiries, ∃ value, inquiry.outcome = .ok value

/-- The failure of a question as the acquisition reports it. -/
def reported : Question → Fault → Fault
  | .pipelines => .inContext "Unable to list pipelines"
  | .gateways => .inContext "Unable to list gateways"
  | _ => id

/-- How a question comes to nothing: it fails, or the number of the object is too large to put it. -/
inductive Stops : Question → Fault → List Inquiry → Prop where
  | failed (question : Question) (cause : Fault) : Stops question (reported question cause) [⟨question, .error cause⟩]
  | pipeline {id : UInt32} (large : 2 ^ 24 ≤ id.toNat) : Stops (.pipeline id) (.argument (.parameterSubId id)) []
  | schedule {core : UInt32} (large : 2 ^ 24 ≤ core.toNat) :
    Stops (.schedule core) (.argument (.parameterSubId core)) []

/-- The questions of an agenda were put up to one that came to nothing, and no further. -/
def Broken (agenda : List Question) (cause : Fault) (inquiries : List Inquiry) : Prop :=
  ∃ before next later answered last, agenda = before ++ next :: later ∧ Complete before answered ∧
    Stops next cause last ∧ inquiries = answered ++ last

section Agenda

variable {agenda early late : List Question} {question : Question} {cause : Fault} {inquiries one two : List Inquiry}

theorem complete_nil : Complete [] [] := ⟨rfl, nofun⟩

theorem complete_singleton (question : Question) (value : question.layout.Value) :
    Complete [question] [⟨question, .ok value⟩] :=
  ⟨rfl, List.forall_mem_singleton.mpr ⟨value, rfl⟩⟩

theorem Complete.append (first : Complete early one) (second : Complete late two) :
    Complete (early ++ late) (one ++ two) where
  asked := by rw [List.map_append, first.asked, second.asked]
  answered := List.forall_mem_append.mpr ⟨first.answered, second.answered⟩

theorem Stops.broken (stops : Stops question cause inquiries) : Broken [question] cause inquiries :=
  ⟨[], question, [], [], inquiries, rfl, complete_nil, stops, rfl⟩

/-- What is answered before does not matter to what breaks off. -/
theorem Broken.behind (broken : Broken late cause two) (first : Complete early one) :
    Broken (early ++ late) cause (one ++ two) := by
  obtain ⟨before, next, later, answered, last, rfl, complete, stops, rfl⟩ := broken
  exact ⟨early ++ before, next, later, one ++ answered, last, (List.append_assoc _ _ _).symm, first.append complete,
    stops, (List.append_assoc _ _ _).symm⟩

/-- Nothing is asked behind what breaks off. -/
theorem Broken.before (broken : Broken early cause inquiries) (late : List Question) :
    Broken (early ++ late) cause inquiries := by
  obtain ⟨before, next, later, answered, last, rfl, complete, stops, rfl⟩ := broken
  exact ⟨before, next, later ++ late, answered, last, List.append_assoc _ _ _, complete, stops, rfl⟩

theorem Broken.asked (broken : Broken agenda cause inquiries) : inquiries.map Inquiry.question <+: agenda := by
  obtain ⟨before, next, later, answered, last, rfl, complete, stops, rfl⟩ := broken
  rw [List.map_append, complete.asked, List.prefix_append_right_inj]
  cases stops with
  | failed _ cause => exact List.prefix_append [next] later
  | pipeline large => exact List.nil_prefix
  | schedule large => exact List.nil_prefix

theorem Broken.not_complete (broken : Broken agenda cause inquiries) : ¬ Complete agenda inquiries := by
  obtain ⟨before, next, later, answered, last, rfl, complete, stops, rfl⟩ := broken
  rintro ⟨asked, all⟩
  rw [List.map_append, complete.asked, List.append_cancel_left_eq] at asked
  cases stops with
  | failed _ cause =>
    obtain ⟨value, succeeded⟩ := all ⟨next, .error cause⟩ (List.mem_append_right _ List.mem_cons_self)
    cases succeeded
  | pipeline large => cases asked
  | schedule large => cases asked

end Agenda

/-! ## Keeping to an agenda -/

/-- The action keeps to the agenda, and all that is answered is of one kind. If everything is answered, it is what goes
into the value. -/
def Follows (limits : Limits) (action : Action Fault (Transcript σ) α) (original : Action Fault σ α)
    (agenda : List Question) (kind : List ω → Answers) (items : α → List ω) : Prop :=
  Asks limits action original
    (fun value inquiries => Complete agenda inquiries ∧ answers inquiries = kind (items value))
    (fun cause inquiries => Broken agenda cause inquiries ∧ ∃ some, answers inquiries = kind some)

theorem follows_mapM {limits : Limits} {ask : κ → Action Fault (Transcript σ) α} {originalAsk : κ → Action Fault σ α}
    {question : κ → Question} (kind : List α → Answers) (empty : kind [] = {})
    (joined : ∀ one two, kind (one ++ two) = kind one ++ kind two)
    (each : ∀ key, Follows limits (ask key) (originalAsk key) [question key] kind fun value => [value])
    (keys : List κ) :
    Follows limits (keys.mapM ask) (keys.mapM originalAsk) (keys.map question) kind id := by
  -- along the keys; the agenda breaks off at the first key or behind it, and ending the list cannot fail
  induction keys with
  | nil =>
    rw [List.mapM_nil, List.mapM_nil]
    refine (asks_pure limits []).mono ?_ nofun
    rintro _ _ ⟨rfl, rfl⟩
    exact ⟨complete_nil, empty.symm⟩
  | cons key keys ih =>
    rw [List.mapM_cons, List.mapM_cons]
    refine ((each key).bind fun value => ih.bind fun values => asks_pure limits (value :: values)).mono ?_ ?_
    · rintro _ _ ⟨value, one, _, ⟨first, told⟩, ⟨values, others, _, ⟨second, toldNext⟩, ⟨rfl, rfl⟩, rfl⟩, rfl⟩
      rw [List.append_nil]
      refine ⟨first.append second, ?_⟩
      rw [answers_append, told, toldNext, ← joined]
      rfl
    · rintro cause _ (⟨broken, told⟩ |
        ⟨value, one, _, ⟨first, told⟩, ⟨broken, some, toldNext⟩ | ⟨_, _, _, _, no, _⟩, rfl⟩)
      · exact ⟨broken.before _, told⟩
      · exact ⟨broken.behind first, [value] ++ some, by rw [answers_append, told, toldNext, joined]⟩
      · exact no.elim

section Questions

variable (connection : Connection) (transport : Transport σ)

theorem follows_put {question : Question} {kind : List ω → Answers} {items : question.layout.Value → List ω}
    (addressable : question.Addressable) (unmeasured : question ≠ .measurements) (empty : kind [] = {})
    (told : ∀ value, answer ⟨question, .ok value⟩ = kind (items value))
    (untold : ∀ cause, answer ⟨question, .error cause⟩ = {}) :
    Follows connection.limits (Action.mapError (reported question) (question.put connection transport.transcribed))
      (Action.mapError (reported question) (question.put connection transport)) [question] kind items := by
  refine ((asks_put connection transport question addressable fun same => absurd same unmeasured).mapError _).mono ?_ ?_
  · rintro value _ rfl
    exact ⟨complete_singleton question value, (answers_singleton _).trans (told value)⟩
  · rintro _ _ ⟨cause, rfl, rfl⟩
    refine ⟨(Stops.failed question cause).broken, [], ?_⟩
    rw [answers_singleton, untold, empty]

/-- An object whose number is too large comes to nothing before it is asked for. -/
theorem follows_refused [Wire α] {question : Question} {kind : List α → Answers} (parameter : BaseParameter)
    {object : UInt32} (large : 2 ^ 24 ≤ object.toNat)
    (stops : Stops question (.argument (.parameterSubId object)) []) (empty : kind [] = {}) :
    Follows connection.limits (Connection.askObject α transport.transcribed parameter object)
      (Connection.askObject α transport parameter object) [question] kind fun value => [value] := by
  refine (asks_askObject_refused transport connection.limits parameter large).mono nofun ?_
  rintro _ _ ⟨rfl, rfl⟩
  exact ⟨stops.broken, [], empty.symm⟩

theorem follows_pipelineProps (id : UInt32) :
    Follows connection.limits (Connection.pipelineProps transport.transcribed id)
      (Connection.pipelineProps transport id) [.pipeline id] (fun pipelines => { pipelines }) fun value => [value] := by
  rcases Nat.lt_or_ge id.toNat (2 ^ 24) with small | large
  · have asked : (Question.pipeline id).Addressable := small
    have follows := @follows_put _ _ connection transport (.pipeline id) (fun pipelines => { pipelines })
      (fun value => [value]) asked nofun rfl (fun _ => rfl) fun _ => rfl
    simp only [reported, Action.mapError_id] at follows
    exact follows
  · exact follows_refused connection transport .pipelineProps large (.pipeline large) rfl

theorem follows_coreSchedule (core : UInt32) :
    Follows connection.limits (Connection.coreSchedule transport.transcribed core)
      (Connection.coreSchedule transport core) [.schedule core] (fun schedules => { schedules })
      fun value => [value] := by
  rcases Nat.lt_or_ge core.toNat (2 ^ 24) with small | large
  · have asked : (Question.schedule core).Addressable := small
    have follows := @follows_put _ _ connection transport (.schedule core) (fun schedules => { schedules })
      (fun value => [value]) asked nofun rfl (fun _ => rfl) fun _ => rfl
    simp only [reported, Action.mapError_id] at follows
    exact follows
  · exact follows_refused connection transport .schedulers large (.schedule large) rfl

theorem follows_instanceProps (id : InstanceId) :
    Follows connection.limits (Connection.instanceProps transport.transcribed id)
      (Connection.instanceProps transport id) [.props id] (fun instances => { instances }) fun value => [value] := by
  have follows := @follows_put _ _ connection transport (.props id) (fun instances => { instances })
    (fun value => [value]) trivial nofun rfl (fun _ => rfl) fun _ => rfl
  simp only [reported, Action.mapError_id] at follows
  exact follows

/-- The cores are asked for in the order of their numbers. -/
theorem schedulesFrom_eq (transport : Transport σ) (count : Nat) : ∀ first : Nat,
    schedulesFrom transport count (UInt32.ofNat first) =
      ((List.range' first count).map UInt32.ofNat).mapM (Connection.coreSchedule transport) := by
  induction count with
  | zero => exact fun _ => rfl
  | succ count ih =>
    intro first
    have next : UInt32.ofNat first + 1 = UInt32.ofNat (first + 1) := (UInt32.ofNat_add first 1).symm
    rw [schedulesFrom, next, ih, List.range'_succ, List.map_cons, List.mapM_cons]

theorem follows_schedules (cores : UInt32) :
    Follows connection.limits (schedulesFrom transport.transcribed cores.toNat 0)
      (schedulesFrom transport cores.toNat 0)
      ((List.range cores.toNat).map fun core => .schedule (UInt32.ofNat core)) (fun schedules => { schedules }) id := by
  have follows := follows_mapM (fun schedules => { schedules }) rfl (fun _ _ => rfl)
    (follows_coreSchedule connection transport) ((List.range cores.toNat).map UInt32.ofNat)
  rw [List.map_map, List.range_eq_range', ← schedulesFrom_eq, ← schedulesFrom_eq] at follows
  rw [List.range_eq_range']
  exact follows

theorem follows_pipelineIds :
    Follows connection.limits
      (Action.mapError (.inContext "Unable to list pipelines") (connection.pipelineIds transport.transcribed))
      (Action.mapError (.inContext "Unable to list pipelines") (connection.pipelineIds transport))
      [.pipelines] (fun ids => { ids }) id :=
  @follows_put _ _ connection transport .pipelines (fun ids => { ids }) id trivial nofun rfl (fun _ => rfl) fun _ => rfl

theorem follows_gateways :
    Follows connection.limits
      (Action.mapError (.inContext "Unable to list gateways") (connection.gateways transport.transcribed))
      (Action.mapError (.inContext "Unable to list gateways") (connection.gateways transport))
      [.gateways] (fun gateways => { gateways }) id :=
  @follows_put _ _ connection transport .gateways (fun gateways => { gateways }) id trivial nofun rfl (fun _ => rfl)
    fun _ => rfl

theorem follows_pipelines (ids : List UInt32) :
    Follows connection.limits (ids.mapM (Connection.pipelineProps transport.transcribed))
      (ids.mapM (Connection.pipelineProps transport)) (ids.map .pipeline) (fun pipelines => { pipelines }) id :=
  follows_mapM (fun pipelines => { pipelines }) rfl (fun _ _ => rfl) (follows_pipelineProps connection transport) ids

theorem follows_instances (ids : List InstanceId) :
    Follows connection.limits (ids.mapM (Connection.instanceProps transport.transcribed))
      (ids.mapM (Connection.instanceProps transport)) (ids.map .props) (fun instances => { instances }) id :=
  follows_mapM (fun instances => { instances }) rfl (fun _ _ => rfl) (follows_instanceProps connection transport) ids

end Questions

/-! ## Acquiring a topology -/

/-- The topology of everything that was answered. -/
def linked (capturedAt : Timestamp) (told : Answers) : Except TopologyError Topology :=
  (Topology.of capturedAt told.instances told.gateways told.pipelines told.schedules).computeLinks

/-- The ends of an acquisition: the agenda is complete and the links are computed, or it is broken off. -/
def Ends (cores : UInt32) (capturedAt : Timestamp) (outcome : Except Fault Topology)
    (inquiries : List Inquiry) : Prop :=
  Complete (agenda cores (answers inquiries)) inquiries ∧
      outcome = (linked capturedAt (answers inquiries)).mapError Fault.topology ∨
    ∃ cause, Broken (agenda cores (answers inquiries)) cause inquiries ∧ outcome = .error cause

theorem Broken.ends {cores : UInt32} {capturedAt : Timestamp} {cause : Fault} {inquiries : List Inquiry}
    (broken : Broken (agenda cores (answers inquiries)) cause inquiries) :
    Ends cores capturedAt (.error cause) inquiries :=
  .inr ⟨cause, broken, rfl⟩

/-- Computing the links asks nothing. -/
theorem asks_linked (limits : Limits) (result : Except TopologyError Topology) :
    Asks limits
      (match result with
        | .ok topology => pure topology
        | .error cause => throw (.topology cause) : Action Fault (Transcript σ) Topology)
      (match result with
        | .ok topology => pure topology
        | .error cause => throw (.topology cause))
      (fun topology inquiries => .ok topology = result.mapError Fault.topology ∧ inquiries = [])
      fun cause inquiries => .error cause = result.mapError Fault.topology ∧ inquiries = [] := by
  cases result with
  | ok topology => exact (asks_pure limits topology).mono (fun _ _ told => ⟨congrArg _ told.1, told.2⟩) nofun
  | error cause => exact (asks_throw limits _).mono nofun fun _ _ told => ⟨congrArg _ told.1, told.2⟩

section Acquiring

variable (connection : Connection) (transport : Transport σ) (capturedAt : Timestamp)

/-- What the five kinds of questions bring comes together. -/
theorem answers_together {one two three four five : List Inquiry} {told : Answers}
    (ids : answers one = { ids := told.ids }) (pipelines : answers two = { pipelines := told.pipelines })
    (schedules : answers three = { schedules := told.schedules })
    (gateways : answers four = { gateways := told.gateways })
    (instances : answers five = { instances := told.instances }) :
    answers (one ++ (two ++ (three ++ (four ++ five)))) = told := by
  simp only [answers_append, ids, pipelines, schedules, gateways, instances]
  show Answers.mk (_ ++ []) (_ ++ []) (_ ++ []) (_ ++ []) _ = told
  simp only [List.append_nil]
  rfl

theorem asks_acquire :
    Asks connection.limits (acquire connection transport.transcribed capturedAt)
      (acquire connection transport capturedAt)
      (fun topology => Ends connection.limits.cores capturedAt (.ok topology))
      fun cause => Ends connection.limits.cores capturedAt (.error cause) := by
  refine ((follows_pipelineIds connection transport).bind fun ids =>
    (follows_pipelines connection transport ids).bind fun pipelines =>
    (follows_schedules connection transport connection.limits.cores).bind fun schedules =>
    (follows_gateways connection transport).bind fun gateways =>
    (follows_instances connection transport (referenced pipelines schedules)).bind fun instances =>
      asks_linked connection.limits _).mono ?_ ?_
  · rintro topology _ ⟨ids, one, _, ⟨c1, t1⟩, ⟨pipelines, two, _, ⟨c2, t2⟩, ⟨schedules, three, _, ⟨c3, t3⟩,
      ⟨gateways, four, _, ⟨c4, t4⟩, ⟨instances, five, _, ⟨c5, t5⟩, ⟨made, rfl⟩, rfl⟩, rfl⟩, rfl⟩, rfl⟩, rfl⟩
    rw [List.append_nil, Ends,
      @answers_together _ _ _ _ _ ⟨ids, pipelines, schedules, gateways, instances⟩ t1 t2 t3 t4 t5]
    exact .inl ⟨c1.append (c2.append (c3.append (c4.append c5))), made⟩
  -- A failure at each of the five kinds of questions, and one of the links. Up to the gateways the agenda depends on
  -- the ids of the pipelines alone; the instances need everything that was answered.
  · rintro cause _ (⟨broken, -⟩ | ⟨ids, one, _, ⟨c1, t1⟩, ⟨broken, some, t2⟩ | ⟨pipelines, two, _, ⟨c2, t2⟩,
      ⟨broken, some, t3⟩ | ⟨schedules, three, _, ⟨c3, t3⟩, ⟨broken, some, t4⟩ | ⟨gateways, four, _, ⟨c4, t4⟩,
      ⟨broken, some, t5⟩ | ⟨instances, five, _, ⟨c5, t5⟩, ⟨made, rfl⟩, rfl⟩, rfl⟩, rfl⟩, rfl⟩, rfl⟩)
    · exact Broken.ends (broken.before _)
    · apply Broken.ends
      simp only [agenda, answers_append, ids_append, t1, t2, List.append_nil]
      exact (broken.before _).behind c1
    · apply Broken.ends
      simp only [agenda, answers_append, ids_append, t1, t2, t3, List.append_nil]
      exact ((broken.before _).behind c2).behind c1
    · apply Broken.ends
      simp only [agenda, answers_append, ids_append, t1, t2, t3, t4, List.append_nil]
      exact (((broken.before _).behind c3).behind c2).behind c1
    · apply Broken.ends
      rw [@answers_together _ _ _ _ _ ⟨ids, pipelines, schedules, gateways, some⟩ t1 t2 t3 t4 t5]
      exact (((broken.behind c4).behind c3).behind c2).behind c1
    · rw [List.append_nil, Ends,
        @answers_together _ _ _ _ _ ⟨ids, pipelines, schedules, gateways, instances⟩ t1 t2 t3 t4 t5]
      exact .inl ⟨c1.append (c2.append (c3.append (c4.append c5))), made⟩

/-- Whatever the transport answers, and with or without a transcript, an acquisition asks the questions of the agenda
one after the other and no other; the instances on it are exactly those that are referred to, each once and in ascending
order. The whole agenda is asked and answered exactly if no question comes to nothing, and the outcome is then that of
computing the links; otherwise it is the failure of the last question, or of the next one if that could not be put. -/
theorem agenda_followed (state : σ) :
    let outcome := (acquire connection transport.transcribed capturedAt).run ⟨state, []⟩
    let original := (acquire connection transport capturedAt).run state
    outcome.1 = original.1 ∧ outcome.2.state = original.2 ∧
      ∃ inquiries, List.Forall₂ (Inquiry.Leaves connection.limits) inquiries outcome.2.exchanges ∧
        let told := answers inquiries
        let agenda := agenda connection.limits.cores told
        let instances := referenced told.pipelines told.schedules
        inquiries.map Inquiry.question <+: agenda ∧
        (Complete agenda inquiries ↔ ∀ cause, ¬ Broken agenda cause inquiries) ∧
        (Complete agenda inquiries ∧ outcome.1 = (linked capturedAt told).mapError Fault.topology ∨
          ∃ cause, Broken agenda cause inquiries ∧ outcome.1 = .error cause) ∧
        (instances.Pairwise fun a b => Ranked.rank a < Ranked.rank b) ∧
        ∀ id, id ∈ instances ↔ (∃ pipeline ∈ told.pipelines, id ∈ pipeline.instances) ∨
          ∃ schedule ∈ told.schedules, id ∈ schedule.instances := by
  intro outcome original
  obtain ⟨same, after, inquiries, left, ends⟩ := (asks_acquire connection transport capturedAt).run state
  refine ⟨same, after, inquiries, left, ?_⟩
  intro told agenda instances
  refine ⟨?_, ⟨fun complete cause broken => broken.not_complete complete, fun unbroken => ?_⟩, ends,
    OrderedMap.ascending_keys _, fun id => mem_referenced⟩
  · obtain ⟨complete, -⟩ | ⟨cause, broken, -⟩ := ends
    · exact complete.asked ▸ List.prefix_rfl
    · exact broken.asked
  · obtain ⟨complete, -⟩ | ⟨cause, broken, -⟩ := ends
    · exact complete
    · exact absurd broken (unbroken cause)

end Acquiring

end Snapshot

end DspInspector
