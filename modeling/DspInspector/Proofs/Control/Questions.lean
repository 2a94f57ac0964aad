import DspInspector.Proofs.Control.Simulated
import DspInspector.Proofs.Wire.Acceptance

/-!
# Answers are validated

The lists and the objects of the firmware are asked for by seven questions. What is answered depends on nothing
but the bytes at the start of the reply: the value that they are the bytes of, if it contradicts no limit
(`Question.answers_validated`).
-/

namespace DspInspector

open Wire

/-- The questions about the lists and the objects of the firmware. -/
inductive Question where
  | modules
  | pipelines
  | gateways
  | measurements
  | pipeline (id : UInt32)
  | schedule (core : UInt32)
  | props (id : InstanceId)

namespace Question

variable {σ : Type}

/-- How the answer travels. -/
@[reducible] def layout : Question → Layout
  | modules => .list .moduleEntry
  | pipelines => .list .u32
  | gateways => .list .gateway
  | measurements => .list .measurement
  | pipeline _ => .pipeline
  | schedule _ => .coreSchedule
  | props _ => .instanceProps

/-- The instance that answers. -/
def target : Question → InstanceId
  | props id => id
  | _ => ⟨0, 0⟩

/-- The number of the parameter. An object of the base firmware stands above the low byte. -/
def number : Question → Nat
  | modules => 9
  | pipelines => 10
  | gateways => 13
  | measurements => 18
  | pipeline id => 11 + id.toNat * 2 ^ 8
  | schedule core => 12 + core.toNat * 2 ^ 8
  | props _ => 254

/-- The object has a number of twenty-four bits. -/
def Addressable : Question → Prop
  | pipeline object | schedule object => object.toNat < 2 ^ 24
  | _ => True

/-- The parameter that is read. -/
def parameter (question : Question) : ParameterId := ⟨UInt32.ofNat question.number⟩

/-- The room that is given to the answer. -/
def room (limits : Limits) : Question → Nat
  | modules => 4 + limits.modules.toNat * 116
  | pipelines => 4 + limits.pipelines.toNat * 4
  | gateways => 4 + limits.gateways.toNat * 8
  | measurements => 4 + (limits.instances.toNat + limits.cores.toNat) * 16
  | pipeline _ | schedule _ | props _ => 4096

/-- Puts the question. -/
def put (connection : Connection) (transport : Transport σ) : (question : Question) →
    Action Fault σ question.layout.Value
  | modules => connection.moduleEntries transport
  | pipelines => connection.pipelineIds transport
  | gateways => connection.gateways transport
  | measurements => connection.measurements transport
  | pipeline id => Connection.pipelineProps transport id
  | schedule core => Connection.coreSchedule transport core
  | props id => Connection.instanceProps transport id

/-- A list that is longer than it may be. -/
def excess {α : Type} (listing : Listing) (limit : Nat) (items : List α) : Option FirmwareError :=
  if items.length ≤ limit then none else some (.tooMany listing items.length limit)

/-- The words in which a failed access tells what was asked. -/
def context (question : Question) : String :=
  s!"Unable to query parameter {question.number} of module {question.target.moduleId.toNat} " ++
    s!"instance {question.target.instanceId.toNat}"

/-- What the limits say against an answer. -/
def objection (limits : Limits) : (question : Question) → question.layout.Value → Option FirmwareError
  | .modules, entries =>
    if entries.length = limits.modules.toNat then none
    else some (.moduleCount entries.length limits.modules.toNat)
  | .pipelines, ids => excess .pipelines limits.pipelines.toNat ids
  | .gateways, items => excess .gateways limits.gateways.toNat items
  | .measurements, items => excess .measurements (limits.instances.toNat + limits.cores.toNat) items
  | .pipeline _, _ | .schedule _, _ | .props _, _ => none

/-- An answer that nothing is said against. -/
def check (limits : Limits) (question : Question) (value : question.layout.Value) :
    Except Fault question.layout.Value :=
  match question.objection limits value with
  | none => .ok value
  | some cause => .error (.firmware cause)

/-- The outcome of a question, by the reply. -/
def judge (limits : Limits) (question : Question) (reply : List UInt8) : Except Fault question.layout.Value :=
  Connection.decodeReply question.layout.Value reply >>= question.check limits

/-! ## Parameters -/

theorem number_lt {question : Question} (addressable : question.Addressable) : question.number < 2 ^ 32 := by
  cases question with
  | modules | pipelines | gateways | measurements => decide
  | props id => exact (by decide : 254 < 2 ^ 32)
  | pipeline object | schedule object =>
    simp only [Addressable, number] at addressable ⊢
    omega

theorem toNat_parameter {question : Question} (addressable : question.Addressable) :
    question.parameter.raw.toNat = question.number := by
  rw [parameter, UInt32.toNat_ofNat', Nat.mod_eq_of_lt (number_lt addressable)]

/-! ## Asking is judging the reply -/

section Asking

variable {α β : Type} [Wire α] {transport : Transport σ} {target : InstanceId} {parameter : ParameterId}
  {room : Nat}

/-- What is checked after decoding can be checked on the reply. -/
theorem askValue_check {check : α → Action Fault σ β} {outcome : α → Except Fault β}
    (same : ∀ value, check value = Action.ofExcept (outcome value)) :
    (Connection.askValue α transport target parameter room >>= check) =
      Connection.ask transport target parameter room >>= fun reply =>
        Action.ofExcept (Connection.decodeReply α reply >>= outcome) := by
  unfold Connection.askValue
  rw [bind_assoc]
  congr 1
  funext reply state
  cases Connection.decodeReply α reply with
  | ok value => exact congrFun (same value) state
  | error cause => rfl

theorem askValue_eq :
    Connection.askValue α transport target parameter room =
      Connection.ask transport target parameter room >>= fun reply =>
        Action.ofExcept (Connection.decodeReply α reply >>= .ok) := by
  unfold Connection.askValue
  congr 1
  funext reply
  cases Connection.decodeReply α reply <;> rfl

/-- An object is asked for by the word of its parameter. -/
theorem askObject_eq {question : BaseParameter} {object : UInt32} (small : object.toNat < 2 ^ 24) :
    Connection.askObject α transport question object =
      (do
        let reply ← Connection.ask transport Connection.base
          ⟨UInt32.ofNat ((Enumeration.coding question).code.toNat + object.toNat * 2 ^ 8)⟩ payloadLimit
        Action.ofExcept (Connection.decodeReply α reply >>= .ok)) := by
  have tagSmall : (Enumeration.coding question).code.toNat < 2 ^ 8 := by cases question <;> decide
  obtain ⟨accepted, sum⟩ := ParameterId.extended_word tagSmall small
  rw [Connection.askObject, accepted, ← sum, UInt32.ofNat_toNat]
  exact askValue_eq

end Asking

theorem checkLength_eq {α : Type} {items : List α} {listing : Listing} {limit : UInt32} :
    Connection.checkLength listing limit items =
      match excess listing limit.toNat items with
      | none => .ok items
      | some cause => .error (.firmware cause) := by
  unfold Connection.checkLength excess
  split <;> rfl

/-- A question reads its parameter once and judges the reply. -/
theorem put_eq (connection : Connection) (transport : Transport σ) {question : Question}
    (addressable : question.Addressable)
    (fits : question = .measurements → connection.limits.instances.toNat + connection.limits.cores.toNat < 2 ^ 32) :
    question.put connection transport =
      Connection.ask transport question.target question.parameter (question.room connection.limits) >>= fun reply =>
        Action.ofExcept (question.judge connection.limits reply) := by
  cases question with
  | modules =>
    refine askValue_check fun entries => ?_
    unfold check objection
    by_cases counted : entries.length = connection.limits.modules.toNat
    · simp only [counted, ↓reduceIte]
      rfl
    · simp only [counted, ↓reduceIte]
      rfl
  | pipelines => exact askValue_check fun ids => congrArg Action.ofExcept checkLength_eq
  | gateways => exact askValue_check fun items => congrArg Action.ofExcept checkLength_eq
  | measurements =>
    have sum : (UInt32.ofNat (connection.limits.instances.toNat + connection.limits.cores.toNat)).toNat =
        connection.limits.instances.toNat + connection.limits.cores.toNat := UInt32.toNat_ofNat_of_lt' (fits rfl)
    have size : Measurement.listSize _ = room connection.limits .measurements := congrArg Measurement.listSize sum
    show Connection.measurements connection transport = _
    rw [Connection.measurements_of_lt transport (fits rfl), Connection.measurementsUpTo, size]
    refine askValue_check fun items => ?_
    rw [checkLength_eq, sum]
    rfl
  | pipeline id => exact askObject_eq addressable
  | schedule core => exact askObject_eq addressable
  | props id => exact askValue_eq

/-! ## The outcome -/

variable {limits : Limits} {question : Question} {reply : List UInt8}

theorem judge_of_begins {value : question.layout.Value} (canonical : question.layout.Canonical value)
    (begins : question.layout.wire.write value <+: reply) :
    question.judge limits reply = question.check limits value := by
  have decoded : Wire.decode question.layout.Value reply = .ok value := decode_eq_ok_iff.mpr ⟨canonical, begins⟩
  rw [judge, Connection.decodeReply, decoded]
  rfl

theorem judge_of_none
    (none : ∀ value, question.layout.Canonical value → ¬ question.layout.wire.write value <+: reply) :
    ∃ cause, question.judge limits reply = .error (.inContext "Can not decode fw parameter" (.wire cause)) := by
  obtain ⟨cause, failed⟩ := decode_eq_error none
  refine ⟨cause, ?_⟩
  rw [judge, Connection.decodeReply, failed]
  rfl

theorem check_eq_ok_iff {value accepted : question.layout.Value} :
    question.check limits value = .ok accepted ↔ value = accepted ∧ question.objection limits value = none := by
  unfold check
  split
  · rename_i nothing
    simp [nothing]
  · rename_i cause objected
    simp [objected]

/-- What is accepted is what the reply begins with, and nothing is said against it. -/
theorem judge_eq_ok_iff {value : question.layout.Value} :
    question.judge limits reply = .ok value ↔
      question.layout.Canonical value ∧ question.layout.wire.write value <+: reply ∧
        question.objection limits value = none := by
  constructor
  · intro accepted
    by_cases none : ∀ value, question.layout.Canonical value → ¬ question.layout.wire.write value <+: reply
    · obtain ⟨cause, failed⟩ := @judge_of_none limits question reply none
      cases failed.symm.trans accepted
    · push Not at none
      obtain ⟨found, canonical, begins⟩ := none
      obtain ⟨rfl, nothing⟩ := check_eq_ok_iff.mp ((judge_of_begins canonical begins).symm.trans accepted)
      exact ⟨canonical, begins, nothing⟩
  · rintro ⟨canonical, begins, nothing⟩
    rw [judge_of_begins canonical begins]
    exact check_eq_ok_iff.mpr ⟨rfl, nothing⟩

/-- What comes back is judged, and a failure tells what was asked. -/
theorem put_apply (connection : Connection) (transport : Transport σ) (addressable : question.Addressable)
    (fits : question = .measurements → connection.limits.instances.toNat + connection.limits.cores.toNat < 2 ^ 32)
    (state : σ) :
    question.put connection transport state =
      match transport.query question.target question.parameter (question.room connection.limits) state with
      | .ok reply after => Action.ofExcept (question.judge connection.limits reply) after
      | .error cause after => .error (.inContext question.context cause) after := by
  rw [put_eq connection transport addressable fits, Connection.ask, ParameterId.text, toNat_parameter addressable]
  cases asked : transport.query question.target question.parameter (question.room connection.limits) state with
  | ok reply after => exact Action.bind_of_ok (Action.mapError_of_ok asked)
  | error cause after => exact Action.bind_of_error (Action.mapError_of_error asked)

/-- The outcome of a question is the judgement of the reply, and a failure tells what was asked. -/
theorem run_put (connection : Connection) (transport : Transport σ) (addressable : question.Addressable)
    (fits : connection.limits.instances.toNat + connection.limits.cores.toNat < 2 ^ 32) (state : σ) :
    (question.put connection transport).run state =
      match transport.query question.target question.parameter (question.room connection.limits) state with
      | .ok reply after => (question.judge connection.limits reply, after)
      | .error cause after =>
        (.error (.inContext question.context cause), after) := by
  rw [Action.run, put_apply connection transport addressable (fun _ => fits)]
  cases transport.query question.target question.parameter (question.room connection.limits) state with
  | ok reply after =>
    dsimp only
    cases question.judge connection.limits reply <;> rfl
  | error cause after => rfl

/-- Whatever the transport replies, a list or an object is handed out exactly if the reply begins with its bytes
and the limits allow it. Every other reply is a failure that tells what is wrong, bytes behind the value make no
difference, and a failure of the transport comes back with what was asked for. -/
theorem answers_validated (connection : Connection) (transport : Transport σ) (question : Question) (state : σ)
    (addressable : question.Addressable)
    (fits : connection.limits.instances.toNat + connection.limits.cores.toNat < 2 ^ 32) :
    let outcome := (question.put connection transport).run state
    let write := question.layout.wire.write
    let asked := transport.query question.target question.parameter (question.room connection.limits) state
    (∀ cause after, asked = .error cause after →
      outcome = (.error (.inContext question.context cause), after) ∧
        (Fault.inContext question.context cause).root = cause.root) ∧
    ∀ reply after, asked = .ok reply after →
      outcome.2 = after ∧
      (∀ value, outcome.1 = .ok value ↔ question.layout.Canonical value ∧ write value <+: reply ∧
        question.objection connection.limits value = none) ∧
      (∀ value cause, question.layout.Canonical value → write value <+: reply →
        question.objection connection.limits value = some cause → outcome.1 = .error (.firmware cause)) ∧
      ((∀ value, question.layout.Canonical value → ¬ write value <+: reply) →
        ∃ cause, outcome.1 = .error (.inContext "Can not decode fw parameter" (.wire cause))) ∧
      ∀ value, question.layout.Canonical value → write value <+: reply →
        ∀ (other : Transport σ) (begun : σ) (rest : List UInt8) (ended : σ),
          other.query question.target question.parameter (question.room connection.limits) begun =
            .ok (write value ++ rest) ended →
          ((question.put connection other).run begun).1 = outcome.1 := by
  intro outcome write asked
  have ran : outcome = match asked with
      | .ok reply after => (question.judge connection.limits reply, after)
      | .error cause after => (.error (.inContext question.context cause), after) :=
    run_put connection transport addressable fits state
  refine ⟨fun cause after failed => ?_, fun reply after replied => ?_⟩
  · rw [failed] at ran
    exact ⟨ran, rfl⟩
  · rw [replied] at ran
    rw [ran]
    refine ⟨rfl, fun value => judge_eq_ok_iff, fun value cause canonical begins objected => ?_, judge_of_none, ?_⟩
    · dsimp only
      rw [judge_of_begins canonical begins, check, objected]
    · intro value canonical begins other begun rest ended answered
      have behind : write value <+: write value ++ rest := List.prefix_append _ _
      rw [run_put connection other addressable fits begun, answered]
      exact (judge_of_begins canonical behind).trans (judge_of_begins canonical begins).symm

/-- A transport that always gives the same reply. -/
def replying (reply : List UInt8) : Transport Unit where
  query _ _ _ := pure reply
  configure _ _ _ := pure ()

/-- A firmware with two modules, and at most two pipelines, three instances and one gateway on one core. -/
def sampleConnection : Connection where
  firmware := .empty
  hardware := .empty
  limits := { version := ⟨1, 2, 3, 4⟩, modules := 2, pipelines := 2, instances := 3, gateways := 1, cores := 1 }

/-- A pipeline with one instance. -/
def samplePipeline : Pipeline := ⟨3, 1, 0, 0, 0, 0, [⟨1, 0⟩], [], [7]⟩

/-- The props of a pipeline come back from a reply with two bytes too many. -/
theorem samplePipeline_validated :
    (pipeline 3).Addressable ∧
    sampleConnection.limits.instances.toNat + sampleConnection.limits.cores.toNat < 2 ^ 32 ∧
    ((pipeline 3).put sampleConnection (replying (Wire.write samplePipeline ++ [0xAA, 0xBB]))).run () =
      (.ok samplePipeline, ()) := by
  have addressable : (pipeline 3).Addressable := by
    show (3 : UInt32).toNat < 2 ^ 24
    decide
  have fits : sampleConnection.limits.instances.toNat + sampleConnection.limits.cores.toNat < 2 ^ 32 := by decide
  obtain ⟨-, replied⟩ := answers_validated sampleConnection
    (replying (Wire.write samplePipeline ++ [0xAA, 0xBB])) (pipeline 3) () addressable fits
  obtain ⟨-, accepted, -⟩ := replied _ () rfl
  have canonical : samplePipeline.Canonical := by decide
  have begins := List.prefix_append (Wire.write samplePipeline) [0xAA, 0xBB]
  exact ⟨addressable, fits, Prod.ext ((accepted samplePipeline).mpr ⟨canonical, begins, rfl⟩) rfl⟩

/-- The props of an instance with an output pin whose sample encoding has a code of more than one byte. -/
def wideProps : InstanceProps :=
  { InstanceProps.bare ⟨1, 0⟩ with
    outputPins := [⟨.known .pcm, { AudioFormat.standard with sampleType := .unknown 261 }, 0⟩] }

/-- One byte is written for the sample encoding, so that a wider code is not read back. -/
theorem wideProps_not_returned :
    ¬ ((((props ⟨1, 0⟩).put sampleConnection (replying (Wire.write wideProps))).run ()).1 = .ok wideProps ↔
      Wire.write wideProps <+: Wire.write wideProps) := by
  intro claimed
  have returned := claimed.mpr (List.prefix_refl _)
  have addressable : (props ⟨1, 0⟩).Addressable := trivial
  rw [run_put sampleConnection _ addressable (by decide)] at returned
  obtain ⟨canonical, -⟩ := judge_eq_ok_iff.mp returned
  have narrow : (261 : UInt32) < 256 := (canonical.outputPins _ List.mem_cons_self).format.sampleByte
  exact absurd narrow (by decide)

end Question

end DspInspector
