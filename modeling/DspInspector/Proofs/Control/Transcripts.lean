import DspInspector.Control.Connection
import DspInspector.Proofs.Control.Simulated
import DspInspector.Proofs.Data.Outcomes

/-!
# What was read through a transport

A transport behaves as it likes; `Transport.transcribed` is the same transport with a transcript of every parameter
that is read and of what came back. `Transcribes` says of an action what it leaves in the transcript when it succeeds,
and that the transcript makes no difference to it.
-/

namespace DspInspector

variable {σ α β κ : Type}

/-- A parameter that was read, and what came back. -/
structure Exchange where
  target : InstanceId
  parameter : ParameterId
  capacity : Nat
  reply : Except Fault (List UInt8)

/-- The state of a transport, and every exchange so far. -/
structure Transcript (σ : Type) where
  state : σ
  exchanges : List Exchange

/-- A query with its exchange put into the transcript. -/
def Transcript.noting (target : InstanceId) (parameter : ParameterId) (capacity : Nat)
    (query : Action Fault σ (List UInt8)) : Action Fault (Transcript σ) (List UInt8) := fun transcript =>
  match query transcript.state with
  | .ok reply after => .ok reply ⟨after, transcript.exchanges ++ [⟨target, parameter, capacity, .ok reply⟩]⟩
  | .error cause after => .error cause ⟨after, transcript.exchanges ++ [⟨target, parameter, capacity, .error cause⟩]⟩

/-- The same transport with a transcript. -/
def Transport.transcribed (transport : Transport σ) : Transport (Transcript σ) where
  query target parameter capacity :=
    Transcript.noting target parameter capacity (transport.query target parameter capacity)
  configure target parameter payload :=
    Action.onPart Transcript.state (fun state transcript => { transcript with state })
      (transport.configure target parameter payload)
  stats transcript := transport.stats transcript.state

/-- The action does to the state what the original does. When it succeeds, the exchanges it adds are as said. -/
def Transcribes (action : Action Fault (Transcript σ) α) (original : Action Fault σ α)
    (leaves : α → List Exchange → Prop) : Prop :=
  ∀ transcript, action.Yields transcript
    (fun value after => original transcript.state = .ok value after.state ∧
      ∃ added, after.exchanges = transcript.exchanges ++ added ∧ leaves value added)
    (fun cause after => original transcript.state = .error cause after.state)

section Steps

variable {action : Action Fault (Transcript σ) α} {original : Action Fault σ α} {leaves : α → List Exchange → Prop}

theorem Transcribes.mono {leaves' : α → List Exchange → Prop} (transcribes : Transcribes action original leaves)
    (weaker : ∀ value added, leaves value added → leaves' value added) : Transcribes action original leaves' := by
  intro transcript
  refine (transcribes transcript).mono (fun value after reached => ?_) fun _ _ failed => failed
  obtain ⟨ran, added, grown, left⟩ := reached
  exact ⟨ran, added, grown, weaker value added left⟩

theorem transcribes_pure (value : α) :
    Transcribes (pure value : Action Fault (Transcript σ) α) (pure value)
      fun result added => result = value ∧ added = [] := by
  intro transcript
  exact ⟨rfl, [], (List.append_nil _).symm, rfl, rfl⟩

theorem transcribes_throw (cause : Fault) :
    Transcribes (throw cause : Action Fault (Transcript σ) α) (throw cause) leaves := fun _ => rfl

theorem transcribes_ofExcept (result : Except Fault α) :
    Transcribes (Action.ofExcept result : Action Fault (Transcript σ) α) (Action.ofExcept result)
      fun value added => result = .ok value ∧ added = [] := by
  cases result with
  | ok value => exact (transcribes_pure value).mono fun _ _ left => ⟨congrArg _ left.1.symm, left.2⟩
  | error cause => exact transcribes_throw cause

theorem Transcribes.mapError (transcribes : Transcribes action original leaves) (change : Fault → Fault) :
    Transcribes (action.mapError change) (original.mapError change) leaves := by
  intro transcript
  rw [Action.yields_mapError]
  refine (transcribes transcript).mono (fun value after reached => ?_) fun cause after failed => ?_
  · obtain ⟨ran, left⟩ := reached
    exact ⟨by rw [Action.mapError, ran], left⟩
  · rw [Action.mapError, failed]

/-- A sequence leaves what its first action leaves and then what the second one does. -/
theorem Transcribes.bind {next : α → Action Fault (Transcript σ) β} {originalNext : α → Action Fault σ β}
    {leaves' : α → β → List Exchange → Prop} (first : Transcribes action original leaves)
    (second : ∀ value, Transcribes (next value) (originalNext value) (leaves' value)) :
    Transcribes (action >>= next) (original >>= originalNext) fun result added =>
      ∃ value early late, leaves value early ∧ leaves' value result late ∧ added = early ++ late := by
  intro transcript
  rw [Action.yields_bind]
  refine (first transcript).mono (fun value between reached => ?_) fun cause after failed => Action.bind_of_error failed
  obtain ⟨ran, early, grown, left⟩ := reached
  refine (second value between).mono (fun result after done => ?_) fun cause after failed => ?_
  · obtain ⟨ranNext, late, grownNext, leftNext⟩ := done
    refine ⟨(Action.bind_of_ok ran).trans ranNext, early ++ late, ?_, value, early, late, left, leftNext, rfl⟩
    rw [grownNext, grown, List.append_assoc]
  · exact (Action.bind_of_ok ran).trans failed

end Steps

/-! ## Questions -/

section Questions

variable (transport : Transport σ) (target : InstanceId) (parameter : ParameterId) (capacity : Nat)

theorem transcribes_query : Transcribes (transport.transcribed.query target parameter capacity)
    (transport.query target parameter capacity)
    fun reply added => added = [⟨target, parameter, capacity, .ok reply⟩] := by
  intro transcript
  show Action.Yields (Transcript.noting target parameter capacity _) transcript _ _
  cases ran : transport.query target parameter capacity transcript.state with
  | ok reply after =>
    simp only [Action.Yields, Transcript.noting, ran]
    exact ⟨trivial, _, rfl, rfl⟩
  | error cause after => simp only [Action.Yields, Transcript.noting, ran]

theorem transcribes_ask : Transcribes (Connection.ask transport.transcribed target parameter capacity)
    (Connection.ask transport target parameter capacity)
    fun reply added => added = [⟨target, parameter, capacity, .ok reply⟩] :=
  (transcribes_query transport target parameter capacity).mapError _

theorem transcribes_askValue (α : Type) [Wire α] :
    Transcribes (Connection.askValue α transport.transcribed target parameter capacity)
      (Connection.askValue α transport target parameter capacity)
      fun value added => ∃ reply, Connection.decodeReply α reply = .ok value ∧
        added = [⟨target, parameter, capacity, .ok reply⟩] := by
  refine ((transcribes_ask transport target parameter capacity).bind fun reply => transcribes_ofExcept _).mono ?_
  rintro value _ ⟨reply, _, _, rfl, ⟨decoded, rfl⟩, rfl⟩
  exact ⟨reply, decoded, rfl⟩

end Questions

/-! ## Instances that were asked for -/

/-- The props that came back when an instance was asked for them. -/
def Exchange.props? (exchange : Exchange) : Option (InstanceId × InstanceProps) :=
  if exchange.parameter = .ofInstance .props then
    (exchange.reply >>= Connection.decodeReply InstanceProps).toOption.map (exchange.target, ·)
  else none

/-- The props of all instances that were asked for them, in the order of the questions. -/
def propsOf (exchanges : List Exchange) : List (InstanceId × InstanceProps) := exchanges.filterMap Exchange.props?

@[simp] theorem propsOf_append (early late : List Exchange) : propsOf (early ++ late) = propsOf early ++ propsOf late :=
  List.filterMap_append

/-- Nothing else is a question for the props of an instance. -/
theorem propsOf_other {exchange : Exchange} (other : exchange.parameter ≠ .ofInstance .props) :
    propsOf [exchange] = [] := by
  simp [propsOf, Exchange.props?, other]

/-- Asks for the props of no instance. -/
def Incurious (action : Action Fault (Transcript σ) α) (original : Action Fault σ α) : Prop :=
  Transcribes action original fun _ added => propsOf added = []

section Incurious

variable {action : Action Fault (Transcript σ) α} {original : Action Fault σ α}

/-- What comes before the questions for instances can be left out. -/
theorem Incurious.bind {next : α → Action Fault (Transcript σ) β} {originalNext : α → Action Fault σ β}
    {answers : β → List (InstanceId × InstanceProps) → Prop} (first : Incurious action original)
    (second : ∀ value, Transcribes (next value) (originalNext value) fun result added =>
      answers result (propsOf added)) :
    Transcribes (action >>= next) (original >>= originalNext) fun result added => answers result (propsOf added) := by
  refine (Transcribes.bind first second).mono ?_
  rintro result _ ⟨_, early, late, silent, told, rfl⟩
  rwa [propsOf_append, silent, List.nil_append]

theorem Incurious.then {next : α → Action Fault (Transcript σ) β} {originalNext : α → Action Fault σ β}
    (first : Incurious action original) (second : ∀ value, Incurious (next value) (originalNext value)) :
    Incurious (action >>= next) (original >>= originalNext) := by
  refine (Transcribes.bind first second).mono ?_
  rintro _ _ ⟨_, early, late, silent, quiet, rfl⟩
  rw [propsOf_append, silent, quiet, List.nil_append]

theorem Incurious.mapError (incurious : Incurious action original) (change : Fault → Fault) :
    Incurious (action.mapError change) (original.mapError change) :=
  Transcribes.mapError incurious change

theorem incurious_pure (value : α) : Incurious (pure value : Action Fault (Transcript σ) α) (pure value) :=
  (transcribes_pure value).mono fun _ _ left => left.2 ▸ rfl

theorem incurious_ofExcept (result : Except Fault α) :
    Incurious (Action.ofExcept result : Action Fault (Transcript σ) α) (Action.ofExcept result) :=
  (transcribes_ofExcept result).mono fun _ _ left => left.2 ▸ rfl

theorem incurious_mapM {ask : κ → Action Fault (Transcript σ) α} {originalAsk : κ → Action Fault σ α}
    (each : ∀ key, Incurious (ask key) (originalAsk key)) (keys : List κ) :
    Incurious (keys.mapM ask) (keys.mapM originalAsk) := by
  induction keys with
  | nil =>
    rw [List.mapM_nil, List.mapM_nil]
    exact incurious_pure []
  | cons key keys ih =>
    rw [List.mapM_cons, List.mapM_cons]
    exact (each key).then fun _ => ih.then fun _ => incurious_pure _

variable (transport : Transport σ)

theorem incurious_askValue (α : Type) [Wire α] (target : InstanceId) {parameter : ParameterId} (capacity : Nat)
    (other : parameter ≠ .ofInstance .props) :
    Incurious (Connection.askValue α transport.transcribed target parameter capacity)
      (Connection.askValue α transport target parameter capacity) := by
  refine (transcribes_askValue transport target parameter capacity α).mono ?_
  rintro _ _ ⟨_, _, rfl⟩
  exact propsOf_other other

/-- An extended id keeps the name that it was packed from. -/
theorem ParameterId.typeTag_of_extended {tag sub : UInt32} {id : ParameterId} (packed : extended tag sub = .ok id) :
    id.typeTag = tag := by
  have small : tag.toNat < 2 ^ 8 ∧ sub.toNat < 2 ^ 24 := by
    unfold extended at packed
    split at packed
    · cases packed
    · split at packed
      · cases packed
      · rename_i tagFits subFits
        exact ⟨Nat.lt_of_not_le tagFits, Nat.lt_of_not_le subFits⟩
  obtain ⟨whole, ran, tagged, -⟩ := extended_eq small.1 small.2
  cases packed.symm.trans ran
  exact tagged

/-- Objects of the base firmware are asked for under its own parameters. -/
theorem incurious_askObject (α : Type) [Wire α] (parameter : BaseParameter) (object : UInt32) :
    Incurious (Connection.askObject α transport.transcribed parameter object)
      (Connection.askObject α transport parameter object) := by
  unfold Connection.askObject
  split
  · exact transcribes_throw _
  · rename_i id packed
    refine incurious_askValue transport α Connection.base payloadLimit ?_
    rintro rfl
    have tag := ParameterId.typeTag_of_extended packed
    cases parameter <;> exact absurd tag (by decide)

end Incurious

section Instances

variable (transport : Transport σ)

theorem transcribes_instanceProps (id : InstanceId) :
    Transcribes (Connection.instanceProps transport.transcribed id) (Connection.instanceProps transport id)
      fun props added => propsOf added = [(id, props)] := by
  refine (transcribes_askValue transport id (.ofInstance .props) payloadLimit InstanceProps).mono ?_
  rintro props _ ⟨reply, decoded, rfl⟩
  have answer : (Except.ok reply >>= Connection.decodeReply InstanceProps) = .ok props := decoded
  simp [propsOf, Exchange.props?, answer, Except.toOption]

/-- Instances that are asked for one after the other are those that were asked for, each with its answer. -/
theorem transcribes_instances : ∀ ids : List InstanceId,
    Transcribes (ids.mapM (Connection.instanceProps transport.transcribed))
      (ids.mapM (Connection.instanceProps transport))
      fun instances added => (propsOf added).map Prod.fst = ids ∧ (propsOf added).map Prod.snd = instances
  | [] => by
    rw [List.mapM_nil, List.mapM_nil]
    refine (transcribes_pure []).mono ?_
    rintro _ _ ⟨rfl, rfl⟩
    exact ⟨rfl, rfl⟩
  | id :: ids => by
    rw [List.mapM_cons, List.mapM_cons]
    refine ((transcribes_instanceProps transport id).bind fun _ =>
      (transcribes_instances ids).bind fun _ => transcribes_pure _).mono ?_
    rintro _ _ ⟨props, early, _, first, ⟨others, late, _, ⟨asked, answered⟩, ⟨rfl, rfl⟩, rfl⟩, rfl⟩
    simp only [propsOf_append, first, asked, answered, List.map_cons, List.singleton_append, List.append_nil, and_self]

end Instances

end DspInspector
