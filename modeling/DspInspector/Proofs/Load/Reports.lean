import DspInspector.Load.Report
import DspInspector.Proofs.Control.Inquiries

/-!
# What a load report tells

A report is made of the measurements, of the module table and of the props of the instances, and each of them may be
missing. An instance that is gone or cannot be asked has no budget, which is no failure; everything else that is missing
is one. A report covers every measurement, or it fails at the first one that there is no line for
(`LoadReport.report_covers_items`).
-/

namespace DspInspector.LoadReport

open Question (sampleConnection)

variable {σ : Type}

/-! ## Findings -/

/-- The budget by what came back for the props. That nothing came back is no failure. -/
def budgetBy : Except Fault InstanceProps → Except Fault UInt32
  | .ok props => props.budget.mapError Fault.firmware
  | .error _ => .ok 0

/-- A measured instance, and what came back for its props. An instance that is gone is not asked. -/
structure Finding where
  item : Measurement
  props : Option (Except Fault InstanceProps)
  asked : props.isSome = !item.isRemoved

namespace Finding

/-- The question for the props, if it was put. -/
def inquiries (finding : Finding) : List Inquiry :=
  match finding.props with
  | some props => [⟨.props finding.item.resource, props⟩]
  | none => []

/-- The budget of the instance, which is none if the instance is gone. -/
def budget (finding : Finding) : Except Fault UInt32 :=
  match finding.props with
  | some props => budgetBy props
  | none => .ok 0

end Finding

/-- What a line takes over from a measurement. -/
structure Carries (item : Measurement) (made : LoadItem) : Prop where
  instanceId : made.instanceId = item.resource.instanceId
  lowPower : made.lowPower = item.lowPower
  isRemoved : made.isRemoved = item.isRemoved
  peak : made.peak = item.peak
  average : made.average = item.average

/-- The line of a core, which has neither a module nor a budget. -/
structure CoreLine (item : Measurement) (made : LoadItem) : Prop extends Carries item made where
  uuid : made.uuid = "n/a"
  budget : made.budget = 0

/-- The line of an instance, by the module table. -/
structure ModuleLine (table : Except Fault (List ModuleEntry)) (finding : Finding) (made : LoadItem) : Prop
    extends Carries finding.item made where
  uuid : ∃ entries entry, table = .ok entries ∧
    entries.find? (·.moduleId == finding.item.resource.moduleId) = some entry ∧ made.uuid = entry.uuidText
  budget : finding.budget = .ok made.budget

/-- Why there is no line for an instance: its budget, the module table, or the lack of an entry. -/
inductive Lacks (table : Except Fault (List ModuleEntry)) (finding : Finding) : Fault → Prop where
  | budget {cause : Fault} (failed : finding.budget = .error cause) : Lacks table finding cause
  | table {budget : UInt32} {cause : Fault} (computed : finding.budget = .ok budget) (failed : table = .error cause) :
    Lacks table finding (.inContext "When getting perf items from firmware" cause)
  | entry {budget : UInt32} {entries : List ModuleEntry} (computed : finding.budget = .ok budget)
    (fetched : table = .ok entries) (missing : ∀ entry ∈ entries, entry.moduleId ≠ finding.item.resource.moduleId) :
    Lacks table finding (.firmware (.noModule finding.item.resource.moduleId))

/-- The measurements of the cores. -/
def coresOf (items : List Measurement) : List Measurement := items.filter (·.resource.moduleId == 0)

/-- The measurements of the module instances. -/
def modulesOf (items : List Measurement) : List Measurement := items.filter (·.resource.moduleId != 0)

/-- Every instance was looked at, in order, and has its line. -/
structure Covers (table : Except Fault (List ModuleEntry)) (items : List Measurement) (findings : List Finding)
    (lines : List LoadItem) : Prop where
  items : findings.map Finding.item = modulesOf items
  lines : List.Forall₂ (ModuleLine table) findings lines

/-- The instances were looked at up to the first one that has no line. -/
def StopsAt (table : Except Fault (List ModuleEntry)) (items : List Measurement) (findings : List Finding)
    (cause : Fault) : Prop :=
  ∃ before last later lines, findings = before ++ [last] ∧ modulesOf items = findings.map Finding.item ++ later ∧
    List.Forall₂ (ModuleLine table) before lines ∧ Lacks table last cause

/-- What looking at more measurements makes of a report. -/
def Makes (table : Except Fault (List ModuleEntry)) (items : List Measurement) (report : LoadReport)
    (findings : List Finding) : Except Fault LoadReport → Prop
  | .ok result => ∃ cores lines, List.Forall₂ CoreLine (coresOf items) cores ∧ Covers table items findings lines ∧
      result = ⟨report.cores ++ cores, report.modules ++ lines⟩
  | .error cause => StopsAt table items findings cause

/-- The questions of a report: the module table is asked for once there is an instance whose budget is known. -/
def asked (table : Except Fault (List ModuleEntry)) : List Finding → List Inquiry
  | [] => []
  | first :: others =>
    match first.budget with
    | .ok _ => first.inquiries ++ ⟨.modules, table⟩ :: others.flatMap Finding.inquiries
    | .error _ => first.inquiries

theorem asked_of_ok {table : Except Fault (List ModuleEntry)} {finding : Finding} {findings : List Finding}
    {budget : UInt32} (computed : finding.budget = .ok budget) :
    asked table (finding :: findings) =
      finding.inquiries ++ ⟨.modules, table⟩ :: findings.flatMap Finding.inquiries := by
  rw [asked, computed]

theorem asked_of_error {table : Except Fault (List ModuleEntry)} {finding : Finding} {findings : List Finding}
    {cause : Fault} (failed : finding.budget = .error cause) :
    asked table (finding :: findings) = finding.inquiries := by
  rw [asked, failed]

/-! ## One measurement more -/

section Steps

variable {table : Except Fault (List ModuleEntry)} {item : Measurement} {items : List Measurement} {report : LoadReport}
  {finding : Finding} {findings : List Finding} {outcome : Except Fault LoadReport} {cause : Fault} {made : LoadItem}

theorem coresOf_core (core : item.resource.moduleId = 0) : coresOf (item :: items) = item :: coresOf items :=
  List.filter_cons_of_pos (beq_iff_eq.mpr core)

theorem modulesOf_core (core : item.resource.moduleId = 0) : modulesOf (item :: items) = modulesOf items :=
  List.filter_cons_of_neg (by simp [core])

theorem coresOf_module (module : item.resource.moduleId ≠ 0) : coresOf (item :: items) = coresOf items :=
  List.filter_cons_of_neg (by simp [module])

theorem modulesOf_module (module : item.resource.moduleId ≠ 0) : modulesOf (item :: items) = item :: modulesOf items :=
  List.filter_cons_of_pos (bne_iff_ne.mpr module)

theorem coreLine (item : Measurement) : CoreLine item (line item "n/a" 0) where
  instanceId := rfl
  lowPower := rfl
  isRemoved := rfl
  peak := rfl
  average := rfl
  uuid := rfl
  budget := rfl

theorem makes_nothing (table : Except Fault (List ModuleEntry)) (report : LoadReport) :
    Makes table [] report [] (.ok report) :=
  ⟨[], [], .nil, ⟨rfl, .nil⟩, by rw [List.append_nil, List.append_nil]⟩

/-- A core has its line whatever comes after it. -/
theorem Makes.core (core : item.resource.moduleId = 0)
    (makes : Makes table items { report with cores := report.cores ++ [line item "n/a" 0] } findings outcome) :
    Makes table (item :: items) report findings outcome := by
  cases outcome with
  | ok result =>
    obtain ⟨cores, lines, each, covers, rfl⟩ := makes
    refine ⟨line item "n/a" 0 :: cores, lines, ?_, ⟨?_, covers.lines⟩, ?_⟩
    · rw [coresOf_core core]
      exact .cons (coreLine item) each
    · rw [modulesOf_core core, covers.items]
    · rw [List.append_assoc, List.singleton_append]
  | error cause =>
    obtain ⟨before, last, later, lines, split, whole, made, lacks⟩ := makes
    exact ⟨before, last, later, lines, split, (modulesOf_core core).trans whole, made, lacks⟩

/-- An instance has its line, and what comes after it is told by what is found there. -/
theorem Makes.module (module : finding.item.resource.moduleId ≠ 0) (has : ModuleLine table finding made)
    (makes : Makes table items { report with modules := report.modules ++ [made] } findings outcome) :
    Makes table (finding.item :: items) report (finding :: findings) outcome := by
  cases outcome with
  | ok result =>
    obtain ⟨cores, lines, each, covers, rfl⟩ := makes
    refine ⟨cores, made :: lines, ?_, ⟨?_, .cons has covers.lines⟩, ?_⟩
    · rwa [coresOf_module module]
    · rw [modulesOf_module module, List.map_cons, covers.items]
    · rw [List.append_assoc, List.singleton_append]
  | error cause =>
    obtain ⟨before, last, later, lines, rfl, whole, each, lacks⟩ := makes
    refine ⟨finding :: before, last, later, made :: lines, rfl, ?_, .cons has each, lacks⟩
    rw [modulesOf_module module, whole, List.map_cons, List.cons_append]

/-- Nothing is looked at behind an instance that has no line. -/
theorem Lacks.makes (lacks : Lacks table finding cause) (module : finding.item.resource.moduleId ≠ 0)
    (items : List Measurement) (report : LoadReport) :
    Makes table (finding.item :: items) report [finding] (.error cause) :=
  ⟨[], finding, modulesOf items, [], rfl, modulesOf_module module, .nil, lacks⟩

end Steps

/-! ## Asking -/

section Asking

variable (connection : Connection) (transport : Transport σ)

/-- An instance that is not gone has the budget that its props tell. -/
theorem budgetOf_eq {item : Measurement} (live : item.isRemoved = false) :
    budgetOf transport item =
      (Connection.instanceProps transport item.resource).attempt >>= fun props => Action.ofExcept (budgetBy props) := by
  rw [budgetOf, live, if_neg Bool.false_ne_true]
  congr 1
  funext props
  cases props with
  | error cause => rfl
  | ok props =>
    dsimp only [budgetBy]
    cases props.budget <;> rfl

/-- An instance is asked for its props if it is not gone, and an answer that does not come is no failure. -/
theorem asks_budgetOf (item : Measurement) :
    Asks connection.limits (budgetOf transport.transcribed item) (budgetOf transport item)
      (fun budget inquiries => ∃ finding : Finding, finding.item = item ∧ inquiries = finding.inquiries ∧
        finding.budget = .ok budget)
      fun cause inquiries => ∃ finding : Finding, finding.item = item ∧ inquiries = finding.inquiries ∧
        finding.budget = .error cause := by
  cases gone : item.isRemoved with
  | true =>
    simp only [budgetOf, gone, ↓reduceIte]
    refine (asks_pure connection.limits 0).mono ?_ nofun
    rintro _ _ ⟨rfl, rfl⟩
    exact ⟨⟨item, none, by rw [gone]; rfl⟩, rfl, rfl, rfl⟩
  | false =>
    rw [budgetOf_eq transport.transcribed gone, budgetOf_eq transport gone]
    let live (props : Except Fault InstanceProps) : Finding := ⟨item, some props, by rw [gone]; rfl⟩
    refine ((asks_attempt connection transport (.props item.resource) trivial nofun).bind fun props =>
      asks_ofExcept connection.limits (budgetBy props)).mono ?_ ?_
    · rintro budget _ ⟨props, _, _, rfl, ⟨computed, rfl⟩, rfl⟩
      exact ⟨live props, rfl, rfl, computed⟩
    · rintro cause _ (no | ⟨props, _, _, rfl, ⟨computed, rfl⟩, rfl⟩)
      · exact no.elim
      · exact ⟨live props, rfl, rfl, computed⟩

/-- What is found from a measurement on, once the module table is known. -/
def Looks (entries : List ModuleEntry) (items : List Measurement) (report : LoadReport)
    (outcome : Except Fault LoadReport) (inquiries : List Inquiry) : Prop :=
  ∃ findings, inquiries = findings.flatMap Finding.inquiries ∧ Makes (.ok entries) items report findings outcome

/-- What is found behind the budget of an instance, once the module table is known. -/
def LooksOn (entries : List ModuleEntry) (item : Measurement) (budget : UInt32) (items : List Measurement)
    (report : LoadReport) (outcome : Except Fault LoadReport) (inquiries : List Inquiry) : Prop :=
  ∃ findings, inquiries = findings.flatMap Finding.inquiries ∧ ∀ finding : Finding, finding.item = item →
    finding.budget = .ok budget → Makes (.ok entries) (item :: items) report (finding :: findings) outcome

/-- Behind the budget stands the line of the instance, or the lack of an entry. -/
theorem asks_line {entries : List ModuleEntry} {item : Measurement} {items : List Measurement}
    (module : item.resource.moduleId ≠ 0) (budget : UInt32) (report : LoadReport)
    (others : ∀ report, Asks connection.limits (collect connection transport.transcribed items (some entries) report)
      (collect connection transport items (some entries) report)
      (fun result => Looks entries items report (.ok result)) fun cause => Looks entries items report (.error cause)) :
    Asks connection.limits
      (match entries.find? (·.moduleId == item.resource.moduleId) with
        | none => throw (.firmware (.noModule item.resource.moduleId))
        | some entry => collect connection transport.transcribed items (some entries)
            { report with modules := report.modules ++ [line item entry.uuidText budget] })
      (match entries.find? (·.moduleId == item.resource.moduleId) with
        | none => throw (.firmware (.noModule item.resource.moduleId))
        | some entry => collect connection transport items (some entries)
            { report with modules := report.modules ++ [line item entry.uuidText budget] })
      (fun result => LooksOn entries item budget items report (.ok result))
      fun cause => LooksOn entries item budget items report (.error cause) := by
  cases found : entries.find? (·.moduleId == item.resource.moduleId) with
  | none =>
    have missing : ∀ entry ∈ entries, entry.moduleId ≠ item.resource.moduleId := by
      simpa using List.find?_eq_none.mp found
    refine (asks_throw connection.limits _).mono nofun ?_
    rintro _ _ ⟨rfl, rfl⟩
    refine ⟨[], rfl, ?_⟩
    rintro finding rfl computed
    exact (Lacks.entry computed rfl missing).makes module items report
  | some entry =>
    have looksOn : ∀ outcome inquiries, Looks entries items
        { report with modules := report.modules ++ [line item entry.uuidText budget] } outcome inquiries →
        LooksOn entries item budget items report outcome inquiries := by
      rintro outcome _ ⟨findings, rfl, makes⟩
      refine ⟨findings, rfl, ?_⟩
      rintro finding rfl computed
      have has : ModuleLine (.ok entries) finding (line finding.item entry.uuidText budget) :=
        { instanceId := rfl, lowPower := rfl, isRemoved := rfl, peak := rfl, average := rfl,
          uuid := ⟨entries, entry, rfl, found, rfl⟩, budget := computed }
      exact makes.module module has
    exact (others _).mono (fun result => looksOn (.ok result)) fun cause => looksOn (.error cause)

/-- Once the module table is known, nothing but props is asked for. -/
theorem asks_collect_known (entries : List ModuleEntry) (items : List Measurement) : ∀ report,
    Asks connection.limits (collect connection transport.transcribed items (some entries) report)
      (collect connection transport items (some entries) report)
      (fun result => Looks entries items report (.ok result))
      fun cause => Looks entries items report (.error cause) := by
  -- along the measurements, for every report so far
  induction items with
  | nil =>
    intro report
    refine (asks_pure connection.limits report).mono ?_ nofun
    rintro _ _ ⟨rfl, rfl⟩
    exact ⟨[], rfl, makes_nothing _ _⟩
  | cons item items ih =>
    intro report
    by_cases core : item.resource.moduleId = 0
    · rw [collect, if_pos core, collect, if_pos core]
      refine (ih _).mono ?_ ?_
      · rintro result _ ⟨findings, rfl, makes⟩
        exact ⟨findings, rfl, makes.core core⟩
      · rintro cause _ ⟨findings, rfl, makes⟩
        exact ⟨findings, rfl, makes.core core⟩
    · rw [collect, if_neg core, collect, if_neg core]
      simp only [table, pure_bind]
      refine ((asks_budgetOf connection transport item).bind fun budget =>
        asks_line connection transport core budget report ih).mono ?_ ?_
      · rintro result _ ⟨budget, _, _, ⟨finding, rfl, rfl, computed⟩, ⟨findings, rfl, makes⟩, rfl⟩
        exact ⟨finding :: findings, rfl, makes finding rfl computed⟩
      · rintro cause _ (⟨finding, rfl, rfl, failed⟩ |
          ⟨budget, _, _, ⟨finding, rfl, rfl, computed⟩, ⟨findings, rfl, makes⟩, rfl⟩)
        · exact ⟨[finding], (List.append_nil _).symm, (Lacks.budget failed).makes core items report⟩
        · exact ⟨finding :: findings, rfl, makes finding rfl computed⟩

/-- The module table is asked for behind the first instance whose budget is known. -/
theorem asks_collect (items : List Measurement) : ∀ report,
    Asks connection.limits (collect connection transport.transcribed items none report)
      (collect connection transport items none report)
      (fun result inquiries => ∃ table findings, inquiries = asked table findings ∧
        Makes table items report findings (.ok result))
      fun cause inquiries => ∃ table findings, inquiries = asked table findings ∧
        Makes table items report findings (.error cause) := by
  -- along the measurements up to the first instance; what comes behind its budget has the module table
  induction items with
  | nil =>
    intro report
    refine (asks_pure connection.limits report).mono ?_ nofun
    rintro _ _ ⟨rfl, rfl⟩
    exact ⟨.ok [], [], rfl, makes_nothing _ _⟩
  | cons item items ih =>
    intro report
    by_cases core : item.resource.moduleId = 0
    · rw [collect, if_pos core, collect, if_pos core]
      refine (ih _).mono ?_ ?_
      · rintro result _ ⟨table, findings, rfl, makes⟩
        exact ⟨table, findings, rfl, makes.core core⟩
      · rintro cause _ ⟨table, findings, rfl, makes⟩
        exact ⟨table, findings, rfl, makes.core core⟩
    · rw [collect, if_neg core, collect, if_neg core]
      refine ((asks_budgetOf connection transport item).bind fun budget =>
        ((asks_put connection transport .modules trivial nofun).mapError _).bind fun entries =>
          asks_line connection transport core budget report
            (asks_collect_known connection transport entries items)).mono ?_ ?_
      · rintro result _ ⟨budget, _, _, ⟨finding, rfl, rfl, computed⟩,
          ⟨entries, _, _, rfl, ⟨findings, rfl, makes⟩, rfl⟩, rfl⟩
        exact ⟨.ok entries, finding :: findings, (asked_of_ok computed).symm, makes finding rfl computed⟩
      -- the budget, the module table, or what comes behind both
      · rintro cause _ (⟨finding, rfl, rfl, failed⟩ | ⟨budget, _, _, ⟨finding, rfl, rfl, computed⟩,
          ⟨reason, rfl, rfl⟩ | ⟨entries, _, _, rfl, ⟨findings, rfl, makes⟩, rfl⟩, rfl⟩)
        · exact ⟨.ok [], [finding], (asked_of_error failed).symm, (Lacks.budget failed).makes core items report⟩
        · refine ⟨.error reason, [finding], ?_, (Lacks.table computed rfl).makes core items report⟩
          rw [asked_of_ok computed]
          rfl
        · exact ⟨.ok entries, finding :: findings, (asked_of_ok computed).symm, makes finding rfl computed⟩

end Asking

/-! ## Reporting -/

theorem ModuleLine.not_lacks {table : Except Fault (List ModuleEntry)} {finding : Finding} {made : LoadItem}
    {cause : Fault} (has : ModuleLine table finding made) : ¬ Lacks table finding cause := by
  obtain ⟨entries, entry, fetched, found, -⟩ := has.uuid
  rintro (failed | ⟨-, failed⟩ | ⟨-, fetched', missing⟩)
  · cases has.budget.symm.trans failed
  · cases fetched.symm.trans failed
  · cases fetched.symm.trans fetched'
    exact missing entry (List.mem_of_find?_eq_some found) (by simpa using List.find?_some found)

/-- A report fails at an instance exactly if something lacks for its line. -/
theorem Makes.error_iff {table : Except Fault (List ModuleEntry)} {items : List Measurement} {report : LoadReport}
    {findings : List Finding} {outcome : Except Fault LoadReport} (makes : Makes table items report findings outcome) :
    (∃ cause, outcome = .error cause) ↔ ∃ finding ∈ findings, ∃ cause, Lacks table finding cause := by
  cases outcome with
  | ok result =>
    obtain ⟨cores, lines, -, covers, -⟩ := makes
    have whole : ∀ finding ∈ findings, ¬ ∃ cause, Lacks table finding cause :=
      ((List.forall₂_and_left _ _).mp (covers.lines.imp fun _ _ has =>
        ⟨fun ⟨_, lacks⟩ => has.not_lacks lacks, has⟩)).1
    refine iff_of_false (fun ⟨cause, failed⟩ => nomatch failed) ?_
    rintro ⟨finding, member, lacks⟩
    exact whole finding member lacks
  | error cause =>
    obtain ⟨before, last, later, lines, rfl, -, -, lacks⟩ := makes
    exact iff_of_true ⟨cause, rfl⟩ ⟨last, List.mem_append_right _ List.mem_cons_self, cause, lacks⟩

/-- What a report comes to. Either there are no measurements, or every core has its line, and every instance up to the
first one for which something lacks. -/
inductive Ends : Except Fault LoadReport → List Inquiry → Prop where
  | unmeasured (cause : Fault) :
    Ends (.error (.inContext "When getting perf items from firmware" cause)) [⟨.measurements, .error cause⟩]
  | measured {outcome : Except Fault LoadReport} (items : List Measurement) (table : Except Fault (List ModuleEntry))
    (findings : List Finding) (makes : Makes table items empty findings outcome) :
    Ends outcome (⟨.measurements, .ok items⟩ :: asked table findings)

variable (connection : Connection) (transport : Transport σ)

/-- With a limit, a report begins with the measurements. -/
theorem fetch_of_lt (fits : connection.limits.instances.toNat + connection.limits.cores.toNat < 2 ^ 32) :
    fetch connection transport = (do
      let items ← Action.mapError (Fault.inContext "When getting perf items from firmware")
        (connection.measurements transport)
      collect connection transport items none empty) := by
  rw [fetch, Connection.measurements_of_lt transport fits, Limits.measurements_of_lt fits]
  rfl

theorem asks_fetch (fits : connection.limits.instances.toNat + connection.limits.cores.toNat < 2 ^ 32) :
    Asks connection.limits (fetch connection transport.transcribed) (fetch connection transport)
      (fun report => Ends (.ok report)) fun cause => Ends (.error cause) := by
  rw [fetch_of_lt connection transport.transcribed fits, fetch_of_lt connection transport fits]
  refine (((asks_put connection transport .measurements trivial fun _ => fits).mapError _).bind fun items =>
    asks_collect connection transport items empty).mono ?_ ?_
  · rintro report _ ⟨items, _, _, rfl, ⟨table, findings, rfl, makes⟩, rfl⟩
    exact .measured items table findings makes
  · rintro _ _ (⟨cause, rfl, rfl⟩ | ⟨items, _, _, rfl, ⟨table, findings, rfl, makes⟩, rfl⟩)
    · exact .unmeasured cause
    · exact .measured items table findings makes

/-- Whatever the transport answers, and with or without a transcript, a report asks for the measurements, for the
props of the instances in order, and at most once for the module table. If it succeeds, every core and every instance
that was measured has its line, in order; it fails exactly if there are no measurements, or at the first instance whose
budget cannot be computed, or for which the module table is missing or has no entry. -/
theorem report_covers_items (fits : connection.limits.instances.toNat + connection.limits.cores.toNat < 2 ^ 32)
    (state : σ) :
    let outcome := (fetch connection transport.transcribed).run ⟨state, []⟩
    let original := (fetch connection transport).run state
    outcome.1 = original.1 ∧ outcome.2.state = original.2 ∧
      ∃ inquiries, List.Forall₂ (Inquiry.Leaves connection.limits) inquiries outcome.2.exchanges ∧
        ((∃ cause, inquiries = [⟨.measurements, .error cause⟩] ∧
            outcome.1 = .error (.inContext "When getting perf items from firmware" cause)) ∨
          ∃ items table findings, inquiries = ⟨.measurements, .ok items⟩ :: asked table findings ∧
            (∀ report, outcome.1 = .ok report → List.Forall₂ CoreLine (coresOf items) report.cores ∧
              Covers table items findings report.modules) ∧
            (∀ cause, outcome.1 = .error cause → StopsAt table items findings cause) ∧
            ((∃ cause, outcome.1 = .error cause) ↔ ∃ finding ∈ findings, ∃ cause, Lacks table finding cause)) := by
  intro outcome original
  obtain ⟨same, after, inquiries, left, ends⟩ := (asks_fetch connection transport fits).run state
  refine ⟨same, after, inquiries, left, ?_⟩
  change Ends outcome.1 inquiries at ends
  generalize outcome.1 = result at ends
  cases ends with
  | unmeasured cause => exact .inl ⟨cause, rfl, rfl⟩
  | measured items table findings makes =>
    refine .inr ⟨items, table, findings, rfl, ?_, ?_, makes.error_iff⟩
    · rintro report rfl
      obtain ⟨cores, lines, each, covers, rfl⟩ := makes
      exact ⟨each, covers⟩
    · rintro cause rfl
      exact makes

/-- Firmware that measured a core, an instance that is gone, and an instance that does not answer. -/
def measuring : Transport Unit where
  query _ parameter _ := fun _ =>
    if parameter = .ofBase .measurements then
      .ok (Wire.write [Measurement.of ⟨0, 0⟩ false false 9 8, .of ⟨5, 1⟩ false true 7 6, .of ⟨5, 2⟩ true false 5 4]) ()
    else if parameter = .ofBase .moduleTable then .ok (Wire.write [ModuleEntry.named 1 [], .named 5 []]) ()
    else .error (.system "no reply") ()
  configure _ _ _ := fun _ => .ok () ()

theorem measuring_covered :
    sampleConnection.limits.instances.toNat + sampleConnection.limits.cores.toNat < 2 ^ 32 ∧
    ∃ report items table findings, (fetch sampleConnection measuring).run () = (.ok report, ()) ∧
      report.cores.length = 1 ∧ report.modules.map (·.budget) = [0, 0] ∧
      List.Forall₂ CoreLine (coresOf items) report.cores ∧ Covers table items findings report.modules := by
  have fits : sampleConnection.limits.instances.toNat + sampleConnection.limits.cores.toNat < 2 ^ 32 := by decide
  have reported : (fetch sampleConnection measuring).Yields ()
      (fun report _ => report.cores.length = 1 ∧ report.modules.map (·.budget) = [0, 0]) fun _ _ => False := by
    decide +kernel
  obtain ⟨report, _, ran, cores, budgets⟩ := reported.exists_ok
  have ok := Action.run_of_ok ran
  obtain ⟨same, -, inquiries, -, ⟨cause, -, failed⟩ | ⟨items, table, findings, -, covered, -⟩⟩ :=
    report_covers_items sampleConnection measuring fits ()
  · cases (same.trans ok).symm.trans failed
  · obtain ⟨each, covers⟩ := covered report (same.trans ok)
    exact ⟨fits, report, items, table, findings, Prod.ext ok rfl, cores, budgets, each, covers⟩

end DspInspector.LoadReport
