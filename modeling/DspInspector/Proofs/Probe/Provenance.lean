import DspInspector.Proofs.Probe.Custody
import DspInspector.Proofs.Probe.Scripted

/-!
# Where injected samples come from

However clients, workers and calls that configure, start and stop a session take turns, what an injection
worker writes is, silence apart, made of blocks that were pushed to its channel (`origin_of_injected`). They
are of its session and for its slot if they were accepted while a worker was there for the queue, and if the
probes were still those that its client had asked about. Neither can be left out: a block that gets in
between the emptying and the closing of a queue is injected by the next session (`stale_block_injected`), and
one that was meant for a slot of an earlier configuration goes to the slot that has the channel now
(`misdirected_block_injected`).
-/

namespace DspInspector

open DspInspector.Action
open Prober (Assigned)

variable {δ : Type}

namespace Floor

variable {floor : Floor δ} {driver : ProbeDevice δ}

/-! ## Runs -/

/-- Between two calls all that is recorded is right and no worker is halfway. -/
structure Tidy (floor : Floor δ) : Prop where
  traced : floor.Traced
  alone : floor.starting = none
  idle : floor.busy = false

theorem Tidy.during (tidy : floor.Tidy) (script : List (List Move)) {action : Action ProbeError (Floor δ) Unit}
    (yields : ∀ {floor : Floor δ}, floor.Going → floor.Staffed → action.Yields floor
      (fun _ after => after.Going ∧ after.Staffed) (fun _ after => after.Going ∧ after.Staffed)) :
    (floor.during script action).Tidy := by
  have staffed : Staffed { floor with busy := true, script } := tidy.traced.staffed tidy.idle
  have going : Going { floor with busy := true, script } := by
    refine ⟨⟨tidy.traced.setup, tidy.traced.waiting, ⟨tidy.traced.stocked.items, tidy.traced.stocked.held,
      tidy.traced.stocked.attended⟩, tidy.traced.crew, tidy.traced.starting, tidy.traced.retired, nofun⟩,
      tidy.alone, rfl⟩
  obtain ⟨⟨traced, alone, -⟩, staffed⟩ := (yields going staffed).run
  exact ⟨⟨traced.setup, traced.waiting, ⟨traced.stocked.items, traced.stocked.held, traced.stocked.attended⟩,
    traced.crew, traced.starting, traced.retired, fun _ => staffed⟩, alone, rfl⟩

theorem Tidy.lookUp (tidy : floor.Tidy) (slot : Nat) (block : List UInt8) : (floor.lookUp slot block).Tidy := by
  unfold Floor.lookUp
  split
  · rename_i channel queue found
    refine ⟨⟨tidy.traced.setup, fun ticket member => ?_, ⟨tidy.traced.stocked.items, tidy.traced.stocked.held,
      tidy.traced.stocked.attended⟩, tidy.traced.crew, tidy.traced.starting, tidy.traced.retired,
      tidy.traced.staffed⟩, tidy.alone, tidy.idle⟩
    rcases List.mem_append.mp member with earlier | new
    · exact tidy.traced.waiting ticket earlier
    · rw [List.mem_singleton.mp new]
      exact Prober.Setup.Sound.assigned tidy.traced.setup (Prober.queueOf_eq_ok found).1
  · exact tidy

theorem Tidy.afterCall (tidy : floor.Tidy) (call : FloorCall) : (floor.afterCall driver call).Tidy := by
  cases call with
  | moves moves =>
    obtain ⟨traced, undisturbed⟩ := traced_foldl moves tidy.traced
    refine ⟨traced, ?_, undisturbed.busy.trans tidy.idle⟩
    have same := undisturbed.starting
    rw [tidy.alone] at same
    exact Option.map_eq_none_iff.mp same
  | lookUp slot block => exact tidy.lookUp slot block
  | configure probes sampleSizes script =>
    exact tidy.during script fun going staffed => yields_configure going staffed probes sampleSizes
  | setActive active script => exact tidy.during script fun going staffed => yields_setActive going staffed active

theorem Tidy.afterAll (calls : List FloorCall) :
    ∀ {floor : Floor δ}, floor.Tidy → (floor.afterAll driver calls).Tidy := by
  induction calls with
  | nil => exact fun tidy => tidy
  | cons call calls ih => exact fun tidy => ih (tidy.afterCall call)

theorem tidy_create (driver : ProbeDevice δ) (device : δ) (queueBytes : Nat) :
    (ofProber (Prober.create driver device queueBytes)).Tidy := by
  have empty (channel : Nat) : ((Prober.create driver device queueBytes).injectionQueue channel).items = [] ∧
      ((Prober.create driver device queueBytes).injectionQueue channel).isOpen = false := by
    unfold Prober.injectionQueue
    rw [List.getD_eq_getElem?_getD]
    cases there : (Prober.create driver device queueBytes).injectionQueues[channel]? with
    | none => exact ⟨rfl, rfl⟩
    | some queue =>
      have new := List.eq_of_mem_replicate (List.mem_of_getElem? there)
      subst new
      exact ⟨rfl, rfl⟩
  refine ⟨⟨Prober.sound_create device queueBytes, nofun, ⟨fun channel => (empty channel).1, nofun, nofun⟩, .nil,
    nofun, nofun, fun _ channel isOpen => ?_⟩, rfl, rfl⟩
  exact absurd (isOpen.symm.trans (empty channel).2) (by decide)

theorem Tidy.sound (tidy : floor.Tidy) {post : Post} (member : post ∈ floor.posts) : post.Sound := by
  unfold posts at member
  rw [tidy.alone, List.mem_append, List.mem_append] at member
  rcases member with (gone | there) | starting
  · exact tidy.traced.retired post gone
  · obtain ⟨place, inside, isPost⟩ := List.getElem_of_mem there
    have crew := tidy.traced.crew
    have inside' : place < floor.prober.injectors.length := crew.length_eq ▸ inside
    have manned := crew.get inside' inside
    exact isPost ▸ manned.sound
  · cases starting

/-- Whoever does what when: what an injection worker writes is, silence apart, the blocks it took in their
order, and each block was meant for a slot that had the channel. It is the slot of the worker as long as the
probes are the same. If a worker was there when the block was accepted, the queue was not closed until the
block was taken; and one was, unless the session was just being configured, started or stopped. -/
theorem origin_of_injected (driver : ProbeDevice δ) (device : δ) (queueBytes : Nat) (calls : List FloorCall) :
    ∀ post ∈ (afterAll driver (ofProber (Prober.create driver device queueBytes)) calls).posts,
      Assigned post.probes post.slot post.channel ∧
      (∃ (portions : List Portion) (rest : List UInt8), post.writes = portions.map Portion.bytes ∧
        portions.flatMap Portion.host ++ rest = post.taken.flatMap (·.ticket.block)) ∧
      ∀ admission ∈ post.taken,
        admission.ticket.channel = post.channel ∧
        Assigned admission.ticket.probes admission.ticket.slot post.channel ∧
        (admission.ticket.probes = post.probes → admission.ticket.slot = post.slot) ∧
        (admission.attended = true → admission.period = post.period) ∧
        (admission.quiet = true → admission.attended = true) := by
  intro post member
  have tidy : (afterAll driver (ofProber (Prober.create driver device queueBytes)) calls).Tidy :=
    Tidy.afterAll calls (tidy_create driver device queueBytes)
  obtain ⟨assigned, taken, rest, portions, writes, spelled⟩ := tidy.sound member
  refine ⟨assigned, ⟨portions, rest, writes, spelled⟩, fun admission member => ?_⟩
  obtain ⟨target, mine, current, quiet⟩ := taken admission member
  refine ⟨target, mine, fun same => ?_, current, quiet⟩
  rw [same] at mine
  exact mine.injective assigned

/-- A floor where one channel can inject, with room for two bytes in its queue. -/
def sampleFloor (calls : List FloorCall) : Floor ScriptedProbeDevice :=
  afterAll ScriptedProbeDevice.driver (ofProber (Prober.create ScriptedProbeDevice.driver
    { script := { extractionChannels := 1, injectionChannels := 1, sinkSize := 2 } } 2)) calls

/-- A session that injects at one point. -/
def sampleStart (script : List (List Move)) : List FloorCall :=
  [.configure [⟨true, ⟨5⟩, .inject⟩, .disabled] (.ofList [(0, 1)]) [], .setActive true script]

/-- The worker of a session to which a client has pushed a block of one byte. -/
def samplePost : Post where
  slot := 0
  channel := 0
  probes := [⟨true, ⟨5⟩, .inject⟩, .disabled]
  period := 2
  taken := [⟨⟨0, [0xAA], 0, [⟨true, ⟨5⟩, .inject⟩, .disabled]⟩, 2, true, true⟩]
  writes := [[0, 0], [0xAA, 0]]

theorem origin_of_sample :
    samplePost ∈ (sampleFloor (sampleStart [] ++
      [.lookUp 0 [0xAA], .moves [.push 0, .grant (.available 2) 0]])).posts ∧
    ∀ admission ∈ samplePost.taken,
      admission.period = samplePost.period ∧ admission.ticket.slot = samplePost.slot := by
  have member : samplePost ∈ (sampleFloor (sampleStart [] ++
      [.lookUp 0 [0xAA], .moves [.push 0, .grant (.available 2) 0]])).posts := by decide +kernel
  obtain ⟨-, -, origin⟩ := origin_of_injected ScriptedProbeDevice.driver _ 2 _ samplePost member
  refine ⟨member, fun admission taken => ?_⟩
  obtain ⟨-, -, slot, current, quiet⟩ := origin admission taken
  have isSample := List.mem_singleton.mp taken
  exact ⟨current (quiet (isSample ▸ rfl)), slot (isSample ▸ rfl)⟩

/-- A client waits for room. It gets its block in when the session is stopped: its turn comes after the
queue was emptied and before it is closed. Then another session is started. -/
def staleCalls : List FloorCall :=
  sampleStart [] ++
    [.lookUp 0 [0xAA, 0xAB], .lookUp 0 [0xBB], .moves [.push 0, .push 0], .setActive false [[], [], [.push 0]],
      .setActive true []]

/-- The other session injects the block, although the queue was closed in between. -/
theorem stale_block_injected :
    ∃ post ∈ (sampleFloor staleCalls).posts, post.writes = [[0xBB, 0]] ∧
      ∃ admission ∈ post.taken, admission.ticket.block = [0xBB] ∧ admission.period < post.period := by
  decide +kernel

/-- A client looks its channel up, and before it pushes its block the channel is given to another slot. -/
def misdirectedCalls : List FloorCall :=
  sampleStart [] ++
    [.lookUp 0 [0xAA], .setActive false [],
      .configure [.disabled, ⟨true, ⟨6⟩, .inject⟩] (.ofList [(1, 1)]) [], .setActive true [],
      .moves [.push 0, .grant (.available 2) 0]]

/-- The block is injected at the point of the other slot, although everything else is in order. -/
theorem misdirected_block_injected :
    ∃ post ∈ (sampleFloor misdirectedCalls).posts, post.writes = [[0, 0], [0xAA, 0]] ∧
      ∃ admission ∈ post.taken, admission.ticket.block = [0xAA] ∧ admission.ticket.slot ≠ post.slot ∧
        admission.period = post.period ∧ admission.attended = true ∧ admission.quiet = true := by
  decide +kernel

end Floor

end DspInspector
