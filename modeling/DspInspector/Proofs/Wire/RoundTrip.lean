import DspInspector.Proofs.Wire.Layout

/-!
# Reading undoes writing

Every type that travels is read back from its bytes: `read_written` says it for all layouts, canonical
values and surroundings. The records without lists or enumerations are faithful arrangements of tuples,
the others are echoed where their parts are. A packet is the one type whose reader can refuse what it
has read; it accepts the sync word and the sum that it wrote itself.
-/

namespace DspInspector

open Wire

/-! ## Records whose values are all canonical -/

instance : Faithful FirmwareVersion := faithful_via fun _ => rfl
instance : Faithful DmaBuffer := faithful_via fun _ => rfl
instance : Faithful InstanceId := faithful_via fun _ => rfl
instance : Faithful ConnectorId := faithful_via fun _ => rfl
instance : Faithful Gateway := faithful_via fun _ => rfl
instance : Faithful Segment := faithful_via fun _ => rfl
instance : Faithful Measurement := faithful_via fun _ => rfl
instance : Faithful ProbePoint := faithful_via fun _ => rfl
instance : Faithful MessageHeader := faithful_via fun _ => rfl
instance : Faithful TunnelHeader := faithful_via fun _ => rfl

/-! ## Records with enumerations and lists -/

theorem AudioFormat.echoed {format : AudioFormat} (canonical : format.Canonical) : Echoed format := by
  have byte : format.sampleType.raw.toUInt8.toUInt32 = format.sampleType.raw := by
    have small := UInt32.lt_iff_toNat_lt.mp canonical.sampleByte
    apply UInt32.toNat_inj.mp
    rw [UInt8.toNat_toUInt32, UInt32.toNat_toUInt8]
    exact Nat.mod_eq_of_lt small
  refine echoed_via ?_ ?_
  · refine echoed_pair (Faithful.echoed _) (echoed_pair (Faithful.echoed _)
      (echoed_pair (Faithful.echoed _) (echoed_pair (Coded.echoed canonical.channelConfig)
        (echoed_pair (Coded.echoed canonical.interleaving) (Faithful.echoed _)))))
  · show AudioFormat.mk _ _ _ _ _ _ _ (Coded.ofRaw format.sampleType.raw.toUInt8.toUInt32) _ = format
    rw [byte, Coded.ofRaw_raw canonical.sampleType]

theorem Pin.echoed {pin : Pin} (canonical : pin.Canonical) : Echoed pin :=
  echoed_via (echoed_pair (Coded.echoed canonical.streamType)
    (echoed_pair (AudioFormat.echoed canonical.format) (Faithful.echoed pin.queueId))) rfl

theorem I2sCapabilities.echoed {caps : I2sCapabilities} (canonical : caps.Canonical) : Echoed caps :=
  echoed_via (echoed_pair (Faithful.echoed caps.version) (echoed_list_of_faithful canonical)) rfl

theorem GpdmaCapabilities.echoed {caps : GpdmaCapabilities} (canonical : caps.Canonical) : Echoed caps :=
  echoed_via (echoed_pair (echoed_list_of_faithful canonical.lowPowerGateways)
    (echoed_list_of_faithful canonical.highPowerGateways)) rfl

theorem BankState.echoed {bank : BankState} (canonical : bank.Canonical) : Echoed bank :=
  echoed_via (echoed_pair (Faithful.echoed bank.freePages)
    (echoed_pair (echoed_list_of_faithful canonical.blockStates)
      (echoed_list_of_faithful canonical.pageAllocation))) rfl

theorem ScheduledTask.echoed {task : ScheduledTask} (canonical : task.Canonical) : Echoed task :=
  echoed_via (echoed_pair (Faithful.echoed task.id) (echoed_list_of_faithful canonical)) rfl

theorem Scheduler.echoed {scheduler : Scheduler} (canonical : scheduler.Canonical) : Echoed scheduler := by
  have tasks : Echoed scheduler.tasks := echoed_list canonical.taskCount fun task member =>
    ScheduledTask.echoed (canonical.tasks task member)
  exact echoed_via (echoed_pair (Faithful.echoed scheduler.processingDomain)
    (echoed_pair (Faithful.echoed scheduler.coreId) tasks)) rfl

theorem CoreSchedule.echoed {core : CoreSchedule} (canonical : core.Canonical) : Echoed core :=
  echoed_via (echoed_list canonical.schedulerCount fun scheduler member =>
    Scheduler.echoed (canonical.schedulers scheduler member)) rfl

theorem Pipeline.echoed {pipeline : Pipeline} (canonical : pipeline.Canonical) : Echoed pipeline := by
  have lists : Echoed (pipeline.instances, pipeline.llTasks, pipeline.dpTasks) :=
    echoed_pair (echoed_list_of_faithful canonical.instances)
      (echoed_pair (echoed_list_of_faithful canonical.llTasks)
        (echoed_list_of_faithful canonical.dpTasks))
  refine echoed_via ?_ rfl
  iterate 6 refine echoed_pair (Faithful.echoed _) ?_
  exact lists

theorem InstanceProps.echoed {props : InstanceProps} (canonical : props.Canonical) : Echoed props := by
  have inputs : Echoed props.inputPins := echoed_list canonical.inputCount fun pin member =>
    Pin.echoed (canonical.inputPins pin member)
  have outputs : Echoed props.outputPins := echoed_list canonical.outputCount fun pin member =>
    Pin.echoed (canonical.outputPins pin member)
  have tail : Echoed (props.inputPins, props.outputPins, props.inputGateway, props.outputGateway) :=
    echoed_pair inputs (echoed_pair outputs (Faithful.echoed _))
  refine echoed_via ?_ rfl
  iterate 11 refine echoed_pair (Faithful.echoed _) ?_
  exact tail

theorem Digest.echoed {digest : Digest} (canonical : digest.Canonical) : Echoed digest := by
  intro rest
  have written : (Wire.write digest : List UInt8) = digest.bytes := by
    show (digest.bytes ++ List.replicate size 0).take size = digest.bytes
    exact List.take_left' canonical
  have enough : size ≤ (digest.bytes ++ rest).length := by
    rw [List.length_append, canonical]
    omega
  rw [written]
  refine (Decoder.bind_ok (Decoder.take_of_le enough)).trans ?_
  rw [List.take_left' canonical, List.drop_left' canonical]
  rfl

theorem ModuleEntry.echoed {entry : ModuleEntry} (canonical : entry.Canonical) : Echoed entry := by
  refine echoed_via ?_ rfl
  iterate 5 refine echoed_pair (Faithful.echoed _) ?_
  exact echoed_pair (Digest.echoed canonical) (Faithful.echoed _)

/-- The reader meets the sync word and the sum that the writer gave. -/
theorem Packet.echoed {packet : Packet} (canonical : packet.Canonical) : Echoed packet := by
  intro rest
  have fields : Echoed (packet.point, packet.format, packet.clockHigh, packet.clockLow, packet.data) := by
    iterate 4 refine echoed_pair (Faithful.echoed _) ?_
    exact echoed_list_of_faithful canonical
  have sync : ∀ later : List UInt8, readSync (Wire.write syncWord ++ later) = .ok () later := by
    intro later
    refine (Decoder.bind_ok (Faithful.echoed syncWord later)).trans ?_
    rw [if_pos rfl]
    rfl
  have written : (Wire.write packet : List UInt8) ++ rest = Wire.write syncWord ++
      (Wire.write (packet.point, packet.format, packet.clockHigh, packet.clockLow, packet.data) ++
        (Wire.write packet.checksum ++ rest)) := by
    show (Wire.write syncWord ++ Wire.write _) ++ Wire.write packet.checksum ++ rest = _
    simp only [List.append_assoc]
  rw [written]
  refine (Decoder.bind_ok (sync _)).trans ?_
  refine (Decoder.bind_ok (fields _)).trans ?_
  refine (Decoder.bind_ok (Faithful.echoed packet.checksum rest)).trans ?_
  show (if packet.checksum = packet.checksum then (pure packet : Decoder Packet) else _) rest = _
  rw [if_pos rfl]
  rfl

/-! ## All layouts -/

/-- The canonical values of every layout are echoed, by induction over arrays and lists. -/
theorem Layout.echoed (layout : Layout) : ∀ value : layout.Value, layout.Canonical value → Echoed value := by
  induction layout with
  | array length item ih =>
    intro values canonical
    exact echoed_vector fun value member => ih value (canonical value member)
  | list item ih =>
    intro values canonical
    exact echoed_list canonical.1 fun value member => ih value (canonical.2 value member)
  | enumeration name => exact fun _ canonical => Coded.echoed canonical
  | audioFormat => exact fun _ canonical => AudioFormat.echoed canonical
  | pin => exact fun _ canonical => Pin.echoed canonical
  | instanceProps => exact fun _ canonical => InstanceProps.echoed canonical
  | pipeline => exact fun _ canonical => Pipeline.echoed canonical
  | scheduledTask => exact fun _ canonical => ScheduledTask.echoed canonical
  | scheduler => exact fun _ canonical => Scheduler.echoed canonical
  | coreSchedule => exact fun _ canonical => CoreSchedule.echoed canonical
  | bankState => exact fun _ canonical => BankState.echoed canonical
  | i2sCapabilities => exact fun _ canonical => I2sCapabilities.echoed canonical
  | gpdmaCapabilities => exact fun _ canonical => GpdmaCapabilities.echoed canonical
  | moduleEntry => exact fun _ canonical => ModuleEntry.echoed canonical
  | packet => exact fun _ canonical => Packet.echoed canonical
  | u8 | u16 | u32 | u64 | i8 | i16 | i32 | i64 | firmwareVersion | dmaBuffer | instanceId | connectorId
  | gateway | segment | measurement | probePoint | messageHeader | tunnelHeader =>
    exact fun value _ => Faithful.echoed value

/-- Wherever the bytes of a canonical value stand in a buffer, reading its type there gives the value
back and stops behind them. -/
theorem read_written (layout : Layout) (value : layout.Value) (canonical : layout.Canonical value)
    (before rest : List UInt8) :
    let buffer := before ++ layout.wire.write value ++ rest
    (Cursor.mk buffer before.length).read layout.wire.read =
      (.ok value, ⟨buffer, before.length + (layout.wire.write value).length⟩) :=
  (layout.echoed value canonical).read_cursor before rest

/-- A pin of a newer firmware: its stream type and sample encoding have no name. -/
def unnamedPin : Pin :=
  ⟨.unknown 7, { AudioFormat.standard with sampleType := .unknown 200 }, 3⟩

theorem read_written_unnamedPin :
    let layout := Layout.list .pin
    let buffer := [0xAA] ++ layout.wire.write [unnamedPin] ++ [0xBB, 0xCC]
    layout.Canonical [unnamedPin] ∧
      (Cursor.mk buffer 1).read layout.wire.read = (.ok [unnamedPin], ⟨buffer, 37⟩) := by
  have format : unnamedPin.format.Canonical := by
    refine ⟨trivial, trivial, ?_, by decide⟩
    intro member
    cases member <;> decide
  have pin : unnamedPin.Canonical := by
    refine ⟨?_, format⟩
    intro member
    cases member <;> decide
  have canonical : (Layout.list .pin).Canonical [unnamedPin] := by
    refine ⟨by show 1 < UInt32.size; decide, ?_⟩
    intro value member
    rw [List.mem_singleton.mp member]
    exact pin
  exact ⟨canonical, read_written (.list .pin) [unnamedPin] canonical [0xAA] [0xBB, 0xCC]⟩

end DspInspector
