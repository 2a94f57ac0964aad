import DspInspector.Probe.Injector

/-!
# Probe devices

What the driver offers for probing: a service that is taken through its stages, two rows of channels
that can be programmed, and the streams behind them.
-/

namespace DspInspector

/-- A probe driver, as actions on its state `δ`. -/
structure ProbeDevice (δ : Type) where
  /-- The number of channels of each flow. -/
  channels : Flow → δ → Nat
  stage : Action ProbeError δ Stage
  /-- Takes the service from a stage to a neighbouring one. -/
  move : (source target : Stage) → Action ProbeError δ Unit
  /-- Tells a channel which probe it serves. -/
  program : Flow → (channel : Nat) → Probe → Action ProbeError δ Unit
  openExtraction : Action ProbeError δ Unit
  openInjection : (channel : Nat) → Action ProbeError δ (Sink δ)

end DspInspector
