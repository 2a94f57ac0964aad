import DspInspector.Capability.Firmware
import DspInspector.Capability.Hardware
import DspInspector.Capability.Limits
import DspInspector.Capability.Memory
import DspInspector.Control.Connection
import DspInspector.Control.CorePower
import DspInspector.Control.DebugFs
import DspInspector.Control.Image
import DspInspector.Control.Message
import DspInspector.Control.Scripted
import DspInspector.Control.Simulation
import DspInspector.Control.Transport
import DspInspector.Data.Action
import DspInspector.Data.OrderedMap
import DspInspector.Description.Assembly
import DspInspector.Description.Catalogue
import DspInspector.Description.Control
import DspInspector.Description.Fault
import DspInspector.Description.Firmware
import DspInspector.Description.Graph
import DspInspector.Description.Probe
import DspInspector.Description.Settings
import DspInspector.Description.WireType
import DspInspector.Fault
import DspInspector.Graph.Gateway
import DspInspector.Graph.Link
import DspInspector.Graph.Pipeline
import DspInspector.Graph.Publication
import DspInspector.Graph.Schedule
import DspInspector.Graph.Snapshot
import DspInspector.Graph.Topology
import DspInspector.Json.Document
import DspInspector.Json.Read
import DspInspector.Load.Budget
import DspInspector.Load.Measurement
import DspInspector.Load.Report
import DspInspector.Main
import DspInspector.Module.AudioFormat
import DspInspector.Module.Entry
import DspInspector.Module.Id
import DspInspector.Module.Instance
import DspInspector.Module.Parameter
import DspInspector.Probe.Device
import DspInspector.Probe.Error
import DspInspector.Probe.Event
import DspInspector.Probe.Extractor
import DspInspector.Probe.Feeder
import DspInspector.Probe.Injector
import DspInspector.Probe.Lifecycle
import DspInspector.Probe.Packet
import DspInspector.Probe.Point
import DspInspector.Probe.Prober
import DspInspector.Probe.Queue
import DspInspector.Probe.Router
import DspInspector.Probe.Scripted
import DspInspector.Probe.Service
import DspInspector.Probe.Session
import DspInspector.Probe.Waiting
import DspInspector.Program
import DspInspector.Proofs.Capability.Responses
import DspInspector.Proofs.Control.Accesses
import DspInspector.Proofs.Control.Announcements
import DspInspector.Proofs.Control.Calls
import DspInspector.Proofs.Control.Counts
import DspInspector.Proofs.Control.Establishing
import DspInspector.Proofs.Control.Excess
import DspInspector.Proofs.Control.Inquiries
import DspInspector.Proofs.Control.Questions
import DspInspector.Proofs.Control.Replies
import DspInspector.Proofs.Control.Requests
import DspInspector.Proofs.Control.Rooms
import DspInspector.Proofs.Control.Simulated
import DspInspector.Proofs.Control.Transcripts
import DspInspector.Proofs.Control.Votes
import DspInspector.Proofs.Data.BitFields
import DspInspector.Proofs.Data.Maps
import DspInspector.Proofs.Data.Outcomes
import DspInspector.Proofs.Graph.Acquisition
import DspInspector.Proofs.Graph.Agenda
import DspInspector.Proofs.Graph.Conservation
import DspInspector.Proofs.Graph.Fifo
import DspInspector.Proofs.Graph.Peers
import DspInspector.Proofs.Graph.Priority
import DspInspector.Proofs.Graph.Publications
import DspInspector.Proofs.Graph.Relinking
import DspInspector.Proofs.Graph.Relisting
import DspInspector.Proofs.Graph.Resolution
import DspInspector.Proofs.Graph.Snapshots
import DspInspector.Proofs.Load.Reports
import DspInspector.Proofs.Module.Uuid
import DspInspector.Proofs.Probe.Alignment
import DspInspector.Proofs.Probe.Buffering
import DspInspector.Proofs.Probe.Cancelling
import DspInspector.Proofs.Probe.Channels
import DspInspector.Proofs.Probe.Chunking
import DspInspector.Proofs.Probe.Custody
import DspInspector.Proofs.Probe.Deliveries
import DspInspector.Proofs.Probe.Feeding
import DspInspector.Proofs.Probe.Floor
import DspInspector.Proofs.Probe.Frozen
import DspInspector.Proofs.Probe.Honest
import DspInspector.Proofs.Probe.HostBytes
import DspInspector.Proofs.Probe.Ledger
import DspInspector.Proofs.Probe.Mirrors
import DspInspector.Proofs.Probe.PacketLayout
import DspInspector.Proofs.Probe.Peeking
import DspInspector.Proofs.Probe.PointFields
import DspInspector.Proofs.Probe.Programming
import DspInspector.Proofs.Probe.Provenance
import DspInspector.Proofs.Probe.Pushes
import DspInspector.Proofs.Probe.QueueHistory
import DspInspector.Proofs.Probe.Quiet
import DspInspector.Proofs.Probe.Reassembly
import DspInspector.Proofs.Probe.Refusals
import DspInspector.Proofs.Probe.Rollback
import DspInspector.Proofs.Probe.Runs
import DspInspector.Proofs.Probe.SampleSizes
import DspInspector.Proofs.Probe.SinkCalls
import DspInspector.Proofs.Probe.Slots
import DspInspector.Proofs.Probe.Sourcing
import DspInspector.Proofs.Probe.Steps
import DspInspector.Proofs.Probe.Streaming
import DspInspector.Proofs.Probe.Tracing
import DspInspector.Proofs.Probe.Traffic
import DspInspector.Proofs.Probe.Verdicts
import DspInspector.Proofs.Probe.WakeUps
import DspInspector.Proofs.Probe.Walks
import DspInspector.Proofs.Probe.Workers
import DspInspector.Proofs.Tlv.Fields
import DspInspector.Proofs.Tlv.Filing
import DspInspector.Proofs.Tlv.Framing
import DspInspector.Proofs.Tlv.Progress
import DspInspector.Proofs.Tlv.Registration
import DspInspector.Proofs.Tlv.Sequences
import DspInspector.Proofs.Tlv.Unpacking
import DspInspector.Proofs.Wire.Acceptance
import DspInspector.Proofs.Wire.CountedLists
import DspInspector.Proofs.Wire.Deciding
import DspInspector.Proofs.Wire.Echo
import DspInspector.Proofs.Wire.Extents
import DspInspector.Proofs.Wire.Layout
import DspInspector.Proofs.Wire.Reading
import DspInspector.Proofs.Wire.RoundTrip
import DspInspector.Proofs.Wire.Shapes
import DspInspector.Proofs.Wire.Sizes
import DspInspector.Proofs.Wire.Tallies
import DspInspector.Proofs.Wire.Truncation
import DspInspector.Proofs.Wire.Verbatim
import DspInspector.Report.Basic
import DspInspector.Report.Capability
import DspInspector.Report.Control
import DspInspector.Report.Facts
import DspInspector.Report.Fault
import DspInspector.Report.Graph
import DspInspector.Report.Load
import DspInspector.Report.Probe
import DspInspector.Report.Settings
import DspInspector.Settings.Files
import DspInspector.Settings.Read
import DspInspector.Settings.Settings
import DspInspector.Storage.ControlFiles
import DspInspector.Storage.FileTree
import DspInspector.Text.Escaped
import DspInspector.Text.Hex
import DspInspector.Text.Quoted
import DspInspector.Text.Utf8
import DspInspector.Time.Timestamp
import DspInspector.Tlv.Dictionary
import DspInspector.Tlv.Error
import DspInspector.Tlv.Record
import DspInspector.Tlv.Slot
import DspInspector.Tlv.Unpack
import DspInspector.Toml.Moment
import DspInspector.Toml.Number
import DspInspector.Toml.Print
import DspInspector.Toml.Read
import DspInspector.Toml.Scanner
import DspInspector.Toml.Text
import DspInspector.Toml.Tree
import DspInspector.Toml.Value
import DspInspector.Wire.Basic
import DspInspector.Wire.Coded
import DspInspector.Wire.Cursor
import DspInspector.Wire.Error
import DspInspector.Wire.Progress
