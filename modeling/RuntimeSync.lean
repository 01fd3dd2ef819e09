import RuntimeSync.Library.Machine
import RuntimeSync.Library.PeriodGrid
import RuntimeSync.Library.LittleEndian
import RuntimeSync.Library.RecordFormat
import RuntimeSync.Core.Types
import RuntimeSync.Core.ClockMonitor
import RuntimeSync.Core.ClockGate
import RuntimeSync.Core.SampleEnvelope
import RuntimeSync.Core.EnvelopeReader
import RuntimeSync.Core.EnvelopeCodec
import RuntimeSync.Core.EnvelopeWire
import RuntimeSync.Core.EnvelopeLaws
import RuntimeSync.Library.MachineInt
import RuntimeSync.Core.CycleScheduler
import RuntimeSync.Core.CycleLaws
import RuntimeSync.Core.Session
import RuntimeSync.Core.ExpectedSample
import RuntimeSync.Ros1.RuntimeNode
import RuntimeSync.Ros1.RuntimeNodeRuns
import RuntimeSync.Core.SampleBuffer
import RuntimeSync.Core.LastGood
import RuntimeSync.Core.BufferPruning
import RuntimeSync.Core.BufferSteps
import RuntimeSync.Core.Retention
import RuntimeSync.Core.Replacement
import RuntimeSync.Core.Replay
import RuntimeSync.Core.StreamIsolation
import RuntimeSync.Core.DeadlineChecker
import RuntimeSync.Core.SnapshotBuilder
import RuntimeSync.Core.SnapshotCounts
import RuntimeSync.Core.SnapshotLaws
import RuntimeSync.Core.Weaknet.LinkHealth
import RuntimeSync.Core.Weaknet.LinkSummary
import RuntimeSync.Core.Weaknet.StateMachine
import RuntimeSync.Core.Weaknet.Hysteresis
import RuntimeSync.Core.Weaknet.Convergence
import RuntimeSync.Ros1.PublishWeaknet
import RuntimeSync.Ros1.WorstState
import RuntimeSync.Core.SessionRuns
import RuntimeSync.Ros1.StopRuns
import RuntimeSync.Ros1.StartGate
import RuntimeSync.Core.TransportKeys
import RuntimeSync.Coordinator.Messages
import RuntimeSync.Coordinator.SyncCoordinator
import RuntimeSync.Library.Streak
import RuntimeSync.Library.Tally
import RuntimeSync.Coordinator.Steps
import RuntimeSync.Coordinator.Rounds
import RuntimeSync.Coordinator.Health
import RuntimeSync.Coordinator.Outcomes
import RuntimeSync.Coordinator.OutcomeRuns
import RuntimeSync.Coordinator.Recovery
import RuntimeSync.Coordinator.Checks
import RuntimeSync.Library.Buckets
import RuntimeSync.Core.Transport
import RuntimeSync.Core.Delivery
import RuntimeSync.Core.Unsubscription
import RuntimeSync.Library.CrcRegister
import RuntimeSync.Core.PayloadCrc
import RuntimeSync.Ros1.AdapterConfig
import RuntimeSync.Core.QualityChecks
import RuntimeSync.Core.Weaknet.CycleWindow
import RuntimeSync.Core.CheckedTimes
import RuntimeSync.Core.Admission
import RuntimeSync.Core.SeqGaps
import RuntimeSync.Core.Duplicates
import RuntimeSync.Ros1.SampleStats
import RuntimeSync.Core.ExpectedTimes
import RuntimeSync.Core.Weaknet.Lateness
import RuntimeSync.Core.Weaknet.Percentiles
import RuntimeSync.Core.Weaknet.SummaryLaws
import RuntimeSync.Coordinator.Consecutive
import RuntimeSync.Core.Weaknet.Reception
import RuntimeSync.Core.SourceNames
import RuntimeSync.Core.SourcesTable
import RuntimeSync.Core.Weaknet.BudgetGuard
import RuntimeSync.Core.Weaknet.SendStagger
import RuntimeSync.Library.CrcDivision
import RuntimeSync.Core.StandardCrc
import RuntimeSync.Core.ReaderBounds
import RuntimeSync.Library.Multiplex
import RuntimeSync.Library.ChangeLog
import RuntimeSync.Core.Weaknet.RecommendationEngine
import RuntimeSync.Ros1.LinkStreams
import RuntimeSync.Ros1.ClockSampling
import RuntimeSync.Ros1.NodeMessages
import RuntimeSync.Core.Weaknet.ChannelProfile
import RuntimeSync.Ros1.AdapterParsing
import RuntimeSync.Ros1.PublishingNode
import RuntimeSync.Library.Refinement
import RuntimeSync.Ros1.SilentSwarm
import RuntimeSync.Ros1.CurrentCycle
import RuntimeSync.Ros1.EvidenceJson
import RuntimeSync.Ros1.ClockedNode
