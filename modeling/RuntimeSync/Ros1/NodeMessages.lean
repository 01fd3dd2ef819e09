import RuntimeSync.Core.Weaknet.RecommendationEngine
import RuntimeSync.Ros1.ClockSampling
import RuntimeSync.Ros1.LinkStreams
import RuntimeSync.Ros1.SampleStats

/-!
# The messages of the runtime node

As in `SyncedCycle`, the times and durations are the nanoseconds that the source
converts.  How a `double` is printed is left open: the two formats in use are
parameters.
-/

namespace RuntimeSync

open Weaknet

/-! ## Texts -/

def stateName : SessionState → Str
  | .idle => text "IDLE"
  | .configured => text "CONFIGURED"
  | .armed => text "ARMED"
  | .running => text "RUNNING"
  | .stopped => text "STOPPED"
  | .error => text "ERROR"

namespace SampleStatus

/-- The value of the enumerator. -/
def code : SampleStatus → UInt8
  | .fresh => 0
  | .missing => 1
  | .late => 2
  | .wrongCycle => 3
  | .duplicate => 4
  | .badSchema => 5
  | .badPayload => 6
  | .senderClockBad => 7
  | .senderReportedFail => 8
  | .transportError => 9

end SampleStatus

namespace Weaknet.LinkState

def toString : LinkState → Str
  | .good => text "GOOD"
  | .degraded => text "DEGRADED"
  | .congested => text "CONGESTED"
  | .partitioned => text "PARTITIONED"
  | .recovering => text "RECOVERING"

end Weaknet.LinkState

def timeFromNs (ns : Int64) : UInt64 := if ns ≤ 0 then 0 else ns.toUInt64

/-- How the source prints a `double`. -/
structure DoubleText where
  /-- `os << value`. -/
  stream : ℚ → Str
  /-- `std::to_string`. -/
  fixed : ℚ → Str

def escapeByte (c : UInt8) : Str :=
  if c = byte '"' ∨ c = byte '\\' then [byte '\\', c] else [c]

def jsonEscape (s : Str) : Str := s.flatMap escapeByte

def evidenceItem (print : DoubleText) (item : Str × ℚ) : Str :=
  text "\"" ++ jsonEscape item.1 ++ text "\":" ++ print.stream item.2

def evidenceJson (print : DoubleText) (evidence : List (Str × ℚ)) : Str :=
  text "\x7b" ++ (text ",").intercalate (evidence.map (evidenceItem print)) ++ text "\x7d"

/-! ## Messages -/

structure PeerSampleStatusMsg where
  peerId : Str
  channel : Str
  status : UInt8
  expectedTargetCycle : UInt64
  receivedTargetCycle : UInt64
  seq : UInt64 := 0
  localReceiveTime : UInt64
  receiveLatencyNs : Int64
  freshForThisCycle : Bool
  lateForThisCycle : Bool
  duplicate : Bool
  wrongCycle : Bool
  badSchema : Bool
  badCrc : Bool
  senderClockBad : Bool
  dropReason : Str
  schemaId : Str := []
  deriving DecidableEq

structure CycleSnapshotMsg where
  stamp : RosTime
  teamId : Str
  sessionId : Str
  taskId : Str
  selfId : Str
  cycleId : UInt64
  cycleStartTime : UInt64
  periodNs : Int64
  samples : List PeerSampleStatusMsg
  freshCount : UInt32
  missingCount : UInt32
  lateCount : UInt32
  wrongCycleCount : UInt32
  badCount : UInt32
  allRequiredFresh : Bool
  allRequiredUsable : Bool
  localClockOk : Bool
  runtimeDegraded : Bool
  deriving DecidableEq

structure PeerLinkHealthMsg where
  stamp : RosTime
  localNodeId : Str
  peerId : Str
  channel : Str
  freshRatio : ℚ
  lateRatio : ℚ
  missingRatio : ℚ
  duplicateRatio : ℚ
  wrongCycleRatio : ℚ
  badPayloadRatio : ℚ
  rxLatencyP50Ns : Int64
  rxLatencyP95Ns : Int64
  rxLatencyP99Ns : Int64
  seqGapCount : UInt64
  latePocketCount : ℕ
  oversizedDropCount : ℕ
  state : ℕ
  primaryReason : Str
  deriving DecidableEq

structure WeakNetStateMsg where
  stamp : RosTime
  nodeId : Str
  previousState : ℕ
  currentState : ℕ
  reason : Str
  evidenceJson : Str
  cycleId : UInt64 := 0
  deriving DecidableEq

structure RecommendationMsg where
  stamp : RosTime
  nodeId : Str
  cycleId : UInt64
  level : UInt8
  type : Str
  channel : Str
  peerId : Str
  confidence : ℚ
  reason : Str
  evidenceJson : Str
  deriving DecidableEq

/-- The counters over ten seconds and the usage of the machine are never set. -/
structure RuntimeHealthMsg where
  stamp : RosTime
  teamId : Str
  sessionId : Str
  selfId : Str
  alive : Bool := true
  sessionRunning : Bool
  zenohConnected : Bool := false
  clockOk : Bool
  clockOffsetNs : Int64
  clockUncertaintyNs : UInt64
  clockQuality : UInt8
  currentCycle : UInt64
  cycleJitterP95 : Int64
  cycleJitterP99 : Int64
  state : Str
  reason : Str
  deriving DecidableEq

structure BudgetReportMsg where
  stamp : RosTime
  sessionId : Str
  accepted : Bool
  totalRealtimeBps : ℚ
  maxRealtimeBps : ℚ
  utilizationRatio : ℚ
  reportJson : Str
  deriving DecidableEq

structure GetRuntimeStatusResponse where
  running : Bool
  state : Str
  currentCycle : UInt64
  clockOk : Bool
  clockOffsetNs : Int64
  clockUncertaintyNs : UInt64
  clockQuality : UInt8
  clockSource : Str
  clockPhase : Str
  zenohConnected : Bool := false
  reason : Str
  deriving DecidableEq

inductive NodePublication where
  | cycle (msg : SyncedCycle)
  | snapshot (msg : CycleSnapshotMsg)
  | sampleStats (msg : SampleStats)
  | peerLinkHealth (msg : PeerLinkHealthMsg)
  | weaknetState (msg : WeakNetStateMsg)
  | recommendation (msg : RecommendationMsg)
  | health (msg : RuntimeHealthMsg)
  | budget (msg : BudgetReportMsg)
  deriving DecidableEq

/-! ## Conversions -/

def toPeerSampleStatusMsg (sample : PeerSampleView Int64) : PeerSampleStatusMsg where
  peerId := sample.peerId
  channel := sample.channel
  status := sample.status.code
  expectedTargetCycle := sample.expectedTargetCycle
  receivedTargetCycle := sample.receivedTargetCycle
  seq := (sample.sample.map SampleEnvelope.seq).getD 0
  schemaId := (sample.sample.map SampleEnvelope.schemaId).getD []
  localReceiveTime := timeFromNs sample.tLocalReceiveNs
  receiveLatencyNs := sample.receiveLatencyNs
  freshForThisCycle := sample.freshForThisCycle
  lateForThisCycle := sample.lateForThisCycle
  duplicate := sample.duplicate
  wrongCycle := sample.wrongCycle
  badSchema := sample.badSchema
  badCrc := sample.badCrc
  senderClockBad := sample.senderClockBad
  dropReason := sample.dropReason

namespace SwarmRuntimeNode

def toSnapshotMsg (node : SwarmRuntimeNode) (snapshot : CycleSnapshot Int64) (stamp : RosTime) :
    CycleSnapshotMsg where
  stamp := stamp
  teamId := node.config.teamId
  sessionId := snapshot.sessionId
  taskId := snapshot.taskId
  selfId := snapshot.selfId
  cycleId := snapshot.cycleId
  cycleStartTime := timeFromNs snapshot.tCycleStartNs
  periodNs := snapshot.periodNs
  samples := snapshot.samples.map toPeerSampleStatusMsg
  freshCount := snapshot.stats.freshCount
  missingCount := snapshot.stats.missingCount
  lateCount := snapshot.stats.lateCount
  wrongCycleCount := snapshot.stats.wrongCycleCount
  badCount := snapshot.stats.badCount
  allRequiredFresh := snapshot.allRequiredFresh
  allRequiredUsable := snapshot.allRequiredUsable
  localClockOk := snapshot.localClock.clockOk
  runtimeDegraded := !snapshot.localRuntime.running || !snapshot.localClock.clockOk

def toPeerLinkHealthMsg (node : SwarmRuntimeNode) (health : PeerChannelHealth) (stamp : RosTime) :
    PeerLinkHealthMsg where
  stamp := stamp
  localNodeId := node.config.selfId
  peerId := health.peerId
  channel := health.channel
  freshRatio := health.freshRatio
  lateRatio := health.lateRatio
  missingRatio := health.missingRatio
  duplicateRatio := health.duplicateRatio
  wrongCycleRatio := health.wrongCycleRatio
  badPayloadRatio := health.badPayloadRatio
  rxLatencyP50Ns := health.rxLatencyP50Ns
  rxLatencyP95Ns := health.rxLatencyP95Ns
  rxLatencyP99Ns := health.rxLatencyP99Ns
  seqGapCount := health.seqGapCount
  latePocketCount := health.latePocketCount
  oversizedDropCount := health.oversizedDropCount
  state := health.state.code
  primaryReason := health.primaryReason

def toWeakNetStateMsg (node : SwarmRuntimeNode) (print : DoubleText)
    (transition : StateTransition) (cycleId : UInt64) (stamp : RosTime) : WeakNetStateMsg where
  stamp := stamp
  nodeId := node.config.selfId
  previousState := transition.previous.code
  currentState := transition.current.code
  reason := transition.reason
  evidenceJson := evidenceJson print transition.evidence
  cycleId := cycleId

def toRecommendationMsg (node : SwarmRuntimeNode) (print : DoubleText)
    (recommendation : RuntimeRecommendation) (stamp : RosTime) : RecommendationMsg where
  stamp := stamp
  nodeId := node.config.selfId
  cycleId := recommendation.cycleId
  level := recommendation.level.code
  type := recommendation.type.toString
  channel := recommendation.channel
  peerId := recommendation.peer
  confidence := recommendation.confidence
  reason := recommendation.reason
  evidenceJson := evidenceJson print recommendation.evidence

end SwarmRuntimeNode

end RuntimeSync
