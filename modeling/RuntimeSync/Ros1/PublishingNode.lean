import RuntimeSync.Core.Weaknet.ChannelProfile
import RuntimeSync.Ros1.AdapterConfig
import RuntimeSync.Ros1.NodeMessages
import RuntimeSync.Ros1.RuntimeNodeRuns

/-!
# The node as a whole

The runtime node with everything that it publishes: around the session and the
scheduler stand the sample buffer, the links and the texts that go into each
report.  Nothing is ever added to the buffer.
-/

namespace RuntimeSync

open Weaknet

/-- The members of the node that outlive a callback, but for the ones that its
clock samples are taken with.  The clock phase is the one of the last sample. -/
structure PublishingNode where
  runtime : SwarmRuntimeNode := {}
  weaknet : WeaknetNode := {}
  sampleBuffer : SampleBuffer := .new
  weaknetBudget : BudgetReport ℚ := {}
  adapterSummary : Str := []
  weaknetSummary : Str := text "weaknet=unconfigured"

namespace PublishingNode

def withClock (node : PublishingNode) (clock : ClockMonitorResult) : PublishingNode :=
  { node with runtime := node.runtime.withClock clock }

def withRuntime (node : PublishingNode) (runtime : SwarmRuntimeNode) : PublishingNode :=
  { node with runtime := runtime }

/-! ## Reports on the node itself -/

def clockSummary (clock : ClockMonitorResult) : Str :=
  text "clock_source=" ++ clock.state.source ++
    text " clock_phase=" ++ ClockMonitor.phaseToString clock.phase ++
    text " clock_reason=" ++ clock.reason

def runtimeReason (node : PublishingNode) : Str :=
  let summary :=
    node.adapterSummary ++ text "; " ++ node.weaknetSummary ++ text "; weaknet_state=" ++
      node.weaknet.weaknetState.toString ++ text " reason=" ++ node.weaknet.weaknetReason ++
      text "; " ++ clockSummary node.runtime.lastClockResult
  if node.runtime.session.reason = [] then summary
  else node.runtime.session.reason ++ text "; " ++ summary

/-- `publishHealth(false)`: the caller has taken the clock sample. -/
def publishHealth (node : PublishingNode) (stamp : RosTime) : RuntimeHealthMsg where
  stamp := stamp
  teamId := node.runtime.config.teamId
  sessionId := node.runtime.config.sessionId
  selfId := node.runtime.config.selfId
  sessionRunning := node.runtime.session.running
  clockOk := node.runtime.lastClockResult.state.clockOk
  clockOffsetNs := node.runtime.lastClockResult.state.offsetNs
  clockUncertaintyNs := node.runtime.lastClockResult.state.uncertaintyNs
  clockQuality := node.runtime.lastClockResult.state.quality.code
  currentCycle := node.runtime.currentCycle
  cycleJitterP95 := node.runtime.lastJitterNs
  cycleJitterP99 := node.runtime.lastJitterNs
  state := stateName node.runtime.session.state
  reason := node.runtimeReason

def publishBudget (node : PublishingNode) (stamp : RosTime) : BudgetReportMsg where
  stamp := stamp
  sessionId := node.runtime.config.sessionId
  accepted := node.weaknetBudget.accepted
  totalRealtimeBps := node.weaknetBudget.totalRealtimeBps
  maxRealtimeBps := node.weaknetBudget.maxRealtimeBps
  utilizationRatio := node.weaknetBudget.utilizationRatio
  reportJson :=
    text "\x7b\"reason\":\"" ++ jsonEscape node.weaknetBudget.reason ++ text "\"\x7d"

/-- The fields are filled in after the clock is sampled, but for the first three. -/
def statusCallback (node : PublishingNode) (clock : ClockMonitorResult) :
    PublishingNode × GetRuntimeStatusResponse :=
  let node := node.withClock clock
  (node,
    { running := node.runtime.session.running
      state := stateName node.runtime.session.state
      currentCycle := node.runtime.currentCycle
      clockOk := clock.state.clockOk
      clockOffsetNs := clock.state.offsetNs
      clockUncertaintyNs := clock.state.uncertaintyNs
      clockQuality := clock.state.quality.code
      clockSource := clock.state.source
      clockPhase := ClockMonitor.phaseToString clock.phase
      reason := node.runtimeReason })

/-! ## Reports on a cycle -/

def snapshotRequest (node : PublishingNode) (event : CycleEvent) (clock : ClockState) :
    SnapshotBuildRequest where
  sessionId := node.runtime.config.sessionId
  taskId := node.runtime.config.taskId
  selfId := node.runtime.config.selfId
  cycleId := event.cycleId
  cycleStartNs := event.expectedTimeNs
  periodNs := event.periodNs
  localClock := clock
  localRuntime :=
    { running := node.runtime.session.running
      zenohConnected := false
      currentCycle := event.cycleId
      jitterNs := event.jitterNs
      state := stateName node.runtime.session.state
      reason := node.runtime.session.reason }
  expectedSamples := node.runtime.expectedSamples

section Publish

variable (print : DoubleText)

/-- What is published about a link, in the order of the source. -/
def publishReport (node : PublishingNode) (cycleId : UInt64) (stamp : RosTime)
    (report : LinkReport) : List NodePublication :=
  .peerLinkHealth (node.runtime.toPeerLinkHealthMsg report.health stamp) ::
    (report.transition.toList.map fun transition ↦
      .weaknetState (node.runtime.toWeakNetStateMsg print transition cycleId stamp)) ++
    (RecommendationEngine.evaluate cycleId report.health (some node.weaknetBudget)).map
      fun recommendation ↦
        .recommendation (node.runtime.toRecommendationMsg print recommendation stamp)

def publishWeaknet (node : PublishingNode) (snapshot : CycleSnapshot Int64) (stamp : RosTime) :
    PublishingNode × List NodePublication :=
  ({ node with weaknet := (node.weaknet.publishWeaknet snapshot).1 },
    (node.weaknet.publishWeaknet snapshot).2.flatMap
      (node.publishReport print snapshot.cycleId stamp))

def buildSnapshot (node : PublishingNode) (event : CycleEvent) (clock : ClockState) :
    CycleSnapshot Int64 :=
  SnapshotBuilder.build Int64 (node.snapshotRequest event clock) node.sampleBuffer

def publishSnapshot (node : PublishingNode) (event : CycleEvent) (stamp : RosTime)
    (clock : ClockState) : PublishingNode × List NodePublication :=
  let snapshot := node.buildSnapshot event clock
  ((node.publishWeaknet print snapshot stamp).1,
    .snapshot (node.runtime.toSnapshotMsg snapshot stamp) ::
      .sampleStats (node.runtime.toSampleStatsMsg snapshot stamp) ::
      (node.publishWeaknet print snapshot stamp).2)

/-! ## Callbacks -/

/-- `healthStamp` is the time at which the health is published. -/
def timerCallback (node : PublishingNode) (now : RosTime) (clock : ClockMonitorResult)
    (healthStamp : RosTime) : PublishingNode × List NodePublication :=
  let polled := node.withRuntime (node.runtime.timerCallback now clock).1
  match (node.runtime.timerCallback now clock).2 with
  | none => (polled, [])
  | some (event, cycle) =>
      let published := polled.publishSnapshot print event now clock.state
      (published.1,
        .cycle cycle :: published.2 ++ [.health (published.1.publishHealth healthStamp)])

end Publish

inductive PublishingCall where
  | start (request : StartSessionRequest) (clock : ClockMonitorResult)
  | stop (request : StopSessionRequest) (clock : ClockMonitorResult) (healthStamp : RosTime)
  | status (clock : ClockMonitorResult)
  | timer (now : RosTime) (clock : ClockMonitorResult) (healthStamp : RosTime)

inductive NodeAnswer where
  | started (response : StartSessionResponse)
  | stopped (response : StopSessionResponse)
  | status (response : GetRuntimeStatusResponse)
  | polled
  deriving DecidableEq

structure PublishingOutput where
  answer : NodeAnswer
  published : List NodePublication
  deriving DecidableEq

def step (print : DoubleText) (node : PublishingNode) :
    PublishingCall → PublishingNode × PublishingOutput
  | .start request clock =>
      (node.withRuntime (node.runtime.startCallback request clock).1,
        ⟨.started (node.runtime.startCallback request clock).2, []⟩)
  | .stop request clock healthStamp =>
      let stopped := node.withRuntime (node.runtime.stopCallback request clock).1
      (stopped,
        ⟨.stopped (node.runtime.stopCallback request clock).2,
          [.health (stopped.publishHealth healthStamp)]⟩)
  | .status clock =>
      ((node.statusCallback clock).1, ⟨.status (node.statusCallback clock).2, []⟩)
  | .timer now clock healthStamp =>
      ((node.timerCallback print now clock healthStamp).1,
        ⟨.polled, (node.timerCallback print now clock healthStamp).2⟩)

/-! ## Initialisation -/

structure InitParams extends SwarmRuntimeNode.Params ℚ where
  weaknetEnabled : Bool := true
  weaknetBudgetMaxRealtimeBps : ℚ := 2000000
  weaknetBudgetSafetyFactor : ℚ := 1.35
  weaknetPayloadBytesP95 : Int32 := 600
  ros1AdaptersConfig : Str := []
  /-- What is read from the tree of the adapters, when there is one. -/
  ros1Adapters : Option AdapterConfigResult := none

/-- The summary of the adapters; `none` when the source returns false. -/
def loadAdapterConfig (params : InitParams) : Option Str :=
  match params.ros1Adapters with
  | some parsed =>
      if !parsed.ok then none else some (AdapterConfig.summarizeAdapterConfig parsed.config)
  | none =>
      if params.ros1AdaptersConfig ≠ [] then none
      else
        some (AdapterConfig.summarizeAdapterConfig AdapterConfig.defaultAdapterConfig ++
          text " source=built_in_default")

def computeBudgetReport (params : InitParams) (requiredParticipants : List Str) :
    BudgetReport ℚ :=
  let participants : UInt32 := (max 1 requiredParticipants.length).toUInt32
  computeTrafficBudget
    [{ publishers := participants
       effectiveFanout := if 0 < participants then participants - 1 else 0
       frequencyHz := params.frequencyHz
       payloadBytesP95 := (max 0 params.weaknetPayloadBytesP95).toUInt32 }]
    params.weaknetBudgetMaxRealtimeBps params.weaknetBudgetSafetyFactor

/-- The budget and the summary of it; `none` when the source returns false. -/
def configureWeaknet (print : DoubleText) (params : InitParams)
    (requiredParticipants : List Str) : Option (BudgetReport ℚ × Str) :=
  let profile := defaultProfileFor .realtimeSample
  match validateChannelProfile profile with
  | .error _ => none
  | .ok () =>
      let budget := computeBudgetReport params requiredParticipants
      some (budget,
        text "profile=" ++ profile.name ++ text " qos=" ++ profile.qos.reliability.toString ++
          text "/" ++ profile.qos.congestion.toString ++ text " budget_ratio=" ++
          print.fixed budget.utilizationRatio)

/-- The node and what it publishes before it is first called.  `stamps` are the
times at which the two messages go out. -/
def init (print : DoubleText) (params : InitParams) (now : RosTime)
    (startClock healthClock : ClockMonitorResult) (stamps : RosTime × RosTime) :
    Option (PublishingNode × List NodePublication) :=
  match loadAdapterConfig params with
  | none => none
  | some adapterSummary =>
      match SwarmRuntimeNode.init params.toParams now startClock healthClock with
      | none => none
      | some runtime =>
          match configureWeaknet print params runtime.config.requiredParticipants with
          | none => none
          | some (weaknetBudget, weaknetSummary) =>
              let node : PublishingNode :=
                { runtime := runtime
                  weaknet := { weaknetEnabled := params.weaknetEnabled }
                  weaknetBudget := weaknetBudget
                  adapterSummary := adapterSummary
                  weaknetSummary := weaknetSummary }
              some (node,
                [.budget (node.publishBudget stamps.1), .health (node.publishHealth stamps.2)])

end PublishingNode

end RuntimeSync
