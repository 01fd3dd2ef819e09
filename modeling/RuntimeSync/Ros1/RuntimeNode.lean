import RuntimeSync.Core.ClockMonitor
import RuntimeSync.Core.CycleScheduler
import RuntimeSync.Core.ExpectedSample
import RuntimeSync.Core.Session

/-!
# The runtime node

The node holds a configuration, a session and a scheduler, and its callbacks
update the three one after the other.  Each callback takes what it reads from
outside, the time and the clock samples, as arguments.
-/

namespace RuntimeSync

/-! ## ROS values -/

structure RosTime where
  sec : UInt32
  nsec : UInt32
  deriving DecidableEq

structure RosDuration where
  sec : Int32
  nsec : Int32
  deriving DecidableEq

def RosTime.toNs (time : RosTime) : Int64 :=
  time.sec.toUInt64.toInt64 * 1000000000 + time.nsec.toUInt64.toInt64

def RosDuration.toNs (duration : RosDuration) : Int64 :=
  duration.sec.toInt64 * 1000000000 + duration.nsec.toInt64

structure StartSessionRequest where
  sessionId : Str := []
  taskId : Str := []
  epochTime : RosTime
  period : RosDuration

structure StartSessionResponse where
  accepted : Bool
  reason : Str
  deriving DecidableEq

structure StopSessionRequest where
  reason : Str := []

structure StopSessionResponse where
  accepted : Bool
  message : Str
  deriving DecidableEq

/-- The times and durations are the nanoseconds that the source converts. -/
structure SyncedCycle where
  stamp : RosTime
  teamId : Str
  sessionId : Str
  taskId : Str
  selfId : Str
  cycleId : UInt64
  expectedTimeNs : UInt64
  actualTimeNs : UInt64
  periodNs : Int64
  jitterNs : Int64
  clockOk : Bool
  clockQuality : UInt8
  sessionRunning : Bool
  runtimeDegraded : Bool
  deriving DecidableEq

/-! ## The node -/

structure SwarmRuntimeNode where
  config : SessionConfig := {}
  session : SessionManager := {}
  scheduler : CycleScheduler := {}
  expectedSampleChannel : Str := []
  expectedSamples : List ExpectedSample := []
  lastClockResult : ClockMonitorResult := {}
  currentCycle : UInt64 := 0
  lastJitterNs : Int64 := 0

def SessionConfig.withTiming (config : SessionConfig) (epochNs periodNs : Int64) :
    SessionConfig :=
  { config with epochNs := epochNs, periodNs := periodNs }

namespace SwarmRuntimeNode

def configureExpectedSamples (node : SwarmRuntimeNode) : SwarmRuntimeNode :=
  let receiveCutoffNs := if 0 < node.config.periodNs then node.config.periodNs else 50000000
  let timing : ChannelTiming :=
    { payloadType := text "bytes"
      schemaId := node.expectedSampleChannel ++ text ".v1"
      receiveCutoffNs := receiveCutoffNs
      ttlNs := receiveCutoffNs }
  { node with
    expectedSamples := node.config.requiredParticipants.map fun participant ↦
      { peerId := participant
        channel := node.expectedSampleChannel
        required := true
        timing := timing } }

def withSession (node : SwarmRuntimeNode) (session : SessionManager) : SwarmRuntimeNode :=
  { node with session := session }

def withClock (node : SwarmRuntimeNode) (clock : ClockMonitorResult) : SwarmRuntimeNode :=
  { node with lastClockResult := clock }

def schedulerConfig (config : SessionConfig) (epochNs periodNs : Int64) : CycleSchedulerConfig where
  sessionId := config.sessionId
  taskId := config.taskId
  epochNs := epochNs
  periodNs := periodNs
  startCycle := config.startCycle
  maxCycle := config.maxCycle

/-- The checks and updates are in the order of the source: a failure leaves
behind what was updated before it. -/
def startSession (node : SwarmRuntimeNode) (epochNs periodNs : Int64) (clock : ClockState) :
    SwarmRuntimeNode × Bool :=
  if !CycleScheduler.isValidPeriodNs periodNs then
    (node.withSession
      (node.session.markError (text "period_ns outside supported 0.5-50 Hz range")), false)
  else if ¬clock.Usable then
    (node.withSession
      (node.session.markError (text "clock gate rejected: " ++ node.lastClockResult.reason)), false)
  else
    let node := { node with config := node.config.withTiming epochNs periodNs }
    match node.session.configure node.config with
    | (session, false) => (node.withSession session, false)
    | (session, true) =>
        let node := (node.withSession session).configureExpectedSamples
        match node.session.arm epochNs clock with
        | (session, false) => (node.withSession session, false)
        | (session, true) =>
            let node := node.withSession session
            match node.scheduler.configure (schedulerConfig node.config epochNs periodNs) with
            | (_, false) =>
                (node.withSession
                  (node.session.markError (text "failed to configure cycle scheduler")), false)
            | (scheduler, true) => ({ node with scheduler := scheduler.start }, true)

/-- The configuration a request asks for, but for its period and epoch. -/
def nextConfig (config : SessionConfig) (request : StartSessionRequest) : SessionConfig :=
  { config with
    sessionId := if request.sessionId ≠ [] then request.sessionId else config.sessionId
    taskId := if request.taskId ≠ [] then request.taskId else config.taskId }

def requestedPeriodNs (config : SessionConfig) (request : StartSessionRequest) : Int64 :=
  if 0 < request.period.toNs then request.period.toNs else config.periodNs

/-- The configuration that the node takes over before it starts the session. -/
def requestedConfig (config : SessionConfig) (request : StartSessionRequest) : SessionConfig :=
  (nextConfig config request).withTiming request.epochTime.toNs (requestedPeriodNs config request)

def startCallback (node : SwarmRuntimeNode) (request : StartSessionRequest)
    (clock : ClockMonitorResult) : SwarmRuntimeNode × StartSessionResponse :=
  if !CycleScheduler.isValidPeriodNs (requestedPeriodNs node.config request) then
    (node, { accepted := false, reason := text "period_ns outside supported 0.5-50 Hz range" })
  else
    let node :=
      { node with config := requestedConfig node.config request, lastClockResult := clock }
    match node.startSession node.config.epochNs node.config.periodNs clock.state with
    | (node, true) => (node, { accepted := true, reason := text "accepted" })
    | (node, false) => (node, { accepted := false, reason := node.session.reason })

/-- `clock` is the sample that publishing the health takes. -/
def stopCallback (node : SwarmRuntimeNode) (request : StopSessionRequest)
    (clock : ClockMonitorResult) : SwarmRuntimeNode × StopSessionResponse :=
  ({ node with
      scheduler := node.scheduler.stop
      session := node.session.stop
        (if request.reason = [] then text "stopped by service" else request.reason)
      lastClockResult := clock },
    { accepted := true, message := text "stopped" })

def publishCycle (node : SwarmRuntimeNode) (event : CycleEvent) (stamp : RosTime) : SyncedCycle where
  stamp := stamp
  teamId := node.config.teamId
  sessionId := node.config.sessionId
  taskId := node.config.taskId
  selfId := node.config.selfId
  cycleId := event.cycleId
  expectedTimeNs := event.expectedTimeNs.toUInt64
  actualTimeNs := event.actualTimeNs.toUInt64
  periodNs := event.periodNs
  jitterNs := event.jitterNs
  clockOk := event.clockOk
  clockQuality := node.lastClockResult.state.quality.code
  sessionRunning := node.session.running
  runtimeDegraded := !node.lastClockResult.state.clockOk

/-- The result of `startIfDue` is not looked at. -/
def timerCallback (node : SwarmRuntimeNode) (now : RosTime) (clock : ClockMonitorResult) :
    SwarmRuntimeNode × Option (CycleEvent × SyncedCycle) :=
  let node := node.withClock clock
  let (session, _) := node.session.startIfDue now.toNs clock.state
  let (scheduler, event) := node.scheduler.tick now.toNs clock.state.clockOk
  let node := { node with session := session, scheduler := scheduler }
  match event with
  | none => (node, none)
  | some event =>
      let node := { node with currentCycle := event.cycleId, lastJitterNs := event.jitterNs }
      (node, some (event, node.publishCycle event now))

/-! ## Initialisation -/

/-- The private parameters that decide how a node starts. -/
structure Params (D : Type) [DoubleArith D] where
  teamId : Str := text "alpha"
  sessionId : Str := text "demo_session_001"
  taskId : Str := text "distributed_task"
  selfId : Str := text "uav01"
  frequencyHz : D := 20.0
  autoStart : Bool := true
  startDelayS : D := 0.1
  expectedSampleChannel : Str := text "runtime_state"
  /-- Empty also when the parameter is not set. -/
  requiredParticipants : List Str := []

variable {D : Type} [DoubleArith D]

def initialConfig (params : Params D) (now : RosTime) (periodNs : Int64) : SessionConfig where
  teamId := params.teamId
  sessionId := params.sessionId
  taskId := params.taskId
  selfId := params.selfId
  requiredParticipants :=
    if params.requiredParticipants ≠ [] then params.requiredParticipants else [params.selfId]
  periodNs := periodNs
  epochNs := now.toNs + DoubleArith.truncate (params.startDelayS * 1000000000.0)

/-- `none` when the source returns false.  The first clock sample is taken
for the automatic start, the second for publishing the health. -/
def init (params : Params D) (now : RosTime) (startClock healthClock : ClockMonitorResult) :
    Option SwarmRuntimeNode :=
  match CycleScheduler.periodNsFromFrequencyHz params.frequencyHz with
  | none => none
  | some periodNs =>
      let node : SwarmRuntimeNode :=
        { config := initialConfig params now periodNs
          expectedSampleChannel := params.expectedSampleChannel }
      let node := node.configureExpectedSamples
      match node.session.configure node.config with
      | (_, false) => none
      | (session, true) =>
          let node := node.withSession session
          if params.autoStart then
            let node := node.withClock startClock
            let node :=
              (node.startSession node.config.epochNs node.config.periodNs startClock.state).1
            some (node.withClock healthClock)
          else some (node.withClock healthClock)

end SwarmRuntimeNode

end RuntimeSync
