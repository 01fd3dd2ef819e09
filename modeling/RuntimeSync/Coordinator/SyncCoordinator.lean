import RuntimeSync.Coordinator.Messages

/-!
# The synchronisation coordinator

The coordinator triggers its participants period by period, collects their
acknowledgements round by round, and judges each participant by them.  The
callbacks take the times they read as arguments and return what they publish.
-/

namespace RuntimeSync

variable {D : Type} [TimingArith D]

open TimingArith

/-! ## State -/

/-- The members that the constructor sets from the parameters. -/
structure CoordinatorConfig (D : Type) where
  syncPeriod : D
  timeoutThresholdMs : D
  maxConsecutiveTimeouts : Int32
  statisticsPublishEveryNCycles : Int32
  statsWindowSize : Int32
  statsWindowSize_pos : 1 ≤ statsWindowSize
  slowRatioThreshold : D
  recoveryGoodCycles : Int32
  recoveryGoodCycles_pos : 1 ≤ recoveryGoodCycles

structure TimingSample (D : Type) where
  computationMs : D
  cycleMs : D

structure ParticipantStatus (D : Type) [TimingArith D] where
  ready : Bool := false
  nodeName : Str := []
  lastResponseTime : RosTime := ⟨0, 0⟩
  lastAckSequenceId : ℕ := 0
  lastComputationMs : D := 0.0
  lastCycleMs : D := 0.0
  computationEwmaMs : D := 0.0
  cycleEwmaMs : D := 0.0
  hasSample : Bool := false
  samples : List (TimingSample D) := []
  missedCount : UInt32 := 0
  consecutiveMissedCount : UInt32 := 0
  slowCount : UInt32 := 0
  consecutiveSlowCount : UInt32 := 0
  failureCount : UInt32 := 0
  consecutiveFailureCount : UInt32 := 0
  goodCycleCount : UInt32 := 0
  status : SyncStatus := .ok

abbrev ParticipantSet := Std.ExtTreeSet UInt32 compare

structure RoundStatus (D : Type) [TimingArith D] where
  triggerTime : RosTime
  pending : ParticipantSet := ∅
  responded : ParticipantSet := ∅
  roundFinishMs : D := 0.0
  stragglerParticipantId : UInt32 := 0
  monitorChecked : Bool := false

abbrev ParticipantMap (D : Type) [TimingArith D] :=
  Std.ExtTreeMap UInt32 (ParticipantStatus D) compare

abbrev RoundMap (D : Type) [TimingArith D] := Std.ExtTreeMap ℕ (RoundStatus D) compare

structure SyncCoordinator (D : Type) [TimingArith D] where
  config : CoordinatorConfig D
  sequenceId : ℕ := 0
  allReady : Bool := false
  participantStatus : ParticipantMap D := ∅
  rounds : RoundMap D := ∅
  /-- The sequence ids whose one-shot timer exists. -/
  responseTimers : Std.ExtTreeSet ℕ compare := ∅

/-! ## Judging a participant -/

def SyncStatus.rank : SyncStatus → ℕ
  | .ok => 0
  | .slow => 1
  | .missing => 2
  | .failed => 3
  | .degraded => 4

namespace ParticipantStatus

def recordFailure (status : ParticipantStatus D) : ParticipantStatus D :=
  { status with
    failureCount := status.failureCount + 1
    consecutiveFailureCount := status.consecutiveFailureCount + 1
    goodCycleCount := 0 }

def setStatus (status : ParticipantStatus D) (candidate : SyncStatus) : ParticipantStatus D :=
  if status.status.rank ≤ candidate.rank then { status with status := candidate } else status

end ParticipantStatus

/-- The event that is published, in the order of the source's arguments. -/
def syncEvent (eventType : EventType) (participantId : UInt32) (sequenceId : ℕ) (message : Str)
    (cycleMs computationMs thresholdMs : D) : SyncEvent D where
  eventType := eventType
  participantId := participantId
  sequenceId := sequenceId
  message := message
  cycleMs := cycleMs
  computationMs := computationMs
  thresholdMs := thresholdMs

namespace SyncAck

def cycleMs (msg : SyncAck D) : D := secondsBetween msg.finishedTime msg.receivedTime * 1000.0

def clockAnomaly (msg : SyncAck D) : Bool :=
  lt msg.cycleMs 0.0 || !DoubleArith.isfinite msg.cycleMs

end SyncAck

namespace CoordinatorConfig

variable (config : CoordinatorConfig D)

def slowThresholdMs : D := config.syncPeriod * 1000.0 * config.slowRatioThreshold

def isSlow (msg : SyncAck D) : Bool :=
  !msg.clockAnomaly && lt config.slowThresholdMs msg.cycleMs

def degradedIfNeeded (status : ParticipantStatus D) (fallback : SyncStatus) : SyncStatus :=
  if config.maxConsecutiveTimeouts.toUInt32 ≤ status.consecutiveMissedCount ∨
      config.maxConsecutiveTimeouts.toUInt32 ≤ status.consecutiveSlowCount ∨
      config.maxConsecutiveTimeouts.toUInt32 ≤ status.consecutiveFailureCount then .degraded
  else fallback

def recordSample (status : ParticipantStatus D) (computationMs cycleMs : D) :
    ParticipantStatus D :=
  let status := { status with lastComputationMs := computationMs, lastCycleMs := cycleMs }
  let status :=
    if !status.hasSample then
      { status with computationEwmaMs := computationMs, cycleEwmaMs := cycleMs, hasSample := true }
    else
      { status with
        computationEwmaMs := status.computationEwmaMs * (1.0 - 0.05) + computationMs * 0.05
        cycleEwmaMs := status.cycleEwmaMs * (1.0 - 0.05) + cycleMs * 0.05 }
  let samples := status.samples ++ [⟨computationMs, cycleMs⟩]
  { status with samples := samples.drop (samples.length - config.statsWindowSize.toInt.toNat) }

def recordHealthyAck (status : ParticipantStatus D) (participantId : UInt32) (sequenceId : ℕ)
    (cycleMs computationMs : D) : ParticipantStatus D × List (SyncEvent D) :=
  let wasAbnormal := status.status ≠ .ok
  let status :=
    { status with
      consecutiveMissedCount := 0
      consecutiveSlowCount := 0
      consecutiveFailureCount := 0
      goodCycleCount := status.goodCycleCount + 1 }
  if wasAbnormal then
    if config.recoveryGoodCycles.toUInt32 ≤ status.goodCycleCount then
      ({ status with status := .ok },
        [syncEvent .recovered participantId sequenceId
          (text "Participant recovered after consecutive healthy acks") cycleMs computationMs 0.0])
    else (status, [])
  else ({ status with status := .ok }, [])

/-- The part of the ack callback that is about the participant. -/
def judgeAck (msg : SyncAck D) (lateAck : Bool) (responseTime : RosTime)
    (status : ParticipantStatus D) : ParticipantStatus D × List (SyncEvent D) :=
  let previousStatus := status.status
  let status :=
    { status with lastResponseTime := responseTime, lastAckSequenceId := msg.sequenceId }
  let shownCycleMs : D := if msg.clockAnomaly then 0.0 else msg.cycleMs
  let failed := !msg.success
  let (status, anomalyEvents) :=
    if msg.clockAnomaly then
      let status := status.recordFailure
      (status.setStatus (config.degradedIfNeeded status .failed),
        [syncEvent .clockAnomaly msg.participantId msg.sequenceId
          (text "Participant reported invalid cycle timestamps") msg.cycleMs msg.computationMs 0.0])
    else (config.recordSample status msg.computationMs msg.cycleMs, [])
  let lateEvents :=
    if lateAck then
      [syncEvent .lateAck msg.participantId msg.sequenceId
        (text "Ack arrived after the response timeout") shownCycleMs msg.computationMs
        config.timeoutThresholdMs]
    else []
  let (status, failureEvents) :=
    if failed then
      -- An anomaly has already recorded the failure.
      let status := if msg.clockAnomaly then status else status.recordFailure
      (status.setStatus (config.degradedIfNeeded status .failed),
        [syncEvent .failure msg.participantId msg.sequenceId
          (if msg.errorMsg = [] then text "Participant reported failure" else msg.errorMsg)
          shownCycleMs msg.computationMs 0.0])
    else (status, [])
  let (status, slowEvents) :=
    if config.isSlow msg then
      let status :=
        { status with
          slowCount := status.slowCount + 1
          consecutiveSlowCount := status.consecutiveSlowCount + 1
          consecutiveMissedCount := 0
          goodCycleCount := 0 }
      (status.setStatus (config.degradedIfNeeded status .slow),
        [syncEvent .slow msg.participantId msg.sequenceId
          (text "Participant cycle time exceeded the slow threshold") msg.cycleMs
          msg.computationMs config.slowThresholdMs])
    else (status, [])
  let (status, finalEvents) :=
    if !msg.clockAnomaly && !failed && !config.isSlow msg then
      config.recordHealthyAck status msg.participantId msg.sequenceId msg.cycleMs
        msg.computationMs
    else if previousStatus ≠ .degraded ∧ status.status = .degraded then
      (status,
        [syncEvent .degraded msg.participantId msg.sequenceId
          (text "Participant entered degraded status") shownCycleMs msg.computationMs
          config.timeoutThresholdMs])
    else (status, [])
  (status, anomalyEvents ++ lateEvents ++ failureEvents ++ slowEvents ++ finalEvents)

/-- The body of the loop over the participants that did not respond. -/
def judgeMissed (participantId : UInt32) (sequenceId : ℕ) (status : ParticipantStatus D) :
    ParticipantStatus D × List (SyncEvent D) :=
  let previousStatus := status.status
  let status :=
    { status with
      missedCount := status.missedCount + 1
      consecutiveMissedCount := status.consecutiveMissedCount + 1
      goodCycleCount := 0 }
  let status := status.setStatus (config.degradedIfNeeded status .missing)
  (status,
    syncEvent .missed participantId sequenceId
        (text "Participant did not ack before the response timeout") 0.0 0.0
        config.timeoutThresholdMs ::
      if previousStatus ≠ .degraded ∧ status.status = .degraded then
        [syncEvent .degraded participantId sequenceId
          (text "Participant entered degraded status") 0.0 0.0 config.timeoutThresholdMs]
      else [])

end CoordinatorConfig

/-! ## Statistics -/

structure SeriesStats (D : Type) [TimingArith D] where
  mean : D := 0.0
  max : D := 0.0
  stddev : D := 0.0

def computeStats : List D → SeriesStats D
  | [] => {}
  | first :: rest =>
      let values := first :: rest
      let count : D := ofCount values.length
      let mean := values.foldl (· + ·) 0.0 / count
      let squaredErrorSum := values.foldl (fun sum value ↦
        sum + (value - mean) * (value - mean)) 0.0
      { mean := mean
        max := rest.foldl (fun max value ↦ if lt max value then value else max) first
        stddev := sqrt (squaredErrorSum / count) }

def toParticipantStats (participantId : UInt32) (status : ParticipantStatus D) :
    SyncParticipantStats D :=
  let computationStats := computeStats (status.samples.map TimingSample.computationMs)
  let cycleStats := computeStats (status.samples.map TimingSample.cycleMs)
  { participantId := participantId
    ready := status.ready
    nodeName := status.nodeName
    lastAckSequenceId := status.lastAckSequenceId
    lastResponseTime := status.lastResponseTime
    lastComputationMs := status.lastComputationMs
    lastCycleMs := status.lastCycleMs
    computationEwmaMs := status.computationEwmaMs
    cycleEwmaMs := status.cycleEwmaMs
    computationMeanMs := computationStats.mean
    computationMaxMs := computationStats.max
    computationStddevMs := computationStats.stddev
    cycleMeanMs := cycleStats.mean
    cycleMaxMs := cycleStats.max
    cycleStddevMs := cycleStats.stddev
    missedCount := status.missedCount
    consecutiveMissedCount := status.consecutiveMissedCount
    slowCount := status.slowCount
    consecutiveSlowCount := status.consecutiveSlowCount
    failureCount := status.failureCount
    consecutiveFailureCount := status.consecutiveFailureCount
    goodCycleCount := status.goodCycleCount
    status := status.status }

/-- What a known participant's ack does to the round it belongs to. -/
def RoundStatus.acked (round : RoundStatus D) (participantId : UInt32)
    (ackTime : RosTime) : RoundStatus D :=
  let ackDelayMs := secondsBetween ackTime round.triggerTime * 1000.0
  let last := DoubleArith.le round.roundFinishMs ackDelayMs
  { round with
    pending := round.pending.erase participantId
    responded := round.responded.insert participantId
    roundFinishMs := if last then ackDelayMs else round.roundFinishMs
    stragglerParticipantId := if last then participantId else round.stragglerParticipantId }

namespace SyncCoordinator

def latestRound (c : SyncCoordinator D) : Option (RoundStatus D) :=
  c.rounds.keys.getLast?.bind fun sequenceId ↦ c.rounds[sequenceId]?

def statistics (c : SyncCoordinator D) : SyncStatistics D :=
  let expected := UInt32.ofNat c.participantStatus.size
  let round := c.latestRound
  let latestCycleSamples := c.participantStatus.toList.filterMap fun pair ↦
    if pair.2.hasSample then some pair.2.lastCycleMs else none
  let global := computeStats latestCycleSamples
  { sequenceId := c.sequenceId
    syncPeriodMs := c.config.syncPeriod * 1000.0
    expectedResponseCount := expected
    actualResponseCount := (round.map fun round ↦ UInt32.ofNat round.responded.size).getD 0
    missingResponseCount :=
      (round.map fun round ↦ UInt32.ofNat round.pending.size).getD expected
    roundFinishMs := (round.map RoundStatus.roundFinishMs).getD 0.0
    maxCycleMs := global.max
    meanCycleMs := global.mean
    stddevCycleMs := global.stddev
    stragglerParticipantId := (round.map RoundStatus.stragglerParticipantId).getD 0
    participants := c.participantStatus.toList.map fun pair ↦ toParticipantStats pair.1 pair.2 }

def publishStatistics (c : SyncCoordinator D) : List (Publication D) := [.statistics c.statistics]

def publishStatisticsIfCycleDue (c : SyncCoordinator D) : List (Publication D) :=
  if 0 < c.config.statisticsPublishEveryNCycles ∧ 0 < c.sequenceId ∧
      c.sequenceId % c.config.statisticsPublishEveryNCycles.toInt.toNat = 0 then
    c.publishStatistics
  else []

/-! ## Rounds -/

def keepCount (config : CoordinatorConfig D) : ℕ := (max config.statsWindowSize 10).toInt.toNat

/-- The loop that erases the first round while it is too old; every pass
erases one, so the number of rounds bounds the passes. -/
def eraseOld (keepCount sequenceId : ℕ) : ℕ → RoundMap D → RoundMap D
  | 0, rounds => rounds
  | passes + 1, rounds =>
      match rounds.keys.head? with
      | none => rounds
      | some first =>
          if first + keepCount < sequenceId then
            eraseOld keepCount sequenceId passes (rounds.erase first)
          else rounds

def cleanupRounds (c : SyncCoordinator D) : SyncCoordinator D :=
  { c with rounds := eraseOld (keepCount c.config) c.sequenceId c.rounds.size c.rounds }

/-! ## Callbacks -/

def readyCallback (c : SyncCoordinator D) (msg : SyncReady) :
    SyncCoordinator D × List (Publication D) :=
  match c.participantStatus[msg.participantId]? with
  | none =>
      (c, [.event (syncEvent .unknownParticipant msg.participantId c.sequenceId
        (text "Ignoring ready message from unexpected participant") 0.0 0.0 0.0)])
  | some status =>
      if !status.ready then
        let status :=
          { status with
            ready := true, nodeName := msg.nodeName, lastResponseTime := msg.readyTime }
        let c := { c with participantStatus := c.participantStatus.insert msg.participantId status }
        (c, .event (syncEvent .ready msg.participantId c.sequenceId (text "Participant is ready")
          0.0 0.0 0.0) :: c.publishStatistics)
      else (c, [])

/-- The response of `p` was missed when the round was checked. -/
def isLate (c : SyncCoordinator D) (p : UInt32) (sequenceId : ℕ) : Bool :=
  c.rounds[sequenceId]?.any fun round ↦ round.monitorChecked && round.pending.contains p

/-- The part of the ack callback that is about the round. -/
def ackRound (c : SyncCoordinator D) (msg : SyncAck D) (ackTime : RosTime) : RoundMap D :=
  match c.rounds[msg.sequenceId]? with
  | none => c.rounds
  | some round => c.rounds.insert msg.sequenceId (round.acked msg.participantId ackTime)

/-- `ackTime` and `responseTime` are the two readings of the clock. -/
def syncAckCallback (c : SyncCoordinator D) (msg : SyncAck D) (ackTime responseTime : RosTime) :
    SyncCoordinator D × List (Publication D) :=
  match c.participantStatus[msg.participantId]? with
  | none =>
      (c, [.event (syncEvent .unknownParticipant msg.participantId msg.sequenceId
        (text "Ignoring ack from unexpected participant") 0.0 msg.computationMs 0.0)])
  | some status =>
      let judged := c.config.judgeAck msg (c.isLate msg.participantId msg.sequenceId)
        responseTime status
      let c' :=
        { c with
          rounds := c.ackRound msg ackTime
          participantStatus := c.participantStatus.insert msg.participantId judged.1 }
      (c'.cleanupRounds, judged.2.map .event ++ c'.publishStatisticsIfCycleDue)

def syncTimerCallback (c : SyncCoordinator D) (now : RosTime) :
    SyncCoordinator D × List (Publication D) :=
  let sequenceId := c.sequenceId + 1
  let participants := c.participantStatus.keys
  let round : RoundStatus D :=
    { triggerTime := now, pending := Std.ExtTreeSet.ofList participants compare }
  let c :=
    { c with
      sequenceId := sequenceId
      rounds := c.rounds.insert sequenceId round
      responseTimers := c.responseTimers.insert sequenceId }
  (c.cleanupRounds,
    .trigger { sequenceId := sequenceId, triggerTime := now, activeParticipantIds := participants }
      :: c.publishStatisticsIfCycleDue)

/-- One pass of the loop over the pending participants; a participant that is
not filed yet would be filed with an empty status. -/
def checkParticipant (config : CoordinatorConfig D) (sequenceId : ℕ)
    (loop : ParticipantMap D × List (SyncEvent D)) (participantId : UInt32) :
    ParticipantMap D × List (SyncEvent D) :=
  let judged := config.judgeMissed participantId sequenceId (loop.1[participantId]?.getD {})
  (loop.1.insert participantId judged.1, loop.2 ++ judged.2)

/-- The part of the check that a round which is still there leads to. -/
def checkRound (c : SyncCoordinator D) (sequenceId : ℕ) (round : RoundStatus D) :
    SyncCoordinator D × List (SyncEvent D) :=
  let judged := round.pending.toList.foldl (checkParticipant c.config sequenceId)
    (c.participantStatus, [])
  ({ c with
      rounds := c.rounds.insert sequenceId { round with monitorChecked := true }
      participantStatus := judged.1 }, judged.2)

def checkResponses (c : SyncCoordinator D) (sequenceId : ℕ) :
    SyncCoordinator D × List (Publication D) :=
  let checked :=
    match c.rounds[sequenceId]? with
    | none => (c, [])
    | some round => c.checkRound sequenceId round
  let c' := { checked.1 with responseTimers := checked.1.responseTimers.erase sequenceId }
  (c'.cleanupRounds, checked.2.map .event ++ c'.publishStatistics)

def checkAllReady (c : SyncCoordinator D) : Bool :=
  c.participantStatus.toList.all (fun pair ↦ pair.2.ready) && !c.participantStatus.isEmpty

/-- The body of the loop of `spin`, after the callbacks; it starts the sync timer. -/
def spinOnce (c : SyncCoordinator D) : SyncCoordinator D × List (Publication D) :=
  if !c.allReady && c.checkAllReady then
    let c := { c with allReady := true }
    (c, .event (syncEvent .allReady 0 c.sequenceId (text "All participants are ready")
      0.0 0.0 0.0) :: c.publishStatistics)
  else (c, [])

/-! ## Construction -/

/-- The private parameters, but for the topics and the rates of the node. -/
structure Params (D : Type) [TimingArith D] where
  participantCount : Int32 := 0
  numParticipants : Int32 := 0
  numUavs : Int32 := 4
  firstParticipantId : Int32 := 1
  samplingTime : D := 0.1
  /-- `none` when it is not set, which gives it the value of the sampling time. -/
  syncPeriod : Option D := none
  timeoutThresholdMs : D := 100.0
  maxConsecutiveTimeouts : Int32 := 3
  statisticsPublishEveryNCycles : Int32 := 0
  statsWindowSize : Int32 := 100
  slowRatioThreshold : D := 0.8
  recoveryGoodCycles : Int32 := 5

namespace Params

def count (params : Params D) : Int32 :=
  if 0 < params.participantCount then params.participantCount
  else if 0 < params.numParticipants then params.numParticipants
  else params.numUavs

def period (params : Params D) : D :=
  let syncPeriod := params.syncPeriod.getD params.samplingTime
  if !DoubleArith.isfinite syncPeriod || DoubleArith.le syncPeriod 0.0 then
    if DoubleArith.isfinite params.samplingTime && lt 0.0 params.samplingTime then
      params.samplingTime
    else 0.1
  else syncPeriod

def participantIds (params : Params D) : List UInt32 :=
  (List.range params.count.toInt.toNat).map fun offset ↦
    (params.firstParticipantId + Int32.ofNat offset).toUInt32

theorem one_le_max (n : Int32) : 1 ≤ max 1 n := by
  change 1 ≤ if 1 ≤ n then n else 1
  split_ifs with h
  · exact h
  · exact Int32.le_refl 1

def config (params : Params D) : CoordinatorConfig D where
  syncPeriod := params.period
  timeoutThresholdMs := params.timeoutThresholdMs
  maxConsecutiveTimeouts := params.maxConsecutiveTimeouts
  statisticsPublishEveryNCycles := params.statisticsPublishEveryNCycles
  statsWindowSize := max 1 params.statsWindowSize
  statsWindowSize_pos := one_le_max _
  slowRatioThreshold := params.slowRatioThreshold
  recoveryGoodCycles := max 1 params.recoveryGoodCycles
  recoveryGoodCycles_pos := one_le_max _

end Params

def create (params : Params D) : SyncCoordinator D where
  config := params.config
  participantStatus := params.participantIds.foldl (fun map id ↦ map.insert id {}) ∅

end SyncCoordinator

end RuntimeSync
