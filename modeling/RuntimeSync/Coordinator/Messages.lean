import Std.Data.ExtTreeSet
import RuntimeSync.Ros1.RuntimeNode

/-!
# What the coordinator sends and receives

The messages of the synchronised trigger, without the stamps the coordinator
puts on what it publishes.  A sequence id counts the triggers in a 64-bit
number that no run exhausts, and is a natural number here.
-/

namespace RuntimeSync

/-- The operations in `double` of the coordinator, besides those it shares with
the rest of the runtime. -/
class TimingArith (D : Type) extends DoubleArith D, Sub D where
  /-- `(later - earlier).toSec()`. -/
  secondsBetween : RosTime → RosTime → D
  sqrt : D → D
  ofCount : ℕ → D

namespace TimingArith

variable {D : Type} [TimingArith D]

def lt (x y : D) : Bool := DoubleArith.le x y && !DoubleArith.le y x

end TimingArith

/-- Exact times.  The root is exact on the squares. -/
instance : TimingArith ℚ where
  secondsBetween later earlier :=
    ((later.sec.toNat : ℚ) - earlier.sec.toNat) +
      ((later.nsec.toNat : ℚ) - earlier.nsec.toNat) / 1000000000
  sqrt x := (Nat.sqrt (x.num.toNat * x.den) : ℚ) / x.den
  ofCount n := n

structure SyncReady where
  participantId : UInt32
  nodeName : Str := []
  readyTime : RosTime := ⟨0, 0⟩

structure SyncAck (D : Type) where
  participantId : UInt32
  sequenceId : ℕ
  receivedTime : RosTime
  finishedTime : RosTime
  computationMs : D
  success : Bool
  errorMsg : Str := []

structure SyncTrigger where
  sequenceId : ℕ
  triggerTime : RosTime
  activeParticipantIds : List UInt32
  deriving DecidableEq

inductive EventType where
  | ready
  | allReady
  | slow
  | missed
  | lateAck
  | failure
  | recovered
  | unknownParticipant
  | clockAnomaly
  | degraded
  deriving DecidableEq

structure SyncEvent (D : Type) where
  eventType : EventType
  participantId : UInt32
  sequenceId : ℕ
  message : Str
  cycleMs : D
  computationMs : D
  thresholdMs : D

/-- Only the code assigns a participant's status, so its values are the named ones. -/
inductive SyncStatus where
  | ok
  | slow
  | missing
  | failed
  | degraded
  deriving DecidableEq

structure SyncParticipantStats (D : Type) where
  participantId : UInt32
  ready : Bool
  nodeName : Str
  lastAckSequenceId : ℕ
  lastResponseTime : RosTime
  lastComputationMs : D
  lastCycleMs : D
  computationEwmaMs : D
  cycleEwmaMs : D
  computationMeanMs : D
  computationMaxMs : D
  computationStddevMs : D
  cycleMeanMs : D
  cycleMaxMs : D
  cycleStddevMs : D
  missedCount : UInt32
  consecutiveMissedCount : UInt32
  slowCount : UInt32
  consecutiveSlowCount : UInt32
  failureCount : UInt32
  consecutiveFailureCount : UInt32
  goodCycleCount : UInt32
  status : SyncStatus

structure SyncStatistics (D : Type) where
  sequenceId : ℕ
  syncPeriodMs : D
  expectedResponseCount : UInt32
  actualResponseCount : UInt32
  missingResponseCount : UInt32
  roundFinishMs : D
  maxCycleMs : D
  meanCycleMs : D
  stddevCycleMs : D
  stragglerParticipantId : UInt32
  participants : List (SyncParticipantStats D)

/-- A message on one of the three topics of the coordinator. -/
inductive Publication (D : Type) where
  | trigger (msg : SyncTrigger)
  | statistics (msg : SyncStatistics D)
  | event (msg : SyncEvent D)

end RuntimeSync
