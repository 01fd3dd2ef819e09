import RuntimeSync.Core.Types

/-!
# The cycle scheduler

The scheduler owns no clock.  It is told the time at each tick, computes the
cycle that time belongs to, and emits the cycle unless it has already emitted
it or a later one.
-/

namespace RuntimeSync

structure CycleEvent where
  sessionId : Str := []
  taskId : Str := []
  cycleId : UInt64 := 0
  expectedTimeNs : Int64 := 0
  actualTimeNs : Int64 := 0
  jitterNs : Int64 := 0
  periodNs : Int64 := 0
  clockOk : Bool := false
  deriving DecidableEq

structure CycleSchedulerConfig where
  sessionId : Str := []
  taskId : Str := []
  epochNs : Int64 := 0
  periodNs : Int64 := 0
  startCycle : UInt64 := 0
  maxCycle : UInt64 := 0
  deriving DecidableEq

structure CycleScheduler where
  config : CycleSchedulerConfig := {}
  running : Bool := false
  hasEmitted : Bool := false
  lastEmittedCycle : UInt64 := 0
  deriving DecidableEq

namespace CycleScheduler

/-! ## Bounds -/

section Frequency

variable {D : Type} [DoubleArith D]

def kMinFrequencyHz : D := 0.5
def kMaxFrequencyHz : D := 50.0

def isValidFrequencyHz (frequencyHz : D) : Bool :=
  DoubleArith.isfinite frequencyHz && DoubleArith.le kMinFrequencyHz frequencyHz &&
    DoubleArith.le frequencyHz kMaxFrequencyHz

def periodNsFromFrequencyHz (frequencyHz : D) : Option Int64 :=
  if !isValidFrequencyHz frequencyHz then none
  else some (DoubleArith.llround (1000000000.0 / frequencyHz))

end Frequency

def kMinPeriodNs : Int64 := 20000000
def kMaxPeriodNs : Int64 := 2000000000

def isValidPeriodNs (periodNs : Int64) : Bool :=
  kMinPeriodNs ≤ periodNs && periodNs ≤ kMaxPeriodNs

/-! ## Operations -/

/-- The flag is the source's return value. -/
def configure (s : CycleScheduler) (config : CycleSchedulerConfig) : CycleScheduler × Bool :=
  if !isValidPeriodNs config.periodNs then (s, false)
  else if config.sessionId = [] ∨ config.taskId = [] then (s, false)
  else if 0 < config.maxCycle ∧ config.maxCycle < config.startCycle then (s, false)
  else
    ({ s with config := config, running := false, hasEmitted := false, lastEmittedCycle := 0 },
      true)

def start (s : CycleScheduler) : CycleScheduler :=
  if 0 < s.config.periodNs then { s with running := true } else s

def stop (s : CycleScheduler) : CycleScheduler := { s with running := false }

def computeCycleId (config : CycleSchedulerConfig) (nowNs : Int64) : UInt64 :=
  if nowNs < config.epochNs ∨ config.periodNs ≤ 0 then config.startCycle
  else
    let elapsed := (nowNs - config.epochNs).toUInt64
    config.startCycle + elapsed / config.periodNs.toUInt64

/-- The source divides by the period here without looking at it; no period of
zero gets past `configure`. -/
def expectedTimeNs (config : CycleSchedulerConfig) (cycleId : UInt64) : Int64 :=
  if cycleId ≤ config.startCycle then config.epochNs
  else
    let offsetCycles := cycleId - config.startCycle
    let period := config.periodNs.toUInt64
    if Int64.maxValue.toUInt64 / period < offsetCycles then Int64.maxValue
    else config.epochNs + (offsetCycles * period).toInt64

def tick (s : CycleScheduler) (nowNs : Int64) (clockOk : Bool := true) :
    CycleScheduler × Option CycleEvent :=
  if !s.running ∨ s.config.periodNs ≤ 0 ∨ nowNs < s.config.epochNs then (s, none)
  else
    let cycleId := computeCycleId s.config nowNs
    if 0 < s.config.maxCycle ∧ s.config.maxCycle < cycleId then
      ({ s with running := false }, none)
    else if s.hasEmitted ∧ cycleId ≤ s.lastEmittedCycle then (s, none)
    else
      let expectedTimeNs := expectedTimeNs s.config cycleId
      let event : CycleEvent :=
        { sessionId := s.config.sessionId
          taskId := s.config.taskId
          cycleId := cycleId
          expectedTimeNs := expectedTimeNs
          actualTimeNs := nowNs
          jitterNs := nowNs - expectedTimeNs
          periodNs := s.config.periodNs
          clockOk := clockOk }
      ({ s with hasEmitted := true, lastEmittedCycle := cycleId }, some event)

end CycleScheduler

/-! ## Histories -/

inductive SchedulerCall where
  | start
  | stop
  | tick (nowNs : Int64) (clockOk : Bool)
  deriving DecidableEq

namespace CycleScheduler

def step (s : CycleScheduler) : SchedulerCall → CycleScheduler × Option CycleEvent
  | .start => (s.start, none)
  | .stop => (s.stop, none)
  | .tick nowNs clockOk => s.tick nowNs clockOk

end CycleScheduler

end RuntimeSync
