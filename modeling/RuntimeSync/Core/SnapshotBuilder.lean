import RuntimeSync.Core.DeadlineChecker
import RuntimeSync.Core.SampleBuffer

/-!
# Cycle snapshots

One view for every expected sample of a cycle, together with the counts of
what the views report.
-/

namespace RuntimeSync

structure PeerSampleView (T : Type) [TimeArith T] where
  peerId : Str := []
  channel : Str := []
  status : SampleStatus := .missing
  sample : Option SampleEnvelope := none
  expectedTargetCycle : UInt64 := 0
  receivedTargetCycle : UInt64 := 0
  tLocalReceiveNs : Int64 := 0
  receiveLatencyNs : T := TimeArith.ofNs 0
  freshForThisCycle : Bool := false
  lateForThisCycle : Bool := false
  duplicate : Bool := false
  wrongCycle : Bool := false
  badSchema : Bool := false
  badCrc : Bool := false
  senderClockBad : Bool := false
  dropReason : Str := []
  deriving DecidableEq

structure SnapshotStats where
  freshCount : UInt32 := 0
  missingCount : UInt32 := 0
  lateCount : UInt32 := 0
  wrongCycleCount : UInt32 := 0
  badCount : UInt32 := 0
  deriving DecidableEq

structure CycleSnapshot (T : Type) [TimeArith T] where
  sessionId : Str := []
  taskId : Str := []
  selfId : Str := []
  cycleId : UInt64 := 0
  tCycleStartNs : Int64 := 0
  periodNs : Int64 := 0
  localClock : ClockState := {}
  localRuntime : RuntimeState := {}
  samples : List (PeerSampleView T) := []
  stats : SnapshotStats := {}
  allRequiredFresh : Bool := false
  allRequiredUsable : Bool := false
  deriving DecidableEq

structure SnapshotBuildRequest where
  sessionId : Str := []
  taskId : Str := []
  selfId : Str := []
  cycleId : UInt64 := 0
  cycleStartNs : Int64 := 0
  periodNs : Int64 := 0
  localClock : ClockState := {}
  localRuntime : RuntimeState := {}
  expectedSamples : List ExpectedSample := []
  deriving DecidableEq

namespace SnapshotBuilder

def isBadStatus (status : SampleStatus) : Bool :=
  status = .badSchema || status = .badPayload || status = .senderClockBad ||
    status = .senderReportedFail || status = .transportError

def accountStatus (stats : SnapshotStats) (status : SampleStatus) : SnapshotStats :=
  match status with
  | .fresh => { stats with freshCount := stats.freshCount + 1 }
  | .missing => { stats with missingCount := stats.missingCount + 1 }
  | .late => { stats with lateCount := stats.lateCount + 1 }
  | .wrongCycle => { stats with wrongCycleCount := stats.wrongCycleCount + 1 }
  | other =>
      if isBadStatus other = true ∨ other = .duplicate then
        { stats with badCount := stats.badCount + 1 }
      else stats

section Build

variable (T : Type) [TimeArith T]

/-- The view of one expected sample. -/
def viewOf (request : SnapshotBuildRequest) (buffer : SampleBuffer) (expected : ExpectedSample) :
    PeerSampleView T :=
  let view : PeerSampleView T :=
    { peerId := expected.peerId, channel := expected.channel,
      expectedTargetCycle := request.cycleId }
  match buffer.find expected.peerId expected.channel request.cycleId with
  | none => { view with status := .missing, dropReason := text "missing" }
  | some buffered =>
      let decision := DeadlineChecker.checkReceivedSample T buffered.envelope request.cycleId
        request.cycleStartNs buffered.localReceiveNs expected.timing
      { view with
        status := decision.status
        sample := some buffered.envelope
        receivedTargetCycle := buffered.envelope.targetCycle
        tLocalReceiveNs := buffered.localReceiveNs
        receiveLatencyNs := TimeArith.sub (TimeArith.ofNs buffered.localReceiveNs)
          (TimeArith.ofNs buffered.envelope.tPublishNs)
        freshForThisCycle := decide (decision.status = .fresh)
        lateForThisCycle := decide (decision.status = .late)
        wrongCycle := decide (decision.status = .wrongCycle)
        badSchema := decide (decision.status = .badSchema)
        badCrc := decide (decision.status = .badPayload)
        senderClockBad := decide (decision.status = .senderClockBad)
        dropReason := decision.reason }

variable {T}

/-- The body of the loop over the expected samples. -/
def addView (snapshot : CycleSnapshot T) (required : Bool) (view : PeerSampleView T) :
    CycleSnapshot T :=
  let fresh := decide (view.status = .fresh)
  { snapshot with
    allRequiredFresh :=
      if required then snapshot.allRequiredFresh && fresh else snapshot.allRequiredFresh
    allRequiredUsable :=
      if required then snapshot.allRequiredUsable && fresh else snapshot.allRequiredUsable
    stats := accountStatus snapshot.stats view.status
    samples := snapshot.samples ++ [view] }

variable (T)

def build (request : SnapshotBuildRequest) (buffer : SampleBuffer) : CycleSnapshot T :=
  request.expectedSamples.foldl
    (fun snapshot expected ↦ addView snapshot expected.required (viewOf T request buffer expected))
    { sessionId := request.sessionId
      taskId := request.taskId
      selfId := request.selfId
      cycleId := request.cycleId
      tCycleStartNs := request.cycleStartNs
      periodNs := request.periodNs
      localClock := request.localClock
      localRuntime := { request.localRuntime with currentCycle := request.cycleId }
      allRequiredFresh := true
      allRequiredUsable := true }

/-! ## Views and expected samples -/

theorem viewOf_of_find_none {request : SnapshotBuildRequest} {buffer : SampleBuffer}
    {expected : ExpectedSample}
    (h : buffer.find expected.peerId expected.channel request.cycleId = none) :
    (viewOf T request buffer expected).status = .missing := by
  rw [viewOf, h]

theorem viewOf_of_find_some {request : SnapshotBuildRequest} {buffer : SampleBuffer}
    {expected : ExpectedSample} {found : BufferedSample}
    (h : buffer.find expected.peerId expected.channel request.cycleId = some found) :
    (viewOf T request buffer expected).status =
      (DeadlineChecker.checkReceivedSample T found.envelope request.cycleId request.cycleStartNs
        found.localReceiveNs expected.timing).status := by
  rw [viewOf, h]

theorem foldl_addView_samples (request : SnapshotBuildRequest) (buffer : SampleBuffer)
    (expectedSamples : List ExpectedSample) (snapshot : CycleSnapshot T) :
    (expectedSamples.foldl (fun snapshot expected ↦
        addView snapshot expected.required (viewOf T request buffer expected)) snapshot).samples =
      snapshot.samples ++ expectedSamples.map (viewOf T request buffer) := by
  induction expectedSamples generalizing snapshot with
  | nil => exact (List.append_nil _).symm
  | cons expected rest ih =>
      rw [List.foldl_cons, ih, List.map_cons, addView, List.append_assoc]
      rfl

/-- The views stand in the order of the expected samples. -/
theorem build_samples (request : SnapshotBuildRequest) (buffer : SampleBuffer) :
    (build T request buffer).samples =
      request.expectedSamples.map (viewOf T request buffer) :=
  foldl_addView_samples T request buffer request.expectedSamples _

end Build

end SnapshotBuilder

end RuntimeSync
