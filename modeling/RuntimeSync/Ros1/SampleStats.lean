import RuntimeSync.Core.SnapshotCounts
import RuntimeSync.Ros1.RuntimeNode

/-!
# The sample statistics of the runtime node

Beside each snapshot the node publishes a message with counters only.  What the
message calls received are the samples that passed the checks of their content,
so a sample that arrived with a defect is neither received nor missing.
-/

namespace RuntimeSync

structure SampleStats where
  stamp : RosTime
  teamId : Str
  sessionId : Str
  taskId : Str
  selfId : Str
  cycleId : UInt64
  publishedCount : UInt32 := 0
  receivedCount : UInt32
  freshCount : UInt32
  missingCount : UInt32
  lateCount : UInt32
  duplicateCount : UInt32 := 0
  wrongCycleCount : UInt32
  badSchemaCount : UInt32 := 0
  badPayloadCount : UInt32 := 0
  senderClockBadCount : UInt32 := 0
  deriving DecidableEq

namespace SampleStats

variable {T : Type} [TimeArith T]

/-- The body of the loop over the views. -/
def countFlags (msg : SampleStats) (sample : PeerSampleView T) : SampleStats :=
  { msg with
    duplicateCount := if sample.duplicate then msg.duplicateCount + 1 else msg.duplicateCount
    badSchemaCount := if sample.badSchema then msg.badSchemaCount + 1 else msg.badSchemaCount
    badPayloadCount := if sample.badCrc then msg.badPayloadCount + 1 else msg.badPayloadCount
    senderClockBadCount :=
      if sample.senderClockBad then msg.senderClockBadCount + 1 else msg.senderClockBadCount }

/-- What the loop does not write. -/
theorem foldl_countFlags {β : Type} (field : SampleStats → β)
    (hfield : ∀ msg (sample : PeerSampleView T), field (msg.countFlags sample) = field msg)
    (samples : List (PeerSampleView T)) (msg : SampleStats) :
    field (samples.foldl countFlags msg) = field msg := by
  induction samples generalizing msg with
  | nil => rfl
  | cons sample rest ih => rw [List.foldl_cons, ih, hfield]

end SampleStats

namespace SwarmRuntimeNode

def toSampleStatsMsg {T : Type} [TimeArith T] (node : SwarmRuntimeNode)
    (snapshot : CycleSnapshot T) (stamp : RosTime) : SampleStats :=
  snapshot.samples.foldl SampleStats.countFlags
    { stamp := stamp
      teamId := node.config.teamId
      sessionId := snapshot.sessionId
      taskId := snapshot.taskId
      selfId := snapshot.selfId
      cycleId := snapshot.cycleId
      receivedCount := snapshot.stats.freshCount + snapshot.stats.lateCount
      freshCount := snapshot.stats.freshCount
      missingCount := snapshot.stats.missingCount
      lateCount := snapshot.stats.lateCount
      wrongCycleCount := snapshot.stats.wrongCycleCount }

section Message

variable {T : Type} [TimeArith T] (node : SwarmRuntimeNode) (snapshot : CycleSnapshot T)
  (stamp : RosTime)

theorem receivedCount_toSampleStatsMsg :
    (node.toSampleStatsMsg snapshot stamp).receivedCount =
      snapshot.stats.freshCount + snapshot.stats.lateCount :=
  SampleStats.foldl_countFlags SampleStats.receivedCount (fun _ _ ↦ rfl) snapshot.samples _

theorem missingCount_toSampleStatsMsg :
    (node.toSampleStatsMsg snapshot stamp).missingCount = snapshot.stats.missingCount :=
  SampleStats.foldl_countFlags SampleStats.missingCount (fun _ _ ↦ rfl) snapshot.samples _

end Message

end SwarmRuntimeNode

namespace SnapshotBuilder

/-- The buffer holds no sample with a defect for the request, and a counter has
room for the expected samples it holds and for those it does not hold. -/
structure Intact (request : SnapshotBuildRequest) (buffer : SampleBuffer) : Prop where
  formed : ∀ expected ∈ request.expectedSamples, ∀ found,
    buffer.find expected.peerId expected.channel request.cycleId = some found →
      DeadlineChecker.WellFormed expected.timing found.envelope
  found : (request.expectedSamples.countP fun expected ↦
    (buffer.find expected.peerId expected.channel request.cycleId).isSome) < 2 ^ 32
  absent : (request.expectedSamples.countP fun expected ↦
    (buffer.find expected.peerId expected.channel request.cycleId).isNone) < 2 ^ 32

end SnapshotBuilder

namespace SwarmRuntimeNode

open SnapshotBuilder

/-- Every one of `n` samples is reported as received or as missing. -/
def ReportsAll (msg : SampleStats) (n : ℕ) : Prop :=
  msg.receivedCount.toNat + msg.missingCount.toNat = n

instance (msg : SampleStats) (n : ℕ) : Decidable (ReportsAll msg n) :=
  inferInstanceAs (Decidable (_ = _))

/-- The message reports all expected samples exactly when no sample that the
buffer holds for them has a defect and no counter wraps. -/
theorem reportsAll_iff_intact {T : Type} [TimeArith T] (node : SwarmRuntimeNode)
    (request : SnapshotBuildRequest) (buffer : SampleBuffer) (stamp : RosTime) :
    ReportsAll (node.toSampleStatsMsg (build T request buffer) stamp)
        request.expectedSamples.length ↔ Intact request buffer := by
  have hsum := sum_tally_samples T request buffer
  have hlength := length_eq_found_add_absent request buffer
  have hmissing := tally_missing T request buffer
  have hbad := tally_bad_eq_zero_iff T request buffer
  have hfresh : (build T request buffer).stats.freshCount.toNat = _ :=
    toNat_read_build T request buffer .fresh
  have hlate : (build T request buffer).stats.lateCount.toNat = _ :=
    toNat_read_build T request buffer .late
  have hleft : (build T request buffer).stats.missingCount.toNat = _ :=
    toNat_read_build T request buffer .missing
  rw [ReportsAll, receivedCount_toSampleStatsMsg, missingCount_toSampleStatsMsg,
    UInt32.toNat_add, hfresh, hlate, hleft]
  constructor
  · intro h
    exact ⟨hbad.mp (by omega), by omega, by omega⟩
  · intro h
    have hformed := hbad.mpr h.formed
    have hfound := h.found
    have habsent := h.absent
    omega

/-- Of three expected samples one is received and one is missing; the third one
came from a solver that failed. -/
theorem failedSample_not_reported :
    ¬ReportsAll
      (({} : SwarmRuntimeNode).toSampleStatsMsg
        (build Int64 threePeers threePeersBuffer) { sec := 0, nsec := 0 })
      threePeers.expectedSamples.length := by
  decide +kernel

end SwarmRuntimeNode

end RuntimeSync
