import RuntimeSync.Core.EnvelopeCodec
import RuntimeSync.Core.ExpectedSample

/-!
# The deadline checker

A received sample is classified by a fixed order of checks; the first that
fails names the status.  Times are compared after additions in `int64_t`, which
are kept apart from what the checks say: the same definition runs on machine
integers and on exact ones.
-/

namespace RuntimeSync

/-- The arithmetic in which times are added, subtracted and compared. -/
class TimeArith (T : Type) where
  ofNs : Int64 → T
  add : T → T → T
  sub : T → T → T
  lt : T → T → Bool

instance : TimeArith Int64 where
  ofNs t := t
  add x y := x + y
  sub x y := x - y
  lt x y := decide (x < y)

instance : TimeArith ℤ where
  ofNs := Int64.toInt
  add x y := x + y
  sub x y := x - y
  lt x y := decide (x < y)

structure DeadlineDecision where
  status : SampleStatus := .missing
  reason : Str := []
  usable : Bool := false
  deriving DecidableEq

namespace DeadlineChecker

section Check

variable (T : Type) [TimeArith T]

/-- `time > start + offset`. -/
def isAfter (time start offset : Int64) : Bool :=
  TimeArith.lt (TimeArith.add (TimeArith.ofNs start : T) (TimeArith.ofNs offset))
    (TimeArith.ofNs time)

def checkReceivedSample (envelope : SampleEnvelope) (currentCycle : UInt64)
    (cycleStartNs localReceiveNs : Int64) (timing : ChannelTiming) : DeadlineDecision :=
  if envelope.clockOk = false then
    { status := .senderClockBad, reason := text "sender clock is bad" }
  else if envelope.producerStatus ≠ .success then
    { status := .senderReportedFail, reason := text "sender reported non-success producer status" }
  else if timing.payloadType ≠ [] ∧ envelope.payloadType ≠ timing.payloadType then
    { status := .badSchema, reason := text "payload_type mismatch" }
  else if timing.schemaId ≠ [] ∧ envelope.schemaId ≠ timing.schemaId then
    { status := .badSchema, reason := text "schema_id mismatch" }
  else if timing.allowEmptyPayload = false ∧ envelope.payload = [] then
    { status := .badPayload, reason := text "payload is empty" }
  else if verifyPayloadCrc envelope = false then
    { status := .badPayload, reason := text "payload crc mismatch" }
  else if envelope.targetCycle ≠ currentCycle then
    { status := .wrongCycle, reason := text "target_cycle does not match current cycle" }
  else if 0 < timing.publishDeadlineNs ∧
      isAfter T envelope.tPublishNs cycleStartNs timing.publishDeadlineNs = true then
    { status := .late, reason := text "sample was published after publish deadline" }
  else if 0 < timing.receiveCutoffNs ∧
      isAfter T localReceiveNs cycleStartNs timing.receiveCutoffNs = true then
    { status := .late, reason := text "sample arrived after receive cutoff" }
  else
    let ttlNs := if 0 < timing.ttlNs then timing.ttlNs else envelope.ttlNs
    if 0 < ttlNs ∧ isAfter T localReceiveNs envelope.tPublishNs ttlNs = true then
      { status := .late, reason := text "sample ttl expired" }
    else
      { status := .fresh, reason := text "fresh", usable := true }

end Check

/-! ## What a fresh sample is -/

theorem isAfter_exact {time start offset : Int64} :
    isAfter ℤ time start offset = false ↔ time.toInt ≤ start.toInt + offset.toInt := by
  rw [isAfter, ← Bool.not_eq_true, ← not_lt]
  exact not_congr decide_eq_true_iff

/-- The time to live that counts: that of the channel, or else that of the envelope. -/
def effectiveTtlNs (timing : ChannelTiming) (envelope : SampleEnvelope) : Int64 :=
  if 0 < timing.ttlNs then timing.ttlNs else envelope.ttlNs

/-- What the channel asks of a sample, in exact time. -/
structure Timely (timing : ChannelTiming) (cycleStartNs localReceiveNs : Int64)
    (envelope : SampleEnvelope) : Prop where
  published : 0 < timing.publishDeadlineNs →
    envelope.tPublishNs.toInt ≤ cycleStartNs.toInt + timing.publishDeadlineNs.toInt
  received : 0 < timing.receiveCutoffNs →
    localReceiveNs.toInt ≤ cycleStartNs.toInt + timing.receiveCutoffNs.toInt
  alive : 0 < effectiveTtlNs timing envelope →
    localReceiveNs.toInt ≤ envelope.tPublishNs.toInt + (effectiveTtlNs timing envelope).toInt

structure WellFormed (timing : ChannelTiming) (envelope : SampleEnvelope) : Prop where
  clockOk : envelope.clockOk = true
  success : envelope.producerStatus = .success
  payloadType : timing.payloadType ≠ [] → envelope.payloadType = timing.payloadType
  schemaId : timing.schemaId ≠ [] → envelope.schemaId = timing.schemaId
  payload : timing.allowEmptyPayload = false → envelope.payload ≠ []
  crc : verifyPayloadCrc envelope = true

/-- A check that rejects leaves a status other than fresh. -/
theorem fresh_ite_iff {p : Prop} [Decidable p] {status : SampleStatus} {reason : Str}
    {next : DeadlineDecision} (h : status ≠ .fresh) :
    (if p then { status := status, reason := reason } else next).status = .fresh ↔
      ¬p ∧ next.status = .fresh := by
  split
  · next hp => exact iff_of_false h fun hboth ↦ hboth.1 hp
  · next hp => exact (and_iff_right hp).symm

theorem not_late_iff {offset time start : Int64} :
    ¬(0 < offset ∧ isAfter ℤ time start offset = true) ↔
      (0 < offset → time.toInt ≤ start.toInt + offset.toInt) := by
  rw [not_and, Bool.not_eq_true, isAfter_exact]

theorem checkReceivedSample_fresh_iff {envelope : SampleEnvelope} {currentCycle : UInt64}
    {cycleStartNs localReceiveNs : Int64} {timing : ChannelTiming} :
    (checkReceivedSample ℤ envelope currentCycle cycleStartNs localReceiveNs timing).status =
        .fresh ↔
      WellFormed timing envelope ∧ envelope.targetCycle = currentCycle ∧
        Timely timing cycleStartNs localReceiveNs envelope := by
  unfold checkReceivedSample
  dsimp only
  rw [fresh_ite_iff (by decide : SampleStatus.senderClockBad ≠ .fresh),
    fresh_ite_iff (by decide : SampleStatus.senderReportedFail ≠ .fresh),
    fresh_ite_iff (by decide : SampleStatus.badSchema ≠ .fresh),
    fresh_ite_iff (by decide : SampleStatus.badSchema ≠ .fresh),
    fresh_ite_iff (by decide : SampleStatus.badPayload ≠ .fresh),
    fresh_ite_iff (by decide : SampleStatus.badPayload ≠ .fresh),
    fresh_ite_iff (by decide : SampleStatus.wrongCycle ≠ .fresh),
    fresh_ite_iff (by decide : SampleStatus.late ≠ .fresh),
    fresh_ite_iff (by decide : SampleStatus.late ≠ .fresh),
    fresh_ite_iff (by decide : SampleStatus.late ≠ .fresh),
    not_late_iff, not_late_iff, not_late_iff, not_and_not_right, not_and_not_right, not_and,
    not_not, not_not, Bool.not_eq_false, Bool.not_eq_false]
  constructor
  · rintro ⟨hclock, hsuccess, htype, hschema, hpayload, hcrc, hcycle, hpublished, hreceived,
      halive, -⟩
    exact ⟨⟨hclock, hsuccess, htype, hschema, hpayload, hcrc⟩, hcycle,
      ⟨hpublished, hreceived, halive⟩⟩
  · rintro ⟨hformed, hcycle, htimely⟩
    exact ⟨hformed.clockOk, hformed.success, hformed.payloadType, hformed.schemaId,
      hformed.payload, hformed.crc, hcycle, htimely.published, htimely.received,
      htimely.alive, rfl⟩

/-! ## What it never reports -/

/-- No check finds a duplicate, and only a sample of another cycle has the wrong one. -/
structure Reportable (envelope : SampleEnvelope) (currentCycle : UInt64)
    (status : SampleStatus) : Prop where
  ne_duplicate : status ≠ .duplicate
  targetCycle_ne : status = .wrongCycle → envelope.targetCycle ≠ currentCycle

theorem reportable_ite {envelope : SampleEnvelope} {currentCycle : UInt64} {p : Prop}
    [Decidable p] {status : SampleStatus} {reason : Str} {next : DeadlineDecision}
    (hstatus : p → Reportable envelope currentCycle status)
    (hnext : Reportable envelope currentCycle next.status) :
    Reportable envelope currentCycle
      (if p then { status := status, reason := reason } else next).status := by
  split
  · next hp => exact hstatus hp
  · exact hnext

theorem checkReceivedSample_reportable (T : Type) [TimeArith T] (envelope : SampleEnvelope)
    (currentCycle : UInt64) (cycleStartNs localReceiveNs : Int64) (timing : ChannelTiming) :
    Reportable envelope currentCycle
      (checkReceivedSample T envelope currentCycle cycleStartNs localReceiveNs timing).status := by
  have hother : ∀ status : SampleStatus, status ≠ .duplicate → status ≠ .wrongCycle →
      Reportable envelope currentCycle status := fun status hduplicate hcycle ↦
    ⟨hduplicate, fun h ↦ absurd h hcycle⟩
  have hwrong : envelope.targetCycle ≠ currentCycle →
      Reportable envelope currentCycle .wrongCycle := fun hcycle ↦ ⟨nofun, fun _ ↦ hcycle⟩
  unfold checkReceivedSample
  dsimp only
  apply reportable_ite fun _ ↦ hother .senderClockBad nofun nofun
  apply reportable_ite fun _ ↦ hother .senderReportedFail nofun nofun
  apply reportable_ite fun _ ↦ hother .badSchema nofun nofun
  apply reportable_ite fun _ ↦ hother .badSchema nofun nofun
  apply reportable_ite fun _ ↦ hother .badPayload nofun nofun
  apply reportable_ite fun _ ↦ hother .badPayload nofun nofun
  apply reportable_ite hwrong
  apply reportable_ite fun _ ↦ hother .late nofun nofun
  apply reportable_ite fun _ ↦ hother .late nofun nofun
  apply reportable_ite fun _ ↦ hother .late nofun nofun
  exact hother .fresh nofun nofun

end DeadlineChecker

end RuntimeSync
