import RuntimeSync.Core.QualityChecks

/-!
# The cycle window

A second classifier of received samples.  It is given verdicts where the
deadline checker is given the envelope, and it lets a sample live from the
start of the cycle on, not from when it was published.
-/

namespace RuntimeSync.Weaknet

inductive LateDisposition where
  | notLate
  | latePocket
  | expired
  deriving DecidableEq

structure CycleWindowConfig where
  periodNs : Int64 := 0
  receiveCutoffOffsetNs : Int64 := 0
  lateRecordWindowNs : Int64 := 0
  ttlNs : Int64 := 0
  deriving DecidableEq

structure SampleTiming where
  targetCycle : UInt64 := 0
  localReceiveNs : Int64 := 0
  senderClockOk : Bool := true
  schemaOk : Bool := true
  payloadOk : Bool := true
  producerOk : Bool := true
  duplicate : Bool := false
  deriving DecidableEq

structure WindowDecision where
  status : SampleStatus := .missing
  lateDisposition : LateDisposition := .notLate
  usableForCycle : Bool := false
  recordInLatePocket : Bool := false
  reason : Str := []
  deriving DecidableEq

namespace CycleWindow

def valid (cfg : CycleWindowConfig) : Except Str Unit :=
  if cfg.periodNs ≤ 0 then .error (text "period_ns must be positive")
  else if cfg.receiveCutoffOffsetNs < 0 ∨ cfg.lateRecordWindowNs < 0 ∨ cfg.ttlNs < 0 then
    .error (text "window durations must be non-negative")
  else if cfg.periodNs < cfg.receiveCutoffOffsetNs then
    .error (text "receive cutoff must be inside the current cycle")
  else .ok ()

section Classify

variable (T : Type) [TimeArith T]

/-- The part of `classify` that compares times. -/
def classifyTime (cfg : CycleWindowConfig) (cycleStartNs localReceiveNs : Int64) :
    WindowDecision :=
  let received : T := TimeArith.ofNs localReceiveNs
  let cutoffNs : T :=
    TimeArith.add (TimeArith.ofNs cycleStartNs) (TimeArith.ofNs cfg.receiveCutoffOffsetNs)
  if 0 < cfg.receiveCutoffOffsetNs ∧ TimeArith.lt cutoffNs received = true then
    let lateUntilNs : T := TimeArith.add cutoffNs (TimeArith.ofNs cfg.lateRecordWindowNs)
    if cfg.lateRecordWindowNs = 0 ∨ TimeArith.lt lateUntilNs received = false then
      { status := .late, lateDisposition := .latePocket, recordInLatePocket := true,
        reason := text "arrived after receive cutoff" }
    else
      { status := .late, lateDisposition := .expired,
        reason := text "arrived after late record window" }
  else if 0 < cfg.ttlNs ∧
      TimeArith.lt (TimeArith.add (TimeArith.ofNs cycleStartNs) (TimeArith.ofNs cfg.ttlNs))
        received = true then
    { status := .late, lateDisposition := .expired, reason := text "sample ttl expired" }
  else { status := .fresh, usableForCycle := true, reason := text "fresh" }

def classify (cfg : CycleWindowConfig) (currentCycle : UInt64) (cycleStartNs : Int64)
    (sample : SampleTiming) : WindowDecision :=
  if sample.senderClockOk = false then
    { status := .senderClockBad, reason := text "sender clock is bad" }
  else if sample.producerOk = false then
    { status := .senderReportedFail, reason := text "producer reported failure" }
  else if sample.schemaOk = false then
    { status := .badSchema, reason := text "schema check failed" }
  else if sample.payloadOk = false then
    { status := .badPayload, reason := text "payload check failed" }
  else if sample.duplicate = true then
    { status := .duplicate, reason := text "duplicate sample" }
  else if sample.targetCycle ≠ currentCycle then
    { status := .wrongCycle, reason := text "target cycle mismatch" }
  else classifyTime T cfg cycleStartNs sample.localReceiveNs

end Classify

/-! ## Verdicts on an envelope -/

/-- The first sight of an envelope, with the verdicts of a channel on it. -/
def sampleTimingOf (timing : ChannelTiming) (envelope : SampleEnvelope) (localReceiveNs : Int64) :
    SampleTiming where
  targetCycle := envelope.targetCycle
  localReceiveNs := localReceiveNs
  senderClockOk := envelope.clockOk
  schemaOk := DeadlineChecker.schemaOk timing envelope
  payloadOk := DeadlineChecker.payloadOk timing envelope
  producerOk := envelope.producerStatus = .success
  duplicate := false

section Classify

variable {T : Type} [TimeArith T] {cfg : CycleWindowConfig} {timing : ChannelTiming}
  {envelope : SampleEnvelope} {currentCycle : UInt64}

theorem classify_of_failure {status : SampleStatus}
    (h : DeadlineChecker.firstFailure timing envelope currentCycle = some status)
    (cycleStartNs localReceiveNs : Int64) :
    (classify T cfg currentCycle cycleStartNs
      (sampleTimingOf timing envelope localReceiveNs)).status = status := by
  rw [DeadlineChecker.firstFailure] at h
  split_ifs at h with hclock hproducer hschema hpayload hcycle
  all_goals
    cases h
    simp [classify, sampleTimingOf, *]

theorem classify_of_passed (h : DeadlineChecker.firstFailure timing envelope currentCycle = none)
    (cycleStartNs localReceiveNs : Int64) :
    classify T cfg currentCycle cycleStartNs (sampleTimingOf timing envelope localReceiveNs) =
      classifyTime T cfg cycleStartNs localReceiveNs := by
  obtain ⟨hformed, hcycle⟩ := DeadlineChecker.firstFailure_eq_none_iff.mp h
  obtain ⟨hclock, hproducer, hschema, hpayload⟩ :=
    (DeadlineChecker.wellFormed_iff timing envelope).mp hformed
  simp [classify, sampleTimingOf, hclock, hproducer, hschema, hpayload, hcycle]

end Classify

/-! ## Exact times -/

theorem classifyTime_status (T : Type) [TimeArith T] (cfg : CycleWindowConfig)
    (cycleStartNs localReceiveNs : Int64) :
    (classifyTime T cfg cycleStartNs localReceiveNs).status = .fresh ∨
      (classifyTime T cfg cycleStartNs localReceiveNs).status = .late := by
  rw [classifyTime]
  dsimp only
  split_ifs
  · exact .inr rfl
  · exact .inr rfl
  · exact .inr rfl
  · exact .inl rfl

/-- A limit that is switched on and has passed. -/
theorem passed_iff {offset start time : Int64} :
    0 < offset ∧ TimeArith.lt (TimeArith.add (TimeArith.ofNs start : ℤ) (TimeArith.ofNs offset))
        (TimeArith.ofNs time) = true ↔
      0 < offset ∧ start.toInt + offset.toInt < time.toInt :=
  and_congr_right fun _ ↦ decide_eq_true_iff

theorem classifyTime_fresh_iff {cfg : CycleWindowConfig} {cycleStartNs localReceiveNs : Int64} :
    (classifyTime ℤ cfg cycleStartNs localReceiveNs).status = .fresh ↔
      (0 < cfg.receiveCutoffOffsetNs →
        localReceiveNs.toInt ≤ cycleStartNs.toInt + cfg.receiveCutoffOffsetNs.toInt) ∧
      (0 < cfg.ttlNs → localReceiveNs.toInt ≤ cycleStartNs.toInt + cfg.ttlNs.toInt) := by
  rw [classifyTime]
  simp only [passed_iff]
  by_cases hcutoff : 0 < cfg.receiveCutoffOffsetNs ∧
      cycleStartNs.toInt + cfg.receiveCutoffOffsetNs.toInt < localReceiveNs.toInt
  · rw [if_pos hcutoff]
    refine iff_of_false ?_ fun h ↦ absurd (h.1 hcutoff.1) (not_le.mpr hcutoff.2)
    split_ifs
    · exact not_false
    · exact not_false
  · rw [if_neg hcutoff]
    have hreceived := not_and.mp hcutoff
    by_cases httl : 0 < cfg.ttlNs ∧
        cycleStartNs.toInt + cfg.ttlNs.toInt < localReceiveNs.toInt
    · rw [if_pos httl]
      exact iff_of_false SampleStatus.noConfusion
        fun h ↦ absurd (h.2 httl.1) (not_le.mpr httl.2)
    · rw [if_neg httl]
      exact iff_of_true rfl ⟨fun h ↦ not_lt.mp (hreceived h),
        fun h ↦ not_lt.mp (not_and.mp httl h)⟩

theorem classifyTime_of_expired {cfg : CycleWindowConfig} {cycleStartNs localReceiveNs : Int64}
    (hcutoff : 0 < cfg.receiveCutoffOffsetNs →
      localReceiveNs.toInt ≤ cycleStartNs.toInt + cfg.receiveCutoffOffsetNs.toInt)
    (httl : 0 < cfg.ttlNs)
    (hexpired : cycleStartNs.toInt + cfg.ttlNs.toInt < localReceiveNs.toInt) :
    classifyTime ℤ cfg cycleStartNs localReceiveNs =
      { status := .late, lateDisposition := .expired, reason := text "sample ttl expired" } := by
  rw [classifyTime]
  simp only [passed_iff]
  rw [if_neg, if_pos ⟨httl, hexpired⟩]
  rintro ⟨hpositive, hlate⟩
  exact absurd (hcutoff hpositive) (not_le.mpr hlate)

/-! ## The two classifiers -/

/-- What only the window finds late: the sample came within the cutoff and
within its life as counted from its publication, but not as counted from the
start of the cycle. -/
structure OutlivesCycle (timing : ChannelTiming) (envelope : SampleEnvelope)
    (currentCycle : UInt64) (cycleStartNs localReceiveNs : Int64) : Prop where
  formed : DeadlineChecker.WellFormed timing envelope
  targetCycle : envelope.targetCycle = currentCycle
  expired : cycleStartNs.toInt + timing.ttlNs.toInt < localReceiveNs.toInt
  alive : localReceiveNs.toInt ≤ envelope.tPublishNs.toInt + timing.ttlNs.toInt
  received : timing.receiveCutoffNs = 0 ∨
    localReceiveNs.toInt ≤ cycleStartNs.toInt + timing.receiveCutoffNs.toInt

section Limits

variable {cfg : CycleWindowConfig} {timing : ChannelTiming} {envelope : SampleEnvelope}
  {currentCycle : UInt64} {cycleStartNs localReceiveNs : Int64}

theorem timely_iff (hdeadline : timing.publishDeadlineNs = 0) (httl : 0 < timing.ttlNs) :
    DeadlineChecker.Timely timing cycleStartNs localReceiveNs envelope ↔
      (0 < timing.receiveCutoffNs →
        localReceiveNs.toInt ≤ cycleStartNs.toInt + timing.receiveCutoffNs.toInt) ∧
      localReceiveNs.toInt ≤ envelope.tPublishNs.toInt + timing.ttlNs.toInt := by
  have heffective : DeadlineChecker.effectiveTtlNs timing envelope = timing.ttlNs := if_pos httl
  constructor
  · intro h
    have halive := h.alive
    rw [heffective] at halive
    exact ⟨h.received, halive httl⟩
  · rintro ⟨hreceived, halive⟩
    refine ⟨fun h ↦ ?_, hreceived, fun _ ↦ ?_⟩
    · rw [hdeadline] at h
      exact absurd h (by decide)
    · rw [heffective]
      exact halive

theorem outlivesCycle_iff (hformed : DeadlineChecker.WellFormed timing envelope)
    (hcycle : envelope.targetCycle = currentCycle)
    (hdeadline : timing.publishDeadlineNs = 0) (hcutoff : 0 ≤ timing.receiveCutoffNs)
    (httl : 0 < timing.ttlNs) (hsameCutoff : cfg.receiveCutoffOffsetNs = timing.receiveCutoffNs)
    (hsameTtl : cfg.ttlNs = timing.ttlNs) :
    OutlivesCycle timing envelope currentCycle cycleStartNs localReceiveNs ↔
      DeadlineChecker.Timely timing cycleStartNs localReceiveNs envelope ∧
        (classifyTime ℤ cfg cycleStartNs localReceiveNs).status ≠ .fresh := by
  have hzero : timing.receiveCutoffNs = 0 ↔ ¬0 < timing.receiveCutoffNs :=
    ⟨fun h ↦ by rw [h]; decide, fun h ↦ Int64.le_antisymm (Int64.not_lt.mp h) hcutoff⟩
  rw [timely_iff hdeadline httl, ne_eq, classifyTime_fresh_iff, hsameCutoff, hsameTtl]
  constructor
  · intro h
    refine ⟨⟨fun hpositive ↦ ?_, h.alive⟩, fun hfresh ↦ ?_⟩
    · exact h.received.resolve_left fun hnone ↦ hzero.mp hnone hpositive
    · exact absurd (hfresh.2 httl) (not_le.mpr h.expired)
  · rintro ⟨⟨hreceived, halive⟩, hnot⟩
    refine ⟨hformed, hcycle, ?_, halive, ?_⟩
    · by_contra hlife
      exact hnot ⟨hreceived, fun _ ↦ not_lt.mp hlife⟩
    · rw [hzero, ← imp_iff_not_or]
      exact hreceived

/-- The life from the start of the cycle ends first. -/
theorem timely_of_classifyTime_fresh (hdeadline : timing.publishDeadlineNs = 0)
    (httl : 0 < timing.ttlNs) (hsameCutoff : cfg.receiveCutoffOffsetNs = timing.receiveCutoffNs)
    (hsameTtl : cfg.ttlNs = timing.ttlNs) (hpublish : cycleStartNs ≤ envelope.tPublishNs)
    (h : (classifyTime ℤ cfg cycleStartNs localReceiveNs).status = .fresh) :
    DeadlineChecker.Timely timing cycleStartNs localReceiveNs envelope := by
  rw [classifyTime_fresh_iff, hsameCutoff, hsameTtl] at h
  obtain ⟨hreceived, hlife⟩ := h
  have hstart := Int64.le_iff_toInt_le.mp hpublish
  have hreceivedInLife := hlife httl
  exact (timely_iff hdeadline httl).mpr ⟨hreceived, by omega⟩

end Limits

/-- Two verdicts on a time, of which the first is the stricter one. -/
theorem ne_iff_of_fresh_or_late {strict lenient : SampleStatus}
    (hstrict : strict = .fresh ∨ strict = .late) (hlenient : lenient = .fresh ∨ lenient = .late)
    (himp : strict = .fresh → lenient = .fresh) :
    strict ≠ lenient ↔ lenient = .fresh ∧ strict ≠ .fresh := by
  obtain rfl | rfl := hstrict
  · rw [himp rfl]
    exact iff_of_false (fun h ↦ h rfl) fun h ↦ h.2 rfl
  · obtain rfl | rfl := hlenient
    · decide
    · decide

/-- Of a channel without a publish deadline and a window with the same limits,
for a sample that is not published before the cycle. -/
theorem classify_agrees (cfg : CycleWindowConfig) (timing : ChannelTiming)
    (envelope : SampleEnvelope) (currentCycle : UInt64) (cycleStartNs localReceiveNs : Int64)
    (hdeadline : timing.publishDeadlineNs = 0) (hcutoff : 0 ≤ timing.receiveCutoffNs)
    (httl : 0 < timing.ttlNs) (hsameCutoff : cfg.receiveCutoffOffsetNs = timing.receiveCutoffNs)
    (hsameTtl : cfg.ttlNs = timing.ttlNs) (hpublish : cycleStartNs ≤ envelope.tPublishNs) :
    let windowed := classify ℤ cfg currentCycle cycleStartNs
      (sampleTimingOf timing envelope localReceiveNs)
    let checked := DeadlineChecker.checkReceivedSample ℤ envelope currentCycle cycleStartNs
      localReceiveNs timing
    (windowed.status ≠ checked.status ↔
        OutlivesCycle timing envelope currentCycle cycleStartNs localReceiveNs) ∧
      (OutlivesCycle timing envelope currentCycle cycleStartNs localReceiveNs →
        windowed.status = .late ∧ windowed.reason = text "sample ttl expired" ∧
          checked.status = .fresh) ∧
      (windowed.status = .fresh → checked.status = .fresh) := by
  cases hfailure : DeadlineChecker.firstFailure timing envelope currentCycle with
  | some status =>
      have hnot : ¬OutlivesCycle timing envelope currentCycle cycleStartNs localReceiveNs := by
        intro h
        rw [DeadlineChecker.firstFailure_eq_none_iff.mpr ⟨h.formed, h.targetCycle⟩] at hfailure
        cases hfailure
      dsimp only
      rw [classify_of_failure hfailure, DeadlineChecker.checkReceivedSample_of_failure hfailure]
      exact ⟨iff_of_false (fun h ↦ h rfl) hnot, fun h ↦ absurd h hnot, id⟩
  | none =>
      obtain ⟨hformed, hcycle⟩ := DeadlineChecker.firstFailure_eq_none_iff.mp hfailure
      dsimp only
      rw [classify_of_passed hfailure, DeadlineChecker.checkReceivedSample_of_passed hfailure]
      have houtlives : OutlivesCycle timing envelope currentCycle cycleStartNs localReceiveNs ↔ _ :=
        outlivesCycle_iff hformed hcycle hdeadline hcutoff httl hsameCutoff hsameTtl
      rw [← DeadlineChecker.timeDecision_fresh_iff] at houtlives
      have himp : (classifyTime ℤ cfg cycleStartNs localReceiveNs).status = .fresh →
          (DeadlineChecker.timeDecision ℤ envelope cycleStartNs localReceiveNs timing).status =
            .fresh := fun hfresh ↦ DeadlineChecker.timeDecision_fresh_iff.mpr
        (timely_of_classifyTime_fresh hdeadline httl hsameCutoff hsameTtl hpublish hfresh)
      refine ⟨?_, fun h ↦ ?_, himp⟩
      · rw [houtlives]
        exact ne_iff_of_fresh_or_late (classifyTime_status ℤ cfg cycleStartNs localReceiveNs)
          (DeadlineChecker.timeDecision_status ℤ envelope cycleStartNs localReceiveNs timing) himp
      · have hchecked := (houtlives.mp h).1
        have hreceived := ((timely_iff hdeadline httl).mp
          (DeadlineChecker.timeDecision_fresh_iff.mp hchecked)).1
        have hexpired := h.expired
        rw [← hsameCutoff] at hreceived
        rw [← hsameTtl] at httl hexpired
        rw [classifyTime_of_expired hreceived httl hexpired]
        exact ⟨rfl, rfl, hchecked⟩

/-- A sample of the tenth cycle, published 80 ns after its start and received
after another 40. -/
def borderEnvelope : SampleEnvelope where
  targetCycle := 10
  tPublishNs := 1080
  producerStatus := .success
  clockOk := true
  payloadCrc32c := crc32c []

/-- With a life of 100 ns it is late by the window, and fresh by the checker. -/
theorem borderEnvelope_disagrees :
    (classify ℤ { periodNs := 1000, ttlNs := 100 } 10 1000
        (sampleTimingOf { ttlNs := 100 } borderEnvelope 1120)).status ≠
      (DeadlineChecker.checkReceivedSample ℤ borderEnvelope 10 1000 1120 { ttlNs := 100 }).status :=
  (classify_agrees { periodNs := 1000, ttlNs := 100 } { ttlNs := 100 } borderEnvelope 10 1000 1120
    rfl (by decide) (by decide) rfl rfl (by decide)).1.mpr
    ⟨⟨rfl, rfl, fun h ↦ absurd rfl h, fun h ↦ absurd rfl h, fun h ↦ absurd h (by decide),
      by decide +kernel⟩, rfl, by decide, by decide, .inl rfl⟩

end CycleWindow

end RuntimeSync.Weaknet
