import RuntimeSync.Core.DeadlineChecker

/-!
# Checks without a clock

The checks of a received sample come in two parts.  The first part looks at
what the sample carries and at its cycle, and the second part at times.
-/

namespace RuntimeSync.DeadlineChecker

def schemaOk (timing : ChannelTiming) (envelope : SampleEnvelope) : Bool :=
  (timing.payloadType = [] ∨ envelope.payloadType = timing.payloadType) ∧
    (timing.schemaId = [] ∨ envelope.schemaId = timing.schemaId)

def payloadOk (timing : ChannelTiming) (envelope : SampleEnvelope) : Bool :=
  (timing.allowEmptyPayload || envelope.payload ≠ []) && verifyPayloadCrc envelope

/-- What the first part says of a sample that does not pass it. -/
def firstFailure (timing : ChannelTiming) (envelope : SampleEnvelope) (currentCycle : UInt64) :
    Option SampleStatus :=
  if envelope.clockOk = false then some .senderClockBad
  else if envelope.producerStatus ≠ .success then some .senderReportedFail
  else if schemaOk timing envelope = false then some .badSchema
  else if payloadOk timing envelope = false then some .badPayload
  else if envelope.targetCycle ≠ currentCycle then some .wrongCycle
  else none

/-- The second part. -/
def timeDecision (T : Type) [TimeArith T] (envelope : SampleEnvelope)
    (cycleStartNs localReceiveNs : Int64) (timing : ChannelTiming) : DeadlineDecision :=
  if 0 < timing.publishDeadlineNs ∧
      isAfter T envelope.tPublishNs cycleStartNs timing.publishDeadlineNs = true then
    { status := .late, reason := text "sample was published after publish deadline" }
  else if 0 < timing.receiveCutoffNs ∧
      isAfter T localReceiveNs cycleStartNs timing.receiveCutoffNs = true then
    { status := .late, reason := text "sample arrived after receive cutoff" }
  else if 0 < effectiveTtlNs timing envelope ∧
      isAfter T localReceiveNs envelope.tPublishNs (effectiveTtlNs timing envelope) = true then
    { status := .late, reason := text "sample ttl expired" }
  else { status := .fresh, reason := text "fresh", usable := true }

theorem schemaOk_iff {timing : ChannelTiming} {envelope : SampleEnvelope} :
    schemaOk timing envelope = true ↔
      (timing.payloadType ≠ [] → envelope.payloadType = timing.payloadType) ∧
        (timing.schemaId ≠ [] → envelope.schemaId = timing.schemaId) := by
  rw [schemaOk, decide_eq_true_iff, or_iff_not_imp_left, or_iff_not_imp_left]

theorem payloadOk_iff {timing : ChannelTiming} {envelope : SampleEnvelope} :
    payloadOk timing envelope = true ↔
      (timing.allowEmptyPayload = false → envelope.payload ≠ []) ∧
        verifyPayloadCrc envelope = true := by
  rw [payloadOk, Bool.and_eq_true, Bool.or_eq_true, or_iff_not_imp_left, Bool.not_eq_true,
    decide_eq_true_iff]

theorem wellFormed_iff (timing : ChannelTiming) (envelope : SampleEnvelope) :
    WellFormed timing envelope ↔
      envelope.clockOk = true ∧ envelope.producerStatus = .success ∧
        schemaOk timing envelope = true ∧ payloadOk timing envelope = true := by
  rw [schemaOk_iff, payloadOk_iff]
  constructor
  · intro h
    exact ⟨h.clockOk, h.success, ⟨h.payloadType, h.schemaId⟩, h.payload, h.crc⟩
  · rintro ⟨hclock, hsuccess, ⟨htype, hschema⟩, hpayload, hcrc⟩
    exact ⟨hclock, hsuccess, htype, hschema, hpayload, hcrc⟩

theorem firstFailure_eq_none_iff {timing : ChannelTiming} {envelope : SampleEnvelope}
    {currentCycle : UInt64} :
    firstFailure timing envelope currentCycle = none ↔
      WellFormed timing envelope ∧ envelope.targetCycle = currentCycle := by
  rw [wellFormed_iff, firstFailure]
  split_ifs with hclock hproducer hschema hpayload hcycle
  · simp [hclock]
  · simp [hproducer]
  · simp [hschema]
  · simp [hpayload]
  · simp [hcycle]
  · simp_all

/-- Nothing fails but the five checks of the first part. -/
theorem firstFailure_eq_some {timing : ChannelTiming} {envelope : SampleEnvelope}
    {currentCycle : UInt64} {status : SampleStatus}
    (h : firstFailure timing envelope currentCycle = some status) :
    status = .senderClockBad ∨ status = .senderReportedFail ∨ status = .badSchema ∨
      status = .badPayload ∨ status = .wrongCycle ∧ envelope.targetCycle ≠ currentCycle := by
  rw [firstFailure] at h
  split_ifs at h with hclock hproducer hschema hpayload hcycle
  all_goals
    cases h
    simp
  exact hcycle

/-- The first part, in front of whatever comes after it. -/
def afterQuality (envelope : SampleEnvelope) (currentCycle : UInt64) (timing : ChannelTiming)
    (next : Option DeadlineDecision) : Option DeadlineDecision :=
  if envelope.clockOk = false then
    some { status := .senderClockBad, reason := text "sender clock is bad" }
  else if envelope.producerStatus ≠ .success then
    some { status := .senderReportedFail,
           reason := text "sender reported non-success producer status" }
  else if timing.payloadType ≠ [] ∧ envelope.payloadType ≠ timing.payloadType then
    some { status := .badSchema, reason := text "payload_type mismatch" }
  else if timing.schemaId ≠ [] ∧ envelope.schemaId ≠ timing.schemaId then
    some { status := .badSchema, reason := text "schema_id mismatch" }
  else if timing.allowEmptyPayload = false ∧ envelope.payload = [] then
    some { status := .badPayload, reason := text "payload is empty" }
  else if verifyPayloadCrc envelope = false then
    some { status := .badPayload, reason := text "payload crc mismatch" }
  else if envelope.targetCycle ≠ currentCycle then
    some { status := .wrongCycle, reason := text "target_cycle does not match current cycle" }
  else next

theorem some_ite {p : Prop} [Decidable p] {decision next : DeadlineDecision}
    {next' : Option DeadlineDecision} (h : some next = next') :
    some (if p then decision else next) = if p then some decision else next' := by
  rw [← h, apply_ite some]

theorem checkReceivedSample_eq_afterQuality (T : Type) [TimeArith T] (envelope : SampleEnvelope)
    (currentCycle : UInt64) (cycleStartNs localReceiveNs : Int64) (timing : ChannelTiming) :
    some (checkReceivedSample T envelope currentCycle cycleStartNs localReceiveNs timing) =
      afterQuality envelope currentCycle timing
        (some (timeDecision T envelope cycleStartNs localReceiveNs timing)) := by
  unfold checkReceivedSample afterQuality
  refine some_ite (some_ite (some_ite (some_ite (some_ite (some_ite (some_ite ?_))))))
  rfl

theorem afterQuality_of_passed {envelope : SampleEnvelope} {currentCycle : UInt64}
    {timing : ChannelTiming} (hformed : WellFormed timing envelope)
    (hcycle : envelope.targetCycle = currentCycle) (next : Option DeadlineDecision) :
    afterQuality envelope currentCycle timing next = next := by
  rw [afterQuality, if_neg (by simp [hformed.clockOk]),
    if_neg (not_not.mpr hformed.success), if_neg (not_and_not_right.mpr hformed.payloadType),
    if_neg (not_and_not_right.mpr hformed.schemaId), if_neg (not_and.mpr hformed.payload),
    if_neg (by simp [hformed.crc]), if_neg (not_not.mpr hcycle)]

theorem afterQuality_of_failed {envelope : SampleEnvelope} {currentCycle : UInt64}
    {timing : ChannelTiming}
    (h : ¬(WellFormed timing envelope ∧ envelope.targetCycle = currentCycle))
    (next next' : Option DeadlineDecision) :
    afterQuality envelope currentCycle timing next =
      afterQuality envelope currentCycle timing next' := by
  unfold afterQuality
  refine ite_congr rfl (fun _ ↦ rfl) fun hclock ↦ ?_
  refine ite_congr rfl (fun _ ↦ rfl) fun hproducer ↦ ?_
  refine ite_congr rfl (fun _ ↦ rfl) fun htype ↦ ?_
  refine ite_congr rfl (fun _ ↦ rfl) fun hschema ↦ ?_
  refine ite_congr rfl (fun _ ↦ rfl) fun hempty ↦ ?_
  refine ite_congr rfl (fun _ ↦ rfl) fun hcrc ↦ ?_
  refine ite_congr rfl (fun _ ↦ rfl) fun hcycle ↦ ?_
  -- a sample that passes all seven is excluded
  refine absurd ⟨⟨?_, ?_, ?_, ?_, ?_, ?_⟩, not_not.mp hcycle⟩ h
  · exact Bool.eq_true_of_not_eq_false hclock
  · exact not_not.mp hproducer
  · exact not_and_not_right.mp htype
  · exact not_and_not_right.mp hschema
  · exact not_and.mp hempty
  · exact Bool.eq_true_of_not_eq_false hcrc

section Check

variable {T : Type} [TimeArith T] {envelope : SampleEnvelope} {currentCycle : UInt64}
  {timing : ChannelTiming}

theorem checkReceivedSample_of_failure {status : SampleStatus}
    (h : firstFailure timing envelope currentCycle = some status)
    (cycleStartNs localReceiveNs : Int64) :
    (checkReceivedSample T envelope currentCycle cycleStartNs localReceiveNs timing).status =
      status := by
  rw [firstFailure] at h
  rw [checkReceivedSample]
  split_ifs at h with hclock hproducer hschema hpayload hcycle
  · rw [if_pos hclock]
    exact Option.some.inj h
  · rw [if_neg hclock, if_pos hproducer]
    exact Option.some.inj h
  · rw [if_neg hclock, if_neg hproducer]
    -- the part of the schema that differs
    by_cases htype : timing.payloadType ≠ [] ∧ envelope.payloadType ≠ timing.payloadType
    · rw [if_pos htype]
      exact Option.some.inj h
    · have hid : timing.schemaId ≠ [] ∧ envelope.schemaId ≠ timing.schemaId := by
        rw [schemaOk, decide_eq_false_iff_not, not_and_or, not_or, not_or] at hschema
        exact hschema.resolve_left htype
      rw [if_neg htype, if_pos hid]
      exact Option.some.inj h
  · obtain ⟨htype, hid⟩ := schemaOk_iff.mp (Bool.eq_true_of_not_eq_false hschema)
    rw [if_neg hclock, if_neg hproducer, if_neg (not_and_not_right.mpr htype),
      if_neg (not_and_not_right.mpr hid)]
    by_cases hempty : timing.allowEmptyPayload = false ∧ envelope.payload = []
    · rw [if_pos hempty]
      exact Option.some.inj h
    · have hcrc : verifyPayloadCrc envelope = false := by
        by_contra hcrc
        refine absurd (payloadOk_iff.mpr ⟨?_, Bool.eq_true_of_not_eq_false hcrc⟩)
          (Bool.eq_false_iff.mp hpayload)
        exact not_and.mp hempty
      rw [if_neg hempty, if_pos hcrc]
      exact Option.some.inj h
  · have hformed : WellFormed timing envelope := (wellFormed_iff timing envelope).mpr
      ⟨Bool.eq_true_of_not_eq_false hclock, not_not.mp hproducer,
        Bool.eq_true_of_not_eq_false hschema, Bool.eq_true_of_not_eq_false hpayload⟩
    rw [if_neg hclock, if_neg hproducer, if_neg (not_and_not_right.mpr hformed.payloadType),
      if_neg (not_and_not_right.mpr hformed.schemaId), if_neg (not_and.mpr hformed.payload),
      if_neg (by simp [hformed.crc]), if_pos hcycle]
    exact Option.some.inj h

theorem checkReceivedSample_of_passed (h : firstFailure timing envelope currentCycle = none)
    (cycleStartNs localReceiveNs : Int64) :
    checkReceivedSample T envelope currentCycle cycleStartNs localReceiveNs timing =
      timeDecision T envelope cycleStartNs localReceiveNs timing := by
  obtain ⟨hformed, hcycle⟩ := firstFailure_eq_none_iff.mp h
  apply Option.some.inj
  rw [checkReceivedSample_eq_afterQuality, afterQuality_of_passed hformed hcycle]

end Check

/-! ## Exact times -/

theorem timeDecision_fresh_iff {envelope : SampleEnvelope} {cycleStartNs localReceiveNs : Int64}
    {timing : ChannelTiming} :
    (timeDecision ℤ envelope cycleStartNs localReceiveNs timing).status = .fresh ↔
      Timely timing cycleStartNs localReceiveNs envelope := by
  rw [timeDecision, fresh_ite_iff (by decide : SampleStatus.late ≠ .fresh),
    fresh_ite_iff (by decide : SampleStatus.late ≠ .fresh),
    fresh_ite_iff (by decide : SampleStatus.late ≠ .fresh), not_late_iff, not_late_iff,
    not_late_iff]
  constructor
  · rintro ⟨hpublished, hreceived, halive, -⟩
    exact ⟨hpublished, hreceived, halive⟩
  · intro h
    exact ⟨h.published, h.received, h.alive, rfl⟩

/-- A check of the time does not fail but for lateness. -/
theorem timeDecision_status (T : Type) [TimeArith T] (envelope : SampleEnvelope)
    (cycleStartNs localReceiveNs : Int64) (timing : ChannelTiming) :
    (timeDecision T envelope cycleStartNs localReceiveNs timing).status = .fresh ∨
      (timeDecision T envelope cycleStartNs localReceiveNs timing).status = .late := by
  rw [timeDecision]
  split_ifs
  · exact .inr rfl
  · exact .inr rfl
  · exact .inr rfl
  · exact .inl rfl

end RuntimeSync.DeadlineChecker
