import RuntimeSync.Core.EnvelopeLaws
import RuntimeSync.Core.QualityChecks
import RuntimeSync.Core.SnapshotBuilder
import RuntimeSync.Library.MachineInt

/-!
# Times that overflow

The times of a sample come from its sender, and decoding does not bound them.
Here the checks of a received sample run on sums that are undefined when they
overflow, in the order in which the source forms them.
-/

namespace RuntimeSync.DeadlineChecker

open MachineInt

/-! ## The checks, step by step -/

/-- `time > start + offset`, if the sum exists. -/
def isAfterChecked (time start offset : Int64) : Option Bool :=
  (addChecked start offset).map fun limit ↦ decide (limit < time)

/-- The operand on the right of `&&`, which is not looked at if the left one is false. -/
def andThen (p : Prop) [Decidable p] (q : Option Bool) : Option Bool :=
  if p then q else some false

/-- The second part of the checks. -/
def timeDecisionChecked (envelope : SampleEnvelope) (cycleStartNs localReceiveNs : Int64)
    (timing : ChannelTiming) : Option DeadlineDecision := do
  let unpublished ← andThen (0 < timing.publishDeadlineNs)
    (isAfterChecked envelope.tPublishNs cycleStartNs timing.publishDeadlineNs)
  if unpublished then
    some { status := .late, reason := text "sample was published after publish deadline" }
  else
    let unreceived ← andThen (0 < timing.receiveCutoffNs)
      (isAfterChecked localReceiveNs cycleStartNs timing.receiveCutoffNs)
    if unreceived then
      some { status := .late, reason := text "sample arrived after receive cutoff" }
    else
      let ttlNs := if 0 < timing.ttlNs then timing.ttlNs else envelope.ttlNs
      let expired ← andThen (0 < ttlNs) (isAfterChecked localReceiveNs envelope.tPublishNs ttlNs)
      if expired then some { status := .late, reason := text "sample ttl expired" }
      else some { status := .fresh, reason := text "fresh", usable := true }

def checkReceivedSampleChecked (envelope : SampleEnvelope) (currentCycle : UInt64)
    (cycleStartNs localReceiveNs : Int64) (timing : ChannelTiming) : Option DeadlineDecision :=
  afterQuality envelope currentCycle timing
    (timeDecisionChecked envelope cycleStartNs localReceiveNs timing)

/-! ## Sums that exist -/

theorem isAfterChecked_of_fits {time start offset : Int64}
    (h : Fits (start.toInt + offset.toInt)) :
    isAfterChecked time start offset = some (isAfter ℤ time start offset) := by
  have hsum : addChecked start offset = some (start + offset) := if_pos h
  rw [isAfterChecked, hsum, Option.map_some]
  congr 1
  rw [isAfter, Bool.eq_iff_iff, decide_eq_true_iff, Int64.lt_iff_toInt_lt,
    toInt_add_of_fits h.1 h.2]
  exact decide_eq_true_iff.symm

theorem isAfterChecked_of_not_fits {time start offset : Int64}
    (h : ¬Fits (start.toInt + offset.toInt)) : isAfterChecked time start offset = none := by
  rw [isAfterChecked, addChecked, if_neg h, Option.map_none]

theorem andThen_of_fits {time start offset : Int64}
    (h : 0 < offset → Fits (start.toInt + offset.toInt)) :
    andThen (0 < offset) (isAfterChecked time start offset) =
      some (decide (0 < offset ∧ isAfter ℤ time start offset = true)) := by
  by_cases hpositive : 0 < offset
  · rw [andThen, if_pos hpositive, isAfterChecked_of_fits (h hpositive)]
    simp [hpositive]
  · rw [andThen, if_neg hpositive]
    simp [hpositive]

/-- The time to live is looked at. -/
structure ReachesTtl (timing : ChannelTiming) (cycleStartNs localReceiveNs : Int64)
    (envelope : SampleEnvelope) : Prop where
  published : 0 < timing.publishDeadlineNs →
    envelope.tPublishNs.toInt ≤ cycleStartNs.toInt + timing.publishDeadlineNs.toInt
  received : 0 < timing.receiveCutoffNs →
    localReceiveNs.toInt ≤ cycleStartNs.toInt + timing.receiveCutoffNs.toInt
  positive : 0 < effectiveTtlNs timing envelope

section Checked

variable {envelope : SampleEnvelope} {cycleStartNs localReceiveNs : Int64} {timing : ChannelTiming}

theorem timeDecisionChecked_of_fits
    (hdeadline : 0 < timing.publishDeadlineNs →
      Fits (cycleStartNs.toInt + timing.publishDeadlineNs.toInt))
    (hcutoff : 0 < timing.receiveCutoffNs →
      Fits (cycleStartNs.toInt + timing.receiveCutoffNs.toInt))
    (httl : ReachesTtl timing cycleStartNs localReceiveNs envelope →
      Fits (envelope.tPublishNs.toInt + (effectiveTtlNs timing envelope).toInt)) :
    timeDecisionChecked envelope cycleStartNs localReceiveNs timing =
      some (timeDecision ℤ envelope cycleStartNs localReceiveNs timing) := by
  rw [timeDecisionChecked, timeDecision, andThen_of_fits hdeadline]
  simp only [Option.bind_eq_bind, Option.bind_some, decide_eq_true_eq]
  by_cases hpublished : 0 < timing.publishDeadlineNs ∧
      isAfter ℤ envelope.tPublishNs cycleStartNs timing.publishDeadlineNs = true
  · rw [if_pos hpublished, if_pos hpublished]
  · rw [if_neg hpublished, if_neg hpublished, andThen_of_fits hcutoff]
    simp only [Option.bind_some, decide_eq_true_eq]
    by_cases hreceived : 0 < timing.receiveCutoffNs ∧
        isAfter ℤ localReceiveNs cycleStartNs timing.receiveCutoffNs = true
    · rw [if_pos hreceived, if_pos hreceived]
    · rw [if_neg hreceived, if_neg hreceived, ← effectiveTtlNs,
        andThen_of_fits fun hpositive ↦
          httl ⟨not_late_iff.mp hpublished, not_late_iff.mp hreceived, hpositive⟩]
      simp only [Option.bind_some, decide_eq_true_eq]
      rw [apply_ite some]

theorem timeDecisionChecked_of_not_fits
    (hdeadline : 0 < timing.publishDeadlineNs →
      Fits (cycleStartNs.toInt + timing.publishDeadlineNs.toInt))
    (hcutoff : 0 < timing.receiveCutoffNs →
      Fits (cycleStartNs.toInt + timing.receiveCutoffNs.toInt))
    (hreaches : ReachesTtl timing cycleStartNs localReceiveNs envelope)
    (httl : ¬Fits (envelope.tPublishNs.toInt + (effectiveTtlNs timing envelope).toInt)) :
    timeDecisionChecked envelope cycleStartNs localReceiveNs timing = none := by
  have hpublished := not_late_iff.mpr hreaches.published
  have hreceived := not_late_iff.mpr hreaches.received
  rw [timeDecisionChecked, andThen_of_fits hdeadline]
  simp only [Option.bind_eq_bind, Option.bind_some, decide_eq_true_eq]
  rw [if_neg hpublished, andThen_of_fits hcutoff]
  simp only [Option.bind_some, decide_eq_true_eq]
  rw [if_neg hreceived, ← effectiveTtlNs, andThen, if_pos hreaches.positive,
    isAfterChecked_of_not_fits httl]
  rfl

theorem checkReceivedSampleChecked_of_fits {currentCycle : UInt64}
    (hdeadline : 0 < timing.publishDeadlineNs →
      Fits (cycleStartNs.toInt + timing.publishDeadlineNs.toInt))
    (hcutoff : 0 < timing.receiveCutoffNs →
      Fits (cycleStartNs.toInt + timing.receiveCutoffNs.toInt))
    (httl : WellFormed timing envelope → envelope.targetCycle = currentCycle →
      ReachesTtl timing cycleStartNs localReceiveNs envelope →
        Fits (envelope.tPublishNs.toInt + (effectiveTtlNs timing envelope).toInt)) :
    checkReceivedSampleChecked envelope currentCycle cycleStartNs localReceiveNs timing =
      some (checkReceivedSample ℤ envelope currentCycle cycleStartNs localReceiveNs timing) := by
  rw [checkReceivedSample_eq_afterQuality, checkReceivedSampleChecked]
  by_cases hpassed : WellFormed timing envelope ∧ envelope.targetCycle = currentCycle
  · rw [timeDecisionChecked_of_fits hdeadline hcutoff (httl hpassed.1 hpassed.2)]
  · exact afterQuality_of_failed hpassed _ _

/-! ## Machine words -/

theorem andThen_eq_some {time start offset : Int64} {p : Prop} [Decidable p] {b : Bool}
    (h : andThen p (isAfterChecked time start offset) = some b) :
    b = decide (p ∧ isAfter Int64 time start offset = true) := by
  by_cases hp : p
  · rw [andThen, if_pos hp, isAfterChecked, addChecked] at h
    split_ifs at h with hfits
    · obtain rfl := Option.some.inj h
      simp [hp, isAfter, TimeArith.lt, TimeArith.add, TimeArith.ofNs]
    · cases h
  · rw [andThen, if_neg hp] at h
    obtain rfl := Option.some.inj h
    simp [hp]

/-- Where no sum overflows, the machine computes what the checks say. -/
theorem timeDecision_of_checked {decision : DeadlineDecision}
    (h : timeDecisionChecked envelope cycleStartNs localReceiveNs timing = some decision) :
    timeDecision Int64 envelope cycleStartNs localReceiveNs timing = decision := by
  rw [timeDecisionChecked] at h
  rw [timeDecision]
  obtain ⟨unpublished, hunpublished, h⟩ := Option.bind_eq_some_iff.mp h
  simp only [andThen_eq_some hunpublished, decide_eq_true_eq] at h
  by_cases hpublished : 0 < timing.publishDeadlineNs ∧
      isAfter Int64 envelope.tPublishNs cycleStartNs timing.publishDeadlineNs = true
  · rw [if_pos hpublished] at h ⊢
    exact Option.some.inj h
  · rw [if_neg hpublished] at h ⊢
    obtain ⟨unreceived, hunreceived, h⟩ := Option.bind_eq_some_iff.mp h
    simp only [andThen_eq_some hunreceived, decide_eq_true_eq] at h
    by_cases hreceived : 0 < timing.receiveCutoffNs ∧
        isAfter Int64 localReceiveNs cycleStartNs timing.receiveCutoffNs = true
    · rw [if_pos hreceived] at h ⊢
      exact Option.some.inj h
    · rw [if_neg hreceived] at h ⊢
      obtain ⟨expired, hexpired, h⟩ := Option.bind_eq_some_iff.mp h
      simp only [andThen_eq_some hexpired, decide_eq_true_eq] at h
      rw [← apply_ite some] at h
      exact Option.some.inj h

theorem checkReceivedSample_of_checked {currentCycle : UInt64} {decision : DeadlineDecision}
    (h : checkReceivedSampleChecked envelope currentCycle cycleStartNs localReceiveNs timing =
      some decision) :
    checkReceivedSample Int64 envelope currentCycle cycleStartNs localReceiveNs timing =
      decision := by
  apply Option.some.inj
  rw [checkReceivedSample_eq_afterQuality, ← h, checkReceivedSampleChecked]
  by_cases hpassed : WellFormed timing envelope ∧ envelope.targetCycle = currentCycle
  · rw [checkReceivedSampleChecked, afterQuality_of_passed hpassed.1 hpassed.2] at h
    rw [afterQuality_of_passed hpassed.1 hpassed.2, afterQuality_of_passed hpassed.1 hpassed.2, h,
      timeDecision_of_checked h]
  · exact afterQuality_of_failed hpassed _ _

end Checked

end RuntimeSync.DeadlineChecker

namespace RuntimeSync.SnapshotBuilder

open MachineInt DeadlineChecker

/-! ## The view of a sample that was found -/

/-- The decision on a sample and its latency, as the builder computes them. -/
def receivedView (envelope : SampleEnvelope) (currentCycle : UInt64)
    (cycleStartNs localReceiveNs : Int64) (timing : ChannelTiming) :
    Option (DeadlineDecision × Int64) :=
  (checkReceivedSampleChecked envelope currentCycle cycleStartNs localReceiveNs timing).bind
    fun decision ↦ (subChecked localReceiveNs envelope.tPublishNs).map fun latencyNs ↦
      (decision, latencyNs)

theorem receivedView_eq_some_iff {envelope : SampleEnvelope} {currentCycle : UInt64}
    {cycleStartNs localReceiveNs : Int64} {timing : ChannelTiming} {decision : DeadlineDecision}
    {latencyNs : Int64} :
    receivedView envelope currentCycle cycleStartNs localReceiveNs timing =
        some (decision, latencyNs) ↔
      checkReceivedSampleChecked envelope currentCycle cycleStartNs localReceiveNs timing =
          some decision ∧
        subChecked localReceiveNs envelope.tPublishNs = some latencyNs := by
  simp [receivedView, Option.bind_eq_some_iff]

/-- Nothing overflows, and the results are those of unbounded integers. -/
def Exact (envelope : SampleEnvelope) (currentCycle : UInt64)
    (cycleStartNs localReceiveNs : Int64) (timing : ChannelTiming) : Prop :=
  ∃ decision latencyNs,
    receivedView envelope currentCycle cycleStartNs localReceiveNs timing =
        some (decision, latencyNs) ∧
      decision = checkReceivedSample ℤ envelope currentCycle cycleStartNs localReceiveNs timing ∧
      latencyNs.toInt = localReceiveNs.toInt - envelope.tPublishNs.toInt

/-- The builder's view of a sample without overflow. -/
theorem viewOf_of_exact {request : SnapshotBuildRequest} {buffer : SampleBuffer}
    {expected : ExpectedSample} {found : BufferedSample}
    (hfind : buffer.find expected.peerId expected.channel request.cycleId = some found)
    (h : Exact found.envelope request.cycleId request.cycleStartNs found.localReceiveNs
      expected.timing) :
    (viewOf Int64 request buffer expected).status = (viewOf ℤ request buffer expected).status ∧
      (viewOf Int64 request buffer expected).receiveLatencyNs.toInt =
        (viewOf ℤ request buffer expected).receiveLatencyNs := by
  obtain ⟨decision, latencyNs, hview, hdecision, hlatency⟩ := h
  have hchecked := (receivedView_eq_some_iff.mp hview).1
  have hfits : Fits (found.localReceiveNs.toInt - found.envelope.tPublishNs.toInt) :=
    hlatency ▸ fits_toInt latencyNs
  rw [viewOf_of_find_some Int64 hfind, viewOf_of_find_some ℤ hfind,
    checkReceivedSample_of_checked hchecked, hdecision, viewOf, viewOf, hfind]
  exact ⟨rfl, toInt_sub_of_fits hfits.1 hfits.2⟩

/-- A time or a span that is no more than about 146 years. -/
def Ordinary (ns : Int64) : Prop := 0 ≤ ns.toInt ∧ ns.toInt < 2 ^ 62

instance (ns : Int64) : Decidable (Ordinary ns) := inferInstanceAs (Decidable (_ ∧ _))

/-- The sender's times are not so far off that the receiver cannot count with them. -/
structure Harmless (envelope : SampleEnvelope) (currentCycle : UInt64)
    (cycleStartNs localReceiveNs : Int64) (timing : ChannelTiming) : Prop where
  latency : localReceiveNs.toInt - envelope.tPublishNs.toInt ≤ 2 ^ 63 - 1
  ttl : WellFormed timing envelope → envelope.targetCycle = currentCycle →
    ReachesTtl timing cycleStartNs localReceiveNs envelope →
      envelope.tPublishNs.toInt + (effectiveTtlNs timing envelope).toInt ≤ 2 ^ 63 - 1

theorem fits_of_ordinary {s t : Int64} (hs : Ordinary s) (ht : Ordinary t) :
    Fits (s.toInt + t.toInt) := by
  obtain ⟨hs, hs'⟩ := hs
  obtain ⟨ht, ht'⟩ := ht
  constructor <;> omega

section Exact

variable {envelope : SampleEnvelope} {currentCycle : UInt64}
  {cycleStartNs localReceiveNs : Int64} {timing : ChannelTiming}

theorem fits_ttl_iff (hpositive : 0 < effectiveTtlNs timing envelope) :
    Fits (envelope.tPublishNs.toInt + (effectiveTtlNs timing envelope).toInt) ↔
      envelope.tPublishNs.toInt + (effectiveTtlNs timing envelope).toInt ≤ 2 ^ 63 - 1 := by
  have hlow := envelope.tPublishNs.le_toInt
  have hpositive := Int64.lt_iff_toInt_lt.mp hpositive
  rw [Int64.toInt_zero] at hpositive
  unfold Fits
  omega

theorem harmless_of_exact (hstart : Ordinary cycleStartNs)
    (hdeadline : Ordinary timing.publishDeadlineNs) (hcutoff : Ordinary timing.receiveCutoffNs)
    (h : Exact envelope currentCycle cycleStartNs localReceiveNs timing) :
    Harmless envelope currentCycle cycleStartNs localReceiveNs timing := by
  obtain ⟨decision, latencyNs, hview, -, hlatency⟩ := h
  obtain ⟨hchecked, hsub⟩ := receivedView_eq_some_iff.mp hview
  refine ⟨?_, fun hformed hcycle hreaches ↦ ?_⟩
  · have hfits := latencyNs.toInt_lt
    omega
  · by_contra hlarge
    rw [checkReceivedSampleChecked, afterQuality_of_passed hformed hcycle,
      timeDecisionChecked_of_not_fits (fun _ ↦ fits_of_ordinary hstart hdeadline)
        (fun _ ↦ fits_of_ordinary hstart hcutoff) hreaches
        fun hfits ↦ hlarge ((fits_ttl_iff hreaches.positive).mp hfits)] at hchecked
    cases hchecked

theorem exact_of_harmless (hstart : Ordinary cycleStartNs)
    (hdeadline : Ordinary timing.publishDeadlineNs) (hcutoff : Ordinary timing.receiveCutoffNs)
    (hreceive : Ordinary localReceiveNs)
    (h : Harmless envelope currentCycle cycleStartNs localReceiveNs timing) :
    Exact envelope currentCycle cycleStartNs localReceiveNs timing := by
  have hlatency : Fits (localReceiveNs.toInt - envelope.tPublishNs.toInt) := by
    have hfits := h.latency
    have hhigh := envelope.tPublishNs.toInt_lt
    have hlow := hreceive.1
    constructor <;> omega
  refine ⟨_, localReceiveNs - envelope.tPublishNs,
    receivedView_eq_some_iff.mpr ⟨?_, if_pos hlatency⟩, rfl,
    toInt_sub_of_fits hlatency.1 hlatency.2⟩
  refine checkReceivedSampleChecked_of_fits (fun _ ↦ fits_of_ordinary hstart hdeadline)
    (fun _ ↦ fits_of_ordinary hstart hcutoff) ?_
  intro hformed hcycle hreaches
  exact (fits_ttl_iff hreaches.positive).mpr (h.ttl hformed hcycle hreaches)

end Exact

/-- The sums of the source are exact for the senders that are harmless and for
no others, and where they are exact the builder's views are. -/
theorem exact_iff_harmless (envelope : SampleEnvelope) (currentCycle : UInt64)
    (cycleStartNs localReceiveNs : Int64) (timing : ChannelTiming)
    (hstart : Ordinary cycleStartNs) (hreceive : Ordinary localReceiveNs)
    (hdeadline : Ordinary timing.publishDeadlineNs) (hcutoff : Ordinary timing.receiveCutoffNs) :
    (Exact envelope currentCycle cycleStartNs localReceiveNs timing ↔
      Harmless envelope currentCycle cycleStartNs localReceiveNs timing) ∧
    ∀ (request : SnapshotBuildRequest) (buffer : SampleBuffer) (expected : ExpectedSample),
      request.cycleId = currentCycle → request.cycleStartNs = cycleStartNs →
      expected.timing = timing →
      buffer.find expected.peerId expected.channel request.cycleId =
        some { envelope := envelope, localReceiveNs := localReceiveNs } →
      Exact envelope currentCycle cycleStartNs localReceiveNs timing →
        (viewOf Int64 request buffer expected).status =
            (viewOf ℤ request buffer expected).status ∧
          (viewOf Int64 request buffer expected).receiveLatencyNs.toInt =
            (viewOf ℤ request buffer expected).receiveLatencyNs := by
  refine ⟨⟨harmless_of_exact hstart hdeadline hcutoff,
    exact_of_harmless hstart hdeadline hcutoff hreceive⟩, ?_⟩
  rintro request buffer expected rfl rfl rfl hfind hexact
  exact viewOf_of_exact hfind hexact

/-- A message as it may come from any peer: published at the end of time, and
to live for 100 ns more. -/
def endOfTime : WireEnvelope :=
  { EnvelopeCodec.foreignFields with tPublishNs := Int64.maxValue, ttlNs := 100, clockOk := 1 }

theorem endOfTime_overflows :
    ¬∀ (codec : EnvelopeCodec) (b : List UInt8) (currentCycle : UInt64)
      (cycleStartNs localReceiveNs : Int64) (timing : ChannelTiming),
      (codec.decode b).ok = true → Ordinary cycleStartNs → Ordinary localReceiveNs →
        Ordinary timing.publishDeadlineNs → Ordinary timing.receiveCutoffNs →
          Ordinary timing.ttlNs →
            Exact (codec.decode b).envelope currentCycle cycleStartNs localReceiveNs timing := by
  intro h
  obtain ⟨decision, latencyNs, hview, -, -⟩ := h {} endOfTime.image 0 0 0 {} (by decide +kernel)
    (by decide) (by decide) (by decide) (by decide) (by decide)
  have hnone : receivedView (EnvelopeCodec.decode {} endOfTime.image).envelope 0 0 0 {} = none := by
    decide +kernel
  rw [hnone] at hview
  cases hview

/-- A sample published at 1000 ns and received 20 ns later. -/
theorem poseEnvelope_exact :
    Exact { EnvelopeCodec.poseEnvelope with tPublishNs := 1000, ttlNs := 50 } 0 900 1020 {} := by
  refine (exact_iff_harmless { EnvelopeCodec.poseEnvelope with tPublishNs := 1000, ttlNs := 50 } 0
    900 1020 {} (by decide) (by decide) (by decide) (by decide)).1.mpr ⟨by decide, ?_⟩
  intro _ _ _
  decide

end RuntimeSync.SnapshotBuilder
