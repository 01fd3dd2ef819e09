import RuntimeSync.Core.BufferSteps
import RuntimeSync.Core.LastGood

/-!
# Streams do not interfere

The buffer keeps the samples of all streams in one map and scans all of it to
prune one stream.  Still a stream is served as if it had the buffer to itself:
this is the unwinding rule with the following view of a stream.
-/

namespace RuntimeSync

namespace SampleBuffer

open Machine

/-- Two buffers that a stream cannot tell apart. -/
structure AgreeOn (stream : StreamKey) (s t : SampleBuffer) : Prop where
  capacity : s.maxSamplesPerKey = t.maxSamplesPerKey
  samples : ∀ cycle, s.samples.get? (stream.at cycle) = t.samples.get? (stream.at cycle)
  lastGood : s.lastGood.get? stream = t.lastGood.get? stream
  state : s.stateOf stream = t.stateOf stream

namespace AgreeOn

variable {stream : StreamKey} {s t u : SampleBuffer}

theorem refl (stream : StreamKey) (s : SampleBuffer) : AgreeOn stream s s :=
  ⟨rfl, fun _ ↦ rfl, rfl, rfl⟩

theorem trans (hst : AgreeOn stream s t) (htu : AgreeOn stream t u) : AgreeOn stream s u where
  capacity := hst.capacity.trans htu.capacity
  samples := fun cycle ↦ (hst.samples cycle).trans (htu.samples cycle)
  lastGood := hst.lastGood.trans htu.lastGood
  state := hst.state.trans htu.state

theorem get?_eq (h : AgreeOn stream s t) {key : SampleKey} (hkey : key.stream = stream) :
    s.samples.get? key = t.samples.get? key := by
  rw [StreamKey.eq_at hkey]
  exact h.samples key.targetCycle

theorem refuses_iff {arrival : BufferedSample} (h : AgreeOn arrival.stream s t) :
    s.Refuses arrival.envelope ↔ t.Refuses arrival.envelope := by
  rw [SampleBuffer.refuses_iff, SampleBuffer.refuses_iff, h.state,
    h.get?_eq (rfl : arrival.key.stream = arrival.stream)]

end AgreeOn

/-! ## An add of the stream -/

/-- The stream's add is answered from the stream's own state and samples. -/
theorem step_result_congr {s t : SampleBuffer} {arrival : BufferedSample}
    (h : AgreeOn arrival.stream s t) :
    (s.step arrival).2 = (t.step arrival).2 ∧
      (s.step arrival).1.stateOf arrival.stream = (t.step arrival).1.stateOf arrival.stream := by
  have hstate : s.stateOf arrival.envelope.stream = t.stateOf arrival.envelope.stream := h.state
  have hfound : s.samples.get? arrival.envelope.key = t.samples.get? arrival.envelope.key :=
    h.samples arrival.envelope.targetCycle
  unfold step add
  dsimp only
  rw [hstate, hfound]
  have hself : arrival.envelope.stream = arrival.stream := rfl
  split
  · refine ⟨rfl, ?_⟩
    rw [stateOf_withState, stateOf_withState, if_pos hself, if_pos hself]
  · split
    · refine ⟨rfl, ?_⟩
      rw [stateOf_withState, stateOf_withState, if_pos hself, if_pos hself]
    · refine ⟨rfl, ?_⟩
      rw [pruneStream_stateOf, pruneStream_stateOf, keepGood_stateOf, keepGood_stateOf,
        stateOf_withState, stateOf_withState, if_pos hself, if_pos hself]

theorem step_samples_congr {s t : SampleBuffer} {arrival : BufferedSample}
    (h : AgreeOn arrival.stream s t) (cycle : UInt64) :
    (s.step arrival).1.samples.get? (arrival.stream.at cycle) =
      (t.step arrival).1.samples.get? (arrival.stream.at cycle) := by
  by_cases hrefuses : s.Refuses arrival.envelope
  · rw [step_samples_of_refuses hrefuses,
      step_samples_of_refuses (h.refuses_iff.mp hrefuses)]
    exact h.samples cycle
  · have hput : ∀ cycle, (s.samples.put arrival).get? (arrival.stream.at cycle) =
        (t.samples.put arrival).get? (arrival.stream.at cycle) := by
      intro cycle
      rw [KeyedMap.get?_put, KeyedMap.get?_put, h.samples]
    rw [get?_step_samples_of_not_refuses hrefuses,
      get?_step_samples_of_not_refuses (mt h.refuses_iff.mpr hrefuses), kept, kept,
      h.capacity, cyclesOf_congr hput, hput]

theorem step_lastGood_congr {s t : SampleBuffer} {arrival : BufferedSample}
    (h : AgreeOn arrival.stream s t) :
    (s.step arrival).1.lastGood.get? arrival.stream =
      (t.step arrival).1.lastGood.get? arrival.stream := by
  by_cases hrefuses : s.Refuses arrival.envelope
  · rw [step_lastGood_of_refuses hrefuses, step_lastGood_of_refuses (h.refuses_iff.mp hrefuses)]
    exact h.lastGood
  · rw [step_lastGood_of_not_refuses hrefuses,
      step_lastGood_of_not_refuses (mt h.refuses_iff.mpr hrefuses)]
    split
    · rw [KeyedMap.get?_put_self, KeyedMap.get?_put_self]
    · exact h.lastGood

theorem agreeOn_step {s t : SampleBuffer} {arrival : BufferedSample}
    (h : AgreeOn arrival.stream s t) :
    AgreeOn arrival.stream (s.step arrival).1 (t.step arrival).1 where
  capacity := by rw [step_maxSamplesPerKey, step_maxSamplesPerKey, h.capacity]
  samples := step_samples_congr h
  lastGood := step_lastGood_congr h
  state := (step_result_congr h).2

/-! ## An add of another stream -/

theorem agreeOn_step_other {stream : StreamKey} {arrival : BufferedSample}
    (h : arrival.stream ≠ stream) (s : SampleBuffer) :
    AgreeOn stream (s.step arrival).1 s := by
  by_cases hrefuses : s.Refuses arrival.envelope
  · obtain ⟨gap, result, hstep, -⟩ := step_refused hrefuses
    rw [hstep]
    refine ⟨rfl, fun _ ↦ rfl, rfl, ?_⟩
    rw [stateOf_withState, if_neg h]
  · refine ⟨step_maxSamplesPerKey s arrival, ?_, ?_, ?_⟩
    · intro cycle
      have hkey : arrival.key ≠ stream.at cycle := fun heq ↦ h (congrArg SampleKey.stream heq)
      rw [get?_step_samples_of_not_refuses hrefuses, kept, if_neg fun hout ↦ h hout.1.symm,
        KeyedMap.get?_put, if_neg hkey]
    · rw [step_lastGood_of_not_refuses hrefuses]
      split
      · rw [KeyedMap.get?_put, if_neg h]
      · rfl
    · obtain ⟨gap, hstate⟩ := step_stateOf_of_not_refuses hrefuses
      rw [hstate, if_neg h]

/-! ## Whole runs -/

theorem seqGapCount_eq (buffer : SampleBuffer) (peer channel : Str) :
    buffer.seqGapCount peer channel = (buffer.stateOf ⟨peer, channel⟩).gapCount := by
  unfold seqGapCount stateOf
  cases buffer.streamState[StreamKey.mk peer channel]? <;> rfl

/-- In any interleaving a stream's adds are answered, and its lookups end, as
in the run of the stream's adds alone. -/
theorem stream_isolated (maxSamplesPerKey : ℕ) (arrivals : List BufferedSample)
    (peer channel : Str) :
    let stream : StreamKey := ⟨peer, channel⟩
    let own := arrivals.filter fun arrival ↦ arrival.stream = stream
    ((trace step (new maxSamplesPerKey) arrivals).filter fun e ↦ e.input.stream = stream).map
          Entry.output = (trace step (new maxSamplesPerKey) own).map Entry.output ∧
      (∀ cycle, (filled maxSamplesPerKey arrivals).find peer channel cycle =
        (filled maxSamplesPerKey own).find peer channel cycle) ∧
      (filled maxSamplesPerKey arrivals).getLastGood peer channel =
        (filled maxSamplesPerKey own).getLastGood peer channel ∧
      (filled maxSamplesPerKey arrivals).seqGapCount peer channel =
        (filled maxSamplesPerKey own).seqGapCount peer channel := by
  dsimp only
  have hvisible : ∀ s t arrival, arrival.stream = ⟨peer, channel⟩ →
      AgreeOn ⟨peer, channel⟩ s t →
        (step s arrival).2 = (step t arrival).2 ∧
          AgreeOn ⟨peer, channel⟩ (step s arrival).1 (step t arrival).1 := by
    intro s t arrival hstream h
    rw [← hstream] at h ⊢
    exact ⟨(step_result_congr h).1, agreeOn_step h⟩
  have hhidden : ∀ s t arrival, arrival.stream ≠ ⟨peer, channel⟩ →
      AgreeOn ⟨peer, channel⟩ s t → AgreeOn ⟨peer, channel⟩ (step s arrival).1 t :=
    fun s t arrival hstream h ↦ (agreeOn_step_other hstream s).trans h
  obtain ⟨hresults, hagree⟩ := unwinding hvisible hhidden
    (AgreeOn.refl ⟨peer, channel⟩ (new maxSamplesPerKey)) arrivals
  refine ⟨hresults, hagree.samples, hagree.lastGood, ?_⟩
  rw [seqGapCount_eq, seqGapCount_eq]
  exact congrArg StreamState.gapCount hagree.state

end SampleBuffer

end RuntimeSync
