import RuntimeSync.Core.BufferPruning
import RuntimeSync.Library.Latest

/-!
# One add to the buffer

What an add does to the samples and to the sequence state of a stream.  The
sequence state is a register of its own: it holds the highest number that was
accepted in the stream.
-/

namespace RuntimeSync

namespace StreamState

/-- The highest sequence number of the stream, once there is one. -/
def highest (state : StreamState) : Option ℕ :=
  if state.hasSeq = true then some state.lastSeq.toNat else none

theorem highest_eq_some {state : StreamState} {seq : UInt64} :
    state.highest = some seq.toNat ↔ state.hasSeq = true ∧ seq = state.lastSeq := by
  unfold highest
  split
  · next hseq =>
      rw [Option.some_inj, UInt64.toNat_inj]
      exact ⟨fun h ↦ ⟨hseq, h.symm⟩, fun h ↦ h.2.symm⟩
  · next hseq =>
      constructor
      · intro h
        cases h
      · rintro ⟨h, -⟩
        exact absurd h hseq

theorem isLatest_accept {state : StreamState} {history : List ℕ}
    (h : IsLatest id history state.highest) (seq : UInt64) :
    IsLatest id (history ++ [seq.toNat]) (state.accept seq).highest := by
  unfold accept
  split
  · next hhigher =>
      apply h.concat
      intro last hlast
      unfold highest at hlast
      split at hlast
      · next hseq =>
          cases hlast
          obtain hnone | hlt := hhigher
          · cases hseq.symm.trans hnone
          · exact (UInt64.lt_iff_toNat_lt.mp hlt).le
      · cases hlast
  · next hnot =>
      obtain ⟨hseq, hle⟩ := not_or.mp hnot
      have hsome : state.highest = some state.lastSeq.toNat :=
        if_pos (Bool.eq_true_of_not_eq_false hseq)
      rw [hsome] at h ⊢
      exact h.keep (UInt64.le_iff_toNat_le.mp (UInt64.not_lt.mp hle))

end StreamState

namespace SampleBuffer

open Machine

theorem stateOf_withState (buffer : SampleBuffer) (stream stream' : StreamKey)
    (state : StreamState) :
    (buffer.withState stream state).stateOf stream' =
      if stream = stream' then state else buffer.stateOf stream' := by
  rw [stateOf, withState, Std.ExtTreeMap.getElem?_insert]
  simp only [Std.LawfulEqCmp.compare_eq_iff_eq]
  split <;> rfl

@[simp] theorem keepGood_samples (buffer : SampleBuffer) (sample : BufferedSample) :
    (buffer.keepGood sample).samples = buffer.samples := by
  unfold keepGood
  split <;> rfl

@[simp] theorem keepGood_maxSamplesPerKey (buffer : SampleBuffer) (sample : BufferedSample) :
    (buffer.keepGood sample).maxSamplesPerKey = buffer.maxSamplesPerKey := by
  unfold keepGood
  split <;> rfl

@[simp] theorem keepGood_stateOf (buffer : SampleBuffer) (sample : BufferedSample)
    (stream : StreamKey) : (buffer.keepGood sample).stateOf stream = buffer.stateOf stream := by
  unfold keepGood
  split <;> rfl

@[simp] theorem pruneStream_stateOf (buffer : SampleBuffer) (stream stream' : StreamKey) :
    (buffer.pruneStream stream).stateOf stream' = buffer.stateOf stream' := rfl

theorem refuses_iff {buffer : SampleBuffer} {arrival : BufferedSample} :
    buffer.Refuses arrival.envelope ↔
      (buffer.stateOf arrival.stream).highest = some arrival.seq ∨
        ∃ existing ∈ buffer.samples.get? arrival.key, existing.seq = arrival.seq := by
  apply or_congr
  · exact StreamState.highest_eq_some.symm
  · apply exists_congr
    intro existing
    exact and_congr_right fun _ ↦ UInt64.toNat_inj.symm

/-! ## The samples after an add -/

theorem step_samples_of_refuses {buffer : SampleBuffer} {arrival : BufferedSample}
    (h : buffer.Refuses arrival.envelope) :
    (buffer.step arrival).1.samples = buffer.samples := by
  obtain ⟨gap, result, hstep, -⟩ := step_refused h
  rw [hstep]
  rfl

theorem get?_step_samples_of_not_refuses {buffer : SampleBuffer} {arrival : BufferedSample}
    (h : ¬buffer.Refuses arrival.envelope) (key : SampleKey) :
    (buffer.step arrival).1.samples.get? key =
      kept buffer.maxSamplesPerKey arrival.stream (buffer.samples.put arrival) key := by
  obtain ⟨gap, result, hstep, -⟩ := step_accepted h
  rw [hstep, get?_pruneStream, keepGood_maxSamplesPerKey, keepGood_samples]
  rfl

theorem step_maxSamplesPerKey (buffer : SampleBuffer) (arrival : BufferedSample) :
    (buffer.step arrival).1.maxSamplesPerKey = buffer.maxSamplesPerKey := by
  by_cases h : buffer.Refuses arrival.envelope
  · obtain ⟨gap, result, hstep, -⟩ := step_refused h
    rw [hstep]
    rfl
  · obtain ⟨gap, result, hstep, -⟩ := step_accepted h
    rw [hstep, pruneStream, keepGood_maxSamplesPerKey]
    rfl

theorem filled_maxSamplesPerKey (maxSamplesPerKey : ℕ) (arrivals : List BufferedSample) :
    (filled maxSamplesPerKey arrivals).maxSamplesPerKey = max 1 maxSamplesPerKey := by
  apply invariant_run (I := fun buffer : SampleBuffer ↦
    buffer.maxSamplesPerKey = max 1 maxSamplesPerKey)
  · intro buffer arrival h
    rwa [step_maxSamplesPerKey]
  · rfl

/-! ## The sequence state after an add -/

theorem step_stateOf_of_not_refuses {buffer : SampleBuffer} {arrival : BufferedSample}
    (h : ¬buffer.Refuses arrival.envelope) :
    ∃ gap, ∀ stream, (buffer.step arrival).1.stateOf stream =
      if arrival.stream = stream then
        ((buffer.stateOf arrival.stream).countGap gap).accept arrival.envelope.seq
      else buffer.stateOf stream := by
  obtain ⟨gap, result, hstep, -⟩ := step_accepted h
  refine ⟨gap, ?_⟩
  intro stream
  rw [hstep, pruneStream_stateOf, keepGood_stateOf, stateOf_withState]
  rfl

def seqsOf (stream : StreamKey) (samples : List BufferedSample) : List ℕ :=
  (samples.filter fun sample ↦ sample.stream = stream).map BufferedSample.seq

theorem mem_seqsOf {stream : StreamKey} {samples : List BufferedSample} {seq : ℕ} :
    seq ∈ seqsOf stream samples ↔
      ∃ sample ∈ samples, sample.stream = stream ∧ sample.seq = seq := by
  simp only [seqsOf, List.mem_map, List.mem_filter, decide_eq_true_eq, and_assoc]

theorem seqsOf_concat (stream : StreamKey) (samples : List BufferedSample)
    (arrival : BufferedSample) :
    seqsOf stream (samples ++ [arrival]) =
      seqsOf stream samples ++ if arrival.stream = stream then [arrival.seq] else [] := by
  rw [seqsOf, List.filter_append, List.map_append]
  congr 1
  by_cases h : arrival.stream = stream <;> simp [h]

/-- Every stream's state knows the highest number inserted in the stream. -/
def KnowsHighest (buffer : SampleBuffer) (inserted : List BufferedSample) : Prop :=
  ∀ stream, IsLatest id (seqsOf stream inserted) (buffer.stateOf stream).highest

theorem knowsHighest_new (maxSamplesPerKey : ℕ) : KnowsHighest (new maxSamplesPerKey) [] :=
  fun _ ↦ rfl

theorem knowsHighest_step (buffer : SampleBuffer) (inserted : List BufferedSample)
    (arrival : BufferedSample) (h : KnowsHighest buffer inserted) :
    KnowsHighest (buffer.step arrival).1
      (inserted ++ (stored arrival (buffer.step arrival).2).toList) := by
  intro stream
  by_cases hrefuses : buffer.Refuses arrival.envelope
  · obtain ⟨gap, result, hstep, hstored, -⟩ := step_refused hrefuses
    rw [hstep, hstored, Option.toList_none, List.append_nil, stateOf_withState]
    split
    · next heq => exact heq ▸ h arrival.stream
    · exact h stream
  · obtain ⟨gap, hstate⟩ := step_stateOf_of_not_refuses hrefuses
    rw [stored_of_not_refuses hrefuses, Option.toList_some, seqsOf_concat, hstate]
    split
    · next heq =>
        subst heq
        have hcounted : IsLatest id (seqsOf arrival.stream inserted)
            ((buffer.stateOf arrival.stream).countGap gap).highest := h arrival.stream
        exact StreamState.isLatest_accept hcounted arrival.envelope.seq
    · rw [List.append_nil]
      exact h stream

theorem knowsHighest_filled (maxSamplesPerKey : ℕ) (arrivals : List BufferedSample) :
    KnowsHighest (filled maxSamplesPerKey arrivals) (insertions maxSamplesPerKey arrivals) :=
  history_run knowsHighest_step (knowsHighest_new maxSamplesPerKey) arrivals

end SampleBuffer

end RuntimeSync
