import RuntimeSync.Core.SeqGaps

/-!
# Duplicates leave no trace

An add that reports a duplicate has touched the state of its stream before it
knew.  Below the top of the range it has put back what was there.
-/

namespace RuntimeSync

namespace StreamState

/-- No gap comes before a number that is not the greatest. -/
theorem gapTo_eq_none {state : StreamState} {greatest : ℕ} (h : state.highest = some greatest)
    (htop : greatest < 2 ^ 64 - 1) {seq : UInt64} (hle : seq.toNat ≤ greatest) :
    state.gapTo seq = none := by
  have hnext := toNat_lastSeq_add_one h htop
  refine if_neg fun hgap ↦ ?_
  have hlt := UInt64.lt_iff_toNat_lt.mp hgap.2
  omega

end StreamState

namespace SampleBuffer

/-- Putting back the state of a stream that has one. -/
theorem withState_stateOf {buffer : SampleBuffer} {stream : StreamKey}
    (h : (buffer.stateOf stream).hasSeq = true) :
    buffer.withState stream (buffer.stateOf stream) = buffer := by
  have hstate : buffer.streamState[stream]? = some (buffer.stateOf stream) := by
    unfold stateOf at h ⊢
    cases hfound : buffer.streamState[stream]? with
    | none =>
        rw [hfound] at h
        cases h
    | some state => rfl
  have hmap : buffer.streamState.insert stream (buffer.stateOf stream) = buffer.streamState := by
    apply Std.ExtTreeMap.ext_getElem?
    intro other
    rw [Std.ExtTreeMap.getElem?_insert]
    simp only [Std.LawfulEqCmp.compare_eq_iff_eq]
    split
    · next heq => rw [← heq, hstate]
    · rfl
  rw [withState, hmap]

theorem refuses_of_duplicate {buffer : SampleBuffer} {arrival : BufferedSample}
    (h : (buffer.step arrival).2.status = .duplicate) : buffer.Refuses arrival.envelope := by
  by_contra hrefuses
  obtain ⟨gap, result, hstep, -, hother⟩ := step_accepted hrefuses
  rw [hstep] at h
  exact hother h

/-- The sample that a refused arrival repeats shows that its stream has a
greatest number, which the arrival does not exceed. -/
theorem seq_le_highest_of_refuses {maxSamplesPerKey : ℕ} {seen : List BufferedSample}
    {arrival : BufferedSample}
    (h : (filled maxSamplesPerKey seen).Refuses arrival.envelope) :
    ∃ greatest, ((filled maxSamplesPerKey seen).stateOf arrival.stream).highest = some greatest ∧
      arrival.seq ≤ greatest ∧ greatest ∈ seqsOf arrival.stream seen := by
  have hrepeats := (repeats_insertions _ _ _).mp (repeats_of_refuses h)
  have hmem := repeats_iff.mp hrepeats
  obtain ⟨greatest, hhighest, hlatest⟩ :=
    (isLatest_arrivals maxSamplesPerKey seen arrival.stream).exists_of_mem hmem
  exact ⟨greatest, hhighest, hlatest.2 _ hmem, hlatest.mem⟩

theorem step_eq_self_of_refuses {maxSamplesPerKey : ℕ} {seen : List BufferedSample}
    (hseen : ∀ earlier ∈ seen, earlier.seq < 2 ^ 64 - 1) {arrival : BufferedSample}
    (h : (filled maxSamplesPerKey seen).Refuses arrival.envelope) :
    ((filled maxSamplesPerKey seen).step arrival).1 = filled maxSamplesPerKey seen := by
  obtain ⟨greatest, hhighest, hle, hmem⟩ := seq_le_highest_of_refuses h
  obtain ⟨earlier, hearlier, -, rfl⟩ := mem_seqsOf.mp hmem
  have hgap : ((filled maxSamplesPerKey seen).stateOf arrival.envelope.stream).gapTo
      arrival.envelope.seq = none :=
    StreamState.gapTo_eq_none hhighest (hseen earlier hearlier) hle
  have hsame := withState_stateOf (StreamState.exists_lastSeq hhighest).1
  unfold step add
  dsimp only
  split
  · exact hsame
  · next hseq =>
      obtain hlast | ⟨existing, hfound, heq⟩ := h
      · exact absurd hlast hseq
      · rw [hfound, Option.any_some, if_pos (decide_eq_true heq), hgap,
          StreamState.countGap_none]
        exact hsame

/-- After adds below the top of the range, an add that reports a duplicate
leaves no trace in any lookup, nor in the answers to any later adds. -/
theorem duplicate_leaves_no_trace (maxSamplesPerKey : ℕ) (seen : List BufferedSample)
    (hseen : ∀ earlier ∈ seen, earlier.seq < 2 ^ 64 - 1) (arrival : BufferedSample)
    (hduplicate : ((filled maxSamplesPerKey seen).step arrival).2.status = .duplicate) :
    let before := filled maxSamplesPerKey seen
    let after := filled maxSamplesPerKey (seen ++ [arrival])
    (∀ peer channel cycle, after.find peer channel cycle = before.find peer channel cycle) ∧
      (∀ peer channel, after.getLastGood peer channel = before.getLastGood peer channel) ∧
      (∀ peer channel, after.seqGapCount peer channel = before.seqGapCount peer channel) ∧
      after.size = before.size ∧
      ∀ later, (Machine.trace step after later).map Machine.Entry.output =
        (Machine.trace step before later).map Machine.Entry.output := by
  have hstep : filled maxSamplesPerKey (seen ++ [arrival]) =
      ((filled maxSamplesPerKey seen).step arrival).1 := Machine.run_concat step _ seen arrival
  rw [hstep, step_eq_self_of_refuses hseen (refuses_of_duplicate hduplicate)]
  exact ⟨fun _ _ _ ↦ rfl, fun _ _ ↦ rfl, fun _ _ ↦ rfl, rfl, fun _ ↦ rfl⟩

def twoSolutions : List BufferedSample := [solutionSample 1 1, solutionSample 2 2]

/-- A sample that is delivered again after the next one, so that only the one
stored under its key tells that it is known. -/
theorem solutionSample_repeated :
    (filled 8 (twoSolutions ++ [solutionSample 1 1])).size = (filled 8 twoSolutions).size ∧
      (filled 8 (twoSolutions ++ [solutionSample 1 1])).seqGapCount (text "uav2")
          (text "solution") =
        (filled 8 twoSolutions).seqGapCount (text "uav2") (text "solution") := by
  obtain ⟨-, -, hgaps, hsize, -⟩ := duplicate_leaves_no_trace 8 twoSolutions
    (by decide) (solutionSample 1 1) (by decide +kernel)
  exact ⟨hsize, hgaps _ _⟩

end SampleBuffer

end RuntimeSync
