import RuntimeSync.Core.Retention
import RuntimeSync.Core.SnapshotBuilder

/-!
# What a snapshot says of a sample

A snapshot is built from a buffer that only adds have written.  Whatever they
were, a view is fresh exactly when the buffer found a sample that meets the
channel's conditions, and no view can carry a sample of another cycle.
-/

namespace RuntimeSync

namespace SampleBuffer

open Machine

theorem mem_of_mem_insertions {maxSamplesPerKey : ℕ} {arrivals : List BufferedSample}
    {sample : BufferedSample} (h : sample ∈ insertions maxSamplesPerKey arrivals) :
    sample ∈ arrivals := by
  obtain ⟨e, he, hstored⟩ := List.mem_filterMap.mp h
  rw [stored] at hstored
  split at hstored
  · cases hstored
    exact trace_input_mem step he
  · cases hstored

/-- What the lookup finds was added, and under the key that was asked for. -/
theorem find_some {maxSamplesPerKey : ℕ} {arrivals : List BufferedSample} {peer channel : Str}
    {cycle : UInt64} {found : BufferedSample}
    (h : (filled maxSamplesPerKey arrivals).find peer channel cycle = some found) :
    found ∈ arrivals ∧ found.key = ⟨peer, channel, cycle⟩ := by
  have hlast := ((retains_filled maxSamplesPerKey arrivals).mem h).2
  obtain ⟨hmem, hkey⟩ := mem_of_lastAt hlast
  exact ⟨mem_of_mem_insertions hmem, hkey⟩

end SampleBuffer

namespace SnapshotBuilder

open SampleBuffer

/-- What makes a sample fresh for an expected one. -/
structure FreshFor (request : SnapshotBuildRequest) (expected : ExpectedSample)
    (sample : BufferedSample) : Prop where
  targetCycle : sample.envelope.targetCycle = request.cycleId
  senderId : sample.envelope.senderId = expected.peerId
  formed : DeadlineChecker.WellFormed expected.timing sample.envelope
  timely : DeadlineChecker.Timely expected.timing request.cycleStartNs sample.localReceiveNs
    sample.envelope

theorem viewOf_fresh_iff (maxSamplesPerKey : ℕ) (arrivals : List BufferedSample)
    (request : SnapshotBuildRequest) (expected : ExpectedSample) :
    (viewOf ℤ request (filled maxSamplesPerKey arrivals) expected).status = .fresh ↔
      ∃ sample ∈ arrivals,
        (filled maxSamplesPerKey arrivals).find expected.peerId expected.channel
            request.cycleId = some sample ∧
          FreshFor request expected sample := by
  cases hfind : (filled maxSamplesPerKey arrivals).find expected.peerId expected.channel
      request.cycleId with
  | none =>
      rw [viewOf_of_find_none ℤ hfind]
      exact iff_of_false nofun fun ⟨_, _, hsome, _⟩ ↦ nomatch hsome
  | some found =>
      obtain ⟨hmem, hkey⟩ := find_some hfind
      have hcycle : found.envelope.targetCycle = request.cycleId :=
        congrArg SampleKey.targetCycle hkey
      have hsender : found.envelope.senderId = expected.peerId :=
        congrArg SampleKey.senderId hkey
      rw [viewOf_of_find_some ℤ hfind, DeadlineChecker.checkReceivedSample_fresh_iff]
      constructor
      · rintro ⟨hformed, -, htimely⟩
        exact ⟨found, hmem, rfl, hcycle, hsender, hformed, htimely⟩
      · rintro ⟨sample, -, hsome, hfresh⟩
        cases hsome
        exact ⟨hfresh.formed, hcycle, hfresh.timely⟩

theorem viewOf_status (T : Type) [TimeArith T] (maxSamplesPerKey : ℕ)
    (arrivals : List BufferedSample) (request : SnapshotBuildRequest)
    (expected : ExpectedSample) :
    (viewOf T request (filled maxSamplesPerKey arrivals) expected).status ≠ .wrongCycle ∧
      (viewOf T request (filled maxSamplesPerKey arrivals) expected).status ≠ .duplicate := by
  cases hfind : (filled maxSamplesPerKey arrivals).find expected.peerId expected.channel
      request.cycleId with
  | none =>
      rw [viewOf_of_find_none T hfind]
      exact ⟨nofun, nofun⟩
  | some found =>
      have hcycle : found.envelope.targetCycle = request.cycleId :=
        congrArg SampleKey.targetCycle (find_some hfind).2
      rw [viewOf_of_find_some T hfind]
      have hreport := DeadlineChecker.checkReceivedSample_reportable T found.envelope
        request.cycleId request.cycleStartNs found.localReceiveNs expected.timing
      exact ⟨fun hwrong ↦ hreport.targetCycle_ne hwrong hcycle, hreport.ne_duplicate⟩

/-- After any adds, for any request: the view of an expected sample is fresh
exactly when the lookup finds a sample that is fresh for it. -/
theorem build_fresh_iff (maxSamplesPerKey : ℕ) (arrivals : List BufferedSample)
    (request : SnapshotBuildRequest) :
    List.Forall₂
        (fun expected view ↦
          PeerSampleView.status view = .fresh ↔
            ∃ sample ∈ arrivals,
              (filled maxSamplesPerKey arrivals).find expected.peerId expected.channel
                  request.cycleId = some sample ∧
                FreshFor request expected sample)
        request.expectedSamples (build ℤ request (filled maxSamplesPerKey arrivals)).samples ∧
      ∀ view ∈ (build ℤ request (filled maxSamplesPerKey arrivals)).samples,
        view.status ≠ .wrongCycle ∧ view.status ≠ .duplicate := by
  rw [build_samples]
  constructor
  · rw [List.forall₂_map_right_iff, List.forall₂_same]
    exact fun expected _ ↦ viewOf_fresh_iff maxSamplesPerKey arrivals request expected
  · intro view hview
    obtain ⟨expected, -, rfl⟩ := List.mem_map.mp hview
    exact viewOf_status ℤ maxSamplesPerKey arrivals request expected

end SnapshotBuilder

end RuntimeSync
