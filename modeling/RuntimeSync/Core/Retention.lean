import RuntimeSync.Core.BufferSteps

/-!
# What the buffer retains

Of every stream the buffer holds the samples of the greatest target cycles
that were ever inserted in it, and for each of these cycles the sample that was
inserted last.
-/

namespace RuntimeSync

namespace SampleBuffer

open Machine

/-- The distinct target cycles of a stream's samples. -/
def cyclesIn (stream : StreamKey) (samples : List BufferedSample) : Finset ℕ :=
  ((samples.filter fun sample ↦ sample.stream = stream).map
    fun sample ↦ sample.key.targetCycle.toNat).toFinset

def lastAt (key : SampleKey) (samples : List BufferedSample) : Option BufferedSample :=
  (samples.filter fun sample ↦ sample.key = key).getLast?

theorem mem_cyclesIn {stream : StreamKey} {samples : List BufferedSample} {n : ℕ} :
    n ∈ cyclesIn stream samples ↔
      ∃ sample ∈ samples, sample.stream = stream ∧ sample.key.targetCycle.toNat = n := by
  simp only [cyclesIn, List.mem_toFinset, List.mem_map, List.mem_filter, decide_eq_true_eq,
    and_assoc]

theorem cyclesIn_concat_self (samples : List BufferedSample) (arrival : BufferedSample) :
    cyclesIn arrival.stream (samples ++ [arrival]) =
      insert arrival.key.targetCycle.toNat (cyclesIn arrival.stream samples) := by
  ext n
  simp only [cyclesIn, List.filter_append, List.map_append, List.toFinset_append,
    Finset.mem_union, Finset.mem_insert]
  simp [or_comm]

theorem cyclesIn_concat_of_ne {stream : StreamKey} {arrival : BufferedSample}
    (h : arrival.stream ≠ stream) (samples : List BufferedSample) :
    cyclesIn stream (samples ++ [arrival]) = cyclesIn stream samples := by
  simp [cyclesIn, List.filter_append, h]

theorem lastAt_concat (key : SampleKey) (samples : List BufferedSample)
    (arrival : BufferedSample) :
    lastAt key (samples ++ [arrival]) =
      if arrival.key = key then some arrival else lastAt key samples := by
  unfold lastAt
  by_cases h : arrival.key = key <;> simp [List.filter_append, h]

theorem mem_of_lastAt {key : SampleKey} {samples : List BufferedSample} {sample : BufferedSample}
    (h : lastAt key samples = some sample) : sample ∈ samples ∧ sample.key = key := by
  have hmem := List.mem_of_getLast? h
  rwa [List.mem_filter, decide_eq_true_eq] at hmem

/-- A key whose cycle was inserted has a last sample. -/
theorem isSome_lastAt {key : SampleKey} {samples : List BufferedSample}
    (h : key.targetCycle.toNat ∈ cyclesIn key.stream samples) :
    (lastAt key samples).isSome = true := by
  obtain ⟨sample, hmem, hstream, hcycle⟩ := mem_cyclesIn.mp h
  have hkey : sample.key = key := by
    have hat : sample.key = key.stream.at sample.key.targetCycle := StreamKey.eq_at hstream
    rw [hat, UInt64.toNat_inj.mp hcycle]
    rfl
  rw [lastAt, List.getLast?_isSome]
  exact List.ne_nil_of_mem (List.mem_filter.mpr ⟨hmem, decide_eq_true hkey⟩)

/-- The relation between the samples and the insertions so far. -/
def Retains (buffer : SampleBuffer) (inserted : List BufferedSample) : Prop :=
  ∀ key, buffer.samples.get? key =
    if key.targetCycle.toNat ∈
        greatest buffer.maxSamplesPerKey (cyclesIn key.stream inserted) then
      lastAt key inserted
    else none

theorem Retains.mem {buffer : SampleBuffer} {inserted : List BufferedSample}
    (h : Retains buffer inserted) {key : SampleKey} {sample : BufferedSample}
    (hfound : buffer.samples.get? key = some sample) :
    key.targetCycle.toNat ∈ greatest buffer.maxSamplesPerKey (cyclesIn key.stream inserted) ∧
      lastAt key inserted = some sample := by
  rw [h key] at hfound
  split at hfound
  · next hin => exact ⟨hin, hfound⟩
  · cases hfound

theorem Retains.get?_of_mem {buffer : SampleBuffer} {inserted : List BufferedSample}
    (h : Retains buffer inserted) {key : SampleKey}
    (hin : key.targetCycle.toNat ∈
      greatest buffer.maxSamplesPerKey (cyclesIn key.stream inserted)) :
    buffer.samples.get? key = lastAt key inserted := by
  rw [h key, if_pos hin]

theorem Retains.isSome_iff {buffer : SampleBuffer} {inserted : List BufferedSample}
    (h : Retains buffer inserted) (key : SampleKey) :
    (buffer.samples.get? key).isSome = true ↔
      key.targetCycle.toNat ∈
        greatest buffer.maxSamplesPerKey (cyclesIn key.stream inserted) := by
  rw [h key]
  split
  · next hin =>
      exact iff_of_true (isSome_lastAt (greatest_subset _ _ hin)) hin
  · next hout => exact iff_of_false (by simp) hout

/-- The stored cycles of a stream are the greatest of those inserted. -/
theorem Retains.cyclesOf_eq {buffer : SampleBuffer} {inserted : List BufferedSample}
    (h : Retains buffer inserted) (stream : StreamKey) :
    cyclesOf buffer.samples stream =
      greatest buffer.maxSamplesPerKey (cyclesIn stream inserted) := by
  ext n
  constructor
  · intro hn
    obtain ⟨cycle, rfl⟩ := exists_of_mem_cyclesOf hn
    exact (h.isSome_iff (stream.at cycle)).mp (mem_cyclesOf.mp hn)
  · intro hn
    obtain ⟨sample, -, hstream, rfl⟩ := mem_cyclesIn.mp (greatest_subset _ _ hn)
    rw [mem_cyclesOf]
    exact (h.isSome_iff (stream.at sample.key.targetCycle)).mpr hn

theorem retains_new (maxSamplesPerKey : ℕ) : Retains (new maxSamplesPerKey) [] := by
  intro key
  split
  · next hin => exact absurd (greatest_subset _ _ hin) (Finset.notMem_empty _)
  · exact KeyedMap.get?_empty key

theorem retains_step (buffer : SampleBuffer) (inserted : List BufferedSample)
    (arrival : BufferedSample) (h : Retains buffer inserted) :
    Retains (buffer.step arrival).1
      (inserted ++ (stored arrival (buffer.step arrival).2).toList) := by
  intro key
  rw [step_maxSamplesPerKey]
  by_cases hrefuses : buffer.Refuses arrival.envelope
  · have hsamples := step_samples_of_refuses hrefuses
    have hstored := stored_of_refuses hrefuses
    rw [hsamples, hstored, Option.toList_none, List.append_nil]
    exact h key
  have hsamples := get?_step_samples_of_not_refuses hrefuses
  have hstored := stored_of_not_refuses hrefuses
  rw [hsamples, hstored, Option.toList_some, lastAt_concat, kept, KeyedMap.get?_put]
  by_cases hstream : key.stream = arrival.stream
  · -- What the stream has now is what is greatest among the retained and the new cycle.
    have hcycles : greatest buffer.maxSamplesPerKey
          (cyclesOf (buffer.samples.put arrival) arrival.stream) =
        greatest buffer.maxSamplesPerKey (cyclesIn key.stream (inserted ++ [arrival])) := by
      rw [cyclesOf_put, h.cyclesOf_eq, greatest_insert_greatest, hstream, cyclesIn_concat_self]
    rw [hcycles]
    by_cases hin : key.targetCycle.toNat ∈
        greatest buffer.maxSamplesPerKey (cyclesIn key.stream (inserted ++ [arrival]))
    · rw [if_neg fun hout ↦ hout.2 hin, if_pos hin]
      split
      · rfl
      · next hne =>
          have hcycle : key.targetCycle.toNat ≠ arrival.key.targetCycle.toNat := by
            intro heq
            apply hne
            have hat : key = arrival.stream.at key.targetCycle := StreamKey.eq_at hstream
            rw [hat, UInt64.toNat_inj.mp heq]
            rfl
          rw [hstream, cyclesIn_concat_self] at hin
          have hbefore := mem_greatest_of_insert hcycle hin
          rw [← hstream] at hbefore
          exact h.get?_of_mem hbefore
    · rw [if_pos ⟨hstream, hin⟩, if_neg hin]
  · have hne : arrival.key ≠ key := fun heq ↦ hstream (heq ▸ rfl)
    rw [if_neg fun hout ↦ hstream hout.1, if_neg hne, if_neg hne,
      cyclesIn_concat_of_ne (Ne.symm hstream), h key]

theorem retains_filled (maxSamplesPerKey : ℕ) (arrivals : List BufferedSample) :
    Retains (filled maxSamplesPerKey arrivals) (insertions maxSamplesPerKey arrivals) :=
  history_run retains_step (retains_new maxSamplesPerKey) arrivals

/-- The retention law, for every stream after any run of adds. -/
theorem find_retained (maxSamplesPerKey : ℕ) (arrivals : List BufferedSample)
    (peer channel : Str) :
    let inserted := insertions maxSamplesPerKey arrivals
    let buffer := filled maxSamplesPerKey arrivals
    let retained := greatest (max 1 maxSamplesPerKey) (cyclesIn ⟨peer, channel⟩ inserted)
    (∀ cycle, (buffer.find peer channel cycle).isSome = true ↔ cycle.toNat ∈ retained) ∧
      (∀ cycle, cycle.toNat ∈ retained →
        buffer.find peer channel cycle = lastAt ⟨peer, channel, cycle⟩ inserted) ∧
      streamCount buffer.samples ⟨peer, channel⟩ ≤ max 1 maxSamplesPerKey := by
  have h := retains_filled maxSamplesPerKey arrivals
  have hmax := filled_maxSamplesPerKey maxSamplesPerKey arrivals
  dsimp only
  rw [← hmax]
  refine ⟨fun cycle ↦ h.isSome_iff ⟨peer, channel, cycle⟩, ?_, ?_⟩
  · intro cycle hin
    exact h.get?_of_mem hin
  · rw [streamCount_eq, h.cyclesOf_eq, card_greatest]
    exact min_le_left _ _

end SampleBuffer

end RuntimeSync
