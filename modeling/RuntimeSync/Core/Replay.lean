import RuntimeSync.Core.LastGood
import RuntimeSync.Core.Retention

/-!
# Replayed sequence numbers

The buffer remembers two things of the sequence numbers it has seen: the
highest one of every stream, and those of the samples that are still stored.  A
number that comes again is told from a new one by these two, and by nothing
else.
-/

namespace RuntimeSync

namespace SampleBuffer

open Machine

/-- The arrival has the stream and the sequence number of one of `samples`. -/
def Repeats (samples : List BufferedSample) (arrival : BufferedSample) : Prop :=
  ∃ earlier ∈ samples, earlier.stream = arrival.stream ∧ earlier.seq = arrival.seq

/-- No sequence number of a stream is inserted twice, and every repeat of an
inserted one is reported as a duplicate. -/
def AtMostOnce (maxSamplesPerKey : ℕ) (arrivals : List BufferedSample) : Prop :=
  ((insertions maxSamplesPerKey arrivals).map fun sample ↦ (sample.stream, sample.seq)).Nodup ∧
    ∀ seen arrival rest, arrivals = seen ++ arrival :: rest →
      Repeats (insertions maxSamplesPerKey seen) arrival →
        ((filled maxSamplesPerKey seen).step arrival).2.status = .duplicate ∧
          ((filled maxSamplesPerKey seen).step arrival).2.duplicate = true

/-- One of the two memories knows the number: it is the highest of its stream so
far, or that of the sample stored under the key of the arrival. -/
def Remembered (maxSamplesPerKey : ℕ) (seen : List BufferedSample)
    (arrival : BufferedSample) : Prop :=
  (∀ earlier ∈ seen, earlier.stream = arrival.stream → earlier.seq ≤ arrival.seq) ∨
    ∃ existing ∈ (filled maxSamplesPerKey seen).samples.get? arrival.key,
      existing.seq = arrival.seq

theorem repeats_iff {samples : List BufferedSample} {arrival : BufferedSample} :
    Repeats samples arrival ↔ arrival.seq ∈ seqsOf arrival.stream samples :=
  mem_seqsOf.symm

/-! ## The numbers that were inserted -/

theorem insertions_concat (maxSamplesPerKey : ℕ) (seen : List BufferedSample)
    (arrival : BufferedSample) :
    insertions maxSamplesPerKey (seen ++ [arrival]) =
      insertions maxSamplesPerKey seen ++
        (stored arrival ((filled maxSamplesPerKey seen).step arrival).2).toList :=
  observed_concat step _ _ _ _

/-- A number is refused only when it was inserted before. -/
theorem repeats_of_refuses {maxSamplesPerKey : ℕ} {seen : List BufferedSample}
    {arrival : BufferedSample}
    (h : (filled maxSamplesPerKey seen).Refuses arrival.envelope) :
    Repeats (insertions maxSamplesPerKey seen) arrival := by
  obtain hhighest | ⟨existing, hfound, heq⟩ := refuses_iff.mp h
  · have hlatest := knowsHighest_filled maxSamplesPerKey seen arrival.stream
    rw [hhighest] at hlatest
    exact repeats_iff.mpr hlatest.mem
  · have hlast := ((retains_filled maxSamplesPerKey seen).mem hfound).2
    obtain ⟨hmem, hkey⟩ := mem_of_lastAt hlast
    exact ⟨existing, hmem, congrArg SampleKey.stream hkey, heq⟩

/-- Every number that arrived in a stream was inserted in it at least once. -/
theorem mem_seqsOf_insertions (maxSamplesPerKey : ℕ) (stream : StreamKey) (seq : ℕ)
    (arrivals : List BufferedSample) :
    seq ∈ seqsOf stream (insertions maxSamplesPerKey arrivals) ↔ seq ∈ seqsOf stream arrivals := by
  induction arrivals using List.reverseRecOn with
  | nil => rfl
  | append_singleton seen arrival ih =>
      rw [insertions_concat, seqsOf_concat, List.mem_append]
      by_cases hrefuses : (filled maxSamplesPerKey seen).Refuses arrival.envelope
      · rw [stored_of_refuses hrefuses, Option.toList_none, List.append_nil, ih]
        have hrepeats := repeats_iff.mp (repeats_of_refuses hrefuses)
        constructor
        · exact Or.inl
        · rintro (hseen | hnew)
          · exact hseen
          · split at hnew
            · next hstream =>
                subst hstream
                obtain rfl := List.mem_singleton.mp hnew
                exact ih.mp hrepeats
            · cases hnew
      · rw [stored_of_not_refuses hrefuses, Option.toList_some, seqsOf_concat,
          List.mem_append, ih]

theorem repeats_insertions (maxSamplesPerKey : ℕ) (seen : List BufferedSample)
    (arrival : BufferedSample) :
    Repeats (insertions maxSamplesPerKey seen) arrival ↔ Repeats seen arrival := by
  rw [repeats_iff, repeats_iff, mem_seqsOf_insertions]

/-- The highest number of a stream is the highest that arrived in it. -/
theorem highest_filled {maxSamplesPerKey : ℕ} {seen : List BufferedSample}
    {arrival : BufferedSample} (h : Repeats seen arrival) :
    ((filled maxSamplesPerKey seen).stateOf arrival.stream).highest = some arrival.seq ↔
      ∀ earlier ∈ seen, earlier.stream = arrival.stream → earlier.seq ≤ arrival.seq := by
  have hmem := (mem_seqsOf_insertions maxSamplesPerKey arrival.stream arrival.seq seen).mpr
    (repeats_iff.mp h)
  obtain ⟨greatest, hhighest, hlatest⟩ :=
    (knowsHighest_filled maxSamplesPerKey seen arrival.stream).exists_of_mem hmem
  rw [hhighest, Option.some_inj]
  constructor
  · rintro rfl earlier hearlier hstream
    apply hlatest.2
    rw [mem_seqsOf_insertions]
    exact mem_seqsOf.mpr ⟨earlier, hearlier, hstream, rfl⟩
  · intro hall
    have hseq := (mem_seqsOf_insertions _ _ _ _).mp hlatest.mem
    obtain ⟨earlier, hearlier, hstream, rfl⟩ := mem_seqsOf.mp hseq
    exact le_antisymm (hall earlier hearlier hstream) (hlatest.2 _ hmem)

/-- A repeat is refused exactly when one of the two memories knows it. -/
theorem refuses_iff_remembered {maxSamplesPerKey : ℕ} {seen : List BufferedSample}
    {arrival : BufferedSample} (h : Repeats seen arrival) :
    (filled maxSamplesPerKey seen).Refuses arrival.envelope ↔
      Remembered maxSamplesPerKey seen arrival := by
  rw [refuses_iff, highest_filled h]
  rfl

/-! ## Whole runs -/

theorem refuses_iff_status {buffer : SampleBuffer} {arrival : BufferedSample} :
    buffer.Refuses arrival.envelope ↔
      (buffer.step arrival).2.status = .duplicate ∧ (buffer.step arrival).2.duplicate = true := by
  constructor
  · intro h
    obtain ⟨gap, result, hstep, -, hstatus⟩ := step_refused h
    rwa [hstep]
  · rintro ⟨hstatus, -⟩
    by_contra h
    obtain ⟨gap, result, hstep, -, hother⟩ := step_accepted h
    rw [hstep] at hstatus
    exact hother hstatus

theorem nodup_insertions {maxSamplesPerKey : ℕ} {arrivals : List BufferedSample}
    (h : ∀ seen arrival rest, arrivals = seen ++ arrival :: rest →
      Repeats (insertions maxSamplesPerKey seen) arrival →
        (filled maxSamplesPerKey seen).Refuses arrival.envelope) :
    ((insertions maxSamplesPerKey arrivals).map
      fun sample ↦ (sample.stream, sample.seq)).Nodup := by
  induction arrivals using List.reverseRecOn with
  | nil => exact List.nodup_nil
  | append_singleton seen arrival ih =>
      have hseen := ih fun seen' arrival' rest heq ↦
        h seen' arrival' (rest ++ [arrival]) (by rw [heq]; simp)
      rw [insertions_concat]
      by_cases hrefuses : (filled maxSamplesPerKey seen).Refuses arrival.envelope
      · rwa [stored_of_refuses hrefuses, Option.toList_none, List.append_nil]
      · have hnew : ¬Repeats (insertions maxSamplesPerKey seen) arrival := fun hrepeats ↦
          hrefuses (h seen arrival [] rfl hrepeats)
        rw [stored_of_not_refuses hrefuses, Option.toList_some, List.map_append,
          List.nodup_append]
        refine ⟨hseen, List.nodup_singleton _, ?_⟩
        rintro _ hmem _ hlast rfl
        obtain ⟨earlier, hearlier, heq⟩ := List.mem_map.mp hmem
        have hself := List.mem_singleton.mp hlast
        rw [hself, Prod.mk.injEq] at heq
        exact hnew ⟨earlier, hearlier, heq.1, heq.2⟩

/-- Acceptance is at most once in exactly the runs in which every repeat meets
a memory that knows it. -/
theorem atMostOnce_iff_remembered (maxSamplesPerKey : ℕ) (arrivals : List BufferedSample) :
    AtMostOnce maxSamplesPerKey arrivals ↔
      ∀ seen arrival rest, arrivals = seen ++ arrival :: rest →
        Repeats seen arrival → Remembered maxSamplesPerKey seen arrival := by
  constructor
  · rintro ⟨-, hduplicate⟩ seen arrival rest heq hrepeats
    rw [← refuses_iff_remembered hrepeats, refuses_iff_status]
    exact hduplicate seen arrival rest heq ((repeats_insertions _ _ _).mpr hrepeats)
  · intro h
    have hrefuses : ∀ seen arrival rest, arrivals = seen ++ arrival :: rest →
        Repeats (insertions maxSamplesPerKey seen) arrival →
          (filled maxSamplesPerKey seen).Refuses arrival.envelope := by
      intro seen arrival rest heq hrepeats
      have hseen := (repeats_insertions _ _ _).mp hrepeats
      exact (refuses_iff_remembered hseen).mpr (h seen arrival rest heq hseen)
    refine ⟨nodup_insertions hrefuses, ?_⟩
    intro seen arrival rest heq hrepeats
    exact refuses_iff_status.mp (hrefuses seen arrival rest heq hrepeats)

/-! A number that comes again for a later cycle, after a higher one. -/

def replayed : List BufferedSample :=
  [solutionSample 1 1, solutionSample 2 2, solutionSample 3 1]

theorem atMostOnce_fails_replayed :
    insertions 8 replayed = replayed ∧ ¬AtMostOnce 8 replayed := by
  have hinsertions : insertions 8 replayed = replayed := by decide +kernel
  refine ⟨hinsertions, ?_⟩
  rintro ⟨hnodup, -⟩
  rw [hinsertions] at hnodup
  exact absurd hnodup (by decide +kernel)

end SampleBuffer

end RuntimeSync
