import RuntimeSync.Core.LastGood
import RuntimeSync.Core.Retention

/-!
# Inserted and stored

An add that does not refuse a sample stores it and then prunes its stream, and
what goes is the least target cycle.  That can be the one of the new sample.
-/

namespace RuntimeSync

namespace SampleBuffer

/-- The stream of the arrival is not full, or it has a sample whose cycle is
not later than that of the arrival. -/
def HasRoom (buffer : SampleBuffer) (arrival : BufferedSample) : Prop :=
  streamCount buffer.samples arrival.stream < buffer.maxSamplesPerKey ∨
    ∃ cycle ≤ arrival.key.targetCycle,
      (buffer.samples.get? (arrival.stream.at cycle)).isSome = true

/-- An arrival that is reported as inserted is found, and what goes for it are
samples of earlier cycles of its stream. -/
def InsertedIsStored (maxSamplesPerKey : ℕ) (seen : List BufferedSample)
    (arrival : BufferedSample) : Prop :=
  let before := filled maxSamplesPerKey seen
  let after := (before.step arrival).1
  (before.step arrival).2.inserted = true →
    after.find arrival.envelope.senderId arrival.envelope.channel arrival.envelope.targetCycle =
        some arrival ∧
      ∀ key, key ≠ arrival.key → (before.samples.get? key).isSome = true →
        after.samples.get? key = none →
          key.stream = arrival.stream ∧ key.targetCycle < arrival.key.targetCycle

/-! ## One add -/

theorem inserted_iff_not_refuses {buffer : SampleBuffer} {arrival : BufferedSample} :
    (buffer.step arrival).2.inserted = true ↔ ¬buffer.Refuses arrival.envelope := by
  constructor
  · intro hinserted hrefuses
    have hstored := stored_of_refuses hrefuses
    rw [stored, if_pos hinserted] at hstored
    cases hstored
  · intro hrefuses
    by_contra hinserted
    have hstored := stored_of_not_refuses hrefuses
    rw [stored, if_neg hinserted] at hstored
    cases hstored

theorem card_cyclesOf_le (maxSamplesPerKey : ℕ) (seen : List BufferedSample)
    (stream : StreamKey) :
    (cyclesOf (filled maxSamplesPerKey seen).samples stream).card ≤
      (filled maxSamplesPerKey seen).maxSamplesPerKey := by
  rw [(retains_filled maxSamplesPerKey seen).cyclesOf_eq, card_greatest]
  exact min_le_left _ _

theorem hasRoom_iff {buffer : SampleBuffer} {arrival : BufferedSample} :
    buffer.HasRoom arrival ↔
      (cyclesOf buffer.samples arrival.stream).card < buffer.maxSamplesPerKey ∨
        ∃ n ∈ cyclesOf buffer.samples arrival.stream, n ≤ arrival.key.targetCycle.toNat := by
  rw [HasRoom, streamCount_eq]
  refine or_congr_right ⟨?_, ?_⟩
  · rintro ⟨cycle, hle, hfound⟩
    exact ⟨cycle.toNat, mem_cyclesOf.mpr hfound, UInt64.le_iff_toNat_le.mp hle⟩
  · rintro ⟨n, hn, hle⟩
    obtain ⟨cycle, rfl⟩ := exists_of_mem_cyclesOf hn
    exact ⟨cycle, UInt64.le_iff_toNat_le.mpr hle, mem_cyclesOf.mp hn⟩

/-- The arrival is found exactly if its stream had room for it. -/
theorem find_step_iff {buffer : SampleBuffer} {arrival : BufferedSample}
    (hcard : (cyclesOf buffer.samples arrival.stream).card ≤ buffer.maxSamplesPerKey)
    (hrefuses : ¬buffer.Refuses arrival.envelope) :
    (buffer.step arrival).1.samples.get? arrival.key = some arrival ↔ buffer.HasRoom arrival := by
  have hstream : arrival.key.stream = arrival.stream := rfl
  rw [get?_step_samples_of_not_refuses hrefuses, kept, KeyedMap.get?_put_self, cyclesOf_put,
    hasRoom_iff, ← mem_greatest_insert_self hcard]
  by_cases hin : arrival.key.targetCycle.toNat ∈ greatest buffer.maxSamplesPerKey
      (insert arrival.key.targetCycle.toNat (cyclesOf buffer.samples arrival.stream))
  · rw [if_neg fun hout ↦ hout.2 hin]
    exact iff_of_true rfl hin
  · rw [if_pos ⟨hstream, hin⟩]
    exact iff_of_false (fun h ↦ by cases h) hin

/-- Only earlier cycles of its stream go for an arrival. -/
theorem pruned_step {buffer : SampleBuffer} {arrival : BufferedSample}
    (hcard : (cyclesOf buffer.samples arrival.stream).card ≤ buffer.maxSamplesPerKey)
    (hrefuses : ¬buffer.Refuses arrival.envelope) {key : SampleKey} (hne : key ≠ arrival.key)
    (hbefore : (buffer.samples.get? key).isSome = true)
    (hafter : (buffer.step arrival).1.samples.get? key = none) :
    key.stream = arrival.stream ∧ key.targetCycle < arrival.key.targetCycle := by
  rw [get?_step_samples_of_not_refuses hrefuses, kept, KeyedMap.get?_put, if_neg hne.symm,
    cyclesOf_put] at hafter
  split at hafter
  · next hout =>
      obtain ⟨hstream, hout⟩ := hout
      refine ⟨hstream, ?_⟩
      by_contra hlt
      have hle := UInt64.le_iff_toNat_le.mp (UInt64.not_lt.mp hlt)
      have hcycle : arrival.key.targetCycle.toNat ≠ key.targetCycle.toNat := by
        intro heq
        have harrival : arrival.key = arrival.stream.at arrival.key.targetCycle := rfl
        apply hne
        rw [StreamKey.eq_at hstream, harrival, UInt64.toNat_inj.mp heq]
      have hmem : key.targetCycle.toNat ∈ cyclesOf buffer.samples arrival.stream :=
        hstream ▸ mem_cyclesOf_key.mpr hbefore
      exact hout (mem_greatest_insert_of_lt hcard hmem (lt_of_le_of_ne hle hcycle))
  · rw [hafter] at hbefore
    cases hbefore

theorem insertedIsStored_iff (maxSamplesPerKey : ℕ) (seen : List BufferedSample)
    (arrival : BufferedSample) :
    InsertedIsStored maxSamplesPerKey seen arrival ↔
      (¬(filled maxSamplesPerKey seen).Refuses arrival.envelope →
        (filled maxSamplesPerKey seen).HasRoom arrival) := by
  have hcard := card_cyclesOf_le maxSamplesPerKey seen arrival.stream
  rw [InsertedIsStored, inserted_iff_not_refuses]
  refine imp_congr_right fun hrefuses ↦ ?_
  rw [← find_step_iff hcard hrefuses]
  refine and_iff_left fun key hne hbefore hafter ↦ ?_
  exact pruned_step hcard hrefuses hne hbefore hafter

/-! ## Whole runs -/

/-- In a run of adds every inserted sample is stored exactly if each add that
does not refuse its sample finds room for it. -/
theorem inserted_stored_iff (maxSamplesPerKey : ℕ) (arrivals : List BufferedSample) :
    (∀ seen arrival rest, arrivals = seen ++ arrival :: rest →
      InsertedIsStored maxSamplesPerKey seen arrival) ↔
    ∀ seen arrival rest, arrivals = seen ++ arrival :: rest →
      ¬(filled maxSamplesPerKey seen).Refuses arrival.envelope →
        (filled maxSamplesPerKey seen).HasRoom arrival := by
  constructor
  · intro h seen arrival rest hsplit
    exact (insertedIsStored_iff maxSamplesPerKey seen arrival).mp (h seen arrival rest hsplit)
  · intro h seen arrival rest hsplit
    exact (insertedIsStored_iff maxSamplesPerKey seen arrival).mpr (h seen arrival rest hsplit)

/-- A stream of one place, in which a later cycle is stored. -/
theorem inserted_not_stored :
    ¬∀ maxSamplesPerKey seen arrival, InsertedIsStored maxSamplesPerKey seen arrival := by
  intro h
  have hfind := (h 1 [solutionSample 5 5] (solutionSample 4 6) (by decide +kernel)).1
  exact absurd hfind (by decide +kernel)

end SampleBuffer

end RuntimeSync
