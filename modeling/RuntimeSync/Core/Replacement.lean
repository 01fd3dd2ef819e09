import RuntimeSync.Core.LastGood
import RuntimeSync.Core.Retention

/-!
# Replacing a sample

A sample takes the place of the one that is stored under its key, whatever
their sequence numbers are.  The lookup finds the newest sample of a key as long
as no sample comes after a newer one of its cycle.
-/

namespace RuntimeSync

namespace SampleBuffer

open Machine

def insertedAt (key : SampleKey) (samples : List BufferedSample) : List BufferedSample :=
  samples.filter fun sample ↦ sample.key = key

/-- What the lookup is for: the sample it finds has the greatest sequence
number of all that were inserted under its key. -/
def FindsNewest (maxSamplesPerKey : ℕ) (arrivals : List BufferedSample) : Prop :=
  ∀ peer channel cycle,
    ∀ found ∈ (filled maxSamplesPerKey arrivals).find peer channel cycle,
      IsLatest BufferedSample.seq
        (insertedAt ⟨peer, channel, cycle⟩ (insertions maxSamplesPerKey arrivals)) (some found)

/-- The sample that is stored under the key of the arrival is not newer than it. -/
def NoStepBack (buffer : SampleBuffer) (arrival : BufferedSample) : Prop :=
  ∀ existing ∈ buffer.samples.get? arrival.key, existing.seq ≤ arrival.seq

def HoldsNewest (buffer : SampleBuffer) (inserted : List BufferedSample) : Prop :=
  ∀ key, ∀ found ∈ buffer.samples.get? key,
    IsLatest BufferedSample.seq (insertedAt key inserted) (some found)

theorem mem_insertedAt {key : SampleKey} {samples : List BufferedSample}
    {sample : BufferedSample} :
    sample ∈ insertedAt key samples ↔ sample ∈ samples ∧ sample.key = key := by
  rw [insertedAt, List.mem_filter, decide_eq_true_eq]

theorem insertedAt_concat (key : SampleKey) (samples : List BufferedSample)
    (arrival : BufferedSample) :
    insertedAt key (samples ++ [arrival]) =
      insertedAt key samples ++ if arrival.key = key then [arrival] else [] := by
  rw [insertedAt, List.filter_append]
  congr 1
  by_cases h : arrival.key = key <;> simp [h]

theorem Retains.mem_insertedAt {buffer : SampleBuffer} {inserted : List BufferedSample}
    (h : Retains buffer inserted) {key : SampleKey} {sample : BufferedSample}
    (hfound : buffer.samples.get? key = some sample) : sample ∈ insertedAt key inserted :=
  SampleBuffer.mem_insertedAt.mpr (mem_of_lastAt (h.mem hfound).2)

/-! ## One add -/

/-- A stored sample is no newer than what its stream knows as its highest number. -/
theorem seq_le_of_highest {buffer : SampleBuffer} {inserted : List BufferedSample}
    (hretains : Retains buffer inserted) (hknows : KnowsHighest buffer inserted)
    {arrival existing : BufferedSample}
    (hfound : buffer.samples.get? arrival.key = some existing)
    (hhighest : (buffer.stateOf arrival.stream).highest = some arrival.seq) :
    existing.seq ≤ arrival.seq := by
  have hlatest := hknows arrival.stream
  rw [hhighest] at hlatest
  obtain ⟨hmem, hkey⟩ := SampleBuffer.mem_insertedAt.mp (hretains.mem_insertedAt hfound)
  exact hlatest.2 existing.seq (mem_seqsOf.mpr ⟨existing, hmem, congrArg SampleKey.stream hkey, rfl⟩)

theorem noStepBack_of_refuses {buffer : SampleBuffer} {inserted : List BufferedSample}
    (hretains : Retains buffer inserted) (hknows : KnowsHighest buffer inserted)
    {arrival : BufferedSample} (hrefuses : buffer.Refuses arrival.envelope) :
    buffer.NoStepBack arrival := by
  intro existing hfound
  obtain hhighest | ⟨existing', hfound', heq⟩ := refuses_iff.mp hrefuses
  · exact seq_le_of_highest hretains hknows hfound hhighest
  · rw [Option.mem_unique hfound hfound', heq]

/-- Replacing a stored sample makes no cycle go. -/
theorem get?_step_of_stored {buffer : SampleBuffer} {inserted : List BufferedSample}
    (hretains : Retains buffer inserted) {arrival existing : BufferedSample}
    (hrefuses : ¬buffer.Refuses arrival.envelope)
    (hfound : buffer.samples.get? arrival.key = some existing) :
    (buffer.step arrival).1.samples.get? arrival.key = some arrival := by
  have hstream : arrival.key.stream = arrival.stream := rfl
  have hmem : arrival.key.targetCycle.toNat ∈ cyclesOf buffer.samples arrival.stream := by
    rw [mem_cyclesOf, ← StreamKey.eq_at hstream, hfound]
    rfl
  rw [get?_step_samples_of_not_refuses hrefuses, kept_of_card_le, KeyedMap.get?_put_self]
  rw [cyclesOf_put, Finset.insert_eq_of_mem hmem, hretains.cyclesOf_eq, card_greatest]
  exact min_le_left _ _

/-- What was evicted does not come back: a key that is filled again is new. -/
theorem insertedAt_eq_nil {buffer : SampleBuffer} {inserted : List BufferedSample}
    (hretains : Retains buffer inserted) {arrival found : BufferedSample}
    (hrefuses : ¬buffer.Refuses arrival.envelope)
    (hnone : buffer.samples.get? arrival.key = none)
    (hfound : (buffer.step arrival).1.samples.get? arrival.key = some found) :
    insertedAt arrival.key inserted = [] := by
  have hafter := retains_step buffer inserted arrival hretains
  rw [stored_of_not_refuses hrefuses, Option.toList_some] at hafter
  have hin := (hafter.mem hfound).1
  rw [step_maxSamplesPerKey] at hin
  by_contra hne
  obtain ⟨earlier, hearlier⟩ := List.exists_mem_of_ne_nil _ hne
  obtain ⟨hmem, hkey⟩ := SampleBuffer.mem_insertedAt.mp hearlier
  have hcycle : arrival.key.targetCycle.toNat ∈ cyclesIn arrival.stream inserted :=
    mem_cyclesIn.mpr ⟨earlier, hmem, congrArg SampleKey.stream hkey,
      congrArg (fun key : SampleKey ↦ key.targetCycle.toNat) hkey⟩
  have hsame : cyclesIn arrival.stream (inserted ++ [arrival]) =
      cyclesIn arrival.stream inserted := by
    rw [cyclesIn_concat_self, Finset.insert_eq_of_mem hcycle]
  have hstream : arrival.key.stream = arrival.stream := rfl
  rw [hstream, hsame] at hin
  have hsome := (hretains.isSome_iff arrival.key).mpr hin
  rw [hnone] at hsome
  cases hsome

theorem holdsNewest_step_iff {buffer : SampleBuffer} {inserted : List BufferedSample}
    (hretains : Retains buffer inserted) (hknows : KnowsHighest buffer inserted)
    (h : HoldsNewest buffer inserted) (arrival : BufferedSample) :
    HoldsNewest (buffer.step arrival).1
        (inserted ++ (stored arrival (buffer.step arrival).2).toList) ↔
      buffer.NoStepBack arrival := by
  by_cases hrefuses : buffer.Refuses arrival.envelope
  · have hsamples := step_samples_of_refuses hrefuses
    have hstored := stored_of_refuses hrefuses
    rw [hstored, Option.toList_none, List.append_nil, HoldsNewest, hsamples]
    exact iff_of_true h (noStepBack_of_refuses hretains hknows hrefuses)
  have hsamples := get?_step_samples_of_not_refuses hrefuses
  have hstored := stored_of_not_refuses hrefuses
  rw [hstored, Option.toList_some]
  constructor
  · intro hafter existing hexisting
    have hlatest := hafter arrival.key arrival
      (get?_step_of_stored hretains hrefuses hexisting)
    apply hlatest.2 existing
    rw [insertedAt_concat]
    exact List.mem_append_left _ (hretains.mem_insertedAt hexisting)
  · intro hnoStepBack key found hfound
    rw [insertedAt_concat]
    by_cases hkey : arrival.key = key
    · subst hkey
      have hself : found = arrival := by
        have hput := get?_of_kept ((hsamples arrival.key).symm.trans hfound)
        exact Option.some_inj.mp (hput.symm.trans (KeyedMap.get?_put_self _ arrival))
      have hbefore : IsLatest BufferedSample.seq (insertedAt arrival.key inserted)
          (buffer.samples.get? arrival.key) := by
        cases hexisting : buffer.samples.get? arrival.key with
        | none => exact insertedAt_eq_nil hretains hrefuses hexisting hfound
        | some existing => exact h arrival.key existing hexisting
      rw [hself, if_pos rfl]
      exact hbefore.concat hnoStepBack
    · have hput := get?_of_kept ((hsamples key).symm.trans hfound)
      rw [KeyedMap.get?_put, if_neg hkey] at hput
      rw [if_neg hkey, List.append_nil]
      exact h key found hput

/-! ## Whole runs -/

theorem findsNewest_iff (maxSamplesPerKey : ℕ) (arrivals : List BufferedSample) :
    FindsNewest maxSamplesPerKey arrivals ↔
      HoldsNewest (filled maxSamplesPerKey arrivals) (insertions maxSamplesPerKey arrivals) :=
  ⟨fun h key ↦ h key.senderId key.channel key.targetCycle,
    fun h peer channel cycle ↦ h ⟨peer, channel, cycle⟩⟩

/-- The buffer stores the newest samples of all that were inserted, and knows the
highest number of each stream. -/
def Accounts (buffer : SampleBuffer) (inserted : List BufferedSample) : Prop :=
  Retains buffer inserted ∧ KnowsHighest buffer inserted ∧ HoldsNewest buffer inserted

theorem accounts_step_iff (buffer : SampleBuffer) (inserted : List BufferedSample)
    (arrival : BufferedSample) (h : Accounts buffer inserted) :
    Accounts (buffer.step arrival).1
        (inserted ++ (stored arrival (buffer.step arrival).2).toList) ↔
      buffer.NoStepBack arrival := by
  obtain ⟨hretains, hknows, hnewest⟩ := h
  rw [Accounts, and_iff_right (retains_step buffer inserted arrival hretains),
    and_iff_right (knowsHighest_step buffer inserted arrival hknows)]
  exact holdsNewest_step_iff hretains hknows hnewest arrival

theorem accounts_new (maxSamplesPerKey : ℕ) : Accounts (new maxSamplesPerKey) [] := by
  refine ⟨retains_new maxSamplesPerKey, knowsHighest_new maxSamplesPerKey, ?_⟩
  intro key found hfound
  cases (KeyedMap.get?_empty key).symm.trans hfound

theorem accounts_filled_iff (maxSamplesPerKey : ℕ) (arrivals : List BufferedSample) :
    Accounts (filled maxSamplesPerKey arrivals) (insertions maxSamplesPerKey arrivals) ↔
      FindsNewest maxSamplesPerKey arrivals := by
  rw [findsNewest_iff, Accounts, and_iff_right (retains_filled maxSamplesPerKey arrivals),
    and_iff_right (knowsHighest_filled maxSamplesPerKey arrivals)]

/-- At every point of a run the lookups find the newest samples exactly when
no add of the run brings in a sample older than the one stored under its key. -/
theorem findsNewest_iff_noStepBack (maxSamplesPerKey : ℕ) (arrivals : List BufferedSample) :
    (∀ seen, seen <+: arrivals → FindsNewest maxSamplesPerKey seen) ↔
      ∀ e ∈ trace step (new maxSamplesPerKey) arrivals, e.state.NoStepBack e.input := by
  rw [← history_iff accounts_step_iff (accounts_new maxSamplesPerKey)]
  exact forall₂_congr fun seen _ ↦ (accounts_filled_iff maxSamplesPerKey seen).symm

/-! Two samples for one cycle that overtake each other: the older one stays. -/

def steppedBack : List BufferedSample := [solutionSample 5 5, solutionSample 5 4]

theorem findsNewest_fails_steppedBack :
    insertions 8 steppedBack = steppedBack ∧
      (filled 8 steppedBack).find (text "uav2") (text "solution") 5 =
        some (solutionSample 5 4) ∧
      ¬FindsNewest 8 steppedBack := by
  have hfind : (filled 8 steppedBack).find (text "uav2") (text "solution") 5 =
      some (solutionSample 5 4) := by decide +kernel
  have hinsertions : insertions 8 steppedBack = steppedBack := by decide +kernel
  refine ⟨hinsertions, hfind, ?_⟩
  intro h
  have hlatest := h (text "uav2") (text "solution") 5 (solutionSample 5 4) hfind
  have hfirst : solutionSample 5 5 ∈
      insertedAt ⟨text "uav2", text "solution", 5⟩ (insertions 8 steppedBack) := by
    decide +kernel
  exact absurd (hlatest.2 _ hfirst) (by decide +kernel)

end SampleBuffer

end RuntimeSync
