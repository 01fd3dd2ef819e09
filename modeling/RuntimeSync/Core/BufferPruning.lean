import Mathlib.Data.List.MinMax
import RuntimeSync.Core.SampleBuffer
import RuntimeSync.Library.Greatest

/-!
# What pruning keeps

The target cycles that are stored for a stream form a finite set.  Pruning the
stream leaves the greatest of them, each with its sample, and does not touch
any other stream.
-/

namespace RuntimeSync

/-- The key of a stream's sample for a cycle. -/
def StreamKey.at (stream : StreamKey) (cycle : UInt64) : SampleKey :=
  ⟨stream.senderId, stream.channel, cycle⟩

theorem StreamKey.eq_at {key : SampleKey} {stream : StreamKey} (h : key.stream = stream) :
    key = stream.at key.targetCycle := by
  rw [← h]
  rfl

theorem StreamKey.eq_at_iff {key : SampleKey} {stream : StreamKey} (h : key.stream = stream)
    (cycle : UInt64) : key = stream.at cycle ↔ cycle.toNat = key.targetCycle.toNat := by
  rw [UInt64.toNat_inj]
  constructor
  · intro heq
    rw [heq]
    rfl
  · rintro rfl
    exact StreamKey.eq_at h

namespace SampleBuffer

/-! ## The stored cycles -/

def itemsOf (samples : Samples) (stream : StreamKey) : List (SampleKey × BufferedSample) :=
  samples.toList.filter fun item ↦ item.1.stream = stream

def cyclesOf (samples : Samples) (stream : StreamKey) : Finset ℕ :=
  ((itemsOf samples stream).map fun item ↦ item.1.targetCycle.toNat).toFinset

theorem mem_itemsOf {samples : Samples} {stream : StreamKey} {item : SampleKey × BufferedSample} :
    item ∈ itemsOf samples stream ↔
      samples.get? item.1 = some item.2 ∧ item.1.stream = stream := by
  rw [itemsOf, List.mem_filter, KeyedMap.mem_toList, decide_eq_true_eq]

theorem mem_cyclesOf {samples : Samples} {stream : StreamKey} {cycle : UInt64} :
    cycle.toNat ∈ cyclesOf samples stream ↔ (samples.get? (stream.at cycle)).isSome = true := by
  rw [cyclesOf, List.mem_toFinset, List.mem_map, Option.isSome_iff_exists]
  constructor
  · rintro ⟨item, hitem, hcycle⟩
    obtain ⟨hfound, hstream⟩ := mem_itemsOf.mp hitem
    have hkey : item.1 = stream.at cycle := by
      rw [← UInt64.toNat_inj.mp hcycle]
      exact StreamKey.eq_at hstream
    exact ⟨item.2, hkey ▸ hfound⟩
  · rintro ⟨sample, hfound⟩
    exact ⟨(stream.at cycle, sample), mem_itemsOf.mpr ⟨hfound, rfl⟩, rfl⟩

theorem mem_cyclesOf_key {samples : Samples} {key : SampleKey} :
    key.targetCycle.toNat ∈ cyclesOf samples key.stream ↔ (samples.get? key).isSome = true :=
  mem_cyclesOf

theorem exists_of_mem_cyclesOf {samples : Samples} {stream : StreamKey} {n : ℕ}
    (h : n ∈ cyclesOf samples stream) : ∃ cycle : UInt64, cycle.toNat = n := by
  rw [cyclesOf, List.mem_toFinset, List.mem_map] at h
  obtain ⟨item, -, hcycle⟩ := h
  exact ⟨item.1.targetCycle, hcycle⟩

/-- A stream's cycles are told by the lookups for its keys. -/
theorem cyclesOf_congr {samples samples' : Samples} {stream : StreamKey}
    (h : ∀ cycle, samples.get? (stream.at cycle) = samples'.get? (stream.at cycle)) :
    cyclesOf samples stream = cyclesOf samples' stream := by
  ext n
  constructor
  · intro hn
    obtain ⟨cycle, rfl⟩ := exists_of_mem_cyclesOf hn
    rw [mem_cyclesOf] at hn ⊢
    rwa [← h cycle]
  · intro hn
    obtain ⟨cycle, rfl⟩ := exists_of_mem_cyclesOf hn
    rw [mem_cyclesOf] at hn ⊢
    rwa [h cycle]

/-- The counting loop of the source. -/
theorem streamCount_eq (samples : Samples) (stream : StreamKey) :
    streamCount samples stream = (cyclesOf samples stream).card := by
  have hnodup : ((itemsOf samples stream).map fun item ↦ item.1.targetCycle.toNat).Nodup := by
    have hkeys : ((itemsOf samples stream).map Prod.fst).Nodup :=
      samples.nodup_keys.sublist (List.filter_sublist.map Prod.fst)
    rw [List.nodup_iff_pairwise_ne, List.pairwise_map] at hkeys ⊢
    apply hkeys.imp_of_mem
    intro a b ha hb hne hcycle
    apply hne
    rw [StreamKey.eq_at (mem_itemsOf.mp ha).2, StreamKey.eq_at (mem_itemsOf.mp hb).2,
      UInt64.toNat_inj.mp hcycle]
  rw [cyclesOf, List.toFinset_card_of_nodup hnodup, List.length_map]
  rfl

theorem cyclesOf_erase (samples : Samples) {key : SampleKey} {stream : StreamKey}
    (h : key.stream = stream) :
    cyclesOf (samples.erase key) stream =
      (cyclesOf samples stream).erase key.targetCycle.toNat := by
  ext n
  rw [Finset.mem_erase]
  constructor
  · intro hn
    obtain ⟨cycle, rfl⟩ := exists_of_mem_cyclesOf hn
    rw [mem_cyclesOf, KeyedMap.get?_erase] at hn
    split at hn
    · cases hn
    · next hne =>
        exact ⟨fun heq ↦ hne ((StreamKey.eq_at_iff h cycle).mpr heq), mem_cyclesOf.mpr hn⟩
  · rintro ⟨hne, hn⟩
    obtain ⟨cycle, rfl⟩ := exists_of_mem_cyclesOf hn
    rw [mem_cyclesOf, KeyedMap.get?_erase,
      if_neg fun heq ↦ hne ((StreamKey.eq_at_iff h cycle).mp heq)]
    exact mem_cyclesOf.mp hn

theorem cyclesOf_put (samples : Samples) (sample : BufferedSample) :
    cyclesOf (samples.put sample) sample.stream =
      insert sample.key.targetCycle.toNat (cyclesOf samples sample.stream) := by
  have hstream : sample.key.stream = sample.stream := rfl
  ext n
  rw [Finset.mem_insert]
  constructor
  · intro hn
    obtain ⟨cycle, rfl⟩ := exists_of_mem_cyclesOf hn
    rw [mem_cyclesOf, KeyedMap.get?_put] at hn
    split at hn
    · next heq => exact Or.inl ((StreamKey.eq_at_iff hstream cycle).mp heq)
    · exact Or.inr (mem_cyclesOf.mpr hn)
  · rintro (rfl | hn)
    · rw [mem_cyclesOf, ← StreamKey.eq_at hstream, KeyedMap.get?_put_self]
      rfl
    · obtain ⟨cycle, rfl⟩ := exists_of_mem_cyclesOf hn
      rw [mem_cyclesOf, KeyedMap.get?_put]
      split
      · rfl
      · exact mem_cyclesOf.mp hn

/-! ## The eviction loop -/

/-- The scan of the source is the first argument of the minimum. -/
theorem oldest_eq (samples : Samples) (stream : StreamKey) :
    oldest samples stream =
      (itemsOf samples stream).argmin fun item ↦ item.2.envelope.targetCycle.toNat := by
  rw [List.argmin, itemsOf, List.foldl_filter, oldest]
  congr 1
  funext old item
  by_cases hstream : item.1.stream = stream
  · rw [if_neg (not_not_intro hstream), if_pos (decide_eq_true hstream)]
    cases old with
    | none => rfl
    | some old => rfl
  · rw [if_pos hstream, if_neg (by simpa using hstream)]

theorem oldest_eq_none {samples : Samples} {stream : StreamKey} :
    oldest samples stream = none ↔ cyclesOf samples stream = ∅ := by
  rw [oldest_eq, List.argmin_eq_none, cyclesOf, List.toFinset_eq_empty_iff, List.map_eq_nil_iff]

theorem oldest_eq_some {samples : Samples} {stream : StreamKey}
    {old : SampleKey × BufferedSample} (h : oldest samples stream = some old) :
    old.1.stream = stream ∧ old.1.targetCycle.toNat ∈ cyclesOf samples stream ∧
      ∀ n ∈ cyclesOf samples stream, old.1.targetCycle.toNat ≤ n := by
  rw [oldest_eq] at h
  have hcycle : ∀ item ∈ itemsOf samples stream,
      item.2.envelope.targetCycle = item.1.targetCycle := fun item hitem ↦
    congrArg SampleKey.targetCycle (KeyedMap.key_of_get? (mem_itemsOf.mp hitem).1)
  have hmem : old ∈ itemsOf samples stream := List.argmin_mem h
  refine ⟨(mem_itemsOf.mp hmem).2, ?_, ?_⟩
  · rw [cyclesOf, List.mem_toFinset, List.mem_map]
    exact ⟨old, hmem, rfl⟩
  · intro n hn
    rw [cyclesOf, List.mem_toFinset, List.mem_map] at hn
    obtain ⟨item, hitem, rfl⟩ := hn
    rw [← hcycle old hmem, ← hcycle item hitem]
    have hle := List.le_of_mem_argmin hitem h
    exact hle

theorem get?_of_not_mem_cyclesOf {samples : Samples} {key : SampleKey}
    (h : key.targetCycle.toNat ∉ cyclesOf samples key.stream) : samples.get? key = none := by
  rwa [mem_cyclesOf_key, Bool.not_eq_true, Option.isSome_eq_false_iff, Option.isNone_iff_eq_none]
    at h

/-- What is left of the samples when a stream keeps only its `n` greatest cycles. -/
def kept (n : ℕ) (stream : StreamKey) (samples : Samples) (key : SampleKey) :
    Option BufferedSample :=
  if key.stream = stream ∧ key.targetCycle.toNat ∉ greatest n (cyclesOf samples stream) then none
  else samples.get? key

theorem get?_of_kept {n : ℕ} {stream : StreamKey} {samples : Samples} {key : SampleKey}
    {found : BufferedSample} (h : kept n stream samples key = some found) :
    samples.get? key = some found := by
  unfold kept at h
  split at h
  · cases h
  · exact h

theorem kept_of_card_le {n : ℕ} {stream : StreamKey} {samples : Samples}
    (h : (cyclesOf samples stream).card ≤ n) (key : SampleKey) :
    kept n stream samples key = samples.get? key := by
  rw [kept, greatest_of_card_le h]
  split
  · next hout =>
      obtain ⟨rfl, hmem⟩ := hout
      exact (get?_of_not_mem_cyclesOf hmem).symm
  · rfl

theorem kept_erase_oldest {n : ℕ} {stream : StreamKey} {samples : Samples}
    {old : SampleKey × BufferedSample} (hold : oldest samples stream = some old)
    (hcard : n < (cyclesOf samples stream).card) (key : SampleKey) :
    kept n stream (samples.erase old.1) key = kept n stream samples key := by
  obtain ⟨hstream, hmem, hmin⟩ := oldest_eq_some hold
  have hkeep : greatest n (cyclesOf (samples.erase old.1) stream) =
      greatest n (cyclesOf samples stream) := by
    rw [cyclesOf_erase samples hstream]
    exact greatest_erase hmem hmin hcard
  rw [kept, kept, hkeep, KeyedMap.get?_erase]
  split
  · rfl
  · next hin =>
      rw [if_neg]
      rintro rfl
      -- The cycle that goes is none of the greatest: these are all left after it is gone.
      apply hin
      refine ⟨hstream, fun hgreatest ↦ ?_⟩
      rw [← hkeep, cyclesOf_erase samples hstream] at hgreatest
      exact Finset.notMem_erase _ _ (greatest_subset _ _ hgreatest)

/-- The loop leaves the greatest cycles of its stream, and every other stream as it is. -/
theorem get?_evict (maxSamples : ℕ) (stream : StreamKey) (count : ℕ) (samples : Samples)
    (hcount : count = (cyclesOf samples stream).card) (key : SampleKey) :
    (evict maxSamples stream count samples).get? key = kept maxSamples stream samples key := by
  induction count generalizing samples with
  | zero =>
      rw [kept_of_card_le (by omega)]
      rfl
  | succ count ih =>
      rw [evict]
      split
      · next hmany =>
          cases hold : oldest samples stream with
          | none =>
              rw [oldest_eq_none.mp hold, Finset.card_empty] at hcount
              omega
          | some old =>
              obtain ⟨hstream, hmem, -⟩ := oldest_eq_some hold
              have hnext : count = (cyclesOf (samples.erase old.1) stream).card := by
                rw [cyclesOf_erase samples hstream, Finset.card_erase_of_mem hmem, ← hcount]
                rfl
              rw [← kept_erase_oldest hold (by omega)]
              exact ih (samples.erase old.1) hnext
      · next hfew => rw [kept_of_card_le (by omega)]

theorem get?_pruneStream (buffer : SampleBuffer) (stream : StreamKey) (key : SampleKey) :
    (buffer.pruneStream stream).samples.get? key =
      kept buffer.maxSamplesPerKey stream buffer.samples key :=
  get?_evict _ stream _ buffer.samples (streamCount_eq buffer.samples stream) key

end SampleBuffer

end RuntimeSync
