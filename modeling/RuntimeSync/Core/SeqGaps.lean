import Mathlib.Tactic.Ring
import RuntimeSync.Core.Replay
import RuntimeSync.Core.StreamIsolation
import RuntimeSync.Library.MachineInt

/-!
# Sequence gaps

Whenever a stream's sequence number jumps up, the numbers in between are
counted as missing.  What is counted is told by the numbers alone: how far the
stream has come, less one for each arrival that took it further.
-/

namespace RuntimeSync

/-! ## Counting on the numbers -/

/-- How many entries exceed `greatest` and all entries before them. -/
def raises : ℕ → List ℕ → ℕ
  | _, [] => 0
  | greatest, seq :: rest =>
      (if greatest < seq then 1 else 0) + raises (max greatest seq) rest

/-- The greatest number, less the first, less the times it was raised. -/
def missed : List ℕ → ℤ
  | [] => 0
  | first :: rest => (rest.foldl max first : ℕ) - first - raises first rest

theorem raises_concat (greatest : ℕ) (seqs : List ℕ) (seq : ℕ) :
    raises greatest (seqs ++ [seq]) =
      raises greatest seqs + if seqs.foldl max greatest < seq then 1 else 0 := by
  induction seqs generalizing greatest with
  | nil => exact Nat.add_comm _ _
  | cons next rest ih =>
      rw [List.cons_append, raises, ih, raises, List.foldl_cons, Nat.add_assoc]

theorem isLatest_foldl_max (first : ℕ) (rest : List ℕ) :
    IsLatest id (first :: rest) (some (rest.foldl max first)) := by
  induction rest using List.reverseRecOn with
  | nil => exact ⟨List.mem_singleton_self _, by simp⟩
  | append_singleton rest seq ih =>
      rw [List.foldl_concat, ← List.cons_append]
      rcases le_total (rest.foldl max first) seq with hle | hle
      · rw [max_eq_right hle]
        exact ih.concat fun _ hb ↦ Option.some.inj hb ▸ hle
      · rw [max_eq_left hle]
        exact ih.keep hle

theorem foldl_max_eq {first greatest : ℕ} {rest : List ℕ}
    (h : IsLatest id (first :: rest) (some greatest)) : rest.foldl max first = greatest := by
  obtain ⟨hmem, hle⟩ := isLatest_foldl_max first rest
  exact le_antisymm (h.2 _ hmem) (hle _ h.1)

/-- One more number counts what it jumps over. -/
theorem missed_concat {seqs : List ℕ} {greatest : ℕ} (h : IsLatest id seqs (some greatest))
    (seq : ℕ) :
    missed (seqs ++ [seq]) =
      missed seqs + if greatest < seq then (seq : ℤ) - greatest - 1 else 0 := by
  cases seqs with
  | nil => cases h.mem
  | cons first rest =>
      rw [List.cons_append, missed, missed, raises_concat, List.foldl_concat, foldl_max_eq h]
      split
      · next hlt =>
          rw [max_eq_right hlt.le]
          push_cast
          ring
      · next hle =>
          rw [max_eq_left (Nat.le_of_not_lt hle)]
          push_cast
          ring

theorem missed_le {seqs : List ℕ} {greatest : ℕ} (h : IsLatest id seqs (some greatest)) :
    missed seqs ≤ greatest := by
  cases seqs with
  | nil => cases h.mem
  | cons first rest =>
      rw [missed, foldl_max_eq h]
      omega

namespace StreamState

/-! ## Counting in the state -/

theorem accept_gapCount (state : StreamState) (seq : UInt64) :
    (state.accept seq).gapCount = state.gapCount := by
  unfold accept
  split
  · rfl
  · rfl

/-- What an arrival with the number adds to the count. -/
def addedGap (state : StreamState) (seq : UInt64) : UInt64 :=
  if state.hasSeq = true ∧ seq = state.lastSeq then 0 else (state.gapTo seq).getD 0

theorem exists_lastSeq {state : StreamState} {greatest : ℕ} (h : state.highest = some greatest) :
    state.hasSeq = true ∧ state.lastSeq.toNat = greatest := by
  unfold highest at h
  split at h
  · next hseq => exact ⟨hseq, Option.some.inj h⟩
  · cases h

/-- Below the top of the range the next number does not wrap around. -/
theorem toNat_lastSeq_add_one {state : StreamState} {greatest : ℕ}
    (h : state.highest = some greatest) (htop : greatest < 2 ^ 64 - 1) :
    (state.lastSeq + 1).toNat = greatest + 1 := by
  have hlast := (exists_lastSeq h).2
  rw [MachineInt.toNat_add_of_fits, hlast, UInt64.toNat_one]
  rw [hlast, UInt64.toNat_one]
  omega

theorem addedGap_of_none {state : StreamState} (h : state.highest = none) (seq : UInt64) :
    state.addedGap seq = 0 := by
  have hseq : ¬state.hasSeq = true := by
    intro hseq
    rw [highest, if_pos hseq] at h
    cases h
  rw [addedGap, gapTo, if_neg fun hand ↦ hseq hand.1, if_neg fun hand ↦ hseq hand.1]
  rfl

/-- There the gap is what the arrival jumps over. -/
theorem addedGap_toNat {state : StreamState} {greatest : ℕ} (h : state.highest = some greatest)
    (htop : greatest < 2 ^ 64 - 1) (seq : UInt64) :
    (state.addedGap seq).toNat = if greatest < seq.toNat then seq.toNat - greatest - 1 else 0 := by
  obtain ⟨hseq, hlast⟩ := exists_lastSeq h
  have hnext := toNat_lastSeq_add_one h htop
  by_cases hsame : seq = state.lastSeq
  · rw [addedGap, if_pos ⟨hseq, hsame⟩, hsame, hlast, if_neg (lt_irrefl greatest)]
    rfl
  · rw [addedGap, if_neg fun hand ↦ hsame hand.2, gapTo]
    by_cases hgap : state.lastSeq + 1 < seq
    · have hlt := UInt64.lt_iff_toNat_lt.mp hgap
      have hle : state.lastSeq ≤ seq := UInt64.le_iff_toNat_le.mpr (by omega)
      have hsub : (seq - state.lastSeq).toNat = seq.toNat - greatest := by
        rw [UInt64.toNat_sub_of_le _ _ hle, hlast]
      have hone : (1 : UInt64) ≤ seq - state.lastSeq :=
        UInt64.le_iff_toNat_le.mpr (by rw [hsub, UInt64.toNat_one]; omega)
      rw [if_pos ⟨hseq, hgap⟩, Option.getD_some, UInt64.toNat_sub_of_le _ _ hone, hsub,
        if_pos (by omega)]
      rfl
    · have hge := UInt64.le_iff_toNat_le.mp (UInt64.not_lt.mp hgap)
      rw [if_neg fun hand ↦ hgap hand.2, Option.getD_none, UInt64.toNat_zero]
      split
      · omega
      · rfl

/-- At the top the next number wraps around, and all but the ends of the range
lie after it. -/
theorem addedGap_of_top {state : StreamState} (h : state.highest = some (2 ^ 64 - 1))
    {seq : UInt64} (hne : seq ≠ state.lastSeq) : state.addedGap seq = seq := by
  obtain ⟨hseq, hlast⟩ := exists_lastSeq h
  have htop : state.lastSeq = -1 := UInt64.toNat_inj.mp hlast
  rw [addedGap, if_neg fun hand ↦ hne hand.2, gapTo, htop, neg_add_cancel]
  by_cases hpos : 0 < seq
  · rw [if_pos ⟨hseq, hpos⟩, Option.getD_some, sub_neg_eq_add, add_sub_cancel_right]
  · rw [if_neg fun hand ↦ hpos hand.2, Option.getD_none]
    exact (UInt64.le_zero_iff.mp (UInt64.not_lt.mp hpos)).symm

theorem addedGap_top_eq_zero_iff {state : StreamState} (h : state.highest = some (2 ^ 64 - 1))
    (seq : UInt64) : state.addedGap seq = 0 ↔ ¬(0 < seq.toNat ∧ seq.toNat < 2 ^ 64 - 1) := by
  obtain ⟨hseq, hlast⟩ := exists_lastSeq h
  by_cases hsame : seq = state.lastSeq
  · rw [addedGap, if_pos ⟨hseq, hsame⟩, hsame, hlast]
    exact iff_of_true rfl (by omega)
  · have hne : seq.toNat ≠ 2 ^ 64 - 1 := fun heq ↦
      hsame (UInt64.toNat_inj.mp (heq.trans hlast.symm))
    have hbound := seq.toNat_lt
    have hzero : seq = 0 ↔ seq.toNat = 0 := UInt64.toNat_inj.symm
    rw [addedGap_of_top h hsame, hzero]
    omega

/-- The number comes after the greatest one that there is, and is neither of
the two that add nothing then. -/
def WrapsAt (state : StreamState) (seq : ℕ) : Prop :=
  state.highest = some (2 ^ 64 - 1) ∧ 0 < seq ∧ seq < 2 ^ 64 - 1

/-- The count stays right exactly if the number does not come after a wrap. -/
theorem counts_concat_iff {state : StreamState} {seqs : List ℕ}
    (hlatest : IsLatest id seqs state.highest)
    (hcount : (state.gapCount.toNat : ℤ) = missed seqs) (seq : UInt64) :
    ((state.gapCount + state.addedGap seq).toNat : ℤ) = missed (seqs ++ [seq.toNat]) ↔
      ¬state.WrapsAt seq.toNat := by
  cases hhighest : state.highest with
  | none =>
      rw [hhighest] at hlatest
      obtain rfl : seqs = [] := hlatest
      rw [addedGap_of_none hhighest, UInt64.add_zero, hcount]
      refine iff_of_true ?_ fun hwraps ↦ ?_
      · simp [missed, raises]
      · rw [WrapsAt, hhighest] at hwraps
        cases hwraps.1
  | some greatest =>
      rw [hhighest] at hlatest
      rw [missed_concat hlatest, WrapsAt, hhighest, Option.some_inj, ← hcount]
      have hle := missed_le hlatest
      have hlast := (exists_lastSeq hhighest).2
      have hbound := state.lastSeq.toNat_lt
      have hseqBound := seq.toNat_lt
      by_cases htop : greatest = 2 ^ 64 - 1
      · rw [if_neg (by omega), add_zero, and_iff_right htop]
        subst htop
        rw [Nat.cast_inj, UInt64.toNat_inj, add_eq_left, addedGap_top_eq_zero_iff hhighest]
      · have hadded := addedGap_toNat hhighest (by omega) seq
        refine iff_of_true ?_ fun hwraps ↦ htop hwraps.1
        rw [MachineInt.toNat_add_of_fits, hadded]
        · split
          · omega
          · omega
        · rw [hadded]
          split
          · omega
          · omega

end StreamState

namespace SampleBuffer

theorem step_gapCount (buffer : SampleBuffer) (arrival : BufferedSample) :
    ((buffer.step arrival).1.stateOf arrival.stream).gapCount =
      (buffer.stateOf arrival.stream).gapCount +
        (buffer.stateOf arrival.stream).addedGap arrival.envelope.seq := by
  have hself (t : SampleBuffer) (state : StreamState) :
      (t.withState arrival.envelope.stream state).stateOf arrival.stream = state := by
    rw [stateOf_withState]
    exact if_pos rfl
  unfold step add
  dsimp only
  split
  · next hseq =>
      rw [hself, StreamState.addedGap]
      exact (if_pos hseq).symm ▸ (UInt64.add_zero _).symm
  · next hseq =>
      have hadded : (buffer.stateOf arrival.stream).addedGap arrival.envelope.seq =
          ((buffer.stateOf arrival.stream).gapTo arrival.envelope.seq).getD 0 := if_neg hseq
      rw [hadded]
      split
      · rw [hself]
        rfl
      · rw [pruneStream_stateOf, keepGood_stateOf, hself, StreamState.accept_gapCount]
        rfl

/-! ## Whole runs -/

/-- For every stream the counter is what its numbers tell. -/
def GapsCounted (maxSamplesPerKey : ℕ) (arrivals : List BufferedSample) : Prop :=
  ∀ peer channel : Str,
    (((filled maxSamplesPerKey arrivals).seqGapCount peer channel).toNat : ℤ) =
      missed (seqsOf ⟨peer, channel⟩ arrivals)

/-- The arrival comes after one with the greatest sequence number there is, and
has neither that number nor the least one. -/
def AfterTop (seen : List BufferedSample) (arrival : BufferedSample) : Prop :=
  (∃ earlier ∈ seen, earlier.stream = arrival.stream ∧ earlier.seq = 2 ^ 64 - 1) ∧
    0 < arrival.seq ∧ arrival.seq < 2 ^ 64 - 1

theorem isLatest_arrivals (maxSamplesPerKey : ℕ) (seen : List BufferedSample)
    (stream : StreamKey) :
    IsLatest id (seqsOf stream seen) ((filled maxSamplesPerKey seen).stateOf stream).highest := by
  have hlatest := knowsHighest_filled maxSamplesPerKey seen stream
  have hmem := mem_seqsOf_insertions maxSamplesPerKey stream
  cases hhighest : ((filled maxSamplesPerKey seen).stateOf stream).highest with
  | none =>
      rw [hhighest] at hlatest
      refine List.eq_nil_iff_forall_not_mem.mpr fun seq hseq ↦ ?_
      rw [← hmem, show seqsOf _ _ = [] from hlatest] at hseq
      cases hseq
  | some greatest =>
      rw [hhighest] at hlatest
      exact ⟨(hmem _ _).mp hlatest.1, fun seq hseq ↦ hlatest.2 seq ((hmem _ _).mpr hseq)⟩

theorem wrapsAt_iff {maxSamplesPerKey : ℕ} {seen : List BufferedSample}
    {arrival : BufferedSample} :
    ((filled maxSamplesPerKey seen).stateOf arrival.stream).WrapsAt arrival.seq ↔
      AfterTop seen arrival := by
  have hlatest := isLatest_arrivals maxSamplesPerKey seen arrival.stream
  refine and_congr_left fun _ ↦ ?_
  constructor
  · intro htop
    rw [htop] at hlatest
    exact mem_seqsOf.mp hlatest.1
  · intro hseen
    have hmem := mem_seqsOf.mpr hseen
    obtain ⟨greatest, hhighest, hgreatest⟩ := hlatest.exists_of_mem hmem
    have hle : 2 ^ 64 - 1 ≤ greatest := hgreatest.2 _ hmem
    have hbound := (StreamState.exists_lastSeq hhighest).2 ▸
      ((filled maxSamplesPerKey seen).stateOf arrival.stream).lastSeq.toNat_lt
    rw [hhighest, Option.some_inj]
    omega

theorem gapsCounted_concat_iff {maxSamplesPerKey : ℕ} {seen : List BufferedSample}
    (h : GapsCounted maxSamplesPerKey seen) (arrival : BufferedSample) :
    GapsCounted maxSamplesPerKey (seen ++ [arrival]) ↔ ¬AfterTop seen arrival := by
  have hstep : filled maxSamplesPerKey (seen ++ [arrival]) =
      ((filled maxSamplesPerKey seen).step arrival).1 := Machine.run_concat step _ seen arrival
  have hself := StreamState.counts_concat_iff
    (isLatest_arrivals maxSamplesPerKey seen arrival.stream)
    (seqGapCount_eq _ _ _ ▸ h arrival.stream.senderId arrival.stream.channel) arrival.envelope.seq
  rw [← step_gapCount, ← hstep] at hself
  have hseqs : seqsOf arrival.stream (seen ++ [arrival]) =
      seqsOf arrival.stream seen ++ [arrival.envelope.seq.toNat] := by
    rw [seqsOf_concat, if_pos rfl]
    rfl
  constructor
  · intro hafter htop
    have hown := hafter arrival.stream.senderId arrival.stream.channel
    rw [seqGapCount_eq] at hown
    rw [← hseqs] at hself
    exact hself.mp hown (wrapsAt_iff.mpr htop)
  · intro htop peer channel
    rw [seqGapCount_eq]
    by_cases hstream : arrival.stream = ⟨peer, channel⟩
    · rw [← hstream, hseqs]
      exact hself.mpr fun hwraps ↦ htop (wrapsAt_iff.mp hwraps)
    · rw [hstep, (agreeOn_step_other hstream _).state, ← seqGapCount_eq, seqsOf_concat,
        if_neg hstream, List.append_nil]
      exact h peer channel

theorem gapsCounted_nil (maxSamplesPerKey : ℕ) : GapsCounted maxSamplesPerKey [] := by
  intro peer channel
  rw [seqGapCount_eq]
  rfl

/-- At every point of a run all gap counters are right exactly if no arrival of
the run comes after the top of its stream's range. -/
theorem gapsCounted_iff (maxSamplesPerKey : ℕ) (arrivals : List BufferedSample) :
    (∀ seen, seen <+: arrivals → GapsCounted maxSamplesPerKey seen) ↔
      ∀ seen arrival rest, arrivals = seen ++ arrival :: rest → ¬AfterTop seen arrival := by
  constructor
  · rintro h seen arrival rest rfl
    have hseen := h seen (List.prefix_append seen _)
    refine (gapsCounted_concat_iff hseen arrival).mp (h (seen ++ [arrival]) ⟨rest, ?_⟩)
    simp
  · intro h seen
    induction seen using List.reverseRecOn with
    | nil => exact fun _ ↦ gapsCounted_nil maxSamplesPerKey
    | append_singleton seen arrival ih =>
        rintro ⟨rest, rfl⟩
        have hseen := ih ⟨[arrival] ++ rest, (List.append_assoc ..).symm⟩
        exact (gapsCounted_concat_iff hseen arrival).mpr (h seen arrival rest (by simp))

/-! The stream begins at the top of the range, and goes on from a small number. -/

def overTop : List BufferedSample := [solutionSample 1 (2 ^ 64 - 1), solutionSample 2 5]

theorem gapsCounted_fails_overTop :
    (filled 8 overTop).seqGapCount (text "uav2") (text "solution") = 5 ∧
      missed (seqsOf ⟨text "uav2", text "solution"⟩ overTop) = 0 ∧ ¬GapsCounted 8 overTop := by
  have hcount : (filled 8 overTop).seqGapCount (text "uav2") (text "solution") = 5 := by
    decide +kernel
  have hmissed : missed (seqsOf ⟨text "uav2", text "solution"⟩ overTop) = 0 := by decide +kernel
  refine ⟨hcount, hmissed, fun h ↦ ?_⟩
  have huav := h (text "uav2") (text "solution")
  rw [hcount, hmissed] at huav
  exact absurd huav (by decide)

end SampleBuffer

end RuntimeSync
