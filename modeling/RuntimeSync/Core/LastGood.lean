import RuntimeSync.Core.SampleBuffer
import RuntimeSync.Library.Latest

/-!
# The last good sample of a stream

The buffer overwrites the last good sample of a stream with every good one it
accepts.  That is the latest one as long as the good samples of the stream do
not overtake each other on the way.
-/

namespace RuntimeSync

namespace SampleBuffer

open Machine

def goodOf (stream : StreamKey) (samples : List BufferedSample) : List BufferedSample :=
  samples.filter fun sample ↦ sample.stream = stream ∧ isGood sample.envelope = true

/-- What the last-good lookup is for: in every stream it finds, among the good
samples that were inserted, one of the greatest sequence number. -/
def LastGoodIsLatest (maxSamplesPerKey : ℕ) (arrivals : List BufferedSample) : Prop :=
  ∀ peer channel : Str,
    IsLatest BufferedSample.seq
      (goodOf ⟨peer, channel⟩ (insertions maxSamplesPerKey arrivals))
      ((filled maxSamplesPerKey arrivals).getLastGood peer channel)

/-- A good arrival that the buffer will accept is not older than the last good
sample that its stream has so far. -/
def InSeqOrder (buffer : SampleBuffer) (arrival : BufferedSample) : Prop :=
  isGood arrival.envelope = true → ¬buffer.Refuses arrival.envelope →
    ∀ kept ∈ buffer.lastGood.get? arrival.stream, kept.seq ≤ arrival.seq

/-! ## One add -/

/-- The relation between the buffer and the insertions so far. -/
def HoldsLatest (buffer : SampleBuffer) (inserted : List BufferedSample) : Prop :=
  ∀ stream, IsLatest BufferedSample.seq (goodOf stream inserted)
    (buffer.lastGood.get? stream)

theorem step_lastGood_of_refuses {buffer : SampleBuffer} {arrival : BufferedSample}
    (h : buffer.Refuses arrival.envelope) :
    (buffer.step arrival).1.lastGood = buffer.lastGood := by
  obtain ⟨gap, result, hstep, -⟩ := step_refused h
  rw [hstep]
  rfl

theorem step_lastGood_of_not_refuses {buffer : SampleBuffer} {arrival : BufferedSample}
    (h : ¬buffer.Refuses arrival.envelope) :
    (buffer.step arrival).1.lastGood =
      if isGood arrival.envelope then buffer.lastGood.put arrival else buffer.lastGood := by
  obtain ⟨gap, result, hstep, -⟩ := step_accepted h
  rw [hstep, pruneStream_lastGood, keepGood_lastGood]
  rfl

theorem goodOf_concat_self {arrival : BufferedSample} (hgood : isGood arrival.envelope = true)
    (inserted : List BufferedSample) :
    goodOf arrival.stream (inserted ++ [arrival]) = goodOf arrival.stream inserted ++ [arrival] := by
  simp [goodOf, hgood]

theorem goodOf_concat_of_not {stream : StreamKey} {arrival : BufferedSample}
    (h : ¬(arrival.stream = stream ∧ isGood arrival.envelope = true))
    (inserted : List BufferedSample) :
    goodOf stream (inserted ++ [arrival]) = goodOf stream inserted := by
  simpa [goodOf] using h

theorem holdsLatest_new (maxSamplesPerKey : ℕ) : HoldsLatest (new maxSamplesPerKey) [] := by
  intro stream
  have hnone : (new maxSamplesPerKey).lastGood.get? stream = none := KeyedMap.get?_empty stream
  rw [hnone]
  rfl

/-- Putting a good arrival in the register of its stream touches no other stream. -/
theorem holdsLatest_put_iff {buffer : SampleBuffer} {inserted : List BufferedSample}
    (h : HoldsLatest buffer inserted) {arrival : BufferedSample}
    (hgood : isGood arrival.envelope = true) :
    (∀ stream, IsLatest BufferedSample.seq
        (goodOf stream (inserted ++ [arrival])) ((buffer.lastGood.put arrival).get? stream)) ↔
      ∀ kept ∈ buffer.lastGood.get? arrival.stream, kept.seq ≤ arrival.seq := by
  have hself : (buffer.lastGood.put arrival).get? arrival.stream = some arrival :=
    KeyedMap.get?_put_self _ _
  rw [← (h arrival.stream).concat_iff arrival]
  constructor
  · intro hall
    have := hall arrival.stream
    rwa [goodOf_concat_self hgood, hself] at this
  · intro hlatest stream
    by_cases hstream : arrival.stream = stream
    · subst hstream
      rwa [goodOf_concat_self hgood, hself]
    · rw [goodOf_concat_of_not (fun hboth ↦ hstream hboth.1), KeyedMap.get?_put, if_neg hstream]
      exact h stream

theorem holdsLatest_step_iff (buffer : SampleBuffer) (inserted : List BufferedSample)
    (arrival : BufferedSample) (h : HoldsLatest buffer inserted) :
    HoldsLatest (buffer.step arrival).1
        (inserted ++ (stored arrival (buffer.step arrival).2).toList) ↔
      buffer.InSeqOrder arrival := by
  by_cases hrefuses : buffer.Refuses arrival.envelope
  · have hlast := step_lastGood_of_refuses hrefuses
    have hstored := stored_of_refuses hrefuses
    rw [hstored, Option.toList_none, List.append_nil, HoldsLatest, hlast]
    exact ⟨fun _ _ hnot ↦ absurd hrefuses hnot, fun _ ↦ h⟩
  · have hlast := step_lastGood_of_not_refuses hrefuses
    have hstored := stored_of_not_refuses hrefuses
    rw [hstored, Option.toList_some, HoldsLatest, hlast]
    cases hgood : isGood arrival.envelope with
    | true =>
        rw [if_pos rfl, holdsLatest_put_iff h hgood]
        exact ⟨fun hkept _ _ ↦ hkept, fun horder ↦ horder hgood hrefuses⟩
    | false =>
        have hskip : ∀ stream, goodOf stream (inserted ++ [arrival]) = goodOf stream inserted :=
          fun stream ↦ goodOf_concat_of_not (by simp [hgood]) inserted
        simp only [hskip, Bool.false_eq_true, if_false]
        exact ⟨fun _ hpos ↦ absurd (hgood.symm.trans hpos) Bool.false_ne_true, fun _ ↦ h⟩

/-! ## Whole runs -/

theorem lastGoodIsLatest_iff (maxSamplesPerKey : ℕ) (arrivals : List BufferedSample) :
    LastGoodIsLatest maxSamplesPerKey arrivals ↔
      HoldsLatest (filled maxSamplesPerKey arrivals) (insertions maxSamplesPerKey arrivals) :=
  ⟨fun h stream ↦ h stream.senderId stream.channel, fun h peer channel ↦ h ⟨peer, channel⟩⟩

theorem holdsLatest_iff_inSeqOrder (maxSamplesPerKey : ℕ) (arrivals : List BufferedSample) :
    (∀ seen, seen <+: arrivals →
      HoldsLatest (filled maxSamplesPerKey seen) (insertions maxSamplesPerKey seen)) ↔
      ∀ e ∈ trace step (new maxSamplesPerKey) arrivals, e.state.InSeqOrder e.input := by
  rw [← history_iff holdsLatest_step_iff (holdsLatest_new maxSamplesPerKey)]
  rfl

/-- At every point of a run the last good sample is the latest one exactly
when no add of the run brings in a good sample older than the last good one. -/
theorem lastGood_latest_iff_inSeqOrder (maxSamplesPerKey : ℕ) (arrivals : List BufferedSample) :
    (∀ seen, seen <+: arrivals → LastGoodIsLatest maxSamplesPerKey seen) ↔
      ∀ e ∈ trace step (new maxSamplesPerKey) arrivals, e.state.InSeqOrder e.input := by
  rw [← holdsLatest_iff_inSeqOrder]
  exact forall₂_congr fun seen _ ↦ lastGoodIsLatest_iff maxSamplesPerKey seen

/-! Two samples of one stream that overtake each other: both are accepted, and
the older one is the last good sample in the end. -/

def solutionSample (cycle seq : UInt64) : BufferedSample where
  envelope :=
    { participantId := text "uav2", channel := text "solution", senderId := text "uav2",
      seq := seq, produceCycle := cycle, targetCycle := cycle, producerStatus := .success,
      clockOk := true, payload := [1, 2, 3, 4], payloadCrc32c := crc32c [1, 2, 3, 4] }
  localReceiveNs := 100

def overtaken : List BufferedSample := [solutionSample 5 5, solutionSample 4 4]

theorem lastGood_of_overtaken :
    insertions 8 overtaken = overtaken ∧
      (filled 8 overtaken).getLastGood (text "uav2") (text "solution") =
        some (solutionSample 4 4) ∧
      ¬LastGoodIsLatest 8 overtaken := by
  have hlast : (filled 8 overtaken).getLastGood (text "uav2") (text "solution") =
      some (solutionSample 4 4) := by decide +kernel
  have hinsertions : insertions 8 overtaken = overtaken := by decide +kernel
  refine ⟨hinsertions, hlast, ?_⟩
  intro h
  have hlatest := h (text "uav2") (text "solution")
  rw [hlast] at hlatest
  have hfirst : solutionSample 5 5 ∈
      goodOf ⟨text "uav2", text "solution"⟩ (insertions 8 overtaken) := by decide +kernel
  exact absurd (hlatest.2 _ hfirst) (by decide +kernel)

/-! ## Links that keep the order -/

/-- What the registers hold came in with an arrival. -/
def KeepsFrom (arrivals : List BufferedSample) (buffer : SampleBuffer) : Prop :=
  ∀ stream kept, buffer.lastGood.get? stream = some kept → kept ∈ arrivals

theorem keepsFrom_step (arrivals : List BufferedSample) (buffer : SampleBuffer)
    (arrival : BufferedSample) (h : KeepsFrom arrivals buffer) (harrival : arrival ∈ arrivals) :
    KeepsFrom arrivals (buffer.step arrival).1 := by
  intro stream kept hkept
  by_cases hrefuses : buffer.Refuses arrival.envelope
  · rw [step_lastGood_of_refuses hrefuses] at hkept
    exact h stream kept hkept
  · rw [step_lastGood_of_not_refuses hrefuses] at hkept
    cases hgood : isGood arrival.envelope with
    | false =>
        rw [hgood, if_neg Bool.false_ne_true] at hkept
        exact h stream kept hkept
    | true =>
        rw [hgood, if_pos rfl, KeyedMap.get?_put] at hkept
        split at hkept
        · cases hkept
          exact harrival
        · exact h stream kept hkept

theorem keepsFrom_filled (maxSamplesPerKey : ℕ) (arrivals : List BufferedSample) :
    KeepsFrom arrivals (filled maxSamplesPerKey arrivals) := by
  have hnew : KeepsFrom arrivals (new maxSamplesPerKey) := by
    intro stream kept hkept
    cases (KeyedMap.get?_empty stream).symm.trans hkept
  apply (invariant_trace (keepsFrom_step arrivals) hnew ?_).2
  intro e he
  exact trace_input_mem step he

/-- On a link that delivers every stream in the order of its sequence numbers,
whatever it drops or repeats, the last good sample is always the latest one. -/
theorem lastGood_latest_of_ordered (maxSamplesPerKey : ℕ) {arrivals : List BufferedSample}
    (h : arrivals.Pairwise fun earlier later ↦
      earlier.stream = later.stream → earlier.seq ≤ later.seq) :
    LastGoodIsLatest maxSamplesPerKey arrivals := by
  have hsteps : ∀ e ∈ trace step (new maxSamplesPerKey) arrivals,
      e.state.InSeqOrder e.input := by
    intro e he _ _ kept hkept
    obtain ⟨pre, post, rfl, hstate, -⟩ := mem_trace step he
    rw [hstate] at hkept
    have hmem : kept ∈ pre := keepsFrom_filled maxSamplesPerKey pre _ kept hkept
    exact (List.pairwise_append.mp h).2.2 kept hmem e.input (by simp) (KeyedMap.key_of_get? hkept)
  rw [lastGoodIsLatest_iff]
  exact (holdsLatest_iff_inSeqOrder maxSamplesPerKey arrivals).mpr hsteps arrivals List.prefix_rfl

end SampleBuffer

end RuntimeSync
