import RuntimeSync.Core.EnvelopeCodec
import RuntimeSync.Library.KeyedMap
import RuntimeSync.Library.Machine

/-!
# The sample buffer

Accepted samples are kept under sender, channel and target cycle, a bounded
number for each stream, next to the sequence state and the last good sample
of every stream.
-/

namespace RuntimeSync

structure StreamKey where
  senderId : Str
  channel : Str
  deriving DecidableEq

structure SampleKey where
  senderId : Str
  channel : Str
  targetCycle : UInt64
  deriving DecidableEq

/-! The keys are tuples in the source, whose order is lexicographic. -/

namespace StreamKey

def order : StreamKey → StreamKey → Ordering :=
  compareLex (compareOn senderId) (compareOn channel)

instance : Std.TransCmp order := inferInstanceAs (Std.TransCmp (compareLex _ _))

instance : Std.LawfulEqCmp order where
  eq_of_compare := by
    intro a b h
    obtain ⟨hsender, hchannel⟩ := compareLex_eq_eq.mp h
    cases a
    cases b
    exact congrArg₂ StreamKey.mk (Std.LawfulEqOrd.eq_of_compare hsender)
      (Std.LawfulEqOrd.eq_of_compare hchannel)

end StreamKey

namespace SampleKey

def stream (key : SampleKey) : StreamKey := ⟨key.senderId, key.channel⟩

def order : SampleKey → SampleKey → Ordering :=
  compareLex (compareOn senderId) (compareLex (compareOn channel) (compareOn targetCycle))

instance : Std.TransCmp order := inferInstanceAs (Std.TransCmp (compareLex _ _))

instance : Std.LawfulEqCmp order where
  eq_of_compare := by
    intro a b h
    obtain ⟨hsender, hrest⟩ := compareLex_eq_eq.mp h
    obtain ⟨hchannel, hcycle⟩ := compareLex_eq_eq.mp hrest
    cases a
    cases b
    rw [SampleKey.mk.injEq]
    exact ⟨Std.LawfulEqOrd.eq_of_compare hsender, Std.LawfulEqOrd.eq_of_compare hchannel,
      Std.LawfulEqOrd.eq_of_compare hcycle⟩

end SampleKey

namespace SampleEnvelope

def key (envelope : SampleEnvelope) : SampleKey :=
  ⟨envelope.senderId, envelope.channel, envelope.targetCycle⟩

def stream (envelope : SampleEnvelope) : StreamKey := ⟨envelope.senderId, envelope.channel⟩

end SampleEnvelope

structure BufferedSample where
  envelope : SampleEnvelope
  localReceiveNs : Int64 := 0
  deriving DecidableEq

namespace BufferedSample

def key (sample : BufferedSample) : SampleKey := sample.envelope.key

def stream (sample : BufferedSample) : StreamKey := sample.envelope.stream

def seq (sample : BufferedSample) : ℕ := sample.envelope.seq.toNat

end BufferedSample

structure BufferAddResult where
  status : SampleStatus := .fresh
  inserted : Bool := false
  duplicate : Bool := false
  seqGap : UInt64 := 0
  reason : Str := []
  deriving DecidableEq

structure StreamState where
  hasSeq : Bool := false
  lastSeq : UInt64 := 0
  gapCount : UInt64 := 0
  deriving DecidableEq

namespace StreamState

/-- Both sides of the comparison wrap, as they do in the source. -/
def gapTo (state : StreamState) (seq : UInt64) : Option UInt64 :=
  if state.hasSeq = true ∧ state.lastSeq + 1 < seq then some (seq - state.lastSeq - 1) else none

def countGap (state : StreamState) (gap : Option UInt64) : StreamState :=
  { state with gapCount := state.gapCount + gap.getD 0 }

theorem countGap_none (state : StreamState) : state.countGap none = state := by
  simp [countGap]

def accept (state : StreamState) (seq : UInt64) : StreamState :=
  if state.hasSeq = false ∨ state.lastSeq < seq then { state with hasSeq := true, lastSeq := seq }
  else state

end StreamState

abbrev Samples := KeyedMap BufferedSample.key SampleKey.order
abbrev LastGood := KeyedMap BufferedSample.stream StreamKey.order

structure SampleBuffer where
  maxSamplesPerKey : ℕ
  maxSamplesPerKey_pos : 1 ≤ maxSamplesPerKey
  samples : Samples := ∅
  lastGood : LastGood := ∅
  streamState : Std.ExtTreeMap StreamKey StreamState StreamKey.order := ∅

namespace SampleBuffer

def new (maxSamplesPerKey : ℕ := 8) : SampleBuffer where
  maxSamplesPerKey := max 1 maxSamplesPerKey
  maxSamplesPerKey_pos := le_max_left 1 maxSamplesPerKey

def isGood (envelope : SampleEnvelope) : Bool :=
  envelope.clockOk && decide (envelope.producerStatus = .success) &&
    verifyPayloadCrc envelope

/-! ## Pruning -/

def streamCount (samples : Samples) (stream : StreamKey) : ℕ :=
  (samples.toList.filter fun item ↦ item.1.stream = stream).length

/-- One pass over the map, keeping the first item whose target cycle no later one undercuts. -/
def oldest (samples : Samples) (stream : StreamKey) : Option (SampleKey × BufferedSample) :=
  samples.toList.foldl
    (fun oldest item ↦
      if item.1.stream ≠ stream then oldest
      else
        match oldest with
        | none => some item
        | some old =>
            if item.2.envelope.targetCycle < old.2.envelope.targetCycle then some item else oldest)
    none

/-- The eviction loop; its counter falls by one in every round. -/
def evict (maxSamples : ℕ) (stream : StreamKey) : ℕ → Samples → Samples
  | 0, samples => samples
  | count + 1, samples =>
      if maxSamples < count + 1 then
        match oldest samples stream with
        | none => samples
        | some old => evict maxSamples stream count (samples.erase old.1)
      else samples

def pruneStream (buffer : SampleBuffer) (stream : StreamKey) : SampleBuffer :=
  let count := streamCount buffer.samples stream
  { buffer with samples := evict buffer.maxSamplesPerKey stream count buffer.samples }

/-! ## Adding and looking up -/

/-- A stream met for the first time gets an empty state. -/
def stateOf (buffer : SampleBuffer) (stream : StreamKey) : StreamState :=
  buffer.streamState[stream]?.getD {}

def withState (buffer : SampleBuffer) (stream : StreamKey) (state : StreamState) : SampleBuffer :=
  { buffer with streamState := buffer.streamState.insert stream state }

def store (buffer : SampleBuffer) (sample : BufferedSample) : SampleBuffer :=
  { buffer with samples := buffer.samples.put sample }

def keepGood (buffer : SampleBuffer) (sample : BufferedSample) : SampleBuffer :=
  if isGood sample.envelope then { buffer with lastGood := buffer.lastGood.put sample } else buffer

def add (buffer : SampleBuffer) (envelope : SampleEnvelope) (localReceiveNs : Int64) :
    SampleBuffer × BufferAddResult :=
  let sample : BufferedSample := ⟨envelope, localReceiveNs⟩
  let key := envelope.key
  let stream := envelope.stream
  let state := buffer.stateOf stream
  if state.hasSeq = true ∧ envelope.seq = state.lastSeq then
    (buffer.withState stream state,
      { status := .duplicate, duplicate := true, reason := text "duplicate seq" })
  else
    let gap := state.gapTo envelope.seq
    let seqGap := gap.getD 0
    let state := state.countGap gap
    if (buffer.samples.get? key).any fun existing ↦ existing.envelope.seq = envelope.seq then
      (buffer.withState stream state,
        { status := .duplicate, duplicate := true, seqGap := seqGap,
          reason := text "duplicate sample key" })
    else
      ((((buffer.store sample).withState stream (state.accept envelope.seq)).keepGood sample
          ).pruneStream stream,
        { status := if 0 < seqGap then .transportError else .fresh, inserted := true,
          seqGap := seqGap, reason := if gap.isSome then text "seq gap" else [] })

def find (buffer : SampleBuffer) (peer channel : Str) (targetCycle : UInt64) :
    Option BufferedSample :=
  buffer.samples.get? ⟨peer, channel, targetCycle⟩

def getLastGood (buffer : SampleBuffer) (peer channel : Str) : Option BufferedSample :=
  buffer.lastGood.get? ⟨peer, channel⟩

def size (buffer : SampleBuffer) : ℕ := buffer.samples.size

def seqGapCount (buffer : SampleBuffer) (peer channel : Str) : UInt64 :=
  match buffer.streamState[StreamKey.mk peer channel]? with
  | none => 0
  | some state => state.gapCount

/-! ## What an add does

An envelope is refused when its sequence number is the highest one of its
stream, or that of the sample stored under its key. -/

def Refuses (buffer : SampleBuffer) (envelope : SampleEnvelope) : Prop :=
  ((buffer.stateOf envelope.stream).hasSeq = true ∧
      envelope.seq = (buffer.stateOf envelope.stream).lastSeq) ∨
    ∃ existing ∈ buffer.samples.get? envelope.key, existing.envelope.seq = envelope.seq

@[simp] theorem pruneStream_lastGood (buffer : SampleBuffer) (stream : StreamKey) :
    (buffer.pruneStream stream).lastGood = buffer.lastGood := rfl

theorem keepGood_lastGood (buffer : SampleBuffer) (sample : BufferedSample) :
    (buffer.keepGood sample).lastGood =
      if isGood sample.envelope then buffer.lastGood.put sample else buffer.lastGood := by
  unfold keepGood
  split <;> rfl

/-! ## Runs of adds

An arrival is an envelope together with the time at which it was received. -/

def step (buffer : SampleBuffer) (arrival : BufferedSample) : SampleBuffer × BufferAddResult :=
  buffer.add arrival.envelope arrival.localReceiveNs

def stored (arrival : BufferedSample) (result : BufferAddResult) : Option BufferedSample :=
  if result.inserted then some arrival else none

/-- A refused arrival changes at most the gap counter of its stream. -/
theorem step_refused {buffer : SampleBuffer} {arrival : BufferedSample}
    (h : buffer.Refuses arrival.envelope) :
    ∃ gap result, buffer.step arrival =
        (buffer.withState arrival.stream ((buffer.stateOf arrival.stream).countGap gap), result) ∧
      stored arrival result = none ∧ result.status = .duplicate ∧ result.duplicate = true := by
  unfold step add
  dsimp only
  split
  · rw [← StreamState.countGap_none (buffer.stateOf arrival.envelope.stream)]
    exact ⟨none, _, rfl, rfl, rfl, rfl⟩
  · next hseq =>
      obtain hlast | ⟨existing, hfound, heq⟩ := h
      · exact absurd hlast hseq
      · rw [hfound, Option.any_some, if_pos (decide_eq_true heq)]
        exact ⟨_, _, rfl, rfl, rfl, rfl⟩

/-- Any other arrival is stored, moves the sequence state and has its stream pruned. -/
theorem step_accepted {buffer : SampleBuffer} {arrival : BufferedSample}
    (h : ¬buffer.Refuses arrival.envelope) :
    ∃ gap result, buffer.step arrival =
        ((((buffer.store arrival).withState arrival.stream
          (((buffer.stateOf arrival.stream).countGap gap).accept arrival.envelope.seq)).keepGood
            arrival).pruneStream arrival.stream, result) ∧
      stored arrival result = some arrival ∧ result.status ≠ .duplicate := by
  obtain ⟨hseq, hkey⟩ := not_or.mp h
  have hstored : (buffer.samples.get? arrival.envelope.key).any
      (fun existing ↦ existing.envelope.seq = arrival.envelope.seq) = false := by
    rw [Option.any_eq_false]
    intro existing hfound
    exact decide_eq_false fun heq ↦ hkey ⟨existing, hfound, heq⟩
  unfold step add
  dsimp only
  rw [if_neg hseq, hstored, if_neg Bool.false_ne_true]
  refine ⟨_, _, rfl, rfl, ?_⟩
  dsimp only
  split <;> simp

theorem stored_of_refuses {buffer : SampleBuffer} {arrival : BufferedSample}
    (h : buffer.Refuses arrival.envelope) : stored arrival (buffer.step arrival).2 = none := by
  obtain ⟨gap, result, hstep, hstored, -⟩ := step_refused h
  rw [hstep, hstored]

theorem stored_of_not_refuses {buffer : SampleBuffer} {arrival : BufferedSample}
    (h : ¬buffer.Refuses arrival.envelope) :
    stored arrival (buffer.step arrival).2 = some arrival := by
  obtain ⟨gap, result, hstep, hstored, -⟩ := step_accepted h
  rw [hstep, hstored]

/-- The buffer after a sequence of adds to an empty one. -/
def filled (maxSamplesPerKey : ℕ) (arrivals : List BufferedSample) : SampleBuffer :=
  Machine.run step (new maxSamplesPerKey) arrivals

/-- The arrivals whose add reported that it inserted them, in order. -/
def insertions (maxSamplesPerKey : ℕ) (arrivals : List BufferedSample) : List BufferedSample :=
  Machine.observed stored step (new maxSamplesPerKey) arrivals

end SampleBuffer

end RuntimeSync
