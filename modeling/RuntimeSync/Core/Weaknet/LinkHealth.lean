import Mathlib.Data.List.Sort
import RuntimeSync.Core.Types
import RuntimeSync.Library.SlidingWindow

/-!
# Link health

The window over the last observations of a link and the summary drawn from
it.  Ratios, and the index of a percentile, are computed in `double` in the
source; here they are exact.
-/

namespace RuntimeSync.Weaknet

inductive LinkState where
  | good
  | degraded
  | congested
  | partitioned
  | recovering
  deriving DecidableEq

namespace LinkState

/-- The value of the enumerator. -/
def code : LinkState → ℕ
  | .good => 0
  | .degraded => 1
  | .congested => 2
  | .partitioned => 3
  | .recovering => 4

end LinkState

structure PeerChannelHealth where
  peerId : Str := []
  channel : Str := []
  freshRatio : ℚ := 0
  lateRatio : ℚ := 0
  missingRatio : ℚ := 0
  duplicateRatio : ℚ := 0
  wrongCycleRatio : ℚ := 0
  badPayloadRatio : ℚ := 0
  rxLatencyP50Ns : Int64 := 0
  rxLatencyP95Ns : Int64 := 0
  rxLatencyP99Ns : Int64 := 0
  seqGapCount : UInt64 := 0
  latePocketCount : ℕ := 0
  oversizedDropCount : ℕ := 0
  observedCount : ℕ := 0
  state : LinkState := .good
  primaryReason : Str := []
  deriving DecidableEq

structure LinkHealthSample where
  status : SampleStatus := .missing
  latencyNs : Int64 := 0
  seqGap : UInt64 := 0
  latePocket : Bool := false
  oversizedDrop : Bool := false
  deriving DecidableEq

def badPayloadStatus (status : SampleStatus) : Bool :=
  status = .badPayload || status = .badSchema || status = .senderClockBad ||
    status = .senderReportedFail || status = .transportError

def percentile (values : List Int64) (q : ℚ) : Int64 :=
  if values = [] then 0
  else
    let values := values.insertionSort (· ≤ ·)
    let last : ℚ := (values.length - 1 : ℕ)
    let index := ⌊min last (max 0 (q * last))⌋₊
    values.getD index 0

structure LinkHealthWindow where
  maxSamples : ℕ
  samples : List LinkHealthSample := []
  maxSamples_pos : 1 ≤ maxSamples
  length_le : samples.length ≤ maxSamples

namespace LinkHealthWindow

theorem one_le_max (maxSamples : ℕ) : 1 ≤ max 1 maxSamples := le_max_left 1 maxSamples

def new (maxSamples : ℕ := 100) : LinkHealthWindow where
  maxSamples := max 1 maxSamples
  maxSamples_pos := one_le_max maxSamples
  length_le := Nat.zero_le _

def observe (window : LinkHealthWindow) (sample : LinkHealthSample) : LinkHealthWindow :=
  { window with
    samples := slide window.maxSamples window.samples sample
    length_le := length_slide_le window.maxSamples window.samples sample }

def clear (window : LinkHealthWindow) : LinkHealthWindow :=
  { window with samples := [], length_le := Nat.zero_le _ }

end LinkHealthWindow

/-- The accumulators of the loop over the window. -/
structure Tally where
  fresh : ℕ := 0
  late : ℕ := 0
  missing : ℕ := 0
  duplicate : ℕ := 0
  wrong : ℕ := 0
  bad : ℕ := 0
  latencies : List Int64 := []
  seqGapCount : UInt64 := 0
  latePocketCount : ℕ := 0
  oversizedDropCount : ℕ := 0
  deriving DecidableEq

namespace Tally

def count (tally : Tally) (sample : LinkHealthSample) : Tally :=
  let tally :=
    match sample.status with
    | .fresh =>
        { tally with
          fresh := tally.fresh + 1, latencies := tally.latencies ++ [sample.latencyNs] }
    | .late =>
        { tally with late := tally.late + 1, latencies := tally.latencies ++ [sample.latencyNs] }
    | .missing => { tally with missing := tally.missing + 1 }
    | .duplicate => { tally with duplicate := tally.duplicate + 1 }
    | .wrongCycle => { tally with wrong := tally.wrong + 1 }
    | other => if badPayloadStatus other then { tally with bad := tally.bad + 1 } else tally
  { tally with
    seqGapCount := tally.seqGapCount + sample.seqGap
    latePocketCount := tally.latePocketCount + if sample.latePocket then 1 else 0
    oversizedDropCount := tally.oversizedDropCount + if sample.oversizedDrop then 1 else 0 }

def ofSamples (samples : List LinkHealthSample) : Tally := samples.foldl count {}

end Tally

/-- The state and its reason, as read from the numbers of the summary. -/
def judge (health : PeerChannelHealth) : PeerChannelHealth :=
  if health.freshRatio = 0 ∧ 3 ≤ health.observedCount then
    { health with state := .partitioned, primaryReason := text "fresh ratio is zero" }
  else if health.freshRatio < 0.90 ∨ 40000000 < health.rxLatencyP99Ns then
    { health with
      state := .congested, primaryReason := text "fresh ratio low or p99 latency high" }
  else if 0.02 < health.lateRatio ∨ 0.01 < health.missingRatio then
    { health with
      state := .degraded
      primaryReason := text "late or missing ratio above degraded threshold" }
  else
    { health with state := .good, primaryReason := text "healthy" }

def LinkHealthWindow.summarize (window : LinkHealthWindow) (peerId channel : Str) :
    PeerChannelHealth :=
  if window.samples = [] then
    { peerId := peerId, channel := channel, observedCount := 0, state := .partitioned,
      primaryReason := text "no samples observed" }
  else
    let tally := Tally.ofSamples window.samples
    let denom : ℚ := window.samples.length
    judge
      { peerId := peerId
        channel := channel
        observedCount := window.samples.length
        freshRatio := tally.fresh / denom
        lateRatio := tally.late / denom
        missingRatio := tally.missing / denom
        duplicateRatio := tally.duplicate / denom
        wrongCycleRatio := tally.wrong / denom
        badPayloadRatio := tally.bad / denom
        rxLatencyP50Ns := percentile tally.latencies 0.50
        rxLatencyP95Ns := percentile tally.latencies 0.95
        rxLatencyP99Ns := percentile tally.latencies 0.99
        seqGapCount := tally.seqGapCount
        latePocketCount := tally.latePocketCount
        oversizedDropCount := tally.oversizedDropCount }

end RuntimeSync.Weaknet
