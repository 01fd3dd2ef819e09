import Mathlib.Algebra.BigOperators.Field
import RuntimeSync.Core.Weaknet.Percentiles
import RuntimeSync.Library.Tally

/-!
# Laws of the link summary

A window keeps the last observations since it was cleared.  The summary
shares them out among six categories, adds up what they report, and takes its
percentiles from those that have a latency; the order in which they came
leaves no trace in it.
-/

namespace RuntimeSync.Weaknet

/-! ## Categories -/

/-- The categories behind the six ratios. -/
inductive HealthCategory where
  | fresh
  | late
  | missing
  | duplicate
  | wrong
  | bad
  deriving DecidableEq

namespace HealthCategory

instance : Fintype HealthCategory where
  elems := {.fresh, .late, .missing, .duplicate, .wrong, .bad}
  complete c := by cases c <;> decide

def ofStatus : SampleStatus → HealthCategory
  | .fresh => .fresh
  | .late => .late
  | .missing => .missing
  | .duplicate => .duplicate
  | .wrongCycle => .wrong
  | .badSchema | .badPayload | .senderClockBad | .senderReportedFail | .transportError => .bad

def ofSample (sample : LinkHealthSample) : HealthCategory := ofStatus sample.status

def ratio (health : PeerChannelHealth) : HealthCategory → ℚ
  | .fresh => health.freshRatio
  | .late => health.lateRatio
  | .missing => health.missingRatio
  | .duplicate => health.duplicateRatio
  | .wrong => health.wrongCycleRatio
  | .bad => health.badPayloadRatio

def counter : HealthCategory → Tally → ℕ
  | .fresh => Tally.fresh
  | .late => Tally.late
  | .missing => Tally.missing
  | .duplicate => Tally.duplicate
  | .wrong => Tally.wrong
  | .bad => Tally.bad

end HealthCategory

namespace Tally

open HealthCategory

/-- Every sample is counted once, also those that reach the default branch. -/
theorem counter_count (tally : Tally) (sample : LinkHealthSample) (category : HealthCategory) :
    category.counter (tally.count sample) =
      category.counter tally + if ofSample sample = category then 1 else 0 := by
  cases category <;> cases h : sample.status <;>
    simp [count, counter, ofSample, ofStatus, badPayloadStatus, h]

theorem count_seqGapCount (tally : Tally) (sample : LinkHealthSample) :
    (tally.count sample).seqGapCount = tally.seqGapCount + sample.seqGap := by
  cases h : sample.status <;> simp [count, h, badPayloadStatus]

theorem count_latePocketCount (tally : Tally) (sample : LinkHealthSample) :
    (tally.count sample).latePocketCount =
      tally.latePocketCount + if sample.latePocket = true then 1 else 0 := by
  cases h : sample.status <;> simp [count, h, badPayloadStatus]

theorem count_oversizedDropCount (tally : Tally) (sample : LinkHealthSample) :
    (tally.count sample).oversizedDropCount =
      tally.oversizedDropCount + if sample.oversizedDrop = true then 1 else 0 := by
  cases h : sample.status <;> simp [count, h, badPayloadStatus]

variable (samples : List LinkHealthSample)

theorem counter_ofSamples (category : HealthCategory) :
    category.counter (ofSamples samples) = tally ofSample samples category := by
  have hzero : category.counter {} = 0 := by cases category <;> rfl
  exact ofSamples_countP hzero (fun tally sample ↦ counter_count tally sample category) samples

theorem ofSamples_seqGapCount :
    (ofSamples samples).seqGapCount = (samples.map LinkHealthSample.seqGap).sum := by
  induction samples using List.reverseRecOn with
  | nil => rfl
  | append_singleton samples sample ih =>
      rw [ofSamples_concat, count_seqGapCount, ih, List.map_append, List.sum_append,
        List.map_singleton, List.sum_singleton]

theorem ofSamples_latePocketCount :
    (ofSamples samples).latePocketCount = samples.countP LinkHealthSample.latePocket := by
  simpa only [Bool.decide_eq_true] using ofSamples_countP rfl count_latePocketCount samples

theorem ofSamples_oversizedDropCount :
    (ofSamples samples).oversizedDropCount = samples.countP LinkHealthSample.oversizedDrop := by
  simpa only [Bool.decide_eq_true] using ofSamples_countP rfl count_oversizedDropCount samples

/-- The order in which the samples come shows in the list of latencies alone. -/
theorem ofSamples_eq_of_perm {samples others : List LinkHealthSample} (h : samples.Perm others) :
    ofSamples samples = { ofSamples others with latencies := (ofSamples samples).latencies } := by
  have hcounter (category : HealthCategory) :
      category.counter (ofSamples samples) = category.counter (ofSamples others) := by
    rw [counter_ofSamples, counter_ofSamples]
    exact h.countP_eq _
  have hgaps : (ofSamples samples).seqGapCount = (ofSamples others).seqGapCount := by
    rw [ofSamples_seqGapCount, ofSamples_seqGapCount]
    exact (h.map _).sum_eq
  have hpockets : (ofSamples samples).latePocketCount = (ofSamples others).latePocketCount := by
    rw [ofSamples_latePocketCount, ofSamples_latePocketCount, h.countP_eq]
  have hoversized :
      (ofSamples samples).oversizedDropCount = (ofSamples others).oversizedDropCount := by
    rw [ofSamples_oversizedDropCount, ofSamples_oversizedDropCount, h.countP_eq]
  rw [Tally.mk.injEq]
  exact ⟨hcounter .fresh, hcounter .late, hcounter .missing, hcounter .duplicate, hcounter .wrong,
    hcounter .bad, rfl, hgaps, hpockets, hoversized⟩

end Tally

theorem toNat_sum (l : List UInt64) : l.sum.toNat = (l.map UInt64.toNat).sum % 2 ^ 64 := by
  induction l with
  | nil => rfl
  | cons a l ih =>
      rw [List.sum_cons, UInt64.toNat_add, ih, List.map_cons, List.sum_cons, Nat.add_mod_mod]

/-! ## What the summary says of its observations -/

/-- The value is one of the latencies, or zero if there is none. -/
def IsLatencyOf (samples : List LinkHealthSample) (value : Int64) : Prop :=
  (∃ sample ∈ samples, (sample.status = .fresh ∨ sample.status = .late) ∧
      sample.latencyNs = value) ∨
    (∀ sample ∈ samples, ¬(sample.status = .fresh ∨ sample.status = .late)) ∧ value = 0

structure SummaryLaw (samples : List LinkHealthSample) (health : PeerChannelHealth) : Prop where
  observed : health.observedCount = samples.length
  ratio : ∀ category, category.ratio health =
    tally HealthCategory.ofSample samples category / samples.length
  counts : ∑ category, tally HealthCategory.ofSample samples category = health.observedCount
  ratios : health.observedCount ≠ 0 → ∑ category : HealthCategory, category.ratio health = 1
  gaps : health.seqGapCount = (samples.map LinkHealthSample.seqGap).sum
  gapsToNat : health.seqGapCount.toNat =
    (samples.map fun sample ↦ sample.seqGap.toNat).sum % 2 ^ 64
  latePockets : health.latePocketCount = samples.countP LinkHealthSample.latePocket
  oversized : health.oversizedDropCount = samples.countP LinkHealthSample.oversizedDrop
  ordered : health.rxLatencyP50Ns ≤ health.rxLatencyP95Ns ∧
    health.rxLatencyP95Ns ≤ health.rxLatencyP99Ns
  p50 : IsLatencyOf samples health.rxLatencyP50Ns
  p95 : IsLatencyOf samples health.rxLatencyP95Ns
  p99 : IsLatencyOf samples health.rxLatencyP99Ns

namespace LinkHealthWindow

open HealthCategory

variable (window : LinkHealthWindow) (peerId channel : Str)

theorem isLatencyOf_percentile {p : ℕ} (hp : p ≤ 100) :
    IsLatencyOf window.samples (percentile window.latencies ((p : ℚ) / 100)) := by
  by_cases hnil : window.latencies = []
  · refine .inr ⟨fun sample hmem hstatus ↦ ?_, by rw [hnil, percentile_nil]⟩
    have hlatency : sample.latencyNs ∈ window.latencies :=
      List.mem_map_of_mem (List.mem_filter.mpr ⟨hmem, decide_eq_true hstatus⟩)
    rw [hnil] at hlatency
    cases hlatency
  · obtain ⟨sample, hmem, hsample⟩ := List.mem_map.mp (percentile_mem hp hnil)
    rw [List.mem_filter, decide_eq_true_eq] at hmem
    exact .inl ⟨sample, hmem.1, hmem.2, hsample⟩

theorem summarize_ratio (category : HealthCategory) :
    category.ratio (window.summarize peerId channel) =
      tally ofSample window.samples category / window.samples.length := by
  rw [summarize]
  split_ifs with hnil
  · rw [hnil]
    cases category <;> exact (div_zero _).symm
  · rw [judge_eq, ← Tally.counter_ofSamples]
    cases category <;> rfl

theorem summarize_observedCount :
    (window.summarize peerId channel).observedCount = window.samples.length := by
  rw [summarize]
  split_ifs with hnil
  · rw [hnil]
    rfl
  · rw [judge_eq]

theorem summarize_totals :
    (window.summarize peerId channel).seqGapCount =
        (window.samples.map LinkHealthSample.seqGap).sum ∧
      (window.summarize peerId channel).latePocketCount =
        window.samples.countP LinkHealthSample.latePocket ∧
      (window.summarize peerId channel).oversizedDropCount =
        window.samples.countP LinkHealthSample.oversizedDrop := by
  rw [summarize]
  split_ifs with hnil
  · rw [hnil]
    exact ⟨rfl, rfl, rfl⟩
  · rw [judge_eq, ← Tally.ofSamples_seqGapCount, ← Tally.ofSamples_latePocketCount,
      ← Tally.ofSamples_oversizedDropCount]
    exact ⟨rfl, rfl, rfl⟩

theorem sum_ratio {samples : List LinkHealthSample} (hne : samples.length ≠ 0) :
    ∑ category, (tally ofSample samples category : ℚ) / samples.length = 1 := by
  rw [← Finset.sum_div, ← Nat.cast_sum, sum_tally]
  exact div_self (Nat.cast_ne_zero.mpr hne)

theorem summarize_law : SummaryLaw window.samples (window.summarize peerId channel) := by
  obtain ⟨hgaps, hpockets, hoversized⟩ := window.summarize_totals peerId channel
  obtain ⟨hp50, hp95, hp99⟩ := window.summarize_percentiles peerId channel
  have hobserved := window.summarize_observedCount peerId channel
  rw [p50_eq] at hp50
  rw [p95_eq] at hp95
  rw [p99_eq] at hp99
  refine
    { observed := hobserved
      ratio := window.summarize_ratio peerId channel
      counts := by rw [hobserved, sum_tally]
      ratios := fun hne ↦ ?_
      gaps := hgaps
      gapsToNat := by rw [hgaps, toNat_sum, List.map_map]; rfl
      latePockets := hpockets
      oversized := hoversized
      ordered := ?_
      p50 := by rw [hp50]; exact window.isLatencyOf_percentile (by norm_num)
      p95 := by rw [hp95]; exact window.isLatencyOf_percentile (by norm_num)
      p99 := by rw [hp99]; exact window.isLatencyOf_percentile (by norm_num) }
  · rw [hobserved] at hne
    simp only [summarize_ratio]
    exact sum_ratio hne
  · rw [hp50, hp95, hp99]
    exact ⟨percentile_mono (by norm_num) (by norm_num) _,
      percentile_mono (by norm_num) (by norm_num) _⟩

/-! ## The order of the observations -/

section Order

variable {window other : LinkHealthWindow}

theorem latencies_perm (h : window.samples.Perm other.samples) :
    window.latencies.Perm other.latencies := (h.filter _).map _

theorem summarize_eq_of_perm (h : window.samples.Perm other.samples) :
    window.summarize peerId channel = other.summarize peerId channel := by
  by_cases hnil : window.samples = []
  · have hother : other.samples = [] := List.nil_perm.mp (hnil ▸ h)
    rw [summarize, summarize, if_pos hnil, if_pos hother]
  · have hother : other.samples ≠ [] := fun hempty ↦ hnil (List.perm_nil.mp (hempty ▸ h))
    have hlatencies : (Tally.ofSamples window.samples).latencies.Perm
        (Tally.ofSamples other.samples).latencies := by
      rw [Tally.ofSamples_latencies, Tally.ofSamples_latencies]
      exact latencies_perm h
    rw [summarize, summarize, if_neg hnil, if_neg hother, Tally.ofSamples_eq_of_perm h]
    dsimp only
    rw [h.length_eq, p50_eq, p95_eq, p99_eq, percentile_eq_of_perm (by norm_num) hlatencies,
      percentile_eq_of_perm (by norm_num) hlatencies,
      percentile_eq_of_perm (by norm_num) hlatencies]

end Order

end LinkHealthWindow

/-! ## Runs of a window -/

inductive HealthCall where
  | observe (sample : LinkHealthSample)
  | clear
  deriving DecidableEq

namespace LinkHealthWindow

def call (window : LinkHealthWindow) : HealthCall → LinkHealthWindow
  | .observe sample => window.observe sample
  | .clear => window.clear

/-- The window after these calls. -/
def after (capacity : ℕ) (calls : List HealthCall) : LinkHealthWindow :=
  calls.foldl call (new capacity)

/-- The observations since the last clear, one more call being made. -/
def keptBy (observed : List LinkHealthSample) : HealthCall → List LinkHealthSample
  | .observe sample => observed ++ [sample]
  | .clear => []

def sinceClear (calls : List HealthCall) : List LinkHealthSample := calls.foldl keptBy []

theorem call_maxSamples (window : LinkHealthWindow) (request : HealthCall) :
    (window.call request).maxSamples = window.maxSamples := by
  cases request <;> rfl

/-- A window that holds the last of the observations does so after the next call. -/
theorem call_samples {window : LinkHealthWindow} {observed : List LinkHealthSample}
    (h : window.samples = observed.rtake window.maxSamples) (request : HealthCall) :
    (window.call request).samples = (keptBy observed request).rtake window.maxSamples := by
  cases request with
  | observe sample =>
      change slide window.maxSamples window.samples sample = _
      rw [h, slide, rtake_rtake_append]
      rfl
  | clear => exact (List.rtake_nil window.maxSamples).symm

theorem after_samples (capacity : ℕ) (calls : List HealthCall) :
    (after capacity calls).maxSamples = max 1 capacity ∧
      (after capacity calls).samples = (sinceClear calls).rtake (max 1 capacity) := by
  induction calls using List.reverseRecOn with
  | nil => exact ⟨rfl, (List.rtake_nil _).symm⟩
  | append_singleton calls request ih =>
      obtain ⟨hmax, hsamples⟩ := ih
      have hnext : after capacity (calls ++ [request]) = (after capacity calls).call request :=
        List.foldl_concat ..
      have hkept : sinceClear (calls ++ [request]) = keptBy (sinceClear calls) request :=
        List.foldl_concat ..
      rw [hnext, hkept, call_maxSamples]
      refine ⟨hmax, ?_⟩
      rw [← hmax] at hsamples ⊢
      exact call_samples hsamples request

/-- After any calls, the summary is that of the last observations since the
last clear, as many as the window has room for, in whatever order they came. -/
theorem after_summarize (capacity : ℕ) (calls : List HealthCall) (peerId channel : Str) :
    let kept := (sinceClear calls).rtake (max 1 capacity)
    kept.length = min (sinceClear calls).length (max 1 capacity) ∧
      SummaryLaw kept ((after capacity calls).summarize peerId channel) ∧
      ∀ otherCapacity otherCalls,
        kept.Perm ((sinceClear otherCalls).rtake (max 1 otherCapacity)) →
          (after capacity calls).summarize peerId channel =
            (after otherCapacity otherCalls).summarize peerId channel := by
  intro kept
  have hsamples := (after_samples capacity calls).2
  refine ⟨?_, ?_, fun otherCapacity otherCalls hperm ↦ summarize_eq_of_perm peerId channel ?_⟩
  · rw [length_rtake, min_comm]
  · have hlaw := (after capacity calls).summarize_law peerId channel
    rw [hsamples] at hlaw
    exact hlaw
  · rw [hsamples, (after_samples otherCapacity otherCalls).2]
    exact hperm

end LinkHealthWindow

end RuntimeSync.Weaknet
