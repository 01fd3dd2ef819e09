import RuntimeSync.Core.Weaknet.Percentiles

/-!
# Better reception

A fresh sample in time in the place of any other raises the share of fresh
samples, lowers those of late and missing ones, and moves the rank of the
percentile by no more than it adds to the latencies below the limit.
-/

namespace RuntimeSync.Weaknet.LinkHealthWindow

/-! ## The state, condition by condition -/

/-- The chain of conditions of the source, in whole numbers. -/
theorem summarize_code {window : LinkHealthWindow} (hpos : 0 < window.size)
    (peerId channel : Str) :
    (window.summarize peerId channel).state.code =
      if window.LooksPartitioned then 3
      else if window.LooksCongested then 2
      else if window.LooksDegraded then 1
      else 0 := by
  obtain ⟨health, hstate, hparted, hcongested, hdegraded⟩ :=
    summarize_conditions peerId channel hpos
  rw [hstate, judge]
  simp only [hparted, hcongested, hdegraded]
  split_ifs <;> rfl

/-! ## One observation replaced -/

theorem length_set_le (window : LinkHealthWindow) (place : ℕ) (sample : LinkHealthSample) :
    (window.samples.set place sample).length ≤ window.maxSamples :=
  List.length_set.trans_le window.length_le

/-- The window with another observation at this place. -/
def replace (window : LinkHealthWindow) (place : ℕ) (sample : LinkHealthSample) :
    LinkHealthWindow :=
  { window with
    samples := window.samples.set place sample
    length_le := length_set_le window place sample }

section Replace

variable {window : LinkHealthWindow} {place : ℕ} {sample : LinkHealthSample}

theorem replace_size : (window.replace place sample).size = window.size := List.length_set

theorem replace_of_size_le (h : window.size ≤ place) : window.replace place sample = window := by
  simp only [replace, List.set_eq_of_length_le h]

/-- Of what the new observation is, there is no less than before. -/
theorem countP_le_replace (p : LinkHealthSample → Bool) (hp : p sample = true)
    (hplace : place < window.size) :
    window.samples.countP p ≤ (window.replace place sample).samples.countP p := by
  change _ ≤ (window.samples.set place sample).countP p
  rw [List.countP_set hplace, if_pos hp]
  have hpositive : p window.samples[place] = true → 0 < window.samples.countP p := fun hold ↦
    List.countP_pos_iff.mpr ⟨_, List.getElem_mem hplace, hold⟩
  split_ifs with hold
  · have hpos := hpositive hold
    omega
  · omega

/-- Of what it is not, there is no more. -/
theorem replace_countP_le (p : LinkHealthSample → Bool) (hp : p sample = false)
    (hplace : place < window.size) :
    (window.replace place sample).samples.countP p ≤ window.samples.countP p := by
  change (window.samples.set place sample).countP p ≤ _
  have hnot : ¬p sample = true := by rw [hp]; exact Bool.false_ne_true
  rw [List.countP_set hplace, if_neg hnot]
  omega

end Replace

/-! ## The latencies -/

def hasLatency (sample : LinkHealthSample) : Bool :=
  sample.status = .fresh ∨ sample.status = .late

/-- A latency, and one within the limit. -/
def inTime (limitNs : Int64) (sample : LinkHealthSample) : Bool :=
  hasLatency sample ∧ sample.latencyNs ≤ limitNs

section Latencies

variable {window : LinkHealthWindow}

theorem length_latencies : window.latencies.length = window.samples.countP hasLatency := by
  rw [latencies, List.length_map, ← List.countP_eq_length_filter]
  rfl

theorem countP_latencies (limitNs : Int64) :
    window.latencies.countP (· ≤ limitNs) = window.samples.countP (inTime limitNs) := by
  rw [latencies, List.countP_map, List.countP_filter]
  congr 1
  funext sample
  simp [inTime, hasLatency, Bool.and_comm]

theorem p99_le_iff (limitNs : Int64) (hlimit : 0 ≤ limitNs) :
    percentile window.latencies 0.99 ≤ limitNs ↔
      window.samples.countP hasLatency = 0 ∨
        99 * (window.samples.countP hasLatency - 1) / 100 <
          window.samples.countP (inTime limitNs) := by
  by_cases hnil : window.latencies = []
  · rw [← length_latencies, hnil, percentile_nil]
    exact iff_of_true hlimit (.inl rfl)
  · have hne : window.samples.countP hasLatency ≠ 0 := by
      rw [← length_latencies]
      exact fun hzero ↦ hnil (List.length_eq_zero_iff.mp hzero)
    rw [p99_eq, percentile_le_iff (by norm_num) hnil, length_latencies, countP_latencies,
      or_iff_right hne]

/-- One more latency moves the rank by at most one, and an observation in time
counts as one more latency within the limit, unless it replaces another. -/
theorem replace_p99_le {limitNs : Int64} (hlimit : 0 ≤ limitNs) {place : ℕ}
    (hplace : place < window.size) {sample : LinkHealthSample}
    (hintime : inTime limitNs sample = true)
    (h : percentile window.latencies 0.99 ≤ limitNs) :
    percentile (window.replace place sample).latencies 0.99 ≤ limitNs := by
  have hlatency : hasLatency sample = true := (of_decide_eq_true hintime).1
  rw [p99_le_iff limitNs hlimit] at h ⊢
  have hall : (window.replace place sample).samples.countP hasLatency = _ :=
    List.countP_set hplace
  have hwithin : (window.replace place sample).samples.countP (inTime limitNs) = _ :=
    List.countP_set hplace
  have hold : inTime limitNs window.samples[place] = true →
      hasLatency window.samples[place] = true := fun hold ↦ (of_decide_eq_true hold).1
  have hcount : inTime limitNs window.samples[place] = true →
      0 < window.samples.countP (inTime limitNs) := fun hold ↦
    List.countP_pos_iff.mpr ⟨_, List.getElem_mem hplace, hold⟩
  have hcountAll : hasLatency window.samples[place] = true →
      0 < window.samples.countP hasLatency := fun hold ↦
    List.countP_pos_iff.mpr ⟨_, List.getElem_mem hplace, hold⟩
  rw [if_pos hlatency] at hall
  rw [if_pos hintime] at hwithin
  rw [hall, hwithin]
  right
  by_cases holdLatency : hasLatency window.samples[place] = true
  · have hposAll := hcountAll holdLatency
    rw [if_pos holdLatency]
    split_ifs with holdInTime
    · have hpos := hcount holdInTime
      omega
    · omega
  · have hnotInTime : ¬inTime limitNs window.samples[place] = true := fun h ↦ holdLatency (hold h)
    rw [if_neg holdLatency, if_neg hnotInTime]
    omega

end Latencies

/-! ## No worse state -/

section Improves

variable {window : LinkHealthWindow} {place : ℕ} {sample : LinkHealthSample}

theorem fresh_le_replace (hfresh : sample.status = .fresh) (hplace : place < window.size) :
    window.statusCount .fresh ≤ (window.replace place sample).statusCount .fresh :=
  countP_le_replace _ (decide_eq_true hfresh) hplace

theorem replace_not_looksPartitioned (hfresh : sample.status = .fresh)
    (hplace : place < window.size) : ¬(window.replace place sample).LooksPartitioned := by
  rintro ⟨hzero, -⟩
  have hmem : sample ∈ (window.replace place sample).samples := List.mem_set hplace sample
  rw [statusCount, List.countP_eq_zero] at hzero
  exact hzero sample hmem (decide_eq_true hfresh)

theorem looksCongested_of_replace (hfresh : sample.status = .fresh)
    (hlatency : sample.latencyNs ≤ 40000000) (hplace : place < window.size)
    (h : (window.replace place sample).LooksCongested) : window.LooksCongested := by
  have hcount := fresh_le_replace hfresh hplace
  rcases h with hlow | hslow
  · rw [replace_size] at hlow
    exact .inl (by omega)
  · refine .inr (Int64.not_le.mp fun hle ↦ Int64.not_le.mpr hslow ?_)
    have hintime : inTime 40000000 sample = true := by simp [inTime, hasLatency, hfresh, hlatency]
    exact replace_p99_le (by decide) hplace hintime hle

theorem looksDegraded_of_replace (hfresh : sample.status = .fresh) (hplace : place < window.size)
    (h : (window.replace place sample).LooksDegraded) : window.LooksDegraded := by
  have hlate : (window.replace place sample).statusCount .late ≤ window.statusCount .late :=
    replace_countP_le _ (by rw [hfresh]; rfl) hplace
  have hmissing : (window.replace place sample).statusCount .missing ≤
      window.statusCount .missing := replace_countP_le _ (by rw [hfresh]; rfl) hplace
  rw [LooksDegraded, replace_size] at h
  exact h.imp (fun hmany ↦ by omega) fun hmany ↦ by omega

end Improves

/-- A fresh sample within the limit, in the place of any observation, never
makes the state of the summary a worse one. -/
theorem replace_fresh_not_worse (window : LinkHealthWindow) (place : ℕ) (sample : LinkHealthSample)
    (hfresh : sample.status = .fresh) (hlatency : sample.latencyNs ≤ 40000000)
    (peerId channel : Str) :
    ((window.replace place sample).summarize peerId channel).state.code ≤
      (window.summarize peerId channel).state.code := by
  by_cases hplace : place < window.size
  · have hpos : 0 < window.size := Nat.zero_lt_of_lt hplace
    have hreplaced : 0 < (window.replace place sample).size := by rwa [replace_size]
    have hcongested := looksCongested_of_replace hfresh hlatency hplace
    have hdegraded := looksDegraded_of_replace hfresh hplace
    rw [summarize_code hpos, summarize_code hreplaced,
      if_neg (replace_not_looksPartitioned hfresh hplace)]
    by_cases hworse : (window.replace place sample).LooksCongested
    · rw [if_pos hworse, if_pos (hcongested hworse)]
      split_ifs <;> omega
    · rw [if_neg hworse]
      by_cases hbad : (window.replace place sample).LooksDegraded
      · rw [if_pos hbad, if_pos (hdegraded hbad)]
        split_ifs <;> omega
      · rw [if_neg hbad]
        exact Nat.zero_le _
  · rw [replace_of_size_le (not_lt.mp hplace)]

/-- Nothing received at all. -/
def allMissing : LinkHealthWindow := (((new 100).observe {}).observe {}).observe {}

theorem allMissing_not_worse :
    (allMissing.summarize [] []).state = .partitioned ∧
      ((allMissing.replace 1 { status := .fresh, latencyNs := 20000000 }).summarize [] []).state.code
        ≤ (allMissing.summarize [] []).state.code :=
  ⟨by decide +kernel,
    replace_fresh_not_worse allMissing 1 { status := .fresh, latencyNs := 20000000 } rfl (by decide)
      [] []⟩

end RuntimeSync.Weaknet.LinkHealthWindow
