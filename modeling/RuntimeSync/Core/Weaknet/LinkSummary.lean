import RuntimeSync.Core.Weaknet.LinkHealth

/-!
# The summary of a window in whole numbers

How many observations of each status a window holds, and what the summary says
in terms of these counts.
-/

namespace RuntimeSync.Weaknet

/-! ## The counts -/

namespace LinkHealthWindow

def size (window : LinkHealthWindow) : ℕ := window.samples.length

def statusCount (window : LinkHealthWindow) (status : SampleStatus) : ℕ :=
  window.samples.countP fun sample ↦ sample.status = status

/-- The latencies of the observations that have one. -/
def latencies (window : LinkHealthWindow) : List Int64 :=
  (window.samples.filter fun sample ↦ sample.status = .fresh ∨ sample.status = .late).map
    LinkHealthSample.latencyNs

end LinkHealthWindow

namespace Tally

theorem count_fresh (tally : Tally) (sample : LinkHealthSample) :
    (tally.count sample).fresh = tally.fresh + if sample.status = .fresh then 1 else 0 := by
  cases h : sample.status <;> simp [count, h, badPayloadStatus]

theorem count_late (tally : Tally) (sample : LinkHealthSample) :
    (tally.count sample).late = tally.late + if sample.status = .late then 1 else 0 := by
  cases h : sample.status <;> simp [count, h, badPayloadStatus]

theorem count_missing (tally : Tally) (sample : LinkHealthSample) :
    (tally.count sample).missing = tally.missing + if sample.status = .missing then 1 else 0 := by
  cases h : sample.status <;> simp [count, h, badPayloadStatus]

theorem count_latencies (tally : Tally) (sample : LinkHealthSample) :
    (tally.count sample).latencies = tally.latencies ++
      if sample.status = .fresh ∨ sample.status = .late then [sample.latencyNs] else [] := by
  cases h : sample.status <;> simp [count, h, badPayloadStatus]

theorem ofSamples_concat (samples : List LinkHealthSample) (sample : LinkHealthSample) :
    ofSamples (samples ++ [sample]) = (ofSamples samples).count sample := by
  rw [ofSamples, List.foldl_append]
  rfl

/-- An accumulator that goes up with some of the samples counts them. -/
theorem ofSamples_countP {field : Tally → ℕ} {p : LinkHealthSample → Prop} [DecidablePred p]
    (hzero : field {} = 0)
    (hcount : ∀ tally sample, field (count tally sample) = field tally + if p sample then 1 else 0)
    (samples : List LinkHealthSample) : field (ofSamples samples) = samples.countP p := by
  induction samples using List.reverseRecOn with
  | nil => exact hzero
  | append_singleton samples sample ih =>
      rw [ofSamples_concat, hcount, ih, List.countP_append, List.countP_singleton]
      simp only [decide_eq_true_eq]

theorem ofSamples_latencies (samples : List LinkHealthSample) :
    (ofSamples samples).latencies =
      (samples.filter fun sample ↦ sample.status = .fresh ∨ sample.status = .late).map
        LinkHealthSample.latencyNs := by
  induction samples using List.reverseRecOn with
  | nil => rfl
  | append_singleton samples sample ih =>
      rw [ofSamples_concat, count_latencies, ih, List.filter_append, List.map_append]
      congr 1
      by_cases h : sample.status = .fresh ∨ sample.status = .late <;> simp [h]

end Tally

section Judge

variable (health : PeerChannelHealth)

/-- Judging leaves the numbers as they are. -/
theorem judge_eq :
    judge health = { health with
      state := (judge health).state, primaryReason := (judge health).primaryReason } := by
  unfold judge
  split_ifs <;> rfl

@[simp] theorem judge_freshRatio : (judge health).freshRatio = health.freshRatio := by
  rw [judge_eq]

@[simp] theorem judge_lateRatio : (judge health).lateRatio = health.lateRatio := by
  rw [judge_eq]

@[simp] theorem judge_missingRatio : (judge health).missingRatio = health.missingRatio := by
  rw [judge_eq]

theorem judge_partitioned_iff :
    (judge health).state = .partitioned ↔ health.freshRatio = 0 ∧ 3 ≤ health.observedCount := by
  unfold judge
  split_ifs with hzero <;> simp [hzero]

theorem judge_good_iff :
    (judge health).state = .good ↔
      ¬(health.freshRatio = 0 ∧ 3 ≤ health.observedCount) ∧
        ¬(health.freshRatio < 0.90 ∨ 40000000 < health.rxLatencyP99Ns) ∧
          ¬(0.02 < health.lateRatio ∨ 0.01 < health.missingRatio) := by
  unfold judge
  split_ifs with hzero hlow hlate
  · exact iff_of_false nofun fun h ↦ h.1 hzero
  · exact iff_of_false nofun fun h ↦ h.2.1 hlow
  · exact iff_of_false nofun fun h ↦ h.2.2 hlate
  · exact iff_of_true rfl ⟨hzero, hlow, hlate⟩

theorem judge_ne_recovering : (judge health).state ≠ .recovering := by
  unfold judge
  split_ifs <;> exact nofun

end Judge

/-! ## The summary in whole numbers -/

theorem natCast_div_lt_iff {k n a b : ℕ} (hn : 0 < n) (hb : 0 < b) :
    (k : ℚ) / n < a / b ↔ b * k < a * n := by
  rw [div_lt_div_iff₀ (Nat.cast_pos.mpr hn) (Nat.cast_pos.mpr hb), mul_comm]
  exact_mod_cast Iff.rfl

theorem lt_natCast_div_iff {k n a b : ℕ} (hn : 0 < n) (hb : 0 < b) :
    (a : ℚ) / b < k / n ↔ a * n < b * k := by
  rw [div_lt_div_iff₀ (Nat.cast_pos.mpr hb) (Nat.cast_pos.mpr hn), mul_comm (k : ℚ)]
  exact_mod_cast Iff.rfl

namespace LinkHealthWindow

variable {window : LinkHealthWindow} (peerId channel : Str)

/-- The numbers of the observations are those of a healthy link. -/
structure LooksGood (window : LinkHealthWindow) : Prop where
  nonempty : 0 < window.size
  fresh : 9 * window.size ≤ 10 * window.statusCount .fresh
  latency : percentile window.latencies 0.99 ≤ 40000000
  late : 50 * window.statusCount .late ≤ window.size
  missing : 100 * window.statusCount .missing ≤ window.size

/-- Nothing fresh among three observations or more. -/
def LooksPartitioned (window : LinkHealthWindow) : Prop :=
  window.statusCount .fresh = 0 ∧ 3 ≤ window.size

def LooksCongested (window : LinkHealthWindow) : Prop :=
  10 * window.statusCount .fresh < 9 * window.size ∨
    40000000 < percentile window.latencies 0.99

def LooksDegraded (window : LinkHealthWindow) : Prop :=
  window.size < 50 * window.statusCount .late ∨ window.size < 100 * window.statusCount .missing

instance : Decidable window.LooksPartitioned := inferInstanceAs (Decidable (_ ∧ _))

instance : Decidable window.LooksCongested := inferInstanceAs (Decidable (_ ∨ _))

instance : Decidable window.LooksDegraded := inferInstanceAs (Decidable (_ ∨ _))

/-- The numbers of the observations are those asked of a link that recovers. -/
structure LooksRecovered (window : LinkHealthWindow) : Prop where
  fresh : 995 * window.size < 1000 * window.statusCount .fresh
  late : 200 * window.statusCount .late < window.size
  missing : 1000 * window.statusCount .missing < window.size

theorem size_eq_zero : window.size = 0 ↔ window.samples = [] := List.length_eq_zero_iff

theorem size_observe (window : LinkHealthWindow) (sample : LinkHealthSample) :
    (window.observe sample).size = min window.maxSamples (window.size + 1) :=
  (length_rtake window.maxSamples _).trans (by rw [List.length_append]; rfl)

theorem observe_size_pos (window : LinkHealthWindow) (sample : LinkHealthSample) :
    0 < (window.observe sample).size := by
  have hpos := window.maxSamples_pos
  rw [size_observe]
  omega

theorem statusCount_le_size (window : LinkHealthWindow) (status : SampleStatus) :
    window.statusCount status ≤ window.size := List.countP_le_length

theorem summarize_ratios (hpos : 0 < window.size) :
    (window.summarize peerId channel).freshRatio = window.statusCount .fresh / window.size ∧
      (window.summarize peerId channel).lateRatio = window.statusCount .late / window.size ∧
      (window.summarize peerId channel).missingRatio =
        window.statusCount .missing / window.size := by
  have hne : window.samples ≠ [] := fun hnil ↦ hpos.ne' (size_eq_zero.mpr hnil)
  rw [summarize, if_neg hne, judge_freshRatio, judge_lateRatio, judge_missingRatio,
    Tally.ofSamples_countP rfl Tally.count_fresh, Tally.ofSamples_countP rfl Tally.count_late,
    Tally.ofSamples_countP rfl Tally.count_missing]
  exact ⟨rfl, rfl, rfl⟩

theorem summarize_of_size_eq_zero (h : window.size = 0) :
    window.summarize peerId channel =
      { peerId := peerId, channel := channel, observedCount := 0, state := .partitioned,
        primaryReason := text "no samples observed" } := by
  rw [summarize, if_pos (size_eq_zero.mp h)]

theorem lt_freshRatio_iff {a b : ℕ} (hb : 0 < b) :
    (a : ℚ) / b < (window.summarize peerId channel).freshRatio ↔
      a * window.size < b * window.statusCount .fresh := by
  rcases Nat.eq_zero_or_pos window.size with hzero | hpos
  · have hnone : window.statusCount .fresh = 0 :=
      Nat.le_zero.mp (hzero ▸ statusCount_le_size window .fresh)
    rw [summarize_of_size_eq_zero peerId channel hzero, hzero, hnone]
    apply iff_of_false
    · exact not_lt.mpr (by positivity)
    · omega
  · rw [(summarize_ratios peerId channel hpos).1]
    exact lt_natCast_div_iff hpos hb

/-- The thresholds for leaving the recovering state. -/
theorem looksRecovered_iff :
    window.LooksRecovered ↔
      0.995 < (window.summarize peerId channel).freshRatio ∧
        (window.summarize peerId channel).lateRatio < 0.005 ∧
          (window.summarize peerId channel).missingRatio < 0.001 := by
  have hfresh : 0.995 < (window.summarize peerId channel).freshRatio ↔
      995 * window.size < 1000 * window.statusCount .fresh := by
    rw [← lt_freshRatio_iff peerId channel (by norm_num : 0 < 1000)]
    norm_num
  rcases Nat.eq_zero_or_pos window.size with hzero | hpos
  · rw [hfresh]
    have hle := statusCount_le_size window .fresh
    exact iff_of_false (fun h ↦ by have := h.fresh; omega) fun h ↦ by have := h.1; omega
  · obtain ⟨-, hlate, hmissing⟩ := summarize_ratios peerId channel hpos
    have hlt : (window.summarize peerId channel).lateRatio < 0.005 ↔
        200 * window.statusCount .late < window.size := by
      rw [hlate, show (0.005 : ℚ) = (1 : ℕ) / (200 : ℕ) by norm_num,
        natCast_div_lt_iff hpos (by norm_num), one_mul]
    have hmt : (window.summarize peerId channel).missingRatio < 0.001 ↔
        1000 * window.statusCount .missing < window.size := by
      rw [hmissing, show (0.001 : ℚ) = (1 : ℕ) / (1000 : ℕ) by norm_num,
        natCast_div_lt_iff hpos (by norm_num), one_mul]
    rw [hfresh, hlt, hmt]
    exact ⟨fun h ↦ ⟨h.fresh, h.late, h.missing⟩, fun ⟨h₁, h₂, h₃⟩ ↦ ⟨h₁, h₂, h₃⟩⟩

/-- The summary of a window that is not empty is judged by its own numbers. -/
theorem summarize_state (hpos : 0 < window.size) :
    ∃ health : PeerChannelHealth,
      (window.summarize peerId channel).state = (judge health).state ∧
        health.freshRatio = window.statusCount .fresh / window.size ∧
        health.lateRatio = window.statusCount .late / window.size ∧
        health.missingRatio = window.statusCount .missing / window.size ∧
        health.rxLatencyP99Ns = percentile window.latencies 0.99 ∧
        health.observedCount = window.size := by
  have hne : window.samples ≠ [] := fun hnil ↦ hpos.ne' (size_eq_zero.mpr hnil)
  rw [summarize, if_neg hne]
  refine ⟨_, rfl, ?_, ?_, ?_, ?_, rfl⟩
  · rw [Tally.ofSamples_countP rfl Tally.count_fresh]
    rfl
  · rw [Tally.ofSamples_countP rfl Tally.count_late]
    rfl
  · rw [Tally.ofSamples_countP rfl Tally.count_missing]
    rfl
  · rw [Tally.ofSamples_latencies]
    rfl

/-- The three conditions that are asked one after another. -/
theorem summarize_conditions (hpos : 0 < window.size) :
    ∃ health : PeerChannelHealth,
      (window.summarize peerId channel).state = (judge health).state ∧
        (health.freshRatio = 0 ∧ 3 ≤ health.observedCount ↔ window.LooksPartitioned) ∧
        (health.freshRatio < 0.90 ∨ 40000000 < health.rxLatencyP99Ns ↔
          window.LooksCongested) ∧
        (0.02 < health.lateRatio ∨ 0.01 < health.missingRatio ↔ window.LooksDegraded) := by
  obtain ⟨health, hstate, hfresh, hlate, hmissing, hp99, hcount⟩ :=
    summarize_state peerId channel hpos
  refine ⟨health, hstate, ?_, ?_, ?_⟩
  · rw [hfresh, hcount, div_eq_zero_iff, or_iff_left (Nat.cast_ne_zero.mpr hpos.ne'),
      Nat.cast_eq_zero]
    exact Iff.rfl
  · rw [hfresh, hp99, show (0.90 : ℚ) = (9 : ℕ) / (10 : ℕ) by norm_num,
      natCast_div_lt_iff hpos (by norm_num)]
    exact Iff.rfl
  · rw [hlate, hmissing, show (0.02 : ℚ) = (1 : ℕ) / (50 : ℕ) by norm_num,
      show (0.01 : ℚ) = (1 : ℕ) / (100 : ℕ) by norm_num,
      lt_natCast_div_iff hpos (by norm_num), lt_natCast_div_iff hpos (by norm_num), one_mul]
    exact Iff.rfl

theorem summarize_good_iff :
    (window.summarize peerId channel).state = .good ↔ window.LooksGood := by
  rcases Nat.eq_zero_or_pos window.size with hzero | hpos
  · rw [summarize_of_size_eq_zero peerId channel hzero]
    exact iff_of_false nofun fun h ↦ h.nonempty.ne' hzero
  · obtain ⟨health, hstate, hparted, hcongested, hdegraded⟩ :=
      summarize_conditions peerId channel hpos
    rw [hstate, judge_good_iff, hparted, hcongested, hdegraded]
    constructor
    · rintro ⟨-, hnotLow, hnotLate⟩
      obtain ⟨hf, hp⟩ := not_or.mp hnotLow
      obtain ⟨hnl, hnm⟩ := not_or.mp hnotLate
      exact ⟨hpos, not_lt.mp hf, Int64.not_lt.mp hp, not_lt.mp hnl, not_lt.mp hnm⟩
    · intro h
      have hf := h.fresh
      have hp := Int64.not_lt.mpr h.latency
      have hnl := h.late
      have hnm := h.missing
      refine ⟨fun hparted ↦ ?_, not_or.mpr ⟨by omega, hp⟩, not_or.mpr ⟨by omega, by omega⟩⟩
      have hnone := hparted.1
      omega

theorem summarize_partitioned_iff :
    (window.summarize peerId channel).state = .partitioned ↔
      window.size = 0 ∨ (window.statusCount .fresh = 0 ∧ 3 ≤ window.size) := by
  rcases Nat.eq_zero_or_pos window.size with hzero | hpos
  · rw [summarize_of_size_eq_zero peerId channel hzero]
    exact iff_of_true rfl (Or.inl hzero)
  · obtain ⟨health, hstate, hparted, -⟩ := summarize_conditions peerId channel hpos
    rw [hstate, judge_partitioned_iff, hparted, or_iff_right hpos.ne']
    exact Iff.rfl

theorem summarize_ne_recovering : (window.summarize peerId channel).state ≠ .recovering := by
  rcases Nat.eq_zero_or_pos window.size with hzero | hpos
  · rw [summarize_of_size_eq_zero peerId channel hzero]
    exact nofun
  · obtain ⟨health, hstate, -⟩ := summarize_state peerId channel hpos
    rw [hstate]
    exact judge_ne_recovering health

end LinkHealthWindow

end RuntimeSync.Weaknet
