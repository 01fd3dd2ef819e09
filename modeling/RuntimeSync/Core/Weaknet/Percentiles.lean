import Mathlib.Algebra.Order.Floor.Semifield
import RuntimeSync.Core.Weaknet.LinkSummary
import RuntimeSync.Library.OrderStatistic

/-!
# What a percentile covers

The rank of a percentile is `p * (n - 1) / 100`, cut down to a whole number.
The least rank that covers `p` percent of `n` latencies can be one higher.
-/

namespace RuntimeSync.Weaknet

/-! ## Ranks -/

theorem percentile_index {p : ℕ} (hp : p ≤ 100) (last : ℕ) :
    ⌊min (last : ℚ) (max 0 ((p : ℚ) / 100 * last))⌋₊ = p * last / 100 := by
  have hnonneg : 0 ≤ (p : ℚ) / 100 * last := by positivity
  have hshare : (p : ℚ) / 100 ≤ 1 := by
    rw [div_le_one (by norm_num)]
    exact_mod_cast hp
  have hle : (p : ℚ) / 100 * last ≤ last := mul_le_of_le_one_left (Nat.cast_nonneg last) hshare
  have hquotient : (p : ℚ) / 100 * last = ((p * last : ℕ) : ℚ) / (100 : ℕ) := by
    push_cast
    ring
  rw [max_eq_right hnonneg, min_eq_right hle, hquotient, Nat.floor_div_eq_div]

theorem percentile_eq_orderStatistic {p : ℕ} (hp : p ≤ 100) (values : List Int64) :
    percentile values ((p : ℚ) / 100) =
      orderStatistic values (p * (values.length - 1) / 100) 0 := by
  rw [percentile]
  split_ifs with hnil
  · rw [hnil]
    rfl
  · dsimp only
    rw [List.length_insertionSort, percentile_index hp]
    rfl

theorem percentile_rank_lt {p : ℕ} (hp : p ≤ 100) {values : List Int64} (hne : values ≠ []) :
    p * (values.length - 1) / 100 < values.length := by
  have hpos := List.length_pos_iff.mpr hne
  have hle : p * (values.length - 1) ≤ 100 * (values.length - 1) := Nat.mul_le_mul_right _ hp
  omega

theorem percentile_rank_add {p n : ℕ} (hpos : 0 < n) : p * (n - 1) + p = p * n := by
  rw [← Nat.mul_succ, Nat.succ_eq_add_one, Nat.sub_add_cancel hpos]

theorem percentile_nil (q : ℚ) : percentile [] q = 0 := rfl

/-- Comparing a percentile is counting. -/
theorem percentile_le_iff {p : ℕ} (hp : p ≤ 100) {values : List Int64} (hne : values ≠ [])
    (bound : Int64) :
    percentile values ((p : ℚ) / 100) ≤ bound ↔
      p * (values.length - 1) / 100 < values.countP (· ≤ bound) := by
  rw [percentile_eq_orderStatistic hp, orderStatistic_le_iff 0 (percentile_rank_lt hp hne)]

theorem percentile_mono {p r : ℕ} (hle : p ≤ r) (hr : r ≤ 100) (values : List Int64) :
    percentile values ((p : ℚ) / 100) ≤ percentile values ((r : ℚ) / 100) := by
  by_cases hne : values = []
  · rw [hne, percentile_nil, percentile_nil]
    exact Int64.le_refl 0
  · rw [percentile_eq_orderStatistic (hle.trans hr), percentile_eq_orderStatistic hr]
    apply orderStatistic_mono 0 _ (percentile_rank_lt hr hne)
    exact Nat.div_le_div_right (Nat.mul_le_mul_right _ hle)

theorem percentile_mem {p : ℕ} (hp : p ≤ 100) {values : List Int64} (hne : values ≠ []) :
    percentile values ((p : ℚ) / 100) ∈ values := by
  rw [percentile_eq_orderStatistic hp]
  exact orderStatistic_mem 0 (percentile_rank_lt hp hne)

theorem percentile_eq_of_perm {p : ℕ} (hp : p ≤ 100) {values others : List Int64}
    (h : values.Perm others) :
    percentile values ((p : ℚ) / 100) = percentile others ((p : ℚ) / 100) := by
  rw [percentile_eq_orderStatistic hp, percentile_eq_orderStatistic hp, h.length_eq,
    orderStatistic_eq_of_perm h]

theorem p50_eq : (0.50 : ℚ) = (50 : ℕ) / 100 := by norm_num

theorem p95_eq : (0.95 : ℚ) = (95 : ℕ) / 100 := by norm_num

theorem p99_eq : (0.99 : ℚ) = (99 : ℕ) / 100 := by norm_num

/-! ## Shares -/

/-- At least `p` percent of the values are within the bound. -/
def Covers (values : List Int64) (p : ℕ) (bound : Int64) : Prop :=
  p * values.length ≤ 100 * values.countP (· ≤ bound)

instance (values : List Int64) (p : ℕ) (bound : Int64) : Decidable (Covers values p bound) :=
  inferInstanceAs (Decidable (_ ≤ _))

/-- Nothing is lost by cutting the rank down: it is high enough as it is, or
the next value in ascending order is the same. -/
def RankReaches (values : List Int64) (p : ℕ) : Prop :=
  100 ∣ p * values.length ∨ p ≤ p * values.length % 100 ∨
    orderStatistic values (p * values.length / 100 - 1) 0 =
      orderStatistic values (p * values.length / 100) 0

instance (values : List Int64) (p : ℕ) : Decidable (RankReaches values p) :=
  inferInstanceAs (Decidable (_ ∨ _))

/-- The rank after the one looked at is the least that covers the share. -/
theorem covers_iff_of_short {p : ℕ} (hp : p ≤ 100) {values : List Int64} (hne : values ≠ [])
    (hdvd : ¬100 ∣ p * values.length) (hshort : p * values.length % 100 < p) :
    Covers values p (percentile values ((p : ℚ) / 100)) ↔
      orderStatistic values (p * values.length / 100 - 1) 0 =
        orderStatistic values (p * values.length / 100) 0 := by
  have hpos := List.length_pos_iff.mpr hne
  have hproduct := percentile_rank_add (p := p) hpos
  have hrank : p * (values.length - 1) / 100 = p * values.length / 100 - 1 := by omega
  have hnext : p * values.length / 100 < values.length := by
    have hle : p * values.length ≤ 100 * values.length := Nat.mul_le_mul_right _ hp
    omega
  have hcount : Covers values p (percentile values ((p : ℚ) / 100)) ↔
      p * values.length / 100 < values.countP (· ≤ percentile values ((p : ℚ) / 100)) := by
    rw [Covers]
    omega
  rw [hcount, ← orderStatistic_le_iff 0 hnext, percentile_eq_orderStatistic hp, hrank]
  constructor
  · exact Std.le_antisymm (orderStatistic_mono 0 (Nat.sub_le _ 1) hnext)
  · intro heq
    rw [heq]
    exact Int64.le_refl _

theorem covers_iff {p : ℕ} (hp : p ≤ 100) (values : List Int64) :
    Covers values p (percentile values ((p : ℚ) / 100)) ↔ RankReaches values p := by
  by_cases hne : values = []
  · rw [hne]
    exact iff_of_true (Nat.le_refl _) (.inl (Dvd.intro 0 rfl))
  have hpos := List.length_pos_iff.mpr hne
  have hproduct := percentile_rank_add (p := p) hpos
  have hcount := (percentile_le_iff hp hne _).mp (Int64.le_refl (percentile values ((p : ℚ) / 100)))
  by_cases hdvd : 100 ∣ p * values.length
  · refine iff_of_true ?_ (.inl hdvd)
    rw [Covers]
    omega
  by_cases hreach : p ≤ p * values.length % 100
  · refine iff_of_true ?_ (.inr (.inl hreach))
    rw [Covers]
    omega
  · rw [covers_iff_of_short hp hne hdvd (not_le.mp hreach), RankReaches, or_iff_right hdvd,
      or_iff_right hreach]

/-- Covering 99 percent is showing every tail of more than one percent. -/
theorem covers_iff_tail {values : List Int64} {value : Int64} :
    Covers values 99 value ↔
      ∀ bound, values.length < 100 * values.countP (bound < ·) → bound < value := by
  have hsplit (bound : Int64) : values.length =
      values.countP (· ≤ bound) + values.countP (bound < ·) := by
    rw [List.length_eq_countP_add_countP (· ≤ bound)]
    congr 2
    funext latencyNs
    simp [Int64.not_le]
  constructor
  · intro hcovers bound htail
    rw [Covers] at hcovers
    rw [← Int64.not_le]
    intro hle
    have hwithin : values.countP (· ≤ value) ≤ values.countP (· ≤ bound) :=
      List.countP_mono_left fun latencyNs _ h ↦
        decide_eq_true (Int64.le_trans (of_decide_eq_true h) hle)
    have hlength := hsplit bound
    omega
  · intro htails
    by_contra hnot
    rw [Covers] at hnot
    have hlength := hsplit value
    exact Int64.lt_irrefl (htails value (by omega))

/-! ## The summary -/

/-- The percentiles cover their shares, so that no tail of more than one
percent is hidden from the last one. -/
structure CoversShares (values : List Int64) (health : PeerChannelHealth) : Prop where
  p95 : Covers values 95 health.rxLatencyP95Ns
  p99 : Covers values 99 health.rxLatencyP99Ns
  tail : ∀ bound, values.length < 100 * values.countP (bound < ·) → bound < health.rxLatencyP99Ns

namespace LinkHealthWindow

variable (window : LinkHealthWindow) (peerId channel : Str)

theorem summarize_percentiles :
    (window.summarize peerId channel).rxLatencyP50Ns = percentile window.latencies 0.50 ∧
      (window.summarize peerId channel).rxLatencyP95Ns = percentile window.latencies 0.95 ∧
      (window.summarize peerId channel).rxLatencyP99Ns = percentile window.latencies 0.99 := by
  rw [summarize, latencies]
  split_ifs with hnil
  · rw [hnil]
    exact ⟨rfl, rfl, rfl⟩
  · rw [judge_eq, Tally.ofSamples_latencies]
    exact ⟨rfl, rfl, rfl⟩

theorem summarize_covers_iff :
    CoversShares window.latencies (window.summarize peerId channel) ↔
      RankReaches window.latencies 95 ∧ RankReaches window.latencies 99 := by
  obtain ⟨-, hp95, hp99⟩ := window.summarize_percentiles peerId channel
  rw [p95_eq] at hp95
  rw [p99_eq] at hp99
  rw [← covers_iff (by norm_num : 95 ≤ 100), ← covers_iff (by norm_num : 99 ≤ 100), ← hp95, ← hp99]
  exact ⟨fun h ↦ ⟨h.p95, h.p99⟩, fun ⟨h95, h99⟩ ↦ ⟨h95, h99, covers_iff_tail.mp h99⟩⟩

/-- One sample in time, and one far too late. -/
def halfSlow : LinkHealthWindow :=
  ((new 100).observe { status := .fresh, latencyNs := 10000000 }).observe
    { status := .fresh, latencyNs := 900000000 }

/-- The greater of two latencies is in no percentile. -/
theorem halfSlow_hidden :
    halfSlow.latencies = [10000000, 900000000] ∧
      (halfSlow.summarize [] []).rxLatencyP99Ns = 10000000 ∧
      (halfSlow.summarize [] []).state = .good ∧
      ¬CoversShares halfSlow.latencies (halfSlow.summarize [] []) := by
  refine ⟨by decide +kernel, by decide +kernel, by decide +kernel, fun h ↦ ?_⟩
  have hp99 : ¬Covers halfSlow.latencies 99 (halfSlow.summarize [] []).rxLatencyP99Ns := by
    decide +kernel
  exact hp99 h.p99

end LinkHealthWindow

end RuntimeSync.Weaknet
