import RuntimeSync.Core.CycleLaws

/-!
# Expected times near the end of the clock

The saturation of `expectedTimeNs` looks at the product alone.  Just below
its limit the product still fits, but the epoch added to it does not.
-/

namespace RuntimeSync.CycleScheduler

open MachineInt

/-! ## The sum, checked -/

/-- `expectedTimeNs` with its one signed sum, which has no value when it overflows. -/
def expectedTimeNsChecked (config : CycleSchedulerConfig) (cycleId : UInt64) : Option Int64 :=
  if cycleId ≤ config.startCycle then some config.epochNs
  else
    let offsetCycles := cycleId - config.startCycle
    let period := config.periodNs.toUInt64
    if Int64.maxValue.toUInt64 / period < offsetCycles then some Int64.maxValue
    else addChecked config.epochNs (offsetCycles * period).toInt64

theorem expectedTimeNs_of_checked {config : CycleSchedulerConfig} {cycleId : UInt64}
    {timeNs : Int64} (h : expectedTimeNsChecked config cycleId = some timeNs) :
    expectedTimeNs config cycleId = timeNs := by
  dsimp only [expectedTimeNsChecked, addChecked] at h
  dsimp only [expectedTimeNs]
  split_ifs at h with hstart hlarge hfits
  · rw [if_pos hstart]
    exact Option.some.inj h
  · rw [if_neg hstart, if_pos hlarge]
    exact Option.some.inj h
  · rw [if_neg hstart, if_neg hlarge]
    exact Option.some.inj h

/-! ## The time without bounds -/

/-- The time from the start cycle to this one. -/
def elapsedNs (config : CycleSchedulerConfig) (cycleId : UInt64) : ℤ :=
  max 0 ((cycleId.toNat : ℤ) - config.startCycle.toNat) * config.periodNs.toInt

def saturatedTimeNs (config : CycleSchedulerConfig) (cycleId : UInt64) : ℤ :=
  min (config.epochNs.toInt + elapsedNs config cycleId) (2 ^ 63 - 1)

theorem elapsedNs_mono {config : CycleSchedulerConfig} (hvalid : config.Valid) {a b : UInt64}
    (hle : a ≤ b) : elapsedNs config a ≤ elapsedNs config b := by
  have hnat : a.toNat ≤ b.toNat := UInt64.le_iff_toNat_le.mp hle
  apply mul_le_mul_of_nonneg_right _ hvalid.period_pos.le
  apply max_le_max_left
  omega

theorem saturatedTimeNs_mono {config : CycleSchedulerConfig} (hvalid : config.Valid)
    {a b : UInt64} (hle : a ≤ b) : saturatedTimeNs config a ≤ saturatedTimeNs config b := by
  have helapsed := elapsedNs_mono hvalid hle
  apply min_le_min_right
  omega

/-! ## What the guard knows -/

section Branches

variable {config : CycleSchedulerConfig} {cycleId : UInt64}

theorem elapsedNs_of_le (hstart : cycleId ≤ config.startCycle) : elapsedNs config cycleId = 0 := by
  have hnat := UInt64.le_iff_toNat_le.mp hstart
  rw [elapsedNs, max_eq_left (by omega), zero_mul]

theorem elapsedNs_of_lt (hvalid : config.Valid) (hstart : config.startCycle < cycleId) :
    elapsedNs config cycleId =
      ((cycleId - config.startCycle).toNat * config.periodNs.toUInt64.toNat : ℕ) := by
  have hnat := UInt64.lt_iff_toNat_lt.mp hstart
  have hoffset : ((cycleId - config.startCycle).toNat : ℤ) =
      (cycleId.toNat : ℤ) - config.startCycle.toNat := by
    rw [UInt64.toNat_sub_of_le _ _ (UInt64.le_of_lt hstart)]
    omega
  rw [elapsedNs, max_eq_right (by omega), Nat.cast_mul, hoffset,
    toNat_toUInt64 hvalid.period_pos.le]

/-- The guard finds out whether the product is a signed number. -/
theorem guard_iff (hvalid : config.Valid) (hstart : config.startCycle < cycleId) :
    Int64.maxValue.toUInt64 / config.periodNs.toUInt64 < cycleId - config.startCycle ↔
      2 ^ 63 - 1 < elapsedNs config cycleId := by
  have hpos : 0 < config.periodNs.toUInt64.toNat := by
    have hperiod := toNat_toUInt64 hvalid.period_pos.le
    have hvalue := hvalid.period_pos
    omega
  rw [elapsedNs_of_lt hvalid hstart, UInt64.lt_iff_toNat_lt, UInt64.toNat_div,
    Nat.div_lt_iff_lt_mul hpos]
  exact Nat.cast_lt.symm

theorem product_toInt (hvalid : config.Valid) (hstart : config.startCycle < cycleId)
    (hsmall : elapsedNs config cycleId ≤ 2 ^ 63 - 1) :
    ((cycleId - config.startCycle) * config.periodNs.toUInt64).toInt64.toInt =
      elapsedNs config cycleId := by
  rw [elapsedNs_of_lt hvalid hstart] at hsmall ⊢
  have hfits := toNat_mul_of_fits (a := cycleId - config.startCycle)
    (b := config.periodNs.toUInt64) (by omega)
  rw [toInt_toInt64 (by omega), hfits]

theorem expectedTimeNsChecked_of_le (hstart : cycleId ≤ config.startCycle) :
    expectedTimeNsChecked config cycleId = some config.epochNs := if_pos hstart

theorem expectedTimeNsChecked_of_large (hvalid : config.Valid)
    (hlarge : 2 ^ 63 - 1 < elapsedNs config cycleId) :
    expectedTimeNsChecked config cycleId = some Int64.maxValue := by
  by_cases hstart : cycleId ≤ config.startCycle
  · rw [elapsedNs_of_le hstart] at hlarge
    omega
  · rw [expectedTimeNsChecked, if_neg hstart]
    exact if_pos ((guard_iff hvalid (UInt64.not_le.mp hstart)).mpr hlarge)

theorem expectedTimeNsChecked_of_small (hvalid : config.Valid)
    (hstart : config.startCycle < cycleId) (hsmall : elapsedNs config cycleId ≤ 2 ^ 63 - 1) :
    expectedTimeNsChecked config cycleId = addChecked config.epochNs
      ((cycleId - config.startCycle) * config.periodNs.toUInt64).toInt64 := by
  rw [expectedTimeNsChecked, if_neg (UInt64.not_le.mpr hstart)]
  exact if_neg fun hguard ↦ not_lt.mpr hsmall ((guard_iff hvalid hstart).mp hguard)

end Branches

/-! ## Where the saturation is complete -/

/-- The sum exists, and it is the time without bounds, cut at the last one. -/
def Saturates (config : CycleSchedulerConfig) (cycleId : UInt64) : Prop :=
  ∃ timeNs, expectedTimeNsChecked config cycleId = some timeNs ∧
    timeNs.toInt = saturatedTimeNs config cycleId

/-- The cycle is outside the band in which only the product fits. -/
def OutsideBand (config : CycleSchedulerConfig) (cycleId : UInt64) : Prop :=
  cycleId ≤ config.startCycle ∨ 2 ^ 63 - 1 < elapsedNs config cycleId ∨
    config.epochNs.toInt + elapsedNs config cycleId ≤ 2 ^ 63 - 1

instance (config : CycleSchedulerConfig) (cycleId : UInt64) :
    Decidable (OutsideBand config cycleId) := inferInstanceAs (Decidable (_ ∨ _))

theorem saturates_of_le {config : CycleSchedulerConfig} {cycleId : UInt64}
    (hstart : cycleId ≤ config.startCycle) : Saturates config cycleId := by
  refine ⟨config.epochNs, expectedTimeNsChecked_of_le hstart, ?_⟩
  have hlimit := config.epochNs.toInt_lt
  rw [saturatedTimeNs, elapsedNs_of_le hstart, add_zero, min_eq_left (by omega)]

theorem saturates_of_large {config : CycleSchedulerConfig} (hvalid : config.Valid)
    (hepoch : 0 ≤ config.epochNs.toInt) {cycleId : UInt64}
    (hlarge : 2 ^ 63 - 1 < elapsedNs config cycleId) : Saturates config cycleId := by
  refine ⟨Int64.maxValue, expectedTimeNsChecked_of_large hvalid hlarge, ?_⟩
  rw [saturatedTimeNs, min_eq_right (by omega)]
  rfl

/-- While the product fits, the result stands or falls with the sum. -/
theorem saturates_iff_of_small {config : CycleSchedulerConfig} (hvalid : config.Valid)
    (hepoch : 0 ≤ config.epochNs.toInt) {cycleId : UInt64}
    (hstart : config.startCycle < cycleId) (hsmall : elapsedNs config cycleId ≤ 2 ^ 63 - 1) :
    Saturates config cycleId ↔
      config.epochNs.toInt + elapsedNs config cycleId ≤ 2 ^ 63 - 1 := by
  have hproduct := product_toInt hvalid hstart hsmall
  have hnonneg : 0 ≤ elapsedNs config cycleId :=
    mul_nonneg (le_max_left _ _) hvalid.period_pos.le
  have hchecked := expectedTimeNsChecked_of_small hvalid hstart hsmall
  constructor
  · rintro ⟨timeNs, htime, -⟩
    rw [hchecked, addChecked] at htime
    split_ifs at htime with hfits
    have hhigh := hfits.2
    rw [hproduct] at hhigh
    omega
  · intro hsum
    have hfits : Fits (config.epochNs.toInt +
        ((cycleId - config.startCycle) * config.periodNs.toUInt64).toInt64.toInt) := by
      rw [hproduct]
      exact ⟨by omega, by omega⟩
    refine ⟨_, hchecked.trans (if_pos hfits), ?_⟩
    rw [toInt_add_of_fits hfits.1 hfits.2, hproduct, saturatedTimeNs, min_eq_left hsum]

theorem saturates_iff {config : CycleSchedulerConfig} (hvalid : config.Valid)
    (hepoch : 0 ≤ config.epochNs.toInt) (cycleId : UInt64) :
    Saturates config cycleId ↔ OutsideBand config cycleId := by
  by_cases hstart : cycleId ≤ config.startCycle
  · exact iff_of_true (saturates_of_le hstart) (.inl hstart)
  by_cases hlarge : 2 ^ 63 - 1 < elapsedNs config cycleId
  · exact iff_of_true (saturates_of_large hvalid hepoch hlarge) (.inr (.inl hlarge))
  rw [saturates_iff_of_small hvalid hepoch (UInt64.not_le.mp hstart) (not_lt.mp hlarge),
    OutsideBand]
  simp only [hstart, hlarge, false_or]

theorem expectedTimeNs_of_saturates {config : CycleSchedulerConfig} {cycleId : UInt64}
    (h : Saturates config cycleId) :
    (expectedTimeNs config cycleId).toInt = saturatedTimeNs config cycleId := by
  obtain ⟨timeNs, hchecked, htime⟩ := h
  rw [expectedTimeNs_of_checked hchecked, htime]

/-- After any successful configuration with an epoch that is not negative,
the expected time of a cycle saturates exactly outside the band, and between
two cycles outside the band it never goes back. -/
theorem configured_saturates_iff {s s' : CycleScheduler} {config : CycleSchedulerConfig}
    (hconfigured : s.configure config = (s', true)) (hepoch : 0 ≤ config.epochNs) :
    (∀ cycleId, Saturates s'.config cycleId ↔ OutsideBand s'.config cycleId) ∧
      ∀ a b, a ≤ b → OutsideBand s'.config a → OutsideBand s'.config b →
        expectedTimeNs s'.config a ≤ expectedTimeNs s'.config b := by
  obtain ⟨hvalid, rfl⟩ := configure_ok hconfigured
  have hnonneg : 0 ≤ config.epochNs.toInt := Int64.le_iff_toInt_le.mp hepoch
  refine ⟨saturates_iff hvalid hnonneg, fun a b hle ha hb ↦ ?_⟩
  rw [Int64.le_iff_toInt_le,
    expectedTimeNs_of_saturates ((saturates_iff hvalid hnonneg a).mpr ha),
    expectedTimeNs_of_saturates ((saturates_iff hvalid hnonneg b).mpr hb)]
  exact saturatedTimeNs_mono hvalid hle

def fastFromNow : CycleSchedulerConfig :=
  { sessionId := text "session-1"
    taskId := text "formation"
    epochNs := 1700000000000000000
    periodNs := 20000000 }

theorem fastFromNow_configured :
    ({} : CycleScheduler).configure fastFromNow = ({ config := fastFromNow }, true) := by decide

theorem fastFromNow_saturates :
    (Saturates fastFromNow 461168601843 ↔ OutsideBand fastFromNow 461168601843) ∧
      OutsideBand fastFromNow 461168601843 ∧ ¬OutsideBand fastFromNow 461168601842 :=
  ⟨(configured_saturates_iff fastFromNow_configured (by decide)).1 461168601843, by decide,
    by decide⟩

/-- The last product that fits, with an epoch of today. -/
theorem fastFromNow_overflows :
    (({} : CycleScheduler).configure fastFromNow).2 = true ∧ 0 ≤ fastFromNow.epochNs ∧
      expectedTimeNsChecked fastFromNow 461168601842 = none ∧
      ¬Saturates fastFromNow 461168601842 := by
  have hnone : expectedTimeNsChecked fastFromNow 461168601842 = none := by decide
  refine ⟨by decide, by decide, hnone, ?_⟩
  rintro ⟨timeNs, htime, -⟩
  rw [hnone] at htime
  cases htime

end RuntimeSync.CycleScheduler
