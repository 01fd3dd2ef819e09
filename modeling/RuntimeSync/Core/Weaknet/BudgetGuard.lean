import Mathlib.Algebra.Order.BigOperators.Group.List
import Mathlib.Data.List.Forall2
import RuntimeSync.Core.Types

/-!
# The traffic budget

The budget adds up what the channels are expected to send.  All of it is
computed in `double`, except for the bytes of a sample, which are added in 32
bits first.
-/

namespace RuntimeSync.Weaknet

/-- Doubles with `static_cast<double>` from a counter. -/
class BudgetArith (D : Type) extends DoubleArith D where
  ofCount : UInt32 → D

instance : BudgetArith ℚ where
  ofCount n := n.toNat

open BudgetArith

structure ChannelBudgetInput (D : Type) [BudgetArith D] where
  publishers : UInt32 := 0
  effectiveFanout : UInt32 := 0
  frequencyHz : D := 0.0
  payloadBytesP95 : UInt32 := 0
  envelopeOverheadBytes : UInt32 := 128
  transportOverheadBytes : UInt32 := 64

structure BudgetReport (D : Type) [BudgetArith D] where
  accepted : Bool := true
  totalRealtimeBps : D := 0.0
  maxRealtimeBps : D := 0.0
  utilizationRatio : D := 0.0
  reason : Str := []

section Compute

variable {D : Type} [BudgetArith D]

/-- `value > 0.0`. -/
def isPositive (value : D) : Bool := DoubleArith.le 0.0 value && !DoubleArith.le value 0.0

namespace ChannelBudgetInput

def bytesPerSample (input : ChannelBudgetInput D) : UInt32 :=
  input.payloadBytesP95 + input.envelopeOverheadBytes + input.transportOverheadBytes

/-- What the loop adds for a channel. -/
def realtimeBps (factor : D) (input : ChannelBudgetInput D) : D :=
  ofCount input.publishers * ofCount input.effectiveFanout * input.frequencyHz *
    ofCount input.bytesPerSample * 8.0 * factor

end ChannelBudgetInput

def computeTrafficBudget (inputs : List (ChannelBudgetInput D)) (maxRealtimeBps safetyFactor : D) :
    BudgetReport D :=
  if DoubleArith.le maxRealtimeBps 0.0 || !DoubleArith.isfinite maxRealtimeBps then
    { maxRealtimeBps := maxRealtimeBps, accepted := false,
      reason := text "max_realtime_bps must be positive" }
  else
    let factor := if isPositive safetyFactor && DoubleArith.isfinite safetyFactor then safetyFactor
      else 1.0
    let total := inputs.foldl (fun total input ↦ total + input.realtimeBps factor) 0.0
    let accepted := DoubleArith.le total maxRealtimeBps
    { maxRealtimeBps := maxRealtimeBps
      totalRealtimeBps := total
      utilizationRatio := total / maxRealtimeBps
      accepted := accepted
      reason := if accepted then text "within budget" else text "traffic budget exceeded" }

end Compute

/-! ## The sum without bounds -/

namespace ChannelBudgetInput

/-- The bytes of a sample as a number without bounds. -/
def bytes (input : ChannelBudgetInput ℚ) : ℕ :=
  input.payloadBytesP95.toNat + input.envelopeOverheadBytes.toNat +
    input.transportOverheadBytes.toNat

def exactBps (factor : ℚ) (input : ChannelBudgetInput ℚ) : ℚ :=
  input.publishers.toNat * input.effectiveFanout.toNat * input.frequencyHz * input.bytes * 8 *
    factor

/-- The sum of the bytes fits 32 bits, or does not count. -/
def Fits (input : ChannelBudgetInput ℚ) : Prop :=
  input.bytes < 2 ^ 32 ∨ input.publishers = 0 ∨ input.effectiveFanout = 0 ∨ input.frequencyHz = 0

instance : DecidablePred Fits := fun _ ↦ inferInstanceAs (Decidable (_ ∨ _))

/-- No size, count or frequency is smaller. -/
structure NoMoreThan (input larger : ChannelBudgetInput ℚ) : Prop where
  publishers : input.publishers ≤ larger.publishers
  effectiveFanout : input.effectiveFanout ≤ larger.effectiveFanout
  frequencyHz : input.frequencyHz ≤ larger.frequencyHz
  payloadBytesP95 : input.payloadBytesP95 ≤ larger.payloadBytesP95
  envelopeOverheadBytes : input.envelopeOverheadBytes ≤ larger.envelopeOverheadBytes
  transportOverheadBytes : input.transportOverheadBytes ≤ larger.transportOverheadBytes

section Sizes

variable {input larger : ChannelBudgetInput ℚ} {factor : ℚ}

theorem bytesPerSample_toNat (input : ChannelBudgetInput ℚ) :
    input.bytesPerSample.toNat = input.bytes % 2 ^ 32 := by
  rw [bytesPerSample, UInt32.toNat_add, UInt32.toNat_add, Nat.mod_add_mod, bytes]

/-- What does not depend on the bytes. -/
def samplesPerSecond (input : ChannelBudgetInput ℚ) : ℚ :=
  input.publishers.toNat * input.effectiveFanout.toNat * input.frequencyHz

theorem samplesPerSecond_nonneg (hfrequency : 0 ≤ input.frequencyHz) :
    0 ≤ input.samplesPerSecond := by
  rw [samplesPerSecond]
  positivity

theorem samplesPerSecond_eq_zero :
    input.samplesPerSecond = 0 ↔
      input.publishers = 0 ∨ input.effectiveFanout = 0 ∨ input.frequencyHz = 0 := by
  rw [samplesPerSecond, mul_eq_zero, mul_eq_zero, Nat.cast_eq_zero, Nat.cast_eq_zero, or_assoc,
    ← UInt32.toNat_inj, ← UInt32.toNat_inj]
  exact Iff.rfl

theorem realtimeBps_eq (factor : ℚ) (input : ChannelBudgetInput ℚ) :
    input.realtimeBps factor =
      input.samplesPerSecond * (input.bytes % 2 ^ 32 : ℕ) * 8 * factor := by
  rw [← bytesPerSample_toNat]
  have height : (8.0 : ℚ) = 8 := by norm_num
  rw [realtimeBps, height]
  rfl

theorem exactBps_eq (factor : ℚ) (input : ChannelBudgetInput ℚ) :
    input.exactBps factor = input.samplesPerSecond * input.bytes * 8 * factor := rfl

/-- Wrapping only loses bytes. -/
theorem realtimeBps_le (hfactor : 0 < factor) (hfrequency : 0 ≤ input.frequencyHz) :
    input.realtimeBps factor ≤ input.exactBps factor := by
  have hrate := samplesPerSecond_nonneg hfrequency
  have hbytes : ((input.bytes % 2 ^ 32 : ℕ) : ℚ) ≤ input.bytes :=
    Nat.cast_le.mpr (Nat.mod_le _ _)
  rw [realtimeBps_eq, exactBps_eq]
  gcongr

theorem realtimeBps_eq_exactBps_iff (hfactor : 0 < factor) :
    input.realtimeBps factor = input.exactBps factor ↔ input.Fits := by
  rw [realtimeBps_eq, exactBps_eq, mul_left_inj' hfactor.ne', mul_left_inj' (by norm_num),
    mul_eq_mul_left_iff, Nat.cast_inj, samplesPerSecond_eq_zero, Fits]
  rw [Nat.mod_eq_iff_lt (by norm_num)]

theorem exactBps_nonneg (hfactor : 0 < factor) (hfrequency : 0 ≤ input.frequencyHz) :
    0 ≤ input.exactBps factor := by
  have hrate := samplesPerSecond_nonneg hfrequency
  rw [exactBps_eq]
  positivity

theorem exactBps_mono (hfactor : 0 < factor) (hfrequency : 0 ≤ input.frequencyHz)
    (h : NoMoreThan input larger) : input.exactBps factor ≤ larger.exactBps factor := by
  have hlarger : 0 ≤ larger.frequencyHz := hfrequency.trans h.frequencyHz
  have hpublishers := UInt32.le_iff_toNat_le.mp h.publishers
  have hfanout := UInt32.le_iff_toNat_le.mp h.effectiveFanout
  have hfrequencies := h.frequencyHz
  have hbytes : input.bytes ≤ larger.bytes :=
    Nat.add_le_add (Nat.add_le_add (UInt32.le_iff_toNat_le.mp h.payloadBytesP95)
      (UInt32.le_iff_toNat_le.mp h.envelopeOverheadBytes))
      (UInt32.le_iff_toNat_le.mp h.transportOverheadBytes)
  rw [exactBps, exactBps]
  gcongr

end Sizes

end ChannelBudgetInput

/-! ## The report -/

open ChannelBudgetInput

def exactTotal (inputs : List (ChannelBudgetInput ℚ)) (factor : ℚ) : ℚ :=
  (inputs.map (exactBps factor)).sum

/-- The report is that of the sum without bounds. -/
structure Exact (inputs : List (ChannelBudgetInput ℚ)) (maxRealtimeBps safetyFactor : ℚ) :
    Prop where
  total : (computeTrafficBudget inputs maxRealtimeBps safetyFactor).totalRealtimeBps =
    exactTotal inputs safetyFactor
  accepted : (computeTrafficBudget inputs maxRealtimeBps safetyFactor).accepted = true ↔
    exactTotal inputs safetyFactor ≤ maxRealtimeBps

section Report

variable {maxRealtimeBps safetyFactor : ℚ}

theorem zero_eq : (0.0 : ℚ) = 0 := by norm_num

theorem isPositive_iff (value : ℚ) : isPositive value = true ↔ 0 < value := by
  simp only [isPositive, zero_eq, Bool.and_eq_true, Bool.not_eq_true']
  change decide (0 ≤ value) = true ∧ decide (value ≤ 0) = false ↔ 0 < value
  rw [decide_eq_true_eq, decide_eq_false_iff_not, not_le]
  exact ⟨And.right, fun h ↦ ⟨h.le, h⟩⟩

/-- With a positive limit and factor the loop runs over all channels. -/
theorem computeTrafficBudget_total (inputs : List (ChannelBudgetInput ℚ))
    (hmax : 0 < maxRealtimeBps) (hfactor : 0 < safetyFactor) :
    (computeTrafficBudget inputs maxRealtimeBps safetyFactor).totalRealtimeBps =
        (inputs.map (realtimeBps safetyFactor)).sum ∧
      ((computeTrafficBudget inputs maxRealtimeBps safetyFactor).accepted = true ↔
        (inputs.map (realtimeBps safetyFactor)).sum ≤ maxRealtimeBps) := by
  have hlimit : ¬(DoubleArith.le maxRealtimeBps 0.0 || !DoubleArith.isfinite maxRealtimeBps) =
      true := by
    rw [zero_eq]
    change ¬(decide (maxRealtimeBps ≤ 0) || !true) = true
    simp [hmax]
  have hsafety : (isPositive safetyFactor && DoubleArith.isfinite safetyFactor) = true := by
    rw [(isPositive_iff safetyFactor).mpr hfactor]
    rfl
  rw [computeTrafficBudget, if_neg hlimit]
  simp only [hsafety, if_true]
  rw [zero_eq, ← List.foldl_map, ← List.sum_eq_foldl]
  exact ⟨rfl, decide_eq_true_iff⟩

variable {inputs larger : List (ChannelBudgetInput ℚ)}

theorem sum_realtimeBps_le (hfactor : 0 < safetyFactor)
    (hfrequency : ∀ input ∈ inputs, 0 ≤ input.frequencyHz) :
    (inputs.map (realtimeBps safetyFactor)).sum ≤ exactTotal inputs safetyFactor :=
  List.sum_le_sum fun input hmem ↦ realtimeBps_le hfactor (hfrequency input hmem)

/-- What one channel loses no other one makes up for. -/
theorem sum_realtimeBps_eq_iff (hfactor : 0 < safetyFactor)
    (hfrequency : ∀ input ∈ inputs, 0 ≤ input.frequencyHz) :
    (inputs.map (realtimeBps safetyFactor)).sum = exactTotal inputs safetyFactor ↔
      ∀ input ∈ inputs, input.Fits := by
  constructor
  · intro heq input hmem
    rw [← realtimeBps_eq_exactBps_iff hfactor]
    refine le_antisymm (realtimeBps_le hfactor (hfrequency input hmem)) (not_lt.mp fun hlt ↦ ?_)
    have hsum : (inputs.map (realtimeBps safetyFactor)).sum <
        (inputs.map (exactBps safetyFactor)).sum :=
      List.sum_lt_sum _ _ (fun other hother ↦ realtimeBps_le hfactor (hfrequency other hother))
        ⟨input, hmem, hlt⟩
    exact hsum.ne heq
  · intro hfits
    rw [exactTotal]
    congr 1
    exact List.map_congr_left fun input hmem ↦
      (realtimeBps_eq_exactBps_iff hfactor).mpr (hfits input hmem)

theorem exactTotal_mono (hfactor : 0 < safetyFactor)
    (hfrequency : ∀ input ∈ inputs, 0 ≤ input.frequencyHz)
    (hlarger : ∀ input ∈ larger, 0 ≤ input.frequencyHz)
    (h : List.SublistForall₂ NoMoreThan inputs larger) :
    exactTotal inputs safetyFactor ≤ exactTotal larger safetyFactor := by
  obtain ⟨grown, hgrown, hsublist⟩ := List.sublistForall₂_iff.mp h
  have hterms : List.Forall₂ (· ≤ ·) (inputs.map (exactBps safetyFactor))
      (grown.map (exactBps safetyFactor)) := by
    rw [List.forall₂_map_left_iff, List.forall₂_map_right_iff]
    exact ((List.forall₂_and_left inputs grown).mpr ⟨hfrequency, hgrown⟩).imp
      fun input other h ↦ exactBps_mono hfactor h.1 h.2
  refine hterms.sum_le_sum.trans ((hsublist.map _).sum_le_sum fun bps hmem ↦ ?_)
  obtain ⟨input, hinput, rfl⟩ := List.mem_map.mp hmem
  exact exactBps_nonneg hfactor (hlarger input hinput)

end Report

/-- The report is exact if and only if the byte sums that count fit 32 bits, and
a budget whose byte sums do is rejected with every smaller one. -/
theorem exact_iff (inputs : List (ChannelBudgetInput ℚ)) (maxRealtimeBps safetyFactor : ℚ)
    (hmax : 0 < maxRealtimeBps) (hfactor : 0 < safetyFactor)
    (hfrequency : ∀ input ∈ inputs, 0 ≤ input.frequencyHz) :
    (Exact inputs maxRealtimeBps safetyFactor ↔ ∀ input ∈ inputs, input.Fits) ∧
      ∀ larger, (∀ input ∈ larger, 0 ≤ input.frequencyHz ∧ input.Fits) →
        List.SublistForall₂ NoMoreThan inputs larger →
          (computeTrafficBudget inputs maxRealtimeBps safetyFactor).accepted = false →
            (computeTrafficBudget larger maxRealtimeBps safetyFactor).accepted = false := by
  obtain ⟨htotal, haccepted⟩ := computeTrafficBudget_total inputs hmax hfactor
  have hsum := sum_realtimeBps_eq_iff hfactor hfrequency
  refine ⟨⟨fun h ↦ ?_, fun hfits ↦ ⟨?_, ?_⟩⟩, fun larger hlarger hgrown hrejected ↦ ?_⟩
  · rw [← hsum, ← htotal]
    exact h.total
  · rw [htotal]
    exact hsum.mpr hfits
  · rw [haccepted, hsum.mpr hfits]
  · obtain ⟨-, hlargerAccepted⟩ := computeTrafficBudget_total larger hmax hfactor
    have hnonneg : ∀ input ∈ larger, 0 ≤ input.frequencyHz := fun input h ↦ (hlarger input h).1
    have hle := sum_realtimeBps_le hfactor hfrequency
    have hmono := exactTotal_mono hfactor hfrequency hnonneg hgrown
    rw [← Bool.not_eq_true, haccepted] at hrejected
    rw [← Bool.not_eq_true, hlargerAccepted,
      (sum_realtimeBps_eq_iff hfactor hnonneg).mpr fun input h ↦ (hlarger input h).2]
    exact fun h ↦ hrejected ((hle.trans hmono).trans h)

/-- Two senders of state, a kilobyte fifty times a second. -/
def stateChannel : ChannelBudgetInput ℚ :=
  { publishers := 2, effectiveFanout := 1, frequencyHz := 50, payloadBytesP95 := 1024 }

theorem stateChannel_exact :
    Exact [stateChannel] 2000000 1.35 ∧
      (computeTrafficBudget [stateChannel] 2000000 1.35).accepted = true :=
  ⟨(exact_iff [stateChannel] 2000000 1.35 (by norm_num) (by norm_num) (by decide +kernel)).1.mpr
    (by decide +kernel), by decide +kernel⟩

/-- The overhead of a sample takes its bytes past the last 32-bit number. -/
def hugeChannel : ChannelBudgetInput ℚ :=
  { publishers := 1, effectiveFanout := 1, frequencyHz := 1, payloadBytesP95 := 4294967295 }

theorem hugeChannel_accepted :
    (computeTrafficBudget [{ hugeChannel with payloadBytesP95 := 1000000 }] 2000000
        1.35).accepted = false ∧
      (computeTrafficBudget [hugeChannel] 2000000 1.35).accepted = true ∧
      hugeChannel.bytesPerSample = 191 ∧ ¬Exact [hugeChannel] 2000000 1.35 := by
  have haccepted : (computeTrafficBudget [hugeChannel] 2000000 1.35).accepted = true := by
    decide +kernel
  refine ⟨by decide +kernel, haccepted, by decide, fun h ↦ ?_⟩
  have hlarge : ¬exactTotal [hugeChannel] 1.35 ≤ 2000000 := by decide +kernel
  exact hlarge (h.accepted.mp haccepted)

end RuntimeSync.Weaknet
