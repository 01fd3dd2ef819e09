import RuntimeSync.Core.Types
import RuntimeSync.Library.MachineInt

/-!
# Staggered sending

A sender picks one of the slots that fit into the spread, by a hash of what it
sends.  The number of slots is kept in 32 bits.
-/

namespace RuntimeSync.Weaknet

structure SendStaggerConfig where
  enabled : Bool := false
  maxSpreadNs : Int64 := 0
  slotWidthNs : Int64 := 500000
  deriving DecidableEq

structure SendStaggerDecision where
  enabled : Bool := false
  slotIndex : UInt32 := 0
  offsetNs : Int64 := 0
  reason : Str := []
  deriving DecidableEq

namespace DeterministicSendStagger

def slotCount (cfg : SendStaggerConfig) : UInt32 :=
  (cfg.maxSpreadNs / cfg.slotWidthNs).toUInt64.toUInt32 + 1

def staggerKey (sessionId channel senderId : Str) (cycleId : UInt64) : Str :=
  sessionId ++ text "|" ++ channel ++ text "|" ++ senderId ++ text "|" ++
    text (toString cycleId.toNat)

/-- `hash` is `std::hash<std::string>`.  A remainder by zero has no result. -/
def decide (hash : Str → UInt64) (cfg : SendStaggerConfig) (sessionId channel senderId : Str)
    (cycleId : UInt64) : Option SendStaggerDecision :=
  if cfg.enabled = false ∨ cfg.maxSpreadNs ≤ 0 ∨ cfg.slotWidthNs ≤ 0 then
    some { reason := text "stagger disabled" }
  else if slotCount cfg = 0 then none
  else
    let slotIndex :=
      (hash (staggerKey sessionId channel senderId cycleId) % (slotCount cfg).toUInt64).toUInt32
    let offsetNs := slotIndex.toUInt64.toInt64 * cfg.slotWidthNs
    some
      { enabled := true
        slotIndex := slotIndex
        offsetNs := if cfg.maxSpreadNs < offsetNs then cfg.maxSpreadNs else offsetNs
        reason := text "deterministic_micro_slot" }

/-! ## The slots -/

/-- A configuration that is switched on. -/
structure Active (cfg : SendStaggerConfig) : Prop where
  enabled : cfg.enabled = true
  spread : 0 < cfg.maxSpreadNs.toInt
  width : 0 < cfg.slotWidthNs.toInt

/-- How many whole slots fit, after the first. -/
def slotsOf (cfg : SendStaggerConfig) : ℕ :=
  (cfg.maxSpreadNs.toInt / cfg.slotWidthNs.toInt).toNat

section Slots

variable {cfg : SendStaggerConfig}

theorem slotsOf_eq (hactive : Active cfg) :
    (slotsOf cfg : ℤ) = cfg.maxSpreadNs.toInt / cfg.slotWidthNs.toInt :=
  Int.toNat_of_nonneg (Int.ediv_nonneg hactive.spread.le hactive.width.le)

theorem quotient_toInt (hactive : Active cfg) :
    (cfg.maxSpreadNs / cfg.slotWidthNs).toInt = slotsOf cfg := by
  have hwidth : cfg.slotWidthNs ≠ -1 := by
    intro h
    have hpos := hactive.width
    rw [h] at hpos
    exact absurd hpos (by decide)
  rw [slotsOf_eq hactive, Int64.toInt_div_of_ne_right _ _ hwidth,
    Int.tdiv_eq_ediv_of_nonneg hactive.spread.le]

theorem slotCount_toNat (hactive : Active cfg) :
    (slotCount cfg).toNat = (slotsOf cfg % 2 ^ 32 + 1) % 2 ^ 32 := by
  have hquotient := quotient_toInt hactive
  have hslots : (cfg.maxSpreadNs / cfg.slotWidthNs).toUInt64.toNat = slotsOf cfg := by
    have hnat := MachineInt.toNat_toUInt64 (a := cfg.maxSpreadNs / cfg.slotWidthNs) (by omega)
    omega
  rw [slotCount, UInt32.toNat_add, UInt64.toNat_toUInt32, hslots]
  rfl

/-- The count of slots is zero for the widest 32-bit number of them. -/
theorem slotCount_eq_zero_iff (hactive : Active cfg) :
    slotCount cfg = 0 ↔ slotsOf cfg % 2 ^ 32 = 2 ^ 32 - 1 := by
  rw [← UInt32.toNat_inj, slotCount_toNat hactive]
  change _ = 0 ↔ _
  omega

theorem slotCount_le (hactive : Active cfg) : (slotCount cfg).toNat ≤ slotsOf cfg + 1 := by
  rw [slotCount_toNat hactive]
  omega

/-- As many slots as fit are no wider than the spread. -/
theorem mul_width_le (hactive : Active cfg) {slot : ℕ} (hslot : slot ≤ slotsOf cfg) :
    slot * cfg.slotWidthNs.toInt ≤ cfg.maxSpreadNs.toInt := by
  have hle : (slot : ℤ) ≤ cfg.maxSpreadNs.toInt / cfg.slotWidthNs.toInt := by
    rw [← slotsOf_eq hactive]
    exact Int.ofNat_le.mpr hslot
  exact (Int.le_ediv_iff_mul_le hactive.width).mp hle

theorem offset_toInt (hactive : Active cfg) {slot : UInt32} (hslot : slot.toNat ≤ slotsOf cfg) :
    (slot.toUInt64.toInt64 * cfg.slotWidthNs).toInt = slot.toNat * cfg.slotWidthNs.toInt := by
  have hword : slot.toUInt64.toInt64.toInt = slot.toNat := by
    have hlt := slot.toNat_lt
    rw [MachineInt.toInt_toInt64 (by rw [UInt32.toNat_toUInt64]; omega), UInt32.toNat_toUInt64]
  have hle := mul_width_le hactive hslot
  have hlimit := cfg.maxSpreadNs.toInt_lt
  have hnonneg : 0 ≤ slot.toNat * cfg.slotWidthNs.toInt :=
    mul_nonneg (Int.natCast_nonneg _) hactive.width.le
  rw [Int64.toInt_mul, hword]
  apply Int.bmod_eq_of_le <;> omega

end Slots

/-! ## The decision -/

/-- A slot that fits, and its start, which is within the spread. -/
structure InSpread (cfg : SendStaggerConfig) (decision : SendStaggerDecision) : Prop where
  enabled : decision.enabled = true
  slot : (decision.slotIndex.toNat : ℤ) ≤ cfg.maxSpreadNs.toInt / cfg.slotWidthNs.toInt
  offset : decision.offsetNs.toInt = decision.slotIndex.toNat * cfg.slotWidthNs.toInt
  nonneg : 0 ≤ decision.offsetNs
  spread : decision.offsetNs ≤ cfg.maxSpreadNs

section Decide

variable {hash : Str → UInt64} {cfg : SendStaggerConfig} {sessionId channel senderId : Str}
  {cycleId : UInt64}

theorem Active.not_disabled (hactive : Active cfg) :
    ¬(cfg.enabled = false ∨ cfg.maxSpreadNs ≤ 0 ∨ cfg.slotWidthNs ≤ 0) := by
  rw [not_or, not_or, Int64.not_le, Int64.not_le, Int64.lt_iff_toInt_lt, Int64.lt_iff_toInt_lt]
  exact ⟨Bool.not_eq_false _ ▸ hactive.enabled, hactive.spread, hactive.width⟩

theorem slotIndex_le (hactive : Active cfg) (hcount : slotCount cfg ≠ 0) (word : UInt64) :
    (word % (slotCount cfg).toUInt64).toUInt32.toNat ≤ slotsOf cfg := by
  have hle := slotCount_le hactive
  have hpos : 0 < (slotCount cfg).toNat := by
    rw [← UInt32.toNat_inj.ne] at hcount
    exact Nat.pos_of_ne_zero hcount
  have hmod := Nat.mod_lt word.toNat hpos
  rw [UInt64.toNat_toUInt32, UInt64.toNat_mod, UInt32.toNat_toUInt64]
  exact (Nat.mod_le _ _).trans (by omega)

theorem inSpread_of_decide (hactive : Active cfg) {decision : SendStaggerDecision}
    (h : decide hash cfg sessionId channel senderId cycleId = some decision) :
    InSpread cfg decision := by
  rw [decide, if_neg hactive.not_disabled] at h
  split_ifs at h with hcount
  obtain rfl := Option.some.inj h
  have hslot := slotIndex_le hactive hcount (hash (staggerKey sessionId channel senderId cycleId))
  have hoffset := offset_toInt hactive hslot
  have hwidth := mul_width_le hactive hslot
  -- The offset is within the spread, so the last comparison never cuts it.
  have hnot : ¬cfg.maxSpreadNs <
      (hash (staggerKey sessionId channel senderId cycleId) %
        (slotCount cfg).toUInt64).toUInt32.toUInt64.toInt64 * cfg.slotWidthNs := by
    rw [Int64.not_lt, Int64.le_iff_toInt_le, hoffset]
    exact hwidth
  rw [if_neg hnot]
  refine ⟨rfl, ?_, hoffset, ?_, Int64.not_lt.mp hnot⟩
  · rw [← slotsOf_eq hactive]
    exact Int.ofNat_le.mpr hslot
  · rw [Int64.le_iff_toInt_le, hoffset]
    exact mul_nonneg (Int.natCast_nonneg _) hactive.width.le

theorem exists_inSpread_iff (hactive : Active cfg) :
    (∃ decision, decide hash cfg sessionId channel senderId cycleId = some decision ∧
      InSpread cfg decision) ↔ slotsOf cfg % 2 ^ 32 ≠ 2 ^ 32 - 1 := by
  rw [← (slotCount_eq_zero_iff hactive).ne]
  constructor
  · rintro ⟨decision, h, -⟩ hzero
    rw [decide, if_neg hactive.not_disabled, if_pos hzero] at h
    cases h
  · intro hcount
    have hsome : decide hash cfg sessionId channel senderId cycleId = _ :=
      (if_neg hactive.not_disabled).trans (if_neg hcount)
    exact ⟨_, hsome, inSpread_of_decide hactive hsome⟩

end Decide

/-- With any hash, every sender gets a slot in the spread unless the number of
slots leaves no rest but the greatest in 32 bits, and two slots never start at
the same time. -/
theorem staysInSpread_iff (hash : Str → UInt64) (cfg : SendStaggerConfig)
    (henabled : cfg.enabled = true) (hspread : 0 < cfg.maxSpreadNs) (hwidth : 0 < cfg.slotWidthNs) :
    (∀ sessionId channel senderId cycleId,
      (∃ decision, decide hash cfg sessionId channel senderId cycleId = some decision ∧
        InSpread cfg decision) ↔
      (cfg.maxSpreadNs.toInt / cfg.slotWidthNs.toInt) % 2 ^ 32 ≠ 2 ^ 32 - 1) ∧
    ∀ sessionId channel senderId cycleId sessionId' channel' senderId' cycleId' decision decision',
      decide hash cfg sessionId channel senderId cycleId = some decision →
      decide hash cfg sessionId' channel' senderId' cycleId' = some decision' →
      decision.slotIndex ≠ decision'.slotIndex → decision.offsetNs ≠ decision'.offsetNs := by
  have hactive : Active cfg :=
    ⟨henabled, Int64.lt_iff_toInt_lt.mp hspread, Int64.lt_iff_toInt_lt.mp hwidth⟩
  refine ⟨fun sessionId channel senderId cycleId ↦ ?_, ?_⟩
  · rw [exists_inSpread_iff hactive, ← slotsOf_eq hactive]
    omega
  · intro sessionId channel senderId cycleId sessionId' channel' senderId' cycleId' decision
      decision' h h' hne heq
    have hoffset := (inSpread_of_decide hactive h).offset
    rw [heq, (inSpread_of_decide hactive h').offset,
      mul_left_inj' hactive.width.ne'] at hoffset
    exact hne (UInt32.toNat_inj.mp (Int.ofNat_inj.mp hoffset.symm))

/-- Ten slots of half a millisecond. -/
def halfMillisecond : SendStaggerConfig := { enabled := true, maxSpreadNs := 5000000 }

theorem halfMillisecond_staggers :
    ∃ decision, decide (fun key ↦ key.length.toUInt64) halfMillisecond (text "s") (text "solution")
      (text "uav2") 7 = some decision ∧ InSpread halfMillisecond decision :=
  ((staysInSpread_iff (fun key ↦ key.length.toUInt64) halfMillisecond rfl (by decide)
    (by decide)).1 _ _ _ _).mpr (by decide)

/-- A spread of some seconds in slots of a nanosecond. -/
def finestSlots : SendStaggerConfig :=
  { enabled := true, maxSpreadNs := 4294967295, slotWidthNs := 1 }

theorem finestSlots_undefined :
    0 < finestSlots.maxSpreadNs ∧ 0 < finestSlots.slotWidthNs ∧ slotCount finestSlots = 0 ∧
      decide (fun _ ↦ 0) finestSlots (text "s") (text "solution") (text "uav2") 7 = none ∧
      ¬∃ decision, decide (fun _ ↦ 0) finestSlots (text "s") (text "solution") (text "uav2") 7 =
        some decision ∧ InSpread finestSlots decision := by
  have hnone : decide (fun _ ↦ 0) finestSlots (text "s") (text "solution") (text "uav2") 7 =
      none := by
    decide +kernel
  refine ⟨by decide, by decide, by decide +kernel, hnone, ?_⟩
  rintro ⟨decision, hsome, -⟩
  rw [hnone] at hsome
  cases hsome

end DeterministicSendStagger

end RuntimeSync.Weaknet
