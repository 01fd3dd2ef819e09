import Mathlib.Data.UInt
import Mathlib.Order.Basic

/-!
# Machine integers that do not wrap

The operations on 64-bit words agree with those on integers as long as the
result fits.
-/

namespace RuntimeSync.MachineInt

theorem toInt_add_of_fits {a b : Int64} (hlow : -2 ^ 63 ≤ a.toInt + b.toInt)
    (hhigh : a.toInt + b.toInt < 2 ^ 63) : (a + b).toInt = a.toInt + b.toInt := by
  rw [Int64.toInt_add]
  apply Int.bmod_eq_of_le <;> omega

theorem toInt_sub_of_fits {a b : Int64} (hlow : -2 ^ 63 ≤ a.toInt - b.toInt)
    (hhigh : a.toInt - b.toInt < 2 ^ 63) : (a - b).toInt = a.toInt - b.toInt := by
  rw [Int64.toInt_sub]
  apply Int.bmod_eq_of_le <;> omega

theorem toNat_add_of_fits {a b : UInt64} (h : a.toNat + b.toNat < 2 ^ 64) :
    (a + b).toNat = a.toNat + b.toNat := by
  rw [UInt64.toNat_add, Nat.mod_eq_of_lt h]

theorem toNat_mul_of_fits {a b : UInt64} (h : a.toNat * b.toNat < 2 ^ 64) :
    (a * b).toNat = a.toNat * b.toNat := by
  rw [UInt64.toNat_mul, Nat.mod_eq_of_lt h]

theorem toNat_toUInt64 {a : Int64} (h : 0 ≤ a.toInt) : (a.toUInt64.toNat : ℤ) = a.toInt := by
  rw [Int64.toNat_toUInt64_of_le (Int64.le_iff_toInt_le.mpr h), Int64.toNatClampNeg,
    Int.toNat_of_nonneg h]

theorem toInt_toInt64 {a : UInt64} (h : a.toNat < 2 ^ 63) : a.toInt64.toInt = a.toNat := by
  change a.toBitVec.toInt = _
  rw [BitVec.toInt_eq_toNat_of_lt]
  · rfl
  · change 2 * a.toNat < 2 ^ 64
    omega

/-! ## Checked operations

What overflows has no value: the language leaves it undefined. -/

def Fits (n : ℤ) : Prop := -2 ^ 63 ≤ n ∧ n < 2 ^ 63

instance (n : ℤ) : Decidable (Fits n) := inferInstanceAs (Decidable (_ ∧ _))

def addChecked (a b : Int64) : Option Int64 :=
  if Fits (a.toInt + b.toInt) then some (a + b) else none

def subChecked (a b : Int64) : Option Int64 :=
  if Fits (a.toInt - b.toInt) then some (a - b) else none

/-- Sizes are unsigned, and wrapping would be silent. -/
def addSizes (a b : UInt64) : Option UInt64 :=
  if a.toNat + b.toNat < 2 ^ 64 then some (a + b) else none

def subSizes (a b : UInt64) : Option UInt64 := if b ≤ a then some (a - b) else none

/-- A size as a signed difference. -/
def toDifference (a : UInt64) : Option Int64 :=
  if a.toNat < 2 ^ 63 then some a.toInt64 else none

theorem fits_toInt (a : Int64) : Fits a.toInt := ⟨a.le_toInt, a.toInt_lt⟩

end RuntimeSync.MachineInt
