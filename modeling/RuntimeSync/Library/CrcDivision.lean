import Mathlib.Algebra.Field.ZMod
import Mathlib.RingTheory.AdjoinRoot
import RuntimeSync.Library.CrcRegister

/-!
# Registers that divide

The bits of a word are the coefficients of a polynomial over the field with two
elements.  A register that is shifted to the right holds its polynomial
reflected, with the highest power in bit zero, and feeding it a message leaves
the remainder of a division.
-/

namespace RuntimeSync.CrcRegister

open Polynomial

variable {w : ℕ}

/-! ## Words as polynomials -/

/-- Bit `i` is the coefficient of the power `i`. -/
noncomputable def ofWord (c : BitVec w) : (ZMod 2)[X] :=
  ∑ i ∈ Finset.range w with c.getLsbD i, X ^ i

/-- The coefficients below the power `w`. -/
noncomputable def toWord (w : ℕ) (f : (ZMod 2)[X]) : BitVec w :=
  (BitVec.ofBoolListLE ((List.range w).map fun i ↦ decide (f.coeff i = 1))).setWidth w

theorem coeff_ofWord (c : BitVec w) (i : ℕ) :
    (ofWord c).coeff i = if c.getLsbD i then 1 else 0 := by
  simp only [ofWord, finsetSum_coeff, coeff_X_pow, Finset.sum_ite_eq, Finset.mem_filter,
    Finset.mem_range]
  congr 1
  exact propext (and_iff_right_of_imp BitVec.lt_of_getLsbD)

theorem coeff_ofWord_reverse (c : BitVec w) (i : ℕ) :
    (ofWord c.reverse).coeff i = if c.getMsbD i then 1 else 0 := by
  rw [coeff_ofWord, BitVec.getLsbD_reverse]

theorem ofWord_reverse_zero : ofWord (0#w).reverse = 0 := by
  ext i
  simp [coeff_ofWord_reverse]

theorem getLsbD_toWord (f : (ZMod 2)[X]) {i : ℕ} (hi : i < w) :
    (toWord w f).getLsbD i = decide (f.coeff i = 1) := by
  rw [toWord, BitVec.getLsbD_setWidth, BitVec.getLsbD_ofBoolListLE]
  simp [hi]

theorem toWord_ofWord (c : BitVec w) : toWord w (ofWord c) = c := by
  apply BitVec.eq_of_getLsbD_eq
  intro i hi
  rw [getLsbD_toWord _ hi, coeff_ofWord]
  cases c.getLsbD i <;> decide

theorem ofWord_xor (c d : BitVec w) : ofWord (c ^^^ d) = ofWord c + ofWord d := by
  ext i
  rw [coeff_add, coeff_ofWord, coeff_ofWord, coeff_ofWord, BitVec.getLsbD_xor]
  cases c.getLsbD i <;> cases d.getLsbD i <;> decide

theorem ofWord_reverse_xor (c d : BitVec w) :
    ofWord (c ^^^ d).reverse = ofWord c.reverse + ofWord d.reverse := by
  rw [← ofWord_xor]
  congr 1
  apply BitVec.eq_of_getLsbD_eq
  intro i _
  simp only [BitVec.getLsbD_reverse, BitVec.getLsbD_xor, BitVec.getMsbD_xor]

theorem degree_ofWord_lt (c : BitVec w) : (ofWord c).degree < w := by
  rw [degree_lt_iff_coeff_zero]
  intro i hi
  rw [coeff_ofWord, BitVec.getLsbD_of_ge c i hi, if_neg Bool.false_ne_true]

/-! ## The remainder -/

/-- The divisor with a leading power `w` and the coefficients of the word below it. -/
noncomputable def divisor (g : BitVec w) : (ZMod 2)[X] := X ^ w + ofWord g

/-- The message, each byte reflected: what is sent first has the highest power. -/
noncomputable def message (bs : List UInt8) : (ZMod 2)[X] :=
  bs.foldl (fun m b ↦ m * X ^ 8 + ofWord b.toBitVec.reverse) 0

theorem message_concat (bs : List UInt8) (b : UInt8) :
    message (bs ++ [b]) = message bs * X ^ 8 + ofWord b.toBitVec.reverse := List.foldl_concat ..

theorem monic_divisor (g : BitVec w) : (divisor g).Monic := monic_X_pow_add (degree_ofWord_lt g)

theorem degree_divisor (g : BitVec w) : (divisor g).degree = w := by
  rw [divisor, degree_add_eq_left_of_degree_lt, degree_X_pow]
  rw [degree_X_pow]
  exact degree_ofWord_lt g

section Steps

variable (g c : BitVec w)

/-- The bit that falls out is the coefficient that reaches the power `w`. -/
theorem X_mul_ofWord_reverse :
    X * ofWord c.reverse = ofWord (c >>> 1).reverse + if c.getLsbD 0 then X ^ w else 0 := by
  ext i
  rw [coeff_add, coeff_ofWord_reverse, BitVec.getMsbD_ushiftRight,
    apply_ite (fun f : (ZMod 2)[X] ↦ f.coeff i), coeff_X_pow, coeff_zero]
  cases i with
  | zero =>
      rw [coeff_X_mul_zero]
      cases hlow : c.getLsbD 0 with
      | false => simp
      | true => simp [(BitVec.lt_of_getLsbD hlow).ne]
  | succ i =>
      rw [coeff_X_mul, coeff_ofWord_reverse, Nat.add_sub_cancel]
      rcases lt_trichotomy (i + 1) w with hi | rfl | hi
      · simp [hi, hi.ne]
      · rw [BitVec.getMsbD_eq_getLsbD]
        simp
      · rw [BitVec.getMsbD_of_ge c i (by omega)]
        simp [hi.ne']

theorem ofWord_shift :
    ofWord (shift g.reverse c).reverse =
      X * ofWord c.reverse + if c.getLsbD 0 then divisor g else 0 := by
  rw [shift, ofWord_reverse_xor, X_mul_ofWord_reverse, add_assoc]
  congr 1
  cases c.getLsbD 0 with
  | false =>
      rw [if_neg Bool.false_ne_true, if_neg Bool.false_ne_true, if_neg Bool.false_ne_true,
        ofWord_reverse_zero, add_zero]
  | true =>
      rw [if_pos rfl, if_pos rfl, if_pos rfl, BitVec.reverse_reverse_eq, divisor, ← add_assoc,
        CharTwo.add_self_eq_zero, zero_add]

/-- In the ring of remainders a shift is a multiplication by `X`. -/
theorem mk_shift :
    AdjoinRoot.mk (divisor g) (ofWord (shift g.reverse c).reverse) =
      AdjoinRoot.mk (divisor g) (X * ofWord c.reverse) := by
  rw [ofWord_shift, map_add]
  split
  · rw [AdjoinRoot.mk_self, add_zero]
  · rw [map_zero, add_zero]

theorem mk_iterate_shift (n : ℕ) :
    AdjoinRoot.mk (divisor g) (ofWord ((shift g.reverse)^[n] c).reverse) =
      AdjoinRoot.mk (divisor g) (X ^ n * ofWord c.reverse) := by
  induction n with
  | zero => rw [pow_zero, one_mul]; rfl
  | succ n ih =>
      rw [Function.iterate_succ_apply', mk_shift, map_mul, ih, ← map_mul, ← mul_assoc, pow_succ']

/-- A byte lies in the lowest bits of the register, which are its highest powers. -/
theorem X_pow_mul_ofWord_setWidth (hw : 8 ≤ w) (b : BitVec 8) :
    X ^ 8 * ofWord (b.setWidth w).reverse = X ^ w * ofWord b.reverse := by
  ext i
  rw [coeff_X_pow_mul', coeff_X_pow_mul', coeff_ofWord_reverse, coeff_ofWord_reverse,
    BitVec.getMsbD_eq_getLsbD, BitVec.getMsbD_eq_getLsbD, BitVec.getLsbD_setWidth]
  by_cases hi : w ≤ i
  · rw [if_pos (hw.trans hi), if_pos hi]
    by_cases hbyte : i - w < 8
    · have hindex : w - 1 - (i - 8) = 8 - 1 - (i - w) := by omega
      have hword : i - 8 < w := by omega
      have hlow : 8 - 1 - (i - w) < w := by omega
      simp [hindex, hword, hlow, hbyte]
    · have hword : ¬i - 8 < w := by omega
      simp [hword, hbyte]
  · rw [if_neg hi]
    split
    · have hhigh : b.getLsbD (w - 1 - (i - 8)) = false := BitVec.getLsbD_of_ge _ _ (by omega)
      simp [hhigh]
    · rfl

theorem mk_feed (hw : 8 ≤ w) (b : UInt8) :
    AdjoinRoot.mk (divisor g) (ofWord (feed g.reverse c b).reverse) =
      AdjoinRoot.mk (divisor g)
        (X ^ 8 * ofWord c.reverse + X ^ w * ofWord b.toBitVec.reverse) := by
  rw [feed, mk_iterate_shift, ofWord_reverse_xor, mul_add,
    X_pow_mul_ofWord_setWidth hw]

theorem mk_foldl_feed (hw : 8 ≤ w) (bs : List UInt8) :
    AdjoinRoot.mk (divisor g) (ofWord (bs.foldl (feed g.reverse) c).reverse) =
      AdjoinRoot.mk (divisor g)
        (ofWord c.reverse * X ^ (8 * bs.length) + message bs * X ^ w) := by
  induction bs using List.reverseRecOn with
  | nil => simp [message]
  | append_singleton bs b ih =>
      have hnext : X ^ 8 * (ofWord c.reverse * X ^ (8 * bs.length) + message bs * X ^ w) +
          X ^ w * ofWord b.toBitVec.reverse =
            ofWord c.reverse * X ^ (8 * (bs ++ [b]).length) + message (bs ++ [b]) * X ^ w := by
        rw [message_concat, List.length_append, List.length_singleton]
        ring
      rw [List.foldl_concat, mk_feed g _ hw, map_add, map_mul, ih, ← map_mul, ← map_add, hnext]

end Steps

/-- Feeding a message to a register leaves the remainder of the message, with
what the register held put in front of it. -/
theorem foldl_feed_eq_remainder (hw : 8 ≤ w) (g c : BitVec w) (bs : List UInt8) :
    bs.foldl (feed g.reverse) c =
      (toWord w ((ofWord c.reverse * X ^ (8 * bs.length) + message bs * X ^ w) %ₘ
        divisor g)).reverse := by
  have hdvd := AdjoinRoot.mk_eq_mk.mp (mk_foldl_feed g c hw bs)
  have hself : ofWord (bs.foldl (feed g.reverse) c).reverse %ₘ divisor g =
      ofWord (bs.foldl (feed g.reverse) c).reverse := by
    rw [modByMonic_eq_self_iff (monic_divisor g), degree_divisor]
    exact degree_ofWord_lt _
  rw [← modByMonic_eq_of_dvd_sub (monic_divisor g) hdvd, hself, toWord_ofWord,
    BitVec.reverse_reverse_eq]

end RuntimeSync.CrcRegister
