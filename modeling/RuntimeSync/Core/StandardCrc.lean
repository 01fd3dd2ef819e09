import RuntimeSync.Core.PayloadCrc
import RuntimeSync.Library.CrcDivision

/-!
# The standard checksum

CRC-32C is a remainder of polynomials over the field with two elements.  Both
its input and its output are reflected, and so is the polynomial in the code.
-/

namespace RuntimeSync

open Polynomial CrcRegister

/-! ## The definition of the standard -/

/-- The Castagnoli polynomial, `0x1EDC6F41` without its leading power. -/
noncomputable def castagnoli : (ZMod 2)[X] :=
  X ^ 32 + X ^ 28 + X ^ 27 + X ^ 26 + X ^ 25 + X ^ 23 + X ^ 22 + X ^ 20 + X ^ 19 + X ^ 18 +
    X ^ 14 + X ^ 13 + X ^ 11 + X ^ 10 + X ^ 9 + X ^ 8 + X ^ 6 + 1

/-- The message is reflected byte by byte, the register starts with ones and
stands in front of it, and the remainder is reflected and complemented. -/
noncomputable def standardCrc32c (data : List UInt8) : UInt32 :=
  let initial := ofWord 0xFFFFFFFF#32 * X ^ (8 * data.length)
  let remainder := (initial + message data * X ^ 32) %ₘ castagnoli
  UInt32.ofBitVec (~~~(toWord 32 remainder).reverse)

/-! ## The code -/

theorem castagnoli_eq_divisor : castagnoli = divisor 0x1EDC6F41#32 := by
  have hbits : (Finset.range 32).filter (fun i ↦ (0x1EDC6F41#32).getLsbD i) =
      {28, 27, 26, 25, 23, 22, 20, 19, 18, 14, 13, 11, 10, 9, 8, 6, 0} := by decide +kernel
  rw [castagnoli, divisor, ofWord, hbits]
  simp [Finset.sum_insert, add_assoc]

/-- The polynomial of the code is the one of the standard, reflected. -/
theorem crcPolynomial_eq_reverse : crcPolynomial = (0x1EDC6F41#32).reverse := by decide +kernel

theorem crc32c_eq_standard (data : List UInt8) : crc32c data = standardCrc32c data := by
  have hregister : (data.foldl crcByte 0xffffffff).toBitVec =
      (toWord 32 ((ofWord 0xFFFFFFFF#32 * X ^ (8 * data.length) + message data * X ^ 32) %ₘ
        castagnoli)).reverse := by
    have hinitial : (0xffffffff : UInt32).toBitVec.reverse = 0xFFFFFFFF#32 := by decide +kernel
    rw [foldl_crcByte_toBitVec, crcPolynomial_eq_reverse, foldl_feed_eq_remainder (by decide),
      hinitial, castagnoli_eq_divisor]
  apply UInt32.toBitVec_inj.mp
  rw [crc32c, UInt32.toBitVec_not, hregister]
  rfl

end RuntimeSync
