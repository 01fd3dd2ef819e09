import RuntimeSync.Library.LittleEndian

/-!
# Checksum registers

A register of `w` bits that is shifted to the right, and to which a polynomial
is added whenever a one falls out.  The shift is linear, and it is injective if
the polynomial has its highest bit set, so that two inputs of one length that
differ only within `w` bits leave different registers.
-/

namespace RuntimeSync.CrcRegister

variable {w : ℕ} (p : BitVec w)

def shift (c : BitVec w) : BitVec w := (c >>> 1) ^^^ (if c.getLsbD 0 then p else 0#w)

/-- Eight shifts take in one byte, least significant bit first. -/
def feed (c : BitVec w) (b : UInt8) : BitVec w := (shift p)^[8] (c ^^^ b.toBitVec.setWidth w)

/-- The bytes as they lie in a register, the first one lowest. -/
def word (w : ℕ) (bs : List UInt8) : BitVec w := BitVec.ofNat w (LittleEndian.value bs)

/-! ## Shifting -/

theorem getLsbD_shift (c : BitVec w) (i : ℕ) :
    (shift p c).getLsbD i = (c.getLsbD (i + 1) ^^ (c.getLsbD 0 && p.getLsbD i)) := by
  rw [shift, BitVec.getLsbD_xor, BitVec.getLsbD_ushiftRight, Nat.add_comm]
  cases c.getLsbD 0 with
  | false => simp
  | true => simp

theorem shift_xor (c d : BitVec w) : shift p (c ^^^ d) = shift p c ^^^ shift p d := by
  apply BitVec.eq_of_getLsbD_eq
  intro i _
  simp only [getLsbD_shift, BitVec.getLsbD_xor]
  cases c.getLsbD (i + 1) <;> cases d.getLsbD (i + 1) <;> cases c.getLsbD 0 <;>
    cases d.getLsbD 0 <;> cases p.getLsbD i <;> rfl

variable {p} in
theorem shift_injective (hp : p.msb = true) : Function.Injective (shift p) := by
  intro c d h
  have hbit (i : ℕ) := congrArg (fun x : BitVec w ↦ x.getLsbD i) h
  simp only [getLsbD_shift] at hbit
  -- the highest bit of the result is the bit that fell out
  have hlow : c.getLsbD 0 = d.getLsbD 0 := by
    have hhigh := hbit (w - 1)
    have hw : 0 < w := by
      by_contra hzero
      obtain rfl : w = 0 := by omega
      rw [BitVec.eq_nil p] at hp
      exact absurd hp (by decide)
    rw [BitVec.msb_eq_getLsbD_last] at hp
    rw [hp, Nat.sub_add_cancel hw, BitVec.getLsbD_of_ge c w (Nat.le_refl w),
      BitVec.getLsbD_of_ge d w (Nat.le_refl w)] at hhigh
    simpa using hhigh
  apply BitVec.eq_of_getLsbD_eq
  intro i _
  cases i with
  | zero => exact hlow
  | succ i =>
      have hnext := hbit i
      rw [hlow] at hnext
      simpa using hnext

theorem iterate_shift_xor (n : ℕ) (c d : BitVec w) :
    (shift p)^[n] (c ^^^ d) = (shift p)^[n] c ^^^ (shift p)^[n] d := by
  induction n generalizing c d with
  | zero => rfl
  | succ n ih => rw [Function.iterate_succ_apply, shift_xor, ih]; rfl

theorem shift_shiftLeft_one {x : BitVec w} (h : x.getLsbD (w - 1) = false) :
    shift p (x <<< 1) = x := by
  apply BitVec.eq_of_getLsbD_eq
  intro i hi
  rw [getLsbD_shift]
  by_cases hlast : i + 1 < w
  · simp [hlast, BitVec.getLsbD_eq_getElem hi]
  · obtain rfl : i = w - 1 := by omega
    simp [h, hlast]

/-- What is shifted in above the register comes down unchanged. -/
theorem iterate_shift_shiftLeft {x : BitVec w} {n : ℕ}
    (h : ∀ i, w ≤ i + n → x.getLsbD i = false) : (shift p)^[n] (x <<< n) = x := by
  induction n generalizing x with
  | zero => rw [BitVec.shiftLeft_zero]; rfl
  | succ n ih =>
      rw [BitVec.shiftLeft_add, Function.iterate_succ_apply, shift_shiftLeft_one]
      · exact ih fun i hi ↦ h i (by omega)
      · rw [BitVec.getLsbD_shiftLeft, h (w - 1 - n) (by omega)]
        simp

/-! ## Feeding bytes -/

theorem value_lt (bs : List UInt8) : LittleEndian.value bs < 2 ^ (8 * bs.length) := by
  induction bs with
  | nil => exact Nat.one_pos
  | cons b bs ih =>
      have hb := b.toNat_lt
      rw [LittleEndian.value, List.length_cons, Nat.mul_succ, pow_add]
      omega

theorem getLsbD_word_of_le {bs : List UInt8} {i : ℕ} (h : 8 * bs.length ≤ i) :
    (word w bs).getLsbD i = false := by
  have hlt : LittleEndian.value bs < 2 ^ i :=
    Nat.lt_of_lt_of_le (value_lt bs) (Nat.pow_le_pow_right Nat.two_pos h)
  rw [word, BitVec.getLsbD_ofNat, Nat.testBit_lt_two_pow hlt, Bool.and_false]

theorem word_cons (b : UInt8) (bs : List UInt8) :
    word w (b :: bs) = b.toBitVec.setWidth w ^^^ (word w bs <<< 8) := by
  apply BitVec.eq_of_getLsbD_eq
  intro i hi
  have hlow : b.toBitVec.getLsbD i = b.toNat.testBit i := rfl
  rw [word, BitVec.getLsbD_ofNat, LittleEndian.value_cons, Nat.testBit_or, Nat.testBit_shiftLeft,
    BitVec.getLsbD_xor, BitVec.getLsbD_setWidth, BitVec.getLsbD_shiftLeft, word,
    BitVec.getLsbD_ofNat, hlow]
  by_cases hbyte : i < 8
  · simp [hi, hbyte]
  · have hb : b.toNat.testBit i = false :=
      Nat.testBit_lt_two_pow (Nat.lt_of_lt_of_le b.toNat_lt
        (Nat.pow_le_pow_right Nat.two_pos (Nat.le_of_not_lt hbyte)))
    have hshifted : i - 8 < w := by omega
    simp [hi, hbyte, hb, hshifted, Nat.le_of_not_lt hbyte]

/-- Bytes that fit the register at once come down to a single word. -/
theorem foldl_feed {bs : List UInt8} (h : 8 * bs.length ≤ w) (c : BitVec w) :
    bs.foldl (feed p) c = (shift p)^[8 * bs.length] (c ^^^ word w bs) := by
  induction bs generalizing c with
  | nil => simp [word, LittleEndian.value]
  | cons b bs ih =>
      rw [List.length_cons, Nat.mul_succ] at h ⊢
      have hword : (shift p)^[8] (word w bs <<< 8) = word w bs :=
        iterate_shift_shiftLeft p fun i hi ↦ getLsbD_word_of_le (by omega)
      calc (b :: bs).foldl (feed p) c
          = (shift p)^[8 * bs.length] (feed p c b ^^^ word w bs) := ih (by omega) _
        _ = (shift p)^[8 * bs.length] ((shift p)^[8]
              (c ^^^ b.toBitVec.setWidth w ^^^ word w bs <<< 8)) := by
            rw [iterate_shift_xor p 8, hword, feed]
        _ = _ := by rw [← Function.iterate_add_apply, word_cons, BitVec.xor_assoc]

/-! ## Bursts -/

theorem word_injective {bs bs' : List UInt8} (hlength : bs.length = bs'.length)
    (hfits : 8 * bs.length ≤ w) (h : word w bs = word w bs') : bs = bs' := by
  have hpow := Nat.pow_le_pow_right Nat.two_pos hfits
  have hvalue := congrArg BitVec.toNat h
  rw [word, word, BitVec.toNat_ofNat, BitVec.toNat_ofNat,
    Nat.mod_eq_of_lt (Nat.lt_of_lt_of_le (value_lt bs) hpow),
    Nat.mod_eq_of_lt (Nat.lt_of_lt_of_le (value_lt bs') (hlength ▸ hpow))] at hvalue
  rw [← LittleEndian.bytes_value bs, ← LittleEndian.bytes_value bs', hvalue, hlength]

variable {p} in
theorem feed_injective (hp : p.msb = true) (b : UInt8) : Function.Injective (feed p · b) := by
  intro c d h
  exact (BitVec.xor_left_inj _).mp ((shift_injective hp).iterate 8 h)

variable {p} in
theorem foldl_feed_injective (hp : p.msb = true) (bs : List UInt8) :
    Function.Injective (bs.foldl (feed p)) := by
  induction bs with
  | nil => exact fun _ _ h ↦ h
  | cons b bs ih => exact fun _ _ h ↦ feed_injective hp b (ih h)

variable {p} in
/-- Inputs that differ within a burst no longer than the register are told
apart, whatever comes before the burst and after it. -/
theorem foldl_feed_ne_of_burst (hp : p.msb = true) (c : BitVec w)
    (before after : List UInt8) {burst burst' : List UInt8}
    (hlength : burst.length = burst'.length) (hfits : 8 * burst.length ≤ w)
    (hne : burst ≠ burst') :
    (before ++ burst ++ after).foldl (feed p) c ≠
      (before ++ burst' ++ after).foldl (feed p) c := by
  intro h
  simp only [List.foldl_append] at h
  have hburst := foldl_feed_injective hp after h
  have hfits' : 8 * burst'.length ≤ w := hlength ▸ hfits
  rw [foldl_feed p hfits (before.foldl (feed p) c),
    foldl_feed p hfits' (before.foldl (feed p) c), hlength] at hburst
  have hword := (shift_injective hp).iterate (8 * burst'.length) hburst
  exact hne (word_injective hlength hfits ((BitVec.xor_right_inj _).mp hword))

end RuntimeSync.CrcRegister
