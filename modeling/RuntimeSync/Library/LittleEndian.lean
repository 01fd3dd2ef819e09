import Mathlib.Data.UInt
import Mathlib.Tactic.Ring

/-!
# Fixed-width little-endian numbers

`bytes n x` is the number `x` on `n` bytes, least significant byte first, and
`value` reads such bytes back.  The two are inverse to each other on numbers
below `256 ^ n` and on byte lists of length `n`.
-/

namespace RuntimeSync.LittleEndian

def bytes : ℕ → ℕ → List UInt8
  | 0, _ => []
  | n + 1, x => UInt8.ofNat x :: bytes n (x / 256)

def value : List UInt8 → ℕ
  | [] => 0
  | b :: bs => b.toNat + 256 * value bs

@[simp] theorem length_bytes (n x : ℕ) : (bytes n x).length = n := by
  induction n generalizing x with
  | zero => rfl
  | succ n ih => simp [bytes, ih]

theorem value_bytes (n x : ℕ) : value (bytes n x) = x % 256 ^ n := by
  induction n generalizing x with
  | zero => simp [bytes, value, Nat.mod_one]
  | succ n ih =>
      rw [bytes, value, ih, pow_succ', Nat.mod_mul]
      simp

theorem value_bytes_of_lt {n x : ℕ} (h : x < 256 ^ n) : value (bytes n x) = x := by
  rw [value_bytes, Nat.mod_eq_of_lt h]

theorem bytes_value (bs : List UInt8) : bytes bs.length (value bs) = bs := by
  induction bs with
  | nil => rfl
  | cons b bs ih =>
      have hb := b.toNat_lt
      have hdiv : (b.toNat + 256 * value bs) / 256 = value bs := by omega
      have hhead : UInt8.ofNat (b.toNat + 256 * value bs) = b := by
        apply UInt8.toNat_inj.mp
        rw [UInt8.toNat_ofNat']
        omega
      rw [List.length_cons, value, bytes, hdiv, ih, hhead]

theorem bytes_mod (n x : ℕ) : bytes n (x % 256 ^ n) = bytes n x := by
  have h := bytes_value (bytes n x)
  rwa [length_bytes, value_bytes] at h

/-- The bytes of a number are the bytes its shifts leave at each position. -/
theorem bytes_eq_map (n x : ℕ) :
    bytes n x = (List.range n).map fun i ↦ UInt8.ofNat (x / 256 ^ i) := by
  induction n generalizing x with
  | zero => rfl
  | succ n ih =>
      rw [bytes, ih, List.range_succ_eq_map, List.map_cons, List.map_map]
      simp [Function.comp_def, Nat.div_div_eq_div_mul, pow_succ']

/-- Putting a byte in front of a number is a disjoint union of bits. -/
theorem value_cons (b : UInt8) (bs : List UInt8) :
    value (b :: bs) = b.toNat ||| value bs <<< 8 := by
  have hb : b.toNat < 2 ^ 8 := b.toNat_lt
  rw [value, Nat.or_comm, ← Nat.shiftLeft_add_eq_or_of_lt hb, Nat.shiftLeft_eq]
  ring

end RuntimeSync.LittleEndian
