import Mathlib.Algebra.BigOperators.Group.Finset.Piecewise
import Mathlib.Data.UInt

/-!
# Tallies

A loop sorts the entries of a list into classes and keeps a 32-bit counter for
each class.  The classes share out the list, so the counters add up to its
length as long as none of them wraps.
-/

namespace RuntimeSync

variable {α γ σ : Type*} [DecidableEq γ] {classOf : α → γ}

/-- How many entries of a list belong to a class. -/
def tally (classOf : α → γ) (l : List α) (c : γ) : ℕ := l.countP fun a ↦ classOf a = c

theorem tally_cons (a : α) (l : List α) (c : γ) :
    tally classOf (a :: l) c = tally classOf l c + if classOf a = c then 1 else 0 := by
  rw [tally, tally, List.countP_cons]
  simp only [decide_eq_true_eq]

theorem tally_le_length (l : List α) (c : γ) : tally classOf l c ≤ l.length :=
  List.countP_le_length

theorem tally_map {β : Type*} (f : β → α) (l : List β) (c : γ) :
    tally classOf (l.map f) c = tally (classOf ∘ f) l c := by
  rw [tally, List.countP_map]
  rfl

/-- A class without entries. -/
theorem tally_eq_zero_iff {l : List α} {c : γ} :
    tally classOf l c = 0 ↔ ∀ a ∈ l, classOf a ≠ c := by
  rw [tally, List.countP_eq_zero]
  simp only [decide_eq_true_eq, ne_eq]

/-- Each entry belongs to one class. -/
theorem sum_tally [Fintype γ] (classOf : α → γ) (l : List α) :
    ∑ c, tally classOf l c = l.length := by
  induction l with
  | nil => exact Finset.sum_const_zero
  | cons a l ih =>
      simp only [tally_cons, Finset.sum_add_distrib, ih, Finset.sum_ite_eq, Finset.mem_univ,
        if_true, List.length_cons]

/-! ## Counters -/

section Counters

variable {read : σ → γ → UInt32} {step : σ → α → σ}
  (hstep : ∀ s a c, read (step s a) c = if classOf a = c then read s c + 1 else read s c)

include hstep

/-- A counter holds the size of its class, up to the size of a word. -/
theorem toNat_read_foldl (l : List α) (s : σ) (c : γ) :
    (read (l.foldl step s) c).toNat = ((read s c).toNat + tally classOf l c) % 2 ^ 32 := by
  induction l generalizing s with
  | nil => exact (Nat.mod_eq_of_lt (read s c).toNat_lt).symm
  | cons a l ih =>
      rw [List.foldl_cons, ih, hstep, tally_cons]
      split
      · rw [UInt32.toNat_add, UInt32.toNat_one]
        omega
      · rfl

end Counters

end RuntimeSync
