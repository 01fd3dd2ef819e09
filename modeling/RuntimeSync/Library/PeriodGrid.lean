import Mathlib.Algebra.Order.ToIntervalMod
import Mathlib.Data.Int.ConditionallyCompleteOrder
import Mathlib.Data.Int.DivMod
import Mathlib.Data.Rat.Floor

/-!
# Cells of a periodic grid

An epoch and a positive period cut an Archimedean ordered group into
half-open cells.  Each instant lies in exactly one cell, so the number of its
cell depends on nothing but the grid and the instant.
-/

namespace RuntimeSync

structure PeriodGrid (α : Type*) [AddCommGroup α] [LinearOrder α] where
  epoch : α
  period : α
  period_pos : 0 < period

namespace PeriodGrid

variable {α : Type*} [AddCommGroup α] [LinearOrder α] [IsOrderedAddMonoid α]
  (g : PeriodGrid α)

/-- The instant at which cell `n` begins. -/
def start (n : ℤ) : α := g.epoch + n • g.period

theorem start_mono : Monotone g.start := fun _ _ h ↦
  add_le_add_right (zsmul_le_zsmul_left g.period_pos.le h) _

omit [IsOrderedAddMonoid α] in
theorem start_add (m n : ℤ) : g.start (m + n) = g.start m + n • g.period := by
  simp [start, add_zsmul, add_assoc]

section Cell

variable [Archimedean α]

/-- The number of the cell an instant lies in. -/
noncomputable def cell (t : α) : ℤ := toIcoDiv g.period_pos g.epoch t

theorem cell_eq_iff {t : α} {n : ℤ} :
    g.cell t = n ↔ g.start n ≤ t ∧ t < g.start (n + 1) := by
  have hmem : t - n • g.period ∈ Set.Ico g.epoch (g.epoch + g.period) ↔
      g.start n ≤ t ∧ t < g.start (n + 1) := by
    rw [Set.mem_Ico, start_add, start, one_zsmul, le_sub_iff_add_le, sub_lt_iff_lt_add]
    rw [add_right_comm]
  rw [← hmem]
  constructor
  · rintro rfl
    exact sub_toIcoDiv_zsmul_mem_Ico g.period_pos g.epoch t
  · intro h
    exact toIcoDiv_eq_of_sub_zsmul_mem_Ico g.period_pos h

theorem start_cell_le (t : α) : g.start (g.cell t) ≤ t := (g.cell_eq_iff.mp rfl).1

theorem lt_start_cell_succ (t : α) : t < g.start (g.cell t + 1) := (g.cell_eq_iff.mp rfl).2

/-- A later bound on the instant bounds its cell. -/
theorem cell_lt_of_lt_start {t : α} {n : ℤ} (h : t < g.start n) : g.cell t < n := by
  by_contra hn
  exact absurd h (not_lt.mpr ((g.start_mono (not_lt.mp hn)).trans (g.start_cell_le t)))

theorem le_cell_of_start_le {t : α} {n : ℤ} (h : g.start n ≤ t) : n ≤ g.cell t := by
  by_contra hn
  exact absurd (g.lt_start_cell_succ t)
    (not_lt.mpr ((g.start_mono (by omega : g.cell t + 1 ≤ n)).trans h))

theorem cell_nonneg {t : α} (h : g.epoch ≤ t) : 0 ≤ g.cell t :=
  g.le_cell_of_start_le (by simpa [start] using h)

theorem cell_mono : Monotone g.cell := fun _ _ h ↦
  g.le_cell_of_start_le ((g.start_cell_le _).trans h)

/-- Within `n` periods of each other, cells differ by at most `n`. -/
theorem cell_le_add {t u : α} {n : ℤ} (h : u ≤ t + n • g.period) :
    g.cell u ≤ g.cell t + n := by
  have hlt : u < g.start (g.cell t + n + 1) := by
    calc
      u ≤ t + n • g.period := h
      _ < g.start (g.cell t + 1) + n • g.period := by
        simpa using g.lt_start_cell_succ t
      _ = g.start (g.cell t + n + 1) := by
        rw [← start_add, add_right_comm]
  have := g.cell_lt_of_lt_start hlt
  omega

theorem abs_cell_sub_le {t u : α} {n : ℤ} (h : |t - u| ≤ n • g.period) :
    |g.cell t - g.cell u| ≤ n := by
  obtain ⟨hlow, hhigh⟩ := abs_le.mp h
  have htu : g.cell t ≤ g.cell u + n := g.cell_le_add (sub_le_iff_le_add'.mp hhigh)
  have hut : g.cell u ≤ g.cell t + n := g.cell_le_add (by
    rw [neg_le_sub_iff_le_add] at hlow
    exact hlow)
  rw [abs_le]
  constructor <;> omega

/-- How many of the cells from zero on have begun by `t`. -/
noncomputable def begun (t : α) : ℕ := (g.cell t + 1).toNat

theorem begun_mono : Monotone g.begun := fun _ _ h ↦
  Int.toNat_le_toNat (Int.add_le_add_right (g.cell_mono h) 1)

theorem begun_of_lt {t : α} (h : t < g.epoch) : g.begun t = 0 := by
  have hcell : g.cell t < 0 := g.cell_lt_of_lt_start (by simpa [start] using h)
  rw [begun]
  omega

theorem begun_of_le {t : α} (h : g.epoch ≤ t) : (g.begun t : ℤ) = g.cell t + 1 := by
  have hcell := g.cell_nonneg h
  rw [begun]
  omega

/-- Within one period at most one cell begins. -/
theorem begun_le_succ {t u : α} (h : u ≤ t + g.period) : g.begun u ≤ g.begun t + 1 := by
  have hcell : g.cell u ≤ g.cell t + 1 := g.cell_le_add (by simpa using h)
  rw [begun, begun]
  omega

theorem begun_le_one {t : α} (h : t < g.epoch + g.period) : g.begun t ≤ 1 := by
  have hcell : g.cell t < 1 := g.cell_lt_of_lt_start (by simpa [start] using h)
  rw [begun]
  omega

end Cell

/-- Over the integers the cell is a floor division. -/
theorem cell_int (g : PeriodGrid ℤ) (t : ℤ) : g.cell t = (t - g.epoch) / g.period := by
  rw [cell_eq_iff]
  have hpos := g.period_pos
  have hdiv := Int.mul_ediv_add_emod (t - g.epoch) g.period
  have hnonneg := Int.emod_nonneg (t - g.epoch) hpos.ne'
  have hlt := Int.emod_lt_of_pos (t - g.epoch) hpos
  simp only [start, smul_eq_mul, add_mul, one_mul]
  rw [mul_comm] at hdiv
  constructor <;> omega

/-- Instants at most `d` apart lie in cells at most `d` periods apart, rounded up. -/
theorem abs_cell_sub_le_ceil (g : PeriodGrid ℤ) {t u d : ℤ} (h : |t - u| ≤ d) :
    |g.cell t - g.cell u| ≤ ⌈(d : ℚ) / g.period⌉ := by
  apply g.abs_cell_sub_le
  have hpos : (0 : ℚ) < g.period := by exact_mod_cast g.period_pos
  have hceil : (d : ℚ) ≤ ⌈(d : ℚ) / g.period⌉ * g.period :=
    (div_le_iff₀ hpos).mp (Int.le_ceil _)
  exact h.trans (by exact_mod_cast hceil)

end PeriodGrid

end RuntimeSync
