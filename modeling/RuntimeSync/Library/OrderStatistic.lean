import Mathlib.Data.List.GetD
import Mathlib.Data.List.Sort

/-!
# Order statistics

The entry at a rank of a list, its entries taken in ascending order.  It is
within a bound if and only if more entries than its rank are, so whatever is
said about ranks can be said about counts.
-/

namespace RuntimeSync

variable {α : Type*} [LE α] [DecidableLE α] [Std.IsLinearOrder α]

/-! ## Ascending lists -/

/-- Nothing is within a bound if the first entry is not. -/
theorem countP_le_eq_zero {a bound : α} {l : List α} (hsorted : (a :: l).Pairwise (· ≤ ·))
    (ha : ¬a ≤ bound) : (a :: l).countP (· ≤ bound) = 0 := by
  rw [List.countP_eq_zero]
  intro b hb hle
  rcases List.mem_cons.mp hb with rfl | hmem
  · exact ha (of_decide_eq_true hle)
  · exact ha (Std.le_trans ((List.pairwise_cons.mp hsorted).1 b hmem) (of_decide_eq_true hle))

theorem getD_le_iff {l : List α} (hsorted : l.Pairwise (· ≤ ·)) {i : ℕ} (hi : i < l.length)
    (default bound : α) : l.getD i default ≤ bound ↔ i < l.countP (· ≤ bound) := by
  induction l generalizing i with
  | nil => exact absurd hi (Nat.not_lt_zero i)
  | cons a l ih =>
      obtain ⟨hfirst, hrest⟩ := List.pairwise_cons.mp hsorted
      by_cases ha : a ≤ bound
      · rw [List.countP_cons, if_pos (decide_eq_true ha)]
        cases i with
        | zero => exact iff_of_true ha (Nat.succ_pos _)
        | succ i =>
            rw [List.getD_cons_succ, ih hrest (Nat.lt_of_succ_lt_succ hi)]
            exact Nat.succ_lt_succ_iff.symm
      · rw [countP_le_eq_zero hsorted ha]
        refine iff_of_false (fun hle ↦ ha ?_) (Nat.not_lt_zero i)
        cases i with
        | zero => exact hle
        | succ i =>
            have hmem : l.getD i default ∈ l := by
              rw [List.getD_eq_getElem l default (Nat.lt_of_succ_lt_succ hi)]
              exact List.getElem_mem _
            exact Std.le_trans (hfirst _ hmem) hle

/-! ## The entry at a rank -/

/-- Ranks count from zero; past the last one there is only the default. -/
def orderStatistic (l : List α) (rank : ℕ) (default : α) : α :=
  (l.insertionSort (· ≤ ·)).getD rank default

section Rank

variable {l : List α} {rank : ℕ} (default : α)

theorem orderStatistic_le_iff (hrank : rank < l.length) (bound : α) :
    orderStatistic l rank default ≤ bound ↔ rank < l.countP (· ≤ bound) := by
  have hlength : rank < (l.insertionSort (· ≤ ·)).length := by
    rw [List.length_insertionSort]
    exact hrank
  rw [orderStatistic, getD_le_iff (List.pairwise_insertionSort (· ≤ ·) l) hlength,
    (List.perm_insertionSort (· ≤ ·) l).countP_eq]

/-- More entries than its rank are within an order statistic. -/
theorem rank_lt_countP (hrank : rank < l.length) :
    rank < l.countP (· ≤ orderStatistic l rank default) :=
  (orderStatistic_le_iff default hrank _).mp (Std.le_refl _)

theorem orderStatistic_mono {higher : ℕ} (hle : rank ≤ higher) (hhigher : higher < l.length) :
    orderStatistic l rank default ≤ orderStatistic l higher default :=
  (orderStatistic_le_iff default (lt_of_le_of_lt hle hhigher) _).mpr
    (lt_of_le_of_lt hle (rank_lt_countP default hhigher))

omit [Std.IsLinearOrder α] in
theorem orderStatistic_mem (hrank : rank < l.length) : orderStatistic l rank default ∈ l := by
  have hlength : rank < (l.insertionSort (· ≤ ·)).length := by
    rw [List.length_insertionSort]
    exact hrank
  rw [orderStatistic, List.getD_eq_getElem _ default hlength]
  exact (List.mem_insertionSort (· ≤ ·)).mp (List.getElem_mem hlength)

end Rank

theorem insertionSort_eq_of_perm {l m : List α} (h : l.Perm m) :
    l.insertionSort (· ≤ ·) = m.insertionSort (· ≤ ·) := by
  apply List.Perm.eq_of_pairwise (fun a b _ _ ↦ Std.le_antisymm)
    (List.pairwise_insertionSort (· ≤ ·) l) (List.pairwise_insertionSort (· ≤ ·) m)
  exact ((List.perm_insertionSort (· ≤ ·) l).trans h).trans (List.perm_insertionSort (· ≤ ·) m).symm

/-- The order in which the entries come does not matter. -/
theorem orderStatistic_eq_of_perm {l m : List α} (h : l.Perm m) (rank : ℕ) (default : α) :
    orderStatistic l rank default = orderStatistic m rank default := by
  rw [orderStatistic, orderStatistic, insertionSort_eq_of_perm h]

end RuntimeSync
