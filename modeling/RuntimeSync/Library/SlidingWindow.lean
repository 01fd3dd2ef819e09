import Mathlib.Data.List.DropRight

/-!
# Sliding windows

A window that keeps the last `n` entries of what was pushed into it.  After at
least `n` pushes nothing of what it held before is left.
-/

namespace RuntimeSync

variable {α : Type*}

/-- The window after one more entry. -/
def slide (n : ℕ) (window : List α) (entry : α) : List α := (window ++ [entry]).rtake n

theorem length_rtake (n : ℕ) (l : List α) : (l.rtake n).length = min n l.length := by
  rw [List.rtake, List.length_drop]
  omega

theorem rtake_of_length_le {n : ℕ} {l : List α} (h : l.length ≤ n) : l.rtake n = l := by
  rw [List.rtake, Nat.sub_eq_zero_of_le h, List.drop_zero]

theorem length_slide_le (n : ℕ) (window : List α) (entry : α) :
    (slide n window entry).length ≤ n := by
  rw [slide, length_rtake]
  exact min_le_left _ _

/-- What was dropped once is not looked at again. -/
theorem rtake_rtake_append (n : ℕ) (l m : List α) :
    (l.rtake n ++ m).rtake n = (l ++ m).rtake n := by
  rw [List.rtake, List.rtake, List.rtake, List.length_append, List.length_append,
    List.length_drop, List.drop_append, List.drop_append, List.drop_drop, List.length_drop]
  congr 2 <;> omega

/-- Pushing `entries` leaves the last `n` of everything. -/
theorem foldl_slide {n : ℕ} {window : List α} (h : window.length ≤ n) (entries : List α) :
    entries.foldl (slide n) window = (window ++ entries).rtake n := by
  induction entries generalizing window with
  | nil => rw [List.foldl_nil, List.append_nil, rtake_of_length_le h]
  | cons entry entries ih =>
      rw [List.foldl_cons, ih (length_slide_le n window entry), slide, rtake_rtake_append,
        List.append_assoc, List.singleton_append]

/-- At least `n` entries at the end are all that counts. -/
theorem rtake_append_of_le {n : ℕ} (l : List α) {m : List α} (h : n ≤ m.length) :
    (l ++ m).rtake n = m.rtake n := by
  rw [List.rtake, List.rtake, List.length_append, List.drop_append, List.drop_of_length_le,
    List.nil_append] <;> [congr 1; skip] <;> omega

theorem mem_of_mem_rtake {n : ℕ} {l : List α} {a : α} (h : a ∈ l.rtake n) : a ∈ l :=
  List.mem_of_mem_drop h

end RuntimeSync
