import Mathlib.Data.List.DropRight

/-!
# Words between blanks

A run of characters of one class, cut off from what follows it.  What follows
begins with a character of the other class, if it is not empty.
-/

namespace RuntimeSync

variable {α : Type*} {p : α → Bool}

theorem dropWhile_append_boundary {skipped rest : List α} (hskipped : ∀ a ∈ skipped, p a = true)
    (hrest : ∀ a ∈ rest.head?, p a = false) : (skipped ++ rest).dropWhile p = rest := by
  rw [List.dropWhile_append_of_pos hskipped]
  cases rest with
  | nil => rfl
  | cons a rest => rw [List.dropWhile_cons, hrest a rfl, if_neg Bool.false_ne_true]

theorem dropWhile_append_cons {skipped rest : List α} {first : α}
    (hskipped : ∀ a ∈ skipped, p a = true) (hfirst : p first = false) :
    (skipped ++ first :: rest).dropWhile p = first :: rest := by
  apply dropWhile_append_boundary hskipped
  intro a ha
  rw [← Option.some.inj ha]
  exact hfirst

theorem takeWhile_append_boundary {word rest : List α} (hword : ∀ a ∈ word, p a = true)
    (hrest : ∀ a ∈ rest.head?, p a = false) : (word ++ rest).takeWhile p = word := by
  rw [List.takeWhile_append_of_pos hword]
  cases rest with
  | nil => rw [List.takeWhile_nil, List.append_nil]
  | cons a rest => rw [List.takeWhile_cons, hrest a rfl, if_neg Bool.false_ne_true, List.append_nil]

/-- Nothing is dropped from the right beyond a last character of the other class. -/
theorem rdropWhile_append_boundary {kept rest : List α} {last : α} (hlast : p last = false) :
    (kept ++ last :: rest).rdropWhile p = kept ++ last :: rest.rdropWhile p := by
  induction rest using List.reverseRecOn with
  | nil =>
      rw [List.rdropWhile_concat_neg p kept last (by simp [hlast]), List.rdropWhile_nil]
  | append_singleton rest a ih =>
      rw [← List.cons_append, ← List.append_assoc, List.rdropWhile_concat, List.rdropWhile_concat]
      cases p a with
      | true =>
          rw [if_pos rfl, if_pos rfl]
          exact ih
      | false =>
          rw [if_neg Bool.false_ne_true, if_neg Bool.false_ne_true, List.append_assoc,
            List.cons_append]

/-- What is left begins as before, if anything is left. -/
theorem head?_rdropWhile {rest : List α} (h : ∀ a ∈ rest.head?, p a = true) :
    ∀ a ∈ (rest.rdropWhile p).head?, p a = true := by
  intro a ha
  obtain ⟨dropped, hdropped⟩ := List.rdropWhile_prefix p rest
  apply h
  rw [← hdropped, List.head?_append, Option.mem_def.mp ha]
  rfl

end RuntimeSync
