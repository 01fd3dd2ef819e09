import Mathlib.Data.List.Induction

/-!
# Streaks

How many of the latest entries of a history satisfy a predicate without a
break.
-/

namespace RuntimeSync

variable {α : Type*} (p : α → Bool)

def streak (l : List α) : ℕ := (l.reverse.takeWhile p).length

@[simp] theorem streak_concat (l : List α) (a : α) :
    streak p (l ++ [a]) = if p a then streak p l + 1 else 0 := by
  rw [streak, List.reverse_append, List.reverse_singleton, List.singleton_append,
    List.takeWhile_cons]
  cases p a with
  | false => rfl
  | true => rfl

/-- A streak of `n` shows in the latest `n` entries. -/
theorem exists_latest {n : ℕ} {l : List α} (h : n ≤ streak p l) :
    ∃ before latest, l = before ++ latest ∧ latest.length = n ∧ ∀ a ∈ latest, p a = true := by
  induction l using List.reverseRecOn generalizing n with
  | nil => exact ⟨[], [], rfl, (Nat.le_zero.mp h).symm, by simp⟩
  | append_singleton l a ih =>
      cases n with
      | zero => exact ⟨l ++ [a], [], (List.append_nil _).symm, rfl, by simp⟩
      | succ n =>
          rw [streak_concat] at h
          split at h
          · next ha =>
              obtain ⟨before, latest, rfl, rfl, hall⟩ := ih (Nat.le_of_succ_le_succ h)
              refine ⟨before, latest ++ [a], List.append_assoc .., by simp, ?_⟩
              intro b hb
              rcases List.mem_append.mp hb with hb | hb
              · exact hall b hb
              · rwa [List.mem_singleton.mp hb]
          · exact absurd h (Nat.not_succ_le_zero n)

end RuntimeSync
