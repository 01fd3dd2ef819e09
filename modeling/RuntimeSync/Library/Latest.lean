import Mathlib.Order.Defs.LinearOrder

/-!
# The latest entry of a history

A register that should hold the entry of highest rank among all that were
reported to it.  Overwriting it with every report is right exactly as long as
no report ranks below what the register holds.
-/

namespace RuntimeSync

variable {β ρ : Type*} [Preorder ρ] {rank : β → ρ}

/-- The value of a register that holds the highest ranked entry of `history`,
and nothing only before the first entry. -/
def IsLatest (rank : β → ρ) (history : List β) : Option β → Prop
  | none => history = []
  | some b => b ∈ history ∧ ∀ c ∈ history, rank c ≤ rank b

namespace IsLatest

theorem mem {history : List β} {b : β} (h : IsLatest rank history (some b)) : b ∈ history := h.1

/-- A history with an entry has a latest one. -/
theorem exists_of_mem {history : List β} {last : Option β} {b : β} (h : IsLatest rank history last)
    (hb : b ∈ history) : ∃ latest, last = some latest ∧ IsLatest rank history (some latest) := by
  cases last with
  | none =>
      rw [show history = [] from h] at hb
      cases hb
  | some latest => exact ⟨latest, rfl, h⟩

theorem concat {history : List β} {last : Option β} {c : β} (h : IsLatest rank history last)
    (hc : ∀ b ∈ last, rank b ≤ rank c) :
    IsLatest rank (history ++ [c]) (some c) := by
  refine ⟨by simp, ?_⟩
  intro d hd
  rcases List.mem_append.mp hd with hd | hd
  · cases last with
    | none =>
        rw [h] at hd
        cases hd
    | some b => exact le_trans (h.2 d hd) (hc b rfl)
  · rw [List.mem_singleton.mp hd]

/-- Overwriting keeps the register right exactly when the entry is no step back. -/
theorem concat_iff {history : List β} {last : Option β} (h : IsLatest rank history last) (c : β) :
    IsLatest rank (history ++ [c]) (some c) ↔ ∀ b ∈ last, rank b ≤ rank c := by
  constructor
  · intro hafter b hb
    cases hb
    exact hafter.2 b (by simp [h.mem])
  · exact h.concat

/-- An entry of no higher rank leaves the register as it is. -/
theorem keep {history : List β} {b c : β} (h : IsLatest rank history (some b))
    (hc : rank c ≤ rank b) : IsLatest rank (history ++ [c]) (some b) := by
  refine ⟨List.mem_append_left [c] h.mem, ?_⟩
  intro d hd
  rcases List.mem_append.mp hd with hd | hd
  · exact h.2 d hd
  · rwa [List.mem_singleton.mp hd]

end IsLatest

end RuntimeSync
