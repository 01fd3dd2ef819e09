import Mathlib.Data.List.Chain
import Mathlib.Data.List.Induction

/-!
# Announced changes

A value that is announced only when it changes.  The announcements form a
chain without idle steps, and a listener who heard them all knows the value.
-/

namespace RuntimeSync

variable {α : Type*}

/-- The announcements fit together, and none of them is idle. -/
structure IsChangeLog (start : α) (log : List (α × α)) : Prop where
  head : ∀ change ∈ log.head?, change.1 = start
  chain : log.IsChain fun change change' ↦ change.2 = change'.1
  proper : ∀ change ∈ log, change.1 ≠ change.2

/-- What a listener knows. -/
def heard (start : α) (log : List (α × α)) : α := (log.getLast?.map Prod.snd).getD start

variable [DecidableEq α]

/-- The announcements of a value that starts with `start` and then takes the
values one after the other. -/
def changes (start : α) : List α → List (α × α)
  | [] => []
  | value :: values =>
      if start = value then changes value values else (start, value) :: changes value values

theorem changes_append (start : α) (values values' : List α) :
    changes start (values ++ values') =
      changes start values ++ changes (values.getLastD start) values' := by
  induction values generalizing start with
  | nil => rfl
  | cons value values ih =>
      rw [List.cons_append, changes, changes, ih, List.getLastD_cons]
      split <;> rfl

theorem changes_concat (start : α) (values : List α) (value : α) :
    changes start (values ++ [value]) =
      changes start values ++
        if values.getLastD start = value then [] else [(values.getLastD start, value)] := by
  rw [changes_append]
  rfl

/-- The log of the changes tells the latest value. -/
theorem heard_changes (start : α) (values : List α) :
    heard start (changes start values) = values.getLastD start := by
  induction values using List.reverseRecOn with
  | nil => rfl
  | append_singleton values value ih =>
      rw [changes_concat]
      split
      · next heq => rw [List.append_nil, ih, heq, List.getLastD_concat]
      · rw [heard, List.getLast?_concat, List.getLastD_concat]
        rfl

theorem isChangeLog_changes (start : α) (values : List α) :
    IsChangeLog start (changes start values) := by
  induction values generalizing start with
  | nil => exact ⟨nofun, List.isChain_nil, nofun⟩
  | cons value values ih =>
      have hrest := ih value
      rw [changes]
      split
      · next heq => exact heq ▸ hrest
      · next hne =>
          refine ⟨?_, ?_, List.forall_mem_cons.mpr ⟨hne, hrest.proper⟩⟩
          · rintro change ⟨⟩
            rfl
          · refine List.isChain_cons.mpr ⟨?_, hrest.chain⟩
            exact fun change hchange ↦ (hrest.head change hchange).symm

end RuntimeSync
