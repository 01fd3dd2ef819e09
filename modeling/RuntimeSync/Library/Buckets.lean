import Mathlib.Data.List.Basic
import Std.Data.ExtTreeMap

/-!
# A list kept in buckets

A list of keyed values may be kept as a map that files the values of each key
in their order.  Adding a value at the end and removing values of one key are
operations on one bucket, and each has its operation on the list.
-/

namespace RuntimeSync

variable {α β : Type*} {cmp : α → α → Ordering} [Std.TransCmp cmp]

abbrev Buckets (α β : Type*) (cmp : α → α → Ordering) [Std.TransCmp cmp] :=
  Std.ExtTreeMap α (List β) cmp

namespace Buckets

def bucket (m : Buckets α β cmp) (k : α) : List β := m[k]?.getD []

def push (m : Buckets α β cmp) (k : α) (v : β) : Buckets α β cmp :=
  m.insert k (m.bucket k ++ [v])

/-- A bucket that becomes empty is erased. -/
def removeIf (m : Buckets α β cmp) (k : α) (p : β → Bool) : Buckets α β cmp :=
  match m[k]? with
  | none => m
  | some values =>
      let kept := values.filter fun v ↦ !p v
      if kept.isEmpty then m.erase k else m.insert k kept

variable [Std.LawfulEqCmp cmp] [DecidableEq α]

theorem bucket_push (m : Buckets α β cmp) (k k' : α) (v : β) :
    (m.push k v).bucket k' = if k = k' then m.bucket k' ++ [v] else m.bucket k' := by
  rw [bucket, push, Std.ExtTreeMap.getElem?_insert]
  by_cases heq : k = k'
  · subst heq
    simp
  · simp [heq, bucket]

theorem bucket_removeIf (m : Buckets α β cmp) (k k' : α) (p : β → Bool) :
    (m.removeIf k p).bucket k' =
      if k = k' then (m.bucket k').filter fun v ↦ !p v else m.bucket k' := by
  rw [removeIf]
  cases hvalues : m[k]? with
  | none =>
      dsimp only
      by_cases heq : k = k'
      · subst heq
        simp [bucket, hvalues]
      · simp [heq]
  | some values =>
      dsimp only
      split
      · next hempty =>
          rw [bucket, Std.ExtTreeMap.getElem?_erase]
          by_cases heq : k = k'
          · subst heq
            simpa [bucket, hvalues] using hempty
          · simp [heq, bucket]
      · rw [bucket, Std.ExtTreeMap.getElem?_insert]
        by_cases heq : k = k'
        · subst heq
          simp [bucket, hvalues]
        · simp [heq, bucket]

/-- The buckets hold the entries of the list, each under its key. -/
def Files (m : Buckets α β cmp) (entries : List (α × β)) : Prop :=
  ∀ k, m.bucket k = (entries.filter fun e ↦ e.1 = k).map Prod.snd

omit [Std.LawfulEqCmp cmp] in
theorem files_empty : (∅ : Buckets α β cmp).Files [] := by
  intro k
  simp [bucket]

theorem Files.push {m : Buckets α β cmp} {entries : List (α × β)} (h : m.Files entries) (k : α)
    (v : β) : (m.push k v).Files (entries ++ [(k, v)]) := by
  intro k'
  rw [bucket_push, h k', List.filter_append, List.map_append]
  by_cases heq : k = k'
  · simp [heq]
  · simp [heq]

theorem Files.removeIf {m : Buckets α β cmp} {entries : List (α × β)} (h : m.Files entries)
    (k : α) (p : β → Bool) :
    (m.removeIf k p).Files (entries.filter fun e ↦ !(decide (e.1 = k) && p e.2)) := by
  intro k'
  rw [bucket_removeIf, h k', List.filter_filter]
  by_cases heq : k = k'
  · subst heq
    rw [if_pos rfl, List.filter_map, List.filter_filter]
    congr 1
    apply List.filter_congr
    intro e _
    by_cases he : e.1 = k
    · simp [he]
    · simp [he]
  · rw [if_neg heq]
    congr 1
    apply List.filter_congr
    intro e _
    by_cases he : e.1 = k'
    · simp [he, Ne.symm heq]
    · simp [he]

end Buckets

end RuntimeSync
