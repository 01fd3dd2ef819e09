import Mathlib.Order.Basic
import Std.Data.ExtTreeMap

/-!
# Maps that file each value under its own key

Many maps of a program are written in one way only: a value is stored under
the key that the value itself determines.  The type below keeps that fact, so
that what a lookup returns carries the key it was asked for.
-/

namespace RuntimeSync

variable {α β : Type*} {key : β → α} {cmp : α → α → Ordering} [Std.TransCmp cmp]

/-- An ordered map all of whose values are filed under `key`. -/
structure KeyedMap (key : β → α) (cmp : α → α → Ordering) [Std.TransCmp cmp] where
  entries : Std.ExtTreeMap α β cmp
  keyed : ∀ k v, entries[k]? = some v → key v = k

namespace KeyedMap

def get? (m : KeyedMap key cmp) (k : α) : Option β := m.entries[k]?

/-- The entries in the order of their keys, as an iteration meets them. -/
def toList (m : KeyedMap key cmp) : List (α × β) := m.entries.toList

def size (m : KeyedMap key cmp) : ℕ := m.entries.size

def empty : KeyedMap key cmp where
  entries := ∅
  keyed := by simp

instance : EmptyCollection (KeyedMap key cmp) := ⟨empty⟩

def erase (m : KeyedMap key cmp) (k : α) : KeyedMap key cmp where
  entries := m.entries.erase k
  keyed := by
    intro k' v hv
    rw [Std.ExtTreeMap.getElem?_erase] at hv
    split at hv
    · cases hv
    · exact m.keyed k' v hv

@[simp] theorem get?_empty (k : α) : (∅ : KeyedMap key cmp).get? k = none :=
  Std.ExtTreeMap.getElem?_empty

/-- A lookup answers with a value of the key it was asked for. -/
theorem key_of_get? {m : KeyedMap key cmp} {k : α} {v : β} (h : m.get? k = some v) : key v = k :=
  m.keyed k v h

variable [Std.LawfulEqCmp cmp]

def put (m : KeyedMap key cmp) (v : β) : KeyedMap key cmp where
  entries := m.entries.insert (key v) v
  keyed := by
    intro k w hw
    rw [Std.ExtTreeMap.getElem?_insert] at hw
    split at hw
    · next heq =>
        cases hw
        exact Std.LawfulEqCmp.eq_of_compare heq
    · exact m.keyed k w hw

theorem mem_toList {m : KeyedMap key cmp} {e : α × β} :
    e ∈ m.toList ↔ m.get? e.1 = some e.2 :=
  Std.ExtTreeMap.mem_toList_iff_getElem?_eq_some

/-- No key occurs twice in an iteration. -/
theorem nodup_keys (m : KeyedMap key cmp) : (m.toList.map Prod.fst).Nodup := by
  rw [List.nodup_iff_pairwise_ne, List.pairwise_map]
  apply Std.ExtTreeMap.distinct_keys_toList.imp
  intro a b hdistinct heq
  exact hdistinct (Std.LawfulEqCmp.compare_eq_iff_eq.mpr heq)

variable [DecidableEq α]

theorem get?_put (m : KeyedMap key cmp) (v : β) (k : α) :
    (m.put v).get? k = if key v = k then some v else m.get? k := by
  change (m.entries.insert (key v) v)[k]? = _
  rw [Std.ExtTreeMap.getElem?_insert]
  simp only [Std.LawfulEqCmp.compare_eq_iff_eq]
  rfl

@[simp] theorem get?_put_self (m : KeyedMap key cmp) (v : β) : (m.put v).get? (key v) = some v := by
  rw [get?_put, if_pos rfl]

theorem get?_erase (m : KeyedMap key cmp) (k k' : α) :
    (m.erase k).get? k' = if k = k' then none else m.get? k' := by
  change (m.entries.erase k)[k']? = _
  rw [Std.ExtTreeMap.getElem?_erase]
  simp only [Std.LawfulEqCmp.compare_eq_iff_eq]
  rfl

end KeyedMap

end RuntimeSync
