import Mathlib.Data.List.Basic

/-!
# Joined pieces

Pieces without a separator, joined by it.  When one such text is contained in
another with as many pieces, the pieces in the middle are the same, and only
the first and the last can have been cut.
-/

namespace RuntimeSync

variable {α : Type*} [DecidableEq α] {sep : α}

abbrev joined (sep : α) (pieces : List (List α)) : List α := [sep].intercalate pieces

theorem joined_injective {pieces others : List (List α)} (hne : pieces ≠ []) (hother : others ≠ [])
    (hfree : ∀ piece ∈ pieces, sep ∉ piece) (hotherFree : ∀ piece ∈ others, sep ∉ piece)
    (h : joined sep pieces = joined sep others) : pieces = others := by
  have hsplit := congrArg (List.splitOn sep) h
  rwa [joined, joined, List.splitOn_intercalate sep hfree hne,
    List.splitOn_intercalate sep hotherFree hother] at hsplit

omit [DecidableEq α] in
theorem append_joined (text first : List α) (rest : List (List α)) :
    text ++ joined sep (first :: rest) = joined sep ((text ++ first) :: rest) := by
  cases rest with
  | nil => rw [joined, joined, List.intercalate_singleton, List.intercalate_singleton]
  | cons second rest =>
      rw [joined, joined, List.intercalate_cons_cons, List.intercalate_cons_cons]
      simp only [List.append_assoc]

omit [DecidableEq α] in
theorem joined_append (pieces : List (List α)) (last text : List α) :
    joined sep (pieces ++ [last]) ++ text = joined sep (pieces ++ [last ++ text]) := by
  induction pieces with
  | nil => rw [List.nil_append, List.nil_append, joined, joined, List.intercalate_singleton,
      List.intercalate_singleton]
  | cons first pieces ih =>
      rw [List.cons_append, List.cons_append, joined, joined,
        List.intercalate_cons_of_ne_nil (by simp), List.intercalate_cons_of_ne_nil (by simp),
        List.append_assoc, ih]

/-- The separators of a joined text are those between the pieces. -/
theorem count_joined {pieces : List (List α)} (hfree : ∀ piece ∈ pieces, sep ∉ piece) :
    (joined sep pieces).count sep = pieces.length - 1 := by
  induction pieces with
  | nil => rfl
  | cons first rest ih =>
      obtain ⟨hfirst, hrest⟩ := List.forall_mem_cons.mp hfree
      have hzero := List.count_eq_zero.mpr hfirst
      cases rest with
      | nil => rw [joined, List.intercalate_singleton, hzero]; rfl
      | cons second rest =>
          rw [joined, List.intercalate_cons_cons, List.count_append, List.count_append, hzero,
            List.count_singleton_self, ih hrest]
          simp only [List.length_cons]
          omega

/-- Nothing but the outer pieces can be cut by a containment. -/
theorem joined_infix_iff {first first' last last' : List α} {middle middle' : List (List α)}
    (hlength : middle.length = middle'.length)
    (hfree : ∀ piece ∈ first :: (middle ++ [last]), sep ∉ piece)
    (hfree' : ∀ piece ∈ first' :: (middle' ++ [last']), sep ∉ piece) :
    joined sep (first :: (middle ++ [last])) <:+: joined sep (first' :: (middle' ++ [last'])) ↔
      first <:+ first' ∧ middle = middle' ∧ last <+: last' := by
  have hgrow (before after : List α) :
      before ++ joined sep (first :: (middle ++ [last])) ++ after =
        joined sep ((before ++ first) :: (middle ++ [last ++ after])) := by
    rw [append_joined, ← List.cons_append, joined_append, List.cons_append]
  constructor
  · rintro ⟨before, after, heq⟩
    have hcount := congrArg (List.count sep) heq
    rw [List.count_append, List.count_append, count_joined hfree, count_joined hfree'] at hcount
    simp only [List.length_cons, List.length_append, hlength] at hcount
    have hbefore : sep ∉ before := List.count_eq_zero.mp (by omega)
    have hafter : sep ∉ after := List.count_eq_zero.mp (by omega)
    rw [hgrow] at heq
    have hgrown : ∀ piece ∈ (before ++ first) :: (middle ++ [last ++ after]), sep ∉ piece := by
      obtain ⟨hfirst, hrest⟩ := List.forall_mem_cons.mp hfree
      obtain ⟨hmiddle, hlast⟩ := List.forall_mem_append.mp hrest
      rw [List.forall_mem_cons, List.forall_mem_append, List.forall_mem_singleton,
        List.mem_append, List.mem_append, not_or, not_or]
      exact ⟨⟨hbefore, hfirst⟩, hmiddle, hlast last (List.mem_singleton_self last), hafter⟩
    have hpieces := joined_injective (List.cons_ne_nil _ _) (List.cons_ne_nil _ _) hgrown hfree' heq
    obtain ⟨hfirst, hrest⟩ := List.cons.inj hpieces
    obtain ⟨hmiddle, hlast⟩ := List.append_inj hrest hlength
    exact ⟨⟨before, hfirst⟩, hmiddle, ⟨after, (List.cons.inj hlast).1⟩⟩
  · rintro ⟨⟨before, rfl⟩, rfl, after, rfl⟩
    exact ⟨before, after, hgrow before after⟩

end RuntimeSync
