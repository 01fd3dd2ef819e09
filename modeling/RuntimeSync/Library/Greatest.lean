import Mathlib.Data.Finset.Max

/-!
# The greatest elements of a finite set

What a bounded store retains of a stream: the `n` greatest elements of all
that came, whatever the order in which they came.  An element is among them
when fewer than `n` others are greater.
-/

namespace RuntimeSync

variable {α : Type*} [LinearOrder α]

/-- The `n` greatest elements of `s`, or all of them when there are fewer. -/
def greatest (n : ℕ) (s : Finset α) : Finset α :=
  s.filter fun a ↦ (s.filter fun b ↦ a < b).card < n

theorem mem_greatest {n : ℕ} {s : Finset α} {a : α} :
    a ∈ greatest n s ↔ a ∈ s ∧ (s.filter fun b ↦ a < b).card < n :=
  Finset.mem_filter

theorem greatest_subset (n : ℕ) (s : Finset α) : greatest n s ⊆ s := Finset.filter_subset _ s

theorem greatest_of_card_le {n : ℕ} {s : Finset α} (h : s.card ≤ n) : greatest n s = s := by
  apply Finset.filter_true_of_mem
  intro a ha
  have hproper : s.filter (fun b ↦ a < b) ⊂ s := by
    rw [Finset.filter_ssubset]
    exact ⟨a, ha, lt_irrefl a⟩
  exact lt_of_lt_of_le (Finset.card_lt_card hproper) h

/-- Elements below `n` of those that stay make no difference. -/
theorem greatest_of_subset {n : ℕ} {s t : Finset α} (hts : t ⊆ s)
    (h : ∀ a ∈ s, a ∉ t → n ≤ (t.filter fun b ↦ a < b).card) : greatest n t = greatest n s := by
  have hmono : ∀ a : α, (t.filter fun b ↦ a < b).card ≤ (s.filter fun b ↦ a < b).card :=
    fun a ↦ Finset.card_le_card (Finset.filter_subset_filter _ hts)
  ext a
  rw [mem_greatest, mem_greatest]
  constructor
  · rintro ⟨ha, hfew⟩
    refine ⟨hts ha, ?_⟩
    -- No element that was left out is above `a`, or `n` of those that stay were.
    have hsame : (s.filter fun b ↦ a < b) = t.filter fun b ↦ a < b := by
      apply Finset.Subset.antisymm
      · intro b hb
        obtain ⟨hbs, hab⟩ := Finset.mem_filter.mp hb
        by_contra hbt
        have hout : b ∉ t := fun hmem ↦ hbt (Finset.mem_filter.mpr ⟨hmem, hab⟩)
        have habove : (t.filter fun c ↦ b < c).card ≤ (t.filter fun c ↦ a < c).card := by
          apply Finset.card_le_card
          intro c hc
          obtain ⟨hct, hbc⟩ := Finset.mem_filter.mp hc
          exact Finset.mem_filter.mpr ⟨hct, hab.trans hbc⟩
        have hmany := h b hbs hout
        omega
      · exact Finset.filter_subset_filter _ hts
    rwa [hsame]
  · rintro ⟨ha, hfew⟩
    have hin : a ∈ t := by
      by_contra hout
      have hmany := (h a ha hout).trans (hmono a)
      omega
    exact ⟨hin, lt_of_le_of_lt (hmono a) hfew⟩

/-- From a set that is too large the least element may go first. -/
theorem greatest_erase {n : ℕ} {s : Finset α} {a : α} (ha : a ∈ s) (hmin : ∀ b ∈ s, a ≤ b)
    (hcard : n < s.card) : greatest n (s.erase a) = greatest n s := by
  apply greatest_of_subset (Finset.erase_subset a s)
  intro b hb hout
  obtain rfl : b = a := by
    by_contra hne
    exact hout (Finset.mem_erase.mpr ⟨hne, hb⟩)
  have habove : ((s.erase b).filter fun c ↦ b < c) = s.erase b := by
    apply Finset.filter_true_of_mem
    intro c hc
    obtain ⟨hne, hcs⟩ := Finset.mem_erase.mp hc
    exact lt_of_le_of_ne (hmin c hcs) hne.symm
  rw [habove, Finset.card_erase_of_mem ha]
  omega

theorem card_greatest (n : ℕ) (s : Finset α) : (greatest n s).card = min n s.card := by
  induction hk : s.card generalizing s with
  | zero =>
      rw [greatest_of_card_le (by omega), hk, Nat.min_zero]
  | succ k ih =>
      by_cases hle : s.card ≤ n
      · rw [greatest_of_card_le hle, hk]
        omega
      · have hne : s.Nonempty := Finset.card_pos.mp (by omega)
        have hmin : ∀ b ∈ s, s.min' hne ≤ b := fun b hb ↦ s.min'_le b hb
        rw [← greatest_erase (s.min'_mem hne) hmin (by omega),
          ih _ (by rw [Finset.card_erase_of_mem (s.min'_mem hne), hk]; rfl)]
        omega

/-- What is left out is below everything that stays. -/
theorem lt_of_not_mem_greatest {n : ℕ} {s : Finset α} {a b : α} (hb : b ∈ greatest n s)
    (ha : a ∈ s) (hout : a ∉ greatest n s) : a < b := by
  obtain ⟨-, hfew⟩ := mem_greatest.mp hb
  have hmany : n ≤ (s.filter fun c ↦ a < c).card := by
    by_contra hlt
    exact hout (mem_greatest.mpr ⟨ha, not_le.mp hlt⟩)
  by_contra hle
  have habove : (s.filter fun c ↦ a < c).card ≤ (s.filter fun c ↦ b < c).card := by
    apply Finset.card_le_card
    intro c hc
    obtain ⟨hcs, hac⟩ := Finset.mem_filter.mp hc
    exact Finset.mem_filter.mpr ⟨hcs, lt_of_le_of_lt (not_lt.mp hle) hac⟩
  omega

/-- The streaming law: the next element needs only what was retained. -/
theorem greatest_insert_greatest (n : ℕ) (a : α) (s : Finset α) :
    greatest n (insert a (greatest n s)) = greatest n (insert a s) := by
  apply greatest_of_subset (Finset.insert_subset_insert a (greatest_subset n s))
  intro b hb hout
  have hne : b ≠ a := by
    rintro rfl
    exact hout (Finset.mem_insert_self b _)
  have hbs : b ∈ s := Finset.mem_of_mem_insert_of_ne hb hne
  have hbout : b ∉ greatest n s := fun hmem ↦ hout (Finset.mem_insert_of_mem hmem)
  have hcard : n ≤ s.card := by
    by_contra hlt
    exact hbout ((greatest_of_card_le (not_le.mp hlt).le).symm ▸ hbs)
  calc
    n = (greatest n s).card := by rw [card_greatest, min_eq_left hcard]
    _ ≤ ((insert a (greatest n s)).filter fun c ↦ b < c).card := by
      apply Finset.card_le_card
      intro c hc
      exact Finset.mem_filter.mpr
        ⟨Finset.mem_insert_of_mem hc, lt_of_not_mem_greatest hc hbs hbout⟩

/-- Once out, an element stays out. -/
theorem mem_greatest_of_insert {n : ℕ} {s : Finset α} {a b : α} (hne : b ≠ a)
    (h : b ∈ greatest n (insert a s)) : b ∈ greatest n s := by
  obtain ⟨hb, hfew⟩ := mem_greatest.mp h
  refine mem_greatest.mpr ⟨Finset.mem_of_mem_insert_of_ne hb hne, lt_of_le_of_lt ?_ hfew⟩
  exact Finset.card_le_card (Finset.filter_subset_filter _ (Finset.subset_insert a s))

/-! ## A store that is at most full -/

/-- A new element is retained unless the store is full of greater ones. -/
theorem mem_greatest_insert_self {n : ℕ} {s : Finset α} {a : α} (h : s.card ≤ n) :
    a ∈ greatest n (insert a s) ↔ s.card < n ∨ ∃ b ∈ s, b ≤ a := by
  rw [mem_greatest, and_iff_right (Finset.mem_insert_self a s), Finset.filter_insert,
    if_neg (lt_irrefl a)]
  constructor
  · intro hfew
    by_cases hroom : s.card < n
    · exact .inl hroom
    · have hproper : s.filter (fun b ↦ a < b) ≠ s := by
        intro hall
        rw [hall] at hfew
        exact hroom hfew
      rw [Ne, Finset.filter_eq_self] at hproper
      push Not at hproper
      exact .inr hproper
  · rintro (hroom | ⟨b, hb, hle⟩)
    · exact lt_of_le_of_lt (Finset.card_filter_le s _) hroom
    · have hproper : s.filter (fun c ↦ a < c) ⊂ s :=
        Finset.filter_ssubset.mpr ⟨b, hb, not_lt.mpr hle⟩
      exact lt_of_lt_of_le (Finset.card_lt_card hproper) h

/-- No element gives way to a smaller one. -/
theorem mem_greatest_insert_of_lt {n : ℕ} {s : Finset α} {a b : α} (h : s.card ≤ n) (hb : b ∈ s)
    (hab : a < b) : b ∈ greatest n (insert a s) := by
  rw [mem_greatest, Finset.filter_insert, if_neg (lt_asymm hab)]
  refine ⟨Finset.mem_insert_of_mem hb, ?_⟩
  have hproper : s.filter (fun c ↦ b < c) ⊂ s :=
    Finset.filter_ssubset.mpr ⟨b, hb, lt_irrefl b⟩
  exact lt_of_lt_of_le (Finset.card_lt_card hproper) h

end RuntimeSync
