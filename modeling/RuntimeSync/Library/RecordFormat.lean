import Mathlib.Data.List.Basic
import Mathlib.Data.List.Pairwise
import Mathlib.Data.Set.Defs
import Mathlib.Logic.Equiv.Basic

/-!
# Records as sequences of fields

A codec writes values of one type as lists of symbols and reads them back
from the front of some input.  It carries the two laws that make its reader
the inverse of its writer, so that a codec which reads something it would not
have written cannot be built.

A record format is a list of slots.  A slot is a codec with a place in the
record.  When no slot disturbs a place filled before it, reading a format is
again the inverse of writing it.
-/

namespace RuntimeSync

/-- `ι` is the input a reader consumes, `remaining` the symbols it has not
read yet, and `ε` what a failing read reports. -/
structure WireCodec (ι β ε : Type) (remaining : ι → List β) (α : Type) where
  write : α → List β
  /-- The values the reader accepts. -/
  Valid : α → Prop
  read : ι → Except ε α × ι
  complete : ∀ {c : ι} {v : α} {rest : List β}, Valid v → remaining c = write v ++ rest →
    ∃ c', read c = (.ok v, c') ∧ remaining c' = rest
  sound : ∀ {c c' : ι} {v : α}, read c = (.ok v, c') →
    Valid v ∧ remaining c = write v ++ remaining c'

/-- The codec of a type that is read as another and then cast. -/
def WireCodec.cast {ι β ε : Type} {remaining : ι → List β} {α γ : Type}
    (codec : WireCodec ι β ε remaining α) (e : α ≃ γ) : WireCodec ι β ε remaining γ where
  write v := codec.write (e.symm v)
  Valid v := codec.Valid (e.symm v)
  read c :=
    let (result, c') := codec.read c
    (result.map e, c')
  complete hv hc := by
    obtain ⟨c', hread, hrem⟩ := codec.complete hv hc
    exact ⟨c', by simp [hread, Except.map], hrem⟩
  sound {c c' v} h := by
    cases hread : codec.read c with
    | mk result c₁ =>
        cases result with
        | error _ => simp [hread, Except.map] at h
        | ok u =>
            simp only [hread, Except.map, Prod.mk.injEq, Except.ok.injEq] at h
            obtain ⟨rfl, rfl⟩ := h
            simpa using codec.sound hread

structure Slot (ι β ε : Type) (remaining : ι → List β) (ρ : Type) where
  Value : Type
  codec : WireCodec ι β ε remaining Value
  get : ρ → Value
  set : Value → ρ → ρ
  get_set : ∀ v s, get (set v s) = v

/-- No member is a proper prefix of another. -/
def PrefixFree {β : Type} (accepted : Set (List β)) : Prop :=
  ∀ xs ∈ accepted, ∀ ys ∈ accepted, xs <+: ys → xs = ys

namespace RecordFormat

variable {ι β ε : Type} {remaining : ι → List β} {ρ : Type}

def write (slots : List (Slot ι β ε remaining ρ)) (s : ρ) : List β :=
  slots.flatMap fun slot ↦ slot.codec.write (slot.get s)

/-- Fill the slots in order and stop at the first read that fails.  The
record and the input are returned as the reads so far have left them. -/
def read : List (Slot ι β ε remaining ρ) → ρ → ι → Except ε Unit × ρ × ι
  | [], s, c => (.ok (), s, c)
  | slot :: slots, s, c =>
      match slot.codec.read c with
      | (.ok v, c') => read slots (slot.set v s) c'
      | (.error e, c') => (.error e, s, c')

def Valid (slots : List (Slot ι β ε remaining ρ)) (s : ρ) : Prop :=
  ∀ slot ∈ slots, slot.codec.Valid (slot.get s)

/-- Records that agree in every slot. -/
def Agree (slots : List (Slot ι β ε remaining ρ)) (s t : ρ) : Prop :=
  ∀ slot ∈ slots, slot.get s = slot.get t

/-- No slot changes a place that an earlier slot has filled. -/
def Independent (slots : List (Slot ι β ε remaining ρ)) : Prop :=
  slots.Pairwise fun first later ↦ ∀ v s, first.get (later.set v s) = first.get s

theorem read_get_of_independent {slot : Slot ι β ε remaining ρ}
    {slots : List (Slot ι β ε remaining ρ)}
    (hind : ∀ later ∈ slots, ∀ v s, slot.get (later.set v s) = slot.get s)
    {s s' : ρ} {c c' : ι} {r : Except ε Unit} (h : read slots s c = (r, s', c')) :
    slot.get s' = slot.get s := by
  induction slots generalizing s c with
  | nil =>
      simp only [read, Prod.mk.injEq] at h
      rw [h.2.1]
  | cons later slots ih =>
      rw [read] at h
      split at h
      · rw [ih (fun l hl ↦ hind l (by simp [hl])) h]
        exact hind later (by simp) _ _
      · simp only [Prod.mk.injEq] at h
        rw [h.2.1]

/-- A written record is read back, whatever follows it. -/
theorem read_write {slots : List (Slot ι β ε remaining ρ)} (hind : Independent slots)
    {t : ρ} (hvalid : Valid slots t) (s : ρ) {c : ι} {rest : List β}
    (hc : remaining c = write slots t ++ rest) :
    ∃ s' c', read slots s c = (.ok (), s', c') ∧ remaining c' = rest ∧ Agree slots s' t := by
  induction slots generalizing s c with
  | nil => exact ⟨s, c, rfl, by simpa [write] using hc, by simp [Agree]⟩
  | cons slot slots ih =>
      obtain ⟨hfirst, hind'⟩ := List.pairwise_cons.mp hind
      have hc' : remaining c = slot.codec.write (slot.get t) ++ (write slots t ++ rest) := by
        simpa [write, List.append_assoc] using hc
      obtain ⟨c₁, hread, hrem⟩ := slot.codec.complete (hvalid slot (by simp)) hc'
      obtain ⟨s', c', hrest, hrem', hagree⟩ :=
        ih hind' (fun l hl ↦ hvalid l (by simp [hl])) (slot.set (slot.get t) s) hrem
      refine ⟨s', c', by rw [read, hread]; exact hrest, hrem', ?_⟩
      intro l hl
      rcases List.mem_cons.mp hl with rfl | hl
      · rw [read_get_of_independent hfirst hrest, l.get_set]
      · exact hagree l hl

/-- What a successful read has consumed is the record it returns, written. -/
theorem write_of_read {slots : List (Slot ι β ε remaining ρ)} (hind : Independent slots)
    {s s' : ρ} {c c' : ι} (h : read slots s c = (.ok (), s', c')) :
    Valid slots s' ∧ remaining c = write slots s' ++ remaining c' := by
  induction slots generalizing s c with
  | nil =>
      simp only [read, Prod.mk.injEq, true_and] at h
      simp [Valid, write, h.2]
  | cons slot slots ih =>
      obtain ⟨hfirst, hind'⟩ := List.pairwise_cons.mp hind
      rw [read] at h
      split at h
      · next v c₁ hread =>
          obtain ⟨hvalid, hrem⟩ := slot.codec.sound hread
          obtain ⟨hvalid', hrem'⟩ := ih hind' h
          have hget : slot.get s' = v := by
            rw [read_get_of_independent hfirst h, slot.get_set]
          refine ⟨?_, ?_⟩
          · intro l hl
            rcases List.mem_cons.mp hl with rfl | hl
            · exact hget ▸ hvalid
            · exact hvalid' l hl
          · rw [hrem, hrem', ← hget]
            simp [write]
      · simp at h

/-- A format is unambiguous: two valid records whose bytes start the same
input agree in every slot, and so leave the same rest. -/
theorem write_append_inj {slots : List (Slot ι β ε remaining ρ)} (hind : Independent slots)
    {s t : ρ} (hs : Valid slots s) (ht : Valid slots t) {c : ι} {rest rest' : List β}
    (hcs : remaining c = write slots s ++ rest) (hct : remaining c = write slots t ++ rest') :
    Agree slots s t ∧ rest = rest' := by
  obtain ⟨u, c₁, hread, hrem, hus⟩ := read_write hind hs s hcs
  obtain ⟨v, c₂, hread', hrem', hvt⟩ := read_write hind ht s hct
  obtain ⟨rfl, rfl⟩ : u = v ∧ c₁ = c₂ := by
    rw [hread] at hread'
    simpa using hread'
  exact ⟨fun slot hslot ↦ (hus slot hslot).symm.trans (hvt slot hslot), hrem.symm.trans hrem'⟩

end RecordFormat

end RuntimeSync
