import Std.Data.String.ToNat
import RuntimeSync.Core.ClockGate
import RuntimeSync.Library.Joined

/-!
# Addresses as source names

Where chrony knows no name for a source it prints an address.  The comparison
by containment then works on digits, and one address can be contained in the
text of another.
-/

namespace RuntimeSync

/-- An IPv4 address. -/
structure Address where
  first : UInt8
  second : UInt8
  third : UInt8
  fourth : UInt8
  deriving DecidableEq

namespace Address

def octet (n : UInt8) : Str := text (toString n.toNat)

/-- The address as chrony prints it. -/
def dotted (address : Address) : Str :=
  [byte '.'].intercalate
    [octet address.first, octet address.second, octet address.third, octet address.fourth]

/-! ## Octets -/

theorem octet_plain : ∀ n < 256, byte '.' ∉ text (toString n) ∧
    ClockMonitor.lower (text (toString n)) = text (toString n) := by
  decide +kernel

theorem dot_notMem_octet (n : UInt8) : byte '.' ∉ octet n := (octet_plain n.toNat n.toNat_lt).1

theorem lower_octet (n : UInt8) : ClockMonitor.lower (octet n) = octet n :=
  (octet_plain n.toNat n.toNat_lt).2

theorem text_injective {a b : String} (h : text a = text b) : a = b := by
  apply String.toByteArray_inj.mp
  exact ByteArray.ext (Array.toList_inj.mp h)

theorem octet_injective {m n : UInt8} (h : octet m = octet n) : m = n :=
  UInt8.toNat_inj.mp (Nat.repr_inj.mp (text_injective h))

/-! ## Containment -/

/-- All that is left of one address in the other is a tail of its first octet
and a head of its last one. -/
structure Within (address other : Address) : Prop where
  first : octet address.first <:+ octet other.first
  second : address.second = other.second
  third : address.third = other.third
  fourth : octet address.fourth <+: octet other.fourth

instance (address other : Address) : Decidable (Within address other) :=
  decidable_of_iff
    (octet address.first <:+ octet other.first ∧ address.second = other.second ∧
      address.third = other.third ∧ octet address.fourth <+: octet other.fourth)
    ⟨fun h ↦ ⟨h.1, h.2.1, h.2.2.1, h.2.2.2⟩, fun h ↦ ⟨h.first, h.second, h.third, h.fourth⟩⟩

theorem dotted_infix_iff (address other : Address) :
    address.dotted <:+: other.dotted ↔ Within address other := by
  have hfree (a : Address) : ∀ piece ∈ octet a.first ::
      ([octet a.second, octet a.third] ++ [octet a.fourth]), byte '.' ∉ piece := by
    simp [dot_notMem_octet]
  have hlength : [octet address.second, octet address.third].length =
      [octet other.second, octet other.third].length := rfl
  have hjoined := joined_infix_iff hlength (hfree address) (hfree other)
  refine hjoined.trans ⟨fun h ↦ ?_, fun h ↦ ⟨h.first, ?_, h.fourth⟩⟩
  · obtain ⟨hsecond, hthird⟩ := List.cons.inj h.2.1
    exact ⟨h.1, octet_injective hsecond, octet_injective (List.cons.inj hthird).1, h.2.2⟩
  · rw [h.second, h.third]

theorem lower_dotted (address : Address) : ClockMonitor.lower address.dotted = address.dotted := by
  have hdot : ClockMonitor.lower [byte '.'] = [byte '.'] := by decide
  have happend (s t : Str) :
      ClockMonitor.lower (s ++ t) = ClockMonitor.lower s ++ ClockMonitor.lower t := List.map_append
  simp only [dotted, List.intercalate_cons_cons, List.intercalate_singleton, happend, hdot,
    lower_octet]

theorem dotted_ne_nil (address : Address) : address.dotted ≠ [] := by
  simp [dotted, List.intercalate_cons_cons]

end Address

namespace ClockMonitor

variable {D : Type} [DoubleArith D]

theorem sourceIsGround_iff (snapshot : ClockMonitorSnapshot D) {policy : ClockPolicy}
    (hground : policy.groundTimeSource ≠ []) (phase : ClockPhase) :
    (evaluateSnapshot snapshot policy phase).sourceIsGround = true ↔
      ∃ name ∈ candidateNames snapshot, Related name policy.groundTimeSource := by
  simp only [evaluateSnapshot, Bool.or_eq_true, sourceMatches_iff hground, candidateNames,
    List.mem_cons, List.not_mem_nil, or_false, exists_eq_or_imp, exists_eq_left, or_assoc]

theorem related_dotted_iff (address ground : Address) :
    Related address.dotted ground.dotted ↔
      Address.Within address ground ∨ Address.Within ground address := by
  rw [Related, Address.lower_dotted, Address.lower_dotted, Address.dotted_infix_iff,
    Address.dotted_infix_iff]
  constructor
  · rintro (heq | hground | hwithin)
    · refine .inl ((Address.dotted_infix_iff address ground).mp ?_)
      rw [heq]
    · exact .inr hground
    · exact .inl hwithin
  · rintro (hwithin | hground)
    · exact .inr (.inr hwithin)
    · exact .inr (.inl hground)

/-- The snapshot with this name in all three places. -/
def ClockMonitorSnapshot.identifiedAs (snapshot : ClockMonitorSnapshot D) (name : Str) :
    ClockMonitorSnapshot D where
  tracking := { snapshot.tracking with referenceName := name, referenceId := name }
  sources := { snapshot.sources with selectedSource := name }

/-- A source that is known by its address alone is kept apart from the ground
station unless one of the two addresses is within the other. -/
theorem addresses_apart_iff (snapshot : ClockMonitorSnapshot D) (policy : ClockPolicy)
    (phase : ClockPhase) (address ground : Address) :
    (evaluateSnapshot (ClockMonitorSnapshot.identifiedAs snapshot address.dotted)
        { policy with groundTimeSource := ground.dotted } phase).sourceIsGround = false ↔
      ¬(Address.Within address ground ∨ Address.Within ground address) := by
  rw [← related_dotted_iff, ← Bool.not_eq_true,
    sourceIsGround_iff _ (Address.dotted_ne_nil ground)]
  simp [candidateNames, ClockMonitorSnapshot.identifiedAs]

def firstHost : Address := ⟨10, 0, 0, 1⟩

def tenthHost : Address := ⟨10, 0, 0, 10⟩

theorem tenthHost_is_ground :
    firstHost ≠ tenthHost ∧ firstHost.dotted = text "10.0.0.1" ∧
      tenthHost.dotted = text "10.0.0.10" ∧
      ¬(evaluateSnapshot (D := ℚ) (ClockMonitorSnapshot.identifiedAs {} firstHost.dotted)
        { groundTimeSource := tenthHost.dotted } .preflight).sourceIsGround = false := by
  decide +kernel

end ClockMonitor

end RuntimeSync
