import RuntimeSync.Core.EnvelopeReader
import RuntimeSync.Library.MachineInt

/-!
# Reads that stay inside

The reader as it works on a machine, where an offset and a length are numbers
of 64 bits.  An access outside the vector, a computation that wraps and a
conversion that loses the value have no result here, and no sequence of reads
comes to one, whatever the lengths among the bytes say.
-/

namespace RuntimeSync

open MachineInt

/-! ## Vectors of bytes -/

/-- A vector is no longer than the difference of two iterators can be. -/
@[ext]
structure ByteVector where
  bytes : List UInt8
  length_lt : bytes.length < 2 ^ 63

namespace ByteVector

def size (v : ByteVector) : UInt64 := UInt64.ofNat v.bytes.length

def byteAt (v : ByteVector) (i : UInt64) : Option UInt8 := v.bytes[i.toNat]?

/-- The bytes from `data() + offset` on. -/
def slice (v : ByteVector) (offset size : UInt64) : Option (List UInt8) :=
  if offset.toNat + size.toNat ≤ v.bytes.length then
    some ((v.bytes.drop offset.toNat).take size.toNat)
  else none

/-- The bytes between two iterators. -/
def range (v : ByteVector) (first last : Int64) : Option (List UInt8) :=
  if 0 ≤ first ∧ first ≤ last ∧ last.toInt ≤ v.bytes.length then
    some ((v.bytes.drop first.toInt.toNat).take (last.toInt - first.toInt).toNat)
  else none

theorem size_toNat (v : ByteVector) : v.size.toNat = v.bytes.length :=
  UInt64.toNat_ofNat_of_lt' (v.length_lt.trans (by decide))

end ByteVector

/-! ## The reader of the machine -/

structure MachineReader where
  bytes : ByteVector
  offset : UInt64 := 0

namespace MachineReader

/-- The subtraction is made only after the comparison before it. -/
def has (m : MachineReader) (size : UInt64) : Option Bool :=
  if size ≤ m.bytes.size then
    (subSizes m.bytes.size size).map fun room ↦ decide (m.offset ≤ room)
  else some false

/-- `bytes_[offset_++]` -/
def next (m : MachineReader) : Option (UInt8 × MachineReader) := do
  let byte ← m.bytes.byteAt m.offset
  let offset ← addSizes m.offset 1
  return (byte, { m with offset := offset })

/-- `out |= bytes_[offset_++] << (i * 8)`, for as many rounds as are left. -/
def joinLE {w : ℕ} (m : MachineReader) (i : ℕ) (out : BitVec w) :
    ℕ → Option (BitVec w × MachineReader)
  | 0 => some (out, m)
  | rounds + 1 => do
      let (byte, m) ← m.next
      m.joinLE (i + 1) (Reader.joinStep out (byte, i)) rounds

def readFixed {α : Type} (m : MachineReader) (size : UInt64)
    (take : MachineReader → Option (α × MachineReader)) :
    Option (Except Str α × MachineReader) := do
  if ← m.has size then
    let (value, m) ← take m
    return (.ok value, m)
  else
    return (.error [], m)

def readU8 (m : MachineReader) : Option (Except Str UInt8 × MachineReader) := m.readFixed 1 next

def readU32 (m : MachineReader) : Option (Except Str UInt32 × MachineReader) :=
  m.readFixed 4 fun m ↦ (m.joinLE 0 0 4).map (Prod.map UInt32.ofBitVec id)

def readU64 (m : MachineReader) : Option (Except Str UInt64 × MachineReader) :=
  m.readFixed 8 fun m ↦ (m.joinLE 0 0 8).map (Prod.map UInt64.ofBitVec id)

def readI64 (m : MachineReader) : Option (Except Str Int64 × MachineReader) := do
  let (raw, m) ← m.readU64
  return (raw.map UInt64.toInt64, m)

/-- `take` copies the bytes, which the two callers do in different ways. -/
def readSized (m : MachineReader) (limit : UInt64)
    (take : MachineReader → UInt64 → Option (List UInt8)) (truncated exceeds bad : Str) :
    Option (Except Str (List UInt8) × MachineReader) := do
  match ← m.readU32 with
  | (.error _, m) => return (.error truncated, m)
  | (.ok size, m) =>
      if limit < size.toUInt64 then
        return (.error exceeds, m)
      else if ← m.has size.toUInt64 then
        let value ← take m size.toUInt64
        let offset ← addSizes m.offset size.toUInt64
        return (.ok value, { m with offset := offset })
      else
        return (.error bad, m)

/-- `assign(data() + offset_, size)` -/
def takeString (m : MachineReader) (size : UInt64) : Option (List UInt8) :=
  m.bytes.slice m.offset size

/-- `assign(begin() + offset_, begin() + (offset_ + size))` -/
def takeBytes (m : MachineReader) (size : UInt64) : Option (List UInt8) := do
  let last ← addSizes m.offset size
  m.bytes.range (← toDifference m.offset) (← toDifference last)

def readString (m : MachineReader) (fieldName : Str) : Option (Except Str Str × MachineReader) :=
  m.readSized (UInt64.ofNat kMaxEnvelopeFieldBytes) takeString
    (text "truncated field length for " ++ fieldName)
    (text "field length exceeds limit for " ++ fieldName)
    (text "bad field length for " ++ fieldName)

def readBytes (m : MachineReader) (fieldName : Str) (maxSize : UInt64) :
    Option (Except Str (List UInt8) × MachineReader) :=
  m.readSized maxSize takeBytes (text "truncated field length for " ++ fieldName)
    (fieldName ++ text " exceeds maximum size") (text "bad field length for " ++ fieldName)

/-! ## What the machine does -/

/-- The reader after so many bytes more. -/
def advance (m : MachineReader) (size : UInt64) : MachineReader :=
  { m with offset := m.offset + size }

/-- The machine has the bytes of the reader and stands where it does. -/
structure Models (m : MachineReader) (r : Reader) : Prop where
  bytes : m.bytes.bytes = r.bytes
  offset : m.offset.toNat = r.offset

section Steps

variable {m : MachineReader} {r : Reader}

theorem Models.length_lt (h : Models m r) : r.bytes.length < 2 ^ 63 :=
  h.bytes ▸ m.bytes.length_lt

/-- What is in the vector neither wraps nor is lost. -/
theorem Models.addSizes_eq (h : Models m r) {size : UInt64} (hhas : r.Has size.toNat) :
    addSizes m.offset size = some (m.offset + size) ∧
      (m.offset + size).toNat = m.offset.toNat + size.toNat := by
  have hlimit := h.length_lt
  have hend := hhas.offset_add_le
  rw [← h.offset] at hend
  have hfits : m.offset.toNat + size.toNat < 2 ^ 64 := by omega
  exact ⟨if_pos hfits, toNat_add_of_fits hfits⟩

theorem Models.advance (h : Models m r) {size : UInt64} (hhas : r.Has size.toNat) :
    Models (m.advance size) (r.advance size.toNat hhas) :=
  ⟨h.bytes, (h.addSizes_eq hhas).2.trans (congrArg (· + size.toNat) h.offset)⟩

theorem Models.has_eq (h : Models m r) (size : UInt64) :
    m.has size = some (decide (r.Has size.toNat)) := by
  have hsize : m.bytes.size.toNat = r.bytes.length := m.bytes.size_toNat.trans (by rw [h.bytes])
  have hfits : size ≤ m.bytes.size ↔ size.toNat ≤ r.bytes.length := by
    rw [UInt64.le_iff_toNat_le, hsize]
  rw [has]
  by_cases hle : size ≤ m.bytes.size
  · have hroom : m.offset ≤ m.bytes.size - size ↔ r.Has size.toNat := by
      rw [UInt64.le_iff_toNat_le, UInt64.toNat_sub_of_le _ _ hle, hsize, h.offset, Reader.Has,
        and_iff_right (hfits.mp hle)]
    rw [if_pos hle, subSizes, if_pos hle, Option.map_some, decide_eq_decide.mpr hroom]
  · have hnot : ¬r.Has size.toNat := fun hhas ↦ hle (hfits.mpr hhas.1)
    rw [if_neg hle, decide_eq_false hnot]

theorem Models.next_eq (h : Models m r) (hhas : r.Has 1) :
    ∃ byte, m.next = some (byte, m.advance 1) ∧
      r.remaining = byte :: (r.advance 1 hhas).remaining := by
  have hlt : r.offset < r.bytes.length := hhas.offset_add_le
  refine ⟨r.bytes[r.offset], ?_, List.drop_eq_getElem_cons hlt⟩
  have hbyte : m.bytes.byteAt m.offset = some r.bytes[r.offset] := by
    rw [ByteVector.byteAt, h.bytes, h.offset]
    exact List.getElem?_eq_getElem hlt
  have hone : r.Has (1 : UInt64).toNat := hhas
  rw [next, hbyte, Option.bind_eq_bind, Option.bind_some, (h.addSizes_eq hone).1]
  rfl

theorem Models.advance_one (h : Models m r) (hhas : r.Has 1) :
    Models (m.advance 1) (r.advance 1 hhas) := by
  have hone : r.Has (1 : UInt64).toNat := hhas
  exact h.advance hone

theorem Models.joinLE_eq {w rounds : ℕ} (h : Models m r) (hhas : r.Has rounds) (i : ℕ)
    (out : BitVec w) :
    ∃ m', m.joinLE i out rounds = some (((r.slice rounds).zipIdx i).foldl Reader.joinStep out, m') ∧
      Models m' (r.advance rounds hhas) := by
  induction rounds generalizing m r i out with
  | zero => exact ⟨m, rfl, h⟩
  | succ rounds ih =>
      have hbounds := hhas.offset_add_le
      have hone : r.Has 1 := ⟨by omega, by omega⟩
      have hrest : (r.advance 1 hone).Has rounds := by
        constructor
        · exact Nat.le_of_lt (Nat.lt_of_succ_le hhas.1)
        · change r.offset + 1 ≤ r.bytes.length - rounds
          omega
      obtain ⟨byte, hnext, hremaining⟩ := h.next_eq hone
      obtain ⟨m', hjoin, hmodels⟩ := ih (h.advance_one hone) hrest (i + 1)
        (Reader.joinStep out (byte, i))
      have hslice : r.slice (rounds + 1) = byte :: (r.advance 1 hone).slice rounds := by
        rw [Reader.slice, hremaining, List.take_succ_cons]
        rfl
      refine ⟨m', ?_, hmodels.bytes, ?_⟩
      · rw [joinLE, hnext, hslice, List.zipIdx_cons, List.foldl_cons]
        exact hjoin
      · rw [hmodels.offset]
        change r.offset + 1 + rounds = r.offset + (rounds + 1)
        omega

/-! ## The machine simulates the reader -/

/-- The read has the result of the other, and leaves the machine where that leaves the reader. -/
def Simulates {α : Type} (read : Option (Except Str α × MachineReader))
    (spec : Except Str α × Reader) : Prop :=
  ∃ m', read = some (spec.1, m') ∧ Models m' spec.2

theorem Models.simulates_readFixed {α : Type} (h : Models m r) {size : UInt64}
    {take : MachineReader → Option (α × MachineReader)} {join : List UInt8 → α}
    (htake : ∀ hhas : r.Has size.toNat, ∃ m', take m = some (join (r.slice size.toNat), m') ∧
      Models m' (r.advance size.toNat hhas)) :
    Simulates (m.readFixed size take) (r.readFixed size.toNat join) := by
  rw [readFixed, h.has_eq, Reader.readFixed]
  by_cases hhas : r.Has size.toNat
  · obtain ⟨m', heq, hmodels⟩ := htake hhas
    rw [dif_pos hhas, decide_eq_true hhas]
    refine ⟨m', ?_, hmodels⟩
    change (take m).bind _ = _
    rw [heq]
    rfl
  · rw [dif_neg hhas, decide_eq_false hhas]
    exact ⟨m, rfl, h⟩

theorem Models.simulates_readU8 (h : Models m r) : Simulates m.readU8 r.readU8 := by
  apply h.simulates_readFixed
  intro hhas
  obtain ⟨byte, hnext, hremaining⟩ := h.next_eq hhas
  refine ⟨m.advance 1, ?_, h.advance_one hhas⟩
  rw [hnext, Reader.slice, hremaining]
  rfl

theorem Models.simulates_readU32 (h : Models m r) : Simulates m.readU32 r.readU32 := by
  apply h.simulates_readFixed
  intro hhas
  obtain ⟨m', hjoin, hmodels⟩ := h.joinLE_eq hhas 0 (0 : BitVec 32)
  exact ⟨m', congrArg (Option.map (Prod.map UInt32.ofBitVec id)) hjoin, hmodels⟩

theorem Models.simulates_readU64 (h : Models m r) : Simulates m.readU64 r.readU64 := by
  apply h.simulates_readFixed
  intro hhas
  obtain ⟨m', hjoin, hmodels⟩ := h.joinLE_eq hhas 0 (0 : BitVec 64)
  exact ⟨m', congrArg (Option.map (Prod.map UInt64.ofBitVec id)) hjoin, hmodels⟩

theorem Models.simulates_readI64 (h : Models m r) : Simulates m.readI64 r.readI64 := by
  obtain ⟨m', hread, hmodels⟩ := h.simulates_readU64
  refine ⟨m', ?_, hmodels⟩
  rw [readI64, hread]
  rfl

theorem Models.takeString_eq (h : Models m r) {size : UInt64} (hhas : r.Has size.toNat) :
    m.takeString size = some (r.slice size.toNat) := by
  have hend := hhas.offset_add_le
  rw [takeString, ByteVector.slice, h.bytes, h.offset, if_pos hend]
  rfl

theorem Models.takeBytes_eq (h : Models m r) {size : UInt64} (hhas : r.Has size.toNat) :
    m.takeBytes size = some (r.slice size.toNat) := by
  have hlimit := h.length_lt
  have hend := hhas.offset_add_le
  obtain ⟨hadd, hsum⟩ := h.addSizes_eq hhas
  rw [h.offset] at hsum
  have hfirst : m.offset.toNat < 2 ^ 63 := by rw [h.offset]; omega
  have hlast : (m.offset + size).toNat < 2 ^ 63 := by omega
  have hfirstInt := toInt_toInt64 hfirst
  have hlastInt := toInt_toInt64 hlast
  rw [h.offset] at hfirstInt
  rw [hsum] at hlastInt
  have hinside : 0 ≤ m.offset.toInt64 ∧ m.offset.toInt64 ≤ (m.offset + size).toInt64 ∧
      (m.offset + size).toInt64.toInt ≤ m.bytes.bytes.length := by
    rw [Int64.le_iff_toInt_le, Int64.le_iff_toInt_le, hfirstInt, hlastInt, h.bytes]
    change (0 : ℤ) ≤ _ ∧ _
    omega
  have hlength : ((m.offset + size).toInt64.toInt - m.offset.toInt64.toInt).toNat =
      size.toNat := by
    rw [hfirstInt, hlastInt]
    omega
  have hfirstDifference : toDifference m.offset = some m.offset.toInt64 := if_pos hfirst
  have hlastDifference : toDifference (m.offset + size) = some (m.offset + size).toInt64 :=
    if_pos hlast
  simp only [takeBytes, hadd, hfirstDifference, hlastDifference, Option.bind_eq_bind,
    Option.bind_some]
  rw [ByteVector.range, if_pos hinside, hlength, hfirstInt, h.bytes]
  rfl

theorem Models.simulates_readSized (h : Models m r) (limit : UInt64)
    {take : MachineReader → UInt64 → Option (List UInt8)}
    (htake : ∀ {m : MachineReader} {r : Reader} {size : UInt64}, Models m r →
      r.Has size.toNat → take m size = some (r.slice size.toNat)) (truncated exceeds bad : Str) :
    Simulates (m.readSized limit take truncated exceeds bad)
      (r.readSized limit.toNat truncated exceeds bad) := by
  obtain ⟨m₁, hread, hmodels⟩ := h.simulates_readU32
  rw [readSized, hread, Reader.readSized]
  generalize r.readU32 = read at hmodels ⊢
  obtain ⟨result, r₁⟩ := read
  cases result with
  | error _ => exact ⟨m₁, rfl, hmodels⟩
  | ok size =>
      have hexceeds : limit < size.toUInt64 ↔ limit.toNat < size.toNat := by
        rw [UInt64.lt_iff_toNat_lt, UInt32.toNat_toUInt64]
      change Simulates (if limit < size.toUInt64 then _ else _)
        (if limit.toNat < size.toNat then _ else _)
      by_cases hlimit : limit < size.toUInt64
      · rw [if_pos hlimit, if_pos (hexceeds.mp hlimit)]
        exact ⟨m₁, rfl, hmodels⟩
      rw [if_neg hlimit, if_neg (mt hexceeds.mpr hlimit), hmodels.has_eq, UInt32.toNat_toUInt64]
      by_cases hhas : r₁.Has size.toNat
      · have hwide : r₁.Has size.toUInt64.toNat := by rwa [UInt32.toNat_toUInt64]
        have hvalue := htake hmodels hwide
        rw [dif_pos hhas, decide_eq_true hhas]
        refine ⟨m₁.advance size.toUInt64, ?_, hmodels.advance hwide⟩
        change (take m₁ size.toUInt64).bind _ = _
        rw [hvalue, Option.bind_some, (hmodels.addSizes_eq hwide).1, UInt32.toNat_toUInt64]
        rfl
      · rw [dif_neg hhas, decide_eq_false hhas]
        exact ⟨m₁, rfl, hmodels⟩

theorem Models.simulates_readString (h : Models m r) (fieldName : Str) :
    Simulates (m.readString fieldName) (r.readString fieldName) :=
  h.simulates_readSized (UInt64.ofNat kMaxEnvelopeFieldBytes)
    (fun hmodels hhas ↦ hmodels.takeString_eq hhas) _ _ _

theorem Models.simulates_readBytes (h : Models m r) (fieldName : Str) (maxSize : UInt64) :
    Simulates (m.readBytes fieldName maxSize) (r.readBytes fieldName maxSize.toNat) :=
  h.simulates_readSized maxSize (fun hmodels hhas ↦ hmodels.takeBytes_eq hhas) _ _ _

end Steps

end MachineReader

/-! ## Reads of all types -/

inductive ReadCall where
  | u8
  | u32
  | u64
  | i64
  | string (fieldName : Str)
  | bytes (fieldName : Str) (maxSize : UInt64)
  deriving DecidableEq

inductive ReadValue where
  | u8 (value : UInt8)
  | u32 (value : UInt32)
  | u64 (value : UInt64)
  | i64 (value : Int64)
  | string (value : Str)
  | bytes (value : List UInt8)
  deriving DecidableEq

/-- What the writers make of the value. -/
def ReadValue.encoded : ReadValue → List UInt8
  | .u8 value => writeU8 value
  | .u32 value => writeU32 value
  | .u64 value => writeU64 value
  | .i64 value => writeI64 value
  | .string value => writeString value
  | .bytes value => writeBytes value

/-- The read of one type as one of all types. -/
def asRead {α ρ : Type} (wrap : α → ReadValue) (read : Except Str α × ρ) :
    Except Str ReadValue × ρ :=
  (read.1.map wrap, read.2)

def Reader.call (r : Reader) : ReadCall → Except Str ReadValue × Reader
  | .u8 => asRead .u8 r.readU8
  | .u32 => asRead .u32 r.readU32
  | .u64 => asRead .u64 r.readU64
  | .i64 => asRead .i64 r.readI64
  | .string fieldName => asRead .string (r.readString fieldName)
  | .bytes fieldName maxSize => asRead .bytes (r.readBytes fieldName maxSize.toNat)

namespace MachineReader

def call (m : MachineReader) : ReadCall → Option (Except Str ReadValue × MachineReader)
  | .u8 => m.readU8.map (asRead .u8)
  | .u32 => m.readU32.map (asRead .u32)
  | .u64 => m.readU64.map (asRead .u64)
  | .i64 => m.readI64.map (asRead .i64)
  | .string fieldName => (m.readString fieldName).map (asRead .string)
  | .bytes fieldName maxSize => (m.readBytes fieldName maxSize).map (asRead .bytes)

theorem Simulates.asRead {α : Type} {read : Option (Except Str α × MachineReader)}
    {spec : Except Str α × Reader} (h : Simulates read spec) (wrap : α → ReadValue) :
    Simulates (read.map (asRead wrap)) (asRead wrap spec) := by
  obtain ⟨m', rfl, hmodels⟩ := h
  exact ⟨m', rfl, hmodels⟩

theorem Models.simulates_call {m : MachineReader} {r : Reader} (h : Models m r) (call : ReadCall) :
    Simulates (m.call call) (r.call call) := by
  cases call with
  | u8 => exact h.simulates_readU8.asRead _
  | u32 => exact h.simulates_readU32.asRead _
  | u64 => exact h.simulates_readU64.asRead _
  | i64 => exact h.simulates_readI64.asRead _
  | string fieldName => exact (h.simulates_readString fieldName).asRead _
  | bytes fieldName maxSize => exact (h.simulates_readBytes fieldName maxSize).asRead _

end MachineReader

namespace Reader

/-! ## What a read leaves -/

/-- The reader stands on the same bytes, and not before where it stood. -/
structure Follows (r r' : Reader) : Prop where
  bytes : r'.bytes = r.bytes
  offset_le : r.offset ≤ r'.offset

theorem Follows.refl (r : Reader) : r.Follows r := ⟨rfl, le_refl _⟩

theorem Follows.trans {r₁ r₂ r₃ : Reader} (h : r₁.Follows r₂) (h' : r₂.Follows r₃) :
    r₁.Follows r₃ := ⟨h'.bytes.trans h.bytes, h.offset_le.trans h'.offset_le⟩

theorem follows_advance (r : Reader) {size : ℕ} (h : r.Has size) : r.Follows (r.advance size h) :=
  ⟨rfl, Nat.le_add_right _ _⟩

theorem follows_readFixed {α : Type} (r : Reader) (size : ℕ) (join : List UInt8 → α) :
    r.Follows (r.readFixed size join).2 := by
  rw [readFixed]
  split
  · next hhas => exact r.follows_advance hhas
  · exact .refl r

theorem follows_readU8 (r : Reader) : r.Follows r.readU8.2 := r.follows_readFixed 1 _

theorem follows_readU32 (r : Reader) : r.Follows r.readU32.2 := r.follows_readFixed 4 _

theorem follows_readU64 (r : Reader) : r.Follows r.readU64.2 := r.follows_readFixed 8 _

/-- A length that is refused has been read nevertheless. -/
theorem follows_readSized (r : Reader) (limit : ℕ) (truncated exceeds bad : Str) :
    r.Follows (r.readSized limit truncated exceeds bad).2 := by
  have hlength := r.follows_readU32
  rw [readSized]
  generalize r.readU32 = read at hlength ⊢
  obtain ⟨result, r₁⟩ := read
  cases result with
  | error _ => exact hlength
  | ok size =>
      dsimp only
      split
      · exact hlength
      · split
        · next hhas => exact hlength.trans (r₁.follows_advance hhas)
        · exact hlength

theorem follows_call (r : Reader) (call : ReadCall) : r.Follows (r.call call).2 := by
  cases call with
  | u8 => exact r.follows_readU8
  | u32 => exact r.follows_readU32
  | u64 => exact r.follows_readU64
  | i64 => exact r.follows_readU64
  | string fieldName => exact r.follows_readSized _ _ _ _
  | bytes fieldName maxSize => exact r.follows_readSized _ _ _ _

theorem remaining_asRead {α : Type} {r : Reader} (codec : ByteCodec α) {wrap : α → ReadValue}
    (hencoded : ∀ value, (wrap value).encoded = codec.write value) {value : ReadValue}
    (h : (asRead wrap (codec.read r)).1 = .ok value) :
    r.remaining = value.encoded ++ (asRead wrap (codec.read r)).2.remaining := by
  cases hread : codec.read r with
  | mk result r' =>
      rw [hread] at h
      cases result with
      | error _ => cases h
      | ok read =>
          obtain rfl := Except.ok.inj h
          rw [hencoded]
          exact (codec.sound hread).2

/-- What a successful read has taken is the encoding of its value. -/
theorem remaining_call {r : Reader} {call : ReadCall} {value : ReadValue}
    (h : (r.call call).1 = .ok value) :
    r.remaining = value.encoded ++ (r.call call).2.remaining := by
  cases call with
  | u8 => exact remaining_asRead ByteCodec.u8 (fun _ ↦ rfl) h
  | u32 => exact remaining_asRead ByteCodec.u32 (fun _ ↦ rfl) h
  | u64 => exact remaining_asRead ByteCodec.u64 (fun _ ↦ rfl) h
  | i64 => exact remaining_asRead ByteCodec.i64 (fun _ ↦ rfl) h
  | string fieldName => exact remaining_asRead (ByteCodec.string fieldName) (fun _ ↦ rfl) h
  | bytes fieldName maxSize =>
      exact remaining_asRead (ByteCodec.bytes fieldName maxSize.toNat) (fun _ ↦ rfl) h

theorem offset_call {r : Reader} {call : ReadCall} {value : ReadValue}
    (h : (r.call call).1 = .ok value) :
    (r.call call).2.offset = r.offset + value.encoded.length := by
  have hlength := congrArg List.length (remaining_call h)
  have hbytes := (r.follows_call call).bytes
  have hbefore := r.offset_le
  have hafter := (r.call call).2.offset_le
  rw [List.length_append, remaining, remaining, List.length_drop, List.length_drop, hbytes]
    at hlength
  rw [hbytes] at hafter
  omega

end Reader

/-! ## Whole runs -/

namespace MachineReader

def ofBytes (bytes : ByteVector) : MachineReader := { bytes := bytes }

/-- The reader after these calls, whether they succeed or fail. -/
def run (m : MachineReader) (calls : List ReadCall) : Option MachineReader :=
  calls.foldlM (fun m call ↦ (m.call call).map Prod.snd) m

theorem models_ofBytes (bytes : ByteVector) :
    Models (ofBytes bytes) (Reader.ofBytes bytes.bytes) := ⟨rfl, rfl⟩

theorem Models.run {m : MachineReader} {r : Reader} (h : Models m r) (calls : List ReadCall) :
    ∃ m' r', m.run calls = some m' ∧ Models m' r' ∧ r.Follows r' := by
  induction calls generalizing m r with
  | nil => exact ⟨m, r, rfl, h, .refl r⟩
  | cons call calls ih =>
      obtain ⟨m₁, hcall, hmodels⟩ := h.simulates_call call
      obtain ⟨m', r', hrun, hmodels', hfollows⟩ := ih hmodels
      refine ⟨m', r', ?_, hmodels', (r.follows_call call).trans hfollows⟩
      rw [MachineReader.run, List.foldlM_cons, hcall]
      exact hrun

/-- A read within the vector, which goes forward, and by what it has read if
it succeeds. -/
structure Inside (before : MachineReader) (result : Except Str ReadValue) (after : MachineReader) :
    Prop where
  bytes : after.bytes = before.bytes
  forward : before.offset ≤ after.offset
  inside : after.offset ≤ after.bytes.size
  consumed : ∀ value, result = .ok value →
    after.offset.toNat = before.offset.toNat + value.encoded.length

theorem Models.inside {m m' : MachineReader} {r : Reader} {call : ReadCall} (h : Models m r)
    (h' : Models m' (r.call call).2) : Inside m (r.call call).1 m' where
  bytes := ByteVector.ext (by rw [h'.bytes, h.bytes, (r.follows_call call).bytes])
  forward := by
    rw [UInt64.le_iff_toNat_le, h.offset, h'.offset]
    exact (r.follows_call call).offset_le
  inside := by
    rw [UInt64.le_iff_toNat_le, ByteVector.size_toNat, h'.offset, h'.bytes]
    exact (r.call call).2.offset_le
  consumed value hvalue := by
    rw [h.offset, h'.offset]
    exact Reader.offset_call hvalue

/-- After any reads of any vector, every further read has a result: no access
is outside the vector and no computation wraps. -/
theorem reads_inside (bytes : ByteVector) (calls : List ReadCall) (call : ReadCall) :
    ∃ m result m', (ofBytes bytes).run calls = some m ∧ m.bytes = bytes ∧
      m.call call = some (result, m') ∧ Inside m result m' := by
  obtain ⟨m, r, hrun, hmodels, hfollows⟩ := (models_ofBytes bytes).run calls
  obtain ⟨m', hcall, hmodels'⟩ := hmodels.simulates_call call
  have hbytes : m.bytes = bytes := ByteVector.ext (hmodels.bytes.trans hfollows.bytes)
  exact ⟨m, (r.call call).1, m', hrun, hbytes, hcall, hmodels.inside hmodels'⟩

/-- The length has been read, and what it promises is not there. -/
example : ((ofBytes ⟨[5, 0, 0, 0, 7], by decide⟩).run [.string [], .u8]).map offset = some 5 := by
  decide +kernel

/-- Without the check there would be no result at the end. -/
example : (ofBytes ⟨[], by decide⟩).next = none := rfl

end MachineReader

end RuntimeSync
