import RuntimeSync.Core.SampleEnvelope
import RuntimeSync.Library.LittleEndian
import RuntimeSync.Library.RecordFormat

/-!
# Reading and writing wire values

The writers append little-endian words and length-prefixed byte sequences,
and `Reader` walks over received bytes with an offset that never leaves them.
Each pair of a writer and a reader is a codec.
-/

namespace RuntimeSync

/-! ## Writers -/

def writeLE {w : ℕ} (count : ℕ) (value : BitVec w) : List UInt8 :=
  (List.range count).map fun i ↦ ((value >>> (i * 8)) &&& 0xff).toNat.toUInt8

def writeU8 (value : UInt8) : List UInt8 := [value]
def writeU32 (value : UInt32) : List UInt8 := writeLE 4 value.toBitVec
def writeU64 (value : UInt64) : List UInt8 := writeLE 8 value.toBitVec
def writeI64 (value : Int64) : List UInt8 := writeU64 value.toUInt64

/-- The length is cast to 32 bits before it is written. -/
def writeString (value : Str) : List UInt8 := writeU32 (UInt32.ofNat value.length) ++ value
def writeBytes (value : List UInt8) : List UInt8 :=
  writeU32 (UInt32.ofNat value.length) ++ value

/-! ## The reader -/

structure Reader where
  bytes : List UInt8
  offset : ℕ
  offset_le : offset ≤ bytes.length

namespace Reader

def ofBytes (bytes : List UInt8) : Reader := ⟨bytes, 0, Nat.zero_le _⟩

def Has (r : Reader) (size : ℕ) : Prop :=
  size ≤ r.bytes.length ∧ r.offset ≤ r.bytes.length - size

instance (r : Reader) (size : ℕ) : Decidable (r.Has size) :=
  inferInstanceAs (Decidable (_ ∧ _))

theorem Has.offset_add_le {r : Reader} {size : ℕ} (h : r.Has size) :
    r.offset + size ≤ r.bytes.length := by
  unfold Has at h
  omega

def remaining (r : Reader) : List UInt8 := r.bytes.drop r.offset

def slice (r : Reader) (size : ℕ) : List UInt8 := r.remaining.take size

def advance (r : Reader) (size : ℕ) (h : r.Has size) : Reader :=
  ⟨r.bytes, r.offset + size, h.offset_add_le⟩

def done (r : Reader) : Bool := r.offset == r.bytes.length

/-- A read that fails for want of bytes reports no reason of its own and
leaves the offset where it was. -/
def readFixed {α : Type} (r : Reader) (size : ℕ) (join : List UInt8 → α) : Except Str α × Reader :=
  if h : r.Has size then (.ok (join (r.slice size)), r.advance size h) else (.error [], r)

/-- `out |= bytes_[offset_++] << (i * 8)`, for a byte and its index. -/
def joinStep {w : ℕ} (out : BitVec w) (byte : UInt8 × ℕ) : BitVec w :=
  out ||| (byte.1.toBitVec.setWidth w <<< (byte.2 * 8))

def joinLE (w : ℕ) (slice : List UInt8) : BitVec w := slice.zipIdx.foldl joinStep 0

def readU8 (r : Reader) : Except Str UInt8 × Reader := r.readFixed 1 fun s ↦ s.headD 0

def readU32 (r : Reader) : Except Str UInt32 × Reader :=
  r.readFixed 4 fun s ↦ UInt32.ofBitVec (joinLE 32 s)

def readU64 (r : Reader) : Except Str UInt64 × Reader :=
  r.readFixed 8 fun s ↦ UInt64.ofBitVec (joinLE 64 s)

def readI64 (r : Reader) : Except Str Int64 × Reader :=
  let (raw, r) := r.readU64
  (raw.map UInt64.toInt64, r)

/-- A length word and that many bytes; the three reasons are for a missing
length, a length above the limit, and a length the bytes do not cover. -/
def readSized (r : Reader) (limit : ℕ) (truncated exceeds bad : Str) :
    Except Str (List UInt8) × Reader :=
  match r.readU32 with
  | (.error _, r) => (.error truncated, r)
  | (.ok size, r) =>
      if limit < size.toNat then (.error exceeds, r)
      else if h : r.Has size.toNat then (.ok (r.slice size.toNat), r.advance size.toNat h)
      else (.error bad, r)

def readString (r : Reader) (fieldName : Str) : Except Str Str × Reader :=
  r.readSized kMaxEnvelopeFieldBytes (text "truncated field length for " ++ fieldName)
    (text "field length exceeds limit for " ++ fieldName)
    (text "bad field length for " ++ fieldName)

def readBytes (r : Reader) (fieldName : Str) (maxSize : ℕ) : Except Str (List UInt8) × Reader :=
  r.readSized maxSize (text "truncated field length for " ++ fieldName)
    (fieldName ++ text " exceeds maximum size") (text "bad field length for " ++ fieldName)

/-! ## What a read consumes -/

theorem has_iff (r : Reader) (size : ℕ) : r.Has size ↔ size ≤ r.remaining.length := by
  have := r.offset_le
  simp only [Has, remaining, List.length_drop]
  omega

@[simp] theorem remaining_advance (r : Reader) (size : ℕ) (h : r.Has size) :
    (r.advance size h).remaining = r.remaining.drop size := by
  simp [advance, remaining]

theorem remaining_eq_slice_append (r : Reader) {size : ℕ} (h : r.Has size) :
    r.remaining = r.slice size ++ (r.advance size h).remaining := by
  simp [slice]

theorem length_slice (r : Reader) {size : ℕ} (h : r.Has size) :
    (r.slice size).length = size := by
  simpa [slice] using (r.has_iff size).mp h

@[simp] theorem remaining_ofBytes (bytes : List UInt8) : (ofBytes bytes).remaining = bytes := rfl

theorem done_iff (r : Reader) : r.done = true ↔ r.remaining = [] := by
  have := r.offset_le
  simp only [done, beq_iff_eq, remaining, List.drop_eq_nil_iff]
  omega

theorem slice_of_append {r : Reader} {xs rest : List UInt8} (h : r.remaining = xs ++ rest) :
    ∃ hhas : r.Has xs.length, r.slice xs.length = xs ∧
      (r.advance xs.length hhas).remaining = rest := by
  have hhas : r.Has xs.length := by simp [has_iff, h]
  exact ⟨hhas, by simp [slice, h], by simp [h]⟩

end Reader

/-! ## Words -/

theorem writeLE_eq_bytes {w : ℕ} (hw : 8 ≤ w) (count : ℕ) (value : BitVec w) :
    writeLE count value = LittleEndian.bytes count value.toNat := by
  rw [LittleEndian.bytes_eq_map, writeLE]
  refine List.map_congr_left fun i _ ↦ ?_
  have hmask : (255 : ℕ) % 2 ^ w = 2 ^ 8 - 1 :=
    Nat.mod_eq_of_lt ((by norm_num : 255 < 2 ^ 8).trans_le (Nat.pow_le_pow_right (by omega) hw))
  have hpow : 2 ^ (i * 8) = 256 ^ i := by rw [mul_comm, pow_mul]; norm_num
  have hbyte : ((value >>> (i * 8)) &&& 0xff).toNat = value.toNat / 256 ^ i % 2 ^ 8 := by
    have hff : (0xff : BitVec w).toNat = 2 ^ 8 - 1 := by rw [← hmask]; exact BitVec.toNat_ofNat ..
    rw [BitVec.toNat_and, BitVec.toNat_ushiftRight, hff,
      Nat.and_two_pow_sub_one_eq_mod, Nat.shiftRight_eq_div_pow, hpow]
  rw [hbyte]
  apply UInt8.toNat_inj.mp
  simp

theorem joinLE_foldl {w : ℕ} (slice : List UInt8) (k : ℕ) (out : BitVec w)
    (hw : 8 * (k + slice.length) ≤ w) :
    ((slice.zipIdx k).foldl Reader.joinStep out).toNat =
      out.toNat ||| LittleEndian.value slice <<< (k * 8) := by
  induction slice generalizing k out with
  | nil => simp [LittleEndian.value]
  | cons b bs ih =>
      rw [List.length_cons] at hw
      have hb : b.toNat < 2 ^ 8 := b.toNat_lt
      have hlow : b.toNat % 2 ^ w = b.toNat :=
        Nat.mod_eq_of_lt (hb.trans_le (Nat.pow_le_pow_right (by omega) (by omega)))
      have hshift : b.toNat <<< (k * 8) % 2 ^ w = b.toNat <<< (k * 8) := by
        apply Nat.mod_eq_of_lt
        rw [Nat.shiftLeft_eq]
        calc
          b.toNat * 2 ^ (k * 8) < 2 ^ 8 * 2 ^ (k * 8) :=
            Nat.mul_lt_mul_of_pos_right hb (by positivity)
          _ = 2 ^ (8 + k * 8) := (pow_add 2 8 (k * 8)).symm
          _ ≤ 2 ^ w := Nat.pow_le_pow_right (by omega) (by omega)
      rw [List.zipIdx_cons, List.foldl_cons, ih (k + 1) _ (by omega)]
      rw [LittleEndian.value_cons, Nat.shiftLeft_or_distrib, ← Nat.or_assoc,
        ← Nat.shiftLeft_add]
      congr 2
      · rw [Reader.joinStep, BitVec.toNat_or, BitVec.toNat_shiftLeft, BitVec.toNat_setWidth,
          UInt8.toNat_toBitVec, hlow, hshift]
      · ring

theorem joinLE_toNat {w : ℕ} (slice : List UInt8) (hw : 8 * slice.length ≤ w) :
    (Reader.joinLE w slice).toNat = LittleEndian.value slice := by
  rw [Reader.joinLE, joinLE_foldl slice 0 0 (by omega)]
  simp

section Words

variable {w : ℕ}

theorem joinLE_writeLE {count : ℕ} (hcount : 0 < count) (hw : 8 * count = w) (value : BitVec w) :
    Reader.joinLE w (writeLE count value) = value := by
  apply BitVec.eq_of_toNat_eq
  have hpow : 2 ^ w = 256 ^ count := by
    rw [← hw, pow_mul]
    norm_num
  have hlt : value.toNat < 256 ^ count := by
    rw [← hpow]
    exact value.isLt
  rw [writeLE_eq_bytes (by omega), joinLE_toNat _ (by rw [LittleEndian.length_bytes]; omega),
    LittleEndian.value_bytes_of_lt hlt]

theorem writeLE_joinLE {count : ℕ} (hcount : 0 < count) (hw : 8 * count = w)
    {slice : List UInt8} (hlen : slice.length = count) :
    writeLE count (Reader.joinLE w slice) = slice := by
  rw [writeLE_eq_bytes (by omega), joinLE_toNat slice (by omega), ← hlen,
    LittleEndian.bytes_value]

end Words

/-! ## Codecs -/

abbrev ByteCodec (α : Type) := WireCodec Reader UInt8 Str Reader.remaining α

namespace ByteCodec

/-- A codec of values that all take `size` bytes. -/
def fixed {α : Type} (size : ℕ) (write : α → List UInt8) (join : List UInt8 → α)
    (length_write : ∀ v, (write v).length = size) (join_write : ∀ v, join (write v) = v)
    (write_join : ∀ s, s.length = size → write (join s) = s) : ByteCodec α where
  write := write
  Valid _ := True
  read r := r.readFixed size join
  complete {r v rest} _ hr := by
    obtain ⟨hhas, hslice, hrest⟩ := Reader.slice_of_append hr
    simp only [length_write] at hhas hslice hrest
    exact ⟨r.advance size hhas, by simp [Reader.readFixed, hhas, hslice, join_write], hrest⟩
  sound {r r' v} h := by
    unfold Reader.readFixed at h
    split at h
    · next hhas =>
        simp only [Prod.mk.injEq, Except.ok.injEq] at h
        obtain ⟨rfl, rfl⟩ := h
        rw [write_join _ (r.length_slice hhas)]
        exact ⟨trivial, r.remaining_eq_slice_append hhas⟩
    · simp at h

def u8 : ByteCodec UInt8 :=
  fixed 1 writeU8 (fun s ↦ s.headD 0) (fun _ ↦ rfl) (fun _ ↦ rfl) fun s hs ↦ by
    obtain ⟨b, rfl⟩ := List.length_eq_one_iff.mp hs
    rfl

def u32 : ByteCodec UInt32 :=
  fixed 4 writeU32 (fun s ↦ UInt32.ofBitVec (Reader.joinLE 32 s))
    (fun _ ↦ by simp [writeU32, writeLE])
    (fun v ↦ congrArg UInt32.ofBitVec (joinLE_writeLE (by decide) (show 8 * 4 = 32 from rfl)
      v.toBitVec))
    (fun _ hs ↦ writeLE_joinLE (by decide) rfl hs)

def u64 : ByteCodec UInt64 :=
  fixed 8 writeU64 (fun s ↦ UInt64.ofBitVec (Reader.joinLE 64 s))
    (fun _ ↦ by simp [writeU64, writeLE])
    (fun v ↦ congrArg UInt64.ofBitVec (joinLE_writeLE (by decide) (show 8 * 8 = 64 from rfl)
      v.toBitVec))
    (fun _ hs ↦ writeLE_joinLE (by decide) rfl hs)

def i64 : ByteCodec Int64 :=
  WireCodec.cast u64 ⟨UInt64.toInt64, Int64.toUInt64, UInt64.toUInt64_toInt64,
    Int64.toInt64_toUInt64⟩

theorem u32_read (r : Reader) : u32.read r = r.readU32 := rfl

/-- A length that fits its word and the limit is read back. -/
def sized (limit : ℕ) (truncated exceeds bad : Str) : ByteCodec (List UInt8) where
  write := writeBytes
  Valid v := v.length ≤ limit ∧ v.length < 2 ^ 32
  read r := r.readSized limit truncated exceeds bad
  complete {r v rest} hv hr := by
    obtain ⟨hlimit, hword⟩ := hv
    rw [writeBytes, List.append_assoc] at hr
    obtain ⟨r₁, hread, hr₁⟩ := u32.complete trivial hr
    have hsize : (UInt32.ofNat v.length).toNat = v.length := UInt32.toNat_ofNat_of_lt' hword
    obtain ⟨hhas, hslice, hrest⟩ := Reader.slice_of_append hr₁
    refine ⟨r₁.advance v.length hhas, ?_, hrest⟩
    rw [Reader.readSized, ← u32_read, hread]
    simp [hsize, hlimit, hhas, hslice]
  sound {r r' v} h := by
    rw [Reader.readSized, ← u32_read] at h
    split at h
    · simp at h
    · next size r₁ hread =>
        obtain ⟨-, hr⟩ := u32.sound hread
        split at h
        · simp at h
        · next hlimit =>
            split at h
            · next hhas =>
                simp only [Prod.mk.injEq, Except.ok.injEq] at h
                obtain ⟨rfl, rfl⟩ := h
                have hlen := r₁.length_slice hhas
                have hsize : UInt32.ofNat (r₁.slice size.toNat).length = size := by
                  rw [hlen, UInt32.ofNat_toNat]
                refine ⟨⟨by omega, ?_⟩, ?_⟩
                · rw [hlen]
                  exact size.toNat_lt
                · rw [hr, r₁.remaining_eq_slice_append hhas, writeBytes, hsize,
                    List.append_assoc]
                  rfl
            · simp at h

def string (fieldName : Str) : ByteCodec Str :=
  sized kMaxEnvelopeFieldBytes (text "truncated field length for " ++ fieldName)
    (text "field length exceeds limit for " ++ fieldName)
    (text "bad field length for " ++ fieldName)

def bytes (fieldName : Str) (maxSize : ℕ) : ByteCodec (List UInt8) :=
  sized maxSize (text "truncated field length for " ++ fieldName)
    (fieldName ++ text " exceeds maximum size") (text "bad field length for " ++ fieldName)

end ByteCodec

end RuntimeSync
