import RuntimeSync.Core.EnvelopeLaws
import RuntimeSync.Library.CrcRegister

/-!
# Corrupted payloads

The payload is what an envelope ends with, and its checksum is what the decoder
checks last.  So bytes that are damaged in the payload alone are refused for
the checksum, provided that the damage fits the register.
-/

namespace RuntimeSync

/-! ## The checksum register -/

def crcPolynomial : BitVec 32 := 0x82f63b78#32

theorem crcMask (c : BitVec 32) : -(c &&& 1#32) = if c.getLsbD 0 then -1#32 else 0#32 := by
  rw [BitVec.and_one_eq_setWidth_ofBool_getLsbD]
  cases c.getLsbD 0 with
  | false => rfl
  | true => rfl

theorem crcBit_toBitVec (crc : UInt32) :
    (crcBit crc).toBitVec = CrcRegister.shift crcPolynomial crc.toBitVec := by
  have hbit : (crcBit crc).toBitVec =
      (crc.toBitVec >>> 1) ^^^ (crcPolynomial &&& -(crc.toBitVec &&& 1#32)) := rfl
  rw [hbit, crcMask, CrcRegister.shift]
  cases crc.toBitVec.getLsbD 0 with
  | false => rfl
  | true => rfl

theorem crcByte_toBitVec (crc : UInt32) (value : UInt8) :
    (crcByte crc value).toBitVec = CrcRegister.feed crcPolynomial crc.toBitVec value := by
  rw [crcByte, CrcRegister.feed]
  exact (Function.Semiconj.iterate_right crcBit_toBitVec 8) _

theorem foldl_crcByte_toBitVec (data : List UInt8) (crc : UInt32) :
    (data.foldl crcByte crc).toBitVec =
      data.foldl (CrcRegister.feed crcPolynomial) crc.toBitVec := by
  induction data generalizing crc with
  | nil => rfl
  | cons value data ih => rw [List.foldl_cons, List.foldl_cons, ih, crcByte_toBitVec]

theorem crc32c_ne_of_burst (before after : List UInt8) {burst burst' : List UInt8}
    (hlength : burst.length = burst'.length) (hfits : burst.length ≤ 4) (hne : burst ≠ burst') :
    crc32c (before ++ burst ++ after) ≠ crc32c (before ++ burst' ++ after) := by
  intro h
  have hregister : (before ++ burst ++ after).foldl crcByte 0xffffffff =
      (before ++ burst' ++ after).foldl crcByte 0xffffffff := UInt32.not_inj.mp h
  refine CrcRegister.foldl_feed_ne_of_burst (p := crcPolynomial) (by decide)
    (0xffffffff : UInt32).toBitVec before after hlength (by omega) hne ?_
  rw [← foldl_crcByte_toBitVec, ← foldl_crcByte_toBitVec, hregister]

/-! ## Damaged bytes -/

/-- The byte vectors have one length and differ only from `low` on and below `high`. -/
def DiffersWithin (low high : ℕ) (b b' : List UInt8) : Prop :=
  b'.length = b.length ∧ ∀ i, b'[i]? ≠ b[i]? → low ≤ i ∧ i < high

theorem DiffersWithin.take_eq {low high : ℕ} {b b' : List UInt8} (h : DiffersWithin low high b b') :
    b'.take low = b.take low := by
  apply List.ext_getElem?
  intro i
  by_cases hi : i < low
  · rw [List.getElem?_take_of_lt hi, List.getElem?_take_of_lt hi]
    by_contra hne
    exact absurd hi (Nat.not_lt.mpr (h.2 i hne).1)
  · rw [List.getElem?_take, List.getElem?_take, if_neg hi, if_neg hi]

theorem DiffersWithin.drop_eq {low high : ℕ} {b b' : List UInt8} (h : DiffersWithin low high b b') :
    b'.drop high = b.drop high := by
  apply List.ext_getElem?
  intro i
  rw [List.getElem?_drop, List.getElem?_drop]
  by_contra hne
  have hlt := (h.2 (high + i) hne).2
  omega

theorem DiffersWithin.mono {low high high' : ℕ} {b b' : List UInt8}
    (h : DiffersWithin low high b b') (hhigh : high ≤ high') : DiffersWithin low high' b b' :=
  ⟨h.1, fun i hne ↦ ⟨(h.2 i hne).1, (h.2 i hne).2.trans_le hhigh⟩⟩

/-- The damage after a common beginning. -/
theorem DiffersWithin.drop {low high n : ℕ} {b b' : List UInt8} (h : DiffersWithin low high b b') :
    DiffersWithin (low - n) (high - n) (b.drop n) (b'.drop n) := by
  constructor
  · rw [List.length_drop, List.length_drop, h.1]
  · intro i hne
    rw [List.getElem?_drop, List.getElem?_drop] at hne
    have hi := h.2 (n + i) hne
    omega

theorem differsWithin_concat (b : List UInt8) (x y : UInt8) :
    DiffersWithin b.length (b.length + 1) (b ++ [x]) (b ++ [y]) := by
  refine ⟨by simp, fun i hne ↦ ?_⟩
  by_contra hi
  refine hne ?_
  by_cases hlt : i < b.length
  · rw [List.getElem?_append_left hlt, List.getElem?_append_left hlt]
  · rw [List.getElem?_eq_none, List.getElem?_eq_none]
    · simp
      omega
    · simp
      omega

theorem crc32c_ne_of_differsWithin {start : ℕ} {data data' : List UInt8}
    (h : DiffersWithin start (start + 4) data data') (hne : data' ≠ data) :
    crc32c data' ≠ crc32c data := by
  have hsplit (l : List UInt8) :
      l = l.take start ++ (l.drop start).take 4 ++ l.drop (start + 4) := by
    rw [List.append_assoc, ← List.drop_drop, List.take_append_drop, List.take_append_drop]
  rw [hsplit data, hsplit data', h.take_eq, h.drop_eq]
  refine crc32c_ne_of_burst _ _ ?_ ?_ fun hburst ↦ hne ?_
  · simp [h.1]
  · simp
  · rw [hsplit data', hsplit data, h.take_eq, h.drop_eq, hburst]

/-! ## The end of the image -/

theorem exists_frame (w : WireEnvelope) : ∃ frame, ∀ payload : List UInt8,
    payload.length = w.payload.length →
      ({ w with payload := payload } : WireEnvelope).image = frame ++ payload := by
  refine ⟨?_, fun payload hlength ↦ ?_⟩
  rotate_left
  · have hpayload : lengthPrefixed payload =
        LittleEndian.bytes 4 w.payload.length ++ payload := by rw [lengthPrefixed, hlength]
    unfold WireEnvelope.image
    dsimp only
    rw [hpayload, ← List.append_assoc]

/-! ## What the decoder says -/

/-- The checksum is the last check. -/
theorem validateSampleEnvelope_of_crc {e : SampleEnvelope}
    {options : SampleEnvelopeValidationOptions} (h : e.Checked options.maxPayloadBytes)
    (hverify : options.verifyPayloadCrc = true) (hcrc : crc32c e.payload ≠ e.payloadCrc32c) :
    validateSampleEnvelope e options =
      errorResult .badPayload (text "payload crc mismatch") e := by
  have hkeys := (validateRequiredKeyFields_eq_ok_iff e).mpr h.keys
  have hstatus := (isKnownProducerStatus_iff _).mpr h.status
  have hmismatch : verifyPayloadCrc e = false := beq_false_of_ne hcrc
  simp [validateSampleEnvelope, h.schemaVersion, Nat.not_lt.mpr h.payload, hkeys, hstatus,
    hverify, hmismatch]

namespace EnvelopeCodec

theorem decode_of_damaged {codec : EnvelopeCodec} {b : List UInt8} {w : WireEnvelope}
    (h : codec.Parses b w) {payload : List UInt8} (hlength : payload.length = w.payload.length)
    (hcrc : crc32c payload ≠ crc32c w.payload) :
    codec.decode ({ w with payload := payload } : WireEnvelope).image =
      errorResult .badPayload (text "payload crc mismatch")
        ({ w with payload := payload } : WireEnvelope).completed := by
  obtain ⟨-, hvalid, hadmits, hmatch⟩ := (codec.parses_iff b w).mp h
  have hvalid' : RecordFormat.Valid (envelopeSlots codec.maxPayloadBytes)
      ({ w with payload := payload } : WireEnvelope) := by
    rw [valid_slots_iff] at hvalid ⊢
    exact ⟨hvalid.1, hlength ▸ hvalid.2⟩
  have hchecked : ({ w with payload := payload } : WireEnvelope).completed.Checked
      codec.maxPayloadBytes :=
    ⟨hadmits.checked.schemaVersion, hlength.trans_le hadmits.checked.payload,
      hadmits.checked.keys, hadmits.checked.status⟩
  have hrefused : validateSampleEnvelope ({ w with payload := payload } : WireEnvelope).completed
      ⟨codec.maxPayloadBytes, true⟩ = _ :=
    validateSampleEnvelope_of_crc hchecked rfl (hmatch ▸ hcrc)
  rw [codec.decode_image hvalid', validate, hrefused]
  rfl

theorem payload_of_parses {codec : EnvelopeCodec} {b : List UInt8} {w : WireEnvelope}
    (h : codec.Parses b w) : (codec.decode b).envelope.payload = w.payload := by
  rw [decode_of_parses h]
  rfl

/-- Damage to the payload of an accepted envelope that fits into four
consecutive bytes is found. -/
theorem decode_damaged (codec : EnvelopeCodec) (b b' : List UInt8) (start : ℕ)
    (hok : (codec.decode b).ok = true)
    (hpayload : DiffersWithin (b.length - (codec.decode b).envelope.payload.length) b.length b b')
    (hwindow : DiffersWithin start (start + 4) b b') (hne : b' ≠ b) :
    (codec.decode b').ok = false ∧ (codec.decode b').status = .badPayload := by
  obtain ⟨w, hw⟩ := parses_of_decode hok
  obtain ⟨frame, hframe⟩ := exists_frame w
  have hb : b = frame ++ w.payload := hw.image.trans (hframe w.payload rfl)
  have hcut : b.length - (codec.decode b).envelope.payload.length = frame.length := by
    rw [payload_of_parses hw, hb, List.length_append, Nat.add_sub_cancel]
  rw [hcut] at hpayload
  have hpayload_eq : b.drop frame.length = w.payload := by rw [hb, List.drop_left]
  have hb' : b' = frame ++ b'.drop frame.length := by
    conv_lhs => rw [← List.take_append_drop frame.length b', hpayload.take_eq, hb, List.take_left]
  have hlength : (b'.drop frame.length).length = w.payload.length := by
    rw [List.length_drop, hpayload.1, ← List.length_drop, hpayload_eq]
  have hdamage : DiffersWithin (start - frame.length) (start - frame.length + 4)
      w.payload (b'.drop frame.length) := by
    have hdrop := hwindow.drop (n := frame.length)
    rw [hpayload_eq] at hdrop
    exact hdrop.mono (by omega)
  have hcrc := crc32c_ne_of_differsWithin hdamage fun hsame ↦ hne (by rw [hb', hsame, hb])
  rw [hb', ← hframe _ hlength, decode_of_damaged hw hlength hcrc]
  exact ⟨rfl, rfl⟩

/-- The payload of this envelope is its last byte, which is damaged. -/
theorem foreignFields_damaged :
    (decode {} (foreignFields.image.dropLast ++ [9])).ok = false ∧
      (decode {} (foreignFields.image.dropLast ++ [9])).status = .badPayload := by
  have hlast : foreignFields.image.dropLast ++ [7] = foreignFields.image := by decide +kernel
  have hcut : foreignFields.image.length - (decode {} foreignFields.image).envelope.payload.length
      = foreignFields.image.dropLast.length := by decide +kernel
  have hdamage : DiffersWithin foreignFields.image.dropLast.length
      (foreignFields.image.dropLast.length + 1) foreignFields.image
      (foreignFields.image.dropLast ++ [9]) := by
    have hconcat := differsWithin_concat foreignFields.image.dropLast 7 9
    rwa [hlast] at hconcat
  refine decode_damaged {} foreignFields.image (foreignFields.image.dropLast ++ [9])
    foreignFields.image.dropLast.length (by decide +kernel) ?_ ?_ (by decide +kernel)
  · rw [hcut]
    exact hdamage.mono (by decide +kernel)
  · exact hdamage.mono (Nat.add_le_add_left (by decide) _)

end EnvelopeCodec

end RuntimeSync
