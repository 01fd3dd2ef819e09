import RuntimeSync.Core.EnvelopeWire

/-!
# Laws of the envelope codec

Encoding and decoding are each described by one condition on the envelope.
Everything else is a comparison of these conditions.
-/

namespace RuntimeSync

/-! ## Validation -/

theorem validateRequiredKeyField_eq_ok_iff (name value : Str) :
    validateRequiredKeyField name value = .ok () ↔ IsKey value := by
  unfold IsKey
  rw [← TransportKeys.isValidTaskKeyField_iff]
  by_cases hempty : value = []
  · have hkey : TransportKeys.isValidTaskKeyField value = false := by rw [hempty]; rfl
    simp [validateRequiredKeyField, hempty ▸ hkey, hempty]
  · cases hkey : TransportKeys.isValidTaskKeyField value <;>
      simp [validateRequiredKeyField, hempty, hkey]

theorem then_eq_ok_iff (first second : Except Str Unit) :
    (first >>= fun _ ↦ second) = .ok () ↔ first = .ok () ∧ second = .ok () := by
  cases first <;> simp [bind, Except.bind]

def SampleEnvelope.keyFields (e : SampleEnvelope) : List Str :=
  [e.sessionId, e.taskId, e.participantId, e.channel, e.schemaId]

theorem validateRequiredKeyFields_eq_ok_iff (e : SampleEnvelope) :
    validateRequiredKeyFields e = .ok () ↔ ∀ key ∈ e.keyFields, IsKey key := by
  simp [validateRequiredKeyFields, then_eq_ok_iff, validateRequiredKeyField_eq_ok_iff,
    SampleEnvelope.keyFields]

theorem isKnownProducerStatus_iff (status : ProducerStatus) :
    isKnownProducerStatus status = true ↔ status.code ∈ [0, 1, 2, 3, 4, 255] := by
  cases status
  simp [isKnownProducerStatus, ProducerStatus.success, ProducerStatus.timeout,
    ProducerStatus.failed, ProducerStatus.skipped, ProducerStatus.userFallback,
    ProducerStatus.unknown, or_assoc]

/-- The checks that do not depend on the direction. -/
structure SampleEnvelope.Checked (e : SampleEnvelope) (maxPayloadBytes : ℕ) : Prop where
  schemaVersion : e.schemaVersion = kCurrentEnvelopeSchemaVersion
  payload : e.payload.length ≤ maxPayloadBytes
  keys : ∀ key ∈ e.keyFields, IsKey key
  status : e.producerStatus.code ∈ [0, 1, 2, 3, 4, 255]

def accepted (e : SampleEnvelope) : DecodeResult := { ok := true, status := .fresh, envelope := e }

theorem validateSampleEnvelope_of_checked {e : SampleEnvelope}
    {options : SampleEnvelopeValidationOptions} (h : e.Checked options.maxPayloadBytes)
    (hcrc : options.verifyPayloadCrc = true → crc32c e.payload = e.payloadCrc32c) :
    validateSampleEnvelope e options = accepted e := by
  have hkeys := (validateRequiredKeyFields_eq_ok_iff e).mpr h.keys
  have hstatus := (isKnownProducerStatus_iff _).mpr h.status
  have hverify : (options.verifyPayloadCrc && !verifyPayloadCrc e) = false := by
    cases hopt : options.verifyPayloadCrc with
    | false => rfl
    | true => simp [verifyPayloadCrc, hcrc hopt]
  simp [validateSampleEnvelope, h.schemaVersion, Nat.not_lt.mpr h.payload, hkeys, hstatus,
    hverify, accepted]

theorem checked_of_validateSampleEnvelope {e : SampleEnvelope}
    {options : SampleEnvelopeValidationOptions} (h : (validateSampleEnvelope e options).ok = true) :
    e.Checked options.maxPayloadBytes ∧
      (options.verifyPayloadCrc = true → crc32c e.payload = e.payloadCrc32c) := by
  unfold validateSampleEnvelope errorResult at h
  cases hkeys : validateRequiredKeyFields e with
  | error reason =>
      simp only [hkeys, apply_ite DecodeResult.ok] at h
      simp at h
  | ok _ =>
      simp only [hkeys, apply_ite DecodeResult.ok] at h
      split_ifs at h with hversion hpayload hstatus hverify
      refine ⟨⟨not_not.mp hversion, by omega, ?_, ?_⟩, ?_⟩
      · exact (validateRequiredKeyFields_eq_ok_iff e).mp hkeys
      · exact (isKnownProducerStatus_iff _).mp (by simpa using hstatus)
      · intro hopt
        simpa [hopt, verifyPayloadCrc] using hverify

namespace EnvelopeCodec

theorem isSchemaAccepted_iff (codec : EnvelopeCodec) (e : SampleEnvelope) :
    codec.isSchemaAccepted e = true ↔ codec.SchemaAllowed e.channel e.payloadType e.schemaId := by
  simp [isSchemaAccepted, SchemaAllowed]

/-- What `validate` asks of an envelope. -/
structure Admits (codec : EnvelopeCodec) (e : SampleEnvelope) : Prop where
  checked : e.Checked codec.maxPayloadBytes
  schema : codec.SchemaAllowed e.channel e.payloadType e.schemaId

theorem validate_of_admits {codec : EnvelopeCodec} {e : SampleEnvelope} (h : codec.Admits e)
    (hcrc : crc32c e.payload = e.payloadCrc32c) : codec.validate e = accepted e := by
  have hschema := (codec.isSchemaAccepted_iff e).mpr h.schema
  have hvalid : validateSampleEnvelope e ⟨codec.maxPayloadBytes, true⟩ = accepted e :=
    validateSampleEnvelope_of_checked h.checked fun _ ↦ hcrc
  simp [validate, hvalid, hschema, accepted]

theorem admits_of_validate {codec : EnvelopeCodec} {e : SampleEnvelope}
    (h : (codec.validate e).ok = true) :
    codec.Admits e ∧ crc32c e.payload = e.payloadCrc32c := by
  unfold validate at h
  simp only at h
  split_ifs at h with hvalid hschema
  · simp [h] at hvalid
  · simp [errorResult] at h
  · obtain ⟨hchecked, hcrc⟩ := checked_of_validateSampleEnvelope h
    exact ⟨⟨hchecked, (codec.isSchemaAccepted_iff e).mp (by simpa using hschema)⟩, hcrc rfl⟩

/-! ## Encoding -/

/-- What a receiver should see of an envelope: every field as it was, but a
sender that is not named is the participant, and the checksum is computed. -/
def sent (e : SampleEnvelope) : SampleEnvelope :=
  { e with
    senderId := if e.senderId = [] then e.participantId else e.senderId
    payloadCrc32c := crc32c e.payload }

theorem encode_eq_ok_iff (codec : EnvelopeCodec) (e : SampleEnvelope) (b : List UInt8) :
    codec.encode e = .ok b ↔ codec.Admits (withSender e) ∧ b = (sent e).wire.image := by
  rw [← writeEnvelope_eq_image]
  constructor
  · intro h
    unfold encode at h
    simp only at h
    split_ifs at h with hvalid hschema
    have hchecked := checked_of_validateSampleEnvelope (by simpa using hvalid)
    exact ⟨⟨hchecked.1, (codec.isSchemaAccepted_iff _).mp (by simpa using hschema)⟩,
      (Except.ok.inj h).symm⟩
  · rintro ⟨hadmits, hb⟩
    have hvalid : validateSampleEnvelope (withSender e) ⟨codec.maxPayloadBytes, false⟩ =
        accepted (withSender e) :=
      validateSampleEnvelope_of_checked hadmits.checked fun h ↦ absurd h Bool.false_ne_true
    have hschema := (codec.isSchemaAccepted_iff _).mpr hadmits.schema
    simp only [encode, hvalid, hschema, accepted, hb, Bool.not_true, Bool.false_eq_true,
      if_false]
    rfl

/-! ## Decoding -/

/-- Reading the image of valid fields leaves only validation. -/
theorem decode_image (codec : EnvelopeCodec) {w : WireEnvelope}
    (hvalid : RecordFormat.Valid (envelopeSlots codec.maxPayloadBytes) w) :
    codec.decode w.image = codec.validate w.completed := by
  have hbytes : (Reader.ofBytes w.image).remaining = ByteCodec.u32.write kMagic ++
      (ByteCodec.u32.write kFormatVersion ++
        (RecordFormat.write (envelopeSlots codec.maxPayloadBytes) w ++ [])) := by
    rw [Reader.remaining_ofBytes, image_eq_write codec.maxPayloadBytes, wireHeader,
      List.append_assoc, List.append_nil]
    rfl
  obtain ⟨r₁, hmagic, hr₁⟩ := ByteCodec.u32.complete trivial hbytes
  obtain ⟨r₂, hversion, hr₂⟩ := ByteCodec.u32.complete trivial hr₁
  obtain ⟨w', r₃, hread, hr₃, hagree⟩ :=
    RecordFormat.read_write (envelopeSlots_independent _) hvalid {} hr₂
  obtain rfl := (agree_slots_iff _ _ _).mp hagree
  have hdone : r₃.done = true := r₃.done_iff.mpr hr₃
  rw [ByteCodec.u32_read] at hmagic hversion
  simp [decode, hmagic, hversion, hread, hdone]

theorem image_of_decode {codec : EnvelopeCodec} {b : List UInt8} (h : (codec.decode b).ok = true) :
    ∃ w : WireEnvelope, RecordFormat.Valid (envelopeSlots codec.maxPayloadBytes) w ∧
      b = w.image := by
  unfold decode errorResult at h
  split at h
  · simp at h
  next magic r₁ hmagic =>
  split_ifs at h with hmagicEq
  split at h
  · simp at h
  next version r₂ hversion =>
  split_ifs at h with hversionEq
  split at h
  · simp at h
  next w r₃ hread =>
  split_ifs at h with hdone
  obtain ⟨hvalid, hr₂⟩ := RecordFormat.write_of_read (envelopeSlots_independent _) hread
  have hr₃ : r₃.remaining = [] := r₃.done_iff.mp (by simpa using hdone)
  have hr := (ByteCodec.u32.sound hmagic).2
  have hr₁ := (ByteCodec.u32.sound hversion).2
  refine ⟨w, hvalid, ?_⟩
  rw [image_eq_write codec.maxPayloadBytes, wireHeader, ← not_not.mp hmagicEq,
    ← not_not.mp hversionEq, List.append_assoc]
  calc
    b = writeU32 magic ++ r₁.remaining := hr
    _ = writeU32 magic ++ (writeU32 version ++ r₂.remaining) :=
      congrArg (writeU32 magic ++ ·) hr₁
    _ = _ := by rw [hr₂, hr₃, List.append_nil]

/-- Two images that start the same bytes are one image. -/
theorem image_append_inj {maxPayloadBytes : ℕ} {v w : WireEnvelope}
    (hv : RecordFormat.Valid (envelopeSlots maxPayloadBytes) v)
    (hw : RecordFormat.Valid (envelopeSlots maxPayloadBytes) w) {rest rest' : List UInt8}
    (h : v.image ++ rest = w.image ++ rest') : v = w ∧ rest = rest' := by
  rw [image_eq_write maxPayloadBytes, image_eq_write maxPayloadBytes, List.append_assoc,
    List.append_assoc, List.append_cancel_left_eq] at h
  obtain ⟨hagree, hrest⟩ := RecordFormat.write_append_inj
    (envelopeSlots_independent maxPayloadBytes) hv hw
    (Reader.remaining_ofBytes (RecordFormat.write (envelopeSlots maxPayloadBytes) v ++ rest)) h
  exact ⟨(agree_slots_iff _ _ _).mp hagree, hrest⟩

theorem parses_iff (codec : EnvelopeCodec) (b : List UInt8) (w : WireEnvelope) :
    codec.Parses b w ↔ b = w.image ∧ RecordFormat.Valid (envelopeSlots codec.maxPayloadBytes) w ∧
      codec.Admits w.completed ∧ crc32c w.payload = w.payloadCrc32c := by
  rw [valid_slots_iff]
  constructor
  · intro h
    exact ⟨h.image, ⟨h.strings, h.payload, h.payload_word⟩,
      ⟨⟨h.schemaVersion, h.payload, h.keys, h.status⟩, h.schema⟩, h.crc.symm⟩
  · rintro ⟨himage, ⟨hstrings, hpayload, hword⟩, ⟨hchecked, hschema⟩, hcrc⟩
    exact ⟨himage, hchecked.schemaVersion, hstrings, hpayload, hword, hchecked.status,
      hchecked.keys, hcrc.symm, hschema⟩

theorem decode_of_parses {codec : EnvelopeCodec} {b : List UInt8} {w : WireEnvelope}
    (h : codec.Parses b w) : codec.decode b = accepted w.completed := by
  obtain ⟨rfl, hvalid, hadmits, hcrc⟩ := (codec.parses_iff b w).mp h
  rw [codec.decode_image hvalid]
  exact validate_of_admits hadmits hcrc

theorem parses_of_decode {codec : EnvelopeCodec} {b : List UInt8}
    (h : (codec.decode b).ok = true) : ∃ w, codec.Parses b w := by
  obtain ⟨w, hvalid, rfl⟩ := image_of_decode h
  rw [codec.decode_image hvalid] at h
  obtain ⟨hadmits, hcrc⟩ := admits_of_validate h
  exact ⟨w, (codec.parses_iff _ _).mpr ⟨rfl, hvalid, hadmits, hcrc⟩⟩

theorem parses_unique {codec : EnvelopeCodec} {b : List UInt8} {v w : WireEnvelope}
    (hv : codec.Parses b v) (hw : codec.Parses b w) : v = w := by
  have himage : v.image ++ [] = w.image ++ [] := by rw [← hv.image, ← hw.image]
  exact (image_append_inj ((codec.parses_iff _ _).mp hv).2.1 ((codec.parses_iff _ _).mp hw).2.1
    himage).1

/-! ## The accepted bytes -/

theorem eq_of_prefix_of_parses {codec : EnvelopeCodec} {xs ys : List UInt8} {v w : WireEnvelope}
    (hv : codec.Parses xs v) (hw : codec.Parses ys w) (hxy : xs <+: ys) : xs = ys := by
  obtain ⟨rest, hrest⟩ := hxy
  have himages : v.image ++ rest = w.image ++ [] := by
    rw [← hv.image, ← hw.image, hrest, List.append_nil]
  have hv' := ((codec.parses_iff xs v).mp hv).2.1
  have hw' := ((codec.parses_iff ys w).mp hw).2.1
  obtain ⟨-, rfl⟩ := image_append_inj hv' hw' himages
  simpa using hrest

theorem decode_ok_iff_parses (codec : EnvelopeCodec) :
    (∀ b, (codec.decode b).ok = true ↔ ∃ w, codec.Parses b w) ∧
      PrefixFree {b | (codec.decode b).ok = true} := by
  constructor
  · intro b
    constructor
    · exact parses_of_decode
    · rintro ⟨w, hw⟩
      rw [decode_of_parses hw]
      rfl
  · intro xs hxs ys hys hxy
    obtain ⟨v, hv⟩ := parses_of_decode hxs
    obtain ⟨w, hw⟩ := parses_of_decode hys
    exact eq_of_prefix_of_parses hv hw hxy

/-! ## Encoding what was decoded -/

theorem valid_wire_completed {maxPayloadBytes : ℕ} {w : WireEnvelope}
    (h : RecordFormat.Valid (envelopeSlots maxPayloadBytes) w) :
    RecordFormat.Valid (envelopeSlots maxPayloadBytes) w.completed.wire := by
  rw [valid_slots_iff] at h ⊢
  refine ⟨?_, h.2⟩
  have hstrings := h.1
  simp only [WireEnvelope.strings, List.forall_mem_cons] at hstrings
  by_cases hsender : w.senderId = [] <;>
    simp [WireEnvelope.strings, WireEnvelope.completed, WireEnvelope.envelope, withSender,
      SampleEnvelope.wire, hsender, hstrings]

theorem sent_completed {w : WireEnvelope} (hcrc : crc32c w.payload = w.payloadCrc32c) :
    sent w.completed = w.completed := by
  have hsent : sent w.completed =
      { withSender w.completed with payloadCrc32c := crc32c w.payload } := rfl
  rw [hsent, withSender_completed, hcrc]
  rfl

/-- The re-encoded bytes and what they parse to. -/
theorem encode_completed {codec : EnvelopeCodec} {b : List UInt8} {w : WireEnvelope}
    (h : codec.Parses b w) :
    codec.encode w.completed = .ok w.completed.wire.image ∧
      codec.Parses w.completed.wire.image w.completed.wire := by
  obtain ⟨-, hvalid, hadmits, hcrc⟩ := (codec.parses_iff b w).mp h
  constructor
  · rw [encode_eq_ok_iff, withSender_completed, sent_completed hcrc]
    exact ⟨hadmits, rfl⟩
  · rw [parses_iff, completed_wire, withSender_completed]
    exact ⟨rfl, valid_wire_completed hvalid, hadmits, hcrc⟩

theorem image_completed_eq_iff {codec : EnvelopeCodec} {b : List UInt8} {w : WireEnvelope}
    (h : codec.Parses b w) :
    w.completed.wire.image = b ↔ (w.clockOk = 0 ∨ w.clockOk = 1) ∧ w.senderId ≠ [] := by
  have hparticipant : w.participantId ≠ [] := (h.keys w.participantId (by simp)).1
  rw [← wire_completed_eq_iff hparticipant, h.image]
  constructor
  · intro himage
    have hcanonical : codec.Parses w.image w.completed.wire := himage ▸ (encode_completed h).2
    exact parses_unique hcanonical (h.image ▸ h)
  · intro hwire
    rw [hwire]

theorem encode_decode_stable (codec : EnvelopeCodec) (b : List UInt8)
    (hok : (codec.decode b).ok = true) :
    ∃ w b', codec.Parses b w ∧ (∀ v, codec.Parses b v → v = w) ∧
      codec.encode (codec.decode b).envelope = .ok b' ∧
      (codec.decode b').ok = true ∧ (codec.decode b').envelope = (codec.decode b).envelope ∧
      (b' = b ↔ (w.clockOk = 0 ∨ w.clockOk = 1) ∧ w.senderId ≠ []) := by
  obtain ⟨w, hw⟩ := parses_of_decode hok
  obtain ⟨hencode, hparses⟩ := encode_completed hw
  refine ⟨w, w.completed.wire.image, hw, fun v hv ↦ parses_unique hv hw, ?_, ?_, ?_, ?_⟩
  · rw [decode_of_parses hw]
    exact hencode
  · rw [decode_of_parses hparses]
    rfl
  · rw [decode_of_parses hparses, decode_of_parses hw, completed_wire, withSender_completed]
  · exact image_completed_eq_iff hw

/-- Bytes of another implementation: the clock flag is 2 and the sender is
left to the participant. -/
def foreignFields : WireEnvelope where
  sessionId := text "s1"
  taskId := text "t1"
  participantId := text "uav1"
  channel := text "pose"
  schemaId := text "pose.v1"
  clockOk := 2
  payload := [7]
  payloadCrc32c := crc32c [7]

theorem foreignFields_reencoded :
    ∃ w b', ({} : EnvelopeCodec).Parses foreignFields.image w ∧
      ({} : EnvelopeCodec).encode (decode {} foreignFields.image).envelope = .ok b' ∧
      (decode {} b').envelope = (decode {} foreignFields.image).envelope ∧
      b' ≠ foreignFields.image := by
  have hok : (decode {} foreignFields.image).ok = true := by decide +kernel
  obtain ⟨w, b', hw, hunique, hencode, -, henvelope, hsame⟩ := encode_decode_stable {} _ hok
  have hfields : ({} : EnvelopeCodec).Parses foreignFields.image foreignFields :=
    ⟨rfl, rfl, by decide, by decide, by decide, by decide, by decide, rfl, Or.inl rfl⟩
  refine ⟨w, b', hw, hencode, henvelope, fun h ↦ ?_⟩
  obtain rfl := hunique _ hfields
  exact absurd (hsame.mp h).1 (by decide)

/-! ## Decoding what was encoded -/

/-- The limits that the reader puts on the nine strings and the 32 bits of
the payload's length prefix; `encode` checks none of them. -/
structure Readable (e : SampleEnvelope) : Prop where
  strings : ∀ s ∈ [e.sessionId, e.teamId, e.taskId, e.participantId, e.channel, e.senderId,
    e.nodeId, e.payloadType, e.schemaId], s.length ≤ kMaxEnvelopeFieldBytes
  payload : e.payload.length < 2 ^ 32

theorem readable_iff_valid {maxPayloadBytes : ℕ} {e : SampleEnvelope}
    (hpayload : e.payload.length ≤ maxPayloadBytes) :
    Readable e ↔ RecordFormat.Valid (envelopeSlots maxPayloadBytes) (sent e).wire := by
  have hstrings : (∀ s ∈ [e.sessionId, e.teamId, e.taskId, e.participantId, e.channel,
      e.senderId, e.nodeId, e.payloadType, e.schemaId], s.length ≤ 4096) ↔
      ∀ s ∈ (sent e).wire.strings, s.length ≤ 4096 := by
    by_cases hsender : e.senderId = []
    · simp only [WireEnvelope.strings, SampleEnvelope.wire, sent, hsender, if_true]
      simp
      tauto
    · simp [WireEnvelope.strings, SampleEnvelope.wire, sent, hsender]
  rw [valid_slots_iff, ← hstrings]
  constructor
  · intro h
    exact ⟨h.strings, hpayload, h.payload⟩
  · rintro ⟨hs, -, hp⟩
    exact ⟨hs, hp⟩

theorem withSender_sent (e : SampleEnvelope) : withSender (sent e) = sent e := by
  have hsent : sent e = withSender { e with payloadCrc32c := crc32c e.payload } := rfl
  rw [hsent, withSender_withSender]

theorem decode_encoded {codec : EnvelopeCodec} {e : SampleEnvelope} {b : List UInt8}
    (h : codec.encode e = .ok b) (hreadable : Readable e) : codec.decode b = accepted (sent e) := by
  obtain ⟨hadmits, rfl⟩ := (codec.encode_eq_ok_iff e b).mp h
  have hpayload : e.payload.length ≤ codec.maxPayloadBytes := hadmits.checked.payload
  have hvalid := (readable_iff_valid hpayload).mp hreadable
  rw [codec.decode_image hvalid, completed_wire, withSender_sent]
  exact validate_of_admits ⟨⟨hadmits.checked.schemaVersion, hadmits.checked.payload,
    hadmits.checked.keys, hadmits.checked.status⟩, hadmits.schema⟩ rfl

theorem readable_of_decode {codec : EnvelopeCodec} {e : SampleEnvelope} {b : List UInt8}
    (h : codec.encode e = .ok b) (hok : (codec.decode b).ok = true)
    (henvelope : (codec.decode b).envelope = sent e) : Readable e := by
  obtain ⟨w, hw⟩ := parses_of_decode hok
  have hpayload : e.payload.length ≤ codec.maxPayloadBytes :=
    ((codec.encode_eq_ok_iff e b).mp h).1.checked.payload
  have hcompleted : w.completed = sent e := by
    rw [← henvelope, decode_of_parses hw]
    rfl
  rw [readable_iff_valid hpayload, ← hcompleted]
  exact valid_wire_completed ((codec.parses_iff b w).mp hw).2.1

theorem decode_encode_iff (codec : EnvelopeCodec) (e : SampleEnvelope) (b : List UInt8)
    (h : codec.encode e = .ok b) :
    ((codec.decode b).ok = true ∧ (codec.decode b).status = .fresh ∧
      (codec.decode b).envelope = sent e) ↔ Readable e := by
  constructor
  · rintro ⟨hok, -, henvelope⟩
    exact readable_of_decode h hok henvelope
  · intro hreadable
    rw [decode_encoded h hreadable]
    exact ⟨rfl, rfl, rfl⟩

def poseEnvelope : SampleEnvelope where
  sessionId := text "s1"
  taskId := text "t1"
  participantId := text "uav1"
  channel := text "pose"
  schemaId := text "pose.v1"
  producerStatus := .success
  clockOk := true
  payload := [1, 2, 3]

theorem poseEnvelope_read_back :
    ∃ b, ({} : EnvelopeCodec).encode poseEnvelope = .ok b ∧ (decode {} b).ok = true ∧
      (decode {} b).status = .fresh ∧ (decode {} b).envelope = sent poseEnvelope := by
  have hencode : ({} : EnvelopeCodec).encode poseEnvelope =
      .ok (writeEnvelope (sent poseEnvelope)) := by decide +kernel
  exact ⟨_, hencode, (decode_encode_iff {} _ _ hencode).mpr ⟨by decide +kernel, by decide⟩⟩

/-- One byte more than the reader accepts. -/
def longSessionEnvelope : SampleEnvelope :=
  { poseEnvelope with sessionId := List.replicate 4097 (byte 'a') }

theorem longSessionEnvelope_not_read_back :
    ∃ b, ({} : EnvelopeCodec).encode longSessionEnvelope = .ok b ∧
      ¬((decode {} b).ok = true ∧ (decode {} b).status = .fresh ∧
        (decode {} b).envelope = sent longSessionEnvelope) := by
  have hsession : IsKey (List.replicate 4097 (byte 'a')) := by
    refine ⟨fun h ↦ ?_, fun c hc ↦ ?_⟩
    · have hlength := congrArg List.length h
      rw [List.length_replicate] at hlength
      exact absurd hlength (by decide)
    · rw [(List.mem_replicate.mp hc).2]
      decide
  have hencode : ({} : EnvelopeCodec).encode longSessionEnvelope =
      .ok (sent longSessionEnvelope).wire.image := by
    refine (encode_eq_ok_iff _ _ _).mpr ⟨⟨⟨rfl, ?_, ?_, by decide⟩, Or.inl rfl⟩, rfl⟩
    · decide
    · exact List.forall_mem_cons.mpr ⟨hsession, by decide⟩
  refine ⟨_, hencode, ?_⟩
  rintro ⟨hok, -, henvelope⟩
  have hlong : (List.replicate 4097 (byte 'a')).length ≤ kMaxEnvelopeFieldBytes :=
    (readable_of_decode hencode hok henvelope).strings _ (List.mem_cons_self ..)
  rw [List.length_replicate] at hlong
  exact absurd hlong (by decide)

end EnvelopeCodec

end RuntimeSync
