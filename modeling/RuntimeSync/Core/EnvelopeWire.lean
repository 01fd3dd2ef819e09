import RuntimeSync.Core.EnvelopeCodec

/-!
# The wire form of an envelope

The grammar is stated on its own: a fixed sequence of little-endian words and
length-prefixed strings, and what must hold of them.  The writer produces the
words of the grammar and the reader takes them apart again.
-/

namespace RuntimeSync

/-! ## The grammar -/

def lengthPrefixed (value : List UInt8) : List UInt8 :=
  LittleEndian.bytes 4 value.length ++ value

namespace WireEnvelope

def strings (w : WireEnvelope) : List Str :=
  [w.sessionId, w.teamId, w.taskId, w.participantId, w.channel, w.senderId, w.nodeId,
    w.payloadType, w.schemaId]

/-- Signed words are in two's complement. -/
@[irreducible] def image (w : WireEnvelope) : List UInt8 :=
  LittleEndian.bytes 4 0x4e455353 ++
  LittleEndian.bytes 4 1 ++
  LittleEndian.bytes 4 w.schemaVersion.toNat ++
  lengthPrefixed w.sessionId ++
  lengthPrefixed w.teamId ++
  lengthPrefixed w.taskId ++
  lengthPrefixed w.participantId ++
  lengthPrefixed w.channel ++
  lengthPrefixed w.senderId ++
  lengthPrefixed w.nodeId ++
  LittleEndian.bytes 8 w.seq.toNat ++
  LittleEndian.bytes 8 w.produceCycle.toNat ++
  LittleEndian.bytes 8 w.targetCycle.toNat ++
  LittleEndian.bytes 8 w.tCycleStartNs.toUInt64.toNat ++
  LittleEndian.bytes 8 w.tProduceStartNs.toUInt64.toNat ++
  LittleEndian.bytes 8 w.tProduceFinishNs.toUInt64.toNat ++
  LittleEndian.bytes 8 w.tPublishNs.toUInt64.toNat ++
  LittleEndian.bytes 8 w.periodNs.toUInt64.toNat ++
  LittleEndian.bytes 8 w.publishDeadlineNs.toUInt64.toNat ++
  LittleEndian.bytes 8 w.ttlNs.toUInt64.toNat ++
  [w.producerStatus] ++
  [w.clockOk] ++
  LittleEndian.bytes 8 w.clockOffsetNs.toUInt64.toNat ++
  LittleEndian.bytes 8 w.clockUncertaintyNs.toNat ++
  lengthPrefixed w.payloadType ++
  lengthPrefixed w.schemaId ++
  LittleEndian.bytes 4 w.payloadCrc32c.toNat ++
  lengthPrefixed w.payload

end WireEnvelope

/-- A name that may become part of a transport key. -/
def IsKey (value : Str) : Prop :=
  value ≠ [] ∧ ∀ c ∈ value, TransportKeys.isValidChar c = true

instance (value : Str) : Decidable (IsKey value) :=
  decidable_of_iff _ (TransportKeys.isValidTaskKeyField_iff value)

namespace EnvelopeCodec

def SchemaAllowed (codec : EnvelopeCodec) (channel payloadType schemaId : Str) : Prop :=
  codec.allowedSchemas = ∅ ∨ (channel, payloadType, schemaId) ∈ codec.allowedSchemas

/-- `b` is the image of `w`, and `w` satisfies the conditions of the grammar.
The payload has to fit the 32 bits of its length prefix. -/
structure Parses (codec : EnvelopeCodec) (b : List UInt8) (w : WireEnvelope) : Prop where
  image : b = w.image
  schemaVersion : w.schemaVersion = 1
  strings : ∀ s ∈ w.strings, s.length ≤ 4096
  payload : w.payload.length ≤ codec.maxPayloadBytes
  payload_word : w.payload.length < 2 ^ 32
  status : w.producerStatus ∈ [0, 1, 2, 3, 4, 255]
  keys : ∀ key ∈ [w.sessionId, w.taskId, w.participantId, w.channel, w.schemaId], IsKey key
  crc : w.payloadCrc32c = crc32c w.payload
  schema : codec.SchemaAllowed w.channel w.payloadType w.schemaId

end EnvelopeCodec

/-! ## The image is what the slots write -/

theorem writeU32_eq (value : UInt32) : writeU32 value = LittleEndian.bytes 4 value.toNat :=
  writeLE_eq_bytes (by decide) 4 value.toBitVec

theorem writeU64_eq (value : UInt64) : writeU64 value = LittleEndian.bytes 8 value.toNat :=
  writeLE_eq_bytes (by decide) 8 value.toBitVec

theorem writeBytes_eq (value : List UInt8) : writeBytes value = lengthPrefixed value := by
  rw [writeBytes, writeU32_eq, UInt32.toNat_ofNat']
  exact congrArg (· ++ value) (LittleEndian.bytes_mod 4 value.length)

theorem writeString_eq (value : Str) : writeString value = lengthPrefixed value :=
  writeBytes_eq value

namespace ByteCodec

@[simp] theorem u8_write (value : UInt8) : u8.write value = [value] := rfl

@[simp] theorem u32_write (value : UInt32) :
    u32.write value = LittleEndian.bytes 4 value.toNat := writeU32_eq value

@[simp] theorem u64_write (value : UInt64) :
    u64.write value = LittleEndian.bytes 8 value.toNat := writeU64_eq value

@[simp] theorem i64_write (value : Int64) :
    i64.write value = LittleEndian.bytes 8 value.toUInt64.toNat := writeU64_eq value.toUInt64

@[simp] theorem string_write (fieldName value : Str) :
    (string fieldName).write value = lengthPrefixed value := writeBytes_eq value

@[simp] theorem bytes_write (fieldName : Str) (maxSize : ℕ) (value : List UInt8) :
    (bytes fieldName maxSize).write value = lengthPrefixed value := writeBytes_eq value

@[simp] theorem u8_valid (value : UInt8) : u8.Valid value := trivial

@[simp] theorem u32_valid (value : UInt32) : u32.Valid value := trivial

@[simp] theorem u64_valid (value : UInt64) : u64.Valid value := trivial

@[simp] theorem i64_valid (value : Int64) : i64.Valid value := trivial

@[simp] theorem bytes_valid (fieldName : Str) (maxSize : ℕ) (value : List UInt8) :
    (bytes fieldName maxSize).Valid value ↔ value.length ≤ maxSize ∧ value.length < 2 ^ 32 :=
  Iff.rfl

@[simp] theorem string_valid (fieldName value : Str) :
    (string fieldName).Valid value ↔ value.length ≤ 4096 := by
  change value.length ≤ 4096 ∧ value.length < 2 ^ 32 ↔ _
  omega

end ByteCodec

def wireHeader : List UInt8 := writeU32 kMagic ++ writeU32 kFormatVersion

theorem wireHeader_eq :
    wireHeader = LittleEndian.bytes 4 0x4e455353 ++ LittleEndian.bytes 4 1 := by
  rw [wireHeader, writeU32_eq, writeU32_eq]
  rfl

theorem image_eq_write (maxPayloadBytes : ℕ) (w : WireEnvelope) :
    w.image = wireHeader ++ RecordFormat.write (envelopeSlots maxPayloadBytes) w := by
  unfold WireEnvelope.image
  rw [← wireHeader_eq]
  simp only [RecordFormat.write, envelopeSlots, List.flatMap_cons, List.flatMap_nil,
    ByteCodec.u8_write, ByteCodec.u32_write, ByteCodec.u64_write, ByteCodec.i64_write,
    ByteCodec.string_write, ByteCodec.bytes_write, List.append_assoc, List.append_nil]

theorem valid_slots_iff (maxPayloadBytes : ℕ) (w : WireEnvelope) :
    RecordFormat.Valid (envelopeSlots maxPayloadBytes) w ↔
      (∀ s ∈ w.strings, s.length ≤ 4096) ∧
        w.payload.length ≤ maxPayloadBytes ∧ w.payload.length < 2 ^ 32 := by
  simp only [RecordFormat.Valid, envelopeSlots, WireEnvelope.strings, List.forall_mem_cons]
  simp [and_assoc]

theorem agree_slots_iff (maxPayloadBytes : ℕ) (v w : WireEnvelope) :
    RecordFormat.Agree (envelopeSlots maxPayloadBytes) v w ↔ v = w := by
  constructor
  · intro h
    cases v
    cases w
    simp only [RecordFormat.Agree, envelopeSlots, List.forall_mem_cons] at h
    simpa using h
  · rintro rfl slot _
    rfl

/-! ## What the writer sends -/

/-- The values `encode` writes for an envelope. -/
def SampleEnvelope.wire (e : SampleEnvelope) : WireEnvelope where
  schemaVersion := e.schemaVersion
  sessionId := e.sessionId
  teamId := e.teamId
  taskId := e.taskId
  participantId := e.participantId
  channel := e.channel
  senderId := e.senderId
  nodeId := e.nodeId
  seq := e.seq
  produceCycle := e.produceCycle
  targetCycle := e.targetCycle
  tCycleStartNs := e.tCycleStartNs
  tProduceStartNs := e.tProduceStartNs
  tProduceFinishNs := e.tProduceFinishNs
  tPublishNs := e.tPublishNs
  periodNs := e.periodNs
  publishDeadlineNs := e.publishDeadlineNs
  ttlNs := e.ttlNs
  producerStatus := e.producerStatus.code
  clockOk := if e.clockOk then 1 else 0
  clockOffsetNs := e.clockOffsetNs
  clockUncertaintyNs := e.clockUncertaintyNs
  payloadType := e.payloadType
  schemaId := e.schemaId
  payloadCrc32c := e.payloadCrc32c
  payload := e.payload

theorem writeEnvelope_eq_image (e : SampleEnvelope) :
    EnvelopeCodec.writeEnvelope e = e.wire.image := by
  unfold EnvelopeCodec.writeEnvelope WireEnvelope.image
  rw [← wireHeader_eq, ← wireHeader]
  simp only [SampleEnvelope.wire, writeI64, writeU8, writeU32_eq, writeU64_eq, writeString_eq,
    writeBytes_eq]

theorem completed_wire (e : SampleEnvelope) : e.wire.completed = EnvelopeCodec.withSender e := by
  have hclock : ((if e.clockOk then 1 else 0 : UInt8) != 0) = e.clockOk := by
    cases e.clockOk <;> rfl
  simp only [WireEnvelope.completed, WireEnvelope.envelope, SampleEnvelope.wire, hclock]

@[simp] theorem withSender_withSender (e : SampleEnvelope) :
    EnvelopeCodec.withSender (EnvelopeCodec.withSender e) = EnvelopeCodec.withSender e := by
  by_cases hsender : e.senderId = [] <;> simp [EnvelopeCodec.withSender, hsender]

@[simp] theorem withSender_completed (w : WireEnvelope) :
    EnvelopeCodec.withSender w.completed = w.completed :=
  withSender_withSender _

/-- The two freedoms of the wire that decoding takes away. -/
theorem wire_completed_eq_iff {w : WireEnvelope} (hparticipant : w.participantId ≠ []) :
    w.completed.wire = w ↔ (w.clockOk = 0 ∨ w.clockOk = 1) ∧ w.senderId ≠ [] := by
  have hwire : w.completed.wire =
      { w with
        clockOk := if (w.clockOk != 0) = true then 1 else 0
        senderId := if w.senderId = [] then w.participantId else w.senderId } := rfl
  have hclock : (if (w.clockOk != 0) = true then (1 : UInt8) else 0) = w.clockOk ↔
      w.clockOk = 0 ∨ w.clockOk = 1 := by
    by_cases hzero : w.clockOk = 0
    · simp [hzero]
    · simpa [hzero] using eq_comm
  have hsender : (if w.senderId = [] then w.participantId else w.senderId) = w.senderId ↔
      w.senderId ≠ [] := by
    by_cases hempty : w.senderId = [] <;> simp [hempty, hparticipant]
  rw [hwire, ← hclock, ← hsender]
  constructor
  · intro h
    exact ⟨congrArg WireEnvelope.clockOk h, congrArg WireEnvelope.senderId h⟩
  · rintro ⟨hc, hs⟩
    rw [hc, hs]

end RuntimeSync
