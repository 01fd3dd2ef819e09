import Mathlib.Data.Finset.Insert
import RuntimeSync.Core.EnvelopeReader

/-!
# The envelope codec

`encode` checks an envelope and writes it out; `decode` reads its fields back
one after the other, stops at the first one that fails, and then repeats the
checks on what it has read.
-/

namespace RuntimeSync

def kMagic : UInt32 := 0x4e455353
def kFormatVersion : UInt32 := 1

structure DecodeResult where
  ok : Bool := false
  status : SampleStatus := .transportError
  error : Str := []
  envelope : SampleEnvelope := {}
  deriving DecidableEq

def errorResult (status : SampleStatus) (error : Str) (envelope : SampleEnvelope := {}) :
    DecodeResult :=
  { ok := false, status := status, error := error, envelope := envelope }

structure SampleEnvelopeValidationOptions where
  maxPayloadBytes : ℕ := kDefaultMaxPayloadBytes
  verifyPayloadCrc : Bool := true

/-! ## CRC32C -/

def crcBit (crc : UInt32) : UInt32 :=
  let mask := -(crc &&& 1)
  (crc >>> 1) ^^^ (0x82f63b78 &&& mask)

def crcByte (crc : UInt32) (value : UInt8) : UInt32 := crcBit^[8] (crc ^^^ value.toUInt32)

def crc32c (data : List UInt8) : UInt32 := ~~~(data.foldl crcByte 0xffffffff)

def verifyPayloadCrc (envelope : SampleEnvelope) : Bool :=
  crc32c envelope.payload == envelope.payloadCrc32c

/-- The check value of the polynomial. -/
example : crc32c (text "123456789") = 0xe3069283 := by decide +kernel

/-! ## Validation -/

def isKnownProducerStatus (status : ProducerStatus) : Bool :=
  status == .success || status == .timeout || status == .failed || status == .skipped ||
    status == .userFallback || status == .unknown

def validateRequiredKeyField (name value : Str) : Except Str Unit :=
  if value = [] then .error (name ++ text " is required")
  else if !TransportKeys.isValidTaskKeyField value then
    .error (name ++ text " contains an illegal character")
  else .ok ()

/-- The five fields that become parts of a transport key, in the order in
which they are checked. -/
def validateRequiredKeyFields (envelope : SampleEnvelope) : Except Str Unit := do
  validateRequiredKeyField (text "session_id") envelope.sessionId
  validateRequiredKeyField (text "task_id") envelope.taskId
  validateRequiredKeyField (text "participant_id") envelope.participantId
  validateRequiredKeyField (text "channel") envelope.channel
  validateRequiredKeyField (text "schema_id") envelope.schemaId

def validateSampleEnvelope (envelope : SampleEnvelope)
    (options : SampleEnvelopeValidationOptions := {}) : DecodeResult :=
  if envelope.schemaVersion ≠ kCurrentEnvelopeSchemaVersion then
    errorResult .transportError (text "unsupported schema_version: only 1 is supported") envelope
  else if options.maxPayloadBytes < envelope.payload.length then
    errorResult .badPayload (text "payload exceeds maximum size") envelope
  else
    match validateRequiredKeyFields envelope with
    | .error reason => errorResult .transportError reason envelope
    | .ok () =>
        if !isKnownProducerStatus envelope.producerStatus then
          errorResult .transportError (text "producer_status is invalid") envelope
        else if options.verifyPayloadCrc && !verifyPayloadCrc envelope then
          errorResult .badPayload (text "payload crc mismatch") envelope
        else { ok := true, status := .fresh, envelope := envelope }

abbrev SchemaKey := Str × Str × Str

structure EnvelopeCodec where
  maxPayloadBytes : ℕ := kDefaultMaxPayloadBytes
  allowedSchemas : Finset SchemaKey := ∅

namespace EnvelopeCodec

def allowSchema (codec : EnvelopeCodec) (channel payloadType schemaId : Str) : EnvelopeCodec :=
  { codec with allowedSchemas := insert (channel, payloadType, schemaId) codec.allowedSchemas }

def clearSchemaRules (codec : EnvelopeCodec) : EnvelopeCodec := { codec with allowedSchemas := ∅ }

def isSchemaAccepted (codec : EnvelopeCodec) (envelope : SampleEnvelope) : Bool :=
  codec.allowedSchemas = ∅ ∨
    (envelope.channel, envelope.payloadType, envelope.schemaId) ∈ codec.allowedSchemas

def validate (codec : EnvelopeCodec) (envelope : SampleEnvelope) : DecodeResult :=
  let validation := validateSampleEnvelope envelope ⟨codec.maxPayloadBytes, true⟩
  if !validation.ok then validation
  else if !codec.isSchemaAccepted envelope then
    errorResult .badSchema (text "schema_id is not accepted for channel") envelope
  else validation

/-! ## Encoding -/

/-- A sender that is not named is the participant. -/
def withSender (envelope : SampleEnvelope) : SampleEnvelope :=
  { envelope with
    senderId := if envelope.senderId = [] then envelope.participantId else envelope.senderId }

/-- The bytes `encode` appends, in order. -/
def writeEnvelope (encoded : SampleEnvelope) : List UInt8 :=
  writeU32 kMagic ++
  writeU32 kFormatVersion ++
  writeU32 encoded.schemaVersion ++
  writeString encoded.sessionId ++
  writeString encoded.teamId ++
  writeString encoded.taskId ++
  writeString encoded.participantId ++
  writeString encoded.channel ++
  writeString encoded.senderId ++
  writeString encoded.nodeId ++
  writeU64 encoded.seq ++
  writeU64 encoded.produceCycle ++
  writeU64 encoded.targetCycle ++
  writeI64 encoded.tCycleStartNs ++
  writeI64 encoded.tProduceStartNs ++
  writeI64 encoded.tProduceFinishNs ++
  writeI64 encoded.tPublishNs ++
  writeI64 encoded.periodNs ++
  writeI64 encoded.publishDeadlineNs ++
  writeI64 encoded.ttlNs ++
  writeU8 encoded.producerStatus.code ++
  writeU8 (if encoded.clockOk then 1 else 0) ++
  writeI64 encoded.clockOffsetNs ++
  writeU64 encoded.clockUncertaintyNs ++
  writeString encoded.payloadType ++
  writeString encoded.schemaId ++
  writeU32 encoded.payloadCrc32c ++
  writeBytes encoded.payload

/-- The source throws `std::invalid_argument` with the text of the error. -/
def encode (codec : EnvelopeCodec) (envelope : SampleEnvelope) : Except Str (List UInt8) :=
  let encoded := withSender envelope
  let validation := validateSampleEnvelope encoded ⟨codec.maxPayloadBytes, false⟩
  if !validation.ok then .error validation.error
  else if !codec.isSchemaAccepted encoded then
    .error (text "schema_id is not accepted for channel")
  else .ok (writeEnvelope { encoded with payloadCrc32c := crc32c encoded.payload })

/-! ## Decoding -/

end EnvelopeCodec

/-- What `decode` reads from the bytes: the fields of its `envelope`, and the
two bytes it keeps aside until everything has been read. -/
structure WireEnvelope where
  schemaVersion : UInt32 := kCurrentEnvelopeSchemaVersion
  sessionId : Str := []
  teamId : Str := []
  taskId : Str := []
  participantId : Str := []
  channel : Str := []
  senderId : Str := []
  nodeId : Str := []
  seq : UInt64 := 0
  produceCycle : UInt64 := 0
  targetCycle : UInt64 := 0
  tCycleStartNs : Int64 := 0
  tProduceStartNs : Int64 := 0
  tProduceFinishNs : Int64 := 0
  tPublishNs : Int64 := 0
  periodNs : Int64 := 0
  publishDeadlineNs : Int64 := 0
  ttlNs : Int64 := 0
  producerStatus : UInt8 := 0
  clockOk : UInt8 := 0
  clockOffsetNs : Int64 := 0
  clockUncertaintyNs : UInt64 := 0
  payloadType : Str := []
  schemaId : Str := []
  payloadCrc32c : UInt32 := 0
  payload : List UInt8 := []
  deriving DecidableEq

namespace WireEnvelope

/-- The source's `envelope`, in which the producer status and the clock flag
still have their defaults. -/
def envelope (w : WireEnvelope) : SampleEnvelope where
  schemaVersion := w.schemaVersion
  sessionId := w.sessionId
  teamId := w.teamId
  taskId := w.taskId
  participantId := w.participantId
  channel := w.channel
  senderId := w.senderId
  nodeId := w.nodeId
  seq := w.seq
  produceCycle := w.produceCycle
  targetCycle := w.targetCycle
  tCycleStartNs := w.tCycleStartNs
  tProduceStartNs := w.tProduceStartNs
  tProduceFinishNs := w.tProduceFinishNs
  tPublishNs := w.tPublishNs
  periodNs := w.periodNs
  publishDeadlineNs := w.publishDeadlineNs
  ttlNs := w.ttlNs
  clockOffsetNs := w.clockOffsetNs
  clockUncertaintyNs := w.clockUncertaintyNs
  payloadType := w.payloadType
  schemaId := w.schemaId
  payloadCrc32c := w.payloadCrc32c
  payload := w.payload

def completed (w : WireEnvelope) : SampleEnvelope :=
  EnvelopeCodec.withSender
    { w.envelope with
      producerStatus := ⟨w.producerStatus⟩
      clockOk := w.clockOk != 0 }

end WireEnvelope

abbrev EnvelopeSlot := Slot Reader UInt8 Str Reader.remaining WireEnvelope

open ByteCodec in
/-- The reads of `decode` that its chain of `||` joins, in order. -/
def envelopeSlots (maxPayloadBytes : ℕ) : List EnvelopeSlot :=
  [ ⟨_, u32, (·.schemaVersion), fun v w ↦ { w with schemaVersion := v }, fun _ _ ↦ rfl⟩,
    ⟨_, string (text "session_id"), (·.sessionId), fun v w ↦ { w with sessionId := v },
      fun _ _ ↦ rfl⟩,
    ⟨_, string (text "team_id"), (·.teamId), fun v w ↦ { w with teamId := v }, fun _ _ ↦ rfl⟩,
    ⟨_, string (text "task_id"), (·.taskId), fun v w ↦ { w with taskId := v }, fun _ _ ↦ rfl⟩,
    ⟨_, string (text "participant_id"), (·.participantId),
      fun v w ↦ { w with participantId := v }, fun _ _ ↦ rfl⟩,
    ⟨_, string (text "channel"), (·.channel), fun v w ↦ { w with channel := v }, fun _ _ ↦ rfl⟩,
    ⟨_, string (text "sender_id"), (·.senderId), fun v w ↦ { w with senderId := v },
      fun _ _ ↦ rfl⟩,
    ⟨_, string (text "node_id"), (·.nodeId), fun v w ↦ { w with nodeId := v }, fun _ _ ↦ rfl⟩,
    ⟨_, u64, (·.seq), fun v w ↦ { w with seq := v }, fun _ _ ↦ rfl⟩,
    ⟨_, u64, (·.produceCycle), fun v w ↦ { w with produceCycle := v }, fun _ _ ↦ rfl⟩,
    ⟨_, u64, (·.targetCycle), fun v w ↦ { w with targetCycle := v }, fun _ _ ↦ rfl⟩,
    ⟨_, i64, (·.tCycleStartNs), fun v w ↦ { w with tCycleStartNs := v }, fun _ _ ↦ rfl⟩,
    ⟨_, i64, (·.tProduceStartNs), fun v w ↦ { w with tProduceStartNs := v }, fun _ _ ↦ rfl⟩,
    ⟨_, i64, (·.tProduceFinishNs), fun v w ↦ { w with tProduceFinishNs := v }, fun _ _ ↦ rfl⟩,
    ⟨_, i64, (·.tPublishNs), fun v w ↦ { w with tPublishNs := v }, fun _ _ ↦ rfl⟩,
    ⟨_, i64, (·.periodNs), fun v w ↦ { w with periodNs := v }, fun _ _ ↦ rfl⟩,
    ⟨_, i64, (·.publishDeadlineNs), fun v w ↦ { w with publishDeadlineNs := v },
      fun _ _ ↦ rfl⟩,
    ⟨_, i64, (·.ttlNs), fun v w ↦ { w with ttlNs := v }, fun _ _ ↦ rfl⟩,
    ⟨_, u8, (·.producerStatus), fun v w ↦ { w with producerStatus := v }, fun _ _ ↦ rfl⟩,
    ⟨_, u8, (·.clockOk), fun v w ↦ { w with clockOk := v }, fun _ _ ↦ rfl⟩,
    ⟨_, i64, (·.clockOffsetNs), fun v w ↦ { w with clockOffsetNs := v }, fun _ _ ↦ rfl⟩,
    ⟨_, u64, (·.clockUncertaintyNs), fun v w ↦ { w with clockUncertaintyNs := v },
      fun _ _ ↦ rfl⟩,
    ⟨_, string (text "payload_type"), (·.payloadType), fun v w ↦ { w with payloadType := v },
      fun _ _ ↦ rfl⟩,
    ⟨_, string (text "schema_id"), (·.schemaId), fun v w ↦ { w with schemaId := v },
      fun _ _ ↦ rfl⟩,
    ⟨_, u32, (·.payloadCrc32c), fun v w ↦ { w with payloadCrc32c := v }, fun _ _ ↦ rfl⟩,
    ⟨_, bytes (text "payload") maxPayloadBytes, (·.payload), fun v w ↦ { w with payload := v },
      fun _ _ ↦ rfl⟩ ]

theorem envelopeSlots_independent (maxPayloadBytes : ℕ) :
    RecordFormat.Independent (envelopeSlots maxPayloadBytes) := by
  simp only [RecordFormat.Independent, envelopeSlots, List.pairwise_cons, List.forall_mem_cons]
  simp

namespace EnvelopeCodec

def decode (codec : EnvelopeCodec) (bytes : List UInt8) : DecodeResult :=
  match (Reader.ofBytes bytes).readU32 with
  | (.error _, _) => errorResult .transportError (text "bad envelope magic")
  | (.ok magic, reader) =>
      if magic ≠ kMagic then errorResult .transportError (text "bad envelope magic")
      else
        match reader.readU32 with
        | (.error _, _) => errorResult .transportError (text "unsupported codec format")
        | (.ok formatVersion, reader) =>
            if formatVersion ≠ kFormatVersion then
              errorResult .transportError (text "unsupported codec format")
            else
              match RecordFormat.read (envelopeSlots codec.maxPayloadBytes) {} reader with
              | (.error malformedReason, w, _) =>
                  errorResult .transportError
                    (if malformedReason = [] then text "truncated or malformed envelope"
                      else malformedReason) w.envelope
              | (.ok (), w, reader) =>
                  if !reader.done then
                    errorResult .transportError (text "trailing data after envelope") w.envelope
                  else codec.validate w.completed

end EnvelopeCodec

end RuntimeSync
