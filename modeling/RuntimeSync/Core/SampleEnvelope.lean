import RuntimeSync.Core.Types

/-!
# Sample envelopes

An envelope carries an opaque payload and the evidence the runtime needs to
judge it: identities, cycle numbers, times, and the state of the sender.
-/

namespace RuntimeSync

def kCurrentEnvelopeSchemaVersion : UInt32 := 1
def kDefaultMaxPayloadBytes : ℕ := 1024 * 1024
def kMaxEnvelopeFieldBytes : ℕ := 4096

structure SampleEnvelope where
  schemaVersion : UInt32 := kCurrentEnvelopeSchemaVersion
  sessionId : Str := []
  teamId : Str := []
  taskId : Str := []
  participantId : Str := []
  channel : Str := []
  senderId : Str := []
  nodeId : Str := []
  seq : UInt64 := 0
  produceCycle : UInt64 := 0
  targetCycle : UInt64 := 0
  tCycleStartNs : Int64 := 0
  tProduceStartNs : Int64 := 0
  tProduceFinishNs : Int64 := 0
  tPublishNs : Int64 := 0
  periodNs : Int64 := 0
  publishDeadlineNs : Int64 := 0
  ttlNs : Int64 := 0
  producerStatus : ProducerStatus := .unknown
  clockOk : Bool := false
  clockOffsetNs : Int64 := 0
  clockUncertaintyNs : UInt64 := 0
  payloadType : Str := []
  schemaId : Str := []
  payloadCrc32c : UInt32 := 0
  payload : List UInt8 := []
  deriving DecidableEq

namespace TransportKeys

def isValidChar (value : UInt8) : Bool :=
  (byte 'a' ≤ value && value ≤ byte 'z') || (byte 'A' ≤ value && value ≤ byte 'Z') ||
    (byte '0' ≤ value && value ≤ byte '9') ||
      value == byte '_' || value == byte '-' || value == byte '.'

/-- Error texts are those of the source, which writes them to `reason`. -/
def validateField (name value : Str) : Except Str Unit :=
  if value = [] then .error (name ++ text " is required")
  else if value.all isValidChar then .ok ()
  else .error (name ++ text " contains an illegal character")

def isValidTaskKeyField (value : Str) : Bool := (validateField (text "field") value).isOk

theorem isValidTaskKeyField_iff (value : Str) :
    isValidTaskKeyField value = true ↔ value ≠ [] ∧ ∀ c ∈ value, isValidChar c = true := by
  by_cases hempty : value = []
  · simp [isValidTaskKeyField, validateField, hempty, Except.isOk, Except.toBool]
  · rw [← List.all_eq_true]
    cases hall : value.all isValidChar <;>
      simp [isValidTaskKeyField, validateField, hempty, hall, Except.isOk, Except.toBool]

end TransportKeys

end RuntimeSync
