import RuntimeSync.Core.SampleEnvelope

/-!
# Transport keys

The key of a stream is a path whose segments are labels and fields in turn.
A key is built by concatenation and checked by cutting it at the slashes; the
two undo each other, since no valid field holds a slash.
-/

namespace RuntimeSync

structure TransportKeyFields where
  sessionId : Str
  taskId : Str
  channel : Str
  schemaId : Str
  deriving DecidableEq

structure TransportKeyResult where
  ok : Bool := false
  key : Str := []
  error : Str := []
  deriving DecidableEq

namespace TransportKeys

def kPrefix : Str := text "swarm_sync"
def kVersion : Str := text "v1"

/-- `part` is what the search for the next slash has passed over. -/
def splitFrom (part : Str) : Str → List Str
  | [] => [part]
  | c :: rest =>
      if c = byte '/' then part :: splitFrom [] rest else splitFrom (part ++ [c]) rest

def splitSampleKey (key : Str) : List Str := splitFrom [] key

/-- The chain of checks that building and validating a key share. -/
def validateFields (fields : TransportKeyFields) : Except Str Unit := do
  validateField (text "session_id") fields.sessionId
  validateField (text "task_id") fields.taskId
  validateField (text "channel") fields.channel
  validateField (text "schema_id") fields.schemaId

def buildTaskSampleKey (fields : TransportKeyFields) : TransportKeyResult :=
  match validateFields fields with
  | .error reason => { error := reason }
  | .ok () =>
      { ok := true
        key := kPrefix ++ text "/" ++ kVersion ++ text "/session/" ++ fields.sessionId ++
          text "/task/" ++ fields.taskId ++ text "/channel/" ++ fields.channel ++
          text "/schema/" ++ fields.schemaId }

def envelopeFields (envelope : SampleEnvelope) : TransportKeyFields where
  sessionId := envelope.sessionId
  taskId := envelope.taskId
  channel := envelope.channel
  schemaId := envelope.schemaId

/-- The overload of `buildTaskSampleKey` for an envelope. -/
def buildEnvelopeKey (envelope : SampleEnvelope) : TransportKeyResult :=
  buildTaskSampleKey (envelopeFields envelope)

def validateTaskSampleKey (key : Str) : Except Str Unit :=
  match splitSampleKey key with
  | [part0, part1, part2, part3, part4, part5, part6, part7, part8, part9] =>
      if part0 ≠ kPrefix ∨ part1 ≠ kVersion ∨ part2 ≠ text "session" ∨ part4 ≠ text "task" ∨
          part6 ≠ text "channel" ∨ part8 ≠ text "schema" then
        .error (text "sample key must use task-semantic labels")
      else validateFields ⟨part3, part5, part7, part9⟩
  | _ => .error (text "sample key must have the task-semantic sample shape")

/-! ## Fields -/

theorem validateField_eq_ok_iff (name value : Str) :
    validateField name value = .ok () ↔ value ≠ [] ∧ ∀ c ∈ value, isValidChar c = true := by
  by_cases hempty : value = []
  · simp [validateField, hempty]
  · rw [← List.all_eq_true]
    cases hall : value.all isValidChar <;> simp [validateField, hempty, hall]

/-- The fields that can name a stream. -/
structure Valid (fields : TransportKeyFields) : Prop where
  sessionId : fields.sessionId ≠ [] ∧ ∀ c ∈ fields.sessionId, isValidChar c = true
  taskId : fields.taskId ≠ [] ∧ ∀ c ∈ fields.taskId, isValidChar c = true
  channel : fields.channel ≠ [] ∧ ∀ c ∈ fields.channel, isValidChar c = true
  schemaId : fields.schemaId ≠ [] ∧ ∀ c ∈ fields.schemaId, isValidChar c = true

theorem bind_eq_ok_iff {x y : Except Str Unit} :
    (do x; y) = .ok () ↔ x = .ok () ∧ y = .ok () := by
  cases x with
  | error reason => exact iff_of_false nofun fun h ↦ nomatch h.1
  | ok u => exact (and_iff_right rfl).symm

theorem validateFields_eq_ok_iff (fields : TransportKeyFields) :
    validateFields fields = .ok () ↔ Valid fields := by
  rw [validateFields, bind_eq_ok_iff, bind_eq_ok_iff, bind_eq_ok_iff]
  simp only [validateField_eq_ok_iff]
  exact ⟨fun h ↦ ⟨h.1, h.2.1, h.2.2.1, h.2.2.2⟩,
    fun h ↦ ⟨h.sessionId, h.taskId, h.channel, h.schemaId⟩⟩

theorem build_ok_iff (fields : TransportKeyFields) :
    (buildTaskSampleKey fields).ok = true ↔ Valid fields := by
  rw [← validateFields_eq_ok_iff]
  cases h : validateFields fields <;> simp [buildTaskSampleKey, h]

theorem slash_notMem {value : Str} (h : ∀ c ∈ value, isValidChar c = true) :
    byte '/' ∉ value := fun hmem ↦ absurd (h _ hmem) (by decide)

/-! ## Cutting and joining -/

theorem splitFrom_eq (part key : Str) :
    splitFrom part key = (key.splitOn (byte '/')).modifyHead (part ++ ·) := by
  induction key generalizing part with
  | nil => simp [splitFrom]
  | cons c rest ih =>
      rw [List.splitOn_cons_eq_if_modifyHead]
      by_cases hslash : c = byte '/'
      · cases hrest : rest.splitOn (byte '/') <;> simp [splitFrom, hslash, ih, hrest]
      · simp only [splitFrom, hslash, if_false, beq_iff_eq]
        rw [ih, List.modifyHead_modifyHead]
        congr 1
        funext head
        simp

theorem splitSampleKey_eq (key : Str) : splitSampleKey key = key.splitOn (byte '/') := by
  rw [splitSampleKey, splitFrom_eq]
  cases key.splitOn (byte '/') <;> simp

/-- The segments of the key of a stream. -/
def segments (fields : TransportKeyFields) : List Str :=
  [kPrefix, kVersion, text "session", fields.sessionId, text "task", fields.taskId,
    text "channel", fields.channel, text "schema", fields.schemaId]

theorem build_key {fields : TransportKeyFields} (h : Valid fields) :
    (buildTaskSampleKey fields).key = [byte '/'].intercalate (segments fields) := by
  have hslash : text "/" = [byte '/'] := by decide
  have hsession : text "/session/" = [byte '/'] ++ text "session" ++ [byte '/'] := by decide
  have htask : text "/task/" = [byte '/'] ++ text "task" ++ [byte '/'] := by decide
  have hchannel : text "/channel/" = [byte '/'] ++ text "channel" ++ [byte '/'] := by decide
  have hschema : text "/schema/" = [byte '/'] ++ text "schema" ++ [byte '/'] := by decide
  rw [buildTaskSampleKey, (validateFields_eq_ok_iff fields).mpr h]
  simp only [segments, List.intercalate_cons_cons, List.intercalate_singleton, hslash, hsession,
    htask, hchannel, hschema, List.append_assoc]

theorem split_build_key {fields : TransportKeyFields} (h : Valid fields) :
    splitSampleKey (buildTaskSampleKey fields).key = segments fields := by
  rw [splitSampleKey_eq, build_key h]
  apply List.splitOn_intercalate
  · simp only [segments, List.forall_mem_cons, List.not_mem_nil, false_implies, implies_true,
      and_true]
    exact ⟨by decide, by decide, by decide, slash_notMem h.sessionId.2, by decide,
      slash_notMem h.taskId.2, by decide, slash_notMem h.channel.2, by decide,
      slash_notMem h.schemaId.2⟩
  · simp [segments]

/-- What is accepted has the shape of a key and the fields of a stream. -/
theorem validate_eq_ok_iff (key : Str) :
    validateTaskSampleKey key = .ok () ↔
      ∃ fields, Valid fields ∧ splitSampleKey key = segments fields := by
  constructor
  · intro h
    unfold validateTaskSampleKey at h
    split at h
    · next part0 part1 part2 part3 part4 part5 part6 part7 part8 part9 hparts =>
        split_ifs at h with hlabels
        simp only [not_or, not_not] at hlabels
        obtain ⟨rfl, rfl, rfl, rfl, rfl, rfl⟩ := hlabels
        exact ⟨⟨part3, part5, part7, part9⟩, (validateFields_eq_ok_iff _).mp h, hparts⟩
    · cases h
  · rintro ⟨fields, hvalid, hparts⟩
    rw [validateTaskSampleKey, hparts]
    simp only [segments, ne_eq, not_true_eq_false, or_self, if_false]
    exact (validateFields_eq_ok_iff fields).mpr hvalid

theorem segments_injective : Function.Injective segments := by
  rintro ⟨sessionId, taskId, channel, schemaId⟩ ⟨sessionId', taskId', channel', schemaId'⟩ h
  simp only [segments, List.cons.injEq, true_and, and_true] at h
  obtain ⟨rfl, rfl, rfl, rfl⟩ := h
  rfl

theorem build_key_injective {fields fields' : TransportKeyFields} (h : Valid fields)
    (h' : Valid fields')
    (hkey : (buildTaskSampleKey fields).key = (buildTaskSampleKey fields').key) :
    fields = fields' := by
  apply segments_injective
  rw [← split_build_key h, ← split_build_key h', hkey]

/-- Every accepted key is built from the fields it was cut into. -/
theorem exists_build_key {key : Str} (h : validateTaskSampleKey key = .ok ()) :
    ∃ fields, Valid fields ∧ (buildTaskSampleKey fields).key = key := by
  obtain ⟨fields, hvalid, hparts⟩ := (validate_eq_ok_iff key).mp h
  refine ⟨fields, hvalid, ?_⟩
  rw [build_key hvalid, ← hparts, splitSampleKey_eq, List.intercalate_splitOn]

theorem validate_build_key {fields : TransportKeyFields} (h : Valid fields) :
    validateTaskSampleKey (buildTaskSampleKey fields).key = .ok () :=
  (validate_eq_ok_iff _).mpr ⟨fields, h, split_build_key h⟩

theorem key_bijection :
    (∀ fields, (buildTaskSampleKey fields).ok = true →
      validateTaskSampleKey (buildTaskSampleKey fields).key = .ok () ∧
        (splitSampleKey (buildTaskSampleKey fields).key)[3]? = some fields.sessionId ∧
        (splitSampleKey (buildTaskSampleKey fields).key)[5]? = some fields.taskId ∧
        (splitSampleKey (buildTaskSampleKey fields).key)[7]? = some fields.channel ∧
        (splitSampleKey (buildTaskSampleKey fields).key)[9]? = some fields.schemaId) ∧
    (∀ key, validateTaskSampleKey key = .ok () →
      ∃! fields, (buildTaskSampleKey fields).ok = true ∧
        (buildTaskSampleKey fields).key = key) ∧
    ∀ fields fields', (buildTaskSampleKey fields).ok = true →
      (buildTaskSampleKey fields').ok = true → fields ≠ fields' →
        (buildTaskSampleKey fields).key ≠ (buildTaskSampleKey fields').key := by
  simp only [build_ok_iff]
  refine ⟨fun fields h ↦ ?_, fun key h ↦ ?_, fun fields fields' h h' hne hkey ↦ ?_⟩
  · rw [split_build_key h]
    exact ⟨validate_build_key h, rfl, rfl, rfl, rfl⟩
  · obtain ⟨fields, hvalid, rfl⟩ := exists_build_key h
    exact ⟨fields, ⟨hvalid, rfl⟩, fun other hother ↦
      build_key_injective hother.1 hvalid hother.2⟩
  · exact hne (build_key_injective h h' hkey)

end TransportKeys

end RuntimeSync
