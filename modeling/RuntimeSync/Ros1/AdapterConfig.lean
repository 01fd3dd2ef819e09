import RuntimeSync.Core.EnvelopeWire
import RuntimeSync.Core.TransportKeys

/-!
# The adapter allowlist

The rules are checked one after the other, and two sets carry along the names
and the mappings that were met.  Which of the rules fails depends on their
order; whether one fails does not.
-/

namespace RuntimeSync

def kDefaultAdapterMaxPayloadBytes : ℕ := 64 * 1024

structure AdapterRule where
  name : Str := []
  topic : Str := []
  channel : Str := []
  schemaId : Str := []
  payloadType : Str := text "bytes"
  enabled : Bool := true
  maxPayloadBytes : ℕ := kDefaultAdapterMaxPayloadBytes
  required : Bool := false
  allowLargePayload : Bool := false
  deriving DecidableEq

structure AdapterConfig where
  denyByDefault : Bool := true
  rules : List AdapterRule := []
  deriving DecidableEq

structure AdapterConfigResult where
  ok : Bool := false
  error : Str := []
  config : AdapterConfig := {}
  deriving DecidableEq

namespace AdapterConfig

/-- `std::tolower` in the C locale. -/
def toLower (value : UInt8) : UInt8 :=
  if byte 'A' ≤ value ∧ value ≤ byte 'Z' then value + 32 else value

def lowerCopy (value : Str) : Str := value.map toLower

def isReservedSystemTopic (topic : Str) : Bool :=
  topic == text "/tf" || topic == text "/tf_static" || topic == text "/rosout" ||
    topic == text "/clock"

def isLargeDebugTopic (topic : Str) : Bool :=
  let lowered := lowerCopy topic
  text "image" <:+: lowered ∨ text "pointcloud" <:+: lowered ∨ text "debug" <:+: lowered ∨
    text "camera" <:+: lowered ∨ text "raw" <:+: lowered

def isDefaultDeniedTopic (topic : Str) : Bool :=
  isReservedSystemTopic topic || isLargeDebugTopic topic

def validateTaskField (fieldName value : Str) : Except Str Unit :=
  if value = [] then .error (fieldName ++ text " is required")
  else if !TransportKeys.isValidTaskKeyField value then
    .error (fieldName ++ text " contains an illegal character")
  else .ok ()

def ruleLabel (rule : AdapterRule) (index : ℕ) : Str :=
  if rule.name = [] then text "rule[" ++ text (toString index) ++ text "]" else rule.name

def validateTaskFields (rule : AdapterRule) : Except Str Unit := do
  validateTaskField (text "name") rule.name
  validateTaskField (text "channel") rule.channel
  validateTaskField (text "schema_id") rule.schemaId

/-- The checks that are about one rule alone, in their order. -/
def validateRule (rule : AdapterRule) : Except Str Unit :=
  match validateTaskFields rule with
  | .error error => .error error
  | .ok () =>
      if rule.topic.head? ≠ some (byte '/') then .error (text "topic must start with /")
      else if rule.payloadType = [] then .error (text "payload_type is required")
      else if rule.maxPayloadBytes = 0 then .error (text "max_payload_bytes must be positive")
      else if kDefaultMaxPayloadBytes < rule.maxPayloadBytes then
        .error (text "max_payload_bytes exceeds envelope maximum")
      else if !rule.allowLargePayload && kDefaultAdapterMaxPayloadBytes < rule.maxPayloadBytes then
        .error (text "allow_large_payload is required above adapter default size")
      else if !rule.allowLargePayload && isDefaultDeniedTopic rule.topic then
        .error (text <| "topic is default-denied; " ++
          "set allow_large_payload=true for explicit override")
      else .ok ()

/-- The two sets of the loop. -/
structure Seen where
  ruleNames : Finset Str := ∅
  enabledChannelSchemas : Finset (Str × Str) := ∅

def mapping (rule : AdapterRule) : Str × Str := (rule.channel, rule.schemaId)

def Seen.add (seen : Seen) (rule : AdapterRule) : Seen where
  ruleNames := insert rule.name seen.ruleNames
  enabledChannelSchemas :=
    if rule.enabled then insert (mapping rule) seen.enabledChannelSchemas
    else seen.enabledChannelSchemas

def admitRule (seen : Seen) (rule : AdapterRule) : Except Str Seen :=
  match validateRule rule with
  | .error error => .error error
  | .ok () =>
      if rule.name ∈ seen.ruleNames then .error (text "duplicate rule name")
      else if rule.enabled ∧ mapping rule ∈ seen.enabledChannelSchemas then
        .error (text "duplicate enabled channel/schema mapping")
      else .ok (seen.add rule)

/-- The loop over the rules from the index on. -/
def validateRules (index : ℕ) (seen : Seen) : List AdapterRule → Except Str Unit
  | [] => .ok ()
  | rule :: rules =>
      match admitRule seen rule with
      | .error error => .error (ruleLabel rule index ++ text ": " ++ error)
      | .ok seen => validateRules (index + 1) seen rules

def errorResult (error : Str) : AdapterConfigResult := { ok := false, error := error }

def validateAdapterConfig (config : AdapterConfig) : AdapterConfigResult :=
  match validateRules 0 {} config.rules with
  | .error error => errorResult error
  | .ok () => { ok := true, config := config }

def defaultAdapterConfig : AdapterConfig := { denyByDefault := true }

def enabledRuleCount (config : AdapterConfig) : ℕ := config.rules.countP (·.enabled)

def summarizeAdapterConfig (config : AdapterConfig) : Str :=
  text "adapters=" ++ text (toString config.enabledRuleCount) ++ text "/" ++
    text (toString config.rules.length) ++ text " deny_by_default=" ++
    (if config.denyByDefault then text "true" else text "false")

/-! ## The condition on the whole list -/

structure RuleValid (rule : AdapterRule) : Prop where
  name : IsKey rule.name
  channel : IsKey rule.channel
  schemaId : IsKey rule.schemaId
  topic : rule.topic.head? = some (byte '/')
  payloadType : rule.payloadType ≠ []
  positive : 0 < rule.maxPayloadBytes
  bounded : rule.maxPayloadBytes ≤ 1024 * 1024
  large : 64 * 1024 < rule.maxPayloadBytes ∨ isDefaultDeniedTopic rule.topic = true →
    rule.allowLargePayload = true

def enabledRules (config : AdapterConfig) : List AdapterRule := config.rules.filter (·.enabled)

structure ConfigValid (config : AdapterConfig) : Prop where
  rules : ∀ rule ∈ config.rules, RuleValid rule
  names : (config.rules.map AdapterRule.name).Nodup
  mappings : (config.enabledRules.map mapping).Nodup

/-! ## One rule -/

theorem validateTaskField_eq_ok_iff (fieldName value : Str) :
    validateTaskField fieldName value = .ok () ↔ IsKey value := by
  unfold IsKey
  rw [← TransportKeys.isValidTaskKeyField_iff]
  by_cases hempty : value = []
  · have hkey : TransportKeys.isValidTaskKeyField value = false := by rw [hempty]; rfl
    simp [validateTaskField, hempty ▸ hkey, hempty]
  · cases hkey : TransportKeys.isValidTaskKeyField value <;>
      simp [validateTaskField, hempty, hkey]

theorem validateTaskFields_eq_ok_iff (rule : AdapterRule) :
    validateTaskFields rule = .ok () ↔
      IsKey rule.name ∧ IsKey rule.channel ∧ IsKey rule.schemaId := by
  rw [validateTaskFields, TransportKeys.bind_eq_ok_iff, TransportKeys.bind_eq_ok_iff]
  simp only [validateTaskField_eq_ok_iff]

/-- An early return. -/
theorem ite_error_eq_ok_iff {α : Type} {p : Prop} [Decidable p] {error : Str}
    {next : Except Str α} {a : α} :
    (if p then .error error else next) = .ok a ↔ ¬p ∧ next = .ok a := by
  by_cases hp : p
  · simp [hp]
  · simp [hp]

theorem validateRule_eq_ok_iff (rule : AdapterRule) :
    validateRule rule = .ok () ↔ RuleValid rule := by
  rw [validateRule]
  cases hfields : validateTaskFields rule with
  | error error =>
      refine iff_of_false (fun h ↦ by cases h) fun h ↦ ?_
      have hok := (validateTaskFields_eq_ok_iff rule).mpr ⟨h.name, h.channel, h.schemaId⟩
      rw [hfields] at hok
      cases hok
  | ok _ =>
      obtain ⟨hname, hchannel, hschema⟩ := (validateTaskFields_eq_ok_iff rule).mp hfields
      simp only [ite_error_eq_ok_iff, not_not, and_true]
      constructor
      · rintro ⟨htopic, htype, hpositive, hbounded, hlarge, hdenied⟩
        refine ⟨hname, hchannel, hschema, htopic, htype, Nat.pos_of_ne_zero hpositive,
          Nat.le_of_not_lt hbounded, ?_⟩
        rintro (hsize | htopic)
        · simpa [kDefaultAdapterMaxPayloadBytes, hsize] using hlarge
        · simpa [htopic] using hdenied
      · intro h
        refine ⟨h.topic, h.payloadType, Nat.ne_of_gt h.positive, Nat.not_lt.mpr h.bounded, ?_, ?_⟩
        · rw [Bool.and_eq_true, decide_eq_true_iff]
          rintro ⟨hallow, hsize⟩
          rw [h.large (.inl hsize)] at hallow
          cases hallow
        · rw [Bool.and_eq_true]
          rintro ⟨hallow, hdenied⟩
          rw [h.large (.inr hdenied)] at hallow
          cases hallow

theorem admitRule_eq_ok_iff (seen seen' : Seen) (rule : AdapterRule) :
    admitRule seen rule = .ok seen' ↔
      RuleValid rule ∧ rule.name ∉ seen.ruleNames ∧
        ¬(rule.enabled = true ∧ mapping rule ∈ seen.enabledChannelSchemas) ∧
        seen.add rule = seen' := by
  rw [← validateRule_eq_ok_iff, admitRule]
  cases hrule : validateRule rule with
  | error error => simp
  | ok _ => simp only [ite_error_eq_ok_iff, true_and, Except.ok.injEq]

/-! ## All rules -/

/-- The values are distinct, and none of them was seen. -/
def Fresh {α : Type} (seen : Finset α) (values : List α) : Prop :=
  values.Nodup ∧ ∀ a ∈ values, a ∉ seen

theorem fresh_empty {α : Type} (values : List α) : Fresh ∅ values ↔ values.Nodup := by
  simp [Fresh]

theorem fresh_cons {α : Type} [DecidableEq α] (seen : Finset α) (a : α) (values : List α) :
    Fresh seen (a :: values) ↔ a ∉ seen ∧ Fresh (insert a seen) values := by
  simp only [Fresh, List.nodup_cons, List.forall_mem_cons, Finset.mem_insert, not_or]
  constructor
  · rintro ⟨⟨hmem, hnodup⟩, ha, hvalues⟩
    refine ⟨ha, hnodup, fun b hb ↦ ⟨?_, hvalues b hb⟩⟩
    rintro rfl
    exact hmem hb
  · rintro ⟨ha, hnodup, hvalues⟩
    exact ⟨⟨fun hmem ↦ (hvalues a hmem).1 rfl, hnodup⟩, ha, fun b hb ↦ (hvalues b hb).2⟩

/-- The loop, from any point on. -/
theorem validateRules_eq_ok_iff (index : ℕ) (seen : Seen) (rules : List AdapterRule) :
    validateRules index seen rules = .ok () ↔
      (∀ rule ∈ rules, RuleValid rule) ∧ Fresh seen.ruleNames (rules.map AdapterRule.name) ∧
        Fresh seen.enabledChannelSchemas ((rules.filter (·.enabled)).map mapping) := by
  induction rules generalizing index seen with
  | nil => simp [validateRules, Fresh]
  | cons rule rules ih =>
      rw [validateRules, List.forall_mem_cons, List.map_cons, fresh_cons]
      cases hchecked : admitRule seen rule with
      | error error =>
          refine iff_of_false (fun h ↦ by cases h) ?_
          rintro ⟨⟨hrule, -⟩, ⟨hname, -⟩, hmappings⟩
          have hok : admitRule seen rule = .ok (seen.add rule) := by
            refine (admitRule_eq_ok_iff _ _ _).mpr ⟨hrule, hname, ?_, rfl⟩
            rintro ⟨henabled, hmem⟩
            rw [List.filter_cons_of_pos henabled, List.map_cons, fresh_cons] at hmappings
            exact hmappings.1 hmem
          rw [hchecked] at hok
          cases hok
      | ok seen' =>
          obtain ⟨hrule, hname, hmapping, rfl⟩ := (admitRule_eq_ok_iff _ _ _).mp hchecked
          dsimp only
          rw [ih, Seen.add]
          cases henabled : rule.enabled with
          | false => simp [hrule, hname, henabled]
          | true =>
              have hmem : mapping rule ∉ seen.enabledChannelSchemas :=
                fun hmem ↦ hmapping ⟨henabled, hmem⟩
              simp [hrule, hname, henabled, fresh_cons, hmem]

theorem validateAdapterConfig_ok_iff (config : AdapterConfig) :
    (validateAdapterConfig config).ok = true ↔ ConfigValid config := by
  have hiff := validateRules_eq_ok_iff 0 {} config.rules
  rw [fresh_empty, fresh_empty] at hiff
  have hvalid : ConfigValid config ↔ validateRules 0 {} config.rules = .ok () := by
    rw [hiff]
    exact ⟨fun h ↦ ⟨h.rules, h.names, h.mappings⟩, fun h ↦ ⟨h.1, h.2.1, h.2.2⟩⟩
  rw [hvalid, validateAdapterConfig]
  cases validateRules 0 {} config.rules with
  | error error => simp [errorResult]
  | ok _ => simp

/-- The order of the rules decides only which of them is reported. -/
theorem validateAdapterConfig_ok_perm {config config' : AdapterConfig}
    (h : config.rules.Perm config'.rules) :
    (validateAdapterConfig config).ok = (validateAdapterConfig config').ok := by
  rw [Bool.eq_iff_iff, validateAdapterConfig_ok_iff, validateAdapterConfig_ok_iff]
  have hnames := (h.map AdapterRule.name).nodup_iff
  have hmappings := ((h.filter (·.enabled)).map mapping).nodup_iff
  constructor
  · intro hvalid
    exact ⟨fun rule hrule ↦ hvalid.rules rule (h.mem_iff.mpr hrule), hnames.mp hvalid.names,
      hmappings.mp hvalid.mappings⟩
  · intro hvalid
    exact ⟨fun rule hrule ↦ hvalid.rules rule (h.mem_iff.mp hrule), hnames.mpr hvalid.names,
      hmappings.mpr hvalid.mappings⟩

/-! ## The keys of the enabled rules -/

/-- The stream that a rule exports in a task. -/
def streamOf (sessionId taskId : Str) (rule : AdapterRule) : TransportKeyFields :=
  ⟨sessionId, taskId, rule.channel, rule.schemaId⟩

theorem streamOf_valid {sessionId taskId : Str} (hsession : IsKey sessionId)
    (htask : IsKey taskId) {rule : AdapterRule} (h : RuleValid rule) :
    TransportKeys.Valid (streamOf sessionId taskId rule) :=
  ⟨hsession, htask, h.channel, h.schemaId⟩

theorem ConfigValid.keys_nodup {config : AdapterConfig} (h : ConfigValid config)
    {sessionId taskId : Str} (hsession : IsKey sessionId) (htask : IsKey taskId) :
    (config.enabledRules.map fun rule ↦
      (TransportKeys.buildTaskSampleKey (streamOf sessionId taskId rule)).key).Nodup := by
  have hvalid : ∀ rule ∈ config.enabledRules,
      TransportKeys.Valid (streamOf sessionId taskId rule) := fun rule hrule ↦
    streamOf_valid hsession htask (h.rules rule (List.mem_filter.mp hrule).1)
  have hmappings := List.pairwise_map.mp h.mappings
  refine List.pairwise_map.mpr (hmappings.imp_of_mem ?_)
  intro rule rule' hrule hrule' hne hkey
  have hfields := TransportKeys.build_key_injective (hvalid rule hrule) (hvalid rule' hrule') hkey
  exact hne (Prod.ext (congrArg TransportKeyFields.channel hfields)
    (congrArg TransportKeyFields.schemaId hfields))

/-- The loop accepts what meets a condition on the whole list, and then the
enabled rules export streams of their own in every task. -/
theorem validateAdapterConfig_spec (config : AdapterConfig) :
    ((validateAdapterConfig config).ok = true ↔ ConfigValid config) ∧
      ((validateAdapterConfig config).ok = true →
        ∀ sessionId taskId, IsKey sessionId → IsKey taskId →
          (∀ rule ∈ config.enabledRules,
            (TransportKeys.buildTaskSampleKey (streamOf sessionId taskId rule)).ok = true ∧
              TransportKeys.validateTaskSampleKey
                (TransportKeys.buildTaskSampleKey (streamOf sessionId taskId rule)).key
                  = .ok ()) ∧
            (config.enabledRules.map fun rule ↦
              (TransportKeys.buildTaskSampleKey (streamOf sessionId taskId rule)).key).Nodup) := by
  refine ⟨validateAdapterConfig_ok_iff config, ?_⟩
  intro hok sessionId taskId hsession htask
  have h := (validateAdapterConfig_ok_iff config).mp hok
  refine ⟨fun rule hrule ↦ ?_, h.keys_nodup hsession htask⟩
  have hvalid := streamOf_valid hsession htask (h.rules rule (List.mem_filter.mp hrule).1)
  exact ⟨(TransportKeys.build_ok_iff _).mpr hvalid, TransportKeys.validate_build_key hvalid⟩

end AdapterConfig

end RuntimeSync
