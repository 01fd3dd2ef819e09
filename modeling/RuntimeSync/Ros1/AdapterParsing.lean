import RuntimeSync.Ros1.AdapterConfig

/-!
# The parameter tree of the adapters

The rules come as a tree of values from the parameter server.  All of them are
read before the first one is checked.  The values are a library's, and the
parser depends on nothing of them but what it asks for.
-/

namespace RuntimeSync

inductive XmlRpcType where
  | invalid
  | boolean
  | int
  | double
  | string
  | dateTime
  | base64
  | array
  | struct
  /-- A value outside the enumeration. -/
  | other
  deriving DecidableEq

def XmlRpcType.typeName : XmlRpcType → Str
  | invalid => text "invalid"
  | boolean => text "bool"
  | int => text "int"
  | double => text "double"
  | string => text "string"
  | dateTime => text "datetime"
  | base64 => text "base64"
  | array => text "array"
  | struct => text "struct"
  | other => text "unknown"

/-- What the parser asks of a value.  It looks at the type before it takes a
member or an element of the value, or converts it. -/
class XmlRpcValue (V : Type) where
  getType : V → XmlRpcType
  hasMember : V → Str → Bool
  member : V → Str → V
  size : V → Int32
  element : V → ℕ → V
  asString : V → Str
  asBool : V → Bool
  asInt : V → Int32
  /-- What is left of a struct to which one of its own members is assigned. -/
  assignMember : V → Str → V

namespace AdapterConfig

open XmlRpcValue (getType member size element asString asBool asInt assignMember)

variable {V : Type} [XmlRpcValue V]

def hasMember (value : V) (key : Str) : Bool :=
  getType value = .struct && XmlRpcValue.hasMember value key

def typeName (value : V) : Str := (getType value).typeName

/-! ## Reading -/

/-- `value[key]`, when `hasMember` finds the key. -/
def member? (value : V) (key : Str) : Option V :=
  if hasMember value key then some (member value key) else none

/-- What the loop over an array meets. -/
def elements (values : V) : List V := (List.range (size values).toInt.toNat).map (element values)

/-! `out` is the value that the source leaves in place when the member is absent. -/

def readString (value : V) (key : Str) (required : Bool) (out : Str) : Except Str Str :=
  match member? value key with
  | none => if required then .error (key ++ text " is required") else .ok out
  | some field =>
      if getType field ≠ .string then
        .error (key ++ text " must be a string, got " ++ typeName field)
      else .ok (asString field)

def readBool (value : V) (key : Str) (out : Bool) : Except Str Bool :=
  match member? value key with
  | none => .ok out
  | some field =>
      if getType field ≠ .boolean then
        .error (key ++ text " must be a bool, got " ++ typeName field)
      else .ok (asBool field)

def readSize (value : V) (key : Str) (out : ℕ) : Except Str ℕ :=
  match member? value key with
  | none => .ok out
  | some field =>
      if getType field ≠ .int then .error (key ++ text " must be an int, got " ++ typeName field)
      else if asInt field ≤ 0 then .error (key ++ text " must be positive")
      else .ok (asInt field).toInt.toNat

/-- The members of a rule, in the order in which the source reads them. -/
def readRule (raw : V) : Except Str AdapterRule := do
  let rule : AdapterRule := {}
  let name ← readString raw (text "name") true rule.name
  let topic ← readString raw (text "topic") true rule.topic
  let channel ← readString raw (text "channel") true rule.channel
  let schemaId ← readString raw (text "schema_id") true rule.schemaId
  let payloadType ← readString raw (text "payload_type") true rule.payloadType
  let enabled ← readBool raw (text "enabled") rule.enabled
  let required ← readBool raw (text "required") rule.required
  let allowLargePayload ← readBool raw (text "allow_large_payload") rule.allowLargePayload
  let maxPayloadBytes ← readSize raw (text "max_payload_bytes") rule.maxPayloadBytes
  return {
    name := name
    topic := topic
    channel := channel
    schemaId := schemaId
    payloadType := payloadType
    enabled := enabled
    maxPayloadBytes := maxPayloadBytes
    required := required
    allowLargePayload := allowLargePayload }

def rulesLabel (index : ℕ) : Str := text "rules[" ++ text (toString index) ++ text "]"

/-- One turn of the loop over the array. -/
def readEntry (index : ℕ) (raw : V) : Except Str AdapterRule :=
  if getType raw ≠ .struct then
    .error (rulesLabel index ++ text " must be a struct, got " ++ typeName raw)
  else
    match readRule raw with
    | .error error => .error (rulesLabel index ++ text ": " ++ error)
    | .ok rule => .ok rule

def readRules (index : ℕ) : List V → Except Str (List AdapterRule)
  | [] => .ok []
  | raw :: raws =>
      match readEntry index raw with
      | .error error => .error error
      | .ok rule =>
          match readRules (index + 1) raws with
          | .error error => .error error
          | .ok rules => .ok (rule :: rules)

/-- `value = value["ros1_adapters"]`, when there is such a member. -/
def unwrapped (value : V) : V :=
  if hasMember value (text "ros1_adapters") then assignMember value (text "ros1_adapters")
  else value

def parseAdapterConfigXmlRpc (value : V) : AdapterConfigResult :=
  let value := unwrapped value
  if getType value ≠ .struct then
    errorResult (text "ros1_adapters must be a struct, got " ++ typeName value)
  else
    match readBool value (text "deny_by_default") ({} : AdapterConfig).denyByDefault with
    | .error error => errorResult error
    | .ok denyByDefault =>
        match member? value (text "rules") with
        | none => validateAdapterConfig { denyByDefault := denyByDefault }
        | some rules =>
            if getType rules ≠ .array then
              errorResult (text "rules must be an array, got " ++ typeName rules)
            else
              match readRules 0 (elements rules) with
              | .error error => errorResult error
              | .ok rules =>
                  validateAdapterConfig { denyByDefault := denyByDefault, rules := rules }

/-! ## What a tree says -/

def StringMember (raw : V) (key value : Str) : Prop :=
  ∃ field, member? raw key = some field ∧ getType field = .string ∧ asString field = value

/-- The member has the value, or is absent and the value is the default. -/
def BoolMember (raw : V) (key : Str) (default value : Bool) : Prop :=
  (∃ field, member? raw key = some field ∧ getType field = .boolean ∧ asBool field = value) ∨
    (member? raw key = none ∧ value = default)

def SizeMember (raw : V) (key : Str) (default value : ℕ) : Prop :=
  (∃ field, member? raw key = some field ∧ getType field = .int ∧ 0 < asInt field ∧
    (asInt field).toInt.toNat = value) ∨
    (member? raw key = none ∧ value = default)

/-- The tree of a rule.  Members that the source does not know do not count. -/
structure RuleTree (raw : V) (rule : AdapterRule) : Prop where
  name : StringMember raw (text "name") rule.name
  topic : StringMember raw (text "topic") rule.topic
  channel : StringMember raw (text "channel") rule.channel
  schemaId : StringMember raw (text "schema_id") rule.schemaId
  payloadType : StringMember raw (text "payload_type") rule.payloadType
  enabled : BoolMember raw (text "enabled") true rule.enabled
  required : BoolMember raw (text "required") false rule.required
  allowLargePayload :
    BoolMember raw (text "allow_large_payload") false rule.allowLargePayload
  maxPayloadBytes :
    SizeMember raw (text "max_payload_bytes") kDefaultAdapterMaxPayloadBytes rule.maxPayloadBytes

structure ConfigTree (value : V) (config : AdapterConfig) : Prop where
  isStruct : getType value = .struct
  denyByDefault : BoolMember value (text "deny_by_default") true config.denyByDefault
  rules :
    (member? value (text "rules") = none ∧ config.rules = []) ∨
      ∃ rules, member? value (text "rules") = some rules ∧ getType rules = .array ∧
        List.Forall₂ RuleTree (elements rules) config.rules

theorem isStruct_of_member {value field : V} {key : Str} (h : member? value key = some field) :
    getType value = .struct := by
  by_contra hne
  rw [member?, hasMember, decide_eq_false hne] at h
  cases h

/-! ## Members -/

section Members

variable (raw : V) (key : Str)

theorem readString_eq_ok_iff (out s : Str) :
    readString raw key true out = .ok s ↔ StringMember raw key s := by
  rw [readString, StringMember]
  cases member? raw key with
  | none => simp
  | some field => by_cases htype : getType field = .string <;> simp [htype]

theorem readBool_eq_ok_iff (out b : Bool) :
    readBool raw key out = .ok b ↔ BoolMember raw key out b := by
  rw [readBool, BoolMember]
  cases member? raw key with
  | none => simp [eq_comm]
  | some field => by_cases htype : getType field = .boolean <;> simp [htype]

theorem readSize_eq_ok_iff (out n : ℕ) :
    readSize raw key out = .ok n ↔ SizeMember raw key out n := by
  rw [readSize, SizeMember]
  cases member? raw key with
  | none => simp [eq_comm]
  | some field =>
      by_cases htype : getType field = .int
      · by_cases hpos : asInt field ≤ 0
        · simp [htype, hpos]
        · simp [htype, if_neg hpos, Int32.not_le.mp hpos]
      · simp [htype]

end Members

/-! ## Rules -/

theorem exceptBind_eq_ok_iff {α β : Type} {x : Except Str α} {f : α → Except Str β} {b : β} :
    (x >>= f) = .ok b ↔ ∃ a, x = .ok a ∧ f a = .ok b := by
  cases x with
  | error error => exact iff_of_false nofun fun ⟨_, h, _⟩ ↦ nomatch h
  | ok a => exact ⟨fun h ↦ ⟨a, rfl, h⟩, fun ⟨_, h, h'⟩ ↦ Except.ok.inj h ▸ h'⟩

theorem readRule_eq_ok_iff (raw : V) (rule : AdapterRule) :
    readRule raw = .ok rule ↔ RuleTree raw rule := by
  rw [readRule]
  simp only [exceptBind_eq_ok_iff, readString_eq_ok_iff, readBool_eq_ok_iff, readSize_eq_ok_iff]
  constructor
  · rintro ⟨name, hname, topic, htopic, channel, hchannel, schemaId, hschema, payloadType, htype,
      enabled, henabled, required, hrequired, allow, hallow, size, hsize, h⟩
    obtain rfl := Except.ok.inj h
    exact ⟨hname, htopic, hchannel, hschema, htype, henabled, hrequired, hallow, hsize⟩
  · intro h
    exact ⟨_, h.name, _, h.topic, _, h.channel, _, h.schemaId, _, h.payloadType, _, h.enabled,
      _, h.required, _, h.allowLargePayload, _, h.maxPayloadBytes, rfl⟩

theorem RuleTree.isStruct {raw : V} {rule : AdapterRule} (h : RuleTree raw rule) :
    getType raw = .struct := by
  obtain ⟨_, hname, -⟩ := h.name
  exact isStruct_of_member hname

theorem readEntry_eq_ok_iff (index : ℕ) (raw : V) (rule : AdapterRule) :
    readEntry index raw = .ok rule ↔ RuleTree raw rule := by
  rw [← readRule_eq_ok_iff, readEntry, ite_error_eq_ok_iff, not_not]
  constructor
  · rintro ⟨-, h⟩
    cases hread : readRule raw with
    | error error =>
        rw [hread] at h
        cases h
    | ok _ => rwa [hread] at h
  · intro h
    rw [h]
    exact ⟨((readRule_eq_ok_iff raw rule).mp h).isStruct, rfl⟩

theorem readRules_eq_ok_iff (index : ℕ) (raws : List V) (rules : List AdapterRule) :
    readRules index raws = .ok rules ↔ List.Forall₂ RuleTree raws rules := by
  induction raws generalizing index rules with
  | nil => simp [readRules, eq_comm]
  | cons raw raws ih =>
      rw [readRules, List.forall₂_cons_left_iff]
      simp only [← readEntry_eq_ok_iff index]
      cases readEntry index raw with
      | error error => simp
      | ok rule =>
          simp only [← ih (index + 1)]
          cases readRules (index + 1) raws with
          | error error => simp
          | ok rest => simp [eq_comm]

/-! ## Rejected trees -/

inductive MemberKind where
  | string
  | bool
  | size

/-- What is wrong with a member, if anything. -/
def memberError (raw : V) (key : Str) : MemberKind → Option Str
  | .string =>
      match member? raw key with
      | none => some (key ++ text " is required")
      | some field =>
          if getType field = .string then none
          else some (key ++ text " must be a string, got " ++ typeName field)
  | .bool =>
      match member? raw key with
      | none => none
      | some field =>
          if getType field = .boolean then none
          else some (key ++ text " must be a bool, got " ++ typeName field)
  | .size =>
      match member? raw key with
      | none => none
      | some field =>
          if getType field ≠ .int then some (key ++ text " must be an int, got " ++ typeName field)
          else if asInt field ≤ 0 then some (key ++ text " must be positive")
          else none

/-- The members of a rule, in the order in which they are complained about. -/
def ruleMembers : List (Str × MemberKind) :=
  [(text "name", .string), (text "topic", .string), (text "channel", .string),
    (text "schema_id", .string), (text "payload_type", .string), (text "enabled", .bool),
    (text "required", .bool), (text "allow_large_payload", .bool),
    (text "max_payload_bytes", .size)]

/-- What is wrong with a rule. -/
def EntryError (raw : V) (error : Str) : Prop :=
  (getType raw ≠ .struct ∧ error = text " must be a struct, got " ++ typeName raw) ∨
    (getType raw = .struct ∧ ∃ reason,
      ruleMembers.findSome? (fun member ↦ memberError raw member.1 member.2) = some reason ∧
      error = text ": " ++ reason)

/-- What is wrong with a tree: the first thing that cannot be read. -/
inductive TreeError (value : V) : Str → Prop
  | notStruct (h : getType value ≠ .struct) :
      TreeError value (text "ros1_adapters must be a struct, got " ++ typeName value)
  | denyByDefault {error : Str} (hstruct : getType value = .struct)
      (h : memberError value (text "deny_by_default") .bool = some error) : TreeError value error
  | rules {rules : V} (hrules : member? value (text "rules") = some rules)
      (hdeny : memberError value (text "deny_by_default") .bool = none)
      (h : getType rules ≠ .array) :
      TreeError value (text "rules must be an array, got " ++ typeName rules)
  | rule {rules raw : V} {before after : List V} {read : List AdapterRule} {error : Str}
      (hrules : member? value (text "rules") = some rules)
      (hdeny : memberError value (text "deny_by_default") .bool = none)
      (harray : getType rules = .array) (helements : elements rules = before ++ raw :: after)
      (hbefore : List.Forall₂ RuleTree before read) (h : EntryError raw error) :
      TreeError value (rulesLabel before.length ++ error)

/-! ## What cannot be read -/

section Errors

variable (raw : V) (key : Str)

theorem readString_eq_error_iff (out error : Str) :
    readString raw key true out = .error error ↔ memberError raw key .string = some error := by
  rw [readString, memberError]
  cases member? raw key with
  | none => simp
  | some field => by_cases htype : getType field = .string <;> simp [htype]

theorem readBool_eq_error_iff (out : Bool) (error : Str) :
    readBool raw key out = .error error ↔ memberError raw key .bool = some error := by
  rw [readBool, memberError]
  cases member? raw key with
  | none => simp
  | some field => by_cases htype : getType field = .boolean <;> simp [htype]

theorem readSize_eq_error_iff (out : ℕ) (error : Str) :
    readSize raw key out = .error error ↔ memberError raw key .size = some error := by
  rw [readSize, memberError]
  cases member? raw key with
  | none => simp
  | some field =>
      by_cases htype : getType field = .int
      · by_cases hpos : asInt field ≤ 0 <;> simp [htype, hpos]
      · simp [htype]

end Errors

/-- A read that comes first complains first. -/
theorem exceptBind_eq_error_iff {α β : Type} {x : Except Str α} {f : α → Except Str β}
    {first rest : Option Str} {error : Str} (hx : ∀ error, x = .error error ↔ first = some error)
    (hf : ∀ a, f a = .error error ↔ rest = some error) :
    (x >>= f) = .error error ↔ first.or rest = some error := by
  cases x with
  | error error' =>
      change (Except.error error' : Except Str β) = .error error ↔ _
      rw [(hx error').mp rfl, Option.some_or, Except.error.injEq, Option.some.injEq]
  | ok a =>
      have hfirst : first = none := by
        cases first with
        | none => rfl
        | some error' => cases (hx error').mpr rfl
      rw [hfirst, Option.none_or]
      exact hf a

theorem findSome?_cons_or {α β : Type} (f : α → Option β) (a : α) (as : List α) :
    (a :: as).findSome? f = (f a).or (as.findSome? f) := by
  rw [List.findSome?_cons]
  cases f a <;> rfl

theorem readRule_eq_error_iff (raw : V) (error : Str) :
    readRule raw = .error error ↔
      ruleMembers.findSome? (fun member ↦ memberError raw member.1 member.2) = some error := by
  rw [readRule, ruleMembers]
  simp only [findSome?_cons_or, List.findSome?_nil]
  refine exceptBind_eq_error_iff (readString_eq_error_iff _ _ _) fun _ ↦ ?_
  refine exceptBind_eq_error_iff (readString_eq_error_iff _ _ _) fun _ ↦ ?_
  refine exceptBind_eq_error_iff (readString_eq_error_iff _ _ _) fun _ ↦ ?_
  refine exceptBind_eq_error_iff (readString_eq_error_iff _ _ _) fun _ ↦ ?_
  refine exceptBind_eq_error_iff (readString_eq_error_iff _ _ _) fun _ ↦ ?_
  refine exceptBind_eq_error_iff (readBool_eq_error_iff _ _ _) fun _ ↦ ?_
  refine exceptBind_eq_error_iff (readBool_eq_error_iff _ _ _) fun _ ↦ ?_
  refine exceptBind_eq_error_iff (readBool_eq_error_iff _ _ _) fun _ ↦ ?_
  refine exceptBind_eq_error_iff (readSize_eq_error_iff _ _ _) fun _ ↦ ?_
  exact iff_of_false nofun nofun

theorem readEntry_eq_error {index : ℕ} {raw : V} {error : Str}
    (h : readEntry index raw = .error error) :
    ∃ reason, EntryError raw reason ∧ error = rulesLabel index ++ reason := by
  rw [readEntry] at h
  by_cases hstruct : getType raw = .struct
  · rw [if_neg (not_not_intro hstruct)] at h
    cases hread : readRule raw with
    | error reason =>
        rw [hread] at h
        obtain rfl := Except.error.inj h
        refine ⟨_, Or.inr ⟨hstruct, reason, (readRule_eq_error_iff _ _).mp hread, rfl⟩, ?_⟩
        rw [List.append_assoc]
    | ok rule =>
        rw [hread] at h
        cases h
  · rw [if_pos hstruct] at h
    obtain rfl := Except.error.inj h
    exact ⟨_, Or.inl ⟨hstruct, rfl⟩, by rw [List.append_assoc]⟩

/-- The loop stops at the first entry that cannot be read. -/
theorem readRules_eq_error {index : ℕ} {raws : List V} {error : Str}
    (h : readRules index raws = .error error) :
    ∃ before raw after read reason, raws = before ++ raw :: after ∧
      List.Forall₂ RuleTree before read ∧ EntryError raw reason ∧
      error = rulesLabel (index + before.length) ++ reason := by
  induction raws generalizing index with
  | nil => cases h
  | cons raw raws ih =>
      rw [readRules] at h
      cases hentry : readEntry index raw with
      | error error' =>
          rw [hentry] at h
          obtain rfl := Except.error.inj h
          obtain ⟨reason, hreason, herror⟩ := readEntry_eq_error hentry
          exact ⟨[], raw, raws, [], reason, rfl, .nil, hreason, herror⟩
      | ok rule =>
          rw [hentry] at h
          dsimp only at h
          cases hrest : readRules (index + 1) raws with
          | ok rules =>
              rw [hrest] at h
              cases h
          | error error' =>
              rw [hrest] at h
              obtain rfl := Except.error.inj h
              obtain ⟨before, raw', after, read, reason, rfl, hbefore, hreason, herror⟩ := ih hrest
              refine ⟨raw :: before, raw', after, rule :: read, reason, rfl,
                .cons ((readEntry_eq_ok_iff index raw rule).mp hentry) hbefore, hreason, ?_⟩
              rw [herror, List.length_cons, Nat.add_assoc, Nat.add_comm 1]

theorem readEntry_of_entryError {raw : V} {error : Str} (h : EntryError raw error)
    (index : ℕ) : readEntry index raw = .error (rulesLabel index ++ error) := by
  rw [readEntry]
  rcases h with ⟨hstruct, rfl⟩ | ⟨hstruct, reason, hreason, rfl⟩
  · rw [if_pos hstruct, List.append_assoc]
  · rw [if_neg (not_not_intro hstruct), (readRule_eq_error_iff _ _).mpr hreason]
    dsimp only
    rw [List.append_assoc]

theorem readRules_of_entryError {before after : List V} {raw : V} {read : List AdapterRule}
    {error : Str} (hbefore : List.Forall₂ RuleTree before read) (h : EntryError raw error)
    (index : ℕ) :
    readRules index (before ++ raw :: after) =
      .error (rulesLabel (index + before.length) ++ error) := by
  induction hbefore generalizing index with
  | nil =>
      rw [List.nil_append, readRules, readEntry_of_entryError h]
      rfl
  | cons hrule _ ih =>
      rw [List.cons_append, readRules, (readEntry_eq_ok_iff index _ _).mpr hrule]
      dsimp only
      rw [ih (index + 1), List.length_cons, Nat.add_assoc, Nat.add_comm 1]

theorem readBool_of_memberError_none {raw : V} {key : Str}
    (h : memberError raw key .bool = none) (out : Bool) : ∃ b, readBool raw key out = .ok b := by
  cases hread : readBool raw key out with
  | ok b => exact ⟨b, rfl⟩
  | error error =>
      rw [readBool_eq_error_iff, h] at hread
      cases hread

theorem memberError_of_readBool {raw : V} {key : Str} {out b : Bool}
    (h : readBool raw key out = .ok b) : memberError raw key .bool = none := by
  by_contra hsome
  obtain ⟨error, herror⟩ := Option.ne_none_iff_exists'.mp hsome
  cases h.symm.trans ((readBool_eq_error_iff raw key out error).mpr herror)

/-! ## Bare trees

The source assigns a tree that comes under its own name to the struct that owns
it.  What this leaves is up to the library, and only the other trees are
described here. -/

def Bare (value : V) : Prop := hasMember value (text "ros1_adapters") = false

theorem Bare.unwrapped {value : V} (hbare : Bare value) : unwrapped value = value :=
  if_neg (Bool.eq_false_iff.mp hbare)

section Trees

variable {value : V}

/-- A tree says at most one thing. -/
theorem ConfigTree.unique {config config' : AdapterConfig} (h : ConfigTree value config)
    (h' : ConfigTree value config') : config = config' := by
  have hdeny := (readBool_eq_ok_iff value _ _ _).mpr h.denyByDefault
  rw [(readBool_eq_ok_iff value _ _ _).mpr h'.denyByDefault] at hdeny
  have hrules : config.rules = config'.rules := by
    rcases h.rules with ⟨habsent, hnil⟩ | ⟨rules, hmember, -, htrees⟩
    · rcases h'.rules with ⟨-, hnil'⟩ | ⟨rules', hmember', -⟩
      · rw [hnil, hnil']
      · cases habsent.symm.trans hmember'
    · rcases h'.rules with ⟨habsent', -⟩ | ⟨rules', hmember', -, htrees'⟩
      · cases habsent'.symm.trans hmember
      · cases hmember.symm.trans hmember'
        have hread := (readRules_eq_ok_iff 0 _ _).mpr htrees
        rw [(readRules_eq_ok_iff 0 _ _).mpr htrees'] at hread
        exact (Except.ok.inj hread).symm
  cases config
  cases config'
  exact congrArg₂ AdapterConfig.mk (Except.ok.inj hdeny).symm hrules

/-- A tree that says something has none of the errors. -/
theorem ConfigTree.not_treeError {config : AdapterConfig} (htree : ConfigTree value config)
    (error : Str) : ¬TreeError value error := by
  intro h
  cases h with
  | notStruct hstruct => exact hstruct htree.isStruct
  | denyByDefault _ hdeny =>
      have hread := (readBool_eq_error_iff value _ true _).mpr hdeny
      rw [(readBool_eq_ok_iff value _ true _).mpr htree.denyByDefault] at hread
      cases hread
  | rules hrules _ hne =>
      rcases htree.rules with ⟨habsent, -⟩ | ⟨rules, hmember, harray, -⟩
      · cases habsent.symm.trans hrules
      · exact hne (Option.some.inj (hrules.symm.trans hmember) ▸ harray)
  | rule hrules _ _ helements hbefore herror =>
      rcases htree.rules with ⟨habsent, -⟩ | ⟨rules, hmember, -, htrees⟩
      · cases habsent.symm.trans hrules
      · cases hmember.symm.trans hrules
        have hread := (readRules_eq_ok_iff 0 _ _).mpr htrees
        rw [helements, readRules_of_entryError hbefore herror] at hread
        cases hread

theorem parse_of_configTree (hbare : Bare value) {config : AdapterConfig}
    (h : ConfigTree value config) :
    parseAdapterConfigXmlRpc value = validateAdapterConfig config := by
  have hdeny := (readBool_eq_ok_iff value _ true _).mpr h.denyByDefault
  rw [parseAdapterConfigXmlRpc, hbare.unwrapped]
  dsimp only
  rw [if_neg (not_not_intro h.isStruct), hdeny]
  dsimp only
  rcases h.rules with ⟨habsent, hnil⟩ | ⟨rules, hrules, harray, htrees⟩
  · rw [habsent, ← hnil]
  · rw [hrules]
    dsimp only
    rw [if_neg (not_not_intro harray), (readRules_eq_ok_iff 0 _ _).mpr htrees]

/-- The first error is reported, whatever else is wrong with the rules. -/
theorem parse_of_treeError (hbare : Bare value) {error : Str} (h : TreeError value error) :
    parseAdapterConfigXmlRpc value = errorResult error := by
  rw [parseAdapterConfigXmlRpc, hbare.unwrapped]
  dsimp only
  cases h with
  | notStruct hstruct => exact if_pos hstruct
  | denyByDefault hstruct hdeny =>
      rw [if_neg (not_not_intro hstruct), (readBool_eq_error_iff _ _ _ _).mpr hdeny]
  | rules hrules hdeny hne =>
      obtain ⟨denyByDefault, hread⟩ := readBool_of_memberError_none hdeny true
      rw [if_neg (not_not_intro (isStruct_of_member hrules)), hread, hrules]
      exact if_pos hne
  | rule hrules hdeny harray helements hbefore herror =>
      obtain ⟨denyByDefault, hread⟩ := readBool_of_memberError_none hdeny true
      rw [if_neg (not_not_intro (isStruct_of_member hrules)), hread, hrules]
      dsimp only
      rw [if_neg (not_not_intro harray), helements, readRules_of_entryError hbefore herror,
        Nat.zero_add]

/-- Every tree says something, or there is a first thing in it that cannot be read. -/
theorem configTree_or_treeError (value : V) :
    (∃ config, ConfigTree value config) ∨ ∃ error, TreeError value error := by
  by_cases hstruct : getType value = .struct
  swap
  · exact Or.inr ⟨_, .notStruct hstruct⟩
  cases hdeny : readBool value (text "deny_by_default") true with
  | error error =>
      exact Or.inr ⟨error, .denyByDefault hstruct ((readBool_eq_error_iff _ _ _ _).mp hdeny)⟩
  | ok denyByDefault =>
      have hmember := (readBool_eq_ok_iff value _ true _).mp hdeny
      have hfine := memberError_of_readBool hdeny
      cases hrules : member? value (text "rules") with
      | none => exact Or.inl ⟨⟨denyByDefault, []⟩, hstruct, hmember, Or.inl ⟨hrules, rfl⟩⟩
      | some rules =>
          by_cases harray : getType rules = .array
          swap
          · exact Or.inr ⟨_, .rules hrules hfine harray⟩
          cases hread : readRules 0 (elements rules) with
          | ok read =>
              exact Or.inl ⟨⟨denyByDefault, read⟩, hstruct, hmember, Or.inr ⟨rules, hrules, harray,
                (readRules_eq_ok_iff 0 _ read).mp hread⟩⟩
          | error error =>
              obtain ⟨before, raw, after, read, reason, helements, hbefore, hreason, -⟩ :=
                readRules_eq_error hread
              exact Or.inr ⟨_, .rule hrules hfine harray helements hbefore hreason⟩

end Trees

theorem validateAdapterConfig_eq_ok_iff (config config' : AdapterConfig) :
    validateAdapterConfig config = { ok := true, config := config' } ↔
      config = config' ∧ ConfigValid config := by
  rw [← validateAdapterConfig_ok_iff, validateAdapterConfig]
  cases validateRules 0 {} config.rules with
  | error error => simp [errorResult]
  | ok _ => simp

/-- The parser accepts the trees of valid configurations and no others, and
reads from each the configuration it describes. -/
theorem parse_accepts (value : V) (hbare : Bare value) (config : AdapterConfig) :
    parseAdapterConfigXmlRpc value = { ok := true, config := config } ↔
      ConfigTree value config ∧ ConfigValid config := by
  constructor
  · intro hok
    rcases configTree_or_treeError value with ⟨config', htree⟩ | ⟨error, herror⟩
    · rw [parse_of_configTree hbare htree, validateAdapterConfig_eq_ok_iff] at hok
      obtain ⟨rfl, hvalid⟩ := hok
      exact ⟨htree, hvalid⟩
    · rw [parse_of_treeError hbare herror] at hok
      cases hok
  · rintro ⟨htree, hvalid⟩
    rw [parse_of_configTree hbare htree, validateAdapterConfig_eq_ok_iff]
    exact ⟨rfl, hvalid⟩

/-! ## Written trees

A type of values that shows what the parser reads: the trees as they stand in a
parameter file. -/

inductive ParameterTree where
  | boolean (value : Bool)
  | int (value : Int32)
  | string (value : Str)
  | array (values : List ParameterTree)
  | struct (members : List (Str × ParameterTree))

namespace ParameterTree

def members : ParameterTree → List (Str × ParameterTree)
  | struct members => members
  | boolean _ | int _ | string _ | array _ => []

def values : ParameterTree → List ParameterTree
  | array values => values
  | boolean _ | int _ | string _ | struct _ => []

instance : XmlRpcValue ParameterTree where
  getType
    | boolean _ => .boolean
    | int _ => .int
    | string _ => .string
    | array _ => .array
    | struct _ => .struct
  hasMember value key := (value.members.lookup key).isSome
  member value key := (value.members.lookup key).getD (struct [])
  size value := Int32.ofNat value.values.length
  element value index := value.values.getD index (struct [])
  asString
    | string value => value
    | _ => []
  asBool
    | boolean value => value
    | _ => false
  asInt
    | int value => value
    | _ => 0
  assignMember value key := (value.members.lookup key).getD (struct [])

end ParameterTree

def ruleTree (rule : AdapterRule) : ParameterTree :=
  .struct
    [(text "name", .string rule.name),
      (text "topic", .string rule.topic),
      (text "channel", .string rule.channel),
      (text "schema_id", .string rule.schemaId),
      (text "payload_type", .string rule.payloadType),
      (text "enabled", .boolean rule.enabled),
      (text "max_payload_bytes", .int (Int32.ofNat rule.maxPayloadBytes)),
      (text "required", .boolean rule.required),
      (text "allow_large_payload", .boolean rule.allowLargePayload)]

def configTree (config : AdapterConfig) : ParameterTree :=
  .struct
    [(text "deny_by_default", .boolean config.denyByDefault),
      (text "rules", .array (config.rules.map ruleTree))]

theorem elements_array {values : List ParameterTree} (h : values.length < 2 ^ 31) :
    elements (ParameterTree.array values) = values := by
  have hsize : (Int32.ofNat values.length).toInt.toNat = values.length := by
    rw [Int32.toInt_ofNat_of_lt h, Int.toNat_natCast]
  change (List.range (Int32.ofNat values.length).toInt.toNat).map
    (fun index ↦ values.getD index (.struct [])) = values
  rw [hsize]
  apply List.ext_getElem
  · rw [List.length_map, List.length_range]
  · intro index hleft hright
    rw [List.getElem_map, List.getElem_range, List.getD_eq_getElem?_getD,
      List.getElem?_eq_getElem hright, Option.getD_some]

theorem ruleTree_of_valid {rule : AdapterRule} (h : RuleValid rule) :
    RuleTree (ruleTree rule) rule where
  name := ⟨_, rfl, rfl, rfl⟩
  topic := ⟨_, rfl, rfl, rfl⟩
  channel := ⟨_, rfl, rfl, rfl⟩
  schemaId := ⟨_, rfl, rfl, rfl⟩
  payloadType := ⟨_, rfl, rfl, rfl⟩
  enabled := Or.inl ⟨_, rfl, rfl, rfl⟩
  required := Or.inl ⟨_, rfl, rfl, rfl⟩
  allowLargePayload := Or.inl ⟨_, rfl, rfl, rfl⟩
  maxPayloadBytes := by
    have hsize : (Int32.ofNat rule.maxPayloadBytes).toInt = rule.maxPayloadBytes :=
      Int32.toInt_ofNat_of_lt (lt_of_le_of_lt h.bounded (by norm_num))
    refine Or.inl ⟨.int (Int32.ofNat rule.maxPayloadBytes), rfl, rfl,
      Int32.lt_iff_toInt_lt.mpr ?_, ?_⟩
    · change (0 : ℤ) < (Int32.ofNat rule.maxPayloadBytes).toInt
      rw [hsize]
      exact Int.natCast_pos.mpr h.positive
    · change (Int32.ofNat rule.maxPayloadBytes).toInt.toNat = _
      rw [hsize, Int.toNat_natCast]

theorem configTree_of_valid {config : AdapterConfig} (h : ConfigValid config)
    (hlength : config.rules.length < 2 ^ 31) : ConfigTree (configTree config) config where
  isStruct := rfl
  denyByDefault := Or.inl ⟨_, rfl, rfl, rfl⟩
  rules := by
    refine Or.inr ⟨.array (config.rules.map ruleTree), rfl, rfl, ?_⟩
    rw [elements_array (by rwa [List.length_map])]
    refine List.forall₂_map_left_iff.mpr (List.forall₂_same.mpr ?_)
    exact fun rule hrule ↦ ruleTree_of_valid (h.rules rule hrule)

def poseRule : AdapterRule where
  name := text "pose"
  topic := text "/uav01/pose"
  channel := text "pose"
  schemaId := text "pose.v1"
  maxPayloadBytes := 4096

theorem configTree_accepted :
    parseAdapterConfigXmlRpc (configTree { rules := [poseRule] }) =
      { ok := true, config := { rules := [poseRule] } } := by
  have hvalid : ConfigValid { rules := [poseRule] } :=
    (validateAdapterConfig_ok_iff _).mp (by decide +kernel)
  exact (parse_accepts (configTree { rules := [poseRule] }) rfl _).mpr
    ⟨configTree_of_valid hvalid (by decide), hvalid⟩

/-- The first thing in the tree that cannot be read decides the error.  The
rules are validated only where the whole tree says something. -/
theorem parse_reports (value : V) (hbare : Bare value) :
    (∀ error, TreeError value error →
      parseAdapterConfigXmlRpc value = errorResult error ∧ ∀ config, ¬ConfigTree value config) ∧
    ((∀ error, ¬TreeError value error) →
      ∃ config, (∀ config', ConfigTree value config' ↔ config' = config) ∧
        parseAdapterConfigXmlRpc value = validateAdapterConfig config) := by
  refine ⟨fun error herror ↦ ⟨parse_of_treeError hbare herror,
    fun config htree ↦ htree.not_treeError error herror⟩, fun hnone ↦ ?_⟩
  rcases configTree_or_treeError value with ⟨config, htree⟩ | ⟨error, herror⟩
  · exact ⟨config, fun config' ↦ ⟨fun htree' ↦ htree'.unique htree, fun h ↦ h ▸ htree⟩,
      parse_of_configTree hbare htree⟩
  · exact absurd herror (hnone error)

/-- A file in which the second rule has lost its topic. -/
def topiclessTree : ParameterTree :=
  .struct [(text "rules",
    .array [ruleTree poseRule, .struct [(text "name", .string (text "wind"))]])]

theorem topiclessTree_reported :
    parseAdapterConfigXmlRpc topiclessTree = errorResult (text "rules[1]: topic is required") := by
  let topicless : ParameterTree := .struct [(text "name", .string (text "wind"))]
  have hrules : member? topiclessTree (text "rules") =
      some (.array [ruleTree poseRule, topicless]) := rfl
  have hread : List.Forall₂ RuleTree [ruleTree poseRule] [poseRule] :=
    .cons (ruleTree_of_valid ((validateRule_eq_ok_iff poseRule).mp (by decide +kernel))) .nil
  have hentry : EntryError topicless (text ": topic is required") := Or.inr ⟨rfl, _, rfl, rfl⟩
  exact ((parse_reports topiclessTree rfl).1 _ (.rule hrules rfl rfl rfl hread hentry)).1

end AdapterConfig

end RuntimeSync
