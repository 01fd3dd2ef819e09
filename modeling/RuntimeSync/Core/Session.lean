import RuntimeSync.Core.Types

/-!
# Sessions

The life cycle of a session.  Every operation that refuses to act says so in
its result, and most of them also leave the session in `error`.
-/

namespace RuntimeSync

inductive SessionState where
  | idle
  | configured
  | armed
  | running
  | stopped
  | error
  deriving DecidableEq

structure SessionConfig where
  teamId : Str := []
  sessionId : Str := []
  taskId : Str := []
  selfId : Str := []
  requiredParticipants : List Str := []
  optionalParticipants : List Str := []
  epochNs : Int64 := 0
  periodNs : Int64 := 0
  startCycle : UInt64 := 0
  maxCycle : UInt64 := 0
  deriving DecidableEq

structure SessionManager where
  config : SessionConfig := {}
  state : SessionState := .idle
  reason : Str := []
  deriving DecidableEq

namespace SessionManager

def isValidConfig (config : SessionConfig) : Except Str Unit :=
  if config.teamId = [] then .error (text "team_id is required")
  else if config.sessionId = [] then .error (text "session_id is required")
  else if config.taskId = [] then .error (text "task_id is required")
  else if config.selfId = [] then .error (text "self_id is required")
  else if config.periodNs ≤ 0 then .error (text "period_ns must be positive")
  else if 0 < config.maxCycle ∧ config.maxCycle < config.startCycle then
    .error (text "max_cycle must be >= start_cycle")
  else if config.selfId ∉ config.requiredParticipants then
    .error (text "self_id must be in required_participants")
  else .ok ()

def markError (s : SessionManager) (reason : Str) : SessionManager :=
  { s with reason := reason, state := .error }

def configure (s : SessionManager) (config : SessionConfig) : SessionManager × Bool :=
  match isValidConfig config with
  | .error reason => (s.markError reason, false)
  | .ok () => ({ config := config, state := .configured, reason := [] }, true)

def arm (s : SessionManager) (epochNs : Int64) (clock : ClockState) : SessionManager × Bool :=
  if s.state ≠ .configured ∧ s.state ≠ .stopped then
    (s.markError (text "cannot arm before configured"), false)
  else if ¬clock.Usable then (s.markError (text "cannot arm with bad clock"), false)
  else
    ({ s with config := { s.config with epochNs := epochNs }, state := .armed, reason := [] },
      true)

/-- The clock is looked at before the time. -/
def startIfDue (s : SessionManager) (nowNs : Int64) (clock : ClockState) :
    SessionManager × Bool :=
  if s.state = .running then (s, true)
  else if s.state ≠ .armed then (s, false)
  else if ¬clock.Usable then (s.markError (text "cannot start with bad clock"), false)
  else if nowNs < s.config.epochNs then (s, false)
  else ({ s with state := .running, reason := [] }, true)

def stop (s : SessionManager) (reason : Str) : SessionManager :=
  { s with reason := reason, state := .stopped }

def running (s : SessionManager) : Bool := s.state == .running

end SessionManager

/-! ## What the operations do -/

/-- The configurations that `isValidConfig` lets through. -/
structure SessionConfig.Valid (config : SessionConfig) : Prop where
  teamId : config.teamId ≠ []
  sessionId : config.sessionId ≠ []
  taskId : config.taskId ≠ []
  selfId : config.selfId ≠ []
  periodNs : 0 < config.periodNs
  maxCycle : 0 < config.maxCycle → config.startCycle ≤ config.maxCycle
  requiredParticipants : config.selfId ∈ config.requiredParticipants

namespace SessionManager

theorem isValidConfig_eq_ok_iff (config : SessionConfig) :
    isValidConfig config = .ok () ↔ config.Valid := by
  constructor
  · intro h
    unfold isValidConfig at h
    split_ifs at h with hteam hsession htask hself hperiod hmax hrequired
    exact ⟨hteam, hsession, htask, hself, Int64.not_le.mp hperiod,
      fun hpos ↦ UInt64.not_lt.mp fun hlt ↦ hmax ⟨hpos, hlt⟩, hrequired⟩
  · intro h
    have hmax : ¬(0 < config.maxCycle ∧ config.maxCycle < config.startCycle) := fun hm ↦
      UInt64.not_le.mpr hm.2 (h.maxCycle hm.1)
    simp [isValidConfig, h.teamId, h.sessionId, h.taskId, h.selfId,
      Int64.not_le.mpr h.periodNs, hmax, h.requiredParticipants]

theorem configure_of_valid (s : SessionManager) {config : SessionConfig} (h : config.Valid) :
    s.configure config = ({ config := config, state := .configured, reason := [] }, true) := by
  rw [configure, (isValidConfig_eq_ok_iff config).mpr h]

theorem valid_of_configure {s s' : SessionManager} {config : SessionConfig}
    (h : s.configure config = (s', true)) : config.Valid ∧ s'.config = config := by
  rw [← isValidConfig_eq_ok_iff]
  unfold configure at h
  split at h
  · simp at h
  · next hvalid =>
      obtain rfl := (Prod.mk.inj h).1
      exact ⟨hvalid, rfl⟩

/-- Waiting for the epoch changes nothing but the state and its reason. -/
theorem startIfDue_config (s : SessionManager) (nowNs : Int64) (clock : ClockState) :
    (s.startIfDue nowNs clock).1.config = s.config := by
  unfold startIfDue
  split_ifs <;> rfl

theorem startIfDue_of_running {s : SessionManager} (h : s.state = .running) (nowNs : Int64)
    (clock : ClockState) : s.startIfDue nowNs clock = (s, true) := by
  rw [startIfDue, if_pos h]

/-- An armed session with a usable clock starts at its epoch and waits until then. -/
theorem startIfDue_of_armed {s : SessionManager} (h : s.state = .armed) {nowNs : Int64}
    {clock : ClockState} (hclock : clock.Usable) :
    (s.config.epochNs ≤ nowNs → (s.startIfDue nowNs clock).1.state = .running) ∧
      (nowNs < s.config.epochNs → s.startIfDue nowNs clock = (s, false)) := by
  constructor
  · intro hdue
    simp [startIfDue, h, hclock, Int64.not_lt.mpr hdue]
  · intro hwait
    simp [startIfDue, h, hclock, hwait]

end SessionManager

end RuntimeSync
