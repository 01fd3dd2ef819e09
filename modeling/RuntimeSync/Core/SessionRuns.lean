import RuntimeSync.Core.Session
import RuntimeSync.Library.Machine

/-!
# The life cycle of a session

The operations of a session manager may be called in any order.  Arming asks
for a session that is configured or stopped, and a session can be stopped
without ever having been configured.
-/

namespace RuntimeSync

inductive SessionCall where
  | configure (config : SessionConfig)
  | arm (epochNs : Int64) (clock : ClockState)
  | startIfDue (nowNs : Int64) (clock : ClockState)
  | stop (reason : Str)
  | markError (reason : Str)
  deriving DecidableEq

/-- A call to wait for the epoch. -/
def SessionCall.IsStart (call : SessionCall) : Prop :=
  ∃ nowNs clock, call = .startIfDue nowNs clock

namespace SessionManager

open Machine

/-- The operations that return nothing have no output. -/
def step (s : SessionManager) : SessionCall → SessionManager × Option Bool
  | .configure config => ((s.configure config).1, some (s.configure config).2)
  | .arm epochNs clock => ((s.arm epochNs clock).1, some (s.arm epochNs clock).2)
  | .startIfDue nowNs clock => ((s.startIfDue nowNs clock).1, some (s.startIfDue nowNs clock).2)
  | .stop reason => (s.stop reason, none)
  | .markError reason => (s.markError reason, none)

/-- The manager after a sequence of calls. -/
def after (calls : List SessionCall) : SessionManager := run step {} calls

/-! ## What is asked of a run -/

def ConfiguredBefore (calls : List SessionCall) : Prop :=
  ∃ seen config rest, calls = seen ++ .configure config :: rest ∧
    ((after seen).configure config).2 = true

/-- The last arm of the run succeeded, and nothing but attempts to start came
after it. -/
def ArmedSince (calls : List SessionCall) (epochNs : Int64) : Prop :=
  ∃ seen clock waiting, calls = seen ++ .arm epochNs clock :: waiting ∧
    ((after seen).arm epochNs clock).2 = true ∧ ∀ call ∈ waiting, call.IsStart

/-- The session runs since a start with a usable clock that came at or after the
epoch of the arm before it. -/
def StartedProperly (calls : List SessionCall) : Prop :=
  ∃ seen nowNs clock rest epochNs, calls = seen ++ .startIfDue nowNs clock :: rest ∧
    (after seen).state = .armed ∧ ((after seen).startIfDue nowNs clock).1.state = .running ∧
      clock.Usable ∧ ArmedSince seen epochNs ∧ epochNs ≤ nowNs ∧ ∀ call ∈ rest, call.IsStart

structure LifeCycle (calls : List SessionCall) : Prop where
  configured : (after calls).state = .armed ∨ (after calls).state = .running →
    ConfiguredBefore calls
  valid : (after calls).state = .armed ∨ (after calls).state = .running →
    isValidConfig (after calls).config = .ok ()
  started : (after calls).state = .running → StartedProperly calls

/-- A call that arms a stopped session finds a valid configuration. -/
def ArmsConfigured (s : SessionManager) (call : SessionCall) : Prop :=
  ∀ epochNs clock, call = .arm epochNs clock → s.state = .stopped → clock.Usable → s.config.Valid

/-! ## One call -/

theorem after_concat (calls : List SessionCall) (call : SessionCall) :
    after (calls ++ [call]) = (step (after calls) call).1 :=
  run_concat step {} calls call

theorem valid_withEpoch {config : SessionConfig} {epochNs : Int64} :
    SessionConfig.Valid { config with epochNs := epochNs } ↔ config.Valid :=
  ⟨fun h ↦ ⟨h.teamId, h.sessionId, h.taskId, h.selfId, h.periodNs, h.maxCycle,
      h.requiredParticipants⟩,
    fun h ↦ ⟨h.teamId, h.sessionId, h.taskId, h.selfId, h.periodNs, h.maxCycle,
      h.requiredParticipants⟩⟩

/-- Where a call can lead. -/
inductive StepTo (s : SessionManager) : SessionCall → SessionManager → Prop
  | configured {config : SessionConfig} (valid : config.Valid)
      (accepted : (s.configure config).2 = true) :
      StepTo s (.configure config) { config := config, state := .configured }
  | armed {epochNs : Int64} {clock : ClockState}
      (ready : s.state = .configured ∨ s.state = .stopped) (usable : clock.Usable)
      (accepted : (s.arm epochNs clock).2 = true) :
      StepTo s (.arm epochNs clock)
        { config := { s.config with epochNs := epochNs }, state := .armed }
  | started {nowNs : Int64} {clock : ClockState} (armed : s.state = .armed)
      (usable : clock.Usable) (due : s.config.epochNs ≤ nowNs)
      (running : (s.startIfDue nowNs clock).1.state = .running) :
      StepTo s (.startIfDue nowNs clock) { config := s.config, state := .running }
  | waiting {nowNs : Int64} {clock : ClockState} : StepTo s (.startIfDue nowNs clock) s
  | ended {call : SessionCall} {s' : SessionManager}
      (state : s'.state = .stopped ∨ s'.state = .error) (config : s'.config = s.config) :
      StepTo s call s'

theorem arm_of_ready {s : SessionManager} (hready : s.state = .configured ∨ s.state = .stopped)
    {clock : ClockState} (husable : clock.Usable) (epochNs : Int64) :
    s.arm epochNs clock =
      ({ config := { s.config with epochNs := epochNs }, state := .armed }, true) := by
  rw [arm, if_neg (by tauto), if_neg (not_not.mpr husable)]

theorem step_to (s : SessionManager) (call : SessionCall) : StepTo s call (step s call).1 := by
  cases call with
  | configure config =>
      rw [step]
      by_cases hvalid : config.Valid
      · have heq := s.configure_of_valid hvalid
        rw [heq]
        exact .configured hvalid (by rw [heq])
      · rw [← isValidConfig_eq_ok_iff] at hvalid
        unfold configure
        split
        · exact .ended (Or.inr rfl) rfl
        · next hok => exact absurd hok hvalid
  | arm epochNs clock =>
      rw [step]
      by_cases hready : s.state = .configured ∨ s.state = .stopped
      · by_cases husable : clock.Usable
        · have heq := arm_of_ready hready husable epochNs
          rw [heq]
          exact .armed hready husable (by rw [heq])
        · rw [arm, if_neg (by tauto), if_pos husable]
          exact .ended (Or.inr rfl) rfl
      · rw [arm, if_pos (by tauto)]
        exact .ended (Or.inr rfl) rfl
  | startIfDue nowNs clock =>
      rw [step]
      have hrunning : s.state = .armed → clock.Usable → s.config.epochNs ≤ nowNs →
          (s.startIfDue nowNs clock).1.state = .running := fun harmed husable ↦
        (startIfDue_of_armed harmed husable).1
      unfold startIfDue
      split_ifs with _ hstate husable hearly
      · exact .waiting
      · exact .waiting
      · exact .waiting
      · have harmed := not_not.mp hstate
        have hdue := Int64.not_lt.mp hearly
        exact .started harmed husable hdue (hrunning harmed husable hdue)
      · exact .ended (Or.inr rfl) rfl
  | stop reason => exact .ended (Or.inl rfl) rfl
  | markError reason => exact .ended (Or.inr rfl) rfl

/-! ## Whole runs -/

theorem ConfiguredBefore.concat {calls : List SessionCall} (h : ConfiguredBefore calls)
    (call : SessionCall) : ConfiguredBefore (calls ++ [call]) := by
  obtain ⟨seen, config, rest, rfl, haccepted⟩ := h
  exact ⟨seen, config, rest ++ [call], by simp, haccepted⟩

/-- A valid configuration came with a call that was accepted. -/
theorem configuredBefore_of_valid {calls : List SessionCall} (h : (after calls).config.Valid) :
    ConfiguredBefore calls := by
  induction calls using List.reverseRecOn with
  | nil => exact absurd rfl h.teamId
  | append_singleton calls call ih =>
      have hstep := step_to (after calls) call
      rw [after_concat] at h
      generalize (step (after calls) call).1 = s' at h hstep
      cases hstep with
      | @configured config _ accepted => exact ⟨calls, config, [], rfl, accepted⟩
      | armed => exact (ih (valid_withEpoch.mp h)).concat _
      | started => exact (ih h).concat _
      | waiting => exact (ih h).concat _
      | ended _ hconfig => exact (ih (hconfig ▸ h)).concat _

theorem forall_isStart_concat {calls : List SessionCall} (h : ∀ call ∈ calls, call.IsStart)
    (nowNs : Int64) (clock : ClockState) :
    ∀ call ∈ calls ++ [.startIfDue nowNs clock], call.IsStart := by
  intro call hcall
  rcases List.mem_append.mp hcall with hcall | hcall
  · exact h call hcall
  · exact ⟨nowNs, clock, List.mem_singleton.mp hcall⟩

theorem ArmedSince.concat {calls : List SessionCall} {epochNs : Int64}
    (h : ArmedSince calls epochNs) (nowNs : Int64) (clock : ClockState) :
    ArmedSince (calls ++ [.startIfDue nowNs clock]) epochNs := by
  obtain ⟨seen, armClock, waiting, rfl, haccepted, hwaiting⟩ := h
  refine ⟨seen, armClock, waiting ++ [.startIfDue nowNs clock], ?_, haccepted,
    forall_isStart_concat hwaiting nowNs clock⟩
  exact List.append_assoc ..

theorem StartedProperly.concat {calls : List SessionCall} (h : StartedProperly calls)
    (nowNs : Int64) (clock : ClockState) :
    StartedProperly (calls ++ [.startIfDue nowNs clock]) := by
  obtain ⟨seen, startNs, startClock, rest, epochNs, rfl, harmed, hrunning, husable, hsince, hdue,
    hrest⟩ := h
  refine ⟨seen, startNs, startClock, rest ++ [.startIfDue nowNs clock], epochNs, ?_, harmed,
    hrunning, husable, hsince, hdue, forall_isStart_concat hrest nowNs clock⟩
  exact List.append_assoc ..

/-- An armed session has the epoch of its last arm, which is the last thing that happened. -/
theorem armedSince_of_armed {calls : List SessionCall} (h : (after calls).state = .armed) :
    ArmedSince calls (after calls).config.epochNs := by
  induction calls using List.reverseRecOn with
  | nil => cases h
  | append_singleton calls call ih =>
      have hstep := step_to (after calls) call
      rw [after_concat] at h ⊢
      generalize (step (after calls) call).1 = s' at h hstep
      cases hstep with
      | configured => cases h
      | @armed epochNs clock _ _ accepted =>
          exact ⟨calls, clock, [], rfl, accepted, fun _ hcall ↦ nomatch hcall⟩
      | started => cases h
      | waiting => exact (ih h).concat _ _
      | ended state => rcases state with state | state <;> cases h.symm.trans state

theorem startedProperly_of_running {calls : List SessionCall}
    (h : (after calls).state = .running) : StartedProperly calls := by
  induction calls using List.reverseRecOn with
  | nil => cases h
  | append_singleton calls call ih =>
      have hstep := step_to (after calls) call
      rw [after_concat] at h
      generalize (step (after calls) call).1 = s' at h hstep
      cases hstep with
      | configured => cases h
      | armed => cases h
      | @started nowNs clock armed usable due running =>
          exact ⟨calls, nowNs, clock, [], _, rfl, armed, running, usable,
            armedSince_of_armed armed, due, fun _ hcall ↦ nomatch hcall⟩
      | waiting => exact (ih h).concat _ _
      | ended state => rcases state with state | state <;> cases h.symm.trans state

/-- A session that may be armed or run has a valid configuration. -/
def HasConfig (s : SessionManager) : Prop :=
  s.state = .configured ∨ s.state = .armed ∨ s.state = .running → s.config.Valid

theorem hasConfig_step (s : SessionManager) (call : SessionCall) (h : HasConfig s)
    (hcall : s.ArmsConfigured call) : HasConfig (step s call).1 := by
  have hstep := step_to s call
  generalize (step s call).1 = s' at hstep
  cases hstep with
  | configured valid => exact fun _ ↦ valid
  | armed ready usable =>
      intro _
      rw [valid_withEpoch]
      rcases ready with hconfigured | hstopped
      · exact h (Or.inl hconfigured)
      · exact hcall _ _ rfl hstopped usable
  | started armed => exact fun _ ↦ h (Or.inr (Or.inl armed))
  | waiting => exact h
  | ended state =>
      intro hstate
      rcases hstate with hstate | hstate | hstate <;>
        rcases state with state | state <;> cases hstate.symm.trans state

theorem lifeCycle_of_hasConfig {calls : List SessionCall} (h : HasConfig (after calls)) :
    LifeCycle calls := by
  have hvalid : (after calls).state = .armed ∨ (after calls).state = .running →
      (after calls).config.Valid := fun hstate ↦ h (Or.inr hstate)
  exact ⟨fun hstate ↦ configuredBefore_of_valid (hvalid hstate),
    fun hstate ↦ (isValidConfig_eq_ok_iff _).mpr (hvalid hstate), startedProperly_of_running⟩

/-- The life cycle holds at every point of a run exactly when no call of the
run arms a stopped session that has no valid configuration. -/
theorem lifeCycle_iff_armsConfigured (calls : List SessionCall) :
    (∀ seen, seen <+: calls → LifeCycle seen) ↔
      ∀ e ∈ trace step {} calls, e.state.ArmsConfigured e.input := by
  constructor
  · intro h e he
    obtain ⟨seen, rest, rfl, hstate, -⟩ := mem_trace step he
    intro epochNs clock hinput hstopped husable
    change e.state = after seen at hstate
    rw [hstate] at hstopped ⊢
    have hafter : after (seen ++ [e.input]) =
        { config := { (after seen).config with epochNs := epochNs }, state := .armed } := by
      rw [after_concat, hinput, step, arm_of_ready (Or.inr hstopped) husable]
    have hvalid := (h (seen ++ [e.input]) ⟨rest, by simp⟩).valid
      (Or.inl (by rw [hafter]))
    rw [hafter, isValidConfig_eq_ok_iff] at hvalid
    exact valid_withEpoch.mp hvalid
  · intro h seen hseen
    obtain ⟨rest, rfl⟩ := hseen
    apply lifeCycle_of_hasConfig
    apply (invariant_trace hasConfig_step (s := {}) ?_ ?_).2
    · exact fun hstate ↦ by rcases hstate with h | h | h <;> cases h
    · intro e he
      apply h e
      rw [trace_append]
      exact List.mem_append_left _ he

/-! A session that was stopped before it was ever configured: it is armed, and
it runs. -/

def okClock : ClockState := { clockOk := true, quality := .ok }

def unconfigured : List SessionCall :=
  [.stop (text "cancelled"), .arm 2000 okClock, .startIfDue 2000 okClock]

theorem lifeCycle_fails_unconfigured :
    (after unconfigured).state = .running ∧ ¬LifeCycle unconfigured := by
  have hrunning : (after unconfigured).state = .running := by decide +kernel
  refine ⟨hrunning, fun h ↦ ?_⟩
  exact absurd (h.valid (Or.inr hrunning)) (by decide +kernel)

end SessionManager

end RuntimeSync
