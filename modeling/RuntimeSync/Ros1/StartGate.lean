import RuntimeSync.Core.ClockGate
import RuntimeSync.Ros1.RuntimeNodeRuns

/-!
# The start gate

The clock monitor says with every result whether a start is allowed, and
counts in the policy, which may do without a good clock.  The node does not
ask it: a start looks at the clock itself, twice, and at no policy.
-/

namespace RuntimeSync

/-! ## What the monitor allows -/

namespace ClockMonitor

variable {D : Type} [DoubleArith D]

/-- Every check of a snapshot passes. -/
def Healthy (snapshot : ClockMonitorSnapshot D) (policy : ClockPolicy) : Prop :=
  OtherChecksPass snapshot policy ∧
    ∃ name ∈ candidateNames snapshot, sourceMatches name policy.groundTimeSource = true

theorem clockOk_iff_healthy (snapshot : ClockMonitorSnapshot D) (policy : ClockPolicy)
    (phase : ClockPhase) :
    (evaluateSnapshot snapshot policy phase).state.clockOk = true ↔ Healthy snapshot policy := by
  simp only [evaluateSnapshot, Bool.and_eq_true, Bool.or_eq_true, decide_eq_true_eq,
    beq_iff_eq, Healthy, OtherChecksPass, candidateNames, List.mem_cons, List.not_mem_nil,
    or_false, exists_eq_or_imp, exists_eq_left]
  tauto

/-- The quality of a snapshot that passes is never the bad one. -/
theorem usable_iff_healthy (snapshot : ClockMonitorSnapshot D) (policy : ClockPolicy)
    (phase : ClockPhase) :
    (evaluateSnapshot snapshot policy phase).state.Usable ↔ Healthy snapshot policy := by
  rw [← clockOk_iff_healthy snapshot policy phase]
  refine ⟨fun h ↦ h.1, fun h ↦ ⟨h, ?_⟩⟩
  simp only [evaluateSnapshot] at h ⊢
  rw [h]
  simp only [Bool.not_true, Bool.false_and, Bool.false_eq_true, if_false, if_true]
  decide

theorem startAllowed_iff (snapshot : ClockMonitorSnapshot D) (policy : ClockPolicy)
    (phase : ClockPhase) :
    (evaluateSnapshot snapshot policy phase).startAllowed = true ↔
      Healthy snapshot policy ∨ policy.requireClockOkToStart = false := by
  rw [← clockOk_iff_healthy snapshot policy phase]
  simp [evaluateSnapshot]

end ClockMonitor

/-! ## What the node does -/

namespace SwarmRuntimeNode

theorem startSession_iff_usable {node : SwarmRuntimeNode} {epochNs periodNs : Int64}
    (hperiod : CycleScheduler.isValidPeriodNs periodNs = true)
    (hconfig : (node.config.withTiming epochNs periodNs).Valid) (clock : ClockState) :
    (node.startSession epochNs periodNs clock).2 = true ↔ clock.Usable := by
  have hready : node.config.Ready := hconfig.ready
  by_cases hclock : clock.Usable
  · rw [startSession_of_usable hready hperiod hclock]
    exact iff_of_true rfl hclock
  · rw [startSession_of_not_usable hperiod hclock]
    exact iff_of_false Bool.false_ne_true hclock

variable {D : Type} [DoubleArith D]

theorem startSession_agrees_iff (node : SwarmRuntimeNode) {epochNs periodNs : Int64}
    (hperiod : CycleScheduler.isValidPeriodNs periodNs = true)
    (hconfig : (node.config.withTiming epochNs periodNs).Valid)
    (snapshot : ClockMonitorSnapshot D) (policy : ClockPolicy) (phase : ClockPhase) :
    ((node.startSession epochNs periodNs
        (ClockMonitor.evaluateSnapshot snapshot policy phase).state).2 = true ↔
      (ClockMonitor.evaluateSnapshot snapshot policy phase).startAllowed = true) ↔
    policy.requireClockOkToStart = true ∨ ClockMonitor.Healthy snapshot policy := by
  rw [startSession_iff_usable hperiod hconfig, ClockMonitor.usable_iff_healthy,
    ClockMonitor.startAllowed_iff]
  cases policy.requireClockOkToStart <;> simp

/-! The node of the default parameters, with chrony on the ground station and
with no chrony at all. -/

theorem demoNode_config_valid : (demoNode.config.withTiming 0 50000000).Valid :=
  (SessionManager.isValidConfig_eq_ok_iff _).mp (by decide +kernel)

theorem demoNode_agrees :
    (demoNode.startSession 0 50000000 (ClockMonitor.evaluateSnapshot
        (ClockMonitor.parsedSnapshot ℚ ClockMonitor.groundReference ClockMonitor.groundSource)
        { ClockMonitor.groundPolicy with requireClockOkToStart := false }
        .preflight).state).2 = true ↔
      (ClockMonitor.evaluateSnapshot
        (ClockMonitor.parsedSnapshot ℚ ClockMonitor.groundReference ClockMonitor.groundSource)
        { ClockMonitor.groundPolicy with requireClockOkToStart := false }
        .preflight).startAllowed = true :=
  (startSession_agrees_iff demoNode (by decide +kernel) demoNode_config_valid _ _ _).mpr
    (.inr ((ClockMonitor.clockOk_iff_healthy _ _ .preflight).mp (by decide +kernel)))

/-- A policy that does without a good clock is not heard. -/
theorem demoNode_disagrees :
    CycleScheduler.isValidPeriodNs 50000000 = true ∧
      (demoNode.config.withTiming 0 50000000).Valid ∧
      (ClockMonitor.evaluateSnapshot ({} : ClockMonitorSnapshot ℚ)
        { requireClockOkToStart := false } .preflight).startAllowed = true ∧
      ¬((demoNode.startSession 0 50000000 (ClockMonitor.evaluateSnapshot
            ({} : ClockMonitorSnapshot ℚ) { requireClockOkToStart := false }
            .preflight).state).2 = true ↔
        (ClockMonitor.evaluateSnapshot ({} : ClockMonitorSnapshot ℚ)
          { requireClockOkToStart := false } .preflight).startAllowed = true) := by
  have hallowed : (ClockMonitor.evaluateSnapshot ({} : ClockMonitorSnapshot ℚ)
      { requireClockOkToStart := false } .preflight).startAllowed = true := by decide +kernel
  have hrefused : (demoNode.startSession 0 50000000 (ClockMonitor.evaluateSnapshot
      ({} : ClockMonitorSnapshot ℚ) { requireClockOkToStart := false } .preflight).state).2 =
      false := by decide +kernel
  refine ⟨by decide +kernel, demoNode_config_valid, hallowed, fun h ↦ ?_⟩
  rw [hrefused, hallowed] at h
  exact absurd (h.mpr rfl) Bool.false_ne_true

end SwarmRuntimeNode

end RuntimeSync
