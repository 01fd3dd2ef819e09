import RuntimeSync.Ros1.CycleBundles

/-!
# The current cycle

The node remembers the cycle that it published last, and names it whenever it
tells how it is.
-/

namespace RuntimeSync

open Machine

/-- The cycle that a listener takes for the current one after an event. -/
def PublishingNode.SessionEvent.follow (current : UInt64) : SessionEvent → UInt64
  | .started _ | .stopped _ => current
  | .cycle msg => msg.cycleId

namespace SwarmRuntimeNode

open PublishingNode

variable (node : SwarmRuntimeNode)

theorem startCallback_currentCycle (request : StartSessionRequest) (clock : ClockMonitorResult) :
    (node.startCallback request clock).1.currentCycle = node.currentCycle :=
  startCallback_keeps (P := fun node' ↦ node'.currentCycle = node.currentCycle)
    (fun _ _ h ↦ h) (fun _ _ _ h ↦ h) (fun _ h ↦ h) (fun _ _ h ↦ h) rfl rfl

theorem timerCallback_idle {node : SwarmRuntimeNode} {now : RosTime} {clock : ClockMonitorResult}
    (h : (node.timerCallback now clock).2 = none) :
    (node.timerCallback now clock).1.currentCycle = node.currentCycle := by
  rw [timerCallback] at h ⊢
  dsimp only at h ⊢
  generalize SessionManager.startIfDue _ _ _ = session at h ⊢
  generalize CycleScheduler.tick _ _ _ = ticked at h ⊢
  obtain ⟨scheduler, event⟩ := ticked
  cases event with
  | none => rfl
  | some event => cases h

theorem answeredStep_currentCycle {answer : SwarmRuntimeNode × StartSessionResponse}
    {current : UInt64} (h : answer.1.currentCycle = current) :
    (answeredStep answer).1.currentCycle =
      (runtimeEvents (answeredStep answer).2).foldl SessionEvent.follow current := h

theorem step_currentCycle (call : NodeCall) :
    (node.step call).1.currentCycle =
      (runtimeEvents (node.step call).2).foldl SessionEvent.follow node.currentCycle := by
  cases call with
  | start request clock =>
      rw [step_start]
      exact answeredStep_currentCycle (node.startCallback_currentCycle request clock)
  | stop request clock => rfl
  | timer now clock =>
      rw [step]
      cases hpoll : (node.timerCallback now clock).2 with
      | none => exact timerCallback_idle hpoll
      | some published =>
          obtain ⟨event, cycle⟩ := published
          obtain ⟨hcurrent, -, rfl⟩ := timerCallback_published hpoll
          exact hcurrent

theorem run_currentCycle (calls : List NodeCall) :
    (run step node calls).currentCycle =
      ((trace step node calls).flatMap fun e ↦ runtimeEvents e.output).foldl SessionEvent.follow
        node.currentCycle := by
  induction calls generalizing node with
  | nil => rfl
  | cons call calls ih =>
      rw [run_cons, ih, step_currentCycle, trace_cons, List.flatMap_cons, List.foldl_append]

end SwarmRuntimeNode

namespace PublishingNode

variable (print : DoubleText) {node : PublishingNode}

theorem run_currentCycle (calls : List PublishingCall) :
    (run (step print) node calls).runtime.currentCycle =
      ((trace (step print) node calls).flatMap fun e ↦ e.output.sessionEvents).foldl
        SessionEvent.follow node.runtime.currentCycle := by
  obtain ⟨hevents, hruns⟩ := (refines_runtime print).run (s := node) (t := node.runtime)
    (fun _ ↦ rfl) calls
  have hcurrent := congrArg SwarmRuntimeNode.currentCycle (hruns {})
  rw [hevents, ← SwarmRuntimeNode.run_currentCycle]
  exact hcurrent

theorem currentCycle_init {params : InitParams} {now : RosTime}
    {startClock healthClock : ClockMonitorResult} {stamps : RosTime × RosTime}
    {published : List NodePublication}
    (h : init print params now startClock healthClock stamps = some (node, published)) :
    node.runtime.currentCycle = 0 :=
  SwarmRuntimeNode.init_keeps (P := fun node ↦ node.currentCycle = 0)
    (fun _ _ h ↦ h) (fun _ _ _ h ↦ h) (fun _ h ↦ h) (fun _ _ h ↦ h) (fun _ _ h ↦ h)
    (fun _ ↦ rfl) (init_parts print h).1

/-- After any calls, the status and the health name the cycle that was
published last, and zero before the first one. -/
theorem tells_last_cycle {params : InitParams} {now : RosTime}
    {startClock healthClock : ClockMonitorResult} {stamps : RosTime × RosTime}
    {published : List NodePublication}
    (hinit : init print params now startClock healthClock stamps = some (node, published))
    (calls : List PublishingCall) :
    let last := ((trace (step print) node calls).flatMap fun e ↦ e.output.sessionEvents).foldl
      SessionEvent.follow 0
    (∀ clock, ((run (step print) node calls).statusCallback clock).2.currentCycle = last) ∧
      ∀ stamp, ((run (step print) node calls).publishHealth stamp).currentCycle = last := by
  intro last
  have hcurrent : (run (step print) node calls).runtime.currentCycle = last := by
    rw [run_currentCycle, currentCycle_init print hinit]
  exact ⟨fun _ ↦ hcurrent, fun _ ↦ hcurrent⟩

/-- The status after a cycle. -/
theorem demoNode_tells_last_cycle :
    ((run (step plainText) demoInit.1 [demoCall]).statusCallback
      SwarmRuntimeNode.goodClock).2.currentCycle = 2 := by
  rw [(tells_last_cycle plainText init_demoInit [demoCall]).1 SwarmRuntimeNode.goodClock]
  decide +kernel

end PublishingNode

end RuntimeSync
