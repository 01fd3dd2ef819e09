import RuntimeSync.Ros1.RuntimeNodeRuns

/-!
# After a stop

The scheduler runs again only by a start that is accepted: a start that
fails returns before it reaches the scheduler, whichever of its checks fails,
and a poll can only stop the scheduler.
-/

namespace RuntimeSync.SwarmRuntimeNode

/-! ## Starts that fail -/

/-- Every failing branch returns before the scheduler is assigned. -/
theorem startSession_failed {node : SwarmRuntimeNode} {epochNs periodNs : Int64}
    {clock : ClockState} (h : (node.startSession epochNs periodNs clock).2 = false) :
    (node.startSession epochNs periodNs clock).1.scheduler = node.scheduler := by
  by_cases hperiod : (!CycleScheduler.isValidPeriodNs periodNs) = true
  · rw [startSession, if_pos hperiod]
    rfl
  by_cases hclock : ¬clock.Usable
  · rw [startSession, if_neg hperiod, if_pos hclock]
    rfl
  rw [startSession, if_neg hperiod, if_neg hclock] at h ⊢
  dsimp only at h ⊢
  generalize node.session.configure (node.config.withTiming epochNs periodNs) = configured at h ⊢
  obtain ⟨session, ok⟩ := configured
  cases ok with
  | false => rfl
  | true =>
      dsimp only at h ⊢
      generalize SessionManager.arm _ epochNs clock = armed at h ⊢
      obtain ⟨session, ok⟩ := armed
      cases ok with
      | false => rfl
      | true =>
          dsimp only at h ⊢
          generalize CycleScheduler.configure _ _ = scheduled at h ⊢
          obtain ⟨scheduler, ok⟩ := scheduled
          cases ok with
          | false => rfl
          | true => cases h

/-- A request with a valid period is answered as its session starts. -/
theorem startCallback_of_periodOk {node : SwarmRuntimeNode} {request : StartSessionRequest}
    (hperiod : PeriodOk node request) (clock : ClockMonitorResult) :
    ∃ requested : SwarmRuntimeNode, requested.scheduler = node.scheduler ∧
      (node.startCallback request clock).1 =
        (requested.startSession requested.config.epochNs requested.config.periodNs
          clock.state).1 ∧
      (node.startCallback request clock).2.accepted =
        (requested.startSession requested.config.epochNs requested.config.periodNs
          clock.state).2 := by
  generalize hanswer : node.startCallback request clock = answer
  rw [startCallback, if_neg (by simpa [PeriodOk] using hperiod)] at hanswer
  extract_lets requested at hanswer
  refine ⟨requested, rfl, ?_⟩
  clear_value requested
  generalize requested.startSession _ _ clock.state = outcome at hanswer ⊢
  obtain ⟨node', started⟩ := outcome
  subst hanswer
  cases started with
  | false => exact ⟨rfl, rfl⟩
  | true => exact ⟨rfl, rfl⟩

theorem startCallback_rejected {node node' : SwarmRuntimeNode} {request : StartSessionRequest}
    {clock : ClockMonitorResult} {response : StartSessionResponse}
    (hanswer : node.startCallback request clock = (node', response))
    (h : response.accepted = false) : node'.scheduler = node.scheduler := by
  by_cases hperiod : PeriodOk node request
  · obtain ⟨requested, hscheduler, hnode, haccepted⟩ := startCallback_of_periodOk hperiod clock
    rw [hanswer] at hnode haccepted
    have hfailed := haccepted.symm.trans h
    exact (congrArg scheduler hnode).trans ((startSession_failed hfailed).trans hscheduler)
  · rw [startCallback_of_not_periodOk hperiod] at hanswer
    rw [← (Prod.mk.inj hanswer).1]

/-! ## Runs -/

/-- The answer to a request that was not accepted, and anything else. -/
def NotAccepted (output : NodeOutput) : Prop :=
  ∀ response, output = .started response → response.accepted = false

theorem step_stopped {node : SwarmRuntimeNode} (h : node.scheduler.running = false)
    {call : NodeCall} (hcall : NotAccepted (node.step call).2) :
    (node.step call).1.scheduler.running = false := by
  cases call with
  | start request clock =>
      cases hanswer : node.startCallback request clock with
      | mk node' response =>
          rw [step, hanswer] at hcall ⊢
          have hkept : node'.scheduler = node.scheduler :=
            startCallback_rejected hanswer (hcall response rfl)
          rw [← hkept] at h
          exact h
  | stop request clock => rfl
  | timer now clock =>
      obtain ⟨-, -, hscheduler, -⟩ := node.timerCallback_eq now clock
      rw [step, hscheduler, CycleScheduler.tick_of_idle (.inl h)]
      exact h

/-- A poll of a stopped scheduler publishes nothing. -/
theorem timerCallback_stopped {node : SwarmRuntimeNode} (h : node.scheduler.running = false)
    (now : RosTime) (clock : ClockMonitorResult) : (node.timerCallback now clock).2 = none := by
  refine Option.eq_none_iff_forall_not_mem.mpr ?_
  rintro ⟨event, cycle⟩ hpublished
  obtain ⟨scheduler, htick⟩ := tick_of_published hpublished
  rw [CycleScheduler.tick_of_idle (.inl h)] at htick
  cases htick

theorem silent_after_stop (node : SwarmRuntimeNode) (before after : List NodeCall)
    (request : StopSessionRequest) (clock : ClockMonitorResult)
    (hafter : ∀ e ∈ Machine.trace step
      (Machine.run step node (before ++ [.stop request clock])) after, NotAccepted e.output) :
    (∀ e ∈ Machine.trace step (Machine.run step node (before ++ [.stop request clock])) after,
      ∀ published, e.output = .polled published → published = none) ∧
    (Machine.run step node (before ++ .stop request clock :: after)).scheduler.running =
      false := by
  have hstopped : (Machine.run step node (before ++ [.stop request clock])).scheduler.running =
      false := by
    rw [Machine.run_concat]
    rfl
  have hguard : ∀ e ∈ Machine.trace step
      (Machine.run step node (before ++ [.stop request clock])) after,
      NotAccepted (e.state.step e.input).2 := by
    intro e he
    obtain ⟨-, -, -, -, hout⟩ := Machine.mem_trace step he
    rw [← hout]
    exact hafter e he
  obtain ⟨htrace, hrun⟩ := Machine.invariant_trace
    (I := fun node : SwarmRuntimeNode ↦ node.scheduler.running = false)
    (G := fun node call ↦ NotAccepted (node.step call).2)
    (fun _ _ h hcall ↦ step_stopped h hcall) hstopped hguard
  constructor
  · intro e he published hout
    cases published with
    | none => rfl
    | some published =>
        obtain ⟨now, clock, -, hpublished⟩ := timer_of_polled he hout
        rw [timerCallback_stopped (htrace e he)] at hpublished
        cases hpublished
  · rw [List.append_cons, Machine.run_append]
    exact hrun

/-- Two requests that fail, by the clock and by their period, and a poll
after the epoch they asked for. -/
def rejectedRestarts : List NodeCall :=
  [.start otherSession badClock, .start { epochTime := ⟨1000, 0⟩, period := ⟨10, 0⟩ } goodClock,
    .timer ⟨3000, 0⟩ goodClock]

theorem runningNode_silent_after_stop :
    (∀ e ∈ Machine.trace step
        (Machine.run step demoNode [.timer ⟨1000, 200000000⟩ goodClock, .stop {} goodClock])
        rejectedRestarts,
      ∀ published, e.output = .polled published → published = none) ∧
    (Machine.run step demoNode (.timer ⟨1000, 200000000⟩ goodClock :: .stop {} goodClock ::
      rejectedRestarts)).scheduler.running = false := by
  refine silent_after_stop demoNode [.timer ⟨1000, 200000000⟩ goodClock] _ {} goodClock ?_
  intro e he response hout
  rw [rejectedRestarts, Machine.trace_cons, Machine.trace_cons, Machine.trace_cons,
    Machine.trace_nil] at he
  simp only [List.mem_cons, List.not_mem_nil, or_false] at he
  rcases he with rfl | rfl | rfl
  · rw [← NodeOutput.started.inj hout]
    decide +kernel
  · rw [← NodeOutput.started.inj hout]
    decide +kernel
  · cases hout

end RuntimeSync.SwarmRuntimeNode
