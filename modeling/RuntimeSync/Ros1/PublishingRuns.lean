import RuntimeSync.Library.Refinement
import RuntimeSync.Ros1.PublishingNode

/-!
# Runs of the whole node

Around its session and its scheduler the node only reports.  A query of its
status leaves no trace here but the clock sample it takes.  The answers about
the session and the cycles are those of the session and the scheduler alone.
-/

namespace RuntimeSync

open Machine

/-! ## Status queries -/

namespace SwarmRuntimeNode

variable (node : SwarmRuntimeNode) (last clock : ClockMonitorResult)

/-- The node as a request with a valid period leaves it to its session. -/
def requested (node : SwarmRuntimeNode) (request : StartSessionRequest)
    (clock : ClockMonitorResult) : SwarmRuntimeNode :=
  { node with config := requestedConfig node.config request, lastClockResult := clock }

def answered (outcome : SwarmRuntimeNode × Bool) : SwarmRuntimeNode × StartSessionResponse :=
  match outcome with
  | (node, true) => (node, { accepted := true, reason := text "accepted" })
  | (node, false) => (node, { accepted := false, reason := node.session.reason })

theorem startCallback_eq {node : SwarmRuntimeNode} {request : StartSessionRequest}
    (hperiod : PeriodOk node request) (clock : ClockMonitorResult) :
    node.startCallback request clock =
      answered ((node.requested request clock).startSession
        (node.requested request clock).config.epochNs
        (node.requested request clock).config.periodNs clock.state) := by
  rw [startCallback, if_neg (by simpa [PeriodOk] using hperiod)]
  extract_lets requestedNode
  have hrequested : requestedNode = node.requested request clock := rfl
  clear_value requestedNode
  subst hrequested
  generalize startSession _ _ _ _ = outcome
  obtain ⟨node', started⟩ := outcome
  cases started with
  | false => rfl
  | true => rfl

theorem requested_withClock (request : StartSessionRequest) :
    (node.withClock last).requested request clock = node.requested request clock := rfl

/-- Only a request with a bad period leaves the last clock sample as it was. -/
theorem startCallback_withClock (request : StartSessionRequest) :
    ((node.withClock last).startCallback request clock).2 =
        (node.startCallback request clock).2 ∧
      ∀ last', ((node.withClock last).startCallback request clock).1.withClock last' =
        (node.startCallback request clock).1.withClock last' := by
  by_cases hperiod : PeriodOk node request
  · have hperiod' : PeriodOk (node.withClock last) request := hperiod
    rw [startCallback_eq hperiod, startCallback_eq hperiod', requested_withClock]
    exact ⟨rfl, fun _ ↦ rfl⟩
  · have hperiod' : ¬PeriodOk (node.withClock last) request := hperiod
    rw [startCallback_of_not_periodOk hperiod, startCallback_of_not_periodOk hperiod']
    exact ⟨rfl, fun _ ↦ rfl⟩

theorem stopCallback_withClock (request : StopSessionRequest) :
    (node.withClock last).stopCallback request clock = node.stopCallback request clock := rfl

theorem timerCallback_withClock (now : RosTime) :
    (node.withClock last).timerCallback now clock = node.timerCallback now clock := rfl

/-- The step of a request, by the answer of its callback. -/
def answeredStep (answer : SwarmRuntimeNode × StartSessionResponse) :
    SwarmRuntimeNode × NodeOutput := (answer.1, .started answer.2)

theorem step_start (request : StartSessionRequest) :
    step node (.start request clock) = answeredStep (node.startCallback request clock) := rfl

end SwarmRuntimeNode

namespace PublishingNode

variable (print : DoubleText)

/-- The nodes differ in their last clock samples at most. -/
def Agree (s t : PublishingNode) : Prop := ∀ last, s.withClock last = t.withClock last

def IsStatus : PublishingCall → Prop
  | .status _ => True
  | _ => False

theorem Agree.eq_withClock {s t : PublishingNode} (h : Agree s t) :
    s = t.withClock s.runtime.lastClockResult := h s.runtime.lastClockResult

/-- The step of a request to start, by the answer of its callback.  The answer
stays a variable here, and so it is not evaluated. -/
def answeredStep (node : PublishingNode) (answer : SwarmRuntimeNode × StartSessionResponse) :
    PublishingNode × PublishingOutput := (node.withRuntime answer.1, ⟨.started answer.2, []⟩)

section Calls

variable (node : PublishingNode) (runtime : SwarmRuntimeNode) (last clock : ClockMonitorResult)
  (healthStamp : RosTime)

theorem runtime_withClock :
    (node.withClock last).runtime = node.runtime.withClock last := rfl

theorem withRuntime_withClock :
    (node.withClock last).withRuntime runtime = node.withRuntime runtime := rfl

theorem answeredStep_withClock (answer : SwarmRuntimeNode × StartSessionResponse) :
    (node.withClock last).answeredStep answer = node.answeredStep answer := rfl

theorem answeredStep_runtime (answer : SwarmRuntimeNode × StartSessionResponse) :
    (node.answeredStep answer).1.runtime = answer.1 := rfl

theorem step_start (request : StartSessionRequest) :
    step print node (.start request clock) =
      node.answeredStep (node.runtime.startCallback request clock) := rfl

theorem step_stop (request : StopSessionRequest) :
    step print node (.stop request clock healthStamp) =
      (node.withRuntime (node.runtime.stopCallback request clock).1,
        ⟨.stopped (node.runtime.stopCallback request clock).2,
          [.health ((node.withRuntime (node.runtime.stopCallback request clock).1).publishHealth
            healthStamp)]⟩) := rfl

theorem step_timer (now : RosTime) :
    step print node (.timer now clock healthStamp) =
      ((node.timerCallback print now clock healthStamp).1,
        ⟨.polled, (node.timerCallback print now clock healthStamp).2⟩) := rfl

end Calls

theorem timerCallback_withClock (node : PublishingNode) (last clock : ClockMonitorResult)
    (now healthStamp : RosTime) :
    (node.withClock last).timerCallback print now clock healthStamp =
      node.timerCallback print now clock healthStamp := by
  unfold timerCallback
  rw [withClock, SwarmRuntimeNode.timerCallback_withClock]
  rfl

theorem agree_answered (node : PublishingNode)
    {answer answer' : SwarmRuntimeNode × StartSessionResponse}
    (hruntime : ∀ last, answer.1.withClock last = answer'.1.withClock last)
    (hresponse : answer.2 = answer'.2) :
    (node.answeredStep answer).2 = (node.answeredStep answer').2 ∧
      Agree (node.answeredStep answer).1 (node.answeredStep answer').1 :=
  ⟨congrArg (fun response ↦ (⟨.started response, []⟩ : PublishingOutput)) hresponse,
    fun last ↦ congrArg (withRuntime node) (hruntime last)⟩

theorem step_agree {s t : PublishingNode} {call : PublishingCall} (hcall : ¬IsStatus call)
    (h : Agree s t) :
    (step print s call).2 = (step print t call).2 ∧
      Agree (step print s call).1 (step print t call).1 := by
  rw [h.eq_withClock]
  generalize s.runtime.lastClockResult = last
  cases call with
  | start request clock =>
      obtain ⟨hresponse, hnode⟩ := t.runtime.startCallback_withClock last clock request
      rw [step_start, step_start, answeredStep_withClock, runtime_withClock]
      exact t.agree_answered hnode hresponse
  | stop request clock healthStamp =>
      rw [step_stop, step_stop, withRuntime_withClock, runtime_withClock,
        SwarmRuntimeNode.stopCallback_withClock]
      exact ⟨rfl, fun _ ↦ rfl⟩
  | status clock => exact absurd trivial hcall
  | timer now clock healthStamp =>
      rw [step_timer, step_timer, timerCallback_withClock]
      exact ⟨rfl, fun _ ↦ rfl⟩

theorem agree_status {s t : PublishingNode} (h : Agree s t) (clock : ClockMonitorResult) :
    Agree (step print s (.status clock)).1 t := h

/-! ## The session and the scheduler -/

/-- What of a call reaches the session and the scheduler. -/
def runtimeCall : PublishingCall → Option SwarmRuntimeNode.NodeCall
  | .start request clock => some (.start request clock)
  | .stop request clock _ => some (.stop request clock)
  | .status _ => none
  | .timer now clock _ => some (.timer now clock)

/-- What others learn about the session and its cycles. -/
inductive SessionEvent where
  | started (response : StartSessionResponse)
  | stopped (response : StopSessionResponse)
  | cycle (msg : SyncedCycle)

def cycle? : NodePublication → Option SyncedCycle
  | .cycle msg => some msg
  | _ => none

def PublishingOutput.sessionEvents (output : PublishingOutput) : List SessionEvent :=
  (match output.answer with
    | .started response => [.started response]
    | .stopped response => [.stopped response]
    | .status _ | .polled => []) ++
    (output.published.filterMap cycle?).map .cycle

def runtimeEvents : SwarmRuntimeNode.NodeOutput → List SessionEvent
  | .started response => [.started response]
  | .stopped response => [.stopped response]
  | .polled published => published.toList.map fun published ↦ .cycle published.2

/-! ## One poll -/

/-- The node between its poll and the publication of the snapshot. -/
def polled (node : PublishingNode) (now : RosTime) (clock : ClockMonitorResult) : PublishingNode :=
  node.withRuntime (node.runtime.timerCallback now clock).1

/-- The node after the publication of a snapshot. -/
def withLinks (node : PublishingNode) (snapshot : CycleSnapshot Int64) : PublishingNode :=
  { node with weaknet := (node.weaknet.publishWeaknet snapshot).1 }

/-- The messages about the links of a snapshot. -/
def linkMessages (node : PublishingNode) (snapshot : CycleSnapshot Int64) (stamp : RosTime) :
    List NodePublication :=
  (node.weaknet.publishWeaknet snapshot).2.flatMap
    (node.publishReport print snapshot.cycleId stamp)

theorem timerCallback_of_none {node : PublishingNode} {now : RosTime} {clock : ClockMonitorResult}
    (h : (node.runtime.timerCallback now clock).2 = none) (healthStamp : RosTime) :
    node.timerCallback print now clock healthStamp = (node.polled now clock, []) := by
  rw [timerCallback, h]
  rfl

theorem timerCallback_of_some {node : PublishingNode} {now : RosTime} {clock : ClockMonitorResult}
    {event : CycleEvent} {cycle : SyncedCycle}
    (h : (node.runtime.timerCallback now clock).2 = some (event, cycle)) (healthStamp : RosTime) :
    let snapshot := (node.polled now clock).buildSnapshot event clock.state
    let node' := (node.polled now clock).withLinks snapshot
    node.timerCallback print now clock healthStamp =
      (node',
        .cycle cycle ::
          (.snapshot ((node.polled now clock).runtime.toSnapshotMsg snapshot now) ::
            .sampleStats ((node.polled now clock).runtime.toSampleStatsMsg snapshot now) ::
            (node.polled now clock).linkMessages print snapshot now) ++
          [.health (node'.publishHealth healthStamp)]) := by
  rw [timerCallback, h]
  rfl

theorem cycle?_linkMessages (node : PublishingNode) (snapshot : CycleSnapshot Int64)
    (stamp : RosTime) : (node.linkMessages print snapshot stamp).filterMap cycle? = [] := by
  rw [List.filterMap_eq_nil_iff]
  intro publication hmem
  obtain ⟨report, -, hreport⟩ := List.mem_flatMap.mp hmem
  rcases List.mem_append.mp hreport with hhealth | hadvice
  · rcases List.mem_cons.mp hhealth with rfl | hstate
    · rfl
    · obtain ⟨transition, -, rfl⟩ := List.mem_map.mp hstate
      rfl
  · obtain ⟨recommendation, -, rfl⟩ := List.mem_map.mp hadvice
    rfl

theorem cycle?_timerCallback (node : PublishingNode) (now : RosTime) (clock : ClockMonitorResult)
    (healthStamp : RosTime) :
    (node.timerCallback print now clock healthStamp).2.filterMap cycle? =
      ((node.runtime.timerCallback now clock).2.map Prod.snd).toList := by
  cases h : (node.runtime.timerCallback now clock).2 with
  | none =>
      rw [timerCallback_of_none print h]
      rfl
  | some published =>
      obtain ⟨event, cycle⟩ := published
      rw [timerCallback_of_some print h]
      simp only [List.cons_append, List.filterMap_cons, List.filterMap_append,
        cycle?_linkMessages, cycle?]
      rfl

theorem timerCallback_runtime (node : PublishingNode) (now : RosTime) (clock : ClockMonitorResult)
    (healthStamp : RosTime) :
    (node.timerCallback print now clock healthStamp).1.runtime =
      (node.runtime.timerCallback now clock).1 := by
  cases h : (node.runtime.timerCallback now clock).2 with
  | none =>
      rw [timerCallback_of_none print h]
      rfl
  | some published =>
      rw [timerCallback_of_some print h]
      rfl

/-! ## Refinement -/

/-- The clock samples of the queries are all that the runtime of the node and
a runtime without queries may differ in. -/
def Runs (node : PublishingNode) (runtime : SwarmRuntimeNode) : Prop :=
  ∀ last, node.runtime.withClock last = runtime.withClock last

section Runs

variable {node : PublishingNode} {runtime : SwarmRuntimeNode}

theorem Runs.eq_withClock (h : Runs node runtime) :
    node.runtime = runtime.withClock node.runtime.lastClockResult := h node.runtime.lastClockResult

theorem runs_answered (node : PublishingNode)
    {answer answer' : SwarmRuntimeNode × StartSessionResponse}
    (hruntime : ∀ last, answer.1.withClock last = answer'.1.withClock last)
    (hresponse : answer.2 = answer'.2) :
    (node.answeredStep answer).2.sessionEvents =
        runtimeEvents (SwarmRuntimeNode.answeredStep answer').2 ∧
      Runs (node.answeredStep answer).1 (SwarmRuntimeNode.answeredStep answer').1 :=
  ⟨congrArg (fun response ↦ [SessionEvent.started response]) hresponse, hruntime⟩

theorem Runs.start (h : Runs node runtime) (request : StartSessionRequest)
    (clock : ClockMonitorResult) :
    (step print node (.start request clock)).2.sessionEvents =
        runtimeEvents (runtime.step (.start request clock)).2 ∧
      Runs (step print node (.start request clock)).1 (runtime.step (.start request clock)).1 := by
  have hstart := runtime.startCallback_withClock node.runtime.lastClockResult clock request
  rw [← h.eq_withClock] at hstart
  rw [step_start, SwarmRuntimeNode.step_start]
  exact node.runs_answered hstart.2 hstart.1

theorem Runs.stop (h : Runs node runtime) (request : StopSessionRequest)
    (clock : ClockMonitorResult) (healthStamp : RosTime) :
    (step print node (.stop request clock healthStamp)).2.sessionEvents =
        runtimeEvents (runtime.step (.stop request clock)).2 ∧
      Runs (step print node (.stop request clock healthStamp)).1
        (runtime.step (.stop request clock)).1 := by
  have hstop := runtime.stopCallback_withClock node.runtime.lastClockResult clock request
  rw [← h.eq_withClock] at hstop
  rw [step_stop, SwarmRuntimeNode.step, hstop]
  exact ⟨rfl, fun _ ↦ rfl⟩

theorem Runs.timer (h : Runs node runtime) (now : RosTime) (clock : ClockMonitorResult)
    (healthStamp : RosTime) :
    (step print node (.timer now clock healthStamp)).2.sessionEvents =
        runtimeEvents (runtime.step (.timer now clock)).2 ∧
      Runs (step print node (.timer now clock healthStamp)).1
        (runtime.step (.timer now clock)).1 := by
  have hpoll := runtime.timerCallback_withClock node.runtime.lastClockResult clock now
  rw [← h.eq_withClock] at hpoll
  rw [step_timer, SwarmRuntimeNode.step]
  constructor
  · change ((node.timerCallback print now clock healthStamp).2.filterMap cycle?).map
      SessionEvent.cycle = (runtime.timerCallback now clock).2.toList.map _
    rw [cycle?_timerCallback, hpoll, Option.toList_map, List.map_map]
    rfl
  · intro last
    dsimp only
    rw [timerCallback_runtime, hpoll]

end Runs

theorem refines_runtime : Refines (step print) SwarmRuntimeNode.step runtimeCall
    PublishingOutput.sessionEvents runtimeEvents Runs where
  known node runtime call call' hcall h := by
    cases call with
    | start request clock => exact Option.some.inj hcall ▸ h.start print request clock
    | stop request clock healthStamp =>
        exact Option.some.inj hcall ▸ h.stop print request clock healthStamp
    | status clock => cases hcall
    | timer now clock healthStamp =>
        exact Option.some.inj hcall ▸ h.timer print now clock healthStamp
  idle node runtime call hcall h := by
    cases call with
    | status clock => exact ⟨rfl, h⟩
    | start request clock => cases hcall
    | stop request clock healthStamp => cases hcall
    | timer now clock healthStamp => cases hcall

/-- Whatever else the node does, its answers about the session and the cycles
that it publishes are those of the session and the scheduler alone. -/
theorem publishes_runtime (node : PublishingNode) (calls : List PublishingCall) :
    (trace (step print) node calls).flatMap (fun e ↦ e.output.sessionEvents) =
      (trace SwarmRuntimeNode.step node.runtime (calls.filterMap runtimeCall)).flatMap
        (fun e ↦ runtimeEvents e.output) :=
  ((refines_runtime print).run (fun _ ↦ rfl) calls).1

end PublishingNode

end RuntimeSync
