import RuntimeSync.Core.CycleLaws
import RuntimeSync.Ros1.RuntimeNode

/-!
# Runs of the runtime node

Once initialised, the node's configuration stays valid up to its period and
epoch.  A start request is then refused for one of two reasons only, its
period or the clock, and what it leaves behind is known in each case.
-/

namespace RuntimeSync

/-! ## Ready configurations -/

/-- Any positive period makes the configuration valid. -/
def SessionConfig.Ready (config : SessionConfig) : Prop :=
  ∀ epochNs periodNs : Int64, 0 < periodNs → (config.withTiming epochNs periodNs).Valid

theorem SessionConfig.Valid.ready {config : SessionConfig} (h : config.Valid) : config.Ready :=
  fun _ _ hperiod ↦ ⟨h.teamId, h.sessionId, h.taskId, h.selfId, hperiod, h.maxCycle,
    h.requiredParticipants⟩

namespace SwarmRuntimeNode

theorem ready_requestedConfig {config : SessionConfig} (h : config.Ready)
    (request : StartSessionRequest) : (requestedConfig config request).Ready := by
  intro epochNs periodNs hperiod
  have hvalid := h epochNs periodNs hperiod
  refine ⟨hvalid.teamId, ?_, ?_, hvalid.selfId, hperiod, hvalid.maxCycle,
    hvalid.requiredParticipants⟩
  · change (if request.sessionId ≠ [] then request.sessionId else config.sessionId) ≠ []
    split_ifs with hsession
    · exact hsession
    · exact hvalid.sessionId
  · change (if request.taskId ≠ [] then request.taskId else config.taskId) ≠ []
    split_ifs with htask
    · exact htask
    · exact hvalid.taskId

/-! ## Starting a session -/

/-- The node as an accepted start leaves it. -/
def started (node : SwarmRuntimeNode) (epochNs periodNs : Int64) : SwarmRuntimeNode :=
  let config := node.config.withTiming epochNs periodNs
  { { node with config := config }.configureExpectedSamples with
    session := { config := config, state := .armed, reason := [] }
    scheduler := { config := schedulerConfig config epochNs periodNs, running := true } }

theorem startSession_of_usable {node : SwarmRuntimeNode} (hready : node.config.Ready)
    {epochNs periodNs : Int64} (hperiod : CycleScheduler.isValidPeriodNs periodNs = true)
    {clock : ClockState} (hclock : clock.Usable) :
    node.startSession epochNs periodNs clock = (node.started epochNs periodNs, true) := by
  have hpos : 0 < periodNs := Int64.lt_iff_toInt_lt.mpr (isValidPeriodNs_pos hperiod)
  have hvalid := hready epochNs periodNs hpos
  have hconfigure := node.session.configure_of_valid hvalid
  have hscheduler : (schedulerConfig (node.config.withTiming epochNs periodNs)
      epochNs periodNs).Valid :=
    ⟨hperiod, hvalid.sessionId, hvalid.taskId, hvalid.maxCycle⟩
  have hscheduled := CycleScheduler.configure_of_valid hscheduler node.scheduler
  have hstart : CycleScheduler.start
      { config := schedulerConfig (node.config.withTiming epochNs periodNs) epochNs periodNs } =
        { config := schedulerConfig (node.config.withTiming epochNs periodNs) epochNs periodNs
          running := true } := if_pos hpos
  rw [startSession, if_neg (by simp [hperiod]), if_neg (not_not.mpr hclock)]
  dsimp only
  rw [hconfigure]
  dsimp only [withSession, configureExpectedSamples]
  rw [SessionManager.arm, if_neg (by simp), if_neg (not_not.mpr hclock)]
  dsimp only
  rw [hscheduled]
  dsimp only
  rw [hstart]
  rfl

theorem startSession_of_not_usable {node : SwarmRuntimeNode} {epochNs periodNs : Int64}
    (hperiod : CycleScheduler.isValidPeriodNs periodNs = true) {clock : ClockState}
    (hclock : ¬clock.Usable) :
    node.startSession epochNs periodNs clock =
      (node.withSession (node.session.markError
        (text "clock gate rejected: " ++ node.lastClockResult.reason)), false) := by
  simp [startSession, hperiod, hclock]

/-! ## Answering a request -/

/-- What a request to start may ask for. -/
def PeriodOk (node : SwarmRuntimeNode) (request : StartSessionRequest) : Prop :=
  CycleScheduler.isValidPeriodNs (requestedPeriodNs node.config request) = true

instance (node : SwarmRuntimeNode) (request : StartSessionRequest) :
    Decidable (PeriodOk node request) := inferInstanceAs (Decidable (_ = _))

theorem startCallback_of_not_periodOk {node : SwarmRuntimeNode} {request : StartSessionRequest}
    (hperiod : ¬PeriodOk node request) (clock : ClockMonitorResult) :
    node.startCallback request clock =
      (node, ⟨false, text "period_ns outside supported 0.5-50 Hz range"⟩) := by
  rw [startCallback, if_pos (by simpa [PeriodOk] using hperiod)]

/-- A request that the clock blocks has already replaced the configuration. -/
theorem startCallback_of_not_usable {node : SwarmRuntimeNode} {request : StartSessionRequest}
    (hperiod : PeriodOk node request) {clock : ClockMonitorResult} (hclock : ¬clock.state.Usable) :
    node.startCallback request clock =
      ({ node with
          config := requestedConfig node.config request
          lastClockResult := clock
          session := node.session.markError (text "clock gate rejected: " ++ clock.reason) },
        ⟨false, text "clock gate rejected: " ++ clock.reason⟩) := by
  have hvalid : CycleScheduler.isValidPeriodNs (requestedConfig node.config request).periodNs =
      true := hperiod
  rw [startCallback, if_neg (by simpa [PeriodOk] using hperiod)]
  dsimp only
  rw [startSession_of_not_usable hvalid hclock]
  rfl

theorem withTiming_withTiming (config : SessionConfig) (epochNs epochNs' periodNs periodNs' : Int64) :
    (config.withTiming epochNs periodNs).withTiming epochNs' periodNs' =
      config.withTiming epochNs' periodNs' := rfl

theorem withTiming_requestedConfig (config : SessionConfig) (request : StartSessionRequest) :
    (requestedConfig config request).withTiming request.epochTime.toNs
      (requestedPeriodNs config request) = requestedConfig config request :=
  withTiming_withTiming ..

/-- An accepted request replaces all three: the configuration, the session,
and the scheduler, which starts afresh. -/
theorem startCallback_of_usable {node : SwarmRuntimeNode} (hready : node.config.Ready)
    {request : StartSessionRequest} (hperiod : PeriodOk node request) {clock : ClockMonitorResult}
    (hclock : clock.state.Usable) :
    ∃ node', node.startCallback request clock = (node', ⟨true, text "accepted"⟩) ∧
      node'.config = requestedConfig node.config request ∧
      node'.session =
        { config := requestedConfig node.config request, state := .armed, reason := [] } ∧
      node'.scheduler =
        { config := schedulerConfig (requestedConfig node.config request)
            request.epochTime.toNs (requestedPeriodNs node.config request)
          running := true } := by
  have hvalid : CycleScheduler.isValidPeriodNs (requestedConfig node.config request).periodNs =
      true := hperiod
  have hready' : ({ node with
      config := requestedConfig node.config request
      lastClockResult := clock } : SwarmRuntimeNode).config.Ready :=
    ready_requestedConfig hready request
  rw [startCallback, if_neg (by simpa [PeriodOk] using hperiod)]
  dsimp only
  rw [startSession_of_usable hready' hvalid hclock]
  refine ⟨_, rfl, ?_, ?_, ?_⟩
  · exact withTiming_requestedConfig node.config request
  · exact congrArg (fun config ↦ (⟨config, .armed, []⟩ : SessionManager))
      (withTiming_requestedConfig node.config request)
  · exact congrArg (fun config ↦ (⟨schedulerConfig config request.epochTime.toNs
      (requestedPeriodNs node.config request), true, false, 0⟩ : CycleScheduler))
      (withTiming_requestedConfig node.config request)

/-- The three ways in which a request can end. -/
theorem startCallback_cases {node : SwarmRuntimeNode} (hready : node.config.Ready)
    (request : StartSessionRequest) (clock : ClockMonitorResult) :
    (¬PeriodOk node request ∧
      node.startCallback request clock =
        (node, ⟨false, text "period_ns outside supported 0.5-50 Hz range"⟩)) ∨
    (PeriodOk node request ∧ ¬clock.state.Usable ∧
      node.startCallback request clock =
        ({ node with
            config := requestedConfig node.config request
            lastClockResult := clock
            session := node.session.markError (text "clock gate rejected: " ++ clock.reason) },
          ⟨false, text "clock gate rejected: " ++ clock.reason⟩)) ∨
    ∃ node', node.startCallback request clock = (node', ⟨true, text "accepted"⟩) ∧
      node'.config = requestedConfig node.config request ∧
      node'.session =
        { config := requestedConfig node.config request, state := .armed, reason := [] } ∧
      node'.scheduler =
        { config := schedulerConfig (requestedConfig node.config request)
            request.epochTime.toNs (requestedPeriodNs node.config request)
          running := true } := by
  by_cases hperiod : PeriodOk node request
  · by_cases hclock : clock.state.Usable
    · exact .inr (.inr (startCallback_of_usable hready hperiod hclock))
    · exact .inr (.inl ⟨hperiod, hclock, startCallback_of_not_usable hperiod hclock⟩)
  · exact .inl ⟨hperiod, startCallback_of_not_periodOk hperiod clock⟩

/-! ## Steps -/

inductive NodeCall where
  | start (request : StartSessionRequest) (clock : ClockMonitorResult)
  | stop (request : StopSessionRequest) (clock : ClockMonitorResult)
  | timer (now : RosTime) (clock : ClockMonitorResult)

inductive NodeOutput where
  | started (response : StartSessionResponse)
  | stopped (response : StopSessionResponse)
  | polled (published : Option (CycleEvent × SyncedCycle))

def step (node : SwarmRuntimeNode) : NodeCall → SwarmRuntimeNode × NodeOutput
  | .start request clock =>
      ((node.startCallback request clock).1, .started (node.startCallback request clock).2)
  | .stop request clock =>
      ((node.stopCallback request clock).1, .stopped (node.stopCallback request clock).2)
  | .timer now clock =>
      ((node.timerCallback now clock).1, .polled (node.timerCallback now clock).2)

/-- A timer callback polls the session first and then the scheduler, and
publishes the event of the second. -/
theorem timerCallback_eq (node : SwarmRuntimeNode) (now : RosTime) (clock : ClockMonitorResult) :
    (node.timerCallback now clock).1.config = node.config ∧
      (node.timerCallback now clock).1.session =
        (node.session.startIfDue now.toNs clock.state).1 ∧
      (node.timerCallback now clock).1.scheduler =
        (node.scheduler.tick now.toNs clock.state.clockOk).1 ∧
      ∀ event cycle, (node.timerCallback now clock).2 = some (event, cycle) →
        (node.scheduler.tick now.toNs clock.state.clockOk).2 = some event ∧
        cycle.sessionId = node.config.sessionId ∧ cycle.taskId = node.config.taskId ∧
        cycle.periodNs = event.periodNs ∧
        cycle.sessionRunning = (node.session.startIfDue now.toNs clock.state).1.running := by
  unfold timerCallback
  cases hsession : node.session.startIfDue now.toNs clock.state with
  | mk session started =>
      cases htick : node.scheduler.tick now.toNs clock.state.clockOk with
      | mk scheduler event =>
          cases event with
          | none => simp [withClock, hsession, htick]
          | some event =>
              refine ⟨by simp [withClock, hsession, htick], by simp [withClock, hsession, htick],
                by simp [withClock, hsession, htick], ?_⟩
              intro event' cycle h
              simp only [withClock, hsession, htick, Option.some.injEq, Prod.mk.injEq] at h
              obtain ⟨rfl, rfl⟩ := h
              exact ⟨rfl, rfl, rfl, rfl, rfl⟩

/-- A published cycle is that of an event of the scheduler, read before the update. -/
theorem tick_of_published {node : SwarmRuntimeNode} {now : RosTime} {clock : ClockMonitorResult}
    {event : CycleEvent} {cycle : SyncedCycle}
    (h : (node.timerCallback now clock).2 = some (event, cycle)) :
    ∃ scheduler, node.scheduler.tick now.toNs clock.state.clockOk = (scheduler, some event) := by
  obtain ⟨-, -, -, hcycle⟩ := node.timerCallback_eq now clock
  exact ⟨_, Prod.ext rfl (hcycle event cycle h).1⟩

/-- Only a timer callback publishes. -/
theorem timer_of_polled {node : SwarmRuntimeNode} {calls : List NodeCall}
    {e : Machine.Entry SwarmRuntimeNode NodeCall NodeOutput} (he : e ∈ Machine.trace step node calls)
    {published : CycleEvent × SyncedCycle} (hout : e.output = .polled (some published)) :
    ∃ now clock, e.input = .timer now clock ∧
      (e.state.timerCallback now clock).2 = some published := by
  obtain ⟨-, -, -, -, hstep⟩ := Machine.mem_trace step he
  rw [hstep] at hout
  cases hinput : e.input with
  | start request clock => simp [hinput, step] at hout
  | stop request clock => simp [hinput, step] at hout
  | timer now clock =>
      rw [hinput, step] at hout
      exact ⟨now, clock, rfl, NodeOutput.polled.inj hout⟩

/-- Only a request to start touches the configuration, and it keeps it ready. -/
theorem ready_step {node : SwarmRuntimeNode} (hready : node.config.Ready) (call : NodeCall) :
    (node.step call).1.config.Ready := by
  cases call with
  | start request clock =>
      rw [step]
      rcases startCallback_cases hready request clock with
        ⟨-, hstart⟩ | ⟨-, -, hstart⟩ | ⟨node', hstart, hconfig, -, -⟩
      · rw [hstart]
        exact hready
      · rw [hstart]
        exact ready_requestedConfig hready request
      · rw [hstart, hconfig]
        exact ready_requestedConfig hready request
  | stop request clock => exact hready
  | timer now clock =>
      rw [step, (node.timerCallback_eq now clock).1]
      exact hready

/-! ## Initial states -/

/-- A node comes up ready, with a scheduler that is idle or freshly started
for the session it has armed. -/
structure Fresh (node : SwarmRuntimeNode) : Prop where
  ready : node.config.Ready
  armed : node.scheduler.running = true →
    node.session.state = .armed ∧ node.session.config = node.config ∧
      node.scheduler.config =
        schedulerConfig node.config node.config.epochNs node.config.periodNs

theorem Fresh.withClock {node : SwarmRuntimeNode} (h : Fresh node) (clock : ClockMonitorResult) :
    Fresh (node.withClock clock) := ⟨h.ready, h.armed⟩

theorem fresh_startSession {node : SwarmRuntimeNode} (hready : node.config.Ready)
    (hidle : node.scheduler.running = false) (clock : ClockState) :
    Fresh (node.startSession node.config.epochNs node.config.periodNs clock).1 := by
  by_cases hperiod : CycleScheduler.isValidPeriodNs node.config.periodNs = true
  swap
  · rw [startSession, if_pos (by simpa using hperiod)]
    exact ⟨hready, fun hrunning ↦ absurd (hidle.symm.trans hrunning) Bool.false_ne_true⟩
  by_cases hclock : clock.Usable
  · rw [startSession_of_usable hready hperiod hclock]
    exact ⟨hready, fun _ ↦ ⟨rfl, rfl, rfl⟩⟩
  · rw [startSession_of_not_usable hperiod hclock]
    exact ⟨hready, fun hrunning ↦ absurd (hidle.symm.trans hrunning) Bool.false_ne_true⟩

theorem fresh_init {D : Type} [DoubleArith D] {params : Params D} {now : RosTime}
    {startClock healthClock : ClockMonitorResult} {node : SwarmRuntimeNode}
    (h : init params now startClock healthClock = some node) : Fresh node := by
  unfold init at h
  split at h
  · simp at h
  next periodNs _ =>
  dsimp only at h
  generalize hcreated : configureExpectedSamples
    { config := initialConfig params now periodNs
      expectedSampleChannel := params.expectedSampleChannel } = created at h
  have hidle : created.scheduler.running = false := by
    rw [← hcreated]
    rfl
  split at h
  · simp at h
  next session hconfigure =>
  have hready : created.config.Ready := (SessionManager.valid_of_configure hconfigure).1.ready
  cases hauto : params.autoStart with
  | false =>
      rw [hauto] at h
      obtain rfl := Option.some.inj h
      exact ⟨hready, fun hrunning ↦ absurd (hidle.symm.trans hrunning) Bool.false_ne_true⟩
  | true =>
      rw [hauto] at h
      obtain rfl := Option.some.inj h
      have hready' : ((created.withSession session).withClock startClock).config.Ready := hready
      exact (fresh_startSession hready' hidle startClock.state).withClock healthClock

/-! ## Rejected requests -/

/-- What a refused request must leave alone. -/
structure Unchanged (before after : SwarmRuntimeNode) : Prop where
  sessionState : after.session.state = before.session.state
  sessionConfig : after.session.config = before.session.config
  config : after.config = before.config
  schedulerConfig : after.scheduler.config = before.scheduler.config
  schedulerRunning : after.scheduler.running = before.scheduler.running

def Rejects (node : SwarmRuntimeNode) (request : StartSessionRequest)
    (clock : ClockMonitorResult) : Prop :=
  (node.startCallback request clock).2.accepted = false

instance (node : SwarmRuntimeNode) (request : StartSessionRequest) (clock : ClockMonitorResult) :
    Decidable (Rejects node request clock) := inferInstanceAs (Decidable (_ = _))

/-- The request is refused for its period, or it asks for the configuration
the node has and finds the session in its error state already. -/
def Harmless (node : SwarmRuntimeNode) (request : StartSessionRequest) : Prop :=
  ¬PeriodOk node request ∨
    (node.session.state = .error ∧ requestedConfig node.config request = node.config)

theorem unchanged_iff_harmless {node : SwarmRuntimeNode} (hready : node.config.Ready)
    {request : StartSessionRequest} {clock : ClockMonitorResult}
    (hreject : Rejects node request clock) :
    Unchanged node (node.startCallback request clock).1 ↔ Harmless node request := by
  rcases startCallback_cases hready request clock with
    ⟨hperiod, hstart⟩ | ⟨hperiod, -, hstart⟩ | ⟨node', hstart, -⟩
  · rw [hstart]
    exact ⟨fun _ ↦ .inl hperiod, fun _ ↦ ⟨rfl, rfl, rfl, rfl, rfl⟩⟩
  · rw [hstart]
    constructor
    · intro h
      exact .inr ⟨h.sessionState.symm, h.config⟩
    · rintro (h | ⟨hstate, hconfig⟩)
      · exact absurd hperiod h
      · exact ⟨hstate.symm, rfl, hconfig, rfl, rfl⟩
  · rw [Rejects, hstart] at hreject
    exact absurd hreject (by simp)

/-- The cycles of a running scheduler carry the names and the period of the
session that was accepted last. -/
structure Labelled (node : SwarmRuntimeNode) : Prop where
  ready : node.config.Ready
  sessionId : node.scheduler.running = true →
    node.config.sessionId = node.session.config.sessionId
  taskId : node.scheduler.running = true → node.config.taskId = node.session.config.taskId
  periodNs : node.scheduler.running = true →
    node.scheduler.config.periodNs = node.session.config.periodNs

theorem rejects_of_not_usable {node : SwarmRuntimeNode} {request : StartSessionRequest}
    (hperiod : PeriodOk node request) {clock : ClockMonitorResult} (hclock : ¬clock.state.Usable) :
    Rejects node request clock := by
  rw [Rejects, startCallback_of_not_usable hperiod hclock]

theorem Fresh.labelled {node : SwarmRuntimeNode} (h : Fresh node) : Labelled node := by
  refine ⟨h.ready, fun hrunning ↦ ?_, fun hrunning ↦ ?_, fun hrunning ↦ ?_⟩
  · rw [(h.armed hrunning).2.1]
  · rw [(h.armed hrunning).2.1]
  · rw [(h.armed hrunning).2.1, (h.armed hrunning).2.2]
    rfl

/-- A refused request does no harm at this step. -/
def RejectsHarmlessly (node : SwarmRuntimeNode) (call : NodeCall) : Prop :=
  ∀ request clock, call = .start request clock → Rejects node request clock →
    Harmless node request

theorem labelled_step {node : SwarmRuntimeNode} (h : Labelled node) {call : NodeCall}
    (hcall : RejectsHarmlessly node call) : Labelled (node.step call).1 := by
  have hready := ready_step h.ready call
  cases call with
  | start request clock =>
      rw [step] at hready ⊢
      rcases startCallback_cases h.ready request clock with
        ⟨-, hstart⟩ | ⟨hperiod, hclock, hstart⟩ | ⟨node', hstart, hconfig, hsession, hscheduler⟩
      · rw [hstart]
        exact h
      · rcases hcall request clock rfl (rejects_of_not_usable hperiod hclock) with hbad | hsame
        · exact absurd hperiod hbad
        · rw [hstart, hsame.2]
          exact ⟨h.ready, h.sessionId, h.taskId, h.periodNs⟩
      · rw [hstart] at hready ⊢
        refine ⟨hready, fun _ ↦ ?_, fun _ ↦ ?_, fun _ ↦ ?_⟩
        · rw [hconfig, hsession]
        · rw [hconfig, hsession]
        · rw [hscheduler, hsession]
          rfl
  | stop request clock => exact ⟨h.ready, by simp [step, stopCallback, CycleScheduler.stop],
      by simp [step, stopCallback, CycleScheduler.stop],
      by simp [step, stopCallback, CycleScheduler.stop]⟩
  | timer now clock =>
      obtain ⟨hconfig, hsession, hscheduler, -⟩ := node.timerCallback_eq now clock
      have hwas : (node.timerCallback now clock).1.scheduler.running = true →
          node.scheduler.running = true := by
        rw [hscheduler]
        exact CycleScheduler.running_of_tick
      have hsame : (node.timerCallback now clock).1.session.config = node.session.config := by
        rw [hsession, SessionManager.startIfDue_config]
      refine ⟨hready, fun hrunning ↦ ?_, fun hrunning ↦ ?_, fun hrunning ↦ ?_⟩
      · rw [step, hconfig, hsame]
        exact h.sessionId (hwas hrunning)
      · rw [step, hconfig, hsame]
        exact h.taskId (hwas hrunning)
      · rw [step, hscheduler, CycleScheduler.tick_config, hsame]
        exact h.periodNs (hwas hrunning)

/-- What a labelled node publishes is about the session it has accepted. -/
theorem Labelled.cycle {node : SwarmRuntimeNode} (h : Labelled node) {now : RosTime}
    {clock : ClockMonitorResult} {event : CycleEvent} {cycle : SyncedCycle}
    (hpublished : (node.timerCallback now clock).2 = some (event, cycle)) :
    cycle.sessionId = node.session.config.sessionId ∧
      cycle.taskId = node.session.config.taskId ∧
      cycle.periodNs = node.session.config.periodNs := by
  obtain ⟨-, -, -, hcycle⟩ := node.timerCallback_eq now clock
  obtain ⟨-, hsession, htask, hperiod, -⟩ := hcycle event cycle hpublished
  obtain ⟨scheduler, htick⟩ := tick_of_published hpublished
  have hrunning := (CycleScheduler.tick_some htick).1
  obtain ⟨-, -, hlabel⟩ := CycleScheduler.tick_labels htick
  rw [hsession, htask, hperiod, hlabel]
  exact ⟨h.sessionId hrunning, h.taskId hrunning, h.periodNs hrunning⟩

theorem rejected_start_unchanged_iff {D : Type} [DoubleArith D] {params : Params D}
    {now : RosTime} {startClock healthClock : ClockMonitorResult} {node : SwarmRuntimeNode}
    (hinit : init params now startClock healthClock = some node) (calls : List NodeCall) :
    (∀ request clock, Rejects (Machine.run step node calls) request clock →
      (Unchanged (Machine.run step node calls)
          ((Machine.run step node calls).startCallback request clock).1 ↔
        Harmless (Machine.run step node calls) request)) ∧
    ((∀ e ∈ Machine.trace step node calls, RejectsHarmlessly e.state e.input) →
      ∀ e ∈ Machine.trace step node calls, ∀ event cycle,
        e.output = .polled (some (event, cycle)) →
          cycle.sessionId = e.state.session.config.sessionId ∧
          cycle.taskId = e.state.session.config.taskId ∧
          cycle.periodNs = e.state.session.config.periodNs) := by
  have hfresh := fresh_init hinit
  constructor
  · intro request clock hreject
    have hready : (Machine.run step node calls).config.Ready :=
      Machine.invariant_run (I := fun node : SwarmRuntimeNode ↦ node.config.Ready)
        (fun _ call h ↦ ready_step h call) hfresh.ready calls
    exact unchanged_iff_harmless hready hreject
  · intro hharmless e he event cycle hout
    have hlabelled := (Machine.invariant_trace (I := Labelled) (G := RejectsHarmlessly)
      (fun _ _ h hcall ↦ labelled_step h hcall) hfresh.labelled hharmless).1 e he
    obtain ⟨now, clock, -, hpublished⟩ := timer_of_polled he hout
    exact hlabelled.cycle hpublished

/-! A node that has started by itself, with the defaults of the parameters. -/

def goodClock : ClockMonitorResult where
  state := { clockOk := true, quality := .ok, source := text "mock_ground_station" }
  startAllowed := true

def badClock : ClockMonitorResult where
  reason := text "mock clock is not synchronized"

def demoNode : SwarmRuntimeNode :=
  (init ({} : Params ℚ) ⟨1000, 0⟩ goodClock goodClock).get (by decide +kernel)

theorem init_demoNode : init ({} : Params ℚ) ⟨1000, 0⟩ goodClock goodClock = some demoNode :=
  (Option.some_get _).symm

def runningNode : SwarmRuntimeNode :=
  Machine.run step demoNode [.timer ⟨1000, 200000000⟩ goodClock]

/-- A period of ten seconds is refused without a trace. -/
theorem longPeriod_unchanged :
    Unchanged runningNode
      (runningNode.startCallback { epochTime := ⟨2000, 0⟩, period := ⟨10, 0⟩ } goodClock).1 :=
  ((rejected_start_unchanged_iff init_demoNode [.timer ⟨1000, 200000000⟩ goodClock]).1 _ _
    (by decide +kernel)).mpr (.inl (by decide +kernel))

def otherSession : StartSessionRequest where
  sessionId := text "session-b"
  epochTime := ⟨2000, 0⟩
  period := ⟨0, 0⟩

/-- A request that the clock blocks ends a running session and puts its own
name on the cycles that follow. -/
theorem otherSession_relabels :
    init ({} : Params ℚ) ⟨1000, 0⟩ goodClock goodClock = some demoNode ∧
      runningNode.session.state = .running ∧ Rejects runningNode otherSession badClock ∧
      ¬Unchanged runningNode (runningNode.startCallback otherSession badClock).1 ∧
      ((runningNode.startCallback otherSession badClock).1.timerCallback
        ⟨1000, 250000000⟩ goodClock).2.map (fun published ↦
          (published.1.sessionId, published.2.sessionId)) =
        some (text "demo_session_001", text "session-b") := by
  refine ⟨init_demoNode, by decide +kernel, by decide +kernel, fun h ↦ ?_, by decide +kernel⟩
  exact absurd h.sessionState (by decide +kernel)

/-! ## Cycles and the session -/

/-- A running scheduler belongs to a session that is running, or that waits
for the epoch at which the scheduler begins. -/
structure Coupled (node : SwarmRuntimeNode) : Prop where
  ready : node.config.Ready
  coupled : node.scheduler.running = true →
    node.session.state = .running ∨
      (node.session.state = .armed ∧
        node.session.config.epochNs = node.scheduler.config.epochNs)

/-- The steps at which the clock puts the session into its error state and
the scheduler runs on. -/
def Derails (node : SwarmRuntimeNode) : NodeCall → Prop
  | .start request clock =>
      node.scheduler.running = true ∧ PeriodOk node request ∧ ¬clock.state.Usable
  | .stop _ _ => False
  | .timer _ clock =>
      node.scheduler.running = true ∧ node.session.state = .armed ∧ ¬clock.state.Usable

instance (node : SwarmRuntimeNode) : DecidablePred (Derails node)
  | .start _ _ => inferInstanceAs (Decidable (_ ∧ _))
  | .stop _ _ => isFalse id
  | .timer _ _ => inferInstanceAs (Decidable (_ ∧ _))

/-- Such a step leaves the session in its error state. -/
theorem error_of_derails {node : SwarmRuntimeNode} {call : NodeCall} (h : Derails node call) :
    (node.step call).1.session.state = .error := by
  cases call with
  | start request clock =>
      obtain ⟨-, hperiod, hclock⟩ := h
      rw [step, startCallback_of_not_usable hperiod hclock]
      rfl
  | stop request clock => exact h.elim
  | timer now clock =>
      obtain ⟨-, hstate, hclock⟩ := h
      have hrunning : node.session.state ≠ .running := hstate ▸ nofun
      rw [step, (node.timerCallback_eq now clock).2.1, SessionManager.startIfDue,
        if_neg hrunning, if_neg (not_not_intro hstate), if_pos hclock]
      rfl

theorem Fresh.coupled {node : SwarmRuntimeNode} (h : Fresh node) : Coupled node := by
  refine ⟨h.ready, fun hrunning ↦ .inr ⟨(h.armed hrunning).1, ?_⟩⟩
  rw [(h.armed hrunning).2.1, (h.armed hrunning).2.2]
  rfl

/-- At the epoch of its scheduler a coupled session runs. -/
theorem Coupled.startIfDue {node : SwarmRuntimeNode} (h : Coupled node) {now : RosTime}
    {clock : ClockMonitorResult} (hcall : ¬Derails node (.timer now clock))
    (hrunning : node.scheduler.running = true) :
    (node.session.startIfDue now.toNs clock.state).1.state = .running ∨
      (now.toNs < node.scheduler.config.epochNs ∧
        node.session.startIfDue now.toNs clock.state = (node.session, false) ∧
        node.session.state = .armed) := by
  rcases h.coupled hrunning with hstate | ⟨hstate, hepoch⟩
  · rw [SessionManager.startIfDue_of_running hstate]
    exact .inl hstate
  · have hclock : clock.state.Usable := by
      by_contra hclock
      exact hcall ⟨hrunning, hstate, hclock⟩
    rw [← hepoch]
    by_cases hnow : now.toNs < node.session.config.epochNs
    · exact .inr ⟨hnow, (SessionManager.startIfDue_of_armed hstate hclock).2 hnow, hstate⟩
    · exact .inl ((SessionManager.startIfDue_of_armed hstate hclock).1 (Int64.not_lt.mp hnow))

theorem coupled_step {node : SwarmRuntimeNode} (h : Coupled node) {call : NodeCall}
    (hcall : ¬Derails node call) : Coupled (node.step call).1 := by
  have hready := ready_step h.ready call
  cases call with
  | start request clock =>
      rw [step] at hready ⊢
      rcases startCallback_cases h.ready request clock with
        ⟨-, hstart⟩ | ⟨hperiod, hclock, hstart⟩ | ⟨node', hstart, -, hsession, hscheduler⟩
      · rw [hstart]
        exact h
      · -- The request is blocked, so the scheduler was not running.
        rw [hstart] at hready ⊢
        exact ⟨hready, fun hrunning ↦ absurd ⟨hrunning, hperiod, hclock⟩ hcall⟩
      · rw [hstart] at hready ⊢
        refine ⟨hready, fun _ ↦ .inr ⟨?_, ?_⟩⟩
        · rw [hsession]
        · rw [hsession, hscheduler]
          rfl
  | stop request clock =>
      exact ⟨h.ready, by simp [step, stopCallback, CycleScheduler.stop]⟩
  | timer now clock =>
      obtain ⟨-, hsession, hscheduler, -⟩ := node.timerCallback_eq now clock
      refine ⟨hready, fun hrunning ↦ ?_⟩
      rw [step] at hrunning ⊢
      rw [hscheduler] at hrunning
      rw [hsession, hscheduler, CycleScheduler.tick_config]
      have hwas := CycleScheduler.running_of_tick hrunning
      rcases h.startIfDue hcall hwas with hstate | ⟨-, hwait, hstate⟩
      · exact .inl hstate
      · rw [hwait]
        exact h.coupled hwas

theorem published_while_running {D : Type} [DoubleArith D] {params : Params D} {now : RosTime}
    {startClock healthClock : ClockMonitorResult} {node : SwarmRuntimeNode}
    (hinit : init params now startClock healthClock = some node) (calls : List NodeCall)
    (hcalls : ∀ e ∈ Machine.trace step node calls, ¬Derails e.state e.input) :
    ∀ e ∈ Machine.trace step node calls, ∀ event cycle,
      e.output = .polled (some (event, cycle)) →
        (e.state.step e.input).1.session.state = .running ∧ cycle.sessionRunning = true := by
  intro e he event cycle hout
  have hcoupled := (Machine.invariant_trace (I := Coupled) (G := fun node call ↦ ¬Derails node call)
    (fun _ _ h hcall ↦ coupled_step h hcall) (fresh_init hinit).coupled hcalls).1 e he
  have hcall := hcalls e he
  obtain ⟨now, clock, hinput, hpublished⟩ := timer_of_polled he hout
  rw [hinput] at hcall ⊢
  obtain ⟨-, hsession, -, hcycle⟩ := e.state.timerCallback_eq now clock
  obtain ⟨-, -, -, -, hflag⟩ := hcycle event cycle hpublished
  obtain ⟨scheduler, htick⟩ := tick_of_published hpublished
  obtain ⟨hrunning, hepoch, -⟩ := CycleScheduler.tick_some htick
  have hstate : (e.state.session.startIfDue now.toNs clock.state).1.state = .running := by
    rcases hcoupled.startIfDue hcall hrunning with hstate | ⟨hnow, -⟩
    · exact hstate
    · exact absurd hepoch (Int64.not_le.mpr hnow)
  rw [step, hsession, hflag]
  exact ⟨hstate, by simp [SessionManager.running, hstate]⟩

/-- The second cycle after a start at the epoch. -/
theorem demoNode_publishes_while_running :
    ∃ event cycle, (demoNode.step (.timer ⟨1000, 200000000⟩ goodClock)).2 =
        .polled (some (event, cycle)) ∧
      (demoNode.step (.timer ⟨1000, 200000000⟩ goodClock)).1.session.state = .running ∧
      cycle.sessionRunning = true := by
  have hpublished : (demoNode.timerCallback ⟨1000, 200000000⟩ goodClock).2.isSome = true := by
    decide +kernel
  obtain ⟨⟨event, cycle⟩, hout⟩ := Option.isSome_iff_exists.mp hpublished
  have hpolled : (demoNode.step (.timer ⟨1000, 200000000⟩ goodClock)).2 =
      .polled (some (event, cycle)) := congrArg NodeOutput.polled hout
  have hstate := published_while_running init_demoNode [.timer ⟨1000, 200000000⟩ goodClock]
    (by decide +kernel) _ (by rw [Machine.trace_cons]; exact List.mem_cons_self ..)
    event cycle hpolled
  exact ⟨event, cycle, hpolled, hstate⟩

/-- The clock goes bad while the session waits for its epoch. -/
theorem demoNode_publishes_in_error :
    init ({} : Params ℚ) ⟨1000, 0⟩ goodClock goodClock = some demoNode ∧
      (demoNode.step (.timer ⟨1000, 200000000⟩ badClock)).1.session.state = .error ∧
      ∃ event cycle, (demoNode.step (.timer ⟨1000, 200000000⟩ badClock)).2 =
          .polled (some (event, cycle)) ∧ cycle.sessionRunning = false := by
  refine ⟨init_demoNode, by decide +kernel, ?_⟩
  have hflag : (demoNode.timerCallback ⟨1000, 200000000⟩ badClock).2.map
      (fun published ↦ published.2.sessionRunning) = some false := by decide +kernel
  obtain ⟨⟨event, cycle⟩, hout, hrunning⟩ := Option.map_eq_some_iff.mp hflag
  exact ⟨event, cycle, congrArg NodeOutput.polled hout, hrunning⟩

end SwarmRuntimeNode

end RuntimeSync
