import RuntimeSync.Core.SnapshotCounts
import RuntimeSync.Ros1.PublishingRuns

/-!
# What is published about a cycle

A poll that starts a cycle publishes a bundle of messages: the cycle, the
snapshot, the statistics, a report on each link, and the health of the node.
They are about one cycle and about the participants that the node started with.
-/

namespace RuntimeSync

open Machine

/-! ## The participants -/

/-- The node expects a sample from each participant, on one channel. -/
structure SwarmRuntimeNode.Expects (node : SwarmRuntimeNode) (participants : List Str)
    (channel : Str) : Prop where
  configured : node.config.requiredParticipants = participants
  sampleChannel : node.expectedSampleChannel = channel
  peers : node.expectedSamples.map ExpectedSample.peerId = participants
  channels : ∀ expected ∈ node.expectedSamples, expected.channel = channel

namespace SwarmRuntimeNode

variable {node : SwarmRuntimeNode} {participants : List Str} {channel : Str}

theorem expects_configureExpectedSamples (hparticipants : node.config.requiredParticipants =
    participants) (hchannel : node.expectedSampleChannel = channel) :
    node.configureExpectedSamples.Expects participants channel where
  configured := hparticipants
  sampleChannel := hchannel
  peers := by
    rw [configureExpectedSamples, List.map_map, ← hparticipants]
    exact List.map_id _
  channels expected hexpected := by
    obtain ⟨participant, -, rfl⟩ := List.mem_map.mp hexpected
    exact hchannel

/-- The rule for what a start cannot break: it holds of the node that is left
behind when each of the assignments in it keeps it. -/
theorem startSession_keeps {P : SwarmRuntimeNode → Prop}
    (hsession : ∀ node session, P node → P (node.withSession session))
    (htiming : ∀ node epochNs periodNs, P node →
      P { node with config := node.config.withTiming epochNs periodNs })
    (hexpected : ∀ node, P node → P node.configureExpectedSamples)
    (hscheduler : ∀ node scheduler, P node → P { node with scheduler := scheduler })
    (h : P node) (epochNs periodNs : Int64) (clock : ClockState) :
    P (node.startSession epochNs periodNs clock).1 := by
  by_cases hperiod : (!CycleScheduler.isValidPeriodNs periodNs) = true
  · rw [startSession, if_pos hperiod]
    exact hsession _ _ h
  by_cases hclock : ¬clock.Usable
  · rw [startSession, if_neg hperiod, if_pos hclock]
    exact hsession _ _ h
  rw [startSession, if_neg hperiod, if_neg hclock]
  have htimed := htiming node epochNs periodNs h
  dsimp only
  generalize node.session.configure (node.config.withTiming epochNs periodNs) = configured
  obtain ⟨session, ok⟩ := configured
  cases ok with
  | false => exact hsession _ _ htimed
  | true =>
      have hexpects := hexpected _ (hsession _ session htimed)
      dsimp only
      generalize configureExpectedSamples _ = configured at hexpects ⊢
      generalize configured.session.arm epochNs clock = armed
      obtain ⟨session, ok⟩ := armed
      cases ok with
      | false => exact hsession _ _ hexpects
      | true =>
          dsimp only
          generalize CycleScheduler.configure _ _ = scheduled
          obtain ⟨scheduler, ok⟩ := scheduled
          cases ok with
          | false => exact hsession _ _ (hsession _ _ hexpects)
          | true => exact hscheduler _ _ (hsession _ _ hexpects)

/-- The same for a request, which changes the configuration first. -/
theorem startCallback_keeps {P : SwarmRuntimeNode → Prop}
    (hsession : ∀ node session, P node → P (node.withSession session))
    (htiming : ∀ node epochNs periodNs, P node →
      P { node with config := node.config.withTiming epochNs periodNs })
    (hexpected : ∀ node, P node → P node.configureExpectedSamples)
    (hscheduler : ∀ node scheduler, P node → P { node with scheduler := scheduler })
    {request : StartSessionRequest} {clock : ClockMonitorResult}
    (hrequested : P (node.requested request clock)) (h : P node) :
    P (node.startCallback request clock).1 := by
  by_cases hperiod : PeriodOk node request
  · have hstarted := startSession_keeps hsession htiming hexpected hscheduler hrequested
      (node.requested request clock).config.epochNs
      (node.requested request clock).config.periodNs clock.state
    rw [startCallback_eq hperiod]
    generalize startSession _ _ _ _ = outcome at hstarted ⊢
    obtain ⟨node', started⟩ := outcome
    cases started with
    | false => exact hstarted
    | true => exact hstarted
  · rw [startCallback_of_not_periodOk hperiod]
    exact h

theorem Expects.withSession (h : node.Expects participants channel) (session : SessionManager) :
    (node.withSession session).Expects participants channel :=
  ⟨h.configured, h.sampleChannel, h.peers, h.channels⟩

theorem Expects.withClock (h : node.Expects participants channel) (clock : ClockMonitorResult) :
    (node.withClock clock).Expects participants channel :=
  ⟨h.configured, h.sampleChannel, h.peers, h.channels⟩

theorem Expects.configureExpectedSamples (h : node.Expects participants channel) :
    node.configureExpectedSamples.Expects participants channel :=
  expects_configureExpectedSamples h.configured h.sampleChannel

theorem Expects.startSession (h : node.Expects participants channel) (epochNs periodNs : Int64)
    (clock : ClockState) :
    (node.startSession epochNs periodNs clock).1.Expects participants channel :=
  startSession_keeps (P := fun node ↦ node.Expects participants channel)
    (fun _ session h ↦ h.withSession session)
    (fun _ _ _ h ↦ ⟨h.configured, h.sampleChannel, h.peers, h.channels⟩)
    (fun _ h ↦ h.configureExpectedSamples)
    (fun _ _ h ↦ ⟨h.configured, h.sampleChannel, h.peers, h.channels⟩) h epochNs periodNs clock

theorem Expects.startCallback (h : node.Expects participants channel)
    (request : StartSessionRequest) (clock : ClockMonitorResult) :
    (node.startCallback request clock).1.Expects participants channel :=
  startCallback_keeps (P := fun node ↦ node.Expects participants channel)
    (fun _ session h ↦ h.withSession session)
    (fun _ _ _ h ↦ ⟨h.configured, h.sampleChannel, h.peers, h.channels⟩)
    (fun _ h ↦ h.configureExpectedSamples)
    (fun _ _ h ↦ ⟨h.configured, h.sampleChannel, h.peers, h.channels⟩)
    ⟨h.configured, h.sampleChannel, h.peers, h.channels⟩ h

theorem Expects.stopCallback (h : node.Expects participants channel)
    (request : StopSessionRequest) (clock : ClockMonitorResult) :
    (node.stopCallback request clock).1.Expects participants channel :=
  ⟨h.configured, h.sampleChannel, h.peers, h.channels⟩

theorem Expects.timerCallback (h : node.Expects participants channel) (now : RosTime)
    (clock : ClockMonitorResult) :
    (node.timerCallback now clock).1.Expects participants channel := by
  rw [SwarmRuntimeNode.timerCallback]
  dsimp only
  split
  · exact ⟨h.configured, h.sampleChannel, h.peers, h.channels⟩
  · exact ⟨h.configured, h.sampleChannel, h.peers, h.channels⟩

/-- The same for a node that is set up. -/
theorem init_keeps {P : SwarmRuntimeNode → Prop}
    (hsession : ∀ node session, P node → P (node.withSession session))
    (htiming : ∀ node epochNs periodNs, P node →
      P { node with config := node.config.withTiming epochNs periodNs })
    (hexpected : ∀ node, P node → P node.configureExpectedSamples)
    (hscheduler : ∀ node scheduler, P node → P { node with scheduler := scheduler })
    (hclock : ∀ node clock, P node → P (node.withClock clock))
    {D : Type} [DoubleArith D] {params : Params D} {now : RosTime}
    (hcreated : ∀ periodNs, P (configureExpectedSamples
      { config := initialConfig params now periodNs
        expectedSampleChannel := params.expectedSampleChannel }))
    {startClock healthClock : ClockMonitorResult}
    (h : init params now startClock healthClock = some node) : P node := by
  unfold init at h
  split at h
  · cases h
  next periodNs _ =>
  have hcreated := hcreated periodNs
  dsimp only at h
  generalize configureExpectedSamples
    { config := initialConfig params now periodNs
      expectedSampleChannel := params.expectedSampleChannel } = created at h hcreated
  split at h
  · cases h
  next session _ =>
  have hready := hsession _ session hcreated
  cases hauto : params.autoStart with
  | false =>
      rw [hauto] at h
      obtain rfl := Option.some.inj h
      exact hclock _ _ hready
  | true =>
      rw [hauto] at h
      obtain rfl := Option.some.inj h
      exact hclock _ _ (startSession_keeps hsession htiming hexpected hscheduler
        (hclock _ startClock hready) created.config.epochNs created.config.periodNs
        startClock.state)

theorem expects_init {D : Type} [DoubleArith D] {params : Params D} {now : RosTime}
    {startClock healthClock : ClockMonitorResult}
    (h : init params now startClock healthClock = some node) :
    node.Expects
      (if params.requiredParticipants ≠ [] then params.requiredParticipants else [params.selfId])
      params.expectedSampleChannel :=
  init_keeps (P := fun node ↦ node.Expects _ _) (fun _ session h ↦ h.withSession session)
    (fun _ _ _ h ↦ ⟨h.configured, h.sampleChannel, h.peers, h.channels⟩)
    (fun _ h ↦ h.configureExpectedSamples)
    (fun _ _ h ↦ ⟨h.configured, h.sampleChannel, h.peers, h.channels⟩)
    (fun _ clock h ↦ h.withClock clock) (fun _ ↦ expects_configureExpectedSamples rfl rfl) h

/-- What a poll leaves behind when it publishes a cycle. -/
theorem timerCallback_published {now : RosTime} {clock : ClockMonitorResult} {event : CycleEvent}
    {cycle : SyncedCycle} (h : (node.timerCallback now clock).2 = some (event, cycle)) :
    (node.timerCallback now clock).1.currentCycle = event.cycleId ∧
      (node.timerCallback now clock).1.lastClockResult = clock ∧
      cycle = (node.timerCallback now clock).1.publishCycle event now := by
  rw [SwarmRuntimeNode.timerCallback] at h ⊢
  dsimp only at h ⊢
  generalize SessionManager.startIfDue _ _ _ = session at h ⊢
  generalize CycleScheduler.tick _ _ _ = ticked at h ⊢
  obtain ⟨scheduler, event'⟩ := ticked
  cases event' with
  | none => cases h
  | some event' =>
      obtain ⟨rfl, rfl⟩ := Prod.mk.inj (Option.some.inj h)
      exact ⟨rfl, rfl, rfl⟩

end SwarmRuntimeNode

/-! ## Snapshots -/

/-- What the loop over the expected samples does not write. -/
theorem SnapshotBuilder.foldl_addView_frame {T β : Type} [TimeArith T] (field : CycleSnapshot T → β)
    (hfield : ∀ snapshot required view, field (addView snapshot required view) = field snapshot)
    (view : ExpectedSample → PeerSampleView T) (expectedSamples : List ExpectedSample)
    (snapshot : CycleSnapshot T) :
    field (expectedSamples.foldl
      (fun snapshot expected ↦ addView snapshot expected.required (view expected)) snapshot) =
        field snapshot := by
  induction expectedSamples generalizing snapshot with
  | nil => rfl
  | cons expected rest ih => rw [List.foldl_cons, ih, hfield]

/-- A snapshot is about the cycle of its request. -/
structure SnapshotBuilder.Describes {T : Type} [TimeArith T] (request : SnapshotBuildRequest)
    (snapshot : CycleSnapshot T) : Prop where
  sessionId : snapshot.sessionId = request.sessionId
  taskId : snapshot.taskId = request.taskId
  cycleId : snapshot.cycleId = request.cycleId
  localClock : snapshot.localClock = request.localClock
  running : snapshot.localRuntime.running = request.localRuntime.running

theorem SnapshotBuilder.build_describes (T : Type) [TimeArith T] (request : SnapshotBuildRequest)
    (buffer : SampleBuffer) : Describes request (build T request buffer) where
  sessionId := foldl_addView_frame CycleSnapshot.sessionId (fun _ _ _ ↦ rfl) _ _ _
  taskId := foldl_addView_frame CycleSnapshot.taskId (fun _ _ _ ↦ rfl) _ _ _
  cycleId := foldl_addView_frame CycleSnapshot.cycleId (fun _ _ _ ↦ rfl) _ _ _
  localClock := foldl_addView_frame CycleSnapshot.localClock (fun _ _ _ ↦ rfl) _ _ _
  running :=
    foldl_addView_frame (fun snapshot ↦ snapshot.localRuntime.running) (fun _ _ _ ↦ rfl) _ _ _

/-! ## Bundles -/

namespace PublishingNode

structure CycleBundle where
  cycle : SyncedCycle
  snapshot : CycleSnapshotMsg
  stats : SampleStats
  links : List NodePublication
  health : RuntimeHealthMsg

def CycleBundle.messages (bundle : CycleBundle) : List NodePublication :=
  .cycle bundle.cycle ::
    (.snapshot bundle.snapshot :: .sampleStats bundle.stats :: bundle.links) ++
    [.health bundle.health]

/-- The cycle that a message names.  Reports on links and on the budget name none. -/
def cycleIdOf? : NodePublication → Option UInt64
  | .cycle msg => some msg.cycleId
  | .snapshot msg => some msg.cycleId
  | .sampleStats msg => some msg.cycleId
  | .weaknetState msg => some msg.cycleId
  | .recommendation msg => some msg.cycleId
  | .health msg => some msg.currentCycle
  | .peerLinkHealth _ | .budget _ => none

def linkPeer? : NodePublication → Option Str
  | .peerLinkHealth msg => some msg.peerId
  | _ => none

/-- The messages agree with each other and with what the node was started with. -/
structure CycleBundle.Coherent (participants : List Str) (channel : Str) (linked : Bool)
    (bundle : CycleBundle) : Prop where
  oneCycle : ∀ message ∈ bundle.messages, ∀ cycleId, cycleIdOf? message = some cycleId →
    cycleId = bundle.cycle.cycleId
  peers : bundle.snapshot.samples.map PeerSampleStatusMsg.peerId = participants
  samples : ∀ sample ∈ bundle.snapshot.samples,
    sample.channel = channel ∧ sample.expectedTargetCycle = bundle.cycle.cycleId
  links : bundle.links.filterMap linkPeer? = if linked then participants else []
  session : bundle.snapshot.sessionId = bundle.cycle.sessionId ∧
    bundle.snapshot.taskId = bundle.cycle.taskId ∧
    bundle.stats.sessionId = bundle.cycle.sessionId ∧
    bundle.health.sessionId = bundle.cycle.sessionId
  running : bundle.health.sessionRunning = bundle.cycle.sessionRunning
  clock : bundle.health.clockOk = bundle.snapshot.localClockOk ∧
    bundle.cycle.runtimeDegraded = !bundle.snapshot.localClockOk
  degraded : bundle.snapshot.runtimeDegraded =
    (!bundle.cycle.sessionRunning || bundle.cycle.runtimeDegraded)

/-- What the node keeps from its start. -/
structure Staffed (participants : List Str) (channel : Str) (linked : Bool)
    (node : PublishingNode) : Prop where
  expects : node.runtime.Expects participants channel
  linked : node.weaknet.weaknetEnabled = linked
  buffer : node.sampleBuffer = .new

section Messages

variable (print : DoubleText) (node : PublishingNode)

/-- What is published about a link names the cycle of the snapshot. -/
theorem cycleIdOf?_publishReport {cycleId : UInt64} {stamp : RosTime} {report : LinkReport}
    {message : NodePublication}
    (h : message ∈ node.publishReport print cycleId stamp report) :
    ∀ named, cycleIdOf? message = some named → named = cycleId := by
  intro named hnamed
  rcases List.mem_append.mp h with hhealth | hadvice
  · rcases List.mem_cons.mp hhealth with rfl | hstate
    · cases hnamed
    · obtain ⟨transition, -, rfl⟩ := List.mem_map.mp hstate
      exact (Option.some.inj hnamed).symm
  · obtain ⟨recommendation, hmem, rfl⟩ := List.mem_map.mp hadvice
    rw [← (Weaknet.RecommendationEngine.peer_evaluate hmem).2.2]
    exact (Option.some.inj hnamed).symm

theorem linkPeer?_publishReport (cycleId : UInt64) (stamp : RosTime) (report : LinkReport) :
    (node.publishReport print cycleId stamp report).filterMap linkPeer? =
      [report.health.peerId] := by
  have hstates : (report.transition.toList.map fun transition ↦ NodePublication.weaknetState
      (node.runtime.toWeakNetStateMsg print transition cycleId stamp)).filterMap linkPeer? =
        [] := by
    rw [List.filterMap_eq_nil_iff]
    intro message hmem
    obtain ⟨transition, -, rfl⟩ := List.mem_map.mp hmem
    rfl
  have hadvice : ((Weaknet.RecommendationEngine.evaluate cycleId report.health
      (some node.weaknetBudget)).map fun recommendation ↦ NodePublication.recommendation
        (node.runtime.toRecommendationMsg print recommendation stamp)).filterMap linkPeer? =
          [] := by
    rw [List.filterMap_eq_nil_iff]
    intro message hmem
    obtain ⟨recommendation, -, rfl⟩ := List.mem_map.mp hmem
    rfl
  rw [publishReport, List.filterMap_append, hadvice, List.append_nil, List.filterMap_cons, hstates]
  rfl

/-- One report for each view. -/
theorem peers_trace (weaknet : WeaknetNode) (views : List (PeerSampleView Int64)) :
    (trace WeaknetNode.observeView weaknet views).map (fun e ↦ e.output.health.peerId) =
      views.map PeerSampleView.peerId := by
  rw [← map_input_trace WeaknetNode.observeView weaknet views, List.map_map]
  simp only [map_input_trace]
  refine List.map_congr_left fun e he ↦ ?_
  obtain ⟨_, _, _, _, houtput⟩ := mem_trace WeaknetNode.observeView he
  rw [houtput]
  exact Weaknet.summarize_peerId _ _ _

theorem linkPeer?_linkMessages (snapshot : CycleSnapshot Int64) (stamp : RosTime) :
    (node.linkMessages print snapshot stamp).filterMap linkPeer? =
      if node.weaknet.weaknetEnabled then snapshot.samples.map PeerSampleView.peerId else [] := by
  rw [linkMessages, List.filterMap_flatMap]
  simp only [linkPeer?_publishReport]
  cases henabled : node.weaknet.weaknetEnabled with
  | false =>
      rw [WeaknetNode.publishWeaknet, if_pos henabled]
      rfl
  | true =>
      rw [(WeaknetNode.publishWeaknet_links henabled snapshot).1, ← List.map_eq_flatMap,
        List.map_map, if_pos rfl, ← peers_trace node.weaknet snapshot.samples]
      rfl

theorem samples_buildSnapshot (event : CycleEvent) (clock : ClockState) :
    (node.buildSnapshot event clock).samples = node.runtime.expectedSamples.map
      (SnapshotBuilder.viewOf Int64 (node.snapshotRequest event clock) node.sampleBuffer) :=
  SnapshotBuilder.build_samples Int64 _ _

end Messages

section Coherence

variable {participants : List Str} {channel : Str} {linked : Bool} (print : DoubleText)
  {node : PublishingNode} {event : CycleEvent} {clock : ClockMonitorResult}

theorem peers_buildSnapshot (h : node.runtime.Expects participants channel) (event : CycleEvent)
    (clock : ClockState) :
    (node.buildSnapshot event clock).samples.map PeerSampleView.peerId = participants := by
  rw [samples_buildSnapshot, List.map_map, ← h.peers]
  exact List.map_congr_left fun expected _ ↦ (SnapshotBuilder.viewOf_for Int64 _ _ expected).peerId

theorem coherent_bundle (h : Staffed participants channel linked node)
    (hcurrent : node.runtime.currentCycle = event.cycleId)
    (hclock : node.runtime.lastClockResult = clock) (now healthStamp : RosTime) :
    let snapshot := node.buildSnapshot event clock.state
    CycleBundle.Coherent participants channel linked
      ⟨node.runtime.publishCycle event now, node.runtime.toSnapshotMsg snapshot now,
        node.runtime.toSampleStatsMsg snapshot now, node.linkMessages print snapshot now,
        (node.withLinks snapshot).publishHealth healthStamp⟩ := by
  intro snapshot
  have hdescribes : SnapshotBuilder.Describes (node.snapshotRequest event clock.state) snapshot :=
    SnapshotBuilder.build_describes Int64 _ _
  have hstats (β : Type) (field : SampleStats → β)
      (hfield : ∀ msg (sample : PeerSampleView Int64), field (msg.countFlags sample) = field msg) :=
    SampleStats.foldl_countFlags field hfield snapshot.samples
  refine ⟨?_, ?_, ?_, ?_, ?_, rfl, ?_, ?_⟩
  · intro message hmem named hnamed
    rcases List.mem_append.mp hmem with hmem | hmem
    · rcases List.mem_cons.mp hmem with rfl | hmem
      · exact (Option.some.inj hnamed).symm
      rcases List.mem_cons.mp hmem with rfl | hmem
      · exact (Option.some.inj hnamed).symm.trans hdescribes.cycleId
      rcases List.mem_cons.mp hmem with rfl | hmem
      · refine (Option.some.inj hnamed).symm.trans ?_
        exact (hstats _ SampleStats.cycleId (fun _ _ ↦ rfl) _).trans hdescribes.cycleId
      · obtain ⟨report, -, hreport⟩ := List.mem_flatMap.mp hmem
        exact (cycleIdOf?_publishReport print node hreport named hnamed).trans hdescribes.cycleId
    · rw [List.mem_singleton.mp hmem] at hnamed
      exact (Option.some.inj hnamed).symm.trans hcurrent
  · rw [← peers_buildSnapshot h.expects event clock.state]
    exact List.map_map
  · intro sample hsample
    obtain ⟨view, hview, rfl⟩ := List.mem_map.mp hsample
    rw [samples_buildSnapshot] at hview
    obtain ⟨expected, hexpected, rfl⟩ := List.mem_map.mp hview
    have hfor := SnapshotBuilder.viewOf_for Int64 (node.snapshotRequest event clock.state)
      node.sampleBuffer expected
    exact ⟨hfor.channel.trans (h.expects.channels expected hexpected), hfor.cycle⟩
  · rw [← h.linked, ← peers_buildSnapshot h.expects event clock.state]
    exact linkPeer?_linkMessages print node snapshot now
  · exact ⟨hdescribes.sessionId, hdescribes.taskId,
      (hstats _ SampleStats.sessionId (fun _ _ ↦ rfl) _).trans hdescribes.sessionId, rfl⟩
  · have hok : snapshot.localClock.clockOk = clock.state.clockOk :=
      congrArg ClockState.clockOk hdescribes.localClock
    have hlast : node.runtime.lastClockResult.state.clockOk = clock.state.clockOk :=
      congrArg (fun result : ClockMonitorResult ↦ result.state.clockOk) hclock
    exact ⟨hlast.trans hok.symm, congrArg Bool.not (hlast.trans hok.symm)⟩
  · have hok : snapshot.localClock.clockOk = node.runtime.lastClockResult.state.clockOk := by
      rw [hdescribes.localClock, hclock]
      rfl
    exact congrArg₂ (fun running clockOk ↦ !running || !clockOk) hdescribes.running hok

end Coherence

/-! ## Runs -/

/-- The participants of a node that starts with the parameters. -/
def InitParams.participants (params : InitParams) : List Str :=
  if params.requiredParticipants ≠ [] then params.requiredParticipants else [params.selfId]

section Runs

variable {participants : List Str} {channel : Str} {linked : Bool} (print : DoubleText)
  {node : PublishingNode}

theorem Staffed.withRuntime (h : Staffed participants channel linked node)
    {runtime : SwarmRuntimeNode} (hexpects : runtime.Expects participants channel) :
    Staffed participants channel linked (node.withRuntime runtime) :=
  ⟨hexpects, h.linked, h.buffer⟩

theorem Staffed.withLinks (h : Staffed participants channel linked node)
    (snapshot : CycleSnapshot Int64) :
    Staffed participants channel linked (node.withLinks snapshot) :=
  ⟨h.expects, (node.weaknet.weaknetEnabled_publishWeaknet snapshot).trans h.linked, h.buffer⟩

theorem Staffed.polled (h : Staffed participants channel linked node) (now : RosTime)
    (clock : ClockMonitorResult) : Staffed participants channel linked (node.polled now clock) :=
  h.withRuntime (h.expects.timerCallback now clock)

theorem Staffed.step (h : Staffed participants channel linked node) (call : PublishingCall) :
    Staffed participants channel linked (node.step print call).1 := by
  cases call with
  | start request clock => exact h.withRuntime (h.expects.startCallback request clock)
  | stop request clock healthStamp => exact h.withRuntime (h.expects.stopCallback request clock)
  | status clock => exact h.withRuntime (h.expects.withClock clock)
  | timer now clock healthStamp =>
      rw [step_timer]
      cases hpoll : (node.runtime.timerCallback now clock).2 with
      | none =>
          rw [timerCallback_of_none print hpoll]
          exact h.polled now clock
      | some published =>
          rw [timerCallback_of_some print hpoll]
          exact (h.polled now clock).withLinks _

/-- What is published in answer to a call. -/
def Publishes (participants : List Str) (channel : Str) (linked : Bool) (call : PublishingCall)
    (published : List NodePublication) : Prop :=
  match call with
  | .start .. | .status _ => published = []
  | .stop .. => ∃ health, published = [.health health]
  | .timer .. => published = [] ∨ ∃ bundle : CycleBundle,
      published = bundle.messages ∧ bundle.Coherent participants channel linked

theorem Staffed.publishes (h : Staffed participants channel linked node) (call : PublishingCall) :
    Publishes participants channel linked call (node.step print call).2.published := by
  cases call with
  | start request clock => rfl
  | stop request clock healthStamp => exact ⟨_, rfl⟩
  | status clock => rfl
  | timer now clock healthStamp =>
      rw [step_timer]
      cases hpoll : (node.runtime.timerCallback now clock).2 with
      | none =>
          rw [timerCallback_of_none print hpoll]
          exact Or.inl rfl
      | some published =>
          obtain ⟨event, cycle⟩ := published
          obtain ⟨hcurrent, hclock, rfl⟩ := SwarmRuntimeNode.timerCallback_published hpoll
          rw [timerCallback_of_some print hpoll]
          exact Or.inr ⟨_, rfl,
            coherent_bundle print (h.polled now clock) hcurrent hclock now healthStamp⟩

theorem Staffed.publishes_run (h : Staffed participants channel linked node)
    (calls : List PublishingCall) :
    ∀ e ∈ trace (PublishingNode.step print) node calls,
      Publishes participants channel linked e.input e.output.published := by
  intro e he
  have hstaffed : Staffed participants channel linked e.state :=
    (invariant_trace (I := Staffed participants channel linked) (G := fun _ _ ↦ True)
      (fun _ call h _ ↦ Staffed.step print h call) h fun _ _ ↦ trivial).1 e he
  obtain ⟨_, _, _, _, houtput⟩ := mem_trace (PublishingNode.step print) he
  rw [houtput]
  exact hstaffed.publishes print e.input

theorem init_parts {params : InitParams} {now : RosTime}
    {startClock healthClock : ClockMonitorResult} {stamps : RosTime × RosTime}
    {published : List NodePublication}
    (h : init print params now startClock healthClock stamps = some (node, published)) :
    SwarmRuntimeNode.init params.toParams now startClock healthClock = some node.runtime ∧
      node.weaknet = { weaknetEnabled := params.weaknetEnabled } ∧ node.sampleBuffer = .new := by
  unfold init at h
  split at h
  · cases h
  next adapterSummary _ =>
  split at h
  · cases h
  next runtime hruntime =>
  split at h
  · cases h
  next weaknetBudget weaknetSummary _ =>
  obtain ⟨rfl, -⟩ := Prod.mk.inj (Option.some.inj h)
  exact ⟨hruntime, rfl, rfl⟩

theorem staffed_init {params : InitParams} {now : RosTime}
    {startClock healthClock : ClockMonitorResult} {stamps : RosTime × RosTime}
    {published : List NodePublication}
    (h : init print params now startClock healthClock stamps = some (node, published)) :
    Staffed params.participants params.expectedSampleChannel params.weaknetEnabled node := by
  obtain ⟨hruntime, hweaknet, hbuffer⟩ := init_parts print h
  exact ⟨SwarmRuntimeNode.expects_init hruntime, congrArg WeaknetNode.weaknetEnabled hweaknet,
    hbuffer⟩

end Runs

/-! A node that has started by itself, with the defaults of the parameters. -/

def sixDecimals (value : ℚ) : Str :=
  let scaled := (|value| * 1000000 + 1 / 2).floor.toNat
  (if value < 0 then text "-" else []) ++ text (toString (scaled / 1000000)) ++ text "." ++
    (text (toString (1000000 + scaled % 1000000))).tail

/-- How numbers that are not too large are printed when they have no more than
six digits. -/
def plainText : DoubleText where
  stream value :=
    if value.den = 1 then text (toString value.num)
    else (sixDecimals value).rdropWhile fun c ↦ c = byte '0'
  fixed := sixDecimals

def demoInit : PublishingNode × List NodePublication :=
  (init plainText {} ⟨1000, 0⟩ SwarmRuntimeNode.goodClock SwarmRuntimeNode.goodClock
    (⟨1000, 0⟩, ⟨1000, 0⟩)).get (by decide +kernel)

theorem init_demoInit :
    init plainText {} ⟨1000, 0⟩ SwarmRuntimeNode.goodClock SwarmRuntimeNode.goodClock
      (⟨1000, 0⟩, ⟨1000, 0⟩) = some (demoInit.1, demoInit.2) := (Option.some_get _).symm

/-- The second cycle after a start at the epoch. -/
def demoCall : PublishingCall :=
  .timer ⟨1000, 200000000⟩ SwarmRuntimeNode.goodClock ⟨1000, 200000000⟩

end PublishingNode

end RuntimeSync
