import RuntimeSync.Core.Weaknet.Convergence
import RuntimeSync.Core.Weaknet.Reception
import RuntimeSync.Ros1.CycleBundles

/-!
# A swarm without samples

Nothing reaches the sample buffer of the node.  Its snapshots mark every
expected entry missing, and each link goes from good over congested to
partitioned and stays there.
-/

namespace RuntimeSync

open Machine Weaknet

/-! ## One link -/

/-- What is reported about a link that has observed missing samples only. -/
structure LinkReport.Silent (report : LinkReport) : Prop where
  fresh : report.health.freshRatio = 0
  missing : report.health.missingRatio = 1
  state : report.state = .congested ∨ report.state = .partitioned
  change : ∀ change ∈ report.change,
    change = (.good, .congested) ∨ change = (.congested, .partitioned)

namespace Weaknet

theorem LinkState.eq_congested_of_code {state : LinkState} (h : state.code = 2) :
    state = .congested := by
  cases state with
  | congested => rfl
  | good => cases h
  | degraded => cases h
  | partitioned => cases h
  | recovering => cases h

/-- The state of a link with so many observations, none of them fresh. -/
def silentState (observed : ℕ) : LinkState :=
  if observed = 0 then .good else if observed < 3 then .congested else .partitioned

theorem silentState_of_le {observed : ℕ} (h : 3 ≤ observed) :
    silentState observed = .partitioned := by
  rw [silentState, if_neg (by omega), if_neg (by omega)]

/-- Where one more observation leads, in a window that holds three or more. -/
theorem silentState_step {observed room : ℕ} (hroom : 3 ≤ room)
    (hne : silentState observed ≠ silentState (min room (observed + 1))) :
    (silentState observed, silentState (min room (observed + 1))) = (.good, .congested) ∨
      (silentState observed, silentState (min room (observed + 1))) =
        (.congested, .partitioned) := by
  obtain rfl | rfl | rfl | hmany : observed = 0 ∨ observed = 1 ∨ observed = 2 ∨ 3 ≤ observed := by
    omega
  · rw [Nat.min_eq_right (by omega)]
    exact Or.inl rfl
  · rw [Nat.min_eq_right (by omega)] at hne
    exact absurd rfl hne
  · rw [Nat.min_eq_right hroom]
    exact Or.inr rfl
  · rw [silentState_of_le hmany, silentState_of_le (le_min hroom (by omega))] at hne
    exact absurd rfl hne

/-- A link that has observed missing samples only. -/
structure Link.Silent (link : Link) : Prop where
  room : 3 ≤ link.window.maxSamples
  missing : ∀ sample ∈ link.window.samples, sample.status = .missing
  state : link.machine.current = silentState link.window.size

namespace LinkHealthWindow

variable {window : LinkHealthWindow}

theorem statusCount_fresh_of_missing (h : ∀ sample ∈ window.samples, sample.status = .missing) :
    window.statusCount .fresh = 0 :=
  statusCount_eq_zero fun sample hsample ↦ by
    rw [h sample hsample]
    decide

theorem summarize_of_missing (hpos : 0 < window.size)
    (h : ∀ sample ∈ window.samples, sample.status = .missing) (peerId channel : Str) :
    (window.summarize peerId channel).freshRatio = 0 ∧
      (window.summarize peerId channel).missingRatio = 1 ∧
      (window.summarize peerId channel).state = silentState window.size := by
  obtain ⟨hfresh, -, hmissing⟩ := summarize_ratios peerId channel hpos
  have hnone := statusCount_fresh_of_missing h
  refine ⟨?_, ?_, ?_⟩
  · rw [hfresh, hnone, Nat.cast_zero, zero_div]
  · rw [hmissing, statusCount_eq_size h]
    exact div_self (Nat.cast_ne_zero.mpr hpos.ne')
  · have hcode := summarize_code hpos peerId channel
    have hcongested : window.LooksCongested := Or.inl (by omega)
    rw [silentState, if_neg hpos.ne']
    split
    · next hfew =>
        have hnot : ¬window.LooksPartitioned := fun hparted ↦ by
          have := hparted.2
          omega
        rw [if_neg hnot, if_pos hcongested] at hcode
        exact LinkState.eq_congested_of_code hcode
    · next hmany =>
        exact (summarize_partitioned_iff peerId channel).mpr (Or.inr ⟨hnone, by omega⟩)

end LinkHealthWindow

namespace Link

variable {link : Link} {view : PeerSampleView Int64}

theorem silent_new : Silent new where
  room := by decide
  missing sample hsample := absurd hsample List.not_mem_nil
  state := rfl

theorem missing_windowWith (h : link.Silent) (hview : view.status = .missing) :
    ∀ sample ∈ (link.windowWith view).samples, sample.status = .missing := by
  intro sample hsample
  rcases List.mem_append.mp (mem_of_mem_rtake hsample) with hold | hnew
  · exact h.missing sample hold
  · rw [List.mem_singleton.mp hnew]
    exact hview

theorem Silent.next (h : link.Silent) (hview : view.status = .missing) :
    (link.observeView view).2.state = silentState (link.windowWith view).size := by
  have hmissing := missing_windowWith h hview
  have hsize : (link.windowWith view).size = min link.window.maxSamples (link.window.size + 1) :=
    link.window.size_observe _
  have hroom := h.room
  have hpos : 0 < (link.windowWith view).size := by omega
  have hstate := (LinkHealthWindow.summarize_of_missing hpos hmissing view.peerId view.channel).2.2
  rw [observeView_next]
  by_cases hmany : 3 ≤ (link.windowWith view).size
  · rw [silentState_of_le hmany]
    exact WeaknetStateMachine.next_of_noneFresh _ _
      (LinkHealthWindow.statusCount_fresh_of_missing hmissing) hmany
  · -- The link was good or congested, and from there the machine follows the summary.
    have hbefore : link.machine.current = .good ∨ link.machine.current = .congested := by
      rw [h.state, silentState]
      split
      · exact Or.inl rfl
      · exact Or.inr (if_pos (by omega))
    rw [← hstate]
    rcases hbefore with hbefore | hbefore
    · rw [hbefore]
      rfl
    · rw [hbefore, WeaknetStateMachine.next_congested]

theorem Silent.observeView (h : link.Silent) (hview : view.status = .missing) :
    (link.observeView view).1.Silent where
  room := h.room
  missing := missing_windowWith h hview
  state := h.next hview

theorem Silent.report (h : link.Silent) (hview : view.status = .missing) :
    (link.observeView view).2.Silent := by
  have hsize : (link.windowWith view).size = min link.window.maxSamples (link.window.size + 1) :=
    link.window.size_observe _
  have hroom := h.room
  have hpos : 0 < (link.windowWith view).size := by omega
  obtain ⟨hfresh, hmissing, -⟩ := LinkHealthWindow.summarize_of_missing hpos
    (missing_windowWith h hview) view.peerId view.channel
  refine ⟨hfresh, hmissing, ?_, ?_⟩
  · rw [h.next hview, silentState, if_neg hpos.ne']
    split
    · exact Or.inl rfl
    · exact Or.inr rfl
  · intro change hchange
    rw [observeView_change, h.next hview, h.state] at hchange
    split at hchange
    · cases hchange
    · next hne =>
        rw [← Option.some.inj hchange, hsize]
        rw [hsize] at hne
        exact silentState_step hroom hne

end Link

end Weaknet

/-! ## The node -/

namespace WeaknetNode

/-- All links have observed missing samples only. -/
def Silent (node : WeaknetNode) : Prop := ∀ key, (node.linkOf key).Silent

theorem silent_of_no_links (weaknetEnabled : Bool) :
    Silent { weaknetEnabled := weaknetEnabled } := fun _ ↦ Link.silent_new

theorem Silent.observeView {node : WeaknetNode} (h : node.Silent) {view : PeerSampleView Int64}
    (hview : view.status = .missing) : (node.observeView view).1.Silent := by
  intro key
  rw [linkOf_observeView]
  split
  · exact (h (viewKey view)).observeView hview
  · exact h key

theorem Silent.publishWeaknet {node : WeaknetNode} (h : node.Silent)
    {snapshot : CycleSnapshot Int64} (hviews : ∀ view ∈ snapshot.samples, view.status = .missing) :
    (node.publishWeaknet snapshot).1.Silent ∧
      ∀ report ∈ (node.publishWeaknet snapshot).2, report.Silent := by
  cases henabled : node.weaknetEnabled with
  | false =>
      rw [WeaknetNode.publishWeaknet, if_pos henabled]
      exact ⟨h, fun report hreport ↦ absurd hreport List.not_mem_nil⟩
  | true =>
      obtain ⟨hreports, hlinks⟩ := publishWeaknet_links henabled snapshot
      have hinputs : ∀ e ∈ trace WeaknetNode.observeView node snapshot.samples,
          e.input.status = .missing := fun e he ↦ hviews _ (trace_input_mem _ he)
      obtain ⟨hstates, hrun⟩ := invariant_trace (I := Silent)
        (G := fun _ (view : PeerSampleView Int64) ↦ view.status = .missing)
        (fun _ _ h hview ↦ h.observeView hview) h hinputs
      constructor
      · intro key
        rw [hlinks]
        exact hrun key
      · intro report hreport
        rw [hreports] at hreport
        obtain ⟨e, he, rfl⟩ := List.mem_map.mp hreport
        obtain ⟨_, _, _, _, houtput⟩ := mem_trace WeaknetNode.observeView he
        rw [houtput, links_family.output]
        exact (hstates e he _).report (hinputs e he)

end WeaknetNode

namespace PublishingNode

/-- What is published about samples that are all missing. -/
def Silent (expected : ℕ) : NodePublication → Prop
  | .snapshot msg => ∀ sample ∈ msg.samples, sample.status = SampleStatus.missing.code
  | .sampleStats msg => msg.receivedCount = 0 ∧ msg.missingCount.toNat = expected % 2 ^ 32
  | .peerLinkHealth msg => msg.freshRatio = 0 ∧ msg.missingRatio = 1 ∧
      (msg.state = LinkState.congested.code ∨ msg.state = LinkState.partitioned.code)
  | .weaknetState msg =>
      (msg.previousState, msg.currentState) = (LinkState.good.code, LinkState.congested.code) ∨
        (msg.previousState, msg.currentState) =
          (LinkState.congested.code, LinkState.partitioned.code)
  | .cycle _ | .recommendation _ | .health _ | .budget _ => True

variable {participants : List Str} {channel : Str} {linked : Bool} (print : DoubleText)
  {node : PublishingNode}

theorem missing_buildSnapshot (hbuffer : node.sampleBuffer = .new) (event : CycleEvent)
    (clock : ClockState) :
    ∀ view ∈ (node.buildSnapshot event clock).samples, view.status = .missing := by
  rw [samples_buildSnapshot, hbuffer, List.forall_mem_map]
  intro expected _
  exact SnapshotBuilder.viewOf_of_find_none Int64 (KeyedMap.get?_empty _)

theorem silent_publishReport {report : LinkReport} (h : report.Silent) (expected : ℕ)
    (cycleId : UInt64) (stamp : RosTime) :
    ∀ message ∈ node.publishReport print cycleId stamp report, Silent expected message := by
  intro message hmessage
  rcases List.mem_append.mp hmessage with hhealth | hadvice
  · rcases List.mem_cons.mp hhealth with rfl | hstate
    · exact ⟨h.fresh, h.missing, h.state.imp (congrArg LinkState.code) (congrArg LinkState.code)⟩
    · obtain ⟨transition, htransition, rfl⟩ := List.mem_map.mp hstate
      have hchange : report.change = some (transition.previous, transition.current) := by
        rw [LinkReport.change, Option.mem_toList.mp htransition]
        rfl
      rcases h.change _ hchange with heq | heq
      · obtain ⟨hprevious, hcurrent⟩ := Prod.mk.inj heq
        exact Or.inl (congrArg₂ (fun s t ↦ (LinkState.code s, LinkState.code t)) hprevious hcurrent)
      · obtain ⟨hprevious, hcurrent⟩ := Prod.mk.inj heq
        exact Or.inr (congrArg₂ (fun s t ↦ (LinkState.code s, LinkState.code t)) hprevious hcurrent)
  · obtain ⟨recommendation, -, rfl⟩ := List.mem_map.mp hadvice
    trivial

theorem silent_stats (h : Staffed participants channel linked node) (event : CycleEvent)
    (clock : ClockState) (stamp : RosTime) :
    Silent participants.length
      (.sampleStats (node.runtime.toSampleStatsMsg (node.buildSnapshot event clock) stamp)) := by
  have hmissing := missing_buildSnapshot h.buffer event clock
  have hclass : ∀ view ∈ (node.buildSnapshot event clock).samples, view.toClass = .missing :=
    fun view hview ↦ congrArg SampleStatus.toClass (hmissing view hview)
  have hnone (c : StatusClass) (hc : StatusClass.missing ≠ c) :
      (node.buildSnapshot event clock).stats.read c = 0 := by
    apply UInt32.toNat_inj.mp
    rw [buildSnapshot, SnapshotBuilder.toNat_read_build, ← buildSnapshot,
      tally_eq_zero_iff.mpr fun view hview ↦ (hclass view hview).trans_ne hc]
    rfl
  have hall : ((node.buildSnapshot event clock).stats.read .missing).toNat =
      participants.length % 2 ^ 32 := by
    rw [buildSnapshot, SnapshotBuilder.toNat_read_build, ← buildSnapshot,
      ← peers_buildSnapshot h.expects event clock, List.length_map, tally,
      List.countP_eq_length.mpr fun view hview ↦ decide_eq_true (hclass view hview)]
  constructor
  · rw [SwarmRuntimeNode.receivedCount_toSampleStatsMsg]
    exact congrArg₂ (· + ·) (hnone .fresh (by decide)) (hnone .late (by decide))
  · rw [SwarmRuntimeNode.missingCount_toSampleStatsMsg]
    exact hall

/-- The node of a swarm that is silent. -/
structure Alone (participants : List Str) (channel : Str) (linked : Bool)
    (node : PublishingNode) : Prop where
  staffed : Staffed participants channel linked node
  links : node.weaknet.Silent

theorem Alone.withRuntime (h : Alone participants channel linked node)
    {runtime : SwarmRuntimeNode} (hexpects : runtime.Expects participants channel) :
    Alone participants channel linked (node.withRuntime runtime) :=
  ⟨h.staffed.withRuntime hexpects, h.links⟩

theorem Alone.polled (h : Alone participants channel linked node) (now : RosTime)
    (clock : ClockMonitorResult) : Alone participants channel linked (node.polled now clock) :=
  h.withRuntime (h.staffed.expects.timerCallback now clock)

/-- The messages of a cycle. -/
theorem Alone.publish (h : Alone participants channel linked node) (event : CycleEvent)
    (clock : ClockState) (cycle : SyncedCycle) (health : RuntimeHealthMsg) (now : RosTime) :
    Alone participants channel linked (node.withLinks (node.buildSnapshot event clock)) ∧
      ∀ message ∈ NodePublication.cycle cycle ::
        (.snapshot (node.runtime.toSnapshotMsg (node.buildSnapshot event clock) now) ::
          .sampleStats (node.runtime.toSampleStatsMsg (node.buildSnapshot event clock) now) ::
          node.linkMessages print (node.buildSnapshot event clock) now) ++ [.health health],
        Silent participants.length message := by
  have hmissing := missing_buildSnapshot h.staffed.buffer event clock
  obtain ⟨hlinks, hreports⟩ := h.links.publishWeaknet hmissing
  refine ⟨⟨h.staffed.withLinks _, hlinks⟩, fun message hmessage ↦ ?_⟩
  rcases List.mem_append.mp hmessage with hmessage | hmessage
  · rcases List.mem_cons.mp hmessage with rfl | hmessage
    · trivial
    rcases List.mem_cons.mp hmessage with rfl | hmessage
    · intro sample hsample
      obtain ⟨view, hview, rfl⟩ := List.mem_map.mp hsample
      exact congrArg SampleStatus.code (hmissing view hview)
    rcases List.mem_cons.mp hmessage with rfl | hmessage
    · exact silent_stats h.staffed event clock now
    · obtain ⟨report, hreport, hmessage⟩ := List.mem_flatMap.mp hmessage
      exact silent_publishReport print (hreports report hreport) _ _ _ message hmessage
  · rw [List.mem_singleton.mp hmessage]
    trivial

theorem Alone.step (h : Alone participants channel linked node) (call : PublishingCall) :
    Alone participants channel linked (node.step print call).1 ∧
      ∀ message ∈ (node.step print call).2.published, Silent participants.length message := by
  cases call with
  | start request clock =>
      exact ⟨h.withRuntime (h.staffed.expects.startCallback request clock),
        fun message hmessage ↦ absurd hmessage List.not_mem_nil⟩
  | stop request clock healthStamp =>
      refine ⟨h.withRuntime (h.staffed.expects.stopCallback request clock),
        fun message hmessage ↦ ?_⟩
      rw [List.mem_singleton.mp hmessage]
      trivial
  | status clock =>
      exact ⟨h.withRuntime (h.staffed.expects.withClock clock),
        fun message hmessage ↦ absurd hmessage List.not_mem_nil⟩
  | timer now clock healthStamp =>
      rw [step_timer]
      cases hpoll : (node.runtime.timerCallback now clock).2 with
      | none =>
          rw [timerCallback_of_none print hpoll]
          exact ⟨h.polled now clock, fun message hmessage ↦ absurd hmessage List.not_mem_nil⟩
      | some published =>
          obtain ⟨event, cycle⟩ := published
          rw [timerCallback_of_some print hpoll]
          exact (h.polled now clock).publish print event clock.state cycle _ now

/-- Whatever is called, the node reports every sample missing and no link
better than congested. -/
theorem publishes_silence {params : InitParams} {now : RosTime}
    {startClock healthClock : ClockMonitorResult} {stamps : RosTime × RosTime}
    {published : List NodePublication}
    (hinit : init print params now startClock healthClock stamps = some (node, published))
    (calls : List PublishingCall) :
    ∀ e ∈ trace (step print) node calls, ∀ message ∈ e.output.published,
      Silent params.participants.length message := by
  have halone : Alone params.participants params.expectedSampleChannel params.weaknetEnabled
      node := by
    refine ⟨staffed_init print hinit, ?_⟩
    rw [(init_parts print hinit).2.1]
    exact WeaknetNode.silent_of_no_links _
  intro e he
  have hstate := (invariant_trace
    (I := Alone params.participants params.expectedSampleChannel params.weaknetEnabled)
    (G := fun _ _ ↦ True) (fun _ call h _ ↦ (h.step print call).1) halone fun _ _ ↦ trivial).1 e he
  obtain ⟨_, _, _, _, houtput⟩ := mem_trace (step print) he
  rw [houtput]
  exact (hstate.step print e.input).2

theorem demoNode_reports_silence :
    (demoInit.1.step plainText demoCall).2.published.isEmpty = false ∧
      ∀ message ∈ (demoInit.1.step plainText demoCall).2.published, Silent 1 message := by
  refine ⟨by decide +kernel, ?_⟩
  exact publishes_silence plainText init_demoInit [demoCall] _
    (by rw [trace_cons]; exact List.mem_cons_self ..)

end PublishingNode

end RuntimeSync
