import RuntimeSync.Ros1.ClockSampling
import RuntimeSync.Ros1.CycleBundles

/-!
# The node and its clock

The node samples its clock in each callback.  Before it does so it reads the
parameter for the phase again, and where it finds none it goes by the text that
it has found last.  So a sample depends on the samples before it.
-/

namespace RuntimeSync

open Machine
open PublishingNode (PublishingCall PublishingOutput)

/-- What there is to read when the clock is sampled. -/
structure ClockReading where
  /-- The parameter for the phase, when there is one and it is a text. -/
  clockPhase : Option Str
  /-- The commands that can be run, with their exit status and their output. -/
  runner : Str → ℤ × Str

/-- The node with the members that its clock samples are taken with. -/
structure ClockedNode where
  node : PublishingNode := {}
  clockSource : ClockSource := {}
  clockPhaseParam : Str := text "preflight"

inductive ClockedCall where
  | start (request : StartSessionRequest) (reading : ClockReading)
  | stop (request : StopSessionRequest) (reading : ClockReading) (healthStamp : RosTime)
  | status (reading : ClockReading)
  | timer (now : RosTime) (reading : ClockReading) (healthStamp : RosTime)

namespace ClockedCall

def reading : ClockedCall → ClockReading
  | start _ reading | stop _ reading _ | status reading | timer _ reading _ => reading

/-- The call with the sample that is taken in answer to it. -/
def sampled (clock : ClockMonitorResult) : ClockedCall → PublishingCall
  | start request _ => .start request clock
  | stop request _ healthStamp => .stop request clock healthStamp
  | status _ => .status clock
  | timer now _ healthStamp => .timer now clock healthStamp

def IsStatus : ClockedCall → Prop
  | status _ => True
  | start .. | stop .. | timer .. => False

instance : DecidablePred IsStatus
  | status _ => isTrue trivial
  | start .. | stop .. | timer .. => isFalse id

theorem not_isStatus_sampled {call : ClockedCall} (h : ¬call.IsStatus)
    (clock : ClockMonitorResult) : ¬PublishingNode.IsStatus (call.sampled clock) := by
  cases call with
  | status reading => exact absurd trivial h
  | start request reading => exact id
  | stop request reading healthStamp => exact id
  | timer now reading healthStamp => exact id

end ClockedCall

/-! ## The last sample -/

namespace SwarmRuntimeNode

variable {node : SwarmRuntimeNode} (clock : ClockMonitorResult)

theorem answered_fst (outcome : SwarmRuntimeNode × Bool) : (answered outcome).1 = outcome.1 := by
  obtain ⟨node, started⟩ := outcome
  cases started with
  | false => rfl
  | true => rfl

theorem lastClock_startCallback {request : StartSessionRequest} (hperiod : PeriodOk node request) :
    (node.startCallback request clock).1.lastClockResult = clock := by
  rw [startCallback_eq hperiod, answered_fst]
  exact startSession_keeps (P := fun node ↦ node.lastClockResult = clock) (fun _ _ h ↦ h)
    (fun _ _ _ h ↦ h) (fun _ h ↦ h) (fun _ _ h ↦ h) rfl _ _ _

theorem lastClock_timerCallback (now : RosTime) :
    (node.timerCallback now clock).1.lastClockResult = clock := by
  rw [timerCallback]
  dsimp only
  split
  · rfl
  · rfl

theorem lastClock_init {D : Type} [DoubleArith D] {params : Params D} {now : RosTime}
    {startClock healthClock : ClockMonitorResult}
    (h : init params now startClock healthClock = some node) :
    node.lastClockResult = healthClock := by
  unfold init at h
  split at h
  · cases h
  dsimp only at h
  split at h
  · cases h
  split at h
  · exact Option.some.inj h ▸ rfl
  · exact Option.some.inj h ▸ rfl

end SwarmRuntimeNode

namespace ClockedNode

section Step

variable (D : Type) [DoubleArith D] (print : DoubleText)

def sampleClock (node : ClockedNode) (reading : ClockReading) :
    ClockedNode × ClockMonitorResult :=
  let clockPhaseParam := reading.clockPhase.getD node.clockPhaseParam
  ({ node with clockPhaseParam := clockPhaseParam },
    node.clockSource.sampleClock D reading.runner clockPhaseParam)

/-- A request is refused for its period before the clock is sampled. -/
def Samples (node : ClockedNode) : ClockedCall → Prop
  | .start request _ => SwarmRuntimeNode.PeriodOk node.node.runtime request
  | .stop .. | .status _ | .timer .. => True

instance (node : ClockedNode) : DecidablePred node.Samples
  | .start request _ => inferInstanceAs
      (Decidable (SwarmRuntimeNode.PeriodOk node.node.runtime request))
  | .stop .. | .status _ | .timer .. => isTrue trivial

/-- The call as the callback goes on with it. -/
def sampledCall (node : ClockedNode) (call : ClockedCall) : PublishingCall :=
  call.sampled (node.sampleClock D call.reading).2

/-- The members of the clock are used for nothing else, and so it does not
matter at which point of its callback a sample is taken.  A request that is
refused for its period does not look at one. -/
def step (node : ClockedNode) (call : ClockedCall) : ClockedNode × PublishingOutput :=
  let answered := PublishingNode.step print node.node (node.sampledCall D call)
  let sampled := if node.Samples call then (node.sampleClock D call.reading).1 else node
  ({ sampled with node := answered.1 }, answered.2)

/-- `clockSource` and `clockPhase` are what `loadClockPolicy` finds. -/
def init (params : PublishingNode.InitParams) (clockSource : ClockSource)
    (clockPhase : Option Str) (now : RosTime) (startReading healthReading : ClockReading)
    (stamps : RosTime × RosTime) : Option (ClockedNode × List NodePublication) :=
  let loaded : ClockedNode :=
    { clockSource := clockSource, clockPhaseParam := clockPhase.getD (text "preflight") }
  let started := if params.autoStart then loaded.sampleClock D startReading else (loaded, {})
  let sampled := started.1.sampleClock D healthReading
  match PublishingNode.init print params now started.2 sampled.2 stamps with
  | none => none
  | some (node, published) => some ({ sampled.1 with node := node }, published)

end Step

section Runs

variable (D : Type) [DoubleArith D] (print : DoubleText)

/-- A run is a run of the node without its clock on the samples that are taken
in it, and so what is known of the runs of that node is known here. -/
theorem drives : Drives (step D print) (PublishingNode.step print) ClockedNode.node
    (sampledCall D) where
  state _ _ := rfl
  output _ _ := rfl

/-! ## What is kept of a sample -/

section Step

variable (node : ClockedNode) (call : ClockedCall)

theorem clockSource_step : (node.step D print call).1.clockSource = node.clockSource := by
  rw [step]
  dsimp only
  split
  · rfl
  · rfl

theorem clockPhaseParam_step_of_samples (h : node.Samples call) :
    (node.step D print call).1.clockPhaseParam =
      call.reading.clockPhase.getD node.clockPhaseParam := by
  rw [step]
  dsimp only
  rw [if_pos h]
  rfl

theorem clockPhaseParam_step_of_not_samples (h : ¬node.Samples call) :
    (node.step D print call).1.clockPhaseParam = node.clockPhaseParam := by
  rw [step]
  dsimp only
  rw [if_neg h]

/-- A call that samples the clock leaves its sample behind. -/
theorem lastClock_step (h : node.Samples call) :
    (node.step D print call).1.node.runtime.lastClockResult =
      (node.sampleClock D call.reading).2 := by
  rw [(drives D print).state, sampledCall]
  generalize (node.sampleClock D call.reading).2 = clock
  cases call with
  | start request reading =>
      rw [ClockedCall.sampled, PublishingNode.step_start, PublishingNode.answeredStep_runtime]
      exact SwarmRuntimeNode.lastClock_startCallback clock h
  | stop request reading healthStamp => rfl
  | status reading => rfl
  | timer now reading healthStamp =>
      rw [ClockedCall.sampled, PublishingNode.step_timer, PublishingNode.timerCallback_runtime]
      exact SwarmRuntimeNode.lastClock_timerCallback clock now

theorem node_step_of_not_samples (h : ¬node.Samples call) :
    (node.step D print call).1.node = node.node := by
  cases call with
  | start request reading =>
      rw [(drives D print).state, sampledCall, ClockedCall.sampled, PublishingNode.step_start,
        SwarmRuntimeNode.startCallback_of_not_periodOk h]
      rfl
  | stop request reading healthStamp => exact absurd trivial h
  | status reading => exact absurd trivial h
  | timer now reading healthStamp => exact absurd trivial h

end Step

/-- The phase that the node reports, the one of its last sample, is the one of
the text that it goes by. -/
def Phased (node : ClockedNode) : Prop :=
  node.node.runtime.lastClockResult.phase = ClockMonitor.phaseFromString node.clockPhaseParam

theorem Phased.step {node : ClockedNode} (h : Phased node) (call : ClockedCall) :
    Phased (node.step D print call).1 := by
  rw [Phased]
  by_cases hsamples : node.Samples call
  · rw [lastClock_step D print node call hsamples,
      clockPhaseParam_step_of_samples D print node call hsamples]
    exact ClockSource.sampleClock_phase D _ _ _
  · rw [node_step_of_not_samples D print node call hsamples,
      clockPhaseParam_step_of_not_samples D print node call hsamples]
    exact h

/-! ## Runs -/

section Init

variable {params : PublishingNode.InitParams} {clockSource : ClockSource}
  {clockPhase : Option Str} {now : RosTime} {startReading healthReading : ClockReading}
  {stamps : RosTime × RosTime} {node : ClockedNode} {published : List NodePublication}

theorem init_publishing
    (h : init D print params clockSource clockPhase now startReading healthReading stamps =
      some (node, published)) :
    ∃ startClock healthClock,
      PublishingNode.init print params now startClock healthClock stamps =
        some (node.node, published) ∧
      healthClock.phase = ClockMonitor.phaseFromString node.clockPhaseParam := by
  rw [init] at h
  dsimp only at h
  split at h
  · cases h
  next hinit =>
  obtain ⟨rfl, rfl⟩ := Prod.mk.inj (Option.some.inj h)
  exact ⟨_, _, hinit, ClockSource.sampleClock_phase D _ _ _⟩

/-- What is published in answer to each call of a run. -/
theorem publishes_run
    (h : init D print params clockSource clockPhase now startReading healthReading stamps =
      some (node, published)) (calls : List ClockedCall) :
    ∀ e ∈ trace (step D print) node calls,
      PublishingNode.Publishes params.participants params.expectedSampleChannel
        params.weaknetEnabled (e.state.sampledCall D e.input) e.output.published := by
  obtain ⟨startClock, healthClock, hinit, -⟩ := init_publishing D print h
  exact (drives D print).transfer
    (P := fun e ↦ PublishingNode.Publishes params.participants params.expectedSampleChannel
      params.weaknetEnabled e.input e.output.published)
    ((PublishingNode.staffed_init print hinit).publishes_run print) calls

theorem phased_init
    (h : init D print params clockSource clockPhase now startReading healthReading stamps =
      some (node, published)) : Phased node := by
  obtain ⟨startClock, healthClock, hinit, hphase⟩ := init_publishing D print h
  have hlast := SwarmRuntimeNode.lastClock_init (PublishingNode.init_parts print hinit).1
  rwa [Phased, hlast]

theorem phased_run
    (h : init D print params clockSource clockPhase now startReading healthReading stamps =
      some (node, published)) (calls : List ClockedCall) : Phased (run (step D print) node calls) :=
  invariant_run (I := Phased) (fun _ call h ↦ h.step D print call) (phased_init D print h) calls

end Init

/-! ## Status queries -/

/-- The nodes differ in their last clock samples and in the text for the phase
at most. -/
def Agree (s t : ClockedNode) : Prop :=
  s.node.Agree t.node ∧ s.clockSource = t.clockSource

/-- Once a query has found the parameter for the phase, the later calls that are
not queries find it too. -/
def PhaseStays (calls : List ClockedCall) : Prop :=
  calls.Pairwise fun query call ↦ query.IsStatus → ¬call.IsStatus →
    query.reading.clockPhase.isSome = true → call.reading.clockPhase.isSome = true

instance (calls : List ClockedCall) : Decidable (PhaseStays calls) :=
  inferInstanceAs (Decidable (List.Pairwise _ _))

/-- The nodes keep the same text, or none of the calls to come goes by it. -/
def PhaseAgrees (calls : List ClockedCall) (s t : ClockedNode) : Prop :=
  s.clockPhaseParam = t.clockPhaseParam ∨
    ∀ call ∈ calls, ¬call.IsStatus → call.reading.clockPhase.isSome = true

structure AgreeAhead (calls : List ClockedCall) (s t : ClockedNode) : Prop where
  agree : Agree s t
  stays : PhaseStays calls
  phase : PhaseAgrees calls s t

theorem PhaseAgrees.tail {call : ClockedCall} {calls : List ClockedCall} {s t : ClockedNode}
    (h : PhaseAgrees (call :: calls) s t) : PhaseAgrees calls s t :=
  h.imp id fun hfound call hmem ↦ hfound call (List.mem_cons_of_mem _ hmem)

section Agree

variable {s t : ClockedNode} {call : ClockedCall} {calls : List ClockedCall}

theorem Agree.samples_iff (h : Agree s t) : s.Samples call ↔ t.Samples call := by
  cases call with
  | start request reading =>
      rw [Samples, h.1.eq_withClock]
      exact Iff.rfl
  | stop request reading healthStamp => exact Iff.rfl
  | status reading => exact Iff.rfl
  | timer now reading healthStamp => exact Iff.rfl

/-- A call that is not a query goes by the same text in both. -/
theorem AgreeAhead.latched (h : AgreeAhead (call :: calls) s t) (hcall : ¬call.IsStatus) :
    call.reading.clockPhase.getD s.clockPhaseParam =
      call.reading.clockPhase.getD t.clockPhaseParam := by
  rcases h.phase with hsame | hfound
  · rw [hsame]
  · obtain ⟨phase, hphase⟩ := Option.isSome_iff_exists.mp (hfound call List.mem_cons_self hcall)
    rw [hphase, Option.getD_some, Option.getD_some]

theorem AgreeAhead.sampledCall (h : AgreeAhead (call :: calls) s t) (hcall : ¬call.IsStatus) :
    s.sampledCall D call = t.sampledCall D call := by
  rw [ClockedNode.sampledCall, ClockedNode.sampledCall, sampleClock, sampleClock,
    h.latched hcall, h.agree.2]

theorem AgreeAhead.step_phase (h : AgreeAhead (call :: calls) s t) (hcall : ¬call.IsStatus) :
    PhaseAgrees calls (s.step D print call).1 (t.step D print call).1 := by
  by_cases hsamples : s.Samples call
  · left
    rw [clockPhaseParam_step_of_samples D print s call hsamples,
      clockPhaseParam_step_of_samples D print t call (h.agree.samples_iff.mp hsamples),
      h.latched hcall]
  · have hsamples' : ¬t.Samples call := fun hsampled ↦ hsamples (h.agree.samples_iff.mpr hsampled)
    rw [PhaseAgrees, clockPhaseParam_step_of_not_samples D print s call hsamples,
      clockPhaseParam_step_of_not_samples D print t call hsamples']
    exact h.phase.tail

theorem AgreeAhead.step (h : AgreeAhead (call :: calls) s t) (hcall : ¬call.IsStatus) :
    (s.step D print call).2 = (t.step D print call).2 ∧
      AgreeAhead calls (s.step D print call).1 (t.step D print call).1 := by
  obtain ⟨houtput, hnode⟩ := PublishingNode.step_agree print
    (ClockedCall.not_isStatus_sampled hcall (t.sampleClock D call.reading).2) h.agree.1
  rw [← ClockedNode.sampledCall] at houtput hnode
  refine ⟨?_, ⟨?_, ?_⟩, (List.pairwise_cons.mp h.stays).2, h.step_phase D print hcall⟩
  · rw [(drives D print).output, (drives D print).output, h.sampledCall D hcall]
    exact houtput
  · rw [(drives D print).state, (drives D print).state, h.sampledCall D hcall]
    exact hnode
  · rw [clockSource_step, clockSource_step]
    exact h.agree.2

/-- A query that finds a new text sets the two runs apart, but then the calls to
come find one as well. -/
theorem AgreeAhead.query (h : AgreeAhead (call :: calls) s t) (hcall : call.IsStatus) :
    AgreeAhead calls (s.step D print call).1 t := by
  obtain ⟨hlater, hstays⟩ := List.pairwise_cons.mp h.stays
  cases call with
  | start request reading => exact hcall.elim
  | stop request reading healthStamp => exact hcall.elim
  | timer now reading healthStamp => exact hcall.elim
  | status reading =>
      refine ⟨⟨PublishingNode.agree_status print h.agree.1 _, (clockSource_step D print s _).trans h.agree.2⟩, hstays, ?_⟩
      cases hphase : reading.clockPhase with
      | none =>
          rw [PhaseAgrees, clockPhaseParam_step_of_samples D print s (.status reading) trivial,
            ClockedCall.reading, hphase, Option.getD_none]
          exact h.phase.tail
      | some phase =>
          right
          intro call hmem hvisible
          refine hlater call hmem trivial hvisible ?_
          rw [ClockedCall.reading, hphase, Option.isSome_some]

end Agree

/-- Where the parameter does go away, the next sample is of the phase that the
query has found. -/
theorem sampleClock_after_query (node : ClockedNode) {reading reading' : ClockReading} {phase : Str}
    (hfound : reading.clockPhase = some phase) (hmissing : reading'.clockPhase = none) :
    ((node.step D print (.status reading)).1.sampleClock D reading').2 =
        node.clockSource.sampleClock D reading'.runner phase ∧
      (node.sampleClock D reading').2 =
        node.clockSource.sampleClock D reading'.runner node.clockPhaseParam := by
  constructor
  · rw [sampleClock, clockSource_step,
      clockPhaseParam_step_of_samples D print node (.status reading) trivial,
      ClockedCall.reading, hfound, hmissing]
    rfl
  · rw [sampleClock, hmissing]
    rfl

end Runs

/-! A node with a made-up clock, and a parameter that comes and goes. -/

def mockReading (clockPhase : Option Str) : ClockReading where
  clockPhase := clockPhase
  runner := fun _ ↦ (1, [])

def mockInit : ClockedNode × List NodePublication :=
  (init ℚ PublishingNode.plainText {} { provider := text "mock" } none ⟨1000, 0⟩
    (mockReading none) (mockReading none) (⟨1000, 0⟩, ⟨1000, 0⟩)).get (by decide +kernel)

def inFlightQuery : ClockedCall := .status (mockReading (some (text "in_flight")))

def mockStop (clockPhase : Option Str) : ClockedCall := .stop {} (mockReading clockPhase) ⟨1001, 0⟩

/-- Without its parameter the node tells others the phase that a query has found. -/
example :
    ((mockInit.1.step ℚ PublishingNode.plainText inFlightQuery).1.step ℚ PublishingNode.plainText
        (mockStop none)).2 ≠ (mockInit.1.step ℚ PublishingNode.plainText (mockStop none)).2 := by
  decide +kernel

end ClockedNode

end RuntimeSync
