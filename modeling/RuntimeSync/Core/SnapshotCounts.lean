import Mathlib.Data.Fintype.Defs
import RuntimeSync.Core.LastGood
import RuntimeSync.Core.QualityChecks
import RuntimeSync.Core.SnapshotBuilder
import RuntimeSync.Library.Tally

/-!
# Snapshots lose no sample

The statuses fall into five classes, and a snapshot has a counter for each.
Whatever the statuses of the views are, the counters share out the expected
samples.
-/

namespace RuntimeSync

/-- What the counters of a snapshot tell apart. -/
inductive StatusClass where
  | fresh
  | missing
  | late
  | wrongCycle
  | bad
  deriving DecidableEq

instance : Fintype StatusClass where
  elems := {.fresh, .missing, .late, .wrongCycle, .bad}
  complete c := by cases c <;> decide

def SampleStatus.toClass : SampleStatus → StatusClass
  | .fresh => .fresh
  | .missing => .missing
  | .late => .late
  | .wrongCycle => .wrongCycle
  | .duplicate => .bad
  | .badSchema => .bad
  | .badPayload => .bad
  | .senderClockBad => .bad
  | .senderReportedFail => .bad
  | .transportError => .bad

def SnapshotStats.read (stats : SnapshotStats) : StatusClass → UInt32
  | .fresh => stats.freshCount
  | .missing => stats.missingCount
  | .late => stats.lateCount
  | .wrongCycle => stats.wrongCycleCount
  | .bad => stats.badCount

def PeerSampleView.toClass {T : Type} [TimeArith T] (view : PeerSampleView T) : StatusClass :=
  view.status.toClass

theorem SnapshotStats.read_zero (c : StatusClass) : SnapshotStats.read {} c = 0 := by
  cases c <;> rfl

theorem StatusClass.sum_eq (f : StatusClass → ℕ) :
    ∑ c, f c = f .fresh + f .missing + f .late + f .wrongCycle + f .bad := by
  change ∑ c ∈ {.fresh, .missing, .late, .wrongCycle, .bad}, f c = _
  simp [Finset.sum_insert, add_assoc]

namespace SnapshotBuilder

open SampleBuffer DeadlineChecker

/-- A view of its own for each expected sample. -/
structure ViewFor {T : Type} [TimeArith T] (request : SnapshotBuildRequest)
    (expected : ExpectedSample) (view : PeerSampleView T) : Prop where
  peerId : view.peerId = expected.peerId
  channel : view.channel = expected.channel
  cycle : view.expectedTargetCycle = request.cycleId

/-- No status falls through the switch. -/
theorem read_accountStatus (stats : SnapshotStats) (status : SampleStatus) (c : StatusClass) :
    (accountStatus stats status).read c =
      if status.toClass = c then stats.read c + 1 else stats.read c := by
  cases status <;> cases c <;> rfl

section Build

variable (T : Type) [TimeArith T] (request : SnapshotBuildRequest) (buffer : SampleBuffer)

theorem viewOf_for (expected : ExpectedSample) :
    ViewFor request expected (viewOf T request buffer expected) := by
  unfold viewOf
  split
  · exact ⟨rfl, rfl, rfl⟩
  · exact ⟨rfl, rfl, rfl⟩

theorem read_accountStatus_view (stats : SnapshotStats) (view : PeerSampleView T)
    (c : StatusClass) : (accountStatus stats view.status).read c =
      if view.toClass = c then stats.read c + 1 else stats.read c :=
  read_accountStatus stats view.status c

theorem foldl_addView_stats (expectedSamples : List ExpectedSample) (snapshot : CycleSnapshot T) :
    (expectedSamples.foldl (fun snapshot expected ↦
        addView snapshot expected.required (viewOf T request buffer expected)) snapshot).stats =
      (expectedSamples.map (viewOf T request buffer)).foldl
        (fun stats view ↦ accountStatus stats view.status) snapshot.stats := by
  induction expectedSamples generalizing snapshot with
  | nil => rfl
  | cons expected rest ih =>
      rw [List.foldl_cons, ih]
      rfl

/-- A counter of a snapshot holds the number of views of its class, up to the
size of a word. -/
theorem toNat_read_build (c : StatusClass) :
    ((build T request buffer).stats.read c).toNat =
      tally PeerSampleView.toClass (build T request buffer).samples c % 2 ^ 32 := by
  have hstats := foldl_addView_stats T request buffer request.expectedSamples
  have hcount := toNat_read_foldl (read_accountStatus_view T)
  rw [build_samples, build, hstats, hcount]
  dsimp only
  rw [SnapshotStats.read_zero, UInt32.toNat_zero, Nat.zero_add]

/-- A flag that every required view can lower. -/
theorem foldl_addView_flag (flag : CycleSnapshot T → Bool)
    (hflag : ∀ snapshot required view, flag (addView snapshot required view) =
      if required then flag snapshot && decide (view.status = .fresh) else flag snapshot)
    (expectedSamples : List ExpectedSample) (snapshot : CycleSnapshot T) :
    flag (expectedSamples.foldl (fun snapshot expected ↦
        addView snapshot expected.required (viewOf T request buffer expected)) snapshot) = true ↔
      flag snapshot = true ∧ List.Forall₂
        (fun expected view ↦ expected.required = true → PeerSampleView.status view = .fresh)
        expectedSamples (expectedSamples.map (viewOf T request buffer)) := by
  induction expectedSamples generalizing snapshot with
  | nil => simp
  | cons expected rest ih =>
      rw [List.foldl_cons, ih, hflag, List.map_cons, List.forall₂_cons]
      cases expected.required with
      | false => simp
      | true => simp [and_assoc]

theorem length_build_samples :
    (build T request buffer).samples.length = request.expectedSamples.length := by
  rw [build_samples, List.length_map]

end Build

/-! ## The classes of the views -/

section Views

variable (T : Type) [TimeArith T] {request : SnapshotBuildRequest} {buffer : SampleBuffer}
  {expected : ExpectedSample}

/-- A lookup answers with a sample of the cycle it was asked for. -/
theorem targetCycle_of_find_some {found : BufferedSample}
    (h : buffer.find expected.peerId expected.channel request.cycleId = some found) :
    found.envelope.targetCycle = request.cycleId :=
  congrArg SampleKey.targetCycle (KeyedMap.key_of_get? h)

theorem toClass_viewOf_of_wellFormed {found : BufferedSample}
    (h : buffer.find expected.peerId expected.channel request.cycleId = some found)
    (hformed : WellFormed expected.timing found.envelope) :
    (viewOf T request buffer expected).toClass = .fresh ∨
      (viewOf T request buffer expected).toClass = .late := by
  have hpassed := firstFailure_eq_none_iff.mpr ⟨hformed, targetCycle_of_find_some h⟩
  have hstatus := viewOf_of_find_some T h
  rw [checkReceivedSample_of_passed hpassed] at hstatus
  unfold PeerSampleView.toClass
  rw [hstatus]
  obtain hfresh | hlate := timeDecision_status T found.envelope request.cycleStartNs
    found.localReceiveNs expected.timing
  · rw [hfresh]
    exact .inl rfl
  · rw [hlate]
    exact .inr rfl

theorem toClass_viewOf_of_not_wellFormed {found : BufferedSample}
    (h : buffer.find expected.peerId expected.channel request.cycleId = some found)
    (hformed : ¬WellFormed expected.timing found.envelope) :
    (viewOf T request buffer expected).toClass = .bad := by
  have hcycle := targetCycle_of_find_some h
  obtain ⟨status, hfailure⟩ := Option.ne_none_iff_exists'.mp fun hnone ↦
    hformed (firstFailure_eq_none_iff.mp hnone).1
  unfold PeerSampleView.toClass
  rw [viewOf_of_find_some T h, checkReceivedSample_of_failure hfailure]
  obtain rfl | rfl | rfl | rfl | ⟨-, hwrong⟩ := firstFailure_eq_some hfailure
  · rfl
  · rfl
  · rfl
  · rfl
  · exact absurd hcycle hwrong

variable (request buffer expected)

/-- What the lookup finds decides the class of a view, but for its times. -/
theorem toClass_viewOf_cases :
    (buffer.find expected.peerId expected.channel request.cycleId = none ∧
        (viewOf T request buffer expected).toClass = .missing) ∨
      ∃ found, buffer.find expected.peerId expected.channel request.cycleId = some found ∧
        ((WellFormed expected.timing found.envelope ∧
            ((viewOf T request buffer expected).toClass = .fresh ∨
              (viewOf T request buffer expected).toClass = .late)) ∨
          (¬WellFormed expected.timing found.envelope ∧
            (viewOf T request buffer expected).toClass = .bad)) := by
  cases hfind : buffer.find expected.peerId expected.channel request.cycleId with
  | none => exact .inl ⟨rfl, congrArg SampleStatus.toClass (viewOf_of_find_none T hfind)⟩
  | some found =>
      refine .inr ⟨found, rfl, ?_⟩
      by_cases hformed : WellFormed expected.timing found.envelope
      · exact .inl ⟨hformed, toClass_viewOf_of_wellFormed T hfind hformed⟩
      · exact .inr ⟨hformed, toClass_viewOf_of_not_wellFormed T hfind hformed⟩

theorem toClass_viewOf_ne_wrongCycle :
    (viewOf T request buffer expected).toClass ≠ .wrongCycle := by
  obtain ⟨-, h⟩ | ⟨found, -, ⟨-, h | h⟩ | ⟨-, h⟩⟩ := toClass_viewOf_cases T request buffer expected
  all_goals
    rw [h]
    decide

theorem toClass_viewOf_eq_missing_iff :
    (viewOf T request buffer expected).toClass = .missing ↔
      (buffer.find expected.peerId expected.channel request.cycleId).isNone = true := by
  obtain ⟨hfind, h⟩ | ⟨found, hfind, ⟨-, h | h⟩ | ⟨-, h⟩⟩ :=
    toClass_viewOf_cases T request buffer expected
  all_goals
    rw [hfind, h]
    simp

theorem toClass_viewOf_ne_bad_iff :
    (viewOf T request buffer expected).toClass ≠ .bad ↔
      ∀ found, buffer.find expected.peerId expected.channel request.cycleId = some found →
        WellFormed expected.timing found.envelope := by
  obtain ⟨hfind, h⟩ | ⟨found, hfind, ⟨hformed, h | h⟩ | ⟨hformed, h⟩⟩ :=
    toClass_viewOf_cases T request buffer expected
  all_goals
    rw [hfind, h]
    simp [*]

end Views

section Tallies

variable (T : Type) [TimeArith T] (request : SnapshotBuildRequest) (buffer : SampleBuffer)

/-- The views of the classes that occur. -/
theorem sum_tally_samples :
    tally PeerSampleView.toClass (build T request buffer).samples .fresh +
        tally PeerSampleView.toClass (build T request buffer).samples .missing +
        tally PeerSampleView.toClass (build T request buffer).samples .late +
        tally PeerSampleView.toClass (build T request buffer).samples .bad =
      request.expectedSamples.length := by
  have hwrong : tally PeerSampleView.toClass (build T request buffer).samples .wrongCycle = 0 := by
    rw [build_samples, tally_eq_zero_iff, List.forall_mem_map]
    exact fun expected _ ↦ toClass_viewOf_ne_wrongCycle T request buffer expected
  have hsum := sum_tally PeerSampleView.toClass (build T request buffer).samples
  rw [StatusClass.sum_eq, hwrong, length_build_samples] at hsum
  omega

theorem tally_missing :
    tally PeerSampleView.toClass (build T request buffer).samples .missing =
      request.expectedSamples.countP fun expected ↦
        (buffer.find expected.peerId expected.channel request.cycleId).isNone := by
  rw [build_samples, tally_map]
  refine List.countP_congr fun expected _ ↦ ?_
  rw [decide_eq_true_eq]
  exact toClass_viewOf_eq_missing_iff T request buffer expected

theorem tally_bad_eq_zero_iff :
    tally PeerSampleView.toClass (build T request buffer).samples .bad = 0 ↔
      ∀ expected ∈ request.expectedSamples, ∀ found,
        buffer.find expected.peerId expected.channel request.cycleId = some found →
          WellFormed expected.timing found.envelope := by
  rw [build_samples, tally_eq_zero_iff, List.forall_mem_map]
  exact forall₂_congr fun expected _ ↦ toClass_viewOf_ne_bad_iff T request buffer expected

theorem length_eq_found_add_absent :
    request.expectedSamples.length =
      (request.expectedSamples.countP fun expected ↦
        (buffer.find expected.peerId expected.channel request.cycleId).isSome) +
      request.expectedSamples.countP fun expected ↦
        (buffer.find expected.peerId expected.channel request.cycleId).isNone := by
  rw [List.length_eq_countP_add_countP fun expected ↦
    (buffer.find expected.peerId expected.channel request.cycleId).isSome]
  congr 1
  refine List.countP_congr fun expected _ ↦ ?_
  simp

end Tallies

/-! ## What the counters say of the views -/

/-- Each counter is the number of views with a status of its class. -/
structure Accounts {T : Type} [TimeArith T] (stats : SnapshotStats)
    (views : List (PeerSampleView T)) : Prop where
  fresh : stats.freshCount.toNat = views.countP fun view ↦ view.status = .fresh
  missing : stats.missingCount.toNat = views.countP fun view ↦ view.status = .missing
  late : stats.lateCount.toNat = views.countP fun view ↦ view.status = .late
  wrongCycle : stats.wrongCycleCount.toNat = views.countP fun view ↦ view.status = .wrongCycle
  bad : stats.badCount.toNat = views.countP fun view ↦
    isBadStatus view.status ∨ view.status = .duplicate

theorem tally_eq_countP {T : Type} [TimeArith T] {c : StatusClass} (p : SampleStatus → Prop)
    [DecidablePred p] (h : ∀ status, SampleStatus.toClass status = c ↔ p status)
    (views : List (PeerSampleView T)) :
    tally PeerSampleView.toClass views c = views.countP fun view ↦ p view.status := by
  refine List.countP_congr fun view _ ↦ ?_
  rw [decide_eq_true_eq, decide_eq_true_eq]
  exact h view.status

/-- Only the bad class has more than one status. -/
theorem toClass_eq_iff (named : SampleStatus) (h : named.toClass ≠ .bad)
    (status : SampleStatus) : status.toClass = named.toClass ↔ status = named := by
  revert h
  cases status <;> cases named <;> decide

theorem toClass_eq_bad_iff (status : SampleStatus) :
    status.toClass = .bad ↔ isBadStatus status = true ∨ status = .duplicate := by
  cases status <;> decide

theorem accounts_of_tally {T : Type} [TimeArith T] {stats : SnapshotStats}
    {views : List (PeerSampleView T)}
    (h : ∀ c, (stats.read c).toNat = tally PeerSampleView.toClass views c) :
    Accounts stats views where
  fresh := (h .fresh).trans (tally_eq_countP _ (toClass_eq_iff .fresh (by decide)) views)
  missing := (h .missing).trans (tally_eq_countP _ (toClass_eq_iff .missing (by decide)) views)
  late := (h .late).trans (tally_eq_countP _ (toClass_eq_iff .late (by decide)) views)
  wrongCycle :=
    (h .wrongCycle).trans (tally_eq_countP _ (toClass_eq_iff .wrongCycle (by decide)) views)
  bad := (h .bad).trans (tally_eq_countP _ toClass_eq_bad_iff views)

/-- A snapshot of fewer samples than a counter can hold loses none of them: one
view for each in their order, and counters that share out the views. -/
theorem build_conserves (T : Type) [TimeArith T] (request : SnapshotBuildRequest)
    (buffer : SampleBuffer) (hlength : request.expectedSamples.length < 2 ^ 32) :
    let snapshot := build T request buffer
    List.Forall₂ (ViewFor request) request.expectedSamples snapshot.samples ∧
      Accounts snapshot.stats snapshot.samples ∧
      snapshot.stats.freshCount.toNat + snapshot.stats.missingCount.toNat +
          snapshot.stats.lateCount.toNat + snapshot.stats.wrongCycleCount.toNat +
          snapshot.stats.badCount.toNat = request.expectedSamples.length ∧
      (snapshot.allRequiredFresh = true ↔
        List.Forall₂ (fun expected view ↦ expected.required = true → view.status = .fresh)
          request.expectedSamples snapshot.samples) ∧
      (snapshot.allRequiredUsable = true ↔
        List.Forall₂ (fun expected view ↦ expected.required = true → view.status = .fresh)
          request.expectedSamples snapshot.samples) := by
  intro snapshot
  have hsamples : snapshot.samples = request.expectedSamples.map (viewOf T request buffer) :=
    build_samples T request buffer
  have hread (c : StatusClass) : (snapshot.stats.read c).toNat =
      tally PeerSampleView.toClass snapshot.samples c := by
    have hle : tally PeerSampleView.toClass snapshot.samples c ≤ snapshot.samples.length :=
      tally_le_length snapshot.samples c
    rw [length_build_samples T request buffer] at hle
    rw [toNat_read_build T request buffer c]
    exact Nat.mod_eq_of_lt (lt_of_le_of_lt hle hlength)
  refine ⟨?_, accounts_of_tally hread, ?_, ?_, ?_⟩
  · rw [hsamples, List.forall₂_map_right_iff, List.forall₂_same]
    exact fun expected _ ↦ viewOf_for T request buffer expected
  · rw [← length_build_samples T request buffer, ← sum_tally PeerSampleView.toClass,
      StatusClass.sum_eq, ← hread, ← hread, ← hread, ← hread, ← hread]
    rfl
  · rw [hsamples]
    exact (foldl_addView_flag T request buffer CycleSnapshot.allRequiredFresh
      (fun _ _ _ ↦ rfl) request.expectedSamples _).trans (and_iff_right rfl)
  · rw [hsamples]
    exact (foldl_addView_flag T request buffer CycleSnapshot.allRequiredUsable
      (fun _ _ _ ↦ rfl) request.expectedSamples _).trans (and_iff_right rfl)

/-! One peer delivers, the solver of the second one failed, and the third one
is away. -/

def failedSample : BufferedSample :=
  { solutionSample 10 1 with
    envelope := { (solutionSample 10 1).envelope with
      senderId := text "uav3", producerStatus := .failed } }

def threePeers : SnapshotBuildRequest where
  selfId := text "uav1"
  cycleId := 10
  expectedSamples :=
    [{ peerId := text "uav2", channel := text "solution" },
     { peerId := text "uav3", channel := text "solution" },
     { peerId := text "uav4", channel := text "solution", required := false }]

def threePeersBuffer : SampleBuffer := filled 8 [solutionSample 10 1, failedSample]

theorem threePeers_conserved :
    threePeers.expectedSamples.length < 2 ^ 32 ∧
      Accounts (build Int64 threePeers threePeersBuffer).stats
        (build Int64 threePeers threePeersBuffer).samples ∧
      (build Int64 threePeers threePeersBuffer).stats =
        { freshCount := 1, missingCount := 1, badCount := 1 } := by
  have hlength : threePeers.expectedSamples.length < 2 ^ 32 := by decide
  have h := build_conserves Int64 threePeers threePeersBuffer hlength
  exact ⟨hlength, h.2.1, by decide +kernel⟩

end SnapshotBuilder

end RuntimeSync
