import Mathlib.Tactic.IntervalCases
import RuntimeSync.Coordinator.OutcomeRuns

/-!
# Degradation and recovery

What a participant must do to be degraded, what it must do to recover, and
what the event stream tells of it.
-/

namespace RuntimeSync.SyncCoordinator

variable {D : Type} [TimingArith D]

def statusOf (c : SyncCoordinator D) (p : UInt32) : SyncStatus := (c.health p).status

theorem toNat_toUInt32 {n : Int32} (h : 1 ≤ n) : n.toUInt32.toNat = n.toInt.toNat := by
  have hpos : (0 : Int32) ≤ n := Int32.le_trans (by decide) h
  rw [Int32.toNat_toUInt32_of_le hpos, Int32.toNat_toInt]

/-! ## Hysteresis -/

/-- The status falls only to `ok`, by a healthy acknowledgement that ends as
many of them in a row as recovery takes. -/
theorem status_falls_by_recovery (params : Params D) (seen : List (CoordinatorCall D))
    (call : CoordinatorCall D) (p : UInt32) :
    ((after params seen).statusOf p).rank ≤ ((after params (seen ++ [call])).statusOf p).rank ∨
      (after params (seen ++ [call])).statusOf p = .ok ∧
        (∃ msg ackTime responseTime, call = .ack msg ackTime responseTime ∧
          msg.participantId = p ∧ (params.config.outcome msg).healthy = true) ∧
        ∃ earlier latest, outcomes params (seen ++ [call]) p = earlier ++ latest ∧
          latest.length = params.config.recoveryGoodCycles.toInt.toNat ∧
          ∀ o ∈ latest, o.healthy = true := by
  rw [statusOf, statusOf, health_after, health_after, outcomes_append, outcomesFrom_singleton]
  cases hout : (after params seen).outcomeOf p call with
  | none => exact .inl (by simp)
  | some o =>
      refine (Health.rank_le_or_recovered (outcomes params seen p) o).imp id ?_
      rintro ⟨hok, ho, hstreak⟩
      refine ⟨hok, ?_, ?_⟩
      · rcases outcomeOf_eq_some hout with
          ⟨msg, ackTime, responseTime, hcall, hp, -, rfl⟩ | ⟨sequenceId, -, -, rfl⟩
        · exact ⟨msg, ackTime, responseTime, hcall, hp, config_after params seen ▸ ho⟩
        · cases ho
      · rw [CoordinatorConfig.recovery, toNat_toUInt32 params.config.recoveryGoodCycles_pos]
          at hstreak
        exact exists_latest _ hstreak

/-! ## Timeouts in a row -/

/-- Checks of different sequence ids are different misses. -/
theorem le_count_missed {c : SyncCoordinator D} {calls : List (CoordinatorCall D)} {p : UInt32}
    {first n : ℕ}
    (h : ∀ k < n, ∃ e ∈ Machine.trace step c calls,
      e.input = .responseTimer (first + k) ∧ e.state.Pending p (first + k)) :
    n ≤ (outcomesFrom c calls p).count .missed := by
  have hsubset : List.range' first n ⊆
      (Machine.trace step c calls).filterMap fun e ↦ missedCheck p e.state e.input := by
    intro s hs
    obtain ⟨k, hk, rfl⟩ := List.mem_range'.mp hs
    obtain ⟨e, he, hinput, hpending⟩ := h k hk
    rw [Nat.one_mul, List.mem_filterMap]
    exact ⟨e, he, by rw [hinput, missedCheck, if_pos hpending]⟩
  calc
    n = (List.range' first n).length := List.length_range'.symm
    _ ≤ ((Machine.trace step c calls).filterMap fun e ↦
        missedCheck p e.state e.input).length :=
      (List.subperm_of_subset List.nodup_range' hsubset).length_le
    _ = _ := by
      rw [List.length_filterMap_eq_countP, outcomesFrom, List.count_filterMap]
      exact List.countP_congr fun e _ ↦ by rw [isSome_missedCheck]

theorem limit_pos {params : Params D} (hlimit : 1 ≤ params.maxConsecutiveTimeouts) :
    0 < params.config.limit := by
  have htoNat : params.config.limit.toNat = params.maxConsecutiveTimeouts.toInt.toNat :=
    toNat_toUInt32 hlimit
  have hle : (1 : ℤ) ≤ params.maxConsecutiveTimeouts.toInt := Int32.le_iff_toInt_le.mp hlimit
  rw [UInt32.lt_iff_toNat_lt, htoNat]
  change 0 < _
  omega

/-- When each of as many consecutive sequence ids as the limit is checked with
`p` pending, `p` is degraded, if no acknowledgement that resets the count of
misses, a healthy or a slow one, is processed between the checks. -/
theorem degraded_of_timeouts (params : Params D) (p : UInt32)
    (hlimit : 1 ≤ params.maxConsecutiveTimeouts) (seen stretch : List (CoordinatorCall D))
    (first : ℕ)
    (hchecks : ∀ k < params.maxConsecutiveTimeouts.toInt.toNat,
      ∃ e ∈ Machine.trace step (after params seen) stretch,
        e.input = .responseTimer (first + k) ∧ e.state.Pending p (first + k))
    (hacks : ∀ msg ackTime responseTime, .ack msg ackTime responseTime ∈ stretch →
      msg.participantId = p → (params.config.outcome msg).healthy = false ∧
        (params.config.outcome msg).slow = false) :
    (after params (seen ++ stretch)).statusOf p = .degraded := by
  have htoNat : params.config.limit.toNat = params.maxConsecutiveTimeouts.toInt.toNat :=
    toNat_toUInt32 hlimit
  have hpos := limit_pos hlimit
  rw [statusOf, health_after, outcomes_append, Health.judge_append]
  apply Health.degraded_of_misses hpos
  · exact Health.sound_judge hpos (Health.sound_of_zero hpos rfl rfl rfl) _
  · intro o ho
    rcases mem_outcomesFrom ho with rfl | ⟨msg, ackTime, responseTime, hmem, hp, rfl⟩
    · exact ⟨rfl, rfl⟩
    · exact hacks msg ackTime responseTime hmem hp
  · rw [htoNat]
    exact le_count_missed hchecks

/-- One participant and the default settings. -/
def soloParams : Params ℚ := { numUavs := 1 }

def soloStart : List (CoordinatorCall ℚ) := [.ready { participantId := 1 }, .spin]

def soloTrigger : CoordinatorCall ℚ := .syncTimer ⟨10, 0⟩

/-- A cycle of a millisecond. -/
def soloAck (sequenceId : ℕ) : CoordinatorCall ℚ :=
  .ack
    { participantId := 1
      sequenceId := sequenceId
      receivedTime := ⟨10, 0⟩
      finishedTime := ⟨10, 1000000⟩
      computationMs := 1
      success := true }
    ⟨10, 2000000⟩ ⟨10, 2000000⟩

/-- A message that the cycle has failed. -/
def soloFailure (sequenceId : ℕ) : SyncAck ℚ where
  participantId := 1
  sequenceId := sequenceId
  receivedTime := ⟨10, 0⟩
  finishedTime := ⟨10, 1000000⟩
  computationMs := 1
  success := false

/-- Three checks, and after the first one the message that its cycle has failed. -/
theorem solo_degraded_of_timeouts :
    (after soloParams (soloStart ++ [soloTrigger, soloTrigger, soloTrigger] ++
      [.responseTimer 1, .ack (soloFailure 1) ⟨10, 2000000⟩ ⟨10, 2000000⟩, .responseTimer 2,
        .responseTimer 3])).statusOf 1 = .degraded := by
  refine degraded_of_timeouts soloParams 1 (by decide) _ _ 1 (fun k hk ↦ ?_) ?_
  · have hlt : k < 3 := hk
    interval_cases k
    · exact ⟨_, Machine.mem_trace_of_split step _ [] (.responseTimer 1) _, rfl, by decide +kernel⟩
    · exact ⟨_, Machine.mem_trace_of_split step _ [.responseTimer 1, .ack (soloFailure 1) _ _]
        (.responseTimer 2) _, rfl, by decide +kernel⟩
    · exact ⟨_, Machine.mem_trace_of_split step _ [.responseTimer 1, .ack (soloFailure 1) _ _,
        .responseTimer 2] (.responseTimer 3) [], rfl, by decide +kernel⟩
  · intro msg ackTime responseTime hmem _
    obtain rfl : msg = soloFailure 1 := by
      simp only [List.mem_cons, reduceCtorEq, CoordinatorCall.ack.injEq, List.not_mem_nil, or_false,
        false_or] at hmem
      exact hmem.1
    exact ⟨by decide +kernel, by decide +kernel⟩

/-- Every cycle is checked before its acknowledgement arrives. -/
def lateCycles : List (CoordinatorCall ℚ) :=
  [soloTrigger, .responseTimer 1, soloAck 1, soloTrigger, .responseTimer 2, soloAck 2,
    soloTrigger, .responseTimer 3]

/-- Late acknowledgements start the count of misses again, and so all three
checks miss without an effect. -/
theorem lateCycles_not_degraded :
    soloParams.maxConsecutiveTimeouts = 3 ∧
    (∀ e ∈ Machine.trace step (create soloParams) (soloStart ++ lateCycles),
      e.state.Fires e.input) ∧
    (∀ k < 3, ∃ e ∈ Machine.trace step (after soloParams soloStart) lateCycles,
      e.input = .responseTimer (1 + k) ∧ e.state.Pending 1 (1 + k)) ∧
    lateCycles.getLast? = some (.responseTimer 3) ∧
    (after soloParams (soloStart ++ lateCycles)).statusOf 1 = .missing := by
  refine ⟨rfl, by decide +kernel, fun k hk ↦ ?_, rfl, by decide +kernel⟩
  interval_cases k
  · exact ⟨_, Machine.mem_trace_of_split step _ [soloTrigger] (.responseTimer 1) _, rfl,
      by decide +kernel⟩
  · exact ⟨_, Machine.mem_trace_of_split step _ [soloTrigger, .responseTimer 1, soloAck 1,
      soloTrigger] (.responseTimer 2) _, rfl, by decide +kernel⟩
  · exact ⟨_, Machine.mem_trace_of_split step _ [soloTrigger, .responseTimer 1, soloAck 1,
      soloTrigger, .responseTimer 2, soloAck 2, soloTrigger] (.responseTimer 3) [], rfl,
      by decide +kernel⟩

/-! ## The event stream -/

theorem switchesAbout_step (c : SyncCoordinator D) (call : CoordinatorCall D) (p : UInt32) :
    switchesAbout p (c.step call).2 =
      (Health.switch (c.statusOf p) ((c.step call).1.statusOf p)).toList := by
  cases hout : c.outcomeOf p call with
  | none =>
      obtain ⟨hhealth, hneutral⟩ := step_of_no_outcome hout
      rw [statusOf, statusOf, hhealth, Health.switch_self]
      apply List.filter_eq_nil_iff.mpr
      intro type htype
      obtain ⟨e, he, rfl⟩ := List.mem_map.mp htype
      rcases hneutral e he with h | h | h
      all_goals exact h ▸ Bool.false_ne_true
  | some o =>
      obtain ⟨judged, lateAck, hjudgement, -, hhealth, hevents⟩ := step_of_outcome hout
      rw [switchesAbout, hevents, hjudgement.switches, ← hhealth]
      rfl

theorem status_moves (c : SyncCoordinator D) (call : CoordinatorCall D) (p : UInt32) :
    (c.statusOf p).rank ≤ ((c.step call).1.statusOf p).rank ∨
      (c.step call).1.statusOf p = .ok := by
  rw [statusOf, statusOf, health_step, outcomesFrom_singleton]
  cases c.outcomeOf p call with
  | none => exact .inl (Nat.le_refl _)
  | some o => exact (c.health p).rank_le_next_or_ok o

/-- The switches of a run end in the status, and no two of them in a row are
into the degraded status. -/
theorem switches_published (params : Params D) (calls : List (CoordinatorCall D)) (p : UInt32) :
    ((after params calls).statusOf p = .degraded ↔
      (switchesAbout p (published params calls)).getLast? = some .degraded) ∧
    (switchesAbout p (published params calls)).IsChain fun e e' ↦
      ¬(e = .degraded ∧ e' = .degraded) := by
  induction calls using List.reverseRecOn with
  | nil =>
      refine ⟨iff_of_false ?_ (by simp [published, switchesAbout, eventsAbout]), .nil⟩
      rw [statusOf, health_after]
      intro h
      cases h
  | append_singleton calls call ih =>
      rw [after_concat, published_concat, switchesAbout_append, switchesAbout_step]
      exact ⟨Health.degraded_iff_switch (status_moves _ call p) ih.1,
        Health.isChain_switch ih.1 ih.2⟩

omit [TimingArith D] in
/-- A switch that is listed has been published. -/
theorem mem_of_switchesAbout {p : UInt32} {output : List (Publication D)} {type : EventType}
    (h : type ∈ switchesAbout p output) :
    type.isSwitch = true ∧ ∃ e, .event e ∈ output ∧ e.participantId = p ∧ e.eventType = type := by
  obtain ⟨hmem, hswitch⟩ := List.mem_filter.mp h
  obtain ⟨e, he, rfl⟩ := List.mem_map.mp hmem
  obtain ⟨publication, hpublication, habout⟩ := List.mem_filterMap.mp he
  cases publication with
  | trigger msg => cases habout
  | statistics msg => cases habout
  | event e' =>
      rw [Publication.about] at habout
      split at habout
      · next hp =>
          obtain rfl := Option.some.inj habout
          exact ⟨hswitch, e', hpublication, hp, rfl⟩
      · cases habout

omit [TimingArith D] in
theorem switchesAbout_of_degraded {p : UInt32} {e : SyncEvent D} (hp : e.participantId = p)
    (htype : e.eventType = .degraded) (output : List (Publication D)) :
    switchesAbout p (.event e :: output) = .degraded :: switchesAbout p output := by
  have habout : Publication.about p (.event e) = some e := if_pos hp
  rw [switchesAbout, eventsAbout, List.filterMap_cons_some habout, List.map_cons, htype]
  rfl

/-- The event stream tells when a participant is degraded: the latest switch
says so, between two entries there is a recovery, and every change of it is
published by the call that makes it. -/
theorem degraded_iff_published (params : Params D) (calls : List (CoordinatorCall D))
    (p : UInt32) :
    ((after params calls).statusOf p = .degraded ↔
      (switchesAbout p (published params calls)).getLast? = some .degraded) ∧
    (∀ before between rest e e',
      published params calls = before ++ .event e :: (between ++ .event e' :: rest) →
      e.participantId = p → e.eventType = .degraded →
      e'.participantId = p → e'.eventType = .degraded →
      ∃ r, .event r ∈ between ∧ r.participantId = p ∧ r.eventType = .recovered) ∧
    ∀ seen call rest, calls = seen ++ call :: rest →
      ¬((after params seen).statusOf p = .degraded ↔
        (after params (seen ++ [call])).statusOf p = .degraded) →
      ∃ e, .event e ∈ ((after params seen).step call).2 ∧ e.participantId = p ∧
        e.eventType.isSwitch = true := by
  refine ⟨(switches_published params calls p).1, ?_, ?_⟩
  · intro before between rest e e' hpublished hp htype hp' htype'
    have hchain := (switches_published params calls p).2
    rw [hpublished, switchesAbout_append, switchesAbout_of_degraded hp htype,
      switchesAbout_append, switchesAbout_of_degraded hp' htype'] at hchain
    have hafter := (List.isChain_append.mp hchain).2.1
    cases hbetween : switchesAbout p between with
    | nil =>
        rw [hbetween] at hafter
        exact absurd ⟨rfl, rfl⟩ (List.isChain_cons_cons.mp hafter).1
    | cons type types =>
        rw [hbetween] at hafter
        have hne : type ≠ .degraded := fun heq ↦
          (List.isChain_cons_cons.mp hafter).1 ⟨rfl, heq⟩
        obtain ⟨hswitch, r, hr, hrp, hrtype⟩ :=
          mem_of_switchesAbout (hbetween ▸ List.mem_cons_self : type ∈ switchesAbout p between)
        refine ⟨r, hr, hrp, hrtype.trans ?_⟩
        cases type with
        | recovered => rfl
        | degraded => exact absurd rfl hne
        | ready | allReady | slow | missed | lateAck | failure | unknownParticipant
          | clockAnomaly => cases hswitch
  · intro seen call rest _ hchange
    cases hswitches : switchesAbout p ((after params seen).step call).2 with
    | nil =>
        rw [(switches_published params (seen ++ [call]) p).1, published_concat,
          switchesAbout_append, hswitches, List.append_nil] at hchange
        exact absurd (switches_published params seen p).1 hchange
    | cons type types =>
        obtain ⟨htype, e, he, hp, rfl⟩ := mem_of_switchesAbout
          (hswitches ▸ List.mem_cons_self : type ∈ switchesAbout p ((after params seen).step call).2)
        exact ⟨e, he, hp, htype⟩

/-! ## Stray acknowledgements -/

/-- The acknowledgement repeats an earlier one, or names a sequence id that has
not been triggered. -/
def Stray (params : Params D) (seen : List (CoordinatorCall D)) (msg : SyncAck D) : Prop :=
  (∃ earlier ackTime responseTime, .ack earlier ackTime responseTime ∈ seen ∧
    earlier.participantId = msg.participantId ∧ earlier.sequenceId = msg.sequenceId) ∨
  ¬(1 ≤ msg.sequenceId ∧ msg.sequenceId ≤ (after params seen).sequenceId)

/-- An acknowledgement is ignored exactly when it comes from no participant. -/
theorem health_ack_iff (params : Params D) (seen : List (CoordinatorCall D)) (msg : SyncAck D)
    (ackTime responseTime : RosTime) :
    (after params (seen ++ [.ack msg ackTime responseTime])).health msg.participantId =
        (after params seen).health msg.participantId ↔
      msg.participantId ∉ params.participantIds := by
  have hmem := (bookkept_after params seen).participants msg.participantId
  rw [after_concat, health_step, outcomesFrom_singleton, outcomeOf, ← hmem]
  by_cases hknown : msg.participantId ∈ (after params seen).participantStatus
  · rw [if_pos ⟨rfl, hknown⟩]
    exact iff_of_false (Health.next_acked_ne _ _ _ _) (not_not_intro hknown)
  · rw [if_neg fun h ↦ hknown h.2]
    exact iff_of_true rfl hknown

/-- Every stray acknowledgement counts: a run in which they all leave their
participant's record alone is one in which none comes from a participant. -/
theorem strays_ignored_iff (params : Params D) (calls : List (CoordinatorCall D)) :
    (∀ seen msg ackTime responseTime rest,
      calls = seen ++ .ack msg ackTime responseTime :: rest → Stray params seen msg →
      (after params (seen ++ [.ack msg ackTime responseTime])).health msg.participantId =
        (after params seen).health msg.participantId) ↔
    ∀ seen msg ackTime responseTime rest,
      calls = seen ++ .ack msg ackTime responseTime :: rest → Stray params seen msg →
      msg.participantId ∉ params.participantIds := by
  constructor
  · intro h seen msg ackTime responseTime rest hcalls hstray
    apply (health_ack_iff params seen msg ackTime responseTime).mp
    exact h seen msg ackTime responseTime rest hcalls hstray
  · intro h seen msg ackTime responseTime rest hcalls hstray
    apply (health_ack_iff params seen msg ackTime responseTime).mpr
    exact h seen msg ackTime responseTime rest hcalls hstray

/-- A participant that missed a cycle and completed one. -/
def missedOne : List (CoordinatorCall ℚ) :=
  soloStart ++ [soloTrigger, .responseTimer 1, soloTrigger, soloAck 2]

/-- Five copies of one acknowledgement are five good cycles, and a recovery. -/
theorem duplicates_recover :
    soloParams.recoveryGoodCycles = 5 ∧
    (∀ e ∈ Machine.trace step (create soloParams)
        (missedOne ++ [soloAck 2, soloAck 2, soloAck 2, soloAck 2]), e.state.Fires e.input) ∧
    (after soloParams missedOne).statusOf 1 = .missing ∧
    ((after soloParams missedOne).health 1).goodCycleCount = 1 ∧
    ((after soloParams (missedOne ++ [soloAck 2])).health 1).goodCycleCount = 2 ∧
    (after soloParams (missedOne ++ [soloAck 2, soloAck 2, soloAck 2, soloAck 2])).statusOf 1 =
      .ok := by
  decide +kernel

end RuntimeSync.SyncCoordinator
