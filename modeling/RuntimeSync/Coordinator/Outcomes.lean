import RuntimeSync.Coordinator.Health
import RuntimeSync.Coordinator.Rounds

/-!
# Outcomes in a run

Every acknowledgement of a participant and every check that misses it is an
outcome, and the record of a participant is what its outcomes make of it.
-/

namespace RuntimeSync

variable {D : Type} [TimingArith D]

def ParticipantStatus.health (status : ParticipantStatus D) : Health where
  missedCount := status.missedCount
  consecutiveMissedCount := status.consecutiveMissedCount
  slowCount := status.slowCount
  consecutiveSlowCount := status.consecutiveSlowCount
  failureCount := status.failureCount
  consecutiveFailureCount := status.consecutiveFailureCount
  goodCycleCount := status.goodCycleCount
  status := status.status

/-- The events that tell of a change of the status. -/
def EventType.isSwitch : EventType → Bool
  | .degraded | .recovered => true
  | _ => false

namespace CoordinatorConfig

variable (config : CoordinatorConfig D)

def limit : UInt32 := config.maxConsecutiveTimeouts.toUInt32

def recovery : UInt32 := config.recoveryGoodCycles.toUInt32

def outcome (msg : SyncAck D) : Outcome :=
  .acked msg.clockAnomaly (!msg.success) (config.isSlow msg)

/-! ## One judgement -/

theorem health_setStatus (status : ParticipantStatus D) (fallback : SyncStatus) :
    (status.setStatus (config.degradedIfNeeded status fallback)).health =
      status.health.raise config.limit fallback := by
  have hcandidate : config.degradedIfNeeded status fallback =
      status.health.candidate config.limit fallback := rfl
  rw [ParticipantStatus.setStatus, hcandidate, Health.raise]
  split
  · next hle => exact (if_pos hle).symm
  · next hlt => exact (if_neg hlt).symm

theorem health_judgeMissed (participantId : UInt32) (sequenceId : ℕ)
    (status : ParticipantStatus D) :
    (config.judgeMissed participantId sequenceId status).1.health =
      status.health.next config.limit config.recovery .missed :=
  config.health_setStatus _ .missing

theorem health_recordSample (status : ParticipantStatus D) (computationMs cycleMs : D) :
    (config.recordSample status computationMs cycleMs).health = status.health := by
  rw [recordSample]
  dsimp only
  split
  · rfl
  · rfl

theorem health_recordHealthyAck (status : ParticipantStatus D) (participantId : UInt32)
    (sequenceId : ℕ) (cycleMs computationMs : D) :
    (config.recordHealthyAck status participantId sequenceId cycleMs computationMs).1.health =
      status.health.recover config.recovery := by
  rw [recordHealthyAck, Health.recover]
  by_cases hok : status.status = .ok
  · simp [hok, ParticipantStatus.health]
  · by_cases hgood : config.recoveryGoodCycles.toUInt32 ≤ status.goodCycleCount + 1
    · simp [hok, hgood, ParticipantStatus.health, recovery]
    · simp [hok, hgood, ParticipantStatus.health, recovery]

theorem events_recordHealthyAck (status : ParticipantStatus D) (participantId : UInt32)
    (sequenceId : ℕ) (cycleMs computationMs : D) :
    (config.recordHealthyAck status participantId sequenceId cycleMs computationMs).2 =
      if status.status ≠ .ok ∧
          (config.recordHealthyAck status participantId sequenceId cycleMs
            computationMs).1.status = .ok then
        [syncEvent .recovered participantId sequenceId
          (text "Participant recovered after consecutive healthy acks") cycleMs computationMs 0.0]
      else [] := by
  rw [recordHealthyAck]
  by_cases hok : status.status = .ok
  · simp [hok]
  · by_cases hgood : config.recoveryGoodCycles.toUInt32 ≤ status.goodCycleCount + 1
    · simp [hok, hgood]
    · simp [hok, hgood]

theorem not_slow_of_anomaly {msg : SyncAck D} (h : msg.clockAnomaly = true) :
    config.isSlow msg = false := by
  rw [isSlow, h]
  rfl

theorem ite_pair {α β : Type} (P : Prop) [Decidable P] (a : α) (b b' : β) :
    (if P then (a, b) else (a, b')) = (a, if P then b else b') := by
  split
  · rfl
  · rfl

/-- The events that are published about an outcome whatever the status. -/
structure Reports (o : Outcome) (participantId : UInt32) (sequenceId : ℕ) (lateAck : Bool)
    (events : List (SyncEvent D)) : Prop where
  origin : ∀ e ∈ events, e.participantId = participantId ∧ e.sequenceId = sequenceId
  noSwitch : ∀ e ∈ events, e.eventType.isSwitch = false
  missed : (events.map SyncEvent.eventType).count .missed = if o = .missed then 1 else 0
  late : (events.map SyncEvent.eventType).count .lateAck = if lateAck then 1 else 0

/-- An event about an acknowledgement itself. -/
def Plain (msg : SyncAck D) (e : SyncEvent D) : Prop :=
  (e.participantId = msg.participantId ∧ e.sequenceId = msg.sequenceId) ∧
    (e.eventType = .clockAnomaly ∨ e.eventType = .failure ∨ e.eventType = .slow)

omit [TimingArith D] in
theorem Plain.not_counted {msg : SyncAck D} {e : SyncEvent D} (h : Plain msg e) :
    e.eventType ≠ .missed ∧ e.eventType ≠ .lateAck ∧ e.eventType.isSwitch = false := by
  rcases h.2 with h | h | h
  all_goals exact h ▸ ⟨nofun, nofun, rfl⟩

omit [TimingArith D] in
theorem count_of_plain {msg : SyncAck D} {events : List (SyncEvent D)}
    (hplain : ∀ e ∈ events, Plain msg e) :
    (events.map SyncEvent.eventType).count .missed = 0 ∧
      (events.map SyncEvent.eventType).count .lateAck = 0 := by
  constructor
  all_goals
    apply List.count_eq_zero.mpr
    intro hmem
    obtain ⟨e, he, htype⟩ := List.mem_map.mp hmem
  · exact (hplain e he).not_counted.1 htype
  · exact (hplain e he).not_counted.2.1 htype

omit [TimingArith D] in
/-- The reports about an acknowledgement, with the one of a late one among them. -/
theorem reports_of_parts {msg : SyncAck D} {o : Outcome} (hne : o ≠ .missed) {lateAck : Bool}
    {anomaly report failure slow : List (SyncEvent D)}
    (hplain : ∀ e ∈ anomaly ++ (failure ++ slow), Plain msg e)
    (hreport : ∀ e ∈ report, (e.participantId = msg.participantId ∧
      e.sequenceId = msg.sequenceId) ∧ e.eventType = .lateAck)
    (hlength : report.length = if lateAck then 1 else 0) :
    Reports o msg.participantId msg.sequenceId lateAck (anomaly ++ report ++ failure ++ slow) := by
  have hmem {e : SyncEvent D} (he : e ∈ anomaly ++ report ++ failure ++ slow) :
      Plain msg e ∨ e ∈ report := by
    simp only [List.mem_append] at he
    rcases he with ((he | he) | he) | he
    · exact .inl (hplain e (by simp [he]))
    · exact .inr he
    · exact .inl (hplain e (by simp [he]))
    · exact .inl (hplain e (by simp [he]))
  obtain ⟨hmissed, hlate⟩ := count_of_plain hplain
  have htypes : report.map SyncEvent.eventType = List.replicate report.length .lateAck :=
    List.eq_replicate_iff.mpr ⟨List.length_map _, fun type htype ↦ by
      obtain ⟨e, he, rfl⟩ := List.mem_map.mp htype
      exact (hreport e he).2⟩
  simp only [List.map_append, List.count_append] at hmissed hlate
  constructor
  · exact fun e he ↦ (hmem he).elim And.left fun he ↦ (hreport e he).1
  · intro e he
    rcases hmem he with hplain | he
    · exact hplain.not_counted.2.2
    · rw [(hreport e he).2]
      rfl
  · rw [if_neg hne]
    simp only [List.map_append, List.count_append, htypes, List.count_replicate]
    rw [if_neg (by decide)]
    omega
  · rw [← hlength]
    simp only [List.map_append, List.count_append, htypes, List.count_replicate_self]
    omega

omit [TimingArith D] in
theorem reports_of_plain {msg : SyncAck D} {anomalous failed slowed : Bool} (lateAck : Bool)
    {anomaly failure slow : List (SyncEvent D)} {cycleMs : D}
    (hplain : ∀ e ∈ anomaly ++ (failure ++ slow), Plain msg e) :
    Reports (.acked anomalous failed slowed) msg.participantId msg.sequenceId lateAck (anomaly ++
      (if lateAck then
        [syncEvent .lateAck msg.participantId msg.sequenceId
          (text "Ack arrived after the response timeout") cycleMs msg.computationMs
          config.timeoutThresholdMs]
      else []) ++ failure ++ slow) := by
  apply reports_of_parts (Outcome.acked_ne_missed _ _ _) hplain
  · intro e he
    split at he
    · exact List.mem_singleton.mp he ▸ ⟨⟨rfl, rfl⟩, rfl⟩
    · cases he
  · split
    · rfl
    · rfl

/-- An acknowledgement that is not healthy is judged as its outcome says, and a
participant that enters the degraded status by it is published last. -/
theorem judgeAck_of_abnormal {msg : SyncAck D} (h : (config.outcome msg).healthy = false)
    (lateAck : Bool) (responseTime : RosTime) (status : ParticipantStatus D) :
    ∃ (judged : ParticipantStatus D) (events : List (SyncEvent D)) (cycleMs : D),
      config.judgeAck msg lateAck responseTime status =
        (judged, events ++
          if status.status ≠ .degraded ∧ judged.status = .degraded then
            [syncEvent .degraded msg.participantId msg.sequenceId
              (text "Participant entered degraded status") cycleMs msg.computationMs
              config.timeoutThresholdMs]
          else []) ∧
      judged.health = status.health.next config.limit config.recovery (config.outcome msg) ∧
      Reports (config.outcome msg) msg.participantId msg.sequenceId lateAck events := by
  obtain ⟨filed, hfiled, hhealth⟩ : ∃ filed : ParticipantStatus D,
      filed = { status with
        lastResponseTime := responseTime, lastAckSequenceId := msg.sequenceId } ∧
      filed.health = status.health := ⟨_, rfl, rfl⟩
  have hstatus : status.status = filed.status := congrArg Health.status hhealth.symm
  rw [judgeAck, ← hfiled, hstatus, ← hhealth]
  clear hfiled hstatus hhealth
  rw [outcome] at h ⊢
  cases hanomaly : msg.clockAnomaly with
  | true =>
      have hslow := config.not_slow_of_anomaly hanomaly
      cases hsuccess : msg.success with
      | true =>
          simp only [hslow, if_true, Bool.not_true, Bool.false_eq_true, if_false, Bool.false_and,
            ite_pair]
          refine ⟨_, _, _, rfl, config.health_setStatus _ .failed, ?_⟩
          exact config.reports_of_plain lateAck (by simp [Plain, syncEvent])
      | false =>
          simp only [hslow, if_true, Bool.not_true, Bool.not_false, Bool.false_eq_true, if_false,
            Bool.false_and, ite_pair]
          refine ⟨_, _, _, rfl, ?_, ?_⟩
          · rw [health_setStatus, health_setStatus, Health.raise_raise]
            rfl
          · exact config.reports_of_plain lateAck (by simp [Plain, syncEvent])
  | false =>
      rw [← config.health_recordSample filed msg.computationMs msg.cycleMs]
      cases hsuccess : msg.success with
      | false =>
          cases hslow : config.isSlow msg with
          | false =>
              simp only [if_true, Bool.not_false, Bool.not_true, Bool.false_eq_true, if_false,
                Bool.and_false, ite_pair]
              refine ⟨_, _, _, rfl, config.health_setStatus _ .failed, ?_⟩
              exact config.reports_of_plain lateAck (by simp [Plain, syncEvent])
          | true =>
              simp only [if_true, Bool.not_false, Bool.not_true, Bool.false_eq_true, if_false,
                Bool.and_false, ite_pair]
              refine ⟨_, _, _, rfl, ?_, ?_⟩
              · rw [health_setStatus, Health.next_failed rfl]
                exact congrArg (Health.slowDown config.limit) (config.health_setStatus _ .failed)
              · exact config.reports_of_plain lateAck (by simp [Plain, syncEvent])
      | true =>
          cases hslow : config.isSlow msg with
          | false => simp [hanomaly, hsuccess, hslow, Outcome.healthy] at h
          | true =>
              simp only [if_true, Bool.not_false, Bool.not_true, Bool.false_eq_true, if_false,
                Bool.and_false, ite_pair]
              refine ⟨_, _, _, rfl, config.health_setStatus _ .slow, ?_⟩
              exact config.reports_of_plain lateAck (by simp [Plain, syncEvent])

/-- A healthy acknowledgement counts as a good cycle, and a participant that
recovers by it is published last. -/
theorem judgeAck_of_healthy {msg : SyncAck D} (h : (config.outcome msg).healthy = true)
    (lateAck : Bool) (responseTime : RosTime) (status : ParticipantStatus D) :
    ∃ (judged : ParticipantStatus D) (events : List (SyncEvent D)),
      config.judgeAck msg lateAck responseTime status =
        (judged, events ++
          if status.status ≠ .ok ∧ judged.status = .ok then
            [syncEvent .recovered msg.participantId msg.sequenceId
              (text "Participant recovered after consecutive healthy acks") msg.cycleMs
              msg.computationMs 0.0]
          else []) ∧
      judged.health = status.health.next config.limit config.recovery (config.outcome msg) ∧
      Reports (config.outcome msg) msg.participantId msg.sequenceId lateAck events := by
  rw [Health.next_of_healthy h]
  cases hanomaly : msg.clockAnomaly with
  | true => simp [outcome, hanomaly, Outcome.healthy] at h
  | false =>
      cases hsuccess : msg.success with
      | false => simp [outcome, hanomaly, hsuccess, Outcome.healthy] at h
      | true =>
          cases hslow : config.isSlow msg with
          | true => simp [outcome, hanomaly, hsuccess, hslow, Outcome.healthy] at h
          | false =>
              obtain ⟨filed, hfiled, hhealth⟩ : ∃ filed : ParticipantStatus D,
                  filed = { status with
                    lastResponseTime := responseTime, lastAckSequenceId := msg.sequenceId } ∧
                  filed.health = status.health := ⟨_, rfl, rfl⟩
              have hsample := config.health_recordSample filed msg.computationMs msg.cycleMs
              have hstatus := congrArg Health.status (hhealth.symm.trans hsample.symm)
              change status.status = (config.recordSample _ _ _).status at hstatus
              rw [judgeAck, ← hfiled, hstatus, ← hhealth, ← hsample]
              clear hfiled hhealth hsample hstatus
              simp only [hanomaly, hsuccess, hslow, if_true, Bool.not_false, Bool.not_true,
                Bool.false_eq_true, if_false, Bool.and_true, ite_pair]
              rw [events_recordHealthyAck]
              refine ⟨_, _, rfl, config.health_recordHealthyAck _ _ _ _ _, ?_⟩
              exact config.reports_of_plain lateAck (by simp)

/-- What one judgement does to the health it starts from, and what it publishes. -/
structure Judgement (before : Health) (o : Outcome) (participantId : UInt32) (sequenceId : ℕ)
    (lateAck : Bool) (judged : ParticipantStatus D × List (SyncEvent D)) : Prop where
  health : judged.1.health = before.next config.limit config.recovery o
  origin : ∀ e ∈ judged.2, e.participantId = participantId ∧ e.sequenceId = sequenceId
  switches : (judged.2.map SyncEvent.eventType).filter EventType.isSwitch =
    (Health.switch before.status judged.1.health.status).toList
  missed : (judged.2.map SyncEvent.eventType).count .missed = if o = .missed then 1 else 0
  late : (judged.2.map SyncEvent.eventType).count .lateAck = if lateAck then 1 else 0

/-- Reports with the event of a switch after them, if there is one. -/
theorem judgement_of_reports {o : Outcome} {participantId : UInt32} {sequenceId : ℕ}
    {lateAck : Bool} {events : List (SyncEvent D)}
    (hreports : Reports o participantId sequenceId lateAck events) {before : Health}
    {judged : ParticipantStatus D}
    (hhealth : judged.health = before.next config.limit config.recovery o)
    {switch : List (SyncEvent D)}
    (horigin : ∀ e ∈ switch, (e.participantId = participantId ∧ e.sequenceId = sequenceId) ∧
      e.eventType.isSwitch = true)
    (hswitch : switch.map SyncEvent.eventType =
      (Health.switch before.status judged.health.status).toList) :
    config.Judgement before o participantId sequenceId lateAck (judged, events ++ switch) := by
  have hnone (type : EventType) (htype : type.isSwitch = false) :
      (switch.map SyncEvent.eventType).count type = 0 := by
    apply List.count_eq_zero.mpr
    intro hmem
    obtain ⟨e, he, rfl⟩ := List.mem_map.mp hmem
    exact absurd ((horigin e he).2.symm.trans htype) (by decide)
  constructor
  · exact hhealth
  · intro e he
    rcases List.mem_append.mp he with he | he
    · exact hreports.origin e he
    · exact (horigin e he).1
  · have hplain : (events.map SyncEvent.eventType).filter EventType.isSwitch = [] := by
      apply List.filter_eq_nil_iff.mpr
      intro type htype
      obtain ⟨e, he, rfl⟩ := List.mem_map.mp htype
      rw [hreports.noSwitch e he]
      exact Bool.false_ne_true
    rw [List.map_append, List.filter_append, hplain, List.nil_append, ← hswitch]
    apply List.filter_eq_self.mpr
    intro type htype
    obtain ⟨e, he, rfl⟩ := List.mem_map.mp htype
    exact (horigin e he).2
  · rw [List.map_append, List.count_append, hreports.missed, hnone _ rfl, Nat.add_zero]
  · rw [List.map_append, List.count_append, hreports.late, hnone _ rfl, Nat.add_zero]

/-- The switch is at most one event. -/
theorem judgement_of_switch {o : Outcome} {participantId : UInt32} {sequenceId : ℕ}
    {lateAck : Bool} {events : List (SyncEvent D)}
    (hreports : Reports o participantId sequenceId lateAck events) {before : Health}
    {judged : ParticipantStatus D}
    (hhealth : judged.health = before.next config.limit config.recovery o)
    {switches : Prop} [Decidable switches] {event : SyncEvent D}
    (horigin : event.participantId = participantId ∧ event.sequenceId = sequenceId)
    (htype : event.eventType.isSwitch = true)
    (hswitch : Health.switch before.status judged.health.status =
      if switches then some event.eventType else none) :
    config.Judgement before o participantId sequenceId lateAck
      (judged, events ++ if switches then [event] else []) := by
  apply config.judgement_of_reports hreports hhealth
  · intro e he
    split at he
    · exact List.mem_singleton.mp he ▸ ⟨horigin, htype⟩
    · cases he
  · rw [hswitch]
    split
    · rfl
    · rfl

/-- The reports of an abnormal outcome, and the entry into the degraded status after them. -/
theorem judgement_of_abnormal {o : Outcome} (ho : o.healthy = false) {participantId : UInt32}
    {sequenceId : ℕ} {lateAck : Bool} {events : List (SyncEvent D)}
    (hreports : Reports o participantId sequenceId lateAck events)
    {status judged : ParticipantStatus D}
    (hhealth : judged.health = status.health.next config.limit config.recovery o)
    {message : Str} {cycleMs computationMs thresholdMs : D} :
    config.Judgement status.health o participantId sequenceId lateAck
      (judged, events ++
        if status.status ≠ .degraded ∧ judged.status = .degraded then
          [syncEvent .degraded participantId sequenceId message cycleMs computationMs thresholdMs]
        else []) := by
  have hle : status.health.status.rank ≤ judged.health.status.rank := by
    rw [hhealth]
    exact Health.rank_le_next ho _
  exact config.judgement_of_switch hreports hhealth ⟨rfl, rfl⟩ rfl (Health.switch_of_rank_le hle)

theorem judgement_judgeAck (msg : SyncAck D) (lateAck : Bool) (responseTime : RosTime)
    (status : ParticipantStatus D) :
    config.Judgement status.health (config.outcome msg) msg.participantId msg.sequenceId lateAck
      (config.judgeAck msg lateAck responseTime status) := by
  cases ho : (config.outcome msg).healthy with
  | false =>
      obtain ⟨judged, events, cycleMs, heq, hhealth, hreports⟩ :=
        config.judgeAck_of_abnormal ho lateAck responseTime status
      rw [heq]
      exact config.judgement_of_abnormal ho hreports hhealth
  | true =>
      obtain ⟨judged, events, heq, hhealth, hreports⟩ :=
        config.judgeAck_of_healthy ho lateAck responseTime status
      rw [heq]
      apply config.judgement_of_switch hreports hhealth ⟨rfl, rfl⟩ rfl
      rw [Health.next_of_healthy ho] at hhealth
      rw [hhealth, Health.switch_of_recover, ← hhealth]
      rfl

theorem judgement_judgeMissed (participantId : UInt32) (sequenceId : ℕ)
    (status : ParticipantStatus D) :
    config.Judgement status.health .missed participantId sequenceId false
      (config.judgeMissed participantId sequenceId status) := by
  have hreports : Reports .missed participantId sequenceId false
      [syncEvent .missed participantId sequenceId
        (text "Participant did not ack before the response timeout") 0.0 0.0
        config.timeoutThresholdMs] :=
    ⟨by simp [syncEvent], by simp [syncEvent, EventType.isSwitch], rfl, rfl⟩
  exact config.judgement_of_abnormal rfl hreports
    (config.health_judgeMissed participantId sequenceId status)

end CoordinatorConfig

end RuntimeSync
