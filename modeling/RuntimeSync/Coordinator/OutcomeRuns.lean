import RuntimeSync.Coordinator.Outcomes

/-!
# The outcomes of a run

A callback has at most one outcome for a participant.  With an outcome it acts
on the participant as the judgement does, and without one it leaves the
participant alone.
-/

namespace RuntimeSync

variable {D : Type} [TimingArith D]

def Publication.about (p : UInt32) : Publication D → Option (SyncEvent D)
  | .event e => if e.participantId = p then some e else none
  | _ => none

/-- The events about `p` among the publications. -/
def eventsAbout (p : UInt32) (output : List (Publication D)) : List (SyncEvent D) :=
  output.filterMap (Publication.about p)

/-- The switches of the status of `p` among the publications. -/
def switchesAbout (p : UInt32) (output : List (Publication D)) : List EventType :=
  ((eventsAbout p output).map SyncEvent.eventType).filter EventType.isSwitch

/-- The sequence id that a call is about. -/
def CoordinatorCall.sequenceId : CoordinatorCall D → ℕ
  | .ack msg .. => msg.sequenceId
  | .responseTimer sequenceId => sequenceId
  | _ => 0

omit [TimingArith D] in
theorem mem_eventsAbout {p : UInt32} {output : List (Publication D)} {e : SyncEvent D} :
    e ∈ eventsAbout p output ↔ .event e ∈ output ∧ e.participantId = p := by
  rw [eventsAbout, List.mem_filterMap]
  constructor
  · rintro ⟨publication, hmem, habout⟩
    cases publication with
    | trigger msg => cases habout
    | statistics msg => cases habout
    | event e' =>
        rw [Publication.about] at habout
        split at habout
        · next hp =>
            obtain rfl := Option.some.inj habout
            exact ⟨hmem, hp⟩
        · cases habout
  · rintro ⟨hmem, hp⟩
    exact ⟨.event e, hmem, if_pos hp⟩

section

variable (p : UInt32)

omit [TimingArith D] in
theorem eventsAbout_append (output output' : List (Publication D)) :
    eventsAbout p (output ++ output') = eventsAbout p output ++ eventsAbout p output' :=
  List.filterMap_append

omit [TimingArith D] in
theorem switchesAbout_append (output output' : List (Publication D)) :
    switchesAbout p (output ++ output') = switchesAbout p output ++ switchesAbout p output' := by
  rw [switchesAbout, eventsAbout_append, List.map_append, List.filter_append]
  rfl

omit [TimingArith D] in
/-- Events of one participant are all about it, and not about another one. -/
theorem eventsAbout_map {q : UInt32} {events : List (SyncEvent D)}
    (h : ∀ e ∈ events, e.participantId = q) :
    eventsAbout p (events.map .event) = if q = p then events else [] := by
  rw [eventsAbout, List.filterMap_map]
  by_cases hq : q = p
  · rw [if_pos hq]
    refine (List.filterMap_congr fun e he ↦ ?_).trans List.filterMap_some
    exact if_pos ((h e he).trans hq)
  · rw [if_neg hq, List.filterMap_eq_nil_iff]
    intro e he
    exact if_neg fun heq ↦ hq ((h e he).symm.trans heq)

omit [TimingArith D] in
/-- The events of a loop over participants about one of them. -/
theorem eventsAbout_flatMap {participants : List UInt32} (hnodup : participants.Nodup)
    {events : UInt32 → List (SyncEvent D)} (h : ∀ q, ∀ e ∈ events q, e.participantId = q) :
    eventsAbout p ((participants.flatMap events).map .event) =
      if p ∈ participants then events p else [] := by
  induction participants with
  | nil => rfl
  | cons q participants ih =>
      obtain ⟨hq, hnodup⟩ := List.nodup_cons.mp hnodup
      rw [List.flatMap_cons, List.map_append, eventsAbout_append, eventsAbout_map p (h q),
        ih hnodup]
      by_cases heq : q = p
      · subst heq
        simp [hq]
      · simp [heq, Ne.symm heq]

theorem eventsAbout_statistics (c : SyncCoordinator D) :
    eventsAbout p c.publishStatistics = [] := rfl

theorem eventsAbout_due (c : SyncCoordinator D) :
    eventsAbout p c.publishStatisticsIfCycleDue = [] := by
  rw [SyncCoordinator.publishStatisticsIfCycleDue]
  split
  · rfl
  · rfl

end

namespace SyncCoordinator

/-! ## One call -/

/-- What the coordinator thinks of `p`; it starts so for every participant. -/
def health (c : SyncCoordinator D) (p : UInt32) : Health :=
  (c.participantStatus[p]?.map ParticipantStatus.health).getD {}

/-- The outcome of a call for `p`. -/
def outcomeOf (c : SyncCoordinator D) (p : UInt32) : CoordinatorCall D → Option Outcome
  | .ack msg .. =>
      if msg.participantId = p ∧ p ∈ c.participantStatus then some (c.config.outcome msg) else none
  | .responseTimer sequenceId => if c.Pending p sequenceId then some .missed else none
  | _ => none

/-- Where an outcome comes from. -/
theorem outcomeOf_eq_some {c : SyncCoordinator D} {p : UInt32} {call : CoordinatorCall D}
    {o : Outcome} (h : c.outcomeOf p call = some o) :
    (∃ msg ackTime responseTime, call = .ack msg ackTime responseTime ∧ msg.participantId = p ∧
      p ∈ c.participantStatus ∧ o = c.config.outcome msg) ∨
    ∃ sequenceId, call = .responseTimer sequenceId ∧ c.Pending p sequenceId ∧ o = .missed := by
  cases call with
  | ack msg ackTime responseTime =>
      rw [outcomeOf] at h
      split at h
      · next hp => exact .inl ⟨msg, _, _, rfl, hp.1, hp.2, (Option.some.inj h).symm⟩
      · cases h
  | responseTimer sequenceId =>
      rw [outcomeOf] at h
      split at h
      · next hpending => exact .inr ⟨sequenceId, rfl, hpending, (Option.some.inj h).symm⟩
      · cases h
  | ready msg => cases h
  | syncTimer now => cases h
  | statisticsTimer => cases h
  | spin => cases h

theorem health_of_status {c : SyncCoordinator D} {p : UInt32} {status : ParticipantStatus D}
    (h : c.participantStatus[p]? = some status) : c.health p = status.health := by
  rw [health, h]
  rfl

theorem health_getD (c : SyncCoordinator D) (p : UInt32) :
    (c.participantStatus[p]?.getD {}).health = c.health p := by
  rw [health]
  cases c.participantStatus[p]? with
  | none => rfl
  | some status => rfl

theorem health_congr {c c' : SyncCoordinator D} {p : UInt32}
    (h : c'.participantStatus[p]? = c.participantStatus[p]?) : c'.health p = c.health p := by
  rw [health, health, h]

theorem health_insert_of_ne {c c' : SyncCoordinator D} {p q : UInt32}
    {status : ParticipantStatus D} (h : c'.participantStatus = c.participantStatus.insert q status)
    (hne : q ≠ p) : c'.health p = c.health p := by
  apply health_congr
  rw [h, Std.ExtTreeMap.getElem?_insert]
  simp [hne]

theorem health_insert_self {c c' : SyncCoordinator D} {p : UInt32} {status : ParticipantStatus D}
    (h : c'.participantStatus = c.participantStatus.insert p status) :
    c'.health p = status.health := by
  apply health_of_status
  rw [h, Std.ExtTreeMap.getElem?_insert_self]

/-- The sequence id of a check that finds `p` pending. -/
def missedCheck (p : UInt32) (c : SyncCoordinator D) : CoordinatorCall D → Option ℕ
  | .responseTimer sequenceId => if c.Pending p sequenceId then some sequenceId else none
  | _ => none

theorem isSome_missedCheck (p : UInt32) (c : SyncCoordinator D) (call : CoordinatorCall D) :
    (missedCheck p c call).isSome = (c.outcomeOf p call == some .missed) := by
  cases call with
  | responseTimer sequenceId =>
      rw [missedCheck, outcomeOf]
      split
      · rfl
      · rfl
  | ack msg ackTime responseTime =>
      rw [outcomeOf]
      split
      · rfl
      · rfl
  | ready msg => rfl
  | syncTimer now => rfl
  | statisticsTimer => rfl
  | spin => rfl

/-- An event that says nothing about the status or about a round. -/
def Neutral (e : SyncEvent D) : Prop :=
  e.eventType = .unknownParticipant ∨ e.eventType = .ready ∨ e.eventType = .allReady

omit [TimingArith D] in
theorem neutral_of_mem {p : UInt32} {output : List (Publication D)}
    (h : ∀ e, .event e ∈ output → Neutral e) : ∀ e ∈ eventsAbout p output, Neutral e := by
  intro e he
  exact h e (mem_eventsAbout.mp he).1

theorem step_of_no_outcome {c : SyncCoordinator D} {p : UInt32} {call : CoordinatorCall D}
    (h : c.outcomeOf p call = none) :
    (c.step call).1.health p = c.health p ∧
      ∀ e ∈ eventsAbout p (c.step call).2, Neutral e := by
  have heffect := c.effect_step call
  generalize c.step call = result at heffect ⊢
  cases heffect with
  | quiet hquiet =>
      refine ⟨health_congr (congrArg (·[p]?) hquiet.participants), ?_⟩
      exact neutral_of_mem fun e he ↦ (hquiet.events e he).imp_right .inr
  | @readied msg _ _ hstatus _ _ _ hparticipants =>
      constructor
      · by_cases heq : msg.participantId = p
        · subst heq
          rw [health_insert_self hparticipants, health_of_status hstatus]
          rfl
        · exact health_insert_of_ne hparticipants heq
      · apply neutral_of_mem
        intro e he
        simp only [publishStatistics, List.mem_cons, Publication.event.injEq, reduceCtorEq,
          List.not_mem_nil, or_false] at he
        exact he ▸ .inr (.inl rfl)
  | @acked msg _ responseTime status _ hstatus _ _ hparticipants _ =>
      have hne : msg.participantId ≠ p := by
        intro heq
        rw [outcomeOf, if_pos ⟨heq, heq ▸ mem_of_status hstatus⟩] at h
        cases h
      refine ⟨health_insert_of_ne hparticipants hne, ?_⟩
      rw [eventsAbout_append, eventsAbout_due, List.append_nil, eventsAbout_map p fun e he ↦
        ((c.config.judgement_judgeAck msg _ responseTime status).origin e he).1, if_neg hne]
      exact List.forall_mem_nil _
  | @triggered _ c' _ _ hparticipants _ =>
      refine ⟨health_congr (congrArg (·[p]?) hparticipants), ?_⟩
      rw [eventsAbout, List.filterMap_cons_none rfl]
      change ∀ e ∈ eventsAbout p c'.publishStatisticsIfCycleDue, Neutral e
      rw [eventsAbout_due]
      exact List.forall_mem_nil _
  | @checked sequenceId _ _ _ hparticipants _ =>
      have hpending : ¬c.Pending p sequenceId := by
        intro hpending
        rw [outcomeOf, if_pos hpending] at h
        cases h
      refine ⟨health_congr ((hparticipants p).trans (if_neg hpending)), ?_⟩
      rw [eventsAbout_append, eventsAbout_statistics, List.append_nil,
        eventsAbout_flatMap p (c.nodup_pendingAt sequenceId) fun q e he ↦
          ((c.config.judgement_judgeMissed q sequenceId _).origin e he).1,
        if_neg fun hmem ↦ hpending (mem_pendingAt.mp hmem)]
      exact List.forall_mem_nil _

theorem step_of_outcome {c : SyncCoordinator D} {p : UInt32} {call : CoordinatorCall D}
    {o : Outcome} (h : c.outcomeOf p call = some o) :
    ∃ (judged : ParticipantStatus D × List (SyncEvent D)) (lateAck : Bool),
      c.config.Judgement (c.health p) o p call.sequenceId lateAck judged ∧
      (lateAck = true ↔ o ≠ .missed ∧ c.isLate p call.sequenceId = true) ∧
      (c.step call).1.health p = judged.1.health ∧
      eventsAbout p (c.step call).2 = judged.2 := by
  rcases outcomeOf_eq_some h with
    ⟨msg, ackTime, responseTime, rfl, rfl, hmem, rfl⟩ | ⟨sequenceId, rfl, hpending, rfl⟩
  · obtain ⟨status, hstatus⟩ := Option.isSome_iff_exists.mp
      (Std.ExtTreeMap.isSome_getElem?_iff_mem.mpr hmem)
    obtain ⟨c', hstep, -, -, hparticipants, -⟩ :=
      syncAckCallback_of_known hstatus ackTime responseTime
    rw [step, hstep, health_of_status hstatus]
    have hjudgement := c.config.judgement_judgeAck msg
      (c.isLate msg.participantId msg.sequenceId) responseTime status
    refine ⟨_, _, hjudgement, ⟨fun hlate ↦ ⟨Outcome.acked_ne_missed _ _ _, hlate⟩,
      fun hlate ↦ hlate.2⟩, health_insert_self hparticipants, ?_⟩
    rw [eventsAbout_append, eventsAbout_due, List.append_nil,
      eventsAbout_map _ fun e he ↦ (hjudgement.origin e he).1, if_pos rfl]
  · obtain ⟨c', hstep, -, -, hparticipants, -⟩ := c.checkResponses_eq sequenceId
    have hjudgement (q : UInt32) := c.config.judgement_judgeMissed q sequenceId
      (c.participantStatus[q]?.getD {})
    have hp := (hparticipants p).trans (if_pos hpending)
    rw [step, hstep]
    refine ⟨_, false, c.health_getD p ▸ hjudgement p, by simp, health_of_status hp, ?_⟩
    rw [eventsAbout_append, eventsAbout_statistics, List.append_nil,
      eventsAbout_flatMap p (c.nodup_pendingAt sequenceId)
        fun q e he ↦ ((hjudgement q).origin e he).1,
      if_pos (mem_pendingAt.mpr hpending)]

/-! ## Histories -/

/-- The outcomes for `p` in the calls from `c` on. -/
def outcomesFrom (c : SyncCoordinator D) (calls : List (CoordinatorCall D)) (p : UInt32) :
    List Outcome :=
  (Machine.trace step c calls).filterMap fun e ↦ e.state.outcomeOf p e.input

def outcomes (params : Params D) (calls : List (CoordinatorCall D)) (p : UInt32) : List Outcome :=
  outcomesFrom (create params) calls p

/-- Everything that a run publishes, in order. -/
def published (params : Params D) (calls : List (CoordinatorCall D)) : List (Publication D) :=
  (Machine.trace step (create params) calls).flatMap Machine.Entry.output

theorem outcomes_append (params : Params D) (calls calls' : List (CoordinatorCall D))
    (p : UInt32) :
    outcomes params (calls ++ calls') p =
      outcomes params calls p ++ outcomesFrom (after params calls) calls' p := by
  rw [outcomes, outcomesFrom, Machine.trace_append, List.filterMap_append]
  rfl

theorem outcomesFrom_singleton (c : SyncCoordinator D) (call : CoordinatorCall D) (p : UInt32) :
    outcomesFrom c [call] p = (c.outcomeOf p call).toList := by
  rw [outcomesFrom, Machine.trace_cons, Machine.trace_nil]
  cases hout : c.outcomeOf p call with
  | none => exact List.filterMap_cons_none hout
  | some o => exact List.filterMap_cons_some hout

theorem published_concat (params : Params D) (calls : List (CoordinatorCall D))
    (call : CoordinatorCall D) :
    published params (calls ++ [call]) =
      published params calls ++ ((after params calls).step call).2 := by
  rw [published, Machine.trace_append, List.flatMap_append, published]
  simp [after]

theorem config_after (params : Params D) (calls : List (CoordinatorCall D)) :
    (after params calls).config = params.config :=
  (bookkept_after params calls).config

/-- An outcome of a run is a miss or comes from an acknowledgement of it. -/
theorem mem_outcomesFrom {params : Params D} {seen calls : List (CoordinatorCall D)} {p : UInt32}
    {o : Outcome} (h : o ∈ outcomesFrom (after params seen) calls p) :
    o = .missed ∨ ∃ msg ackTime responseTime, .ack msg ackTime responseTime ∈ calls ∧
      msg.participantId = p ∧ o = params.config.outcome msg := by
  obtain ⟨e, he, hout⟩ := List.mem_filterMap.mp h
  rcases outcomeOf_eq_some hout with
    ⟨msg, ackTime, responseTime, hinput, hp, -, ho⟩ | ⟨sequenceId, -, -, ho⟩
  · obtain ⟨pre, post, -, hstate, -⟩ := Machine.mem_trace step he
    rw [after, ← Machine.run_append] at hstate
    rw [hstate] at ho
    exact .inr ⟨msg, ackTime, responseTime, hinput ▸ Machine.trace_input_mem step he, hp,
      config_after params (seen ++ pre) ▸ ho⟩
  · exact .inl ho

theorem health_step (c : SyncCoordinator D) (call : CoordinatorCall D) (p : UInt32) :
    (c.step call).1.health p =
      (c.health p).judge c.config.limit c.config.recovery (outcomesFrom c [call] p) := by
  rw [outcomesFrom_singleton]
  cases hout : c.outcomeOf p call with
  | none => exact (step_of_no_outcome hout).1
  | some o =>
      obtain ⟨judged, lateAck, hjudgement, -, hhealth, -⟩ := step_of_outcome hout
      exact hhealth.trans hjudgement.health

/-- A participant's record is what its outcomes make of it. -/
theorem health_after (params : Params D) (calls : List (CoordinatorCall D)) (p : UInt32) :
    (after params calls).health p =
      Health.judge params.config.limit params.config.recovery {} (outcomes params calls p) := by
  induction calls using List.reverseRecOn with
  | nil =>
      change (create params).health p = {}
      rw [health, getElem?_create]
      split
      · rfl
      · rfl
  | append_singleton calls call ih =>
      rw [after_concat, health_step, ih, config_after, outcomes_append, Health.judge_append]

end SyncCoordinator

end RuntimeSync
