import RuntimeSync.Coordinator.Recovery

/-!
# The checks of the responses

A participant owes the response to a sequence id from the trigger on, until it
acknowledges it or the round is erased.  A check counts what is owed.
-/

namespace RuntimeSync.SyncCoordinator

variable {D : Type} [TimingArith D]

/-! ## Responses that are owed -/

/-- The response of `p` to `s` is not owed any more. -/
def Closed (c : SyncCoordinator D) (p : UInt32) (s : ℕ) : Prop :=
  s ≤ c.sequenceId ∧ ¬c.Pending p s

/-- `p` has acknowledged `s` since the trigger of `s`. -/
def Acknowledged (params : Params D) (seen : List (CoordinatorCall D)) (p : UInt32) (s : ℕ) :
    Prop :=
  ∃ before msg ackTime responseTime rest,
    seen = before ++ .ack msg ackTime responseTime :: rest ∧ msg.participantId = p ∧
      msg.sequenceId = s ∧ s ≤ (after params before).sequenceId

theorem Acknowledged.concat {params : Params D} {seen : List (CoordinatorCall D)} {p : UInt32}
    {s : ℕ} (h : Acknowledged params seen p s) (call : CoordinatorCall D) :
    Acknowledged params (seen ++ [call]) p s := by
  obtain ⟨before, msg, ackTime, responseTime, rest, rfl, hp, hs, htriggered⟩ := h
  exact ⟨before, msg, ackTime, responseTime, rest ++ [call], by simp, hp, hs, htriggered⟩

theorem pending_of_step {c : SyncCoordinator D} {call : CoordinatorCall D} {p : UInt32} {s : ℕ}
    (h : (c.step call).1.Pending p s) : c.Pending p s ∨ c.sequenceId < s := by
  obtain ⟨round', hround', hp⟩ := h
  rcases rounds_step hround' with ⟨round, hround, hchange⟩ | ⟨now, -, rfl, -⟩
  · refine .inl ⟨round, hround, ?_⟩
    cases hchange with
    | same _ _ _ => exact hp
    | acked msg _ _ _ _ => exact (Std.ExtTreeSet.mem_erase.mp hp).2
    | checked => exact hp
  · exact .inr (Nat.lt_succ_self _)

theorem closed_step {c : SyncCoordinator D} {p : UInt32} {s : ℕ} (h : c.Closed p s)
    (call : CoordinatorCall D) : (c.step call).1.Closed p s := by
  refine ⟨h.1.trans (c.sequenceId_le_step call), fun hpending ↦ ?_⟩
  rcases pending_of_step hpending with hbefore | hlt
  · exact h.2 hbefore
  · exact absurd h.1 (Nat.not_le.mpr hlt)

/-- An acknowledgement closes what is owed. -/
theorem closed_of_ack {c : SyncCoordinator D} (hbalanced : c.Balanced) (msg : SyncAck D)
    (ackTime responseTime : RosTime) (htriggered : msg.sequenceId ≤ c.sequenceId) :
    (c.step (.ack msg ackTime responseTime)).1.Closed msg.participantId msg.sequenceId := by
  refine ⟨htriggered.trans (c.sequenceId_le_step _), ?_⟩
  rintro ⟨round', hround', hp⟩
  rcases rounds_step hround' with ⟨round, hround, hchange⟩ | ⟨now, hcall, -, -⟩
  · cases hchange with
    | same _ hnot _ =>
        have hmem := ((hbalanced _ round' hround).cover _).mp (.inl hp)
        exact hnot msg ackTime responseTime rfl hmem rfl
    | acked _ _ _ _ _ => exact (Std.ExtTreeSet.mem_erase.mp hp).1 Std.ReflCmp.compare_self
  · cases hcall

theorem closed_of_acknowledged {params : Params D} {seen : List (CoordinatorCall D)} {p : UInt32}
    {s : ℕ} (h : Acknowledged params seen p s) : (after params seen).Closed p s := by
  obtain ⟨before, msg, ackTime, responseTime, rest, rfl, rfl, rfl, htriggered⟩ := h
  have hclosed : (after params (before ++ [.ack msg ackTime responseTime])).Closed
      msg.participantId msg.sequenceId := by
    rw [after_concat]
    exact closed_of_ack (bookkept_after params before).balanced msg ackTime responseTime
      htriggered
  rw [← List.singleton_append, ← List.append_assoc, after, Machine.run_append]
  exact Machine.invariant_run (I := fun c : SyncCoordinator D ↦ c.Closed msg.participantId msg.sequenceId)
    (fun _ call h ↦ closed_step h call) hclosed rest

/-- In a round that is kept, a response that is not owed has been given. -/
theorem pending_or_acknowledged (params : Params D) (seen : List (CoordinatorCall D)) {p : UInt32}
    (hp : p ∈ params.participantIds) (s : ℕ) (round : RoundStatus D)
    (hround : (after params seen).rounds[s]? = some round) :
    p ∈ round.pending ∨ Acknowledged params seen p s := by
  induction seen using List.reverseRecOn generalizing round with
  | nil => simp [after, create] at hround
  | append_singleton seen call ih =>
      have hbookkept := bookkept_after params seen
      rw [after_concat] at hround
      rcases rounds_step hround with ⟨old, hold, hchange⟩ | ⟨now, -, -, rfl⟩
      · rcases ih old hold with hpending | hacknowledged
        · cases hchange with
          | same _ _ _ => exact .inl hpending
          | acked msg ackTime responseTime hmem hs =>
              by_cases heq : msg.participantId = p
              · have hwindow := (hbookkept.windowed s).mp
                  (Std.ExtTreeMap.isSome_getElem?_iff_mem.mp (hold ▸ rfl))
                exact .inr ⟨seen, msg, ackTime, responseTime, [], rfl, heq, hs, hwindow.2.1⟩
              · left
                rw [RoundStatus.acked, Std.ExtTreeSet.mem_erase]
                exact ⟨by simpa using heq, hpending⟩
          | checked => exact .inl hpending
        · exact .inr (hacknowledged.concat call)
      · left
        have hmem := (hbookkept.participants p).mpr hp
        exact RoundStatus.mem_idsOf.mpr hmem

/-! ## Every check counts what is owed -/

/-- The round of `s` is there for the check after `seen`, and the check counts
a miss for every participant that has not acknowledged `s`. -/
def Judged (params : Params D) (seen : List (CoordinatorCall D)) (s : ℕ) : Prop :=
  s ∈ (after params seen).rounds ∧
    ∀ p ∈ params.participantIds, ¬Acknowledged params seen p s →
      ((after params (seen ++ [.responseTimer s])).health p).missedCount =
        ((after params seen).health p).missedCount + 1

theorem judged_iff (params : Params D) (seen : List (CoordinatorCall D)) {s : ℕ} (hpos : 1 ≤ s)
    (htriggered : s ≤ (after params seen).sequenceId) :
    Judged params seen s ↔
      (after params seen).sequenceId ≤ s + (max params.config.statsWindowSize 10).toInt.toNat := by
  have hbookkept := bookkept_after params seen
  have hwindow : s ∈ (after params seen).rounds ↔
      (after params seen).sequenceId ≤ s + (max params.config.statsWindowSize 10).toInt.toNat := by
    rw [hbookkept.windowed s, InWindow, keepCount, hbookkept.config]
    exact ⟨fun h ↦ h.2.2, fun h ↦ ⟨hpos, htriggered, h⟩⟩
  rw [← hwindow]
  refine ⟨fun h ↦ h.1, fun hmem ↦ ⟨hmem, fun p hp hnot ↦ ?_⟩⟩
  obtain ⟨round, hround⟩ := Option.isSome_iff_exists.mp
    (Std.ExtTreeMap.isSome_getElem?_iff_mem.mpr hmem)
  have hpending : (after params seen).Pending p s :=
    ⟨round, hround, (pending_or_acknowledged params seen hp s round hround).resolve_right hnot⟩
  have hout : (after params seen).outcomeOf p (.responseTimer s) = some .missed :=
    if_pos hpending
  rw [after_concat, health_step, outcomesFrom_singleton, hout]
  exact Health.raise_missedCount _

/-- Every check of a triggered sequence id counts its misses exactly when each
comes before the window of rounds has moved past its sequence id. -/
theorem checks_judged_iff (params : Params D) (calls : List (CoordinatorCall D)) :
    (∀ seen s rest, calls = seen ++ .responseTimer s :: rest → 1 ≤ s →
      s ≤ (after params seen).sequenceId → Judged params seen s) ↔
    ∀ seen s rest, calls = seen ++ .responseTimer s :: rest → 1 ≤ s →
      s ≤ (after params seen).sequenceId →
      (after params seen).sequenceId ≤
        s + (max params.config.statsWindowSize 10).toInt.toNat := by
  constructor
  · intro h seen s rest hcalls hpos htriggered
    exact (judged_iff params seen hpos htriggered).mp (h seen s rest hcalls hpos htriggered)
  · intro h seen s rest hcalls hpos htriggered
    exact (judged_iff params seen hpos htriggered).mpr (h seen s rest hcalls hpos htriggered)

/-- A timeout of more than eleven periods, and a window of ten rounds. -/
def longTimeout : Params ℚ :=
  { numUavs := 1, timeoutThresholdMs := 1150, statsWindowSize := 10 }

def twelveTriggers : List (CoordinatorCall ℚ) := soloStart ++ List.replicate 12 soloTrigger

/-- The first check comes when its round is gone, and counts nothing. -/
theorem longTimeout_not_judged :
    (∀ e ∈ Machine.trace step (create longTimeout) (twelveTriggers ++ [.responseTimer 1]),
      e.state.Fires e.input) ∧
    1 ≤ (after longTimeout twelveTriggers).sequenceId ∧
    ¬Judged longTimeout twelveTriggers 1 ∧
    1 ∈ longTimeout.participantIds ∧ ¬Acknowledged longTimeout twelveTriggers 1 1 ∧
    ((after longTimeout (twelveTriggers ++ [.responseTimer 1])).health 1).missedCount = 0 := by
  refine ⟨by decide +kernel, by decide +kernel, ?_, by decide +kernel, ?_, by decide +kernel⟩
  · rw [judged_iff longTimeout twelveTriggers (Nat.le_refl 1) (by decide +kernel)]
    decide +kernel
  · rintro ⟨before, msg, ackTime, responseTime, rest, hcalls, -⟩
    have hmem : .ack msg ackTime responseTime ∈ twelveTriggers := by
      rw [hcalls]
      exact List.mem_append_right before List.mem_cons_self
    simp [twelveTriggers, soloStart, soloTrigger] at hmem

/-! ## Missed and late events -/

/-- How many events of the type there are about `p` and `s`. -/
def countAbout (type : EventType) (p : UInt32) (s : ℕ) (output : List (Publication D)) : ℕ :=
  (eventsAbout p output).countP fun e ↦ e.eventType = type ∧ e.sequenceId = s

/-- The sequence id of an acknowledgement by `p` that comes after its check. -/
def lateAck (p : UInt32) (c : SyncCoordinator D) : CoordinatorCall D → Option ℕ
  | .ack msg .. =>
      if (msg.participantId = p ∧ p ∈ c.participantStatus) ∧ c.isLate p msg.sequenceId then
        some msg.sequenceId
      else none
  | _ => none

/-- The sequence ids that are checked, in order. -/
def checks (calls : List (CoordinatorCall D)) : List ℕ :=
  calls.filterMap fun call ↦
    match call with
    | .responseTimer sequenceId => some sequenceId
    | _ => none

theorem isLate_iff {c : SyncCoordinator D} {p : UInt32} {s : ℕ} :
    c.isLate p s = true ↔
      ∃ round : RoundStatus D, c.rounds[s]? = some round ∧ round.monitorChecked = true ∧
        p ∈ round.pending := by
  rw [isLate]
  cases c.rounds[s]? with
  | none => simp
  | some round => simp

omit [TimingArith D] in
theorem countAbout_append (type : EventType) (p : UInt32) (s : ℕ)
    (output output' : List (Publication D)) :
    countAbout type p s (output ++ output') =
      countAbout type p s output + countAbout type p s output' := by
  rw [countAbout, eventsAbout_append, List.countP_append]
  rfl

omit [TimingArith D] in
theorem countAbout_of_neutral {type : EventType} (htype : type = .missed ∨ type = .lateAck)
    {p : UInt32} (s : ℕ) {output : List (Publication D)}
    (h : ∀ e ∈ eventsAbout p output, Neutral e) : countAbout type p s output = 0 := by
  apply List.countP_eq_zero.mpr
  intro e he hcounted
  obtain ⟨rfl, -⟩ := of_decide_eq_true hcounted
  rcases h e he with h | h | h
  all_goals
    rw [h] at htype
    exact htype.elim nofun nofun

omit [TimingArith D] in
/-- The events of one judgement are all about one sequence id. -/
theorem countAbout_of_origin {type : EventType} {p : UInt32} {s sequenceId : ℕ}
    {output : List (Publication D)} {events : List (SyncEvent D)}
    (hevents : eventsAbout p output = events) (horigin : ∀ e ∈ events, e.sequenceId = sequenceId) :
    countAbout type p s output =
      if sequenceId = s then (events.map SyncEvent.eventType).count type else 0 := by
  rw [countAbout, hevents]
  split
  · next heq =>
      rw [List.count, List.countP_map]
      apply List.countP_congr
      intro e he
      simp [horigin e he, heq]
  · next hne =>
      apply List.countP_eq_zero.mpr
      intro e he hcounted
      exact hne ((horigin e he).symm.trans (of_decide_eq_true hcounted).2)

theorem missedCheck_eq_some {c : SyncCoordinator D} {call : CoordinatorCall D} {p : UInt32}
    {s : ℕ} (h : missedCheck p c call = some s) : call = .responseTimer s ∧ c.Pending p s := by
  cases call with
  | responseTimer sequenceId =>
      rw [missedCheck] at h
      split at h
      · next hpending => exact Option.some.inj h ▸ ⟨rfl, hpending⟩
      · cases h
  | ready msg | ack msg ackTime responseTime | syncTimer now | statisticsTimer | spin => cases h

theorem lateAck_eq_some {c : SyncCoordinator D} {call : CoordinatorCall D} {p : UInt32} {s : ℕ}
    (h : lateAck p c call = some s) :
    c.isLate p s = true ∧ ∃ msg ackTime responseTime, call = .ack msg ackTime responseTime ∧
      msg.participantId = p ∧ p ∈ c.participantStatus ∧ msg.sequenceId = s := by
  cases call with
  | ack msg ackTime responseTime =>
      rw [lateAck] at h
      split at h
      · next hlate =>
          obtain rfl := Option.some.inj h
          exact ⟨hlate.2, msg, _, _, rfl, hlate.1.1, hlate.1.2, rfl⟩
      · cases h
  | ready msg | responseTimer sequenceId | syncTimer now | statisticsTimer | spin => cases h

theorem countAbout_missed_step (c : SyncCoordinator D) (call : CoordinatorCall D) (p : UInt32)
    (s : ℕ) :
    countAbout .missed p s (c.step call).2 = if missedCheck p c call = some s then 1 else 0 := by
  cases hout : c.outcomeOf p call with
  | none =>
      have hnot : missedCheck p c call ≠ some s := by
        intro h
        obtain ⟨rfl, hpending⟩ := missedCheck_eq_some h
        rw [outcomeOf, if_pos hpending] at hout
        cases hout
      rw [countAbout_of_neutral (.inl rfl) s (step_of_no_outcome hout).2, if_neg hnot]
  | some o =>
      obtain ⟨judged, late, hjudgement, -, -, hevents⟩ := step_of_outcome hout
      rw [countAbout_of_origin hevents fun e he ↦ (hjudgement.origin e he).2, hjudgement.missed,
        ← ite_and]
      refine if_congr ?_ rfl rfl
      rcases outcomeOf_eq_some hout with
        ⟨msg, ackTime, responseTime, rfl, -, -, rfl⟩ | ⟨sequenceId, rfl, hpending, rfl⟩
      · apply iff_of_false
        · exact fun h ↦ Outcome.acked_ne_missed _ _ _ h.2
        · intro h
          cases h
      · simp [missedCheck, hpending, CoordinatorCall.sequenceId]

theorem countAbout_late_step (c : SyncCoordinator D) (call : CoordinatorCall D) (p : UInt32)
    (s : ℕ) :
    countAbout .lateAck p s (c.step call).2 = if lateAck p c call = some s then 1 else 0 := by
  cases hout : c.outcomeOf p call with
  | none =>
      have hnot : lateAck p c call ≠ some s := by
        intro h
        obtain ⟨-, msg, ackTime, responseTime, rfl, hp, hmem, -⟩ := lateAck_eq_some h
        rw [outcomeOf, if_pos ⟨hp, hmem⟩] at hout
        cases hout
      rw [countAbout_of_neutral (.inr rfl) s (step_of_no_outcome hout).2, if_neg hnot]
  | some o =>
      obtain ⟨judged, late, hjudgement, hlate, -, hevents⟩ := step_of_outcome hout
      rw [countAbout_of_origin hevents fun e he ↦ (hjudgement.origin e he).2, hjudgement.late,
        ← ite_and]
      refine if_congr ?_ rfl rfl
      rcases outcomeOf_eq_some hout with
        ⟨msg, ackTime, responseTime, rfl, hp, hmem, rfl⟩ | ⟨sequenceId, rfl, -, rfl⟩
      · have hne : c.config.outcome msg ≠ .missed := Outcome.acked_ne_missed _ _ _
        rw [hlate, and_iff_right hne]
        simp [lateAck, hp, hmem, CoordinatorCall.sequenceId, and_comm]
      · apply iff_of_false
        · exact fun h ↦ (hlate.mp h.2).1 rfl
        · intro h
          cases h

theorem closed_of_late {params : Params D} {seen : List (CoordinatorCall D)}
    {call : CoordinatorCall D} {p : UInt32} {s : ℕ}
    (h : lateAck p (after params seen) call = some s) :
    ¬(after params seen).Closed p s ∧ (after params (seen ++ [call])).Closed p s := by
  have hbookkept := bookkept_after params seen
  obtain ⟨hlate, msg, ackTime, responseTime, rfl, rfl, hmem, rfl⟩ := lateAck_eq_some h
  obtain ⟨round, hround, -, hpending⟩ := isLate_iff.mp hlate
  have hwindow := (hbookkept.windowed msg.sequenceId).mp
    (Std.ExtTreeMap.isSome_getElem?_iff_mem.mp (hround ▸ rfl))
  rw [after_concat]
  exact ⟨fun hclosed ↦ hclosed.2 ⟨round, hround, hpending⟩,
    closed_of_ack hbookkept.balanced msg ackTime responseTime hwindow.2.1⟩

/-- A late acknowledgement closes what it is late for, so there is one of it. -/
theorem late_once (params : Params D) (calls : List (CoordinatorCall D)) (p : UInt32) (s : ℕ) :
    countAbout .lateAck p s (published params calls) = 0 ∨
      countAbout .lateAck p s (published params calls) = 1 ∧ (after params calls).Closed p s := by
  induction calls using List.reverseRecOn with
  | nil => exact .inl rfl
  | append_singleton calls call ih =>
      rw [published_concat, countAbout_append, countAbout_late_step]
      split
      · next hlate =>
          obtain ⟨hopen, hclosed⟩ := closed_of_late hlate
          rcases ih with hzero | ⟨-, hbefore⟩
          · rw [hzero]
            exact .inr ⟨rfl, hclosed⟩
          · exact absurd hbefore hopen
      · rw [Nat.add_zero]
        refine ih.imp id fun h ↦ ⟨h.1, ?_⟩
        rw [after_concat]
        exact closed_step h.2 call

/-- There is no more than one miss for each check. -/
theorem missed_le_checks (params : Params D) (calls : List (CoordinatorCall D)) (p : UInt32)
    (s : ℕ) : countAbout .missed p s (published params calls) ≤ (checks calls).count s := by
  induction calls using List.reverseRecOn with
  | nil => exact Nat.le_refl 0
  | append_singleton calls call ih =>
      rw [published_concat, countAbout_append, countAbout_missed_step, checks,
        List.filterMap_append, List.count_append]
      split
      · next hmissed =>
          obtain ⟨rfl, -⟩ := missedCheck_eq_some hmissed
          refine Nat.add_le_add ih ?_
          simp
      · exact Nat.add_le_add ih (Nat.zero_le _)

omit [TimingArith D] in
theorem exists_of_countAbout {type : EventType} {p : UInt32} {s : ℕ}
    {output : List (Publication D)} (h : countAbout type p s output ≠ 0) :
    ∃ e, .event e ∈ output ∧ e.eventType = type ∧ e.participantId = p ∧ e.sequenceId = s := by
  obtain ⟨e, he, hcounted⟩ := List.countP_pos_iff.mp (Nat.pos_of_ne_zero h)
  obtain ⟨htype, hs⟩ := of_decide_eq_true hcounted
  obtain ⟨hmem, hp⟩ := mem_eventsAbout.mp he
  exact ⟨e, hmem, htype, hp, hs⟩

omit [TimingArith D] in
theorem countAbout_pos {e : SyncEvent D} {output : List (Publication D)} (h : .event e ∈ output) :
    countAbout e.eventType e.participantId e.sequenceId output ≠ 0 := by
  apply Nat.ne_of_gt
  apply List.countP_pos_iff.mpr
  exact ⟨e, mem_eventsAbout.mpr ⟨h, rfl⟩, decide_eq_true ⟨rfl, rfl⟩⟩

theorem isLate_of_published {c : SyncCoordinator D} {call : CoordinatorCall D} {e : SyncEvent D}
    (h : .event e ∈ (c.step call).2) (htype : e.eventType = .lateAck) :
    c.isLate e.participantId e.sequenceId = true := by
  have hcount := countAbout_pos h
  rw [htype, countAbout_late_step] at hcount
  split at hcount
  · next hlate => exact (lateAck_eq_some hlate).1
  · exact absurd rfl hcount

/-- What a check has found pending has been published as missed. -/
theorem missed_of_isLate (params : Params D) (calls : List (CoordinatorCall D)) (p : UInt32)
    (s : ℕ) (h : (after params calls).isLate p s = true) :
    countAbout .missed p s (published params calls) ≠ 0 := by
  induction calls using List.reverseRecOn with
  | nil => simp [after, create, isLate] at h
  | append_singleton calls call ih =>
      rw [published_concat, countAbout_append, countAbout_missed_step]
      rw [after_concat] at h
      obtain ⟨round', hround', hchecked, hp⟩ := isLate_iff.mp h
      rcases rounds_step hround' with ⟨round, hround, hchange⟩ | ⟨now, -, -, rfl⟩
      · cases hchange with
        | same _ _ _ =>
            have hbefore := ih (isLate_iff.mpr ⟨_, hround, hchecked, hp⟩)
            omega
        | acked msg _ _ _ _ =>
            have hpending := (Std.ExtTreeSet.mem_erase.mp hp).2
            have hbefore := ih (isLate_iff.mpr ⟨_, hround, hchecked, hpending⟩)
            omega
        | checked =>
            have hmissed : missedCheck p (after params calls) (.responseTimer s) = some s :=
              if_pos ⟨round, hround, hp⟩
            rw [if_pos hmissed]
            exact Nat.succ_ne_zero _
      · cases hchecked

/-- A late acknowledgement is published after the miss it is late for. -/
theorem missed_before_late (params : Params D) (calls : List (CoordinatorCall D))
    {before rest : List (Publication D)} {e : SyncEvent D}
    (hpublished : published params calls = before ++ .event e :: rest)
    (htype : e.eventType = .lateAck) :
    countAbout .missed e.participantId e.sequenceId before ≠ 0 := by
  induction calls using List.reverseRecOn generalizing rest with
  | nil => simp [published] at hpublished
  | append_singleton calls call ih =>
      rw [published_concat] at hpublished
      rcases List.append_eq_append_iff.mp hpublished with
        ⟨middle, rfl, houtput⟩ | ⟨middle, hbefore, hrest⟩
      · have hmem : .event e ∈ ((after params calls).step call).2 := by
          rw [houtput]
          exact List.mem_append_right middle List.mem_cons_self
        have hmissed := missed_of_isLate params calls _ _ (isLate_of_published hmem htype)
        rw [countAbout_append]
        omega
      · cases middle with
        | nil =>
            rw [List.nil_append] at hrest
            rw [List.append_nil] at hbefore
            have hmem : .event e ∈ ((after params calls).step call).2 := by
              rw [← hrest]
              exact List.mem_cons_self
            exact hbefore ▸ missed_of_isLate params calls _ _ (isLate_of_published hmem htype)
        | cons first middle =>
            obtain ⟨rfl, -⟩ := List.cons.inj hrest
            exact ih hbefore

/-- When no sequence id is checked twice, each response is missed once at the
most, and late once at the most, after it was missed; and only a response that
has not been given since the trigger is missed. -/
theorem missed_and_late_consistent (params : Params D) (calls : List (CoordinatorCall D))
    (honce : (checks calls).Nodup) (p : UInt32) (s : ℕ) :
    countAbout .missed p s (published params calls) ≤ 1 ∧
    countAbout .lateAck p s (published params calls) ≤ 1 ∧
    (∀ before e rest, published params calls = before ++ .event e :: rest →
      e.eventType = .lateAck → e.participantId = p → e.sequenceId = s →
      ∃ missed, .event missed ∈ before ∧ missed.eventType = .missed ∧
        missed.participantId = p ∧ missed.sequenceId = s) ∧
    ∀ seen call rest, calls = seen ++ call :: rest →
      (∃ e, .event e ∈ ((after params seen).step call).2 ∧ e.eventType = .missed ∧
        e.participantId = p ∧ e.sequenceId = s) →
      call = .responseTimer s ∧ ¬Acknowledged params seen p s := by
  refine ⟨?_, ?_, ?_, ?_⟩
  · exact (missed_le_checks params calls p s).trans (List.nodup_iff_count_le_one.mp honce s)
  · rcases late_once params calls p s with hzero | ⟨hone, -⟩
    · exact hzero ▸ Nat.zero_le 1
    · exact Nat.le_of_eq hone
  · rintro before e rest hpublished htype rfl rfl
    exact exists_of_countAbout (missed_before_late params calls hpublished htype)
  · rintro seen call rest - ⟨e, he, htype, rfl, rfl⟩
    have hcount := countAbout_pos he
    rw [htype, countAbout_missed_step] at hcount
    split at hcount
    · next hmissed =>
        obtain ⟨hcall, hpending⟩ := missedCheck_eq_some hmissed
        exact ⟨hcall, fun hacknowledged ↦ (closed_of_acknowledged hacknowledged).2 hpending⟩
    · exact absurd rfl hcount

theorem lateCycles_consistent :
    countAbout .missed 1 1 (published soloParams (soloStart ++ lateCycles)) ≤ 1 ∧
      countAbout .lateAck 1 1 (published soloParams (soloStart ++ lateCycles)) ≤ 1 := by
  obtain ⟨hmissed, hlate, -, -⟩ :=
    missed_and_late_consistent soloParams (soloStart ++ lateCycles) (by decide) 1 1
  exact ⟨hmissed, hlate⟩

/-- An acknowledgement of the first sequence id that is processed before the trigger. -/
def earlyAck : List (CoordinatorCall ℚ) := soloStart ++ [soloAck 1, soloTrigger]

/-- The round does not know of the acknowledgement, and the check misses it. -/
theorem earlyAck_missed :
    (∀ e ∈ Machine.trace step (create soloParams) (earlyAck ++ [.responseTimer 1]),
      e.state.Fires e.input) ∧
    (checks (earlyAck ++ [.responseTimer 1])).Nodup ∧ soloAck 1 ∈ earlyAck ∧
    countAbout .missed 1 1 ((after soloParams earlyAck).step (.responseTimer 1)).2 = 1 := by
  refine ⟨by decide +kernel, by decide, ?_, by decide +kernel⟩
  simp [earlyAck]

end RuntimeSync.SyncCoordinator
