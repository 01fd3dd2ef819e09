import RuntimeSync.Coordinator.SyncCoordinator
import RuntimeSync.Library.Machine

/-!
# Steps of the coordinator

A run is any interleaving of the callbacks.  Each callback is described once,
by what it does to a round and by what it does to a participant; nothing below
this file looks into the callbacks again.
-/

namespace RuntimeSync

variable {D : Type} [TimingArith D]

inductive CoordinatorCall (D : Type) where
  | ready (msg : SyncReady)
  | ack (msg : SyncAck D) (ackTime responseTime : RosTime)
  | syncTimer (now : RosTime)
  /-- The one-shot timer of a sequence id. -/
  | responseTimer (sequenceId : ℕ)
  | statisticsTimer
  /-- The check of `spin` that follows the callbacks. -/
  | spin

namespace SyncCoordinator

def step (c : SyncCoordinator D) : CoordinatorCall D → SyncCoordinator D × List (Publication D)
  | .ready msg => c.readyCallback msg
  | .ack msg ackTime responseTime => c.syncAckCallback msg ackTime responseTime
  | .syncTimer now => c.syncTimerCallback now
  | .responseTimer sequenceId => c.checkResponses sequenceId
  | .statisticsTimer => (c, c.publishStatistics)
  | .spin => c.spinOnce

def after (params : Params D) (calls : List (CoordinatorCall D)) : SyncCoordinator D :=
  Machine.run step (create params) calls

/-- The timer callbacks come from timers that exist. -/
def Fires (c : SyncCoordinator D) : CoordinatorCall D → Prop
  | .syncTimer _ => c.allReady = true
  | .responseTimer sequenceId => sequenceId ∈ c.responseTimers
  | _ => True

instance (c : SyncCoordinator D) : DecidablePred c.Fires
  | .ready _ => isTrue trivial
  | .ack .. => isTrue trivial
  | .syncTimer _ => inferInstanceAs (Decidable (_ = _))
  | .responseTimer _ => inferInstanceAs (Decidable (_ ∈ _))
  | .statisticsTimer => isTrue trivial
  | .spin => isTrue trivial

theorem after_concat (params : Params D) (calls : List (CoordinatorCall D))
    (call : CoordinatorCall D) :
    after params (calls ++ [call]) = ((after params calls).step call).1 :=
  Machine.run_concat step _ calls call

/-! ## Erasing old rounds -/

theorem getElem?_eraseOld {keepCount sequenceId passes : ℕ} {rounds : RoundMap D}
    (hsize : rounds.size ≤ passes) (s : ℕ) :
    (eraseOld keepCount sequenceId passes rounds)[s]? =
      if s + keepCount < sequenceId then none else rounds[s]? := by
  induction passes generalizing rounds with
  | zero =>
      have hempty : rounds = ∅ :=
        Std.ExtTreeMap.eq_empty_iff_size_eq_zero.mpr (Nat.le_zero.mp hsize)
      simp [eraseOld, hempty]
  | succ passes ih =>
      rw [eraseOld, ← Std.ExtTreeMap.minKey?_eq_head?_keys]
      cases hmin : rounds.minKey? with
      | none => simp [Std.ExtTreeMap.minKey?_eq_none_iff.mp hmin]
      | some first =>
          obtain ⟨hmem, hle⟩ := Std.ExtTreeMap.minKey?_eq_some_iff_mem_and_forall.mp hmin
          dsimp only
          split
          · next hold =>
              have herased : (rounds.erase first).size ≤ passes := by
                rw [Std.ExtTreeMap.size_erase, if_pos (by simpa using hmem)]
                omega
              rw [ih herased, Std.ExtTreeMap.getElem?_erase]
              by_cases heq : first = s
              · subst heq
                simp [hold]
              · simp [heq]
          · next hkept =>
              -- No round is older than the first one.
              split
              · next hold =>
                  refine Std.ExtTreeMap.getElem?_eq_none fun hs ↦ ?_
                  have hfirst := Nat.isLE_compare.mp (hle s hs)
                  omega
              · rfl

theorem rounds_cleanupRounds (c : SyncCoordinator D) (s : ℕ) :
    c.cleanupRounds.rounds[s]? =
      if s + keepCount c.config < c.sequenceId then none else c.rounds[s]? :=
  getElem?_eraseOld (Nat.le_refl _) s

/-! ## Judging the pending participants -/

theorem foldl_checkParticipant (config : CoordinatorConfig D) (sequenceId : ℕ)
    {pending : List UInt32} (hnodup : pending.Nodup) (participants : ParticipantMap D)
    (events : List (SyncEvent D)) :
    (∀ p : UInt32, (pending.foldl (checkParticipant config sequenceId) (participants, events)).1[p]? =
      if p ∈ pending then
        some (config.judgeMissed p sequenceId (participants[p]?.getD {})).1
      else participants[p]?) ∧
    (pending.foldl (checkParticipant config sequenceId) (participants, events)).2 =
      events ++ pending.flatMap fun p ↦
        (config.judgeMissed p sequenceId (participants[p]?.getD {})).2 := by
  induction pending generalizing participants events with
  | nil => simp
  | cons q pending ih =>
      obtain ⟨hq, hnodup⟩ := List.nodup_cons.mp hnodup
      obtain ⟨hmap, hevents⟩ := ih hnodup
        (participants.insert q (config.judgeMissed q sequenceId (participants[q]?.getD {})).1)
        (events ++ (config.judgeMissed q sequenceId (participants[q]?.getD {})).2)
      constructor
      · intro p
        refine (hmap p).trans ?_
        rw [Std.ExtTreeMap.getElem?_insert]
        by_cases hpq : q = p
        · subst hpq
          simp [hq]
        · simp [hpq, Ne.symm hpq]
      · refine hevents.trans ?_
        rw [List.flatMap_cons, List.append_assoc]
        congr 2
        refine List.flatMap_congr fun p hp ↦ ?_
        have hpq : q ≠ p := fun heq ↦ hq (heq ▸ hp)
        rw [Std.ExtTreeMap.getElem?_insert]
        simp [hpq]

/-! ## Callbacks

A callback that acts ends by publishing statistics, if they are due, and by
erasing old rounds.  The lemmas name the state before that. -/

def pendingAt (c : SyncCoordinator D) (sequenceId : ℕ) : List UInt32 :=
  (c.rounds[sequenceId]?.map fun round ↦ round.pending.toList).getD []

/-- The round of `sequenceId` is open and waits for `p`. -/
def Pending (c : SyncCoordinator D) (p : UInt32) (sequenceId : ℕ) : Prop :=
  ∃ round, c.rounds[sequenceId]? = some round ∧ p ∈ round.pending

theorem mem_pendingAt {c : SyncCoordinator D} {p : UInt32} {sequenceId : ℕ} :
    p ∈ c.pendingAt sequenceId ↔ c.Pending p sequenceId := by
  rw [pendingAt, Pending]
  cases c.rounds[sequenceId]? with
  | none => simp
  | some round => simp [Std.ExtTreeSet.mem_toList]

theorem nodup_pendingAt (c : SyncCoordinator D) (sequenceId : ℕ) :
    (c.pendingAt sequenceId).Nodup := by
  rw [pendingAt]
  cases c.rounds[sequenceId]? with
  | none => exact List.nodup_nil
  | some round =>
      refine round.pending.distinct_toList.imp ?_
      rintro p q hne rfl
      exact hne Std.ReflCmp.compare_self

instance (c : SyncCoordinator D) (p : UInt32) (sequenceId : ℕ) :
    Decidable (c.Pending p sequenceId) := decidable_of_iff _ mem_pendingAt

/-- A ready message files itself with the participant, once. -/
theorem readyCallback_cases (c : SyncCoordinator D) (msg : SyncReady) :
    (∃ events : List (SyncEvent D),
      (∀ event ∈ events, event.eventType = .unknownParticipant) ∧
      c.readyCallback msg = (c, events.map .event)) ∨
    ∃ (status : ParticipantStatus D) (c' : SyncCoordinator D),
      c.participantStatus[msg.participantId]? = some status ∧
      c.readyCallback msg =
        (c', .event (syncEvent .ready msg.participantId c.sequenceId
          (text "Participant is ready") 0.0 0.0 0.0) :: c'.publishStatistics) ∧
      c'.config = c.config ∧ c'.sequenceId = c.sequenceId ∧ c'.rounds = c.rounds ∧
      c'.participantStatus = c.participantStatus.insert msg.participantId
        { status with
          ready := true, nodeName := msg.nodeName, lastResponseTime := msg.readyTime } := by
  rw [readyCallback]
  cases hstatus : c.participantStatus[msg.participantId]? with
  | none => exact .inl ⟨[_], by simp [syncEvent], rfl⟩
  | some status =>
      dsimp only
      split
      · exact .inr ⟨status, _, rfl, rfl, rfl, rfl, rfl, rfl⟩
      · exact .inl ⟨[], by simp, rfl⟩

theorem getElem?_ackRound (c : SyncCoordinator D) (msg : SyncAck D) (ackTime : RosTime) (s : ℕ) :
    (c.ackRound msg ackTime)[s]? =
      if s = msg.sequenceId then
        c.rounds[s]?.map fun round ↦ round.acked msg.participantId ackTime
      else c.rounds[s]? := by
  rw [ackRound]
  cases hround : c.rounds[msg.sequenceId]? with
  | none =>
      by_cases heq : s = msg.sequenceId
      · simp [heq, hround]
      · simp [heq]
  | some round =>
      dsimp only
      rw [Std.ExtTreeMap.getElem?_insert]
      by_cases heq : s = msg.sequenceId
      · simp [heq, hround]
      · simp [heq, Ne.symm heq]

theorem syncAckCallback_of_unknown {c : SyncCoordinator D} {msg : SyncAck D}
    (h : c.participantStatus[msg.participantId]? = none) (ackTime responseTime : RosTime) :
    c.syncAckCallback msg ackTime responseTime =
      (c, [.event (syncEvent .unknownParticipant msg.participantId msg.sequenceId
        (text "Ignoring ack from unexpected participant") 0.0 msg.computationMs 0.0)]) := by
  rw [syncAckCallback, h]

theorem syncAckCallback_of_known {c : SyncCoordinator D} {msg : SyncAck D}
    {status : ParticipantStatus D} (h : c.participantStatus[msg.participantId]? = some status)
    (ackTime responseTime : RosTime) :
    ∃ c' : SyncCoordinator D,
      c.syncAckCallback msg ackTime responseTime =
        (c'.cleanupRounds,
          (c.config.judgeAck msg (c.isLate msg.participantId msg.sequenceId) responseTime
            status).2.map .event ++ c'.publishStatisticsIfCycleDue) ∧
      c'.config = c.config ∧ c'.sequenceId = c.sequenceId ∧
      c'.participantStatus = c.participantStatus.insert msg.participantId
        (c.config.judgeAck msg (c.isLate msg.participantId msg.sequenceId) responseTime
          status).1 ∧
      ∀ s : ℕ, c'.rounds[s]? =
        if s = msg.sequenceId then
          c.rounds[s]?.map fun round ↦ round.acked msg.participantId ackTime
        else c.rounds[s]? := by
  rw [syncAckCallback, h]
  exact ⟨_, rfl, rfl, rfl, rfl, c.getElem?_ackRound msg ackTime⟩

/-- The round that a trigger opens. -/
def newRound (c : SyncCoordinator D) (now : RosTime) : RoundStatus D where
  triggerTime := now
  pending := Std.ExtTreeSet.ofList c.participantStatus.keys compare

theorem syncTimerCallback_eq (c : SyncCoordinator D) (now : RosTime) :
    ∃ c' : SyncCoordinator D,
      c.syncTimerCallback now =
        (c'.cleanupRounds,
          .trigger
            { sequenceId := c.sequenceId + 1
              triggerTime := now
              activeParticipantIds := c.participantStatus.keys } ::
            c'.publishStatisticsIfCycleDue) ∧
      c'.config = c.config ∧ c'.sequenceId = c.sequenceId + 1 ∧
      c'.participantStatus = c.participantStatus ∧
      ∀ s : ℕ, c'.rounds[s]? =
        if s = c.sequenceId + 1 then some (c.newRound now) else c.rounds[s]? := by
  refine ⟨_, rfl, rfl, rfl, rfl, fun s ↦ ?_⟩
  rw [Std.ExtTreeMap.getElem?_insert]
  by_cases heq : s = c.sequenceId + 1
  · simp [heq, newRound]
  · simp [heq, Ne.symm heq]

theorem checkResponses_eq (c : SyncCoordinator D) (sequenceId : ℕ) :
    ∃ c' : SyncCoordinator D,
      c.checkResponses sequenceId =
        (c'.cleanupRounds,
          (((c.pendingAt sequenceId).flatMap fun p ↦
            (c.config.judgeMissed p sequenceId (c.participantStatus[p]?.getD {})).2).map .event) ++
            c'.publishStatistics) ∧
      c'.config = c.config ∧ c'.sequenceId = c.sequenceId ∧
      (∀ p : UInt32, c'.participantStatus[p]? =
        if c.Pending p sequenceId then
          some (c.config.judgeMissed p sequenceId (c.participantStatus[p]?.getD {})).1
        else c.participantStatus[p]?) ∧
      ∀ s : ℕ, c'.rounds[s]? =
        if s = sequenceId then
          c.rounds[s]?.map fun round ↦ { round with monitorChecked := true }
        else c.rounds[s]? := by
  cases hround : c.rounds[sequenceId]? with
  | none =>
      have hnone : ∀ p, ¬c.Pending p sequenceId := by
        rintro p ⟨round, hsome, -⟩
        exact absurd (hround.symm.trans hsome) (by simp)
      refine ⟨{ c with responseTimers := c.responseTimers.erase sequenceId }, ?_, rfl, rfl,
        fun p ↦ (if_neg (hnone p)).symm, fun s ↦ ?_⟩
      · rw [checkResponses, hround, pendingAt, hround]
        rfl
      · split
        · next heq => rw [heq, hround, Option.map_none]
        · rfl
  | some round =>
      have hpending : c.pendingAt sequenceId = round.pending.toList := by simp [pendingAt, hround]
      obtain ⟨hmap, hevents⟩ := foldl_checkParticipant c.config sequenceId
        (hpending ▸ c.nodup_pendingAt sequenceId) c.participantStatus []
      rw [List.nil_append] at hevents
      rw [checkResponses, hround, hpending, ← hevents]
      refine ⟨_, rfl, rfl, rfl, fun p ↦ ?_, fun s ↦ ?_⟩
      all_goals dsimp only [checkRound]
      · refine (hmap p).trans ?_
        simp only [← mem_pendingAt, hpending]
      · rw [Std.ExtTreeMap.getElem?_insert]
        by_cases heq : s = sequenceId
        · subst heq
          simp [hround]
        · simp [heq, Ne.symm heq]

/-! ## Calls -/

/-- The call moves no participant and no round. -/
structure Quiet (c : SyncCoordinator D) (call : CoordinatorCall D) (c' : SyncCoordinator D)
    (output : List (Publication D)) : Prop where
  config : c'.config = c.config
  sequenceId : c'.sequenceId = c.sequenceId
  rounds : c'.rounds = c.rounds
  participants : c'.participantStatus = c.participantStatus
  events : ∀ e, .event e ∈ output → e.eventType = .unknownParticipant ∨ e.eventType = .allReady
  statistics : ∀ msg, .statistics msg ∈ output → msg = c'.statistics
  unknown : ∀ msg ackTime responseTime, call = .ack msg ackTime responseTime →
    msg.participantId ∉ c.participantStatus
  timers : ∀ sequenceId, call ≠ .responseTimer sequenceId

/-- What a call does, by the state it leads to before old rounds are erased. -/
inductive Effect (c : SyncCoordinator D) :
    CoordinatorCall D → SyncCoordinator D × List (Publication D) → Prop where
  | quiet {call : CoordinatorCall D} {c' : SyncCoordinator D} {output : List (Publication D)} :
      Quiet c call c' output → Effect c call (c', output)
  | readied {msg : SyncReady} {status : ParticipantStatus D} {c' : SyncCoordinator D} :
      c.participantStatus[msg.participantId]? = some status →
      c'.config = c.config → c'.sequenceId = c.sequenceId → c'.rounds = c.rounds →
      c'.participantStatus = c.participantStatus.insert msg.participantId
        { status with
          ready := true, nodeName := msg.nodeName, lastResponseTime := msg.readyTime } →
      Effect c (.ready msg)
        (c', .event (syncEvent .ready msg.participantId c.sequenceId
          (text "Participant is ready") 0.0 0.0 0.0) :: c'.publishStatistics)
  | acked {msg : SyncAck D} {ackTime responseTime : RosTime} {status : ParticipantStatus D}
      {c' : SyncCoordinator D} :
      c.participantStatus[msg.participantId]? = some status →
      c'.config = c.config → c'.sequenceId = c.sequenceId →
      c'.participantStatus = c.participantStatus.insert msg.participantId
        (c.config.judgeAck msg (c.isLate msg.participantId msg.sequenceId) responseTime
          status).1 →
      (∀ s : ℕ, c'.rounds[s]? =
        if s = msg.sequenceId then
          c.rounds[s]?.map fun round ↦ round.acked msg.participantId ackTime
        else c.rounds[s]?) →
      Effect c (.ack msg ackTime responseTime)
        (c'.cleanupRounds,
          (c.config.judgeAck msg (c.isLate msg.participantId msg.sequenceId) responseTime
            status).2.map .event ++ c'.publishStatisticsIfCycleDue)
  | triggered {now : RosTime} {c' : SyncCoordinator D} :
      c'.config = c.config → c'.sequenceId = c.sequenceId + 1 →
      c'.participantStatus = c.participantStatus →
      (∀ s : ℕ, c'.rounds[s]? =
        if s = c.sequenceId + 1 then some (c.newRound now) else c.rounds[s]?) →
      Effect c (.syncTimer now)
        (c'.cleanupRounds,
          .trigger
            { sequenceId := c.sequenceId + 1
              triggerTime := now
              activeParticipantIds := c.participantStatus.keys } ::
            c'.publishStatisticsIfCycleDue)
  | checked {sequenceId : ℕ} {c' : SyncCoordinator D} :
      c'.config = c.config → c'.sequenceId = c.sequenceId →
      (∀ p : UInt32, c'.participantStatus[p]? =
        if c.Pending p sequenceId then
          some (c.config.judgeMissed p sequenceId (c.participantStatus[p]?.getD {})).1
        else c.participantStatus[p]?) →
      (∀ s : ℕ, c'.rounds[s]? =
        if s = sequenceId then
          c.rounds[s]?.map fun round ↦ { round with monitorChecked := true }
        else c.rounds[s]?) →
      Effect c (.responseTimer sequenceId)
        (c'.cleanupRounds,
          (((c.pendingAt sequenceId).flatMap fun p ↦
            (c.config.judgeMissed p sequenceId (c.participantStatus[p]?.getD {})).2).map .event) ++
            c'.publishStatistics)

theorem mem_of_status {participants : ParticipantMap D} {p : UInt32}
    {status : ParticipantStatus D} (h : participants[p]? = some status) : p ∈ participants :=
  Std.ExtTreeMap.isSome_getElem?_iff_mem.mp (h ▸ rfl)

theorem not_mem_of_no_status {participants : ParticipantMap D} {p : UInt32}
    (h : participants[p]? = none) : p ∉ participants := by
  intro hmem
  have hsome := Std.ExtTreeMap.isSome_getElem?_iff_mem.mpr hmem
  rw [h] at hsome
  cases hsome

theorem Quiet.self {c : SyncCoordinator D} {call : CoordinatorCall D}
    {output : List (Publication D)}
    (hevents : ∀ publication ∈ output, ∃ e : SyncEvent D,
      publication = .event e ∧ e.eventType = .unknownParticipant)
    (hunknown : ∀ msg ackTime responseTime, call = .ack msg ackTime responseTime →
      msg.participantId ∉ c.participantStatus)
    (htimers : ∀ sequenceId, call ≠ .responseTimer sequenceId) : Quiet c call c output where
  config := rfl
  sequenceId := rfl
  rounds := rfl
  participants := rfl
  events e he := by
    obtain ⟨_, heq, htype⟩ := hevents _ he
    exact .inl (Publication.event.inj heq ▸ htype)
  statistics msg hmsg := by
    obtain ⟨_, heq, -⟩ := hevents _ hmsg
    cases heq
  unknown := hunknown
  timers := htimers

theorem effect_step (c : SyncCoordinator D) (call : CoordinatorCall D) :
    Effect c call (c.step call) := by
  cases call with
  | ready msg =>
      rcases c.readyCallback_cases msg with
        ⟨events, htypes, hstep⟩ | ⟨status, c', hstatus, hstep, hconfig, hsequence, hrounds,
          hparticipants⟩
      · rw [step, hstep]
        refine .quiet (.self (fun publication hmem ↦ ?_) nofun nofun)
        obtain ⟨e, he, rfl⟩ := List.mem_map.mp hmem
        exact ⟨e, rfl, htypes e he⟩
      · rw [step, hstep]
        exact .readied hstatus hconfig hsequence hrounds hparticipants
  | ack msg ackTime responseTime =>
      cases hstatus : c.participantStatus[msg.participantId]? with
      | none =>
          rw [step, syncAckCallback_of_unknown hstatus]
          refine .quiet (.self (fun publication hmem ↦ ?_) ?_ nofun)
          · exact ⟨_, List.mem_singleton.mp hmem, rfl⟩
          · rintro msg _ _ ⟨rfl⟩
            exact not_mem_of_no_status hstatus
      | some status =>
          obtain ⟨c', hstep, hconfig, hsequence, hparticipants, hrounds⟩ :=
            syncAckCallback_of_known hstatus ackTime responseTime
          rw [step, hstep]
          exact .acked hstatus hconfig hsequence hparticipants hrounds
  | syncTimer now =>
      obtain ⟨c', hstep, hconfig, hsequence, hparticipants, hrounds⟩ :=
        c.syncTimerCallback_eq now
      rw [step, hstep]
      exact .triggered hconfig hsequence hparticipants hrounds
  | responseTimer sequenceId =>
      obtain ⟨c', hstep, hconfig, hsequence, hparticipants, hrounds⟩ :=
        c.checkResponses_eq sequenceId
      rw [step, hstep]
      exact .checked hconfig hsequence hparticipants hrounds
  | statisticsTimer =>
      exact .quiet ⟨rfl, rfl, rfl, rfl, nofun, by simp [publishStatistics], nofun, nofun⟩
  | spin =>
      rw [step, spinOnce]
      split
      · refine .quiet ⟨rfl, rfl, rfl, rfl, fun e he ↦ .inr ?_, by simp [publishStatistics], nofun,
          nofun⟩
        simp only [publishStatistics, List.mem_cons, Publication.event.injEq, reduceCtorEq,
          List.not_mem_nil, or_false] at he
        exact he ▸ rfl
      · exact .quiet (.self nofun nofun nofun)

/-! ## Rounds -/

/-- What a call makes of a round that was there before it. -/
inductive RoundChange (c : SyncCoordinator D) (s : ℕ) (round : RoundStatus D) :
    CoordinatorCall D → RoundStatus D → Prop where
  | same (call : CoordinatorCall D) :
      (∀ msg ackTime responseTime, call = .ack msg ackTime responseTime →
        msg.participantId ∈ c.participantStatus → msg.sequenceId ≠ s) →
      call ≠ .responseTimer s → RoundChange c s round call round
  | acked (msg : SyncAck D) (ackTime responseTime : RosTime) :
      msg.participantId ∈ c.participantStatus → msg.sequenceId = s →
      RoundChange c s round (.ack msg ackTime responseTime)
        (round.acked msg.participantId ackTime)
  | checked : RoundChange c s round (.responseTimer s) { round with monitorChecked := true }

theorem of_rounds_cleanupRounds {c : SyncCoordinator D} {s : ℕ} {round : RoundStatus D}
    (h : c.cleanupRounds.rounds[s]? = some round) : c.rounds[s]? = some round := by
  rw [rounds_cleanupRounds] at h
  split at h
  · cases h
  · exact h

/-- A round after a call has been opened by it or was there before. -/
theorem rounds_step {c : SyncCoordinator D} {call : CoordinatorCall D} {s : ℕ}
    {round' : RoundStatus D} (h : (c.step call).1.rounds[s]? = some round') :
    (∃ round, c.rounds[s]? = some round ∧ RoundChange c s round call round') ∨
      ∃ now, call = .syncTimer now ∧ s = c.sequenceId + 1 ∧ round' = c.newRound now := by
  have heffect := c.effect_step call
  generalize c.step call = result at heffect h
  cases heffect with
  | quiet hquiet =>
      refine .inl ⟨round', hquiet.rounds ▸ h, .same _ ?_ (hquiet.timers s)⟩
      intro msg ackTime responseTime hcall hmem
      exact absurd hmem (hquiet.unknown msg ackTime responseTime hcall)
  | readied _ _ _ hrounds _ => exact .inl ⟨round', hrounds ▸ h, .same _ nofun nofun⟩
  | @acked msg ackTime responseTime _ _ hstatus _ _ _ hrounds =>
      have hround := of_rounds_cleanupRounds h
      rw [hrounds] at hround
      split at hround
      · next heq =>
          obtain ⟨round, hbefore, rfl⟩ := Option.map_eq_some_iff.mp hround
          exact .inl ⟨round, hbefore,
            .acked msg ackTime responseTime (mem_of_status hstatus) heq.symm⟩
      · next hne =>
          refine .inl ⟨round', hround, .same _ ?_ nofun⟩
          rintro msg _ _ ⟨rfl⟩ - heq
          exact hne heq.symm
  | @triggered now _ _ _ _ hrounds =>
      have hround := of_rounds_cleanupRounds h
      rw [hrounds] at hround
      split at hround
      · next heq => exact .inr ⟨now, rfl, heq, (Option.some.inj hround).symm⟩
      · exact .inl ⟨round', hround, .same _ nofun nofun⟩
  | checked _ _ _ hrounds =>
      have hround := of_rounds_cleanupRounds h
      rw [hrounds] at hround
      split at hround
      · next heq =>
          subst heq
          obtain ⟨round, hbefore, rfl⟩ := Option.map_eq_some_iff.mp hround
          exact .inl ⟨round, hbefore, .checked⟩
      · next hne =>
          refine .inl ⟨round', hround, .same _ nofun ?_⟩
          rintro ⟨rfl⟩
          exact hne rfl

/-- The sequence ids only grow. -/
theorem sequenceId_le_step (c : SyncCoordinator D) (call : CoordinatorCall D) :
    c.sequenceId ≤ (c.step call).1.sequenceId := by
  have heffect := c.effect_step call
  generalize c.step call = result at heffect ⊢
  cases heffect with
  | quiet hquiet => exact Nat.le_of_eq hquiet.sequenceId.symm
  | readied _ _ hsequence _ _ => exact Nat.le_of_eq hsequence.symm
  | acked _ _ hsequence _ _ => exact Nat.le_of_eq hsequence.symm
  | triggered _ hsequence _ _ => exact (Nat.le_succ _).trans (Nat.le_of_eq hsequence.symm)
  | checked _ hsequence _ _ => exact Nat.le_of_eq hsequence.symm

end SyncCoordinator

end RuntimeSync
