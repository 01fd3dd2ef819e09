import RuntimeSync.Coordinator.Steps

/-!
# The rounds that are kept

The open rounds are those of the latest triggers, and each of them divides
the participants into those that have responded and those that have not.
-/

namespace RuntimeSync

variable {D : Type} [TimingArith D]

/-! ## One round -/

/-- The round divides the participants. -/
structure RoundStatus.Covers (round : RoundStatus D) (participants : ParticipantMap D) :
    Prop where
  cover : ∀ p, p ∈ round.pending ∨ p ∈ round.responded ↔ p ∈ participants
  disjoint : ∀ p, p ∈ round.pending → p ∉ round.responded

namespace RoundStatus

variable {round : RoundStatus D} {participants participants' : ParticipantMap D}

theorem Covers.congr (h : round.Covers participants)
    (hsame : ∀ p, p ∈ participants' ↔ p ∈ participants) : round.Covers participants' :=
  ⟨fun p ↦ (h.cover p).trans (hsame p).symm, h.disjoint⟩

theorem Covers.acked (h : round.Covers participants) {q : UInt32} (hq : q ∈ participants)
    (ackTime : RosTime) : (round.acked q ackTime).Covers participants := by
  constructor
  · intro p
    simp only [RoundStatus.acked, Std.ExtTreeSet.mem_erase, Std.ExtTreeSet.mem_insert, ← h.cover,
      Std.LawfulEqCmp.compare_eq_iff_eq, ne_eq]
    by_cases heq : q = p
    · subst heq
      simpa using (h.cover q).mpr hq
    · simp [heq]
  · intro p hp
    simp only [RoundStatus.acked, Std.ExtTreeSet.mem_erase, Std.ExtTreeSet.mem_insert,
      Std.LawfulEqCmp.compare_eq_iff_eq, ne_eq] at hp ⊢
    exact fun hor ↦ hor.elim hp.1 (h.disjoint p hp.2)

theorem Covers.monitorChecked (h : round.Covers participants) :
    Covers { round with monitorChecked := true } participants :=
  ⟨h.cover, h.disjoint⟩

/-- The participants as a set. -/
def idsOf (participants : ParticipantMap D) : ParticipantSet :=
  Std.ExtTreeSet.ofList participants.keys compare

theorem mem_idsOf {p : UInt32} : p ∈ idsOf participants ↔ p ∈ participants := by
  rw [idsOf, Std.ExtTreeSet.mem_ofList, List.contains_iff_mem, Std.ExtTreeMap.mem_keys]

theorem size_idsOf (participants : ParticipantMap D) :
    (idsOf participants).size = participants.size := by
  rw [idsOf, Std.ExtTreeSet.size_ofList participants.distinct_keys, Std.ExtTreeMap.length_keys]

theorem size_eq_of_mem_iff (h : ∀ p, p ∈ participants' ↔ p ∈ participants) :
    participants'.size = participants.size := by
  have hids : idsOf participants' = idsOf participants :=
    Std.ExtTreeSet.ext_mem fun p ↦ mem_idsOf.trans ((h p).trans mem_idsOf.symm)
  rw [← size_idsOf, ← size_idsOf, hids]

theorem Covers.size_add_size (h : round.Covers participants) :
    round.responded.size + round.pending.size = participants.size := by
  have hunion : round.pending ∪ round.responded = idsOf participants :=
    Std.ExtTreeSet.ext_mem fun p ↦ by rw [Std.ExtTreeSet.mem_union_iff, h.cover, mem_idsOf]
  have hinter : round.pending ∩ round.responded = ∅ := by
    refine Std.ExtTreeSet.ext_mem fun p ↦ ?_
    rw [Std.ExtTreeSet.mem_inter_iff]
    exact iff_of_false (fun hp ↦ h.disjoint p hp.1 hp.2) (by simp)
  have hsize : round.pending.size + round.responded.size =
      (round.pending ∪ round.responded).size + (round.pending ∩ round.responded).size :=
    Std.ExtTreeSet.size_add_size_eq_size_union_add_size_inter
  rw [hunion, hinter, size_idsOf, Std.ExtTreeSet.size_empty] at hsize
  omega

end RoundStatus

namespace SyncCoordinator

/-! ## All rounds -/

def Balanced (c : SyncCoordinator D) : Prop :=
  ∀ (s : ℕ) (round : RoundStatus D),
    c.rounds[s]? = some round → round.Covers c.participantStatus

/-- The later state has the settings and the participants of the earlier one,
and its rounds are in order. -/
structure Keeps (c c' : SyncCoordinator D) : Prop where
  config : c'.config = c.config
  participants : ∀ p, p ∈ c'.participantStatus ↔ p ∈ c.participantStatus
  balanced : c'.Balanced

theorem keeps_of_covers {c c' : SyncCoordinator D} (hconfig : c'.config = c.config)
    (hmem : ∀ p, p ∈ c'.participantStatus ↔ p ∈ c.participantStatus)
    (hcovers : ∀ (s : ℕ) (round : RoundStatus D),
      c'.rounds[s]? = some round → round.Covers c.participantStatus) : Keeps c c' :=
  ⟨hconfig, hmem, fun s round hround ↦ (hcovers s round hround).congr hmem⟩

theorem Keeps.cleanupRounds {c c' : SyncCoordinator D} (h : Keeps c c') :
    Keeps c c'.cleanupRounds := by
  refine ⟨h.config, h.participants, fun s round hround ↦ h.balanced s round ?_⟩
  rw [rounds_cleanupRounds] at hround
  split at hround
  · cases hround
  · exact hround

theorem mem_insert_known {participants : ParticipantMap D} {q : UInt32} (hq : q ∈ participants)
    (status : ParticipantStatus D) (p : UInt32) :
    p ∈ participants.insert q status ↔ p ∈ participants := by
  rw [Std.ExtTreeMap.mem_insert, Std.LawfulEqCmp.compare_eq_iff_eq]
  exact or_iff_right_of_imp fun heq ↦ heq ▸ hq

/-- A check writes no participant that was not there. -/
theorem Balanced.mem_of_checked {c : SyncCoordinator D} (h : c.Balanced) {sequenceId : ℕ}
    {participants : ParticipantMap D} {judged : UInt32 → ParticipantStatus D}
    (hchecked : ∀ p : UInt32, participants[p]? =
      if c.Pending p sequenceId then some (judged p) else c.participantStatus[p]?) (p : UInt32) :
    p ∈ participants ↔ p ∈ c.participantStatus := by
  rw [Std.ExtTreeMap.mem_iff_isSome_getElem?, Std.ExtTreeMap.mem_iff_isSome_getElem?, hchecked]
  split
  · next hpending =>
      obtain ⟨round, hround, hp⟩ := hpending
      have hknown := ((h sequenceId round hround).cover p).mp (.inl hp)
      rw [Std.ExtTreeMap.mem_iff_isSome_getElem?] at hknown
      simp [hknown]
  · rfl

theorem covers_newRound (c : SyncCoordinator D) (now : RosTime) :
    (c.newRound now).Covers c.participantStatus := by
  refine ⟨fun p ↦ ?_, fun p _ hp ↦ ?_⟩
  · exact (or_iff_left (by simp [newRound])).trans RoundStatus.mem_idsOf
  · simp [newRound] at hp

theorem mem_events_of_due {c : SyncCoordinator D} {events : List (SyncEvent D)}
    {msg : SyncStatistics D}
    (h : .statistics msg ∈ events.map Publication.event ++ c.publishStatisticsIfCycleDue) :
    msg = c.statistics := by
  rcases List.mem_append.mp h with h | h
  · simp at h
  · rw [publishStatisticsIfCycleDue] at h
    split at h
    · simpa [publishStatistics] using h
    · cases h

/-- The statistics of a call are those of one state, which the call leads to
but for the erasing of old rounds. -/
theorem step_keeps {c : SyncCoordinator D} (h : c.Balanced) (call : CoordinatorCall D) :
    ∃ c', Keeps c c' ∧ ((c.step call).1 = c' ∨ (c.step call).1 = c'.cleanupRounds) ∧
      ∀ msg, .statistics msg ∈ (c.step call).2 → msg = c'.statistics := by
  have heffect := c.effect_step call
  generalize c.step call = result at heffect
  cases heffect with
  | @quiet _ c' _ hquiet =>
      refine ⟨c', keeps_of_covers hquiet.config (fun p ↦ by rw [hquiet.participants])
        fun s round hround ↦ ?_, .inl rfl, hquiet.statistics⟩
      rw [hquiet.rounds] at hround
      exact h s round hround
  | @readied _ _ c' hstatus hconfig _ hrounds hparticipants =>
      refine ⟨c', keeps_of_covers hconfig
        (hparticipants ▸ mem_insert_known (mem_of_status hstatus) _) fun s round hround ↦ ?_,
        .inl rfl, by simp [publishStatistics]⟩
      rw [hrounds] at hround
      exact h s round hround
  | @acked _ ackTime _ _ c' hstatus hconfig _ hparticipants hrounds =>
      have hknown := mem_of_status hstatus
      refine ⟨c', keeps_of_covers hconfig (hparticipants ▸ mem_insert_known hknown _)
        fun s round hround ↦ ?_, .inr rfl, fun msg ↦ mem_events_of_due⟩
      rw [hrounds] at hround
      split at hround
      · obtain ⟨old, hold, rfl⟩ := Option.map_eq_some_iff.mp hround
        exact (h s old hold).acked hknown ackTime
      · exact h s round hround
  | @triggered now c' hconfig _ hparticipants hrounds =>
      refine ⟨c', keeps_of_covers hconfig (fun p ↦ by rw [hparticipants])
        fun s round hround ↦ ?_, .inr rfl, fun msg hmsg ↦ ?_⟩
      · rw [hrounds] at hround
        split at hround
        · obtain rfl := Option.some.inj hround
          exact c.covers_newRound now
        · exact h s round hround
      · rw [List.mem_cons, or_iff_right (by simp)] at hmsg
        exact mem_events_of_due (List.mem_append_right (List.map Publication.event []) hmsg)
  | @checked sequenceId c' hconfig _ hparticipants hrounds =>
      refine ⟨c', keeps_of_covers hconfig (h.mem_of_checked hparticipants)
        fun s round hround ↦ ?_, .inr rfl, fun msg hmsg ↦ ?_⟩
      · rw [hrounds] at hround
        split at hround
        · obtain ⟨old, hold, rfl⟩ := Option.map_eq_some_iff.mp hround
          exact (h s old hold).monitorChecked
        · exact h s round hround
      · rw [List.mem_append, or_iff_right (by simp)] at hmsg
        simpa [publishStatistics] using hmsg

/-! ## The window of sequence ids -/

/-- The rounds that cleaning up leaves. -/
def InWindow (c : SyncCoordinator D) (s : ℕ) : Prop :=
  1 ≤ s ∧ s ≤ c.sequenceId ∧ c.sequenceId ≤ s + keepCount c.config

def Windowed (c : SyncCoordinator D) : Prop := ∀ s, s ∈ c.rounds ↔ c.InWindow s

theorem mem_cleanupRounds (c : SyncCoordinator D) (s : ℕ) :
    s ∈ c.cleanupRounds.rounds ↔ c.sequenceId ≤ s + keepCount c.config ∧ s ∈ c.rounds := by
  rw [← Std.ExtTreeMap.isSome_getElem?_iff_mem, rounds_cleanupRounds,
    ← Std.ExtTreeMap.isSome_getElem?_iff_mem]
  split
  · next hold => exact iff_of_false Bool.false_ne_true fun h ↦ by omega
  · next hkept => exact (and_iff_right (Nat.le_of_not_lt hkept)).symm

theorem Windowed.of_same {c c' : SyncCoordinator D} (h : c.Windowed)
    (hconfig : c'.config = c.config) (hsequence : c'.sequenceId = c.sequenceId)
    (hrounds : c'.rounds = c.rounds) : c'.Windowed := by
  intro s
  rw [InWindow, hrounds, hconfig, hsequence]
  exact h s

/-- Cleaning up a state whose rounds are those of a windowed one changes none. -/
theorem Windowed.cleanupRounds {c c' : SyncCoordinator D} (h : c.Windowed)
    (hconfig : c'.config = c.config) (hsequence : c'.sequenceId = c.sequenceId)
    (hrounds : ∀ s, s ∈ c'.rounds ↔ s ∈ c.rounds) : c'.cleanupRounds.Windowed := by
  intro s
  rw [mem_cleanupRounds, hrounds, h s]
  change _ ↔ 1 ≤ s ∧ s ≤ c'.sequenceId ∧ c'.sequenceId ≤ s + keepCount c'.config
  rw [hconfig, hsequence, InWindow]
  omega

theorem mem_of_map {c c' : SyncCoordinator D} {sequenceId : ℕ}
    {f : RoundStatus D → RoundStatus D}
    (hrounds : ∀ s : ℕ, c'.rounds[s]? =
      if s = sequenceId then c.rounds[s]?.map f else c.rounds[s]?) (s : ℕ) :
    s ∈ c'.rounds ↔ s ∈ c.rounds := by
  rw [← Std.ExtTreeMap.isSome_getElem?_iff_mem, hrounds,
    ← Std.ExtTreeMap.isSome_getElem?_iff_mem]
  split
  · rw [Option.isSome_map]
  · rfl

theorem windowed_step {c : SyncCoordinator D} (h : c.Windowed) (call : CoordinatorCall D) :
    (c.step call).1.Windowed := by
  have heffect := c.effect_step call
  generalize c.step call = result at heffect ⊢
  cases heffect with
  | quiet hquiet => exact h.of_same hquiet.config hquiet.sequenceId hquiet.rounds
  | readied _ hconfig hsequence hrounds _ => exact h.of_same hconfig hsequence hrounds
  | acked _ hconfig hsequence _ hrounds =>
      exact h.cleanupRounds hconfig hsequence (mem_of_map hrounds)
  | @triggered _ c' hconfig hsequence _ hrounds =>
      intro s
      rw [mem_cleanupRounds]
      change _ ↔ 1 ≤ s ∧ s ≤ c'.sequenceId ∧ c'.sequenceId ≤ s + keepCount c'.config
      rw [← Std.ExtTreeMap.isSome_getElem?_iff_mem, hrounds, hconfig, hsequence]
      split
      · next heq => simp [heq]
      · next hne =>
          rw [Std.ExtTreeMap.isSome_getElem?_iff_mem, h s, InWindow]
          omega
  | checked hconfig hsequence _ hrounds =>
      exact h.cleanupRounds hconfig hsequence (mem_of_map hrounds)

/-! ## Runs -/

theorem foldl_insert (ids : List UInt32) (participants : ParticipantMap D) :
    (∀ p : UInt32, (ids.foldl (fun map id ↦ map.insert id {}) participants)[p]? =
      if p ∈ ids then some {} else participants[p]?) ∧
    (ids.foldl (fun map id ↦ map.insert id {}) participants).size ≤
      participants.size + ids.length := by
  induction ids generalizing participants with
  | nil => simp
  | cons id ids ih =>
      obtain ⟨hmap, hsize⟩ := ih (participants.insert id {})
      constructor
      · intro p
        refine (hmap p).trans ?_
        rw [Std.ExtTreeMap.getElem?_insert]
        by_cases heq : id = p
        · simp [heq]
        · simp [heq, Ne.symm heq]
      · have hinsert : (participants.insert id {}).size ≤ participants.size + 1 :=
          Std.ExtTreeMap.size_insert_le
        rw [List.length_cons]
        exact hsize.trans (by omega)

theorem getElem?_create (params : Params D) (p : UInt32) :
    (create params).participantStatus[p]? =
      if p ∈ params.participantIds then some {} else none :=
  ((foldl_insert params.participantIds ∅).1 p).trans (by simp)

theorem mem_create (params : Params D) (p : UInt32) :
    p ∈ (create params).participantStatus ↔ p ∈ params.participantIds := by
  rw [← Std.ExtTreeMap.isSome_getElem?_iff_mem, getElem?_create]
  split
  · next hp => exact iff_of_true rfl hp
  · next hp => exact iff_of_false Bool.false_ne_true hp

/-- There are fewer participants than their number, an `int`, can count. -/
theorem size_create (params : Params D) :
    (create params).participantStatus.size < UInt32.size := by
  have hlength : params.participantIds.length = params.count.toInt.toNat := by
    simp [Params.participantIds]
  have hsize := (foldl_insert params.participantIds (∅ : ParticipantMap D)).2
  have hbound := params.count.toInt_lt
  change (params.participantIds.foldl (fun map id ↦ map.insert id {})
    (∅ : ParticipantMap D)).size < 4294967296
  rw [hlength, Std.ExtTreeMap.size_empty] at hsize
  omega

/-- What holds between the callbacks of a run. -/
structure Bookkept (params : Params D) (c : SyncCoordinator D) : Prop where
  config : c.config = params.config
  participants : ∀ p, p ∈ c.participantStatus ↔ p ∈ params.participantIds
  balanced : c.Balanced
  windowed : c.Windowed

theorem bookkept_create (params : Params D) : Bookkept params (create params) := by
  refine ⟨rfl, mem_create params, fun s round h ↦ ?_, fun s ↦ ?_⟩
  · simp [create] at h
  · refine iff_of_false (by simp [create]) fun h ↦ ?_
    have hzero : s ≤ 0 := h.2.1
    exact absurd (h.1.trans hzero) (by decide)

theorem bookkept_step {params : Params D} {c : SyncCoordinator D} (h : Bookkept params c)
    (call : CoordinatorCall D) : Bookkept params (c.step call).1 := by
  obtain ⟨c', hkeeps, hstate, -⟩ := step_keeps h.balanced call
  have hstep : Keeps c (c.step call).1 := by
    rcases hstate with hstate | hstate
    · exact hstate ▸ hkeeps
    · exact hstate ▸ hkeeps.cleanupRounds
  exact ⟨hstep.config.trans h.config, fun p ↦ (hstep.participants p).trans (h.participants p),
    hstep.balanced, windowed_step h.windowed call⟩

theorem bookkept_after (params : Params D) (calls : List (CoordinatorCall D)) :
    Bookkept params (after params calls) :=
  Machine.invariant_run (I := Bookkept params) (fun _ call h ↦ bookkept_step h call)
    (bookkept_create params) calls

/-! ## Published statistics -/

theorem latestRound_mem {c : SyncCoordinator D} {round : RoundStatus D}
    (h : c.latestRound = some round) : ∃ s : ℕ, c.rounds[s]? = some round := by
  obtain ⟨s, -, hround⟩ := Option.bind_eq_some_iff.mp h
  exact ⟨s, hround⟩

theorem statistics_balanced {c : SyncCoordinator D} (h : c.Balanced)
    (hsize : c.participantStatus.size < UInt32.size) :
    c.statistics.actualResponseCount.toNat + c.statistics.missingResponseCount.toNat =
      c.statistics.expectedResponseCount.toNat := by
  rw [statistics]
  cases hround : c.latestRound with
  | none => simp
  | some round =>
      obtain ⟨s, hs⟩ := latestRound_mem hround
      have hsum := (h s round hs).size_add_size
      have hresponded : round.responded.size < UInt32.size := by omega
      have hpending : round.pending.size < UInt32.size := by omega
      simp only [Option.map_some, Option.getD_some, UInt32.toNat_ofNat_of_lt' hresponded,
        UInt32.toNat_ofNat_of_lt' hpending, UInt32.toNat_ofNat_of_lt' hsize]
      exact hsum

/-- The rounds between callbacks, and the statistics the callbacks publish. -/
theorem rounds_bookkeeping (params : Params D) (calls : List (CoordinatorCall D)) :
    (∀ s, s ∈ (after params calls).rounds ↔
      1 ≤ s ∧ s ≤ (after params calls).sequenceId ∧
        (after params calls).sequenceId ≤
          s + (max params.config.statsWindowSize 10).toInt.toNat) ∧
    (∀ (s : ℕ) (round : RoundStatus D), (after params calls).rounds[s]? = some round →
      (∀ p, p ∈ round.pending ∨ p ∈ round.responded ↔ p ∈ params.participantIds) ∧
        ∀ p, p ∈ round.pending → p ∉ round.responded) ∧
    ∀ e ∈ Machine.trace step (create params) calls, ∀ msg, .statistics msg ∈ e.output →
      msg.actualResponseCount.toNat + msg.missingResponseCount.toNat =
        msg.expectedResponseCount.toNat := by
  have hafter := bookkept_after params calls
  refine ⟨fun s ↦ ?_, fun s round hround ↦ ?_, fun e he msg hmsg ↦ ?_⟩
  · rw [hafter.windowed s, InWindow, keepCount, hafter.config]
  · have hcovers := hafter.balanced s round hround
    exact ⟨fun p ↦ (hcovers.cover p).trans (hafter.participants p), hcovers.disjoint⟩
  · obtain ⟨pre, post, -, hstate, hout⟩ := Machine.mem_trace step he
    have hpre : Bookkept params e.state := hstate ▸ bookkept_after params pre
    obtain ⟨c', hkeeps, -, hstatistics⟩ := step_keeps hpre.balanced e.input
    rw [hstatistics msg (hout ▸ hmsg)]
    refine statistics_balanced hkeeps.balanced ?_
    have hsame : ∀ p, p ∈ c'.participantStatus ↔ p ∈ (create params).participantStatus :=
      fun p ↦ ((hkeeps.participants p).trans (hpre.participants p)).trans (mem_create params p).symm
    rw [RoundStatus.size_eq_of_mem_iff hsame]
    exact size_create params

end SyncCoordinator

end RuntimeSync
