import Mathlib.Data.List.Chain
import RuntimeSync.Coordinator.SyncCoordinator
import RuntimeSync.Library.Streak

/-!
# The health of a participant

What the coordinator thinks of a participant is a few counters and a status,
and all that changes them is a sequence of outcomes, one for each missed check
and one for each acknowledgement.
-/

namespace RuntimeSync

/-- What the coordinator judges a participant by. -/
structure Health where
  missedCount : UInt32 := 0
  consecutiveMissedCount : UInt32 := 0
  slowCount : UInt32 := 0
  consecutiveSlowCount : UInt32 := 0
  failureCount : UInt32 := 0
  consecutiveFailureCount : UInt32 := 0
  goodCycleCount : UInt32 := 0
  status : SyncStatus := .ok
  deriving DecidableEq

inductive Outcome where
  | missed
  | acked (anomaly failed slow : Bool)
  deriving DecidableEq

namespace Outcome

def healthy : Outcome → Bool
  | acked false false false => true
  | _ => false

def slow : Outcome → Bool
  | acked _ _ true => true
  | _ => false

theorem acked_ne_missed (anomaly failed slow : Bool) : acked anomaly failed slow ≠ missed := nofun

end Outcome

namespace Health

/-! ## Outcomes

A limit that some row of failures has reached overrides the status that the
outcome itself calls for, and the status only rises. -/

def AtLimit (limit : UInt32) (h : Health) : Prop :=
  limit ≤ h.consecutiveMissedCount ∨ limit ≤ h.consecutiveSlowCount ∨
    limit ≤ h.consecutiveFailureCount

instance (limit : UInt32) : DecidablePred (AtLimit limit) := fun _ ↦
  inferInstanceAs (Decidable (_ ∨ _ ∨ _))

def candidate (limit : UInt32) (fallback : SyncStatus) (h : Health) : SyncStatus :=
  if h.AtLimit limit then .degraded else fallback

def raise (limit : UInt32) (fallback : SyncStatus) (h : Health) : Health :=
  if h.status.rank ≤ (h.candidate limit fallback).rank then
    { h with status := h.candidate limit fallback }
  else h

def miss (limit : UInt32) (h : Health) : Health :=
  raise limit .missing
    { h with
      missedCount := h.missedCount + 1
      consecutiveMissedCount := h.consecutiveMissedCount + 1
      goodCycleCount := 0 }

def fail (limit : UInt32) (h : Health) : Health :=
  raise limit .failed
    { h with
      failureCount := h.failureCount + 1
      consecutiveFailureCount := h.consecutiveFailureCount + 1
      goodCycleCount := 0 }

def slowDown (limit : UInt32) (h : Health) : Health :=
  raise limit .slow
    { h with
      slowCount := h.slowCount + 1
      consecutiveSlowCount := h.consecutiveSlowCount + 1
      consecutiveMissedCount := 0
      goodCycleCount := 0 }

def recover (recovery : UInt32) (h : Health) : Health :=
  { h with
    consecutiveMissedCount := 0
    consecutiveSlowCount := 0
    consecutiveFailureCount := 0
    goodCycleCount := h.goodCycleCount + 1
    status := if h.status = .ok ∨ recovery ≤ h.goodCycleCount + 1 then .ok else h.status }

def next (limit recovery : UInt32) (h : Health) : Outcome → Health
  | .missed => h.miss limit
  | .acked anomaly failed slow =>
      if !anomaly && !failed && !slow then h.recover recovery
      else
        let h := if anomaly || failed then h.fail limit else h
        if slow then h.slowDown limit else h

/-- What is published about the status when it changes. -/
def switch (before after : SyncStatus) : Option EventType :=
  if before ≠ .degraded ∧ after = .degraded then some .degraded
  else if before ≠ .ok ∧ after = .ok then some .recovered
  else none

/-- All the outcomes of a history, one after the other. -/
def judge (limit recovery : UInt32) (h : Health) (outcomes : List Outcome) : Health :=
  outcomes.foldl (next limit recovery) h

@[simp] theorem switch_self (status : SyncStatus) : switch status status = none := by
  cases status <;> rfl

variable {limit recovery : UInt32} {fallback : SyncStatus}

theorem raise_eq (h : Health) :
    h.raise limit fallback = { h with status := (h.raise limit fallback).status } := by
  rw [raise]
  split
  · rfl
  · rfl

theorem rank_le_raise (h : Health) : h.status.rank ≤ (h.raise limit fallback).status.rank := by
  rw [raise]
  split
  · next hle => exact hle
  · exact Nat.le_refl _

theorem rank_le_degraded (status : SyncStatus) : status.rank ≤ SyncStatus.rank .degraded := by
  cases status <;> decide

theorem eq_degraded_of_rank_le {status : SyncStatus}
    (h : SyncStatus.rank .degraded ≤ status.rank) : status = .degraded := by
  cases status <;> first | rfl | exact absurd h (by decide)

theorem raise_of_atLimit {h : Health} (hlimit : h.AtLimit limit) :
    (h.raise limit fallback).status = .degraded := by
  rw [raise, candidate, if_pos hlimit, if_pos (rank_le_degraded _)]

/-- The candidate does not depend on the status, so raising twice is raising once. -/
theorem raise_raise (h : Health) :
    (h.raise limit fallback).raise limit fallback = h.raise limit fallback := by
  have hcandidate : (h.raise limit fallback).candidate limit fallback =
      h.candidate limit fallback := by
    rw [raise_eq]
    rfl
  rw [raise, hcandidate]
  split
  · next hle =>
      rw [raise] at hle ⊢
      split
      · rfl
      · next hlt =>
          rw [if_neg hlt] at hle
          exact absurd hle hlt
  · rfl

@[simp] theorem raise_missedCount (h : Health) :
    (h.raise limit fallback).missedCount = h.missedCount := by rw [raise_eq]

@[simp] theorem raise_consecutiveMissedCount (h : Health) :
    (h.raise limit fallback).consecutiveMissedCount = h.consecutiveMissedCount := by
  rw [raise_eq]

@[simp] theorem raise_slowCount (h : Health) :
    (h.raise limit fallback).slowCount = h.slowCount := by rw [raise_eq]

@[simp] theorem raise_failureCount (h : Health) :
    (h.raise limit fallback).failureCount = h.failureCount := by rw [raise_eq]

@[simp] theorem raise_goodCycleCount (h : Health) :
    (h.raise limit fallback).goodCycleCount = h.goodCycleCount := by rw [raise_eq]

/-! ## Single outcomes -/

theorem next_of_healthy {o : Outcome} (ho : o.healthy = true) (h : Health) :
    h.next limit recovery o = h.recover recovery := by
  cases o with
  | missed => cases ho
  | acked anomaly failed slow =>
      cases anomaly with
      | true => cases ho
      | false =>
          cases failed with
          | true => cases ho
          | false =>
              cases slow with
              | true => cases ho
              | false => rfl

/-- What an abnormal outcome leaves the counters at, before the status is raised. -/
structure Counted (h h' : Health) (o : Outcome) : Prop where
  rank : h.status.rank ≤ h'.status.rank
  good : h'.goodCycleCount = 0
  missed : h'.missedCount = if o = .missed then h.missedCount + 1 else h.missedCount
  consecutiveMissed : h'.consecutiveMissedCount =
    if o = .missed then h.consecutiveMissedCount + 1
    else if o.slow then 0 else h.consecutiveMissedCount
  counts : o ≠ .missed →
    h'.slowCount = h.slowCount + 1 ∨ h'.failureCount = h.failureCount + 1

/-- The acknowledgement of a failure, slow or not. -/
theorem next_failed {anomaly failed : Bool} (hfailed : (anomaly || failed) = true) (slow : Bool)
    (h : Health) :
    h.next limit recovery (.acked anomaly failed slow) =
      if slow then (h.fail limit).slowDown limit else h.fail limit := by
  have hor : ¬(anomaly = false ∧ failed = false) := by
    rintro ⟨rfl, rfl⟩
    cases hfailed
  simp only [next, hfailed, if_true, Bool.and_eq_true, Bool.not_eq_true']
  rw [if_neg fun hand ↦ hor hand.1]

/-- Every abnormal outcome counts and then raises the status. -/
theorem next_eq_raise {o : Outcome} (ho : o.healthy = false) (h : Health) :
    ∃ (h' : Health) (fallback : SyncStatus),
      h.next limit recovery o = h'.raise limit fallback ∧ Counted h h' o := by
  cases o with
  | missed => exact ⟨_, .missing, rfl, Nat.le_refl _, rfl, rfl, rfl, fun hne ↦ absurd rfl hne⟩
  | acked anomaly failed slow =>
      cases hfailed : anomaly || failed with
      | true =>
          rw [next_failed hfailed]
          cases slow with
          | false => exact ⟨_, .failed, rfl, Nat.le_refl _, rfl, rfl, rfl, fun _ ↦ .inr rfl⟩
          | true =>
              refine ⟨_, .slow, rfl, ?_, rfl, ?_, rfl, fun _ ↦ .inl ?_⟩
              · exact rank_le_raise
                  { h with
                    failureCount := h.failureCount + 1
                    consecutiveFailureCount := h.consecutiveFailureCount + 1
                    goodCycleCount := 0 }
              · simp [fail]
              · simp [fail]
      | false =>
          obtain ⟨rfl, rfl⟩ := (Bool.or_eq_false_iff ..).mp hfailed
          cases slow with
          | false => cases ho
          | true => exact ⟨_, .slow, rfl, Nat.le_refl _, rfl, rfl, rfl, fun _ ↦ .inl rfl⟩

theorem rank_le_next {o : Outcome} (ho : o.healthy = false) (h : Health) :
    h.status.rank ≤ (h.next limit recovery o).status.rank := by
  obtain ⟨h', fallback, hnext, hcounted⟩ := h.next_eq_raise ho
  exact hnext ▸ hcounted.rank.trans (rank_le_raise h')

theorem goodCycleCount_next {o : Outcome} (ho : o.healthy = false) (h : Health) :
    (h.next limit recovery o).goodCycleCount = 0 := by
  obtain ⟨h', fallback, hnext, hcounted⟩ := h.next_eq_raise ho
  rw [hnext, raise_goodCycleCount, hcounted.good]

/-- The status leaves a rank only for good. -/
theorem rank_le_next_or_ok (h : Health) (o : Outcome) :
    h.status.rank ≤ (h.next limit recovery o).status.rank ∨
      (h.next limit recovery o).status = .ok := by
  cases ho : o.healthy with
  | false => exact .inl (rank_le_next ho h)
  | true =>
      rw [next_of_healthy ho, recover]
      dsimp only
      split
      · exact .inr rfl
      · exact .inl (Nat.le_refl _)

/-- Every acknowledgement counts, as one good cycle or one bad one. -/
theorem next_acked_ne (h : Health) (anomaly failed slow : Bool) :
    h.next limit recovery (.acked anomaly failed slow) ≠ h := by
  have hne (n : UInt32) : n + 1 ≠ n := by simp
  intro heq
  cases ho : (Outcome.acked anomaly failed slow).healthy with
  | true =>
      rw [next_of_healthy ho] at heq
      exact hne _ (congrArg goodCycleCount heq)
  | false =>
      obtain ⟨h', fallback, hnext, hcounted⟩ := h.next_eq_raise ho
      rw [hnext] at heq
      rcases hcounted.counts nofun with hslow | hfailure
      · rw [← heq, raise_slowCount] at hslow
        exact hne _ hslow.symm
      · rw [← heq, raise_failureCount] at hfailure
        exact hne _ hfailure.symm

/-! ## Reaching the limit -/

/-- A participant at the limit is degraded. -/
def Sound (limit : UInt32) (h : Health) : Prop := h.AtLimit limit → h.status = .degraded

theorem sound_raise (h : Health) : (h.raise limit fallback).Sound limit := by
  intro hlimit
  rw [raise_eq] at hlimit
  exact raise_of_atLimit hlimit

theorem sound_of_zero (hpos : 0 < limit) {h : Health} (hmissed : h.consecutiveMissedCount = 0)
    (hslow : h.consecutiveSlowCount = 0) (hfailure : h.consecutiveFailureCount = 0) :
    h.Sound limit := by
  rintro hlimit
  rw [AtLimit, hmissed, hslow, hfailure, or_self, or_self] at hlimit
  exact absurd (UInt32.lt_of_lt_of_le hpos hlimit) (UInt32.lt_irrefl 0)

theorem sound_next (hpos : 0 < limit) (h : Health) (o : Outcome) :
    (h.next limit recovery o).Sound limit := by
  cases ho : o.healthy with
  | true =>
      rw [next_of_healthy ho]
      exact sound_of_zero hpos rfl rfl rfl
  | false =>
      obtain ⟨h', fallback, hnext, -⟩ := h.next_eq_raise ho
      exact hnext ▸ sound_raise h'

/-! ## Histories -/

@[simp] theorem judge_concat (h : Health) (outcomes : List Outcome) (o : Outcome) :
    h.judge limit recovery (outcomes ++ [o]) =
      (h.judge limit recovery outcomes).next limit recovery o := by
  rw [judge, List.foldl_concat, judge]

theorem judge_append (h : Health) (outcomes outcomes' : List Outcome) :
    h.judge limit recovery (outcomes ++ outcomes') =
      (h.judge limit recovery outcomes).judge limit recovery outcomes' :=
  List.foldl_append

theorem sound_judge (hpos : 0 < limit) {h : Health} (hsound : h.Sound limit)
    (outcomes : List Outcome) : (h.judge limit recovery outcomes).Sound limit := by
  induction outcomes using List.reverseRecOn with
  | nil => exact hsound
  | append_singleton outcomes o ih => exact judge_concat h outcomes o ▸ sound_next hpos _ o

theorem consecutiveMissedCount_next {o : Outcome} (ho : o.healthy = false)
    (hslow : o.slow = false) (h : Health) :
    (h.next limit recovery o).consecutiveMissedCount =
      if o = .missed then h.consecutiveMissedCount + 1 else h.consecutiveMissedCount := by
  obtain ⟨h', fallback, hnext, hcounted⟩ := h.next_eq_raise ho
  rw [hnext, raise_consecutiveMissedCount, hcounted.consecutiveMissed, hslow]
  rfl

/-- While nothing resets the count of misses, the status is degraded or every
miss is in the count, which has not wrapped round before it reaches the limit. -/
theorem degraded_or_counted (hpos : 0 < limit) {h : Health} (hsound : h.Sound limit)
    (outcomes : List Outcome)
    (hreset : ∀ o ∈ outcomes, o.healthy = false ∧ o.slow = false) :
    (h.judge limit recovery outcomes).status = .degraded ∨
      outcomes.count .missed ≤
        (h.judge limit recovery outcomes).consecutiveMissedCount.toNat := by
  induction outcomes using List.reverseRecOn with
  | nil => exact .inr (Nat.zero_le _)
  | append_singleton outcomes o ih =>
      obtain ⟨ho, hslow⟩ := hreset o (by simp)
      have hbefore : (h.judge limit recovery outcomes).Sound limit :=
        sound_judge hpos hsound outcomes
      rw [judge_concat]
      generalize hnow : h.judge limit recovery outcomes = now at ih hbefore ⊢
      by_cases hdegraded : now.status = .degraded
      · refine .inl (eq_degraded_of_rank_le ?_)
        rw [← hdegraded]
        exact rank_le_next ho now
      · have hcount := (ih fun o' ho' ↦ hreset o' (List.mem_append_left _ ho')).resolve_left
          hdegraded
        have hbelow : now.consecutiveMissedCount < limit :=
          UInt32.not_le.mp fun hle ↦ hdegraded (hbefore (.inl hle))
        refine .inr ?_
        rw [consecutiveMissedCount_next ho hslow, List.count_append, List.count_singleton]
        by_cases hmissed : o = .missed
        · have hlimit := limit.toNat_lt
          rw [UInt32.lt_iff_toNat_lt] at hbelow
          rw [if_pos hmissed, hmissed, UInt32.toNat_add, Nat.mod_eq_of_lt (by simp; omega)]
          simpa using hcount
        · rw [if_neg hmissed, beq_eq_false_iff_ne.mpr hmissed]
          exact hcount

/-- As many misses as the limit, with nothing between them that resets their
count, degrade a participant. -/
theorem degraded_of_misses (hpos : 0 < limit) {h : Health} (hsound : h.Sound limit)
    {outcomes : List Outcome} (hreset : ∀ o ∈ outcomes, o.healthy = false ∧ o.slow = false)
    (hcount : limit.toNat ≤ outcomes.count .missed) :
    (h.judge limit recovery outcomes).status = .degraded := by
  apply (degraded_or_counted hpos hsound outcomes hreset).elim id
  intro h'
  exact sound_judge hpos hsound outcomes (.inl (UInt32.le_iff_toNat_le.mpr (hcount.trans h')))

/-- The good cycles are healthy outcomes in a row, the latest ones. -/
theorem goodCycleCount_le_streak (outcomes : List Outcome) :
    (judge limit recovery {} outcomes).goodCycleCount.toNat ≤
      streak Outcome.healthy outcomes := by
  induction outcomes using List.reverseRecOn with
  | nil => exact Nat.le_refl 0
  | append_singleton outcomes o ih =>
      rw [judge_concat, streak_concat]
      cases ho : o.healthy with
      | false => simp [goodCycleCount_next ho]
      | true =>
          rw [next_of_healthy ho]
          simp only [recover, if_true, UInt32.toNat_add]
          exact (Nat.mod_le _ _).trans (Nat.succ_le_succ ih)

/-- The status falls only to `ok`, and only after a row of healthy outcomes. -/
theorem rank_le_or_recovered (outcomes : List Outcome) (o : Outcome) :
    (judge limit recovery {} outcomes).status.rank ≤
        (judge limit recovery {} (outcomes ++ [o])).status.rank ∨
      (judge limit recovery {} (outcomes ++ [o])).status = .ok ∧ o.healthy = true ∧
        recovery.toNat ≤ streak Outcome.healthy (outcomes ++ [o]) := by
  cases ho : o.healthy with
  | false => exact .inl (judge_concat _ outcomes o ▸ rank_le_next ho _)
  | true =>
      have hstreak : (judge limit recovery {} (outcomes ++ [o])).goodCycleCount.toNat ≤
          streak Outcome.healthy (outcomes ++ [o]) := goodCycleCount_le_streak _
      rw [judge_concat, next_of_healthy ho] at hstreak ⊢
      generalize judge limit recovery {} outcomes = now at hstreak ⊢
      by_cases hok : now.status = .ok
      · exact .inl (by rw [hok]; exact Nat.zero_le _)
      · by_cases hgood : recovery ≤ now.goodCycleCount + 1
        · refine .inr ⟨if_pos (.inr hgood), rfl, ?_⟩
          exact (UInt32.le_iff_toNat_le.mp hgood).trans hstreak
        · refine .inl (Nat.le_of_eq ?_)
          rw [recover, if_neg (not_or.mpr ⟨hok, hgood⟩)]

/-! ## The published switches -/

theorem switch_of_rank_le {before after : SyncStatus} (hle : before.rank ≤ after.rank) :
    switch before after =
      if before ≠ .degraded ∧ after = .degraded then some .degraded else none := by
  have hnot : ¬(before ≠ .ok ∧ after = .ok) := by
    rintro ⟨hne, rfl⟩
    cases before with
    | ok => exact hne rfl
    | slow | missing | failed | degraded => exact absurd hle (by decide)
  rw [switch, if_neg hnot]

theorem switch_of_recover (h : Health) :
    switch h.status (h.recover recovery).status =
      if h.status ≠ .ok ∧ (h.recover recovery).status = .ok then some .recovered else none := by
  have hnot : ¬(h.status ≠ .degraded ∧ (h.recover recovery).status = .degraded) := by
    rintro ⟨hne, hdegraded⟩
    rw [recover] at hdegraded
    dsimp only at hdegraded
    split at hdegraded
    · cases hdegraded
    · exact hne hdegraded
  rw [switch, if_neg hnot]

/-- The status is degraded exactly when that is what was published last. -/
theorem degraded_iff_switch {before after : SyncStatus}
    (hmove : before.rank ≤ after.rank ∨ after = .ok) {log : List EventType}
    (hlog : before = .degraded ↔ log.getLast? = some .degraded) :
    after = .degraded ↔ (log ++ (switch before after).toList).getLast? = some .degraded := by
  by_cases hentered : before ≠ .degraded ∧ after = .degraded
  · rw [switch, if_pos hentered]
    simpa using hentered.2
  · by_cases hrecovered : before ≠ .ok ∧ after = .ok
    · rw [switch, if_neg hentered, if_pos hrecovered, hrecovered.2]
      simp
    · rw [switch, if_neg hentered, if_neg hrecovered, Option.toList_none, List.append_nil, ← hlog]
      refine ⟨fun hafter ↦ by_contra fun hne ↦ hentered ⟨hne, hafter⟩, fun hbefore ↦ ?_⟩
      rcases hmove with hle | hok
      · exact eq_degraded_of_rank_le (hbefore ▸ hle)
      · exact absurd ⟨by simp [hbefore], hok⟩ hrecovered

/-- A switch to degraded is published only after another switch, if there was one before. -/
theorem isChain_switch {before after : SyncStatus} {log : List EventType}
    (hlog : before = .degraded ↔ log.getLast? = some .degraded)
    (hchain : log.IsChain fun e e' ↦ ¬(e = .degraded ∧ e' = .degraded)) :
    (log ++ (switch before after).toList).IsChain fun e e' ↦
      ¬(e = .degraded ∧ e' = .degraded) := by
  refine List.isChain_append.mpr ⟨hchain, ?_, ?_⟩
  · cases switch before after <;> simp
  · intro e he e' he' hboth
    rw [switch] at he'
    split at he'
    · next hentered => exact hentered.1 (hlog.mpr (hboth.1 ▸ he))
    · split at he'
      · simp only [Option.toList_some, List.head?_cons, Option.mem_some_iff] at he'
        exact absurd (he'.trans hboth.2) (by decide)
      · simp at he'

end Health

end RuntimeSync
