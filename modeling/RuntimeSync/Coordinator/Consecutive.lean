import RuntimeSync.Coordinator.Recovery

/-!
# Consecutive outcomes

Three counters of a participant are meant to hold how long its latest row of
misses, of slow cycles and of failures is.  A counter that an outcome of
another kind leaves as it is goes on counting across it.
-/

namespace RuntimeSync

/-! ## Kinds of outcomes -/

inductive OutcomeKind where
  | missed
  | slow
  | failure
  deriving DecidableEq

namespace OutcomeKind

/-- An acknowledgement can be slow and a failure at once. -/
def has : OutcomeKind → Outcome → Bool
  | .missed, .missed => true
  | .slow, .acked _ _ tooSlow => tooSlow
  | .failure, .acked anomaly failed _ => anomaly || failed
  | _, _ => false

def counter : OutcomeKind → Health → UInt32
  | .missed => Health.consecutiveMissedCount
  | .slow => Health.consecutiveSlowCount
  | .failure => Health.consecutiveFailureCount

/-- A healthy outcome starts all counters again, and a slow one that of the misses. -/
def resets (kind : OutcomeKind) (o : Outcome) : Bool :=
  o.healthy || (o.slow && kind = .missed)

variable {limit recovery : UInt32} {fallback : SyncStatus}

@[simp] theorem counter_raise (kind : OutcomeKind) (h : Health) :
    kind.counter (h.raise limit fallback) = kind.counter h := by
  rw [Health.raise_eq]
  cases kind <;> rfl

theorem counter_miss (kind : OutcomeKind) (h : Health) :
    kind.counter (h.miss limit) =
      if kind = .missed then kind.counter h + 1 else kind.counter h := by
  rw [Health.miss, counter_raise]
  cases kind <;> rfl

theorem counter_fail (kind : OutcomeKind) (h : Health) :
    kind.counter (h.fail limit) =
      if kind = .failure then kind.counter h + 1 else kind.counter h := by
  rw [Health.fail, counter_raise]
  cases kind <;> rfl

theorem counter_slowDown (kind : OutcomeKind) (h : Health) :
    kind.counter (h.slowDown limit) =
      if kind = .slow then kind.counter h + 1
      else if kind = .missed then 0
      else kind.counter h := by
  rw [Health.slowDown, counter_raise]
  cases kind <;> rfl

theorem counter_recover (kind : OutcomeKind) (h : Health) :
    kind.counter (h.recover recovery) = 0 := by
  cases kind <;> rfl

/-- What one outcome does to a counter. -/
theorem counter_next (kind : OutcomeKind) (h : Health) (o : Outcome) :
    kind.counter (h.next limit recovery o) =
      if kind.has o then kind.counter h + 1
      else if kind.resets o then 0
      else kind.counter h := by
  cases o with
  | missed =>
      rw [Health.next, counter_miss]
      cases kind <;> rfl
  | acked anomaly failed tooSlow =>
      cases hfailed : anomaly || failed with
      | true =>
          rw [Health.next_failed hfailed]
          have hhealthy : (Outcome.acked anomaly failed tooSlow).healthy = false := by
            cases anomaly <;> cases failed <;> first | rfl | cases hfailed
          cases tooSlow with
          | false =>
              rw [if_neg Bool.false_ne_true, counter_fail]
              cases kind <;> simp [has, resets, hfailed, hhealthy, Outcome.slow]
          | true =>
              rw [if_pos rfl, counter_slowDown, counter_fail]
              cases kind <;> simp [has, resets, hfailed, hhealthy, Outcome.slow]
      | false =>
          obtain ⟨rfl, rfl⟩ := (Bool.or_eq_false_iff ..).mp hfailed
          cases tooSlow with
          | false =>
              rw [Health.next_of_healthy rfl, counter_recover]
              cases kind <;> rfl
          | true =>
              change kind.counter (h.slowDown limit) = _
              rw [counter_slowDown]
              cases kind <;> rfl

end OutcomeKind

namespace Health

open OutcomeKind

variable {limit recovery : UInt32} {fallback : SyncStatus}

/-! ## Counters and streaks -/

/-- Every counter holds the length of the latest row of its kind. -/
def Consecutive (limit recovery : UInt32) (outcomes : List Outcome) : Prop :=
  ∀ kind : OutcomeKind,
    (kind.counter (judge limit recovery {} outcomes)).toNat = streak kind.has outcomes

/-- Whatever breaks a row of a kind also starts its counter again. -/
def Breaks (before after : Outcome) : Prop :=
  ∀ kind : OutcomeKind, kind.has before = true → kind.has after = true ∨ kind.resets after = true

/-- Every row is broken by an outcome that resets its counter, and none is so
long that the counter wraps. -/
structure Unmixed (outcomes : List Outcome) : Prop where
  breaks : outcomes.IsChain Breaks
  fits : ∀ initial, initial <+: outcomes → ∀ kind : OutcomeKind, streak kind.has initial < 2 ^ 32

theorem consecutive_nil : Consecutive limit recovery [] := by
  intro kind
  cases kind <;> rfl

/-- The counters stay exact if and only if the next outcome goes on with its own
rows, which must fit, and resets the others. -/
theorem consecutive_concat_iff {outcomes : List Outcome}
    (h : Consecutive limit recovery outcomes) (o : Outcome) :
    Consecutive limit recovery (outcomes ++ [o]) ↔
      ∀ kind : OutcomeKind, streak kind.has (outcomes ++ [o]) < 2 ^ 32 ∧
        (kind.has o = false → streak kind.has outcomes = 0 ∨ kind.resets o = true) := by
  refine forall_congr' fun kind ↦ ?_
  have hbefore := h kind
  have hbound := (kind.counter (judge limit recovery {} outcomes)).toNat_lt
  rw [judge_concat, counter_next, streak_concat]
  cases hhas : kind.has o with
  | true =>
      simp only [if_true, UInt32.toNat_add, UInt32.toNat_one, hbefore, reduceCtorEq, false_implies,
        and_true]
      omega
  | false =>
      cases hresets : kind.resets o with
      | true => simp
      | false => simp [hbefore]

theorem streak_eq_zero_iff {kind : OutcomeKind} {outcomes : List Outcome} :
    streak kind.has outcomes = 0 ↔ ∀ before ∈ outcomes.getLast?, kind.has before = false := by
  induction outcomes using List.reverseRecOn with
  | nil => simp [streak]
  | append_singleton outcomes before _ =>
      rw [streak_concat, List.getLast?_concat]
      cases hhas : kind.has before <;> simp [hhas]

theorem unmixed_concat_iff {outcomes : List Outcome} (o : Outcome) :
    Unmixed (outcomes ++ [o]) ↔ Unmixed outcomes ∧
      ∀ kind : OutcomeKind, streak kind.has (outcomes ++ [o]) < 2 ^ 32 ∧
        (kind.has o = false → streak kind.has outcomes = 0 ∨ kind.resets o = true) := by
  have hlast : (∀ before ∈ outcomes.getLast?, ∀ after ∈ [o].head?, Breaks before after) ↔
      ∀ kind : OutcomeKind,
        kind.has o = false → streak kind.has outcomes = 0 ∨ kind.resets o = true := by
    constructor
    · intro hbreaks kind hhas
      rw [or_iff_not_imp_right, streak_eq_zero_iff]
      intro hresets before hbefore
      rw [← Bool.not_eq_true]
      intro htrue
      rcases hbreaks before hbefore o rfl kind htrue with hafter | hafter
      · rw [hhas] at hafter
        cases hafter
      · exact hresets hafter
    · intro hall before hbefore after hafter kind htrue
      obtain rfl := Option.some.inj hafter
      cases hhas : kind.has o with
      | true => exact .inl rfl
      | false =>
          refine .inr ((hall kind hhas).resolve_left fun hzero ↦ ?_)
          rw [streak_eq_zero_iff.mp hzero before hbefore] at htrue
          cases htrue
  constructor
  · intro h
    obtain ⟨hchain, -, hbreaks⟩ := List.isChain_append.mp h.breaks
    refine ⟨⟨hchain, fun initial hinitial ↦
      h.fits initial (hinitial.trans (List.prefix_append _ _))⟩, fun kind ↦ ?_⟩
    exact ⟨h.fits _ (List.prefix_refl _) kind, hlast.mp hbreaks kind⟩
  · rintro ⟨hbefore, hall⟩
    refine ⟨?_, fun initial hinitial kind ↦ ?_⟩
    · exact List.isChain_append.mpr
        ⟨hbefore.breaks, List.isChain_singleton o, hlast.mpr fun kind ↦ (hall kind).2⟩
    · rcases List.prefix_concat_iff.mp hinitial with rfl | hprefix
      · exact (hall kind).1
      · exact hbefore.fits initial hprefix kind

/-- After every initial part of a history the counters are exact, if and only if
the history is unmixed. -/
theorem consecutive_iff_unmixed (limit recovery : UInt32) (outcomes : List Outcome) :
    (∀ initial, initial <+: outcomes → Consecutive limit recovery initial) ↔ Unmixed outcomes := by
  induction outcomes using List.reverseRecOn with
  | nil =>
      refine iff_of_true (fun initial h ↦ ?_) ⟨List.isChain_nil, fun initial h kind ↦ ?_⟩
      · rw [List.prefix_nil.mp h]
        exact consecutive_nil
      · rw [List.prefix_nil.mp h]
        exact Nat.two_pow_pos 32
  | append_singleton outcomes o ih =>
      rw [unmixed_concat_iff, ← ih]
      constructor
      · intro hall
        have hbefore : ∀ initial, initial <+: outcomes → Consecutive limit recovery initial :=
          fun initial h ↦ hall initial (h.trans (List.prefix_append _ _))
        exact ⟨hbefore, (consecutive_concat_iff (hbefore outcomes (List.prefix_refl _)) o).mp
          (hall _ (List.prefix_refl _))⟩
      · rintro ⟨hbefore, hnext⟩ initial hinitial
        rcases List.prefix_concat_iff.mp hinitial with rfl | hprefix
        · exact (consecutive_concat_iff (hbefore outcomes (List.prefix_refl _)) o).mpr hnext
        · exact hbefore initial hprefix

/-! ## Entering the degraded status -/

theorem atLimit_iff (h : Health) :
    h.AtLimit limit ↔ ∃ kind : OutcomeKind, limit ≤ kind.counter h := by
  constructor
  · rintro (hmissed | hslow | hfailure)
    · exact ⟨.missed, hmissed⟩
    · exact ⟨.slow, hslow⟩
    · exact ⟨.failure, hfailure⟩
  · rintro ⟨kind, hkind⟩
    cases kind with
    | missed => exact .inl hkind
    | slow => exact .inr (.inl hkind)
    | failure => exact .inr (.inr hkind)

/-- Only the limit calls for the degraded status. -/
theorem atLimit_of_raise (hfallback : fallback ≠ .degraded) {h : Health}
    (hne : h.status ≠ .degraded) (hdegraded : (h.raise limit fallback).status = .degraded) :
    (h.raise limit fallback).AtLimit limit := by
  have hcounters : (h.raise limit fallback).AtLimit limit ↔ h.AtLimit limit := by
    simp only [atLimit_iff, counter_raise]
  rw [hcounters]
  by_contra hlimit
  rw [raise, candidate, if_neg hlimit] at hdegraded
  split at hdegraded
  · exact hfallback hdegraded
  · exact hne hdegraded

theorem atLimit_miss {h : Health} (hne : h.status ≠ .degraded)
    (hdegraded : (h.miss limit).status = .degraded) : (h.miss limit).AtLimit limit :=
  atLimit_of_raise (by decide : SyncStatus.missing ≠ .degraded) hne hdegraded

theorem atLimit_fail {h : Health} (hne : h.status ≠ .degraded)
    (hdegraded : (h.fail limit).status = .degraded) : (h.fail limit).AtLimit limit :=
  atLimit_of_raise (by decide : SyncStatus.failed ≠ .degraded) hne hdegraded

theorem atLimit_slowDown {h : Health} (hne : h.status ≠ .degraded)
    (hdegraded : (h.slowDown limit).status = .degraded) : (h.slowDown limit).AtLimit limit :=
  atLimit_of_raise (by decide : SyncStatus.slow ≠ .degraded) hne hdegraded

/-- A failure that is slow as well resets the misses, but they were not at the
limit before. -/
theorem atLimit_slowDown_fail {h : Health} (hsound : h.Sound limit) (hne : h.status ≠ .degraded)
    (hdegraded : ((h.fail limit).slowDown limit).status = .degraded) :
    ((h.fail limit).slowDown limit).AtLimit limit := by
  by_cases hfail : (h.fail limit).status = .degraded
  · obtain ⟨kind, hkind⟩ := (atLimit_iff _).mp (atLimit_fail hne hfail)
    have hbelow : ¬limit ≤ kind.counter h := fun hle ↦
      hne (hsound ((atLimit_iff h).mpr ⟨kind, hle⟩))
    rw [counter_fail] at hkind
    split at hkind
    · next hfailure =>
        subst hfailure
        refine (atLimit_iff _).mpr ⟨.failure, ?_⟩
        rw [counter_slowDown, counter_fail]
        exact hkind
    · exact absurd hkind hbelow
  · exact atLimit_slowDown hfail hdegraded

/-- The status becomes degraded only at the limit of some counter. -/
theorem atLimit_of_degraded {h : Health} (hsound : h.Sound limit) (hne : h.status ≠ .degraded)
    {o : Outcome} (hdegraded : (h.next limit recovery o).status = .degraded) :
    (h.next limit recovery o).AtLimit limit := by
  cases o with
  | missed => exact atLimit_miss hne hdegraded
  | acked anomaly failed tooSlow =>
      cases hfailed : anomaly || failed with
      | true =>
          rw [next_failed hfailed] at hdegraded ⊢
          cases tooSlow with
          | false => exact atLimit_fail hne hdegraded
          | true => exact atLimit_slowDown_fail hsound hne hdegraded
      | false =>
          obtain ⟨rfl, rfl⟩ := (Bool.or_eq_false_iff ..).mp hfailed
          cases tooSlow with
          | false =>
              rw [next_of_healthy rfl, recover] at hdegraded
              dsimp only at hdegraded
              split at hdegraded
              · cases hdegraded
              · exact absurd hdegraded hne
          | true => exact atLimit_slowDown hne hdegraded

end Health

/-! ## Runs -/

namespace SyncCoordinator

variable {D : Type} [TimingArith D]

/-- The counters of a participant mean what their names say in every state of a
run, and it is degraded only by as many outcomes of one kind in a row. -/
structure CountsConsecutively (params : Params D) (calls : List (CoordinatorCall D)) (p : UInt32) :
    Prop where
  counters : ∀ seen, seen <+: calls → ∀ kind : OutcomeKind,
    (kind.counter ((after params seen).health p)).toNat =
      streak kind.has (outcomes params seen p)
  degraded : 1 ≤ params.maxConsecutiveTimeouts → ∀ seen call, seen ++ [call] <+: calls →
    (after params seen).statusOf p ≠ .degraded →
    (after params (seen ++ [call])).statusOf p = .degraded →
    ∃ kind : OutcomeKind, params.maxConsecutiveTimeouts.toInt.toNat ≤
      streak kind.has (outcomes params (seen ++ [call]) p)

theorem outcomes_mono {params : Params D} {seen calls : List (CoordinatorCall D)}
    (h : seen <+: calls) (p : UInt32) : outcomes params seen p <+: outcomes params calls p := by
  obtain ⟨rest, rfl⟩ := h
  rw [outcomes_append]
  exact List.prefix_append _ _

/-- A call has one outcome at most, so every initial part of the outcomes is
what an initial part of the calls has led to. -/
theorem exists_seen (params : Params D) (calls : List (CoordinatorCall D)) (p : UInt32)
    {initial : List Outcome} (h : initial <+: outcomes params calls p) :
    ∃ seen, seen <+: calls ∧ outcomes params seen p = initial := by
  induction calls using List.reverseRecOn with
  | nil => exact ⟨[], List.prefix_refl _, (List.prefix_nil.mp h).symm⟩
  | append_singleton calls call ih =>
      by_cases hall : initial = outcomes params (calls ++ [call]) p
      · exact ⟨calls ++ [call], List.prefix_refl _, hall.symm⟩
      · have hbefore : initial <+: outcomes params calls p := by
          rw [outcomes_append, outcomesFrom_singleton] at h hall
          cases hout : (after params calls).outcomeOf p call with
          | none =>
              rw [hout, Option.toList_none, List.append_nil] at h
              exact h
          | some o =>
              rw [hout] at h hall
              exact (List.prefix_concat_iff.mp h).resolve_left hall
        obtain ⟨seen, hseen, houtcomes⟩ := ih hbefore
        exact ⟨seen, hseen.trans (List.prefix_append _ _), houtcomes⟩

/-- Some outcome has led to the change of status. -/
theorem degraded_of_streak {params : Params D} {seen : List (CoordinatorCall D)}
    {call : CoordinatorCall D} {p : UInt32} (hlimit : 1 ≤ params.maxConsecutiveTimeouts)
    (hcounters : ∀ kind : OutcomeKind,
      (kind.counter ((after params (seen ++ [call])).health p)).toNat =
        streak kind.has (outcomes params (seen ++ [call]) p))
    (hne : (after params seen).statusOf p ≠ .degraded)
    (hdegraded : (after params (seen ++ [call])).statusOf p = .degraded) :
    ∃ kind : OutcomeKind, params.maxConsecutiveTimeouts.toInt.toNat ≤
      streak kind.has (outcomes params (seen ++ [call]) p) := by
  have htoNat : params.config.limit.toNat = params.maxConsecutiveTimeouts.toInt.toNat :=
    toNat_toUInt32 hlimit
  have hpos := limit_pos hlimit
  have hsound : ((after params seen).health p).Sound params.config.limit := by
    rw [health_after]
    exact Health.sound_judge hpos (Health.sound_of_zero hpos rfl rfl rfl) _
  have hatLimit : ((after params (seen ++ [call])).health p).AtLimit params.config.limit := by
    rw [statusOf, after_concat, health_step, config_after, outcomesFrom_singleton] at hdegraded
    rw [after_concat, health_step, config_after, outcomesFrom_singleton]
    cases hout : (after params seen).outcomeOf p call with
    | none =>
        rw [hout] at hdegraded
        exact absurd hdegraded hne
    | some o =>
        rw [hout] at hdegraded
        exact Health.atLimit_of_degraded hsound hne hdegraded
  obtain ⟨kind, hkind⟩ := (Health.atLimit_iff _).mp hatLimit
  refine ⟨kind, ?_⟩
  rw [← hcounters kind, ← htoNat]
  exact UInt32.le_iff_toNat_le.mp hkind

theorem countsConsecutively_iff (params : Params D) (calls : List (CoordinatorCall D))
    (p : UInt32) :
    CountsConsecutively params calls p ↔ Health.Unmixed (outcomes params calls p) := by
  rw [← Health.consecutive_iff_unmixed params.config.limit params.config.recovery]
  constructor
  · intro h initial hinitial
    obtain ⟨seen, hseen, rfl⟩ := exists_seen params calls p hinitial
    intro kind
    rw [← health_after]
    exact h.counters seen hseen kind
  · intro hall
    have hcounters : ∀ seen, seen <+: calls → ∀ kind : OutcomeKind,
        (kind.counter ((after params seen).health p)).toNat =
          streak kind.has (outcomes params seen p) := by
      intro seen hseen kind
      rw [health_after]
      exact hall _ (outcomes_mono hseen p) kind
    exact ⟨hcounters, fun hlimit seen call hseen hne hdegraded ↦
      degraded_of_streak hlimit (hcounters _ hseen) hne hdegraded⟩

/-- Two misses with a failure between them, and the count of misses is two. -/
def mixedCycles : List (CoordinatorCall ℚ) :=
  [soloTrigger, .responseTimer 1,
    .ack (soloFailure 1) ⟨10, 2000000⟩ ⟨10, 2000000⟩,
    soloTrigger, .responseTimer 2]

theorem mixedCycles_not_consecutive :
    outcomes soloParams (soloStart ++ mixedCycles) 1 =
        [.missed, .acked false true false, .missed] ∧
      ((after soloParams (soloStart ++ mixedCycles)).health 1).consecutiveMissedCount = 2 ∧
      ¬CountsConsecutively soloParams (soloStart ++ mixedCycles) 1 := by
  have houtcomes : outcomes soloParams (soloStart ++ mixedCycles) 1 =
      [.missed, .acked false true false, .missed] := by decide +kernel
  have hcount : ((after soloParams (soloStart ++ mixedCycles)).health 1).consecutiveMissedCount =
      2 := by decide +kernel
  refine ⟨houtcomes, hcount, fun h ↦ ?_⟩
  have hmissed := h.counters _ (List.prefix_refl _) .missed
  change ((after soloParams _).health 1).consecutiveMissedCount.toNat = _ at hmissed
  rw [hcount, houtcomes] at hmissed
  exact absurd hmissed (by decide)

end SyncCoordinator

end RuntimeSync
