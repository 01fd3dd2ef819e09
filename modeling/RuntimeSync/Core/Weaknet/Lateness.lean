import RuntimeSync.Core.Weaknet.CycleWindow
import RuntimeSync.Library.MachineInt

/-!
# Lateness and arrival

A sample that comes later should not fare better.  The window asks for the
cutoff first, and for the time to live only of samples within the cutoff, so
a time to live that ends before the cutoff is forgotten after it.
-/

namespace RuntimeSync.Weaknet

/-- Fresh, late but recorded, expired. -/
def WindowDecision.lateness (decision : WindowDecision) : ℕ :=
  if decision.status = .fresh then 0
  else if decision.lateDisposition = .latePocket then 1
  else 2

namespace CycleWindow

/-! ## Windows that are valid -/

structure ValidWindow (cfg : CycleWindowConfig) : Prop where
  periodNs : 0 < cfg.periodNs.toInt
  receiveCutoff : 0 ≤ cfg.receiveCutoffOffsetNs.toInt
  lateRecordWindow : 0 ≤ cfg.lateRecordWindowNs.toInt
  ttlNs : 0 ≤ cfg.ttlNs.toInt
  inside : cfg.receiveCutoffOffsetNs.toInt ≤ cfg.periodNs.toInt

theorem valid_ok {cfg : CycleWindowConfig} (h : valid cfg = .ok ()) : ValidWindow cfg := by
  rw [valid] at h
  split_ifs at h with hperiod hnegative hinside
  simp only [not_or, Int64.not_lt] at hnegative
  exact ⟨Int64.lt_iff_toInt_lt.mp (Int64.not_le.mp hperiod),
    Int64.le_iff_toInt_le.mp hnegative.1, Int64.le_iff_toInt_le.mp hnegative.2.1,
    Int64.le_iff_toInt_le.mp hnegative.2.2, Int64.le_iff_toInt_le.mp (Int64.not_lt.mp hinside)⟩

/-- The checks that are not about time. -/
structure PassesChecks (sample : SampleTiming) : Prop where
  senderClockOk : sample.senderClockOk = true
  producerOk : sample.producerOk = true
  schemaOk : sample.schemaOk = true
  payloadOk : sample.payloadOk = true
  original : sample.duplicate = false

theorem classify_of_passesChecks {T : Type} [TimeArith T] {cfg : CycleWindowConfig}
    {sample : SampleTiming} (hchecks : PassesChecks sample) (cycleStartNs localReceiveNs : Int64) :
    classify T cfg sample.targetCycle cycleStartNs
        { sample with localReceiveNs := localReceiveNs } =
      classifyTime T cfg cycleStartNs localReceiveNs := by
  simp [classify, hchecks.senderClockOk, hchecks.producerOk, hchecks.schemaOk, hchecks.payloadOk,
    hchecks.original]

/-! ## The thresholds -/

/-- The sample came after the receive cutoff. -/
def PastCutoff (cfg : CycleWindowConfig) (cycleStartNs localReceiveNs : Int64) : Prop :=
  0 < cfg.receiveCutoffOffsetNs.toInt ∧
    cycleStartNs.toInt + cfg.receiveCutoffOffsetNs.toInt < localReceiveNs.toInt

/-- If it came after the cutoff, it is still kept for the record. -/
def Recorded (cfg : CycleWindowConfig) (cycleStartNs localReceiveNs : Int64) : Prop :=
  cfg.lateRecordWindowNs.toInt = 0 ∨ localReceiveNs.toInt ≤
    cycleStartNs.toInt + cfg.receiveCutoffOffsetNs.toInt + cfg.lateRecordWindowNs.toInt

def PastTtl (cfg : CycleWindowConfig) (cycleStartNs localReceiveNs : Int64) : Prop :=
  0 < cfg.ttlNs.toInt ∧ cycleStartNs.toInt + cfg.ttlNs.toInt < localReceiveNs.toInt

section Thresholds

variable {cfg : CycleWindowConfig} {cycleStartNs localReceiveNs earlier later : Int64}

instance : Decidable (PastCutoff cfg cycleStartNs localReceiveNs) :=
  inferInstanceAs (Decidable (_ ∧ _))

instance : Decidable (Recorded cfg cycleStartNs localReceiveNs) :=
  inferInstanceAs (Decidable (_ ∨ _))

instance : Decidable (PastTtl cfg cycleStartNs localReceiveNs) :=
  inferInstanceAs (Decidable (_ ∧ _))

theorem PastCutoff.mono (hle : earlier ≤ later) (h : PastCutoff cfg cycleStartNs earlier) :
    PastCutoff cfg cycleStartNs later :=
  ⟨h.1, lt_of_lt_of_le h.2 (Int64.le_iff_toInt_le.mp hle)⟩

theorem Recorded.anti (hle : earlier ≤ later) (h : Recorded cfg cycleStartNs later) :
    Recorded cfg cycleStartNs earlier :=
  h.imp_right fun hlimit ↦ le_trans (Int64.le_iff_toInt_le.mp hle) hlimit

theorem PastTtl.mono (hle : earlier ≤ later) (h : PastTtl cfg cycleStartNs earlier) :
    PastTtl cfg cycleStartNs later :=
  ⟨h.1, lt_of_lt_of_le h.2 (Int64.le_iff_toInt_le.mp hle)⟩

theorem classifyTime_lateness (cfg : CycleWindowConfig) (cycleStartNs localReceiveNs : Int64) :
    (classifyTime ℤ cfg cycleStartNs localReceiveNs).lateness =
      if PastCutoff cfg cycleStartNs localReceiveNs then
        if Recorded cfg cycleStartNs localReceiveNs then 1 else 2
      else if PastTtl cfg cycleStartNs localReceiveNs then 2 else 0 := by
  have hcutoff : (0 < cfg.receiveCutoffOffsetNs ∧
      cycleStartNs.toInt + cfg.receiveCutoffOffsetNs.toInt < localReceiveNs.toInt) ↔
        PastCutoff cfg cycleStartNs localReceiveNs := and_congr_left' Int64.lt_iff_toInt_lt
  have httl : (0 < cfg.ttlNs ∧
      cycleStartNs.toInt + cfg.ttlNs.toInt < localReceiveNs.toInt) ↔
        PastTtl cfg cycleStartNs localReceiveNs := and_congr_left' Int64.lt_iff_toInt_lt
  have hrecorded : (cfg.lateRecordWindowNs = 0 ∨
      TimeArith.lt (TimeArith.add
        (TimeArith.add (TimeArith.ofNs cycleStartNs : ℤ)
          (TimeArith.ofNs cfg.receiveCutoffOffsetNs))
        (TimeArith.ofNs cfg.lateRecordWindowNs)) (TimeArith.ofNs localReceiveNs) = false) ↔
      Recorded cfg cycleStartNs localReceiveNs :=
    or_congr Int64.toInt_inj.symm (decide_eq_false_iff_not.trans not_lt)
  rw [classifyTime]
  simp only [passed_iff, hcutoff, httl, hrecorded]
  split_ifs <;> rfl

/-- Within the cutoff only the time to live counts. -/
theorem lateness_of_not_pastCutoff (h : ¬PastCutoff cfg cycleStartNs localReceiveNs) :
    (classifyTime ℤ cfg cycleStartNs localReceiveNs).lateness =
      if PastTtl cfg cycleStartNs localReceiveNs then 2 else 0 := by
  rw [classifyTime_lateness, if_neg h]

/-- After it, only the record window does. -/
theorem lateness_of_pastCutoff (h : PastCutoff cfg cycleStartNs localReceiveNs) :
    (classifyTime ℤ cfg cycleStartNs localReceiveNs).lateness =
      if Recorded cfg cycleStartNs localReceiveNs then 1 else 2 := by
  rw [classifyTime_lateness, if_pos h]

/-! ## Coming later -/

/-- The later arrival is recorded as late, though the earlier one had expired. -/
structure Revives (cfg : CycleWindowConfig) (cycleStartNs earlier later : Int64) : Prop where
  within : ¬PastCutoff cfg cycleStartNs earlier
  expired : PastTtl cfg cycleStartNs earlier
  past : PastCutoff cfg cycleStartNs later
  recorded : Recorded cfg cycleStartNs later

theorem lateness_le_iff (hle : earlier ≤ later) :
    (classifyTime ℤ cfg cycleStartNs earlier).lateness ≤
        (classifyTime ℤ cfg cycleStartNs later).lateness ↔
      ¬Revives cfg cycleStartNs earlier later := by
  by_cases hpast : PastCutoff cfg cycleStartNs earlier
  · refine iff_of_true ?_ fun h ↦ h.within hpast
    rw [lateness_of_pastCutoff hpast, lateness_of_pastCutoff (hpast.mono hle)]
    by_cases hrecorded : Recorded cfg cycleStartNs later
    · rw [if_pos hrecorded, if_pos (hrecorded.anti hle)]
    · rw [if_neg hrecorded]
      split_ifs
      · exact one_le_two
      · exact le_refl 2
  by_cases hlater : PastCutoff cfg cycleStartNs later
  · rw [lateness_of_not_pastCutoff hpast, lateness_of_pastCutoff hlater]
    by_cases hexpired : PastTtl cfg cycleStartNs earlier
    · by_cases hrecorded : Recorded cfg cycleStartNs later
      · rw [if_pos hexpired, if_pos hrecorded]
        exact iff_of_false (by omega) fun h ↦ h ⟨hpast, hexpired, hlater, hrecorded⟩
      · rw [if_neg hrecorded]
        exact iff_of_true (by rw [if_pos hexpired]) fun h ↦ hrecorded h.recorded
    · rw [if_neg hexpired]
      exact iff_of_true (Nat.zero_le _) fun h ↦ hexpired h.expired
  · refine iff_of_true ?_ fun h ↦ hlater h.past
    rw [lateness_of_not_pastCutoff hpast, lateness_of_not_pastCutoff hlater]
    by_cases hexpired : PastTtl cfg cycleStartNs earlier
    · rw [if_pos hexpired, if_pos (hexpired.mono hle)]
    · rw [if_neg hexpired]
      exact Nat.zero_le _

end Thresholds

/-! ## Windows in which nothing revives -/

/-- The time to live, if there is one, does not end before the cutoff. -/
def TtlCoversCutoff (cfg : CycleWindowConfig) : Prop :=
  cfg.ttlNs = 0 ∨ cfg.receiveCutoffOffsetNs = 0 ∨ cfg.receiveCutoffOffsetNs ≤ cfg.ttlNs

instance (cfg : CycleWindowConfig) : Decidable (TtlCoversCutoff cfg) :=
  inferInstanceAs (Decidable (_ ∨ _))

theorem not_revives_of_ttlCoversCutoff {cfg : CycleWindowConfig} (h : TtlCoversCutoff cfg)
    (cycleStartNs earlier later : Int64) : ¬Revives cfg cycleStartNs earlier later := by
  rintro ⟨hwithin, ⟨httl, hexpired⟩, ⟨hcutoff, -⟩, -⟩
  obtain hzero | hzero | hcovers := h
  · rw [hzero] at httl
    exact lt_irrefl _ httl
  · rw [hzero] at hcutoff
    exact lt_irrefl _ hcutoff
  · have hle := Int64.le_iff_toInt_le.mp hcovers
    exact hwithin ⟨hcutoff, by omega⟩

/-- The cycle that starts just before time zero shows it, since the cutoff
itself is a time after that start. -/
theorem revives_of_not_ttlCoversCutoff {cfg : CycleWindowConfig} (hvalid : ValidWindow cfg)
    (h : ¬TtlCoversCutoff cfg) :
    ∃ earlier later : Int64, earlier ≤ later ∧ Revives cfg (-1) earlier later := by
  simp only [TtlCoversCutoff, not_or, Int64.not_le, ← Int64.toInt_inj, Int64.lt_iff_toInt_lt] at h
  obtain ⟨httl, hcutoff, hends⟩ := h
  have httlNonneg := hvalid.ttlNs
  have hlate := hvalid.lateRecordWindow
  have hzero : (0 : Int64).toInt = 0 := rfl
  have hone : (1 : Int64).toInt = 1 := rfl
  have hstart : (-1 : Int64).toInt = -1 := rfl
  have hlimit := cfg.receiveCutoffOffsetNs.toInt_lt
  have hearlier : (cfg.receiveCutoffOffsetNs - 1).toInt = cfg.receiveCutoffOffsetNs.toInt - 1 :=
    MachineInt.toInt_sub_of_fits (by omega) (by omega)
  refine ⟨cfg.receiveCutoffOffsetNs - 1, cfg.receiveCutoffOffsetNs, ?_, ?_, ⟨?_, ?_⟩, ⟨?_, ?_⟩, ?_⟩
  · rw [Int64.le_iff_toInt_le]
    omega
  · rintro ⟨-, hpast⟩
    omega
  · omega
  · omega
  · omega
  · omega
  · rw [Recorded]
    omega

/-- For every window that is valid: one sample received later fares no better
than received earlier unless it is revived, and a window revives no sample in
any cycle if and only if its time to live covers its cutoff. -/
theorem neverImproves_iff (cfg : CycleWindowConfig) (hvalid : valid cfg = .ok ())
    (sample : SampleTiming) (hchecks : PassesChecks sample) (currentCycle : UInt64)
    (hcycle : sample.targetCycle = currentCycle) :
    let lateness (cycleStartNs localReceiveNs : Int64) : ℕ :=
      (classify ℤ cfg currentCycle cycleStartNs
        { sample with localReceiveNs := localReceiveNs }).lateness
    (∀ cycleStartNs earlier later, earlier ≤ later →
      (lateness cycleStartNs earlier ≤ lateness cycleStartNs later ↔
        ¬Revives cfg cycleStartNs earlier later)) ∧
    ((∀ cycleStartNs earlier later, earlier ≤ later →
      lateness cycleStartNs earlier ≤ lateness cycleStartNs later) ↔ TtlCoversCutoff cfg) := by
  subst hcycle
  simp only [classify_of_passesChecks hchecks]
  refine ⟨fun cycleStartNs earlier later hle ↦ lateness_le_iff hle, fun hall ↦ ?_,
    fun hcovers cycleStartNs earlier later hle ↦ ?_⟩
  · by_contra hnot
    obtain ⟨earlier, later, hle, hrevives⟩ := revives_of_not_ttlCoversCutoff (valid_ok hvalid) hnot
    exact (lateness_le_iff hle).mp (hall (-1) earlier later hle) hrevives
  · exact (lateness_le_iff hle).mpr
      (not_revives_of_ttlCoversCutoff hcovers cycleStartNs earlier later)

/-- Half a cycle to arrive in, and a quarter to live. -/
def shortLived : CycleWindowConfig :=
  { periodNs := 100, receiveCutoffOffsetNs := 50, lateRecordWindowNs := 30, ttlNs := 25 }

theorem shortLived_improves_iff :
    (∀ cycleStartNs earlier later : Int64, earlier ≤ later →
      ((classify ℤ shortLived 7 cycleStartNs
            { targetCycle := 7, localReceiveNs := earlier }).lateness ≤
          (classify ℤ shortLived 7 cycleStartNs
            { targetCycle := 7, localReceiveNs := later }).lateness ↔
        ¬Revives shortLived cycleStartNs earlier later)) ∧
      ¬TtlCoversCutoff shortLived :=
  ⟨(neverImproves_iff shortLived rfl { targetCycle := 7 } ⟨rfl, rfl, rfl, rfl, rfl⟩ 7 rfl).1,
    by decide⟩

theorem shortLived_revives :
    valid shortLived = .ok () ∧
      (classify ℤ shortLived 7 1000 { targetCycle := 7, localReceiveNs := 1040 }).reason =
        text "sample ttl expired" ∧
      (classify ℤ shortLived 7 1000 { targetCycle := 7, localReceiveNs := 1060 }).reason =
        text "arrived after receive cutoff" ∧
      ¬((classify ℤ shortLived 7 1000 { targetCycle := 7, localReceiveNs := 1040 }).lateness ≤
        (classify ℤ shortLived 7 1000 { targetCycle := 7, localReceiveNs := 1060 }).lateness) := by
  decide +kernel

end CycleWindow

end RuntimeSync.Weaknet
