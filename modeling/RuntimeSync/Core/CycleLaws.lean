import RuntimeSync.Core.CycleScheduler
import RuntimeSync.Library.Machine
import RuntimeSync.Library.MachineInt
import RuntimeSync.Library.PeriodGrid

/-!
# Laws of the cycle scheduler

A configuration is a grid of cells over the integers.  As long as nothing
wraps, the scheduler reports the cell of the time it is given, so what it
emits depends on its history only in whether it emits at all.
-/

namespace RuntimeSync

open CycleScheduler

/-! ## Configurations -/

/-- What `configure` accepts. -/
structure CycleSchedulerConfig.Valid (config : CycleSchedulerConfig) : Prop where
  periodNs : isValidPeriodNs config.periodNs = true
  sessionId : config.sessionId ≠ []
  taskId : config.taskId ≠ []
  maxCycle : 0 < config.maxCycle → config.startCycle ≤ config.maxCycle

theorem isValidPeriodNs_pos {periodNs : Int64} (h : isValidPeriodNs periodNs = true) :
    0 < periodNs.toInt := by
  simp only [isValidPeriodNs, Bool.and_eq_true, decide_eq_true_eq] at h
  have hmin : kMinPeriodNs.toInt ≤ periodNs.toInt := Int64.le_iff_toInt_le.mp h.1
  exact lt_of_lt_of_le (by decide) hmin

namespace CycleSchedulerConfig

theorem Valid.period_pos {config : CycleSchedulerConfig} (h : config.Valid) :
    0 < config.periodNs.toInt := isValidPeriodNs_pos h.periodNs

/-- The cells are the cycles, counted from the start cycle. -/
def grid (config : CycleSchedulerConfig) (h : config.Valid) : PeriodGrid ℤ :=
  ⟨config.epochNs.toInt, config.periodNs.toInt, h.period_pos⟩

/-- At this time neither the elapsed time nor the cycle number wraps. -/
structure Fits (config : CycleSchedulerConfig) (nowNs : Int64) : Prop where
  elapsed : nowNs.toInt - config.epochNs.toInt < 2 ^ 63
  cycle : config.startCycle.toNat +
    (nowNs.toInt - config.epochNs.toInt) / config.periodNs.toInt < 2 ^ 64

instance (config : CycleSchedulerConfig) (nowNs : Int64) : Decidable (config.Fits nowNs) :=
  decidable_of_iff (_ ∧ _) ⟨fun h ↦ ⟨h.1, h.2⟩, fun h ↦ ⟨h.1, h.2⟩⟩

end CycleSchedulerConfig

namespace CycleScheduler

theorem configure_of_valid {config : CycleSchedulerConfig} (h : config.Valid)
    (s : CycleScheduler) : s.configure config = ({ config := config }, true) := by
  have hmax : ¬(0 < config.maxCycle ∧ config.maxCycle < config.startCycle) := fun hm ↦
    absurd (h.maxCycle hm.1) (UInt64.not_le.mpr hm.2)
  simp [configure, h.periodNs, h.sessionId, h.taskId, hmax]

theorem configure_of_not_valid {config : CycleSchedulerConfig} (h : ¬config.Valid)
    (s : CycleScheduler) : s.configure config = (s, false) := by
  unfold configure
  split_ifs with hperiod hnames hmax
  · rfl
  · rfl
  · rfl
  · rw [not_or] at hnames
    refine absurd ⟨by simpa using hperiod, hnames.1, hnames.2, fun hpos ↦ ?_⟩ h
    exact UInt64.not_lt.mp fun hlt ↦ hmax ⟨hpos, hlt⟩

theorem configure_ok {s s' : CycleScheduler} {config : CycleSchedulerConfig}
    (h : s.configure config = (s', true)) : config.Valid ∧ s' = { config := config } := by
  by_cases hvalid : config.Valid
  · rw [configure_of_valid hvalid] at h
    exact ⟨hvalid, (Prod.mk.inj h).1.symm⟩
  · rw [configure_of_not_valid hvalid] at h
    simp at h

/-! ## One tick -/

theorem tick_of_idle {s : CycleScheduler} {nowNs : Int64} {clockOk : Bool}
    (h : s.running = false ∨ nowNs < s.config.epochNs) : s.tick nowNs clockOk = (s, none) := by
  rcases h with h | h <;> simp [tick, h]

/-- From the epoch on, a running scheduler decides by the cycle number alone. -/
theorem tick_of_due {s : CycleScheduler} (hvalid : s.config.Valid) (hrunning : s.running = true)
    {nowNs : Int64} (hepoch : s.config.epochNs ≤ nowNs) (clockOk : Bool) {cycleId : UInt64}
    (hid : computeCycleId s.config nowNs = cycleId) :
    (0 < s.config.maxCycle ∧ s.config.maxCycle < cycleId →
      s.tick nowNs clockOk = ({ s with running := false }, none)) ∧
    (¬(0 < s.config.maxCycle ∧ s.config.maxCycle < cycleId) →
      s.hasEmitted = true ∧ cycleId ≤ s.lastEmittedCycle → s.tick nowNs clockOk = (s, none)) ∧
    (¬(0 < s.config.maxCycle ∧ s.config.maxCycle < cycleId) →
      ¬(s.hasEmitted = true ∧ cycleId ≤ s.lastEmittedCycle) →
      ∃ event, event.cycleId = cycleId ∧ s.tick nowNs clockOk =
        ({ s with hasEmitted := true, lastEmittedCycle := cycleId }, some event)) := by
  subst hid
  have hperiod : ¬s.config.periodNs ≤ 0 :=
    Int64.not_le.mpr (Int64.lt_iff_toInt_lt.mpr hvalid.period_pos)
  have hidle : ¬((!s.running) = true ∨ s.config.periodNs ≤ 0 ∨ nowNs < s.config.epochNs) := by
    simp [hrunning, hperiod, Int64.not_lt.mpr hepoch]
  refine ⟨fun hpast ↦ ?_, fun hpast hrepeat ↦ ?_, fun hpast hrepeat ↦ ?_⟩
  · rw [tick, if_neg hidle, if_pos hpast]
  · rw [tick, if_neg hidle, if_neg hpast, if_pos hrepeat]
  · rw [tick, if_neg hidle, if_neg hpast, if_neg hrepeat]
    exact ⟨_, rfl, rfl⟩

section Running

variable {s : CycleScheduler} {nowNs : Int64} {clockOk : Bool}

/-- An event, and all that its tick has checked and changed. -/
theorem tick_some {s' : CycleScheduler} {event : CycleEvent}
    (h : s.tick nowNs clockOk = (s', some event)) :
    s.running = true ∧ s.config.epochNs ≤ nowNs ∧
      (0 < s.config.maxCycle → event.cycleId ≤ s.config.maxCycle) ∧
      (s.hasEmitted = true → s.lastEmittedCycle < event.cycleId) ∧
      event.cycleId = computeCycleId s.config nowNs ∧
      event.expectedTimeNs = expectedTimeNs s.config event.cycleId ∧
      event.actualTimeNs = nowNs ∧ event.jitterNs = nowNs - event.expectedTimeNs ∧
      s' = { s with hasEmitted := true, lastEmittedCycle := event.cycleId } := by
  dsimp only [tick] at h
  split_ifs at h with hidle hpast hrepeat
  · simp at h
  · simp at h
  · simp at h
  · simp only [Prod.mk.injEq, Option.some.injEq] at h
    obtain ⟨rfl, rfl⟩ := h
    simp only [not_or, Bool.not_eq_true', Bool.not_eq_false] at hidle
    refine ⟨hidle.1, Int64.not_lt.mp hidle.2.2, fun hmax ↦ ?_, fun hemitted ↦ ?_, rfl, rfl, rfl,
      rfl, rfl⟩
    · exact UInt64.not_lt.mp fun hlt ↦ hpast ⟨hmax, hlt⟩
    · exact UInt64.not_le.mp fun hle ↦ hrepeat ⟨hemitted, hle⟩

/-- An event is labelled with the configuration of the scheduler. -/
theorem tick_labels {s' : CycleScheduler} {event : CycleEvent}
    (h : s.tick nowNs clockOk = (s', some event)) :
    event.sessionId = s.config.sessionId ∧ event.taskId = s.config.taskId ∧
      event.periodNs = s.config.periodNs := by
  dsimp only [tick] at h
  split_ifs at h
  · simp at h
  · simp at h
  · simp at h
  · obtain rfl := Option.some.inj (Prod.mk.inj h).2
    exact ⟨rfl, rfl, rfl⟩

theorem tick_none {s' : CycleScheduler} (h : s.tick nowNs clockOk = (s', none)) :
    s' = s ∨ s' = { s with running := false } := by
  dsimp only [tick] at h
  split_ifs at h
  · exact .inl (Prod.mk.inj h).1.symm
  · exact .inr (Prod.mk.inj h).1.symm
  · exact .inl (Prod.mk.inj h).1.symm
  · simp at h

theorem tick_config : (s.tick nowNs clockOk).1.config = s.config := by
  dsimp only [tick]
  split_ifs <;> rfl

/-- No tick starts a scheduler. -/
theorem running_of_tick (h : (s.tick nowNs clockOk).1.running = true) : s.running = true := by
  cases htick : s.tick nowNs clockOk with
  | mk s' output =>
      cases output with
      | none =>
          rw [htick] at h
          rcases tick_none htick with rfl | rfl
          · exact h
          · simp at h
      | some event => exact (tick_some htick).1

end Running

theorem step_config (s : CycleScheduler) (call : SchedulerCall) :
    (s.step call).1.config = s.config := by
  cases call with
  | start =>
      simp only [step, start]
      split_ifs <;> rfl
  | stop => rfl
  | tick nowNs clockOk => exact tick_config

/-! ## Cycle numbers and times -/

theorem computeCycleId_toNat {config : CycleSchedulerConfig} (hvalid : config.Valid)
    {nowNs : Int64} (hfits : config.Fits nowNs) (hepoch : config.epochNs ≤ nowNs) :
    ((computeCycleId config nowNs).toNat : ℤ) =
      config.startCycle.toNat + (config.grid hvalid).cell nowNs.toInt := by
  have hpos := hvalid.period_pos
  have hge := Int64.le_iff_toInt_le.mp hepoch
  have hdue : ¬(nowNs < config.epochNs ∨ config.periodNs ≤ 0) := by
    rw [not_or]
    exact ⟨Int64.not_lt.mpr hepoch, Int64.not_le.mpr (Int64.lt_iff_toInt_lt.mpr hpos)⟩
  have hsub : (nowNs - config.epochNs).toInt = nowNs.toInt - config.epochNs.toInt :=
    MachineInt.toInt_sub_of_fits (by omega) hfits.elapsed
  have helapsed : ((nowNs - config.epochNs).toUInt64.toNat : ℤ) =
      nowNs.toInt - config.epochNs.toInt := by
    rw [MachineInt.toNat_toUInt64 (by omega), hsub]
  have hperiod : (config.periodNs.toUInt64.toNat : ℤ) = config.periodNs.toInt :=
    MachineInt.toNat_toUInt64 hpos.le
  have hquot : (((nowNs - config.epochNs).toUInt64 / config.periodNs.toUInt64).toNat : ℤ) =
      (nowNs.toInt - config.epochNs.toInt) / config.periodNs.toInt := by
    rw [UInt64.toNat_div, Int.natCast_div, helapsed, hperiod]
  have hcycle := hfits.cycle
  rw [computeCycleId, if_neg hdue, MachineInt.toNat_add_of_fits (by omega), PeriodGrid.cell_int]
  push_cast
  rw [hquot]
  rfl

/-- The expected time of a cycle is the start of its cell, provided that
this is not later than some time the clock can show. -/
theorem expectedTimeNs_toInt {config : CycleSchedulerConfig} (hvalid : config.Valid)
    {cycleId : UInt64} {n : ℤ} (hn : 0 ≤ n)
    (hcycle : (cycleId.toNat : ℤ) = config.startCycle.toNat + n) {nowNs : Int64}
    (helapsed : nowNs.toInt - config.epochNs.toInt < 2 ^ 63)
    (hstart : (config.grid hvalid).start n ≤ nowNs.toInt) :
    (expectedTimeNs config cycleId).toInt = (config.grid hvalid).start n := by
  have hpos := hvalid.period_pos
  have hgrid : (config.grid hvalid).start n =
      config.epochNs.toInt + n * config.periodNs.toInt := rfl
  have hperiod : (config.periodNs.toUInt64.toNat : ℤ) = config.periodNs.toInt :=
    MachineInt.toNat_toUInt64 hpos.le
  rw [hgrid] at hstart ⊢
  dsimp only [expectedTimeNs]
  by_cases hle : cycleId ≤ config.startCycle
  · have hzero : n = 0 := by
      have := UInt64.le_iff_toNat_le.mp hle
      omega
    simp [hle, hzero]
  have hoffset : ((cycleId - config.startCycle).toNat : ℤ) = n := by
    rw [UInt64.toNat_sub_of_le _ _ (UInt64.le_of_lt (UInt64.not_le.mp hle))]
    omega
  have hproduct : ((cycleId - config.startCycle).toNat * config.periodNs.toUInt64.toNat : ℤ) =
      n * config.periodNs.toInt := by rw [hoffset, hperiod]
  have hbound : (cycleId - config.startCycle).toNat * config.periodNs.toUInt64.toNat < 2 ^ 63 := by
    zify
    omega
  have hlarge : ¬Int64.maxValue.toUInt64 / config.periodNs.toUInt64 <
      cycleId - config.startCycle := by
    rw [UInt64.not_lt, UInt64.le_iff_toNat_le, UInt64.toNat_div,
      Nat.le_div_iff_mul_le (by omega)]
    exact Nat.le_of_lt_succ hbound
  have hmul : ((cycleId - config.startCycle) * config.periodNs.toUInt64).toInt64.toInt =
      n * config.periodNs.toInt := by
    have hfit := MachineInt.toNat_mul_of_fits (hbound.trans (by decide))
    rw [MachineInt.toInt_toInt64 (by rw [hfit]; exact hbound), hfit]
    exact_mod_cast hproduct
  have hnonneg : 0 ≤ n * config.periodNs.toInt := mul_nonneg hn hpos.le
  rw [if_neg hle, if_neg hlarge, MachineInt.toInt_add_of_fits, hmul]
  · have := config.epochNs.le_toInt
    omega
  · have := nowNs.toInt_lt
    omega

/-- What an event says about the time of its tick. -/
theorem tick_on_grid {s s' : CycleScheduler} {config : CycleSchedulerConfig}
    (hconfig : s.config = config) (hvalid : config.Valid) {nowNs : Int64} {clockOk : Bool}
    {event : CycleEvent} (hfits : config.Fits nowNs)
    (h : s.tick nowNs clockOk = (s', some event)) :
    config.epochNs ≤ nowNs ∧
      (event.cycleId.toNat : ℤ) =
        config.startCycle.toNat + (config.grid hvalid).cell nowNs.toInt ∧
      event.expectedTimeNs.toInt =
        (config.grid hvalid).start ((config.grid hvalid).cell nowNs.toInt) := by
  subst hconfig
  obtain ⟨-, hepoch, -, -, hid, hexpected, -, -, -⟩ := tick_some h
  have hcycle := computeCycleId_toNat hvalid hfits hepoch
  rw [← hid] at hcycle
  have hcell : 0 ≤ (s.config.grid hvalid).cell nowNs.toInt :=
    (s.config.grid hvalid).cell_nonneg (Int64.le_iff_toInt_le.mp hepoch)
  refine ⟨hepoch, hcycle, ?_⟩
  rw [hexpected]
  exact expectedTimeNs_toInt hvalid hcell hcycle hfits.elapsed
    ((s.config.grid hvalid).start_cell_le _)

/-! ## Runs -/

def CallFits (config : CycleSchedulerConfig) : SchedulerCall → Prop
  | .start => True
  | .stop => True
  | .tick nowNs _ => config.Fits nowNs

instance (config : CycleSchedulerConfig) : DecidablePred (CallFits config)
  | .start => isTrue trivial
  | .stop => isTrue trivial
  | .tick nowNs _ => inferInstanceAs (Decidable (config.Fits nowNs))

/-- Every tick of the history is at a time at which nothing wraps. -/
def NoWrap (config : CycleSchedulerConfig) (calls : List SchedulerCall) : Prop :=
  ∀ call ∈ calls, CallFits config call

instance (config : CycleSchedulerConfig) (calls : List SchedulerCall) :
    Decidable (NoWrap config calls) := inferInstanceAs (Decidable (∀ call ∈ calls, _))

theorem trace_config {s : CycleScheduler} {calls : List SchedulerCall}
    {e : Machine.Entry CycleScheduler SchedulerCall (Option CycleEvent)}
    (he : e ∈ Machine.trace step s calls) : e.state.config = s.config :=
  (Machine.invariant_trace (I := fun s' ↦ s'.config = s.config) (G := fun _ _ ↦ True)
    (fun s' call h _ ↦ (step_config s' call).trans h) rfl fun _ _ ↦ trivial).1 e he

/-- An event in the record of a run comes from a tick. -/
theorem event_of_trace {s : CycleScheduler} {calls : List SchedulerCall}
    {e : Machine.Entry CycleScheduler SchedulerCall (Option CycleEvent)}
    (he : e ∈ Machine.trace step s calls) {event : CycleEvent} (hevent : e.output = some event) :
    ∃ nowNs clockOk s', e.input = .tick nowNs clockOk ∧ .tick nowNs clockOk ∈ calls ∧
      e.state.tick nowNs clockOk = (s', some event) := by
  obtain ⟨state, input, output⟩ := e
  have hmem := Machine.trace_input_mem step he
  obtain ⟨-, -, -, -, hout⟩ := Machine.mem_trace step he
  cases input with
  | start => simp_all [step]
  | stop => simp_all [step]
  | tick nowNs clockOk =>
      refine ⟨nowNs, clockOk, (state.tick nowNs clockOk).1, rfl, hmem, ?_⟩
      exact Prod.ext rfl (hout.symm.trans hevent)

/-- Cycle numbers only grow, whatever the clock does. -/
theorem emitted_increasing (s : CycleScheduler) (calls : List SchedulerCall) :
    (Machine.emitted id step s calls).Pairwise fun first later ↦
      first.cycleId < later.cycleId := by
  refine (Machine.emitted_pairwise (I := fun _ ↦ True) (G := fun _ _ ↦ True)
    (fun s event ↦ s.hasEmitted = true → s.lastEmittedCycle < event.cycleId)
    (fun _ _ _ _ ↦ trivial) ?_ ?_ trivial fun _ _ ↦ trivial).1
  · intro s call event _ _ habove hemitted
    cases call with
    | start =>
        simp only [step, start] at habove
        split_ifs at habove <;> exact habove hemitted
    | stop => exact habove hemitted
    | tick nowNs clockOk =>
        cases htick : s.tick nowNs clockOk with
        | mk s' output =>
            cases output with
            | none =>
                rw [step, htick] at habove
                rcases tick_none htick with rfl | rfl <;> exact habove hemitted
            | some emittedEvent =>
                obtain ⟨-, -, -, hlast, -, -, -, -, rfl⟩ := tick_some htick
                rw [step, htick] at habove
                exact UInt64.lt_trans (hlast hemitted) (habove rfl)
  · intro s call event _ _ hout
    cases call with
    | start => simp [step] at hout
    | stop => simp [step] at hout
    | tick nowNs clockOk =>
        have htick : s.tick nowNs clockOk = ((s.tick nowNs clockOk).1, some event) :=
          Prod.ext rfl hout
        obtain ⟨-, -, -, hlast, -, -, -, -, hs'⟩ := tick_some htick
        refine ⟨hlast, fun later habove ↦ ?_⟩
        rw [step, hs'] at habove
        exact habove rfl

theorem emission_law {s₀ s : CycleScheduler} {config : CycleSchedulerConfig}
    (hconfigure : s₀.configure config = (s, true)) (calls : List SchedulerCall)
    (hwrap : NoWrap config calls) :
    ((Machine.emitted id step s calls).Pairwise fun first later ↦
        first.cycleId < later.cycleId) ∧
      ∀ e ∈ Machine.trace step s calls, ∀ event, e.output = some event →
        ∃ nowNs clockOk, e.input = .tick nowNs clockOk ∧
          config.startCycle ≤ event.cycleId ∧
          (0 < config.maxCycle → event.cycleId ≤ config.maxCycle) ∧
          event.expectedTimeNs.toInt = config.epochNs.toInt +
            (event.cycleId.toNat - config.startCycle.toNat) * config.periodNs.toInt ∧
          event.jitterNs.toInt = nowNs.toInt - event.expectedTimeNs.toInt ∧
          0 ≤ event.jitterNs.toInt ∧ event.jitterNs.toInt < config.periodNs.toInt := by
  refine ⟨emitted_increasing s calls, ?_⟩
  intro e he event hevent
  obtain ⟨hvalid, rfl⟩ := configure_ok hconfigure
  obtain ⟨nowNs, clockOk, s', hinput, hmem, htick⟩ := event_of_trace he hevent
  have hconfig : e.state.config = config := trace_config he
  have hfits : config.Fits nowNs := hwrap _ hmem
  obtain ⟨-, -, hmax, -, -, -, -, hjitter, -⟩ := tick_some htick
  rw [hconfig] at hmax
  obtain ⟨hepoch, hcycle, hexpected⟩ := tick_on_grid hconfig hvalid hfits htick
  have hcell : 0 ≤ (config.grid hvalid).cell nowNs.toInt :=
    (config.grid hvalid).cell_nonneg (Int64.le_iff_toInt_le.mp hepoch)
  have hlow := (config.grid hvalid).start_cell_le nowNs.toInt
  have hhigh := (config.grid hvalid).lt_start_cell_succ nowNs.toInt
  rw [PeriodGrid.start_add, one_zsmul] at hhigh
  rw [← hexpected] at hlow hhigh
  have hperiod : (config.grid hvalid).period = config.periodNs.toInt := rfl
  have hsub : event.jitterNs.toInt = nowNs.toInt - event.expectedTimeNs.toInt := by
    have hlarge := config.periodNs.toInt_lt
    rw [hjitter]
    exact MachineInt.toInt_sub_of_fits (by omega) (by omega)
  refine ⟨nowNs, clockOk, hinput, ?_, hmax, ?_, hsub, by omega, by omega⟩
  · rw [UInt64.le_iff_toNat_le]
    omega
  · rw [hexpected, hcycle, add_sub_cancel_left]
    rfl

def formation : CycleSchedulerConfig where
  sessionId := text "session-a"
  taskId := text "formation"
  epochNs := 1000000000
  periodNs := 50000000

theorem configure_formation :
    ({} : CycleScheduler).configure formation = ({ config := formation }, true) := by
  decide +kernel

/-- Cycles are missed, the clock jumps back, and the scheduler is stopped. -/
theorem formation_emits_zero_and_three :
    ((Machine.emitted id step { config := formation }
      [.start, .tick 999999999 true, .tick 1000000000 true, .tick 1150005000 true,
        .tick 1050000000 true, .stop, .tick 1200000000 true]).map (·.cycleId)) = [0, 3] ∧
      (Machine.emitted id step { config := formation }
        [.start, .tick 999999999 true, .tick 1000000000 true, .tick 1150005000 true,
          .tick 1050000000 true, .stop, .tick 1200000000 true]).Pairwise
        fun first later ↦ first.cycleId < later.cycleId := by
  refine ⟨by decide +kernel, ?_⟩
  exact (emission_law configure_formation _ (by decide +kernel)).1

/-! ## Polling -/

def Within (config : CycleSchedulerConfig) (cycle : ℕ) : Prop :=
  config.maxCycle = 0 ∨ cycle ≤ config.maxCycle.toNat

instance (config : CycleSchedulerConfig) (cycle : ℕ) : Decidable (Within config cycle) :=
  inferInstanceAs (Decidable (_ ∨ _))

theorem past_iff (config : CycleSchedulerConfig) (cycleId : UInt64) :
    0 < config.maxCycle ∧ config.maxCycle < cycleId ↔ ¬Within config cycleId.toNat := by
  rw [Within, not_or, UInt64.pos_iff_ne_zero, UInt64.lt_iff_toNat_lt, not_le]

/-- The first `k` cycles have been dealt with: each is emitted, or lies past
the maximum, and in the second case the scheduler has stopped. -/
structure Upto (config : CycleSchedulerConfig) (k : ℕ) (s : CycleScheduler) : Prop where
  config_eq : s.config = config
  stopped : ¬(config.maxCycle = 0 ∨ config.startCycle.toNat + k ≤ config.maxCycle.toNat + 1) →
    s.running = false
  running : config.maxCycle = 0 ∨ config.startCycle.toNat + k ≤ config.maxCycle.toNat + 1 →
    s.running = true ∧ (s.hasEmitted = true ↔ 0 < k) ∧
      (0 < k → s.lastEmittedCycle.toNat + 1 = config.startCycle.toNat + k)

theorem upto_start {config : CycleSchedulerConfig} (hvalid : config.Valid) :
    Upto config 0 (start { config := config }) := by
  have hpos : 0 < config.periodNs := Int64.lt_iff_toInt_lt.mpr hvalid.period_pos
  refine ⟨by simp [start, hpos], fun hpast ↦ absurd ?_ hpast, fun _ ↦ by simp [start, hpos]⟩
  by_cases hmax : config.maxCycle = 0
  · exact .inl hmax
  · have hle := UInt64.le_iff_toNat_le.mp (hvalid.maxCycle (UInt64.pos_iff_ne_zero.mpr hmax))
    exact .inr (by omega)

/-- Once the scheduler has stopped for good, no later cycle is within the maximum. -/
theorem Upto.of_stopped {config : CycleSchedulerConfig} {k b : ℕ} {s : CycleScheduler}
    (hs : Upto config k s) (hkb : k ≤ b)
    (hopen : ¬(config.maxCycle = 0 ∨ config.startCycle.toNat + k ≤ config.maxCycle.toNat + 1)) :
    Upto config b s ∧ ¬Within config (config.startCycle.toNat + k) := by
  refine ⟨⟨hs.config_eq, fun _ ↦ hs.stopped hopen, fun h ↦ absurd ?_ hopen⟩, fun h ↦ hopen ?_⟩
  · exact h.imp_right fun hle ↦ by omega
  · exact h.imp_right fun hle ↦ by omega

/-- A tick in the first cycle that has not been dealt with. -/
theorem upto_tick_new {k : ℕ} {s : CycleScheduler} (hvalid : s.config.Valid)
    (hs : Upto s.config k s)
    (hopen : s.config.maxCycle = 0 ∨ s.config.startCycle.toNat + k ≤ s.config.maxCycle.toNat + 1)
    {nowNs : Int64} (hepoch : s.config.epochNs ≤ nowNs)
    (hid : (computeCycleId s.config nowNs).toNat = s.config.startCycle.toNat + k)
    (clockOk : Bool) :
    Upto s.config (k + 1) (s.tick nowNs clockOk).1 ∧
      (s.tick nowNs clockOk).2.map (·.cycleId.toNat) =
        if Within s.config (s.config.startCycle.toNat + k) then
          some (s.config.startCycle.toNat + k)
        else none := by
  obtain ⟨hrunning, hemitted, hlast⟩ := hs.running hopen
  obtain ⟨hpastTick, -, hfreshTick⟩ := tick_of_due hvalid hrunning hepoch clockOk rfl
  rw [past_iff, hid] at hpastTick hfreshTick
  by_cases hwithin : Within s.config (s.config.startCycle.toNat + k)
  · have hnew : ¬(s.hasEmitted = true ∧ computeCycleId s.config nowNs ≤ s.lastEmittedCycle) := by
      rintro ⟨hsome, hle⟩
      have := UInt64.le_iff_toNat_le.mp hle
      have := hlast (hemitted.mp hsome)
      omega
    obtain ⟨event, hevent, htick⟩ := hfreshTick (not_not.mpr hwithin) hnew
    rw [htick]
    refine ⟨⟨rfl, fun hpast ↦ absurd ?_ hpast, fun _ ↦ ⟨hrunning, by simp, fun _ ↦ ?_⟩⟩, ?_⟩
    · exact hwithin.imp_right fun hle ↦ by omega
    · change (computeCycleId s.config nowNs).toNat + 1 = _
      omega
    · simp [hwithin, hevent, hid]
  · rw [hpastTick hwithin]
    refine ⟨⟨rfl, fun _ ↦ rfl, fun h ↦ absurd ?_ hwithin⟩, by simp [hwithin]⟩
    exact h.imp_right fun hle ↦ by omega

/-- A tick in the last cycle that was emitted does nothing. -/
theorem upto_tick_again {k : ℕ} {s : CycleScheduler} (hvalid : s.config.Valid)
    (hs : Upto s.config k s)
    (hopen : s.config.maxCycle = 0 ∨ s.config.startCycle.toNat + k ≤ s.config.maxCycle.toNat + 1)
    {nowNs : Int64} (hepoch : s.config.epochNs ≤ nowNs) (hpos : 0 < k)
    (hid : (computeCycleId s.config nowNs).toNat + 1 = s.config.startCycle.toNat + k)
    (clockOk : Bool) : s.tick nowNs clockOk = (s, none) := by
  obtain ⟨hrunning, hemitted, hlast⟩ := hs.running hopen
  have hlast := hlast hpos
  obtain ⟨-, hrepeatTick, -⟩ := tick_of_due hvalid hrunning hepoch clockOk rfl
  rw [past_iff, UInt64.le_iff_toNat_le] at hrepeatTick
  have hwithin : Within s.config (computeCycleId s.config nowNs).toNat :=
    hopen.imp_right fun hle ↦ by omega
  exact hrepeatTick (not_not.mpr hwithin) ⟨hemitted.mpr hpos, by omega⟩

theorem upto_tick {config : CycleSchedulerConfig} (hvalid : config.Valid) {k : ℕ}
    {s : CycleScheduler} (hs : Upto config k s) {nowNs : Int64} (hfits : config.Fits nowNs)
    (hk : (config.grid hvalid).begun nowNs.toInt = k ∨
      (config.grid hvalid).begun nowNs.toInt = k + 1) (clockOk : Bool) :
    Upto config ((config.grid hvalid).begun nowNs.toInt) (s.tick nowNs clockOk).1 ∧
      (s.tick nowNs clockOk).2.map (·.cycleId.toNat) =
        if (config.grid hvalid).begun nowNs.toInt = k + 1 ∧
            Within config (config.startCycle.toNat + k) then
          some (config.startCycle.toNat + k)
        else none := by
  obtain rfl := hs.config_eq
  by_cases hepoch : nowNs < s.config.epochNs
  · have hzero : (s.config.grid hvalid).begun nowNs.toInt = 0 :=
      (s.config.grid hvalid).begun_of_lt (Int64.lt_iff_toInt_lt.mp hepoch)
    obtain rfl : k = 0 := by omega
    rw [hzero, tick_of_idle (.inr hepoch)]
    exact ⟨hs, by simp⟩
  rw [Int64.not_lt] at hepoch
  have hbegun := (s.config.grid hvalid).begun_of_le (Int64.le_iff_toInt_le.mp hepoch)
  have hcycle := computeCycleId_toNat hvalid hfits hepoch
  have hcell : 0 ≤ (s.config.grid hvalid).cell nowNs.toInt :=
    (s.config.grid hvalid).cell_nonneg (Int64.le_iff_toInt_le.mp hepoch)
  generalize (s.config.grid hvalid).begun nowNs.toInt = b at *
  by_cases hopen : s.config.maxCycle = 0 ∨
      s.config.startCycle.toNat + k ≤ s.config.maxCycle.toNat + 1
  · rcases hk with rfl | rfl
    · rw [upto_tick_again hvalid hs hopen hepoch (by omega) (by omega)]
      exact ⟨hs, by simp⟩
    · obtain ⟨hnext, hout⟩ := upto_tick_new hvalid hs hopen hepoch (by omega) clockOk
      exact ⟨hnext, by simpa using hout⟩
  · obtain ⟨hnext, hpast⟩ := hs.of_stopped (by omega : k ≤ b) hopen
    rw [tick_of_idle (.inl (hs.stopped hopen)), if_neg fun h ↦ hpast h.2]
    exact ⟨hnext, rfl⟩

/-- Times at which the scheduler is polled, each with the clock flag of its tick. -/
def polls (ticks : List (Int64 × Bool)) : List SchedulerCall :=
  ticks.map fun t ↦ .tick t.1 t.2

theorem le_getLastD_of_isChain {k : ℕ} {counts : List ℕ}
    (h : (k :: counts).IsChain fun a b ↦ b = a ∨ b = a + 1) : k ≤ counts.getLastD k := by
  induction counts generalizing k with
  | nil => simp
  | cons b counts ih =>
      obtain ⟨hb, hrest⟩ := List.isChain_cons_cons.mp h
      rw [List.getLastD_cons]
      have := ih hrest
      omega

/-- How many cycles have begun at each of the polled times. -/
noncomputable def begunCounts {config : CycleSchedulerConfig} (hvalid : config.Valid)
    (ticks : List (Int64 × Bool)) : List ℕ :=
  ticks.map fun t ↦ (config.grid hvalid).begun t.1.toInt

theorem emitted_polls {config : CycleSchedulerConfig} (hvalid : config.Valid)
    {ticks : List (Int64 × Bool)} (hfits : ∀ t ∈ ticks, config.Fits t.1) {k : ℕ}
    {s : CycleScheduler} (hs : Upto config k s)
    (hchain : (k :: begunCounts hvalid ticks).IsChain fun a b ↦ b = a ∨ b = a + 1) :
    (Machine.emitted id step s (polls ticks)).map (·.cycleId.toNat) =
      (List.range' (config.startCycle.toNat + k)
        ((begunCounts hvalid ticks).getLastD k - k)).filter fun c ↦ Within config c := by
  induction ticks generalizing k s with
  | nil => simp [polls, begunCounts]
  | cons t ticks ih =>
      have hcons : begunCounts hvalid (t :: ticks) =
          (config.grid hvalid).begun t.1.toInt :: begunCounts hvalid ticks := rfl
      rw [hcons] at hchain ⊢
      obtain ⟨hk, hrest⟩ := List.isChain_cons_cons.mp hchain
      obtain ⟨hnext, hout⟩ := upto_tick hvalid hs (hfits t (by simp)) hk t.2
      have hlater := ih (fun t ht ↦ hfits t (by simp [ht])) hnext hrest
      have hle := le_getLastD_of_isChain hrest
      have hemitted : (Machine.emitted id step s (polls (t :: ticks))).map (·.cycleId.toNat) =
          ((s.tick t.1 t.2).2.map (·.cycleId.toNat)).toList ++
            (Machine.emitted id step (s.tick t.1 t.2).1 (polls ticks)).map (·.cycleId.toNat) := by
        rw [polls, List.map_cons, Machine.emitted_cons, List.map_append, Option.toList_map]
        rfl
      rw [hemitted, hout, hlater, List.getLastD_cons]
      generalize (config.grid hvalid).begun t.1.toInt = b at *
      rcases hk with rfl | rfl
      · simp
      · -- One more cycle has begun: it comes first, and the rest starts after it.
        have hlength : (begunCounts hvalid ticks).getLastD (k + 1) - k =
            ((begunCounts hvalid ticks).getLastD (k + 1) - (k + 1)) + 1 := by omega
        rw [hlength, List.range'_succ, List.filter_cons, ← add_assoc]
        by_cases hwithin : Within config (config.startCycle.toNat + k) <;> simp [hwithin]

/-- Polled often enough, the scheduler meets at most one new cycle at a time. -/
theorem isChain_begunCounts {config : CycleSchedulerConfig} (hvalid : config.Valid)
    {ticks : List (Int64 × Bool)}
    (hfirst : ∀ t ∈ ticks.head?, t.1.toInt < config.epochNs.toInt + config.periodNs.toInt)
    (hsteps : ticks.IsChain fun t u ↦
      t.1 ≤ u.1 ∧ u.1.toInt ≤ t.1.toInt + config.periodNs.toInt) :
    (0 :: begunCounts hvalid ticks).IsChain fun a b ↦ b = a ∨ b = a + 1 := by
  have hcounts : (begunCounts hvalid ticks).IsChain fun a b ↦ b = a ∨ b = a + 1 := by
    apply List.isChain_map_of_isChain _ _ hsteps
    intro t u ⟨hle, hnear⟩
    have hmono := (config.grid hvalid).begun_mono (Int64.le_iff_toInt_le.mp hle)
    have hsucc := (config.grid hvalid).begun_le_succ hnear
    omega
  refine List.isChain_cons.mpr ⟨?_, hcounts⟩
  intro count hcount
  rw [begunCounts, List.head?_map] at hcount
  obtain ⟨t, ht, rfl⟩ := Option.mem_map.mp hcount
  have hone := (config.grid hvalid).begun_le_one (hfirst t ht)
  omega

theorem getLastD_begunCounts {config : CycleSchedulerConfig} (hvalid : config.Valid)
    {ticks : List (Int64 × Bool)} {last : Int64}
    (hlast : (ticks.map Prod.fst).getLast? = some last) :
    (begunCounts hvalid ticks).getLastD 0 = (config.grid hvalid).begun last.toInt := by
  have hmap : begunCounts hvalid ticks =
      (ticks.map Prod.fst).map fun t ↦ (config.grid hvalid).begun t.toInt := by
    simp [begunCounts]
  rw [List.getLastD_eq_getLast?, hmap, List.getLast?_map, hlast]
  rfl

theorem emitted_of_adequate_polling {s₀ s : CycleScheduler} {config : CycleSchedulerConfig}
    (hconfigure : s₀.configure config = (s, true)) {ticks : List (Int64 × Bool)}
    (hfits : ∀ t ∈ ticks, config.Fits t.1)
    (hfirst : ∀ t ∈ ticks.head?, t.1.toInt < config.epochNs.toInt + config.periodNs.toInt)
    (hsteps : ticks.IsChain fun t u ↦
      t.1 ≤ u.1 ∧ u.1.toInt ≤ t.1.toInt + config.periodNs.toInt)
    {last : Int64} (hlast : (ticks.map Prod.fst).getLast? = some last) :
    (Machine.emitted id step s.start (polls ticks)).map (·.cycleId.toNat) =
      if last < config.epochNs then []
      else
        (List.range' config.startCycle.toNat
          ((computeCycleId config last).toNat + 1 - config.startCycle.toNat)).filter
            fun c ↦ config.maxCycle = 0 ∨ c ≤ config.maxCycle.toNat := by
  obtain ⟨hvalid, rfl⟩ := configure_ok hconfigure
  have hlastFits : config.Fits last := by
    obtain ⟨t, ht, rfl⟩ := List.mem_map.mp (List.mem_of_getLast? hlast)
    exact hfits t ht
  rw [emitted_polls hvalid hfits (upto_start hvalid) (isChain_begunCounts hvalid hfirst hsteps),
    getLastD_begunCounts hvalid hlast]
  by_cases hepoch : last < config.epochNs
  · have hzero := (config.grid hvalid).begun_of_lt (Int64.lt_iff_toInt_lt.mp hepoch)
    simp [hepoch, hzero]
  · have hge := Int64.not_lt.mp hepoch
    have hbegun := (config.grid hvalid).begun_of_le (Int64.le_iff_toInt_le.mp hge)
    have hcycle := computeCycleId_toNat hvalid hlastFits hge
    have hlength : (computeCycleId config last).toNat + 1 - config.startCycle.toNat =
        (config.grid hvalid).begun last.toInt := by omega
    rw [if_neg hepoch, hlength]
    rfl

/-- Polled at the epoch, on a period edge and late in the second cycle. -/
theorem formation_polled :
    (Machine.emitted id step (start { config := formation })
      (polls [(1000000000, true), (1050000000, false), (1099999999, true)])).map
        (·.cycleId.toNat) = [0, 1] := by
  have hfits : ∀ t ∈ [((1000000000 : Int64), true), (1050000000, false), (1099999999, true)],
      formation.Fits t.1 := by
    simp only [List.forall_mem_cons]
    refine ⟨by decide +kernel, by decide +kernel, by decide +kernel, ?_⟩
    exact List.forall_mem_nil _
  have hfirst : ∀ t ∈ [((1000000000 : Int64), true), (1050000000, false), (1099999999, true)].head?,
      t.1.toInt < formation.epochNs.toInt + formation.periodNs.toInt := by
    intro t ht
    cases ht
    decide +kernel
  have hpolled := emitted_of_adequate_polling configure_formation hfits hfirst
    (by decide +kernel) rfl
  exact hpolled.trans (by decide +kernel)

/-! ## Two vehicles -/

theorem cycle_agreement {s₀ s t₀ t : CycleScheduler} {config other : CycleSchedulerConfig}
    (hs : s₀.configure config = (s, true)) (ht : t₀.configure other = (t, true))
    (hepoch : other.epochNs = config.epochNs) (hperiod : other.periodNs = config.periodNs)
    (hstart : other.startCycle = config.startCycle) {calls calls' : List SchedulerCall}
    (hwrap : NoWrap config calls) (hwrap' : NoWrap other calls')
    {e e' : Machine.Entry CycleScheduler SchedulerCall (Option CycleEvent)}
    (he : e ∈ Machine.trace step s calls) (he' : e' ∈ Machine.trace step t calls')
    {nowNs nowNs' : Int64} {clockOk clockOk' : Bool} (hin : e.input = .tick nowNs clockOk)
    (hin' : e'.input = .tick nowNs' clockOk') {event event' : CycleEvent}
    (hout : e.output = some event) (hout' : e'.output = some event') :
    (event.cycleId = event'.cycleId → event.expectedTimeNs = event'.expectedTimeNs) ∧
      ∀ d : ℤ, |nowNs.toInt - nowNs'.toInt| ≤ d →
        |(event.cycleId.toNat : ℤ) - event'.cycleId.toNat| ≤
          ⌈(d : ℚ) / config.periodNs.toInt⌉ := by
  obtain ⟨hvalid, rfl⟩ := configure_ok hs
  obtain ⟨hvalid', rfl⟩ := configure_ok ht
  obtain ⟨now₁, ok₁, s', hin₁, hmem, htick⟩ := event_of_trace he hout
  obtain ⟨now₂, ok₂, t', hin₂, hmem', htick'⟩ := event_of_trace he' hout'
  obtain ⟨rfl, rfl⟩ := SchedulerCall.tick.inj (hin.symm.trans hin₁)
  obtain ⟨rfl, rfl⟩ := SchedulerCall.tick.inj (hin'.symm.trans hin₂)
  have hconfig : e.state.config = config := trace_config he
  have hconfig' : e'.state.config = other := trace_config he'
  obtain ⟨-, hcycle, hexpected⟩ := tick_on_grid hconfig hvalid (hwrap _ hmem) htick
  obtain ⟨-, hcycle', hexpected'⟩ := tick_on_grid hconfig' hvalid' (hwrap' _ hmem') htick'
  have hgrid : other.grid hvalid' = config.grid hvalid := by
    simp [CycleSchedulerConfig.grid, hepoch, hperiod]
  rw [hgrid] at hcycle' hexpected'
  rw [hstart] at hcycle'
  constructor
  · intro hid
    have hcell : (config.grid hvalid).cell nowNs.toInt =
        (config.grid hvalid).cell nowNs'.toInt := by
      rw [← hid] at hcycle'
      omega
    apply Int64.toInt_inj.mp
    rw [hexpected, hexpected', hcell]
  · intro d hd
    have hdiff : (event.cycleId.toNat : ℤ) - event'.cycleId.toNat =
        (config.grid hvalid).cell nowNs.toInt - (config.grid hvalid).cell nowNs'.toInt := by
      omega
    rw [hdiff]
    exact (config.grid hvalid).abs_cell_sub_le_ceil hd

def punctualEvent : CycleEvent :=
  ⟨formation.sessionId, formation.taskId, 1, 1050000000, 1050000000, 0, 50000000, true⟩

def lateEvent : CycleEvent :=
  ⟨formation.sessionId, formation.taskId, 1, 1050000000, 1060000000, 10000000, 50000000, true⟩

/-- One vehicle is polled at each cycle, the other has missed the first one. -/
theorem formation_agrees :
    punctualEvent.expectedTimeNs = lateEvent.expectedTimeNs ∧
      |(punctualEvent.cycleId.toNat : ℤ) - lateEvent.cycleId.toNat| ≤
        ⌈((10000000 : ℤ) : ℚ) / formation.periodNs.toInt⌉ := by
  have hpunctual : ⟨⟨formation, true, true, 0⟩, .tick 1050000000 true, some punctualEvent⟩ ∈
      Machine.trace step { config := formation }
        [.start, .tick 1000000000 true, .tick 1050000000 true] := by decide +kernel
  have hlate : ⟨⟨formation, true, false, 0⟩, .tick 1060000000 true, some lateEvent⟩ ∈
      Machine.trace step { config := formation } [.start, .tick 1060000000 true] := by
    decide +kernel
  have hagree := cycle_agreement configure_formation configure_formation rfl rfl rfl
    (by decide +kernel) (by decide +kernel) hpunctual hlate rfl rfl rfl rfl
  exact ⟨hagree.1 rfl, hagree.2 10000000 (by decide +kernel)⟩

end CycleScheduler

end RuntimeSync
