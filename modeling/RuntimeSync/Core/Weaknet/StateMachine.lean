import RuntimeSync.Core.Weaknet.LinkSummary
import RuntimeSync.Library.Machine

/-!
# The state machine of a link

The machine follows the summaries of a window.  It leaves the partitioned state
only to recover, and asks more of a recovering link than the summary does.
-/

namespace RuntimeSync.Weaknet

structure StateTransition where
  previous : LinkState := .good
  current : LinkState := .good
  changed : Bool := false
  reason : Str := []
  evidence : List (Str × ℚ) := []
  deriving DecidableEq

structure WeaknetStateMachine where
  current : LinkState := .good
  deriving DecidableEq

namespace WeaknetStateMachine

def next (current : LinkState) (health : PeerChannelHealth) : LinkState :=
  if current = .partitioned then
    if 0.50 < health.freshRatio then .recovering else .partitioned
  else if current = .recovering then
    if 0.995 < health.freshRatio ∧ health.lateRatio < 0.005 ∧ health.missingRatio < 0.001 then
      .good
    else health.state
  else health.state

def update (machine : WeaknetStateMachine) (health : PeerChannelHealth) :
    WeaknetStateMachine × StateTransition :=
  let current := next machine.current health
  ({ current := current },
    { previous := machine.current
      current := current
      changed := decide (machine.current ≠ current)
      reason := if health.primaryReason = [] then text "state evaluated" else health.primaryReason
      evidence :=
        [(text "fresh_ratio", health.freshRatio), (text "late_ratio", health.lateRatio),
          (text "missing_ratio", health.missingRatio),
          (text "rx_latency_p99_ns", (health.rxLatencyP99Ns.toInt : ℚ)),
          (text "seq_gap_count", (health.seqGapCount.toNat : ℚ))] })

/-! ## Where a window leads -/

variable (window : LinkHealthWindow) (peerId channel : Str)

theorem half_lt_freshRatio_iff :
    0.50 < (window.summarize peerId channel).freshRatio ↔
      window.size < 2 * window.statusCount .fresh := by
  have h : (1 : ℕ) / (2 : ℕ) < (window.summarize peerId channel).freshRatio ↔
      1 * window.size < 2 * window.statusCount .fresh :=
    LinkHealthWindow.lt_freshRatio_iff peerId channel two_pos
  rw [one_mul] at h
  rw [← h]
  norm_num

theorem next_partitioned :
    next .partitioned (window.summarize peerId channel) =
      if window.size < 2 * window.statusCount .fresh then .recovering else .partitioned := by
  rw [next, if_pos rfl]
  simp only [half_lt_freshRatio_iff]

theorem next_recovering_eq_good_iff :
    next .recovering (window.summarize peerId channel) = .good ↔
      window.LooksRecovered ∨ window.LooksGood := by
  rw [next, if_neg nofun, if_pos rfl, LinkHealthWindow.looksRecovered_iff peerId channel,
    ← LinkHealthWindow.summarize_good_iff peerId channel]
  split
  · next hstrict => exact iff_of_true rfl (Or.inl hstrict)
  · next hnot => rw [or_iff_right hnot]

/-! The machine follows the summary from any other state. -/

theorem next_degraded (health : PeerChannelHealth) : next .degraded health = health.state := rfl

theorem next_congested (health : PeerChannelHealth) : next .congested health = health.state := rfl

/-- A link recovers only from the partitioned state. -/
theorem next_eq_recovering_iff {current : LinkState} :
    next current (window.summarize peerId channel) = .recovering ↔
      current = .partitioned ∧ window.size < 2 * window.statusCount .fresh := by
  have hne := window.summarize_ne_recovering peerId channel
  by_cases hpartitioned : current = .partitioned
  · rw [hpartitioned, next_partitioned]
    split <;> simp [*]
  · rw [next, if_neg hpartitioned]
    apply iff_of_false
    · split_ifs
      · exact nofun
      · exact hne
      · exact hne
    · exact fun h ↦ hpartitioned h.1

theorem next_eq_partitioned_iff {current : LinkState} :
    next current (window.summarize peerId channel) = .partitioned ↔
      if current = .partitioned then 2 * window.statusCount .fresh ≤ window.size
      else window.size = 0 ∨ window.statusCount .fresh = 0 ∧ 3 ≤ window.size := by
  rw [← LinkHealthWindow.summarize_partitioned_iff peerId channel]
  by_cases hpartitioned : current = .partitioned
  · rw [hpartitioned, next_partitioned, if_pos rfl]
    split <;> simp <;> omega
  · rw [next, if_neg hpartitioned, if_neg hpartitioned]
    by_cases hrecovering : current = .recovering
    · rw [if_pos hrecovering]
      split
      · next hstrict =>
          -- A link that has recovered is fresh, so that its summary is not partitioned.
          apply iff_of_false nofun
          rw [LinkHealthWindow.summarize_partitioned_iff]
          have hfresh := ((LinkHealthWindow.looksRecovered_iff peerId channel).mpr hstrict).fresh
          have hle := window.statusCount_le_size .fresh
          omega
      · rfl
    · rw [if_neg hrecovering]

end WeaknetStateMachine

/-! ## A link: a window and the machine that follows it -/

structure Link where
  window : LinkHealthWindow
  machine : WeaknetStateMachine := {}

inductive LinkCall where
  | observe (sample : LinkHealthSample)
  | update (peerId channel : Str)
  | clear
  deriving DecidableEq

namespace Link

def new (maxSamples : ℕ := 100) : Link where
  window := .new maxSamples

def update (link : Link) (peerId channel : Str) : Link × StateTransition :=
  let (machine, transition) := link.machine.update (link.window.summarize peerId channel)
  ({ link with machine := machine }, transition)

def step (link : Link) : LinkCall → Link × Option StateTransition
  | .observe sample => ({ link with window := link.window.observe sample }, none)
  | .update peerId channel =>
      ((link.update peerId channel).1, some (link.update peerId channel).2)
  | .clear => ({ link with window := link.window.clear }, none)

/-- A new link after a sequence of calls. -/
def after (maxSamples : ℕ) (calls : List LinkCall) : Link :=
  Machine.run step (new maxSamples) calls

end Link

end RuntimeSync.Weaknet
