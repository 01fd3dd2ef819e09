import RuntimeSync.Core.Weaknet.BudgetGuard
import RuntimeSync.Core.Weaknet.LinkHealth

/-!
# Recommendations

What the runtime recommends for a link depends on the state of the link and on
the budget.  The ratios of the link only accompany it as evidence.
-/

namespace RuntimeSync.Weaknet

inductive RecommendationLevel where
  | info
  | warn
  | critical
  deriving DecidableEq

namespace RecommendationLevel

/-- The value of the enumerator. -/
def code : RecommendationLevel → UInt8
  | .info => 0
  | .warn => 1
  | .critical => 2

end RecommendationLevel

inductive RecommendationType where
  | changeFrequency
  | changeTargetCycleOffset
  | disableChannel
  | reducePayload
  | changeTopology
  deriving DecidableEq

namespace RecommendationType

def toString : RecommendationType → Str
  | .changeFrequency => text "change_frequency"
  | .changeTargetCycleOffset => text "change_target_cycle_offset"
  | .disableChannel => text "disable_channel"
  | .reducePayload => text "reduce_payload"
  | .changeTopology => text "change_topology"

end RecommendationType

/-- The evidence is listed in the order of its keys. -/
structure RuntimeRecommendation where
  cycleId : UInt64 := 0
  level : RecommendationLevel := .info
  type : RecommendationType := .changeFrequency
  channel : Str := []
  peer : Str := []
  confidence : ℚ := 0
  reason : Str := []
  evidence : List (Str × ℚ) := []
  deriving DecidableEq

/-- The arguments of the source's `add`. -/
structure Advice where
  level : RecommendationLevel
  type : RecommendationType
  confidence : ℚ
  reason : Str
  deriving DecidableEq

def RuntimeRecommendation.advice (recommendation : RuntimeRecommendation) : Advice :=
  ⟨recommendation.level, recommendation.type, recommendation.confidence, recommendation.reason⟩

namespace RecommendationEngine

def add (cycleId : UInt64) (health : PeerChannelHealth) (advice : Advice) :
    RuntimeRecommendation where
  cycleId := cycleId
  level := advice.level
  type := advice.type
  channel := health.channel
  peer := health.peerId
  confidence := advice.confidence
  reason := advice.reason
  evidence :=
    [(text "fresh_ratio", health.freshRatio), (text "late_ratio", health.lateRatio),
      (text "missing_ratio", health.missingRatio),
      (text "rx_latency_p99_ns", (health.rxLatencyP99Ns.toInt : ℚ))]

def adviceFor : LinkState → List Advice
  | .degraded =>
      [⟨.warn, .disableChannel, 0.60,
        text "consider disabling bulk/debug channels; realtime remains suggestion-only"⟩]
  | .congested =>
      [⟨.warn, .changeFrequency, 0.75, text "consider lowering realtime frequency"⟩,
        ⟨.warn, .changeTargetCycleOffset, 0.70, text "consider increasing target_cycle_offset"⟩]
  | .partitioned =>
      [⟨.critical, .changeTopology, 0.85,
        text "peer appears partitioned; consider router/topology recovery"⟩]
  | .good | .recovering => []

/-- The recommendation for a budget that was not accepted. -/
def reducePayload (cycleId : UInt64) (health : PeerChannelHealth) (budget : BudgetReport ℚ) :
    RuntimeRecommendation where
  cycleId := cycleId
  level := .critical
  type := .reducePayload
  channel := health.channel
  peer := health.peerId
  confidence := 0.95
  reason := budget.reason
  evidence :=
    [(text "budget_utilization_ratio", budget.utilizationRatio),
      (text "max_realtime_bps", budget.maxRealtimeBps),
      (text "total_realtime_bps", budget.totalRealtimeBps)]

/-- `none` is the null pointer. -/
def evaluate (cycleId : UInt64) (health : PeerChannelHealth) (budget : Option (BudgetReport ℚ)) :
    List RuntimeRecommendation :=
  (adviceFor health.state).map (add cycleId health) ++
    match budget with
    | none => []
    | some budget => if !budget.accepted then [reducePayload cycleId health budget] else []

/-! ## What is recommended -/

/-- The part of the advice that is about the budget. -/
def budgetAdvice (budget : Option (BudgetReport ℚ)) : List Advice :=
  match budget with
  | none => []
  | some budget =>
      if !budget.accepted then [⟨.critical, .reducePayload, 0.95, budget.reason⟩] else []

/-- The ratios of the link, and its cycle, do not count. -/
theorem advice_evaluate (cycleId : UInt64) (health : PeerChannelHealth)
    (budget : Option (BudgetReport ℚ)) :
    (evaluate cycleId health budget).map RuntimeRecommendation.advice =
      adviceFor health.state ++ budgetAdvice budget := by
  unfold evaluate
  rw [List.map_append, List.map_map]
  congr 1
  · exact List.map_id _
  · cases budget with
    | none => rfl
    | some budget =>
        rw [budgetAdvice]
        dsimp only
        split <;> rfl

theorem peer_evaluate {cycleId : UInt64} {health : PeerChannelHealth}
    {budget : Option (BudgetReport ℚ)} {recommendation : RuntimeRecommendation}
    (h : recommendation ∈ evaluate cycleId health budget) :
    recommendation.peer = health.peerId ∧ recommendation.channel = health.channel ∧
      recommendation.cycleId = cycleId := by
  rcases List.mem_append.mp h with h | h
  · obtain ⟨advice, -, rfl⟩ := List.mem_map.mp h
    exact ⟨rfl, rfl, rfl⟩
  · cases budget with
    | none => cases h
    | some budget =>
        dsimp only at h
        split at h
        · rw [List.mem_singleton.mp h]
          exact ⟨rfl, rfl, rfl⟩
        · cases h

/-- Each link is told to send less as long as the budget is exceeded. -/
theorem reducePayload_mem_iff (cycleId : UInt64) (health : PeerChannelHealth)
    (budget : BudgetReport ℚ) :
    (∃ recommendation ∈ evaluate cycleId health (some budget),
      recommendation.type = .reducePayload) ↔ budget.accepted = false := by
  have hstate : ∀ advice ∈ adviceFor health.state, advice.type ≠ .reducePayload := by
    cases health.state <;> decide
  constructor
  · rintro ⟨recommendation, hmem, htype⟩
    have hadvice : recommendation.advice ∈
        adviceFor health.state ++ budgetAdvice (some budget) := by
      rw [← advice_evaluate cycleId health]
      exact List.mem_map_of_mem hmem
    rcases List.mem_append.mp hadvice with hadvice | hadvice
    · exact absurd htype (hstate _ hadvice)
    · rw [budgetAdvice] at hadvice
      cases haccepted : budget.accepted with
      | false => rfl
      | true =>
          rw [haccepted] at hadvice
          cases hadvice
  · intro hrejected
    refine ⟨reducePayload cycleId health budget, ?_, rfl⟩
    rw [evaluate, hrejected]
    exact List.mem_append_right _ (List.mem_singleton_self _)

end RecommendationEngine

end RuntimeSync.Weaknet
