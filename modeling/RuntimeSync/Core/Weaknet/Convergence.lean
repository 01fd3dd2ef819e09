import RuntimeSync.Core.Weaknet.StateMachine

/-!
# Convergence of a link

Each observation is followed by an update.  As soon as the window holds nothing
but the last observations, the past of the link shows in the state of its
machine alone, and one more update takes care of that.
-/

namespace RuntimeSync.Weaknet

/-! ## Windows of one kind -/

theorem percentile_le {values : List Int64} {bound : Int64} (hbound : 0 ≤ bound)
    (h : ∀ value ∈ values, value ≤ bound) (q : ℚ) : percentile values q ≤ bound := by
  unfold percentile
  dsimp only
  split
  · exact hbound
  · rw [List.getD_eq_getElem?_getD]
    cases hget : (values.insertionSort (· ≤ ·))[⌊min
        (((values.insertionSort (· ≤ ·)).length - 1 : ℕ) : ℚ)
          (max 0 (q * ((values.insertionSort (· ≤ ·)).length - 1 : ℕ)))⌋₊]? with
    | none => exact hbound
    | some value =>
        have hmem := List.mem_of_getElem? hget
        exact h value ((List.mem_insertionSort _).mp hmem)

namespace LinkHealthWindow

variable {window : LinkHealthWindow}

/-- Every observation in the window is fresh and quick. -/
def AllFresh (window : LinkHealthWindow) : Prop :=
  ∀ sample ∈ window.samples, sample.status = .fresh ∧ sample.latencyNs ≤ 40000000

theorem statusCount_eq_zero {status : SampleStatus}
    (h : ∀ sample ∈ window.samples, sample.status ≠ status) : window.statusCount status = 0 := by
  rw [statusCount, List.countP_eq_zero]
  intro sample hsample
  rw [decide_eq_true_eq]
  exact h sample hsample

theorem statusCount_eq_size {status : SampleStatus}
    (h : ∀ sample ∈ window.samples, sample.status = status) :
    window.statusCount status = window.size := by
  rw [statusCount, size, List.countP_eq_length]
  intro sample hsample
  exact decide_eq_true (h sample hsample)

theorem AllFresh.statusCount_fresh (h : window.AllFresh) :
    window.statusCount .fresh = window.size :=
  statusCount_eq_size fun sample hsample ↦ (h sample hsample).1

theorem AllFresh.statusCount_other (h : window.AllFresh) {status : SampleStatus}
    (hstatus : status ≠ .fresh) : window.statusCount status = 0 := by
  apply statusCount_eq_zero
  intro sample hsample heq
  exact hstatus (heq.symm.trans (h sample hsample).1)

theorem AllFresh.statusCount_late (h : window.AllFresh) : window.statusCount .late = 0 :=
  h.statusCount_other nofun

theorem AllFresh.statusCount_missing (h : window.AllFresh) : window.statusCount .missing = 0 :=
  h.statusCount_other nofun

theorem AllFresh.looksGood (h : window.AllFresh) (hpos : 0 < window.size) :
    window.LooksGood where
  nonempty := hpos
  fresh := by rw [h.statusCount_fresh]; omega
  latency := by
    apply percentile_le (by decide)
    intro value hvalue
    obtain ⟨sample, hsample, rfl⟩ := List.mem_map.mp hvalue
    exact (h sample (List.mem_of_mem_filter hsample)).2
  late := by rw [h.statusCount_late]; omega
  missing := by rw [h.statusCount_missing]; omega

theorem AllFresh.looksRecovered (h : window.AllFresh) (hpos : 0 < window.size) :
    window.LooksRecovered where
  fresh := by rw [h.statusCount_fresh]; omega
  late := by rw [h.statusCount_late]; omega
  missing := by rw [h.statusCount_missing]; omega

end LinkHealthWindow

namespace WeaknetStateMachine

variable {window : LinkHealthWindow} {current : LinkState} (peerId channel : Str)

/-- A window of the best kind makes a link good, but for one that was partitioned. -/
theorem next_of_allFresh (h : window.AllFresh) (hpos : 0 < window.size) :
    next current (window.summarize peerId channel) =
      if current = .partitioned then .recovering else .good := by
  have hgood : (window.summarize peerId channel).state = .good :=
    (LinkHealthWindow.summarize_good_iff peerId channel).mpr (h.looksGood hpos)
  cases current with
  | good => exact hgood
  | degraded => exact hgood
  | congested => exact hgood
  | partitioned =>
      have hfresh := h.statusCount_fresh
      rw [next_partitioned, if_pos (by omega)]
      rfl
  | recovering =>
      exact (next_recovering_eq_good_iff window peerId channel).mpr
        (Or.inl (h.looksRecovered hpos))

/-- A window without a fresh observation parts any link. -/
theorem next_of_noneFresh (h : window.statusCount .fresh = 0) (hsize : 3 ≤ window.size) :
    next current (window.summarize peerId channel) = .partitioned := by
  rw [next_eq_partitioned_iff, h]
  split
  · omega
  · exact Or.inr ⟨rfl, hsize⟩

end WeaknetStateMachine

namespace Link

open Machine

/-! ## Feeding a link -/

/-- The calls for one observation. -/
def cycle (peerId channel : Str) (sample : LinkHealthSample) : List LinkCall :=
  [.observe sample, .update peerId channel]

def feed (peerId channel : Str) (link : Link) (samples : List LinkHealthSample) : Link :=
  run step link (samples.flatMap (cycle peerId channel))

variable (peerId channel : Str) (link : Link)

theorem feed_cons (sample : LinkHealthSample) (samples : List LinkHealthSample) :
    feed peerId channel link (sample :: samples) =
      feed peerId channel
        (Link.update { link with window := link.window.observe sample } peerId channel).1
          samples := rfl

theorem feed_concat (samples : List LinkHealthSample) (sample : LinkHealthSample) :
    feed peerId channel link (samples ++ [sample]) =
      (Link.update { feed peerId channel link samples with
        window := (feed peerId channel link samples).window.observe sample } peerId channel).1 := by
  rw [feed, List.flatMap_append, run_append]
  rfl

theorem feed_current_concat (samples : List LinkHealthSample) (sample : LinkHealthSample) :
    (feed peerId channel link (samples ++ [sample])).machine.current =
      WeaknetStateMachine.next (feed peerId channel link samples).machine.current
        ((feed peerId channel link (samples ++ [sample])).window.summarize peerId channel) := by
  rw [feed_concat]
  rfl

/-- The window slides whatever the machine does. -/
theorem feed_samples (samples : List LinkHealthSample) :
    (feed peerId channel link samples).window.samples =
      (link.window.samples ++ samples).rtake link.window.maxSamples := by
  rw [← foldl_slide link.window.length_le]
  induction samples generalizing link with
  | nil => rfl
  | cons sample samples ih =>
      rw [feed_cons, ih]
      rfl

theorem after_maxSamples (maxSamples : ℕ) (calls : List LinkCall) :
    (after maxSamples calls).window.maxSamples = max 1 maxSamples := by
  apply invariant_run (I := fun link : Link ↦ link.window.maxSamples = max 1 maxSamples)
  · intro link call h
    cases call <;> exact h
  · rfl

theorem after_append_feed (maxSamples : ℕ) (prior : List LinkCall)
    (samples : List LinkHealthSample) :
    after maxSamples (prior ++ samples.flatMap (cycle peerId channel)) =
      feed peerId channel (after maxSamples prior) samples :=
  run_append step _ _ _

/-- Once the window was filled anew it holds nothing but the new observations. -/
theorem feed_window {samples : List LinkHealthSample} {kind : LinkHealthSample → Prop}
    (hlength : link.window.maxSamples ≤ samples.length) (hkind : ∀ sample ∈ samples, kind sample) :
    (∀ sample ∈ (feed peerId channel link samples).window.samples, kind sample) ∧
      (feed peerId channel link samples).window.size = link.window.maxSamples := by
  rw [LinkHealthWindow.size, feed_samples, rtake_append_of_le _ hlength, length_rtake,
    min_eq_left hlength]
  exact ⟨fun sample hsample ↦ hkind sample (mem_of_mem_rtake hsample), rfl⟩

theorem exists_concat {samples : List LinkHealthSample} (h : 0 < samples.length) :
    ∃ init last, samples = init ++ [last] :=
  (List.eq_nil_or_concat' samples).resolve_left (List.ne_nil_of_length_pos h)

theorem feed_noneFresh {samples : List LinkHealthSample}
    (hsize : 3 ≤ link.window.maxSamples) (hlength : samples.length = link.window.maxSamples)
    (hnone : ∀ sample ∈ samples, sample.status ≠ .fresh) :
    (feed peerId channel link samples).machine.current = .partitioned := by
  obtain ⟨hwindow, hfull⟩ := feed_window peerId channel link hlength.ge hnone
  obtain ⟨init, last, rfl⟩ := exists_concat (by omega : 0 < samples.length)
  rw [feed_current_concat]
  exact WeaknetStateMachine.next_of_noneFresh peerId channel
    (LinkHealthWindow.statusCount_eq_zero hwindow) (by omega)

/-- Fresh observations that fill the window, the last of which came just now. -/
theorem feed_allFresh {samples : List LinkHealthSample} {last : LinkHealthSample}
    (hlength : link.window.maxSamples ≤ (samples ++ [last]).length)
    (hall : ∀ sample ∈ samples ++ [last],
      sample.status = .fresh ∧ sample.latencyNs ≤ 40000000) :
    (feed peerId channel link (samples ++ [last])).machine.current =
      if (feed peerId channel link samples).machine.current = .partitioned then .recovering
      else .good := by
  obtain ⟨hwindow, hfull⟩ := feed_window peerId channel link hlength hall
  have hpos := link.window.maxSamples_pos
  rw [feed_current_concat]
  exact WeaknetStateMachine.next_of_allFresh peerId channel hwindow (by omega)

/-- Whatever happened before, a run of observations that fills the window
decides the state of the link: none of them fresh, or all of them and one more. -/
theorem converges (maxSamples : ℕ) (hmax : 3 ≤ maxSamples) (prior : List LinkCall)
    (peerId channel : Str) :
    (∀ more : List LinkHealthSample, more.length = maxSamples →
        (∀ sample ∈ more, sample.status ≠ .fresh) →
          (after maxSamples
            (prior ++ more.flatMap (cycle peerId channel))).machine.current = .partitioned) ∧
      ∀ more : List LinkHealthSample, more.length = maxSamples + 1 →
        (∀ sample ∈ more, sample.status = .fresh ∧ sample.latencyNs ≤ 40000000) →
          (after maxSamples
            (prior ++ more.flatMap (cycle peerId channel))).machine.current = .good := by
  have hcapacity : (after maxSamples prior).window.maxSamples = maxSamples := by
    rw [after_maxSamples, max_eq_right (by omega)]
  constructor
  · intro more hlength hnone
    rw [after_append_feed]
    exact feed_noneFresh peerId channel _ (by omega) (by omega) hnone
  · intro more hlength hall
    obtain ⟨init, last, rfl⟩ := exists_concat (by omega : 0 < more.length)
    rw [List.length_append, List.length_singleton] at hlength
    obtain ⟨init, previous, rfl⟩ := exists_concat (by omega : 0 < init.length)
    -- The first full window ends the partition, the second one ends the recovery.
    have hfirst := feed_allFresh peerId channel (after maxSamples prior)
      (by omega : (after maxSamples prior).window.maxSamples ≤ (init ++ [previous]).length)
      fun sample hsample ↦ hall sample (List.mem_append_left _ hsample)
    have hsecond := feed_allFresh peerId channel (after maxSamples prior)
      (by rw [List.length_append, List.length_singleton]; omega) hall
    rw [after_append_feed, hsecond, hfirst]
    split <;> rfl

/-- A window of three after a late sample: three missing samples part the link,
four fresh ones bring it back. -/
theorem converges_three :
    3 ≤ 3 ∧
      (after 3 (cycle (text "uav2") (text "solution") { status := .late } ++
        (List.replicate 3 { status := .missing }).flatMap
          (cycle (text "uav2") (text "solution")))).machine.current = .partitioned ∧
      (after 3 (cycle (text "uav2") (text "solution") { status := .late } ++
        (List.replicate 4 { status := .fresh, latencyNs := 1000000 }).flatMap
          (cycle (text "uav2") (text "solution")))).machine.current = .good := by
  have h := converges 3 le_rfl (cycle (text "uav2") (text "solution") { status := .late })
    (text "uav2") (text "solution")
  refine ⟨le_rfl, h.1 _ rfl ?_, h.2 _ rfl ?_⟩
  · intro sample hsample
    rw [List.eq_of_mem_replicate hsample]
    exact nofun
  · intro sample hsample
    rw [List.eq_of_mem_replicate hsample]
    exact ⟨rfl, by decide⟩

end Link

end RuntimeSync.Weaknet
