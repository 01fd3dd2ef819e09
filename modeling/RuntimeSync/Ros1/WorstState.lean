import RuntimeSync.Ros1.PublishWeaknet

/-!
# The aggregate link state

The node ranks the states by their enumerators, and `recovering` has the
highest one.  A link that recovers therefore outranks one that is partitioned.
-/

namespace RuntimeSync

open Weaknet Machine

namespace WeaknetNode

/-- What the aggregate is for: it is partitioned whenever a link of the snapshot is. -/
def ReportsPartition (node : WeaknetNode) (snapshot : CycleSnapshot Int64) : Prop :=
  ∀ view ∈ snapshot.samples,
    (node.machineOf (viewKey view)).current = .partitioned → node.weaknetState = .partitioned

/-! ## The links during the loop -/

/-- The node before the view that follows `seen` in a snapshot. -/
def nodeAt (node : WeaknetNode) (seen : List (PeerSampleView Int64)) : WeaknetNode :=
  run observeView node seen

/-- The window of the view's link with the view in it. -/
def windowWith (node : WeaknetNode) (view : PeerSampleView Int64) : LinkHealthWindow :=
  (node.windowOf (viewKey view)).observe (healthSample view)

/-- The link was partitioned before the view, and more than half of its window
is fresh with the view. -/
def LetsRecover (node : WeaknetNode) (view : PeerSampleView Int64) : Prop :=
  (node.machineOf (viewKey view)).current = .partitioned ∧
    (node.windowWith view).size < 2 * (node.windowWith view).statusCount .fresh

/-- The window with the view keeps the link partitioned, or parts it. -/
def LeavesParted (node : WeaknetNode) (view : PeerSampleView Int64) : Prop :=
  if (node.machineOf (viewKey view)).current = .partitioned then
    2 * (node.windowWith view).statusCount .fresh ≤ (node.windowWith view).size
  else (node.windowWith view).statusCount .fresh = 0 ∧ 3 ≤ (node.windowWith view).size

/-- No view lets its link recover in a snapshot that leaves a link parted by
the link's last view in it. -/
def NoMasking (node : WeaknetNode) (snapshot : CycleSnapshot Int64) : Prop :=
  ∀ seen view rest, snapshot.samples = seen ++ view :: rest → (node.nodeAt seen).LetsRecover view →
    ∀ seen' last rest', snapshot.samples = seen' ++ last :: rest' →
      (∀ later ∈ rest', viewKey later ≠ viewKey last) → ¬(node.nodeAt seen').LeavesParted last

/-! ## One view -/

theorem machineOf_observeView (node : WeaknetNode) (view : PeerSampleView Int64) (key : Str) :
    (node.observeView view).1.machineOf key =
      if viewKey view = key then
        ((node.machineOf (viewKey view)).update
          ((node.windowWith view).summarize view.peerId view.channel)).1
      else node.machineOf key := by
  change ((node.linkStates.insert (viewKey view) _)[key]?).getD {} = _
  rw [Std.ExtTreeMap.getElem?_insert]
  simp only [Std.LawfulEqCmp.compare_eq_iff_eq]
  split <;> rfl

/-- The state that a view leads to. -/
def outcome (node : WeaknetNode) (view : PeerSampleView Int64) : LinkState :=
  ((node.observeView view).1.machineOf (viewKey view)).current

theorem outcome_eq (node : WeaknetNode) (view : PeerSampleView Int64) :
    node.outcome view = WeaknetStateMachine.next (node.machineOf (viewKey view)).current
      ((node.windowWith view).summarize view.peerId view.channel) := by
  rw [outcome, machineOf_observeView, if_pos rfl]
  rfl

theorem report_state (node : WeaknetNode) (view : PeerSampleView Int64) :
    (node.observeView view).2.health.state = node.outcome view := by
  rw [outcome_eq]
  rfl

theorem outcome_recovering_iff (node : WeaknetNode) (view : PeerSampleView Int64) :
    node.outcome view = .recovering ↔ node.LetsRecover view := by
  rw [outcome_eq, WeaknetStateMachine.next_eq_recovering_iff]
  rfl

theorem outcome_partitioned_iff (node : WeaknetNode) (view : PeerSampleView Int64) :
    node.outcome view = .partitioned ↔ node.LeavesParted view := by
  have hpos : 0 < (node.windowWith view).size := LinkHealthWindow.observe_size_pos _ _
  rw [outcome_eq, WeaknetStateMachine.next_eq_partitioned_iff, or_iff_right hpos.ne']
  rfl

/-! ## The views of a snapshot -/

/-- The states that the views lead to, in order. -/
def outcomes (node : WeaknetNode) (views : List (PeerSampleView Int64)) : List LinkState :=
  (trace observeView node views).map fun e ↦ e.output.health.state

theorem outcomes_concat (node : WeaknetNode) (views : List (PeerSampleView Int64))
    (view : PeerSampleView Int64) :
    node.outcomes (views ++ [view]) = node.outcomes views ++ [(node.nodeAt views).outcome view] := by
  rw [outcomes, trace_append, List.map_append, ← report_state]
  rfl

theorem mem_outcomes_iff {node : WeaknetNode} {views : List (PeerSampleView Int64)}
    {state : LinkState} :
    state ∈ node.outcomes views ↔
      ∃ seen view rest, views = seen ++ view :: rest ∧ (node.nodeAt seen).outcome view = state := by
  constructor
  · intro h
    obtain ⟨e, he, rfl⟩ := List.mem_map.mp h
    obtain ⟨seen, rest, hviews, hstate, houtput⟩ := mem_trace observeView he
    refine ⟨seen, e.input, rest, hviews, ?_⟩
    rw [houtput, hstate, report_state]
    rfl
  · rintro ⟨seen, view, rest, rfl, rfl⟩
    rw [← report_state]
    exact List.mem_map_of_mem (f := fun e : Entry WeaknetNode _ LinkReport ↦ e.output.health.state)
      (mem_trace_of_split observeView node seen view rest)

theorem publishView_worstState (loop : Loop) (view : PeerSampleView Int64) :
    (publishView loop view).worstState =
      if loop.worstState.code < (loop.node.outcome view).code then loop.node.outcome view
      else loop.worstState := by
  rw [← report_state]
  rfl

/-- The loop goes through the links like a run, and ends with a state that no
view exceeded. -/
theorem foldl_publishView (node : WeaknetNode) (views : List (PeerSampleView Int64)) :
    let loop := views.foldl publishView { node := node }
    loop.node = node.nodeAt views ∧
      (loop.worstState = .good ∨ loop.worstState ∈ node.outcomes views) ∧
      ∀ state ∈ node.outcomes views, state.code ≤ loop.worstState.code := by
  induction views using List.reverseRecOn with
  | nil => exact ⟨rfl, Or.inl rfl, fun _ h ↦ nomatch h⟩
  | append_singleton views view ih =>
      obtain ⟨hnode, hmem, hge⟩ := ih
      dsimp only at hnode hmem hge ⊢
      rw [List.foldl_append, List.foldl_cons, List.foldl_nil, outcomes_concat,
        publishView_worstState, hnode]
      refine ⟨?_, ?_, ?_⟩
      · rw [nodeAt, run_concat, ← nodeAt, ← hnode]
        rfl
      · split
        · exact Or.inr (List.mem_append_right _ (List.mem_singleton_self _))
        · exact hmem.imp_right (List.mem_append_left _)
      · intro state hstate
        have hle : state.code ≤
            max (views.foldl publishView { node := node }).worstState.code
              ((node.nodeAt views).outcome view).code := by
          rcases List.mem_append.mp hstate with hstate | hstate
          · exact le_max_of_le_left (hge state hstate)
          · rw [List.mem_singleton.mp hstate]
            exact le_max_right _ _
        split <;> omega

/-- Views of other links do not touch the machine of a link. -/
theorem machineOf_nodeAt_of_ne (node : WeaknetNode) {key : Str}
    (views : List (PeerSampleView Int64)) (h : ∀ view ∈ views, viewKey view ≠ key) :
    (node.nodeAt views).machineOf key = node.machineOf key := by
  induction views generalizing node with
  | nil => rfl
  | cons view views ih =>
      obtain ⟨hview, hviews⟩ := List.forall_mem_cons.mp h
      have hrest := ih (node.observeView view).1 hviews
      rw [machineOf_observeView, if_neg hview] at hrest
      exact hrest

/-- The last view of a link decides the state that its machine ends in. -/
theorem machineOf_nodeAt_last (node : WeaknetNode) (seen : List (PeerSampleView Int64))
    (last : PeerSampleView Int64) {rest : List (PeerSampleView Int64)}
    (h : ∀ later ∈ rest, viewKey later ≠ viewKey last) :
    ((node.nodeAt (seen ++ last :: rest)).machineOf (viewKey last)).current =
      (node.nodeAt seen).outcome last := by
  have hsplit : node.nodeAt (seen ++ last :: rest) =
      ((node.nodeAt seen).observeView last).1.nodeAt rest :=
    run_append observeView node seen (last :: rest)
  rw [hsplit, machineOf_nodeAt_of_ne _ rest h]
  rfl

theorem exists_last_view {views : List (PeerSampleView Int64)} {view : PeerSampleView Int64}
    (h : view ∈ views) :
    ∃ seen last rest, views = seen ++ last :: rest ∧ viewKey last = viewKey view ∧
      ∀ later ∈ rest, viewKey later ≠ viewKey last := by
  induction views using List.reverseRecOn with
  | nil => cases h
  | append_singleton views final ih =>
      by_cases hfinal : viewKey final = viewKey view
      · exact ⟨views, final, [], rfl, hfinal, fun _ hlater ↦ nomatch hlater⟩
      · have hmem : view ∈ views := by
          rcases List.mem_append.mp h with hmem | hmem
          · exact hmem
          · exact absurd (congrArg viewKey (List.mem_singleton.mp hmem).symm) hfinal
        obtain ⟨seen, last, rest, rfl, hkey, hrest⟩ := ih hmem
        refine ⟨seen, last, rest ++ [final], by simp, hkey, ?_⟩
        intro later hlater
        rcases List.mem_append.mp hlater with hlater | hlater
        · exact hrest later hlater
        · rw [List.mem_singleton.mp hlater, hkey]
          exact hfinal

/-! ## One snapshot -/

/-- Among outcomes of which one is partitioned, only a recovering one is worse. -/
theorem worstState_partitioned_iff {node : WeaknetNode} {views : List (PeerSampleView Int64)}
    (h : .partitioned ∈ node.outcomes views) :
    (views.foldl publishView { node := node }).worstState = .partitioned ↔
      .recovering ∉ node.outcomes views := by
  obtain ⟨-, hmem, hge⟩ := foldl_publishView node views
  have hworst := hge _ h
  constructor
  · intro heq hrecovering
    have hexceeds := hge _ hrecovering
    rw [heq] at hexceeds
    exact absurd hexceeds (by decide)
  · intro hnone
    cases hstate : (views.foldl publishView { node := node }).worstState with
    | good => exact absurd (hstate ▸ hworst) (by decide)
    | degraded => exact absurd (hstate ▸ hworst) (by decide)
    | congested => exact absurd (hstate ▸ hworst) (by decide)
    | partitioned => rfl
    | recovering =>
        rw [hstate] at hmem
        exact absurd (hmem.resolve_left nofun) hnone

theorem publishWeaknet_eq {node : WeaknetNode} (henabled : node.weaknetEnabled = true)
    (snapshot : CycleSnapshot Int64) :
    (node.publishWeaknet snapshot).1.weaknetState =
        (snapshot.samples.foldl publishView { node := node }).worstState ∧
      ∀ key, (node.publishWeaknet snapshot).1.machineOf key =
        (node.nodeAt snapshot.samples).machineOf key := by
  rw [publishWeaknet, if_neg (by rw [henabled]; exact nofun)]
  refine ⟨rfl, fun key ↦ ?_⟩
  rw [← (foldl_publishView node snapshot.samples).1]
  rfl

theorem reportsPartition_iff {node : WeaknetNode} (henabled : node.weaknetEnabled = true)
    (snapshot : CycleSnapshot Int64) :
    ReportsPartition (node.publishWeaknet snapshot).1 snapshot ↔ node.NoMasking snapshot := by
  obtain ⟨hstate, hmachine⟩ := publishWeaknet_eq henabled snapshot
  constructor
  · intro h seen view rest hsplit hrecover seen' last rest' hsplit' hlast hparted
    have hrecovering : .recovering ∈ node.outcomes snapshot.samples :=
      mem_outcomes_iff.mpr ⟨seen, view, rest, hsplit, (outcome_recovering_iff _ _).mpr hrecover⟩
    have houtcome := (outcome_partitioned_iff _ _).mpr hparted
    have hpartitioned : .partitioned ∈ node.outcomes snapshot.samples :=
      mem_outcomes_iff.mpr ⟨seen', last, rest', hsplit', houtcome⟩
    have hmem : last ∈ snapshot.samples := hsplit' ▸ by simp
    have hworst := h last hmem
      (by rw [hmachine, hsplit', machineOf_nodeAt_last node seen' last hlast, houtcome])
    rw [hstate, worstState_partitioned_iff hpartitioned] at hworst
    exact hworst hrecovering
  · intro h view hview hparted
    obtain ⟨seen', last, rest', hsplit', hkey, hlast⟩ := exists_last_view hview
    rw [hmachine, ← hkey, hsplit', machineOf_nodeAt_last node seen' last hlast] at hparted
    rw [hstate, worstState_partitioned_iff
      (mem_outcomes_iff.mpr ⟨seen', last, rest', hsplit', hparted⟩)]
    intro hrecovering
    obtain ⟨seen, other, rest, hsplit, hother⟩ := mem_outcomes_iff.mp hrecovering
    exact h seen other rest hsplit ((outcome_recovering_iff _ _).mp hother) seen' last rest'
      hsplit' hlast ((outcome_partitioned_iff _ _).mp hparted)

/-! ## Whole runs -/

theorem weaknetEnabled_nodeAt (node : WeaknetNode) (views : List (PeerSampleView Int64)) :
    (node.nodeAt views).weaknetEnabled = node.weaknetEnabled := by
  apply invariant_run (I := fun node' : WeaknetNode ↦
    node'.weaknetEnabled = node.weaknetEnabled)
  · exact fun _ _ h ↦ h
  · rfl

theorem weaknetEnabled_publishWeaknet (node : WeaknetNode) (snapshot : CycleSnapshot Int64) :
    (node.publishWeaknet snapshot).1.weaknetEnabled = node.weaknetEnabled := by
  rw [publishWeaknet]
  split
  · rfl
  · rw [← weaknetEnabled_nodeAt node snapshot.samples,
      ← (foldl_publishView node snapshot.samples).1]

/-- After every snapshot of a run the aggregate reports each partitioned link
exactly when no snapshot of the run masks one. -/
theorem reportsPartition_iff_noMasking (snapshots : List (CycleSnapshot Int64)) :
    (∀ e ∈ trace publishWeaknet {} snapshots,
      ReportsPartition (publishWeaknet e.state e.input).1 e.input) ↔
      ∀ e ∈ trace publishWeaknet {} snapshots, e.state.NoMasking e.input := by
  have henabled : ∀ e ∈ trace publishWeaknet {} snapshots, e.state.weaknetEnabled = true := by
    apply (invariant_trace (I := fun node : WeaknetNode ↦ node.weaknetEnabled = true)
      (G := fun _ _ ↦ True) ?_ rfl fun _ _ ↦ trivial).1
    intro node snapshot h _
    rw [weaknetEnabled_publishWeaknet, h]
  exact forall₂_congr fun e he ↦ reportsPartition_iff (henabled e he) e.input

/-! Two peers that were cut off: one of them comes back, the other does not. -/

def peerView (peer : String) (status : SampleStatus) : PeerSampleView Int64 :=
  { peerId := text peer, channel := text "solution", status := status }

def bothMissing : CycleSnapshot Int64 :=
  { samples := [peerView "uav2" .missing, peerView "uav3" .missing] }

def oneBack : CycleSnapshot Int64 :=
  { samples := [peerView "uav2" .fresh, peerView "uav3" .missing] }

def maskedPeer : List (CycleSnapshot Int64) :=
  List.replicate 3 bothMissing ++ List.replicate 4 oneBack

theorem reportsPartition_fails_maskedPeer :
    ((run publishWeaknet {} maskedPeer).machineOf
        (linkKey (text "uav3") (text "solution"))).current = .partitioned ∧
      (run publishWeaknet {} maskedPeer).weaknetState = .recovering ∧
      ¬∀ e ∈ trace publishWeaknet {} maskedPeer,
        ReportsPartition (publishWeaknet e.state e.input).1 e.input := by
  have hmachine : ((run publishWeaknet {} maskedPeer).machineOf
      (linkKey (text "uav3") (text "solution"))).current = .partitioned := by decide +kernel
  have hstate : (run publishWeaknet {} maskedPeer).weaknetState = .recovering := by
    decide +kernel
  refine ⟨hmachine, hstate, fun h ↦ ?_⟩
  have hsplit : maskedPeer =
      (List.replicate 3 bothMissing ++ List.replicate 3 oneBack) ++ oneBack :: [] := rfl
  have hlast := h _ (hsplit ▸ mem_trace_of_split publishWeaknet {} _ oneBack [])
  rw [ReportsPartition, ← run_concat, ← hsplit] at hlast
  have hmasked := hlast (peerView "uav3" .missing) (List.mem_cons_of_mem _ List.mem_cons_self)
    hmachine
  rw [hstate] at hmasked
  cases hmasked

end WeaknetNode

end RuntimeSync
