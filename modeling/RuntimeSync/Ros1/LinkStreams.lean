import RuntimeSync.Core.Weaknet.RecommendationEngine
import RuntimeSync.Library.ChangeLog
import RuntimeSync.Library.Multiplex
import RuntimeSync.Ros1.WorstState

/-!
# The streams of a link

The node interleaves the links as their views come in a snapshot.  Taken apart
by their keys, the reports are those of links that know nothing of each other,
and the transitions among them tell the state in every one of them.
-/

namespace RuntimeSync

open Weaknet Machine

/-! ## One link -/

/-- The body of the loop over the views, for a link of its own. -/
def Weaknet.Link.observeView (link : Link) (view : PeerSampleView Int64) : Link × LinkReport :=
  let window := link.window.observe (WeaknetNode.healthSample view)
  let (link, transition) := Link.update { link with window := window } view.peerId view.channel
  (link,
    { health :=
        { window.summarize view.peerId view.channel with state := link.machine.current }
      transition := if transition.changed then some transition else none })

namespace LinkReport

def key (report : LinkReport) : Str := linkKey report.health.peerId report.health.channel

def state (report : LinkReport) : LinkState := report.health.state

/-- What the message about a transition says of the states. -/
def change (report : LinkReport) : Option (LinkState × LinkState) :=
  report.transition.map fun transition ↦ (transition.previous, transition.current)

end LinkReport

namespace Weaknet

theorem judge_peerId (health : PeerChannelHealth) : (judge health).peerId = health.peerId := by
  rw [judge_eq]

theorem judge_channel (health : PeerChannelHealth) : (judge health).channel = health.channel := by
  rw [judge_eq]

theorem summarize_peerId (window : LinkHealthWindow) (peerId channel : Str) :
    (window.summarize peerId channel).peerId = peerId := by
  rw [LinkHealthWindow.summarize]
  split
  · rfl
  · rw [judge_peerId]

theorem summarize_channel (window : LinkHealthWindow) (peerId channel : Str) :
    (window.summarize peerId channel).channel = channel := by
  rw [LinkHealthWindow.summarize]
  split
  · rfl
  · rw [judge_channel]

namespace Link

variable (link : Link) (view : PeerSampleView Int64)

theorem observeView_key : (link.observeView view).2.key = viewKey view := by
  rw [LinkReport.key, viewKey]
  exact congrArg₂ linkKey (summarize_peerId _ _ _) (summarize_channel _ _ _)

/-- The window with the view in it. -/
def windowWith : LinkHealthWindow := link.window.observe (WeaknetNode.healthSample view)

theorem observeView_next :
    (link.observeView view).2.state = WeaknetStateMachine.next link.machine.current
      ((link.windowWith view).summarize view.peerId view.channel) := rfl

/-- The transition is published when it leads to another state. -/
theorem observeView_change :
    (link.observeView view).2.change =
      if link.machine.current = (link.observeView view).2.state then none
      else some (link.machine.current, (link.observeView view).2.state) := by
  have htransition : (link.observeView view).2.transition =
      if decide (link.machine.current ≠ (link.observeView view).2.state) then
        some (Link.update { link with window := link.windowWith view } view.peerId view.channel).2
      else none := rfl
  rw [LinkReport.change, htransition]
  by_cases heq : link.machine.current = (link.observeView view).2.state
  · rw [decide_eq_false (not_not_intro heq), if_pos heq]
    rfl
  · rw [decide_eq_true heq, if_neg heq]
    rfl

/-- A link recovers when it was partitioned, and at no other time. -/
theorem change_recovering {change : LinkState × LinkState}
    (h : (link.observeView view).2.change = some change) :
    change.2 = .recovering ↔ change.1 = .partitioned := by
  rw [observeView_change] at h
  split at h
  · cases h
  · next hne =>
      obtain rfl := Option.some.inj h
      dsimp only
      rw [observeView_next] at hne ⊢
      rw [WeaknetStateMachine.next_eq_recovering_iff]
      refine ⟨fun hrecovers ↦ hrecovers.1, fun hparted ↦ ⟨hparted, ?_⟩⟩
      rw [hparted, WeaknetStateMachine.next_partitioned] at hne
      by_contra hsize
      rw [if_neg hsize] at hne
      exact hne rfl

/-! ## A run of one link -/

/-- The reports of a new link. -/
def reports (views : List (PeerSampleView Int64)) : List LinkReport :=
  (trace observeView new views).map Entry.output

/-- The link after its views. -/
def fed (views : List (PeerSampleView Int64)) : Link := run observeView new views

theorem reports_concat (views : List (PeerSampleView Int64)) (view : PeerSampleView Int64) :
    reports (views ++ [view]) = reports views ++ [((fed views).observeView view).2] := by
  rw [reports, trace_concat, List.map_append]
  rfl

theorem fed_concat (views : List (PeerSampleView Int64)) (view : PeerSampleView Int64) :
    fed (views ++ [view]) = ((fed views).observeView view).1 := run_concat _ _ _ _

theorem length_reports (views : List (PeerSampleView Int64)) :
    (reports views).length = views.length := by
  rw [reports, List.length_map, ← List.length_map Entry.input, map_input_trace]

/-- The machine is in the state that was reported last. -/
theorem fed_current (views : List (PeerSampleView Int64)) :
    (fed views).machine.current = ((reports views).map LinkReport.state).getLastD .good := by
  induction views using List.reverseRecOn with
  | nil => rfl
  | append_singleton views view _ =>
      rw [fed_concat, reports_concat, List.map_append, List.map_singleton, List.getLastD_concat]
      rfl

/-- What was reported first is what the first views led to. -/
theorem reports_split {views : List (PeerSampleView Int64)} {before after : List LinkReport}
    (h : reports views = before ++ after) : ∃ seen, before = reports seen := by
  refine ⟨views.take before.length, ?_⟩
  have hsplit : reports views = reports (views.take before.length) ++
      (trace observeView (fed (views.take before.length)) (views.drop before.length)).map
        Entry.output := by
    rw [reports, reports, fed, ← List.map_append, ← trace_append, List.take_append_drop]
  have hlength : before.length ≤ views.length := by
    rw [← length_reports, h, List.length_append]
    exact Nat.le_add_right _ _
  refine (List.append_inj (h.symm.trans hsplit) ?_).1
  rw [length_reports, List.length_take, Nat.min_eq_left hlength]

/-- The transitions are the changes of the reported state. -/
theorem changes_reports (views : List (PeerSampleView Int64)) :
    (reports views).filterMap LinkReport.change =
      changes .good ((reports views).map LinkReport.state) := by
  induction views using List.reverseRecOn with
  | nil => rfl
  | append_singleton views view ih =>
      rw [reports_concat, List.filterMap_append, List.map_append, List.map_singleton,
        changes_concat, ih, ← fed_current, List.filterMap_cons, observeView_change]
      by_cases heq : (fed views).machine.current = ((fed views).observeView view).2.state
      · rw [if_pos heq, if_pos heq]
        rfl
      · rw [if_neg heq, if_neg heq]
        rfl

theorem mem_changes_recovering (views : List (PeerSampleView Int64))
    {change : LinkState × LinkState}
    (h : change ∈ (reports views).filterMap LinkReport.change) :
    change.2 = .recovering ↔ change.1 = .partitioned := by
  obtain ⟨report, hreport, hchange⟩ := List.mem_filterMap.mp h
  obtain ⟨e, he, rfl⟩ := List.mem_map.mp hreport
  obtain ⟨_, _, _, _, houtput⟩ := mem_trace observeView he
  rw [houtput] at hchange
  exact change_recovering _ _ hchange

end Link

end Weaknet

/-! ## All links -/

namespace WeaknetNode

def linkOf (node : WeaknetNode) (key : Str) : Link := ⟨node.windowOf key, node.machineOf key⟩

theorem windowOf_observeView (node : WeaknetNode) (view : PeerSampleView Int64) (key : Str) :
    (node.observeView view).1.windowOf key =
      if viewKey view = key then node.windowWith view else node.windowOf key := by
  change ((node.linkWindows.insert (viewKey view) _)[key]?).getD .new = _
  rw [Std.ExtTreeMap.getElem?_insert]
  simp only [Std.LawfulEqCmp.compare_eq_iff_eq]
  split <;> rfl

theorem linkOf_observeView (node : WeaknetNode) (view : PeerSampleView Int64) (key : Str) :
    (node.observeView view).1.linkOf key =
      if viewKey view = key then ((node.linkOf (viewKey view)).observeView view).1
      else node.linkOf key := by
  rw [linkOf, windowOf_observeView, machineOf_observeView]
  split <;> rfl

/-- The links of the node are a family of links. -/
theorem links_family : Family observeView Link.observeView viewKey linkOf where
  output _ _ := rfl
  driven node view := by rw [linkOf_observeView, if_pos rfl]
  others node view key hne := by rw [linkOf_observeView, if_neg hne]

theorem foldl_publishView_published (node : WeaknetNode) (views : List (PeerSampleView Int64)) :
    (views.foldl publishView { node := node }).published =
      (trace observeView node views).map Entry.output := by
  induction views using List.reverseRecOn with
  | nil => rfl
  | append_singleton views view ih =>
      have hnode := (foldl_publishView node views).1
      rw [List.foldl_append, List.foldl_cons, List.foldl_nil, trace_concat, List.map_append, ← ih,
        ← nodeAt, ← hnode]
      rfl

theorem publishWeaknet_links {node : WeaknetNode} (henabled : node.weaknetEnabled = true)
    (snapshot : CycleSnapshot Int64) :
    (node.publishWeaknet snapshot).2 =
        (trace observeView node snapshot.samples).map Entry.output ∧
      ∀ key, (node.publishWeaknet snapshot).1.linkOf key =
        (run observeView node snapshot.samples).linkOf key := by
  rw [publishWeaknet, if_neg fun h ↦ Bool.false_ne_true (h.symm.trans henabled),
    ← foldl_publishView_published]
  refine ⟨rfl, fun key ↦ ?_⟩
  rw [← nodeAt, ← (foldl_publishView node snapshot.samples).1]
  rfl

/-- The reports of a run of snapshots, in the order in which they are published. -/
def reports (snapshots : List (CycleSnapshot Int64)) : List LinkReport :=
  (trace publishWeaknet {} snapshots).flatMap Entry.output

/-- The reports about a link. -/
def reportsOn (key : Str) (snapshots : List (CycleSnapshot Int64)) : List LinkReport :=
  (reports snapshots).filter fun report ↦ report.key = key

/-- The views of a link. -/
def viewsOn (key : Str) (snapshots : List (CycleSnapshot Int64)) : List (PeerSampleView Int64) :=
  (snapshots.flatMap CycleSnapshot.samples).filter fun view ↦ viewKey view = key

theorem weaknetEnabled_run (snapshots : List (CycleSnapshot Int64)) :
    (run publishWeaknet {} snapshots).weaknetEnabled = true := by
  apply invariant_run (I := fun node : WeaknetNode ↦ node.weaknetEnabled = true)
  · intro node snapshot h
    rw [weaknetEnabled_publishWeaknet, h]
  · rfl

/-- A report has the key of its view. -/
theorem filter_outputs (node : WeaknetNode) (views : List (PeerSampleView Int64)) (key : Str) :
    ((trace observeView node views).map Entry.output).filter (fun report ↦ report.key = key) =
      ((trace observeView node views).filter fun e ↦ viewKey e.input = key).map Entry.output := by
  rw [List.filter_map]
  congr 1
  apply List.filter_congr
  intro e he
  obtain ⟨_, _, _, _, houtput⟩ := mem_trace observeView he
  rw [Function.comp_apply, houtput, links_family.output, Link.observeView_key]

/-- The links are isolated: the reports about a link are those of a link that
gets its own views and no others. -/
theorem link_isolated (snapshots : List (CycleSnapshot Int64)) (key : Str) :
    reportsOn key snapshots = Link.reports (viewsOn key snapshots) ∧
      (run publishWeaknet {} snapshots).linkOf key = Link.fed (viewsOn key snapshots) := by
  induction snapshots using List.reverseRecOn with
  | nil => exact ⟨rfl, rfl⟩
  | append_singleton snapshots snapshot ih =>
      obtain ⟨hreports, hlink⟩ := ih
      obtain ⟨houtput, hlinks⟩ :=
        publishWeaknet_links (weaknetEnabled_run snapshots) snapshot
      have hviews : viewsOn key (snapshots ++ [snapshot]) = viewsOn key snapshots ++
          snapshot.samples.filter fun view ↦ viewKey view = key := by
        rw [viewsOn, List.flatMap_append, List.filter_append, List.flatMap_singleton]
        rfl
      have hall : reportsOn key (snapshots ++ [snapshot]) = reportsOn key snapshots ++
          ((run publishWeaknet {} snapshots).publishWeaknet snapshot).2.filter
            fun report ↦ report.key = key := by
        rw [reportsOn, reports, trace_concat, List.flatMap_append, List.filter_append,
          List.flatMap_singleton]
        rfl
      constructor
      · rw [hall, hreports, houtput, filter_outputs, links_family.outputs_filter, hlink, hviews,
          Link.reports, Link.reports, trace_append, List.map_append]
        rfl
      · rw [run_concat, hlinks, (links_family.trace_filter _ _ key).2, hlink, hviews, Link.fed,
          Link.fed, run_append]

/-- What the other links do, and into which cycles the views fall, cannot be
told from the reports about a link. -/
theorem other_links_invisible {snapshots snapshots' : List (CycleSnapshot Int64)} {key : Str}
    (h : viewsOn key snapshots = viewsOn key snapshots') :
    reportsOn key snapshots = reportsOn key snapshots' ∧
      (run publishWeaknet {} snapshots).linkOf key =
        (run publishWeaknet {} snapshots').linkOf key := by
  obtain ⟨hreports, hlink⟩ := link_isolated snapshots key
  obtain ⟨hreports', hlink'⟩ := link_isolated snapshots' key
  rw [hreports, hreports', hlink, hlink', h]
  exact ⟨rfl, rfl⟩

def demoView (peerId : Str) (status : SampleStatus) : PeerSampleView Int64 where
  peerId := peerId
  channel := text "runtime_state"
  status := status

/-- The third peer falls silent, or is fresh and seen a cycle later. -/
theorem silentPeer_invisible :
    reportsOn (linkKey (text "uav02") (text "runtime_state"))
        [{ samples := [demoView (text "uav02") .fresh, demoView (text "uav03") .missing] },
          { samples := [demoView (text "uav02") .late] }] =
      reportsOn (linkKey (text "uav02") (text "runtime_state"))
        [{ samples := [demoView (text "uav02") .fresh] },
          { samples := [demoView (text "uav03") .fresh, demoView (text "uav02") .late] }] :=
  (other_links_invisible (by decide +kernel)).1

/-- A listener who heard the transitions up to a report knows its state. -/
theorem heard_reportsOn {snapshots : List (CycleSnapshot Int64)} {key : Str}
    {before after : List LinkReport} {report : LinkReport}
    (h : reportsOn key snapshots = before ++ report :: after) :
    heard .good ((before ++ [report]).filterMap LinkReport.change) = report.state := by
  rw [(link_isolated snapshots key).1] at h
  obtain ⟨seen, hseen⟩ := Link.reports_split (h.trans (List.append_cons _ _ _))
  rw [hseen, Link.changes_reports, heard_changes, ← hseen, List.map_append, List.map_singleton,
    List.getLastD_concat]

/-- The advice about a link follows from the transitions that were published
about it and from the budget. -/
theorem advice_follows_transitions (snapshots : List (CycleSnapshot Int64)) (key : Str) :
    ∀ before report after, reportsOn key snapshots = before ++ report :: after →
      ∀ cycleId budget,
        (RecommendationEngine.evaluate cycleId report.health budget).map
            RuntimeRecommendation.advice =
          RecommendationEngine.adviceFor
              (heard .good ((before ++ [report]).filterMap LinkReport.change)) ++
            RecommendationEngine.budgetAdvice budget := by
  intro before report after hsplit cycleId budget
  rw [heard_reportsOn hsplit]
  exact RecommendationEngine.advice_evaluate cycleId report.health budget

/-- Three cycles without a sample. -/
def silentCycles : List (CycleSnapshot Int64) :=
  List.replicate 3 { samples := [demoView (text "uav02") .missing] }

theorem silentCycles_advice :
    ∃ report ∈ reportsOn (linkKey (text "uav02") (text "runtime_state")) silentCycles,
      (RecommendationEngine.evaluate 3 report.health none).map RuntimeRecommendation.advice =
        RecommendationEngine.adviceFor .partitioned ++ RecommendationEngine.budgetAdvice none := by
  have hne : reportsOn (linkKey (text "uav02") (text "runtime_state")) silentCycles ≠ [] :=
    List.ne_nil_of_length_pos (by decide +kernel)
  have hadvice := advice_follows_transitions silentCycles _ _ _ []
    (List.dropLast_append_getLast hne).symm 3 none
  have hheard : heard .good ((reportsOn (linkKey (text "uav02") (text "runtime_state"))
      silentCycles).filterMap LinkReport.change) = .partitioned := by
    decide +kernel
  rw [List.dropLast_append_getLast hne, hheard] at hadvice
  exact ⟨_, List.getLast_mem hne, hadvice⟩

end WeaknetNode

end RuntimeSync
