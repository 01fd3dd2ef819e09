import RuntimeSync.Core.SnapshotBuilder
import RuntimeSync.Core.Weaknet.StateMachine

/-!
# The weak-network part of the runtime node

For every view of a snapshot the node feeds the window and the machine of the
link, and it keeps the worst state that the views led to.
-/

namespace RuntimeSync

open Weaknet

/-- What the node publishes for one view. -/
structure LinkReport where
  health : PeerChannelHealth
  /-- The transition is published when the state changed. -/
  transition : Option StateTransition
  deriving DecidableEq

/-- The members of the node that the weak-network publication reads and writes. -/
structure WeaknetNode where
  weaknetEnabled : Bool := true
  linkWindows : Std.ExtTreeMap Str LinkHealthWindow compare := ∅
  linkStates : Std.ExtTreeMap Str WeaknetStateMachine compare := ∅
  weaknetState : LinkState := .good
  weaknetReason : Str := text "healthy"

def linkKey (peer channel : Str) : Str := peer ++ text "|" ++ channel

/-- The key of the link that a view is about. -/
def viewKey (view : PeerSampleView Int64) : Str := linkKey view.peerId view.channel

namespace WeaknetNode

/-- A link met for the first time gets an empty window and a new machine. -/
def windowOf (node : WeaknetNode) (key : Str) : LinkHealthWindow :=
  node.linkWindows[key]?.getD .new

def machineOf (node : WeaknetNode) (key : Str) : WeaknetStateMachine :=
  node.linkStates[key]?.getD {}

def healthSample (view : PeerSampleView Int64) : LinkHealthSample :=
  { status := view.status
    latencyNs := view.receiveLatencyNs
    latePocket := view.lateForThisCycle }

/-- The part of the loop body that is about the link. -/
def observeView (node : WeaknetNode) (view : PeerSampleView Int64) : WeaknetNode × LinkReport :=
  let key := viewKey view
  let window := (node.windowOf key).observe (healthSample view)
  let health := window.summarize view.peerId view.channel
  let (machine, transition) := (node.machineOf key).update health
  ({ node with
      linkWindows := node.linkWindows.insert key window
      linkStates := node.linkStates.insert key machine },
    { health := { health with state := machine.current }
      transition := if transition.changed then some transition else none })

/-- The variables of the loop over the views. -/
structure Loop where
  node : WeaknetNode
  worstState : LinkState := .good
  worstReason : Str := text "healthy"
  published : List LinkReport := []

def publishView (loop : Loop) (view : PeerSampleView Int64) : Loop :=
  let (node, report) := loop.node.observeView view
  let worse := loop.worstState.code < report.health.state.code
  { node := node
    worstState := if worse then report.health.state else loop.worstState
    worstReason := if worse then report.health.primaryReason else loop.worstReason
    published := loop.published ++ [report] }

def publishWeaknet (node : WeaknetNode) (snapshot : CycleSnapshot Int64) :
    WeaknetNode × List LinkReport :=
  if node.weaknetEnabled = false then (node, [])
  else
    let loop := snapshot.samples.foldl publishView { node := node }
    ({ loop.node with weaknetState := loop.worstState, weaknetReason := loop.worstReason },
      loop.published)

end WeaknetNode

end RuntimeSync
