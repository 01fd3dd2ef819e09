import RuntimeSync.Core.Weaknet.StateMachine

/-!
# Recovery

A link that was partitioned should be good again only by way of the recovering
state and under the thresholds of that state.  The summary of a window has
thresholds of its own, which are weaker, and the machine follows the summary
whenever its own ones are not met.
-/

namespace RuntimeSync.Weaknet

namespace Link

def WasPartitioned (maxSamples : ℕ) (calls : List LinkCall) : Prop :=
  ∃ seen, seen <+: calls ∧ (after maxSamples seen).machine.current = .partitioned

/-- Whenever the machine goes to good after it was partitioned, it was
recovering, and the health of that step met the strict thresholds. -/
def RecoversStrictly (maxSamples : ℕ) (calls : List LinkCall) : Prop :=
  ∀ seen peerId channel rest, calls = seen ++ .update peerId channel :: rest →
    WasPartitioned maxSamples seen →
      let link := after maxSamples seen
      let health := link.window.summarize peerId channel
      link.machine.current ≠ .good → (link.update peerId channel).1.machine.current = .good →
        link.machine.current = .recovering ∧
          0.995 < health.freshRatio ∧ health.lateRatio < 0.005 ∧ health.missingRatio < 0.001

/-- The window of a link that is not good yet does not look good too early. -/
def NoShortcut (link : Link) : Prop :=
  match link.machine.current with
  | .recovering => link.window.LooksGood → link.window.LooksRecovered
  | .degraded | .congested => ¬link.window.LooksGood
  | .good | .partitioned => True

@[simp] theorem update_current (link : Link) (peerId channel : Str) :
    (link.update peerId channel).1.machine.current =
      WeaknetStateMachine.next link.machine.current (link.window.summarize peerId channel) := rfl

/-- One update goes to good by the book exactly when there is no shortcut. -/
theorem noShortcut_iff (link : Link) (peerId channel : Str) :
    (link.machine.current ≠ .good → (link.update peerId channel).1.machine.current = .good →
      link.machine.current = .recovering ∧ link.window.LooksRecovered) ↔ link.NoShortcut := by
  rw [update_current, NoShortcut]
  cases hcurrent : link.machine.current with
  | good => exact iff_of_true (fun hne ↦ absurd rfl hne) trivial
  | degraded =>
      rw [WeaknetStateMachine.next_degraded, LinkHealthWindow.summarize_good_iff]
      constructor
      · intro h hgood
        cases (h nofun hgood).1
      · exact fun h _ hgood ↦ absurd hgood h
  | congested =>
      rw [WeaknetStateMachine.next_congested, LinkHealthWindow.summarize_good_iff]
      constructor
      · intro h hgood
        cases (h nofun hgood).1
      · exact fun h _ hgood ↦ absurd hgood h
  | partitioned =>
      rw [WeaknetStateMachine.next_partitioned]
      refine iff_of_true (fun _ hgood ↦ ?_) trivial
      split at hgood <;> cases hgood
  | recovering =>
      rw [WeaknetStateMachine.next_recovering_eq_good_iff]
      constructor
      · exact fun h hgood ↦ (h nofun (Or.inr hgood)).2
      · rintro h - (hrecovered | hgood)
        · exact ⟨rfl, hrecovered⟩
        · exact ⟨rfl, h hgood⟩

/-- A link recovers strictly in exactly the histories in which no update that
comes after a partition finds a shortcut to the good state. -/
theorem recoversStrictly_iff_noShortcut (maxSamples : ℕ) (calls : List LinkCall) :
    RecoversStrictly maxSamples calls ↔
      ∀ seen peerId channel rest, calls = seen ++ .update peerId channel :: rest →
        WasPartitioned maxSamples seen → (after maxSamples seen).NoShortcut := by
  refine forall₄_congr fun seen peerId channel rest ↦ forall₂_congr fun _ _ ↦ ?_
  rw [← noShortcut_iff (after maxSamples seen) peerId channel,
    LinkHealthWindow.looksRecovered_iff peerId channel]

/-! A window of ten: partitioned by three missing samples, recovering after
four fresh ones, and good with nine fresh samples and a bad one. -/

def freshSample : LinkHealthSample := { status := .fresh, latencyNs := 1000000 }

def hurried : List LinkCall :=
  List.replicate 3 (.observe { status := .missing }) ++
    .update (text "uav2") (text "solution") ::
      (List.replicate 4 (.observe freshSample) ++
        .update (text "uav2") (text "solution") ::
          (List.replicate 5 (.observe freshSample) ++
            [.observe { status := .badPayload }, .update (text "uav2") (text "solution")]))

theorem recoversStrictly_fails_hurried : ¬RecoversStrictly 10 hurried := by
  intro h
  have hsplit : hurried = hurried.take 15 ++
      .update (text "uav2") (text "solution") :: [] := by decide +kernel
  have hpartitioned : WasPartitioned 10 (hurried.take 15) :=
    ⟨hurried.take 4, by decide +kernel, by decide +kernel⟩
  have hstrict := h (hurried.take 15) _ _ [] hsplit hpartitioned (by decide +kernel)
    (by decide +kernel)
  exact absurd hstrict.2.1 (by decide +kernel)

end Link

end RuntimeSync.Weaknet
