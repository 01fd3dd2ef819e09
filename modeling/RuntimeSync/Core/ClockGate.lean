import RuntimeSync.Core.ClockMonitor

/-!
# What opens the preflight gate

A snapshot identifies the time source by three names.  The gate compares each
of them with the configured ground station and opens when one comparison
succeeds and the other checks pass.  The comparison is by containment, and the
empty name is contained in every name.
-/

namespace RuntimeSync.ClockMonitor

/-- Two names match when they are equal or one contains the other, case aside. -/
def Related (name ground : Str) : Prop :=
  lower name = lower ground ∨ lower ground <:+: lower name ∨ lower name <:+: lower ground

instance (name ground : Str) : Decidable (Related name ground) :=
  inferInstanceAs (Decidable (_ ∨ _ ∨ _))

theorem related_nil (ground : Str) : Related [] ground :=
  Or.inr (Or.inr (List.nil_infix))

theorem sourceMatches_iff {expected : Str} (h : expected ≠ []) (candidate : Str) :
    sourceMatches candidate expected = true ↔ Related candidate expected := by
  simp [sourceMatches, h, Related, finds, or_assoc]

variable {D : Type} [DoubleArith D]

/-- The names `evaluateSnapshot` compares with the ground station. -/
def candidateNames (snapshot : ClockMonitorSnapshot D) : List Str :=
  [snapshot.sources.selectedSource, snapshot.tracking.referenceName,
    snapshot.tracking.referenceId]

/-- The checks of the gate other than the comparison of names. -/
def OtherChecksPass (snapshot : ClockMonitorSnapshot D) (policy : ClockPolicy) : Prop :=
  snapshot.tracking.ok = true ∧ snapshot.sources.ok = true ∧
    lower snapshot.tracking.leapStatus = text "normal" ∧
      (secondsToNs snapshot.tracking.systemTimeS).abs ≤ policy.preflightMaxOffsetNs ∧
        uncertaintyNs snapshot.tracking ≤ policy.preflightMaxUncertaintyNs

theorem clockOk_iff (snapshot : ClockMonitorSnapshot D) {policy : ClockPolicy}
    (hground : policy.groundTimeSource ≠ []) (phase : ClockPhase) :
    (evaluateSnapshot snapshot policy phase).state.clockOk = true ↔
      OtherChecksPass snapshot policy ∧
        ∃ name ∈ candidateNames snapshot, Related name policy.groundTimeSource := by
  simp only [evaluateSnapshot, Bool.and_eq_true, Bool.or_eq_true, decide_eq_true_eq,
    beq_iff_eq, sourceMatches_iff hground, OtherChecksPass, candidateNames, List.mem_cons,
    List.not_mem_nil, or_false, exists_eq_or_imp, exists_eq_left]
  tauto

/-- Sources parse as usable only with a selected source. -/
theorem parseSources_ok {s : Str} (h : (parseSources s).ok = true) :
    (parseSources s).selectedSource ≠ [] := by
  unfold parseSources at h ⊢
  by_cases hsel : ((getlines s).foldl parseSourcesLine {}).selectedSource = []
  · simp [hsel] at h
  · simp [hsel]

variable (D) in
def parsedSnapshot (tracking sources : Str) : ClockMonitorSnapshot D :=
  ⟨parseTracking D tracking, parseSources sources⟩

variable (D) in
/-- An open gate has a name to show for it: one of the parsed names is not
empty and matches the ground station. -/
def OpensOnlyForGround (tracking sources : Str) (policy : ClockPolicy)
    (phase : ClockPhase) : Prop :=
  (evaluateSnapshot (parsedSnapshot D tracking sources) policy phase).state.clockOk = true →
    ∃ name ∈ candidateNames (parsedSnapshot D tracking sources),
      name ≠ [] ∧ Related name policy.groundTimeSource

variable (D) in
/-- Chrony reports its reference with an empty name or identifier, passes every
other check, and calls its source nothing like the ground station. -/
def UnnamedForeignReference (tracking sources : Str) (policy : ClockPolicy) : Prop :=
  OtherChecksPass (parsedSnapshot D tracking sources) policy ∧
    ((parseTracking D tracking).referenceName = [] ∨
      (parseTracking D tracking).referenceId = []) ∧
      ∀ name ∈ candidateNames (parsedSnapshot D tracking sources),
        name ≠ [] → ¬Related name policy.groundTimeSource

/-- The gate is sound on exactly the inputs that are no unnamed foreign reference. -/
theorem opensOnlyForGround_iff (tracking sources : Str) (policy : ClockPolicy)
    (phase : ClockPhase) (hground : policy.groundTimeSource ≠ []) :
    OpensOnlyForGround D tracking sources policy phase ↔
      ¬UnnamedForeignReference D tracking sources policy := by
  have hopen := clockOk_iff (parsedSnapshot D tracking sources) hground phase
  constructor
  · rintro hsound ⟨hchecks, hempty, hforeign⟩
    have hnil : [] ∈ candidateNames (parsedSnapshot D tracking sources) := by
      rcases hempty with h | h <;> simp [candidateNames, parsedSnapshot, h]
    obtain ⟨name, hname, hne, hrel⟩ := hsound (hopen.mpr ⟨hchecks, [], hnil, related_nil _⟩)
    exact hforeign name hname hne hrel
  · intro hnot hok
    obtain ⟨hchecks, name, hname, hrel⟩ := hopen.mp hok
    by_contra hnone
    apply hnot
    refine ⟨hchecks, ?_, fun n hn hne hr ↦ hnone ⟨n, hn, hne, hr⟩⟩
    -- The name that matched is empty, and the selected source is not.
    have hnil : name = [] := by
      by_contra hne
      exact hnone ⟨name, hname, hne, hrel⟩
    subst hnil
    have hsel : (parseSources sources).selectedSource ≠ [] := parseSources_ok hchecks.2.1
    simp only [candidateNames, parsedSnapshot, List.mem_cons, List.not_mem_nil, or_false] at hname
    rcases hname with h | h | h
    · exact absurd h.symm hsel
    · exact Or.inl h.symm
    · exact Or.inr h.symm

def groundPolicy : ClockPolicy := { groundTimeSource := text "192.168.10.10" }

def groundReference : Str :=
  text "Reference ID    : C0A80A0A (192.168.10.10)\n" ++
    text "System time     : 0.001500000 seconds slow of NTP time\n" ++
    text "Root delay      : 0.000200000 seconds\n" ++
    text "Root dispersion : 0.000100000 seconds\n" ++
    text "Leap status     : Normal\n"

def groundSource : Str :=
  text "^* 192.168.10.10 1 6 377 12 +1500us[+1500us] +/- 500us\n"

theorem groundReference_opens_gate :
    (evaluateSnapshot (parsedSnapshot ℚ groundReference groundSource)
        groundPolicy .preflight).state.clockOk = true ∧
      OpensOnlyForGround ℚ groundReference groundSource groundPolicy .preflight := by
  refine ⟨by decide +kernel, ?_⟩
  rw [opensOnlyForGround_iff _ _ _ _ (by decide)]
  rintro ⟨-, hempty, -⟩
  have hnamed : (parseTracking ℚ groundReference).referenceName ≠ [] ∧
      (parseTracking ℚ groundReference).referenceId ≠ [] := by decide +kernel
  exact hempty.elim hnamed.1 hnamed.2

/-! When chronyd serves its own clock it prints a pair of parentheses with
nothing in between. -/

def localReference : Str :=
  text "Reference ID    : 7F7F0101 ()\n" ++
    text "System time     : 0.000100000 seconds fast of NTP time\n" ++
    text "Root delay      : 0.000200000 seconds\n" ++
    text "Root dispersion : 0.000100000 seconds\n" ++
    text "Leap status     : Normal\n"

def foreignSource : Str :=
  text "^* time.google.com 1 6 377 12 +100us[ +100us] +/- 500us\n"

theorem localReference_opens_gate :
    groundPolicy.groundTimeSource ≠ [] ∧
      ¬OpensOnlyForGround ℚ localReference foreignSource groundPolicy .preflight := by
  refine ⟨by decide, fun hsound ↦ ?_⟩
  have hok : (evaluateSnapshot (parsedSnapshot ℚ localReference foreignSource)
      groundPolicy .preflight).state.clockOk = true := by decide +kernel
  obtain ⟨name, hname, hne, hrel⟩ := hsound hok
  have hforeign : ∀ name ∈ candidateNames (parsedSnapshot ℚ localReference foreignSource),
      name ≠ [] → ¬Related name groundPolicy.groundTimeSource := by decide +kernel
  exact hforeign name hname hne hrel

end RuntimeSync.ClockMonitor
