import Mathlib.Data.List.Induction
import Mathlib.Data.List.Pairwise

/-!
# Deterministic machines with outputs

A machine is a step function: a state and an input give a state and an
output.  A run over a list of inputs is recorded line by line, so that a
property of every step of every run can be stated on the record.  The two
induction rules of this file are the only inductions over runs that a
development on top of it needs.
-/

namespace RuntimeSync.Machine

variable {σ ι ο β : Type*}

/-- One line of the record of a run. -/
structure Entry (σ ι ο : Type*) where
  /-- The state the step started from. -/
  state : σ
  input : ι
  output : ο
  deriving DecidableEq

def run (step : σ → ι → σ × ο) : σ → List ι → σ
  | s, [] => s
  | s, i :: is => run step (step s i).1 is

def trace (step : σ → ι → σ × ο) : σ → List ι → List (Entry σ ι ο)
  | _, [] => []
  | s, i :: is => ⟨s, i, (step s i).2⟩ :: trace step (step s i).1 is

/-- The values of a run that the projection `f` finds in its outputs, in order. -/
def emitted (f : ο → Option β) (step : σ → ι → σ × ο) (s : σ) (is : List ι) : List β :=
  (trace step s is).filterMap fun e ↦ f e.output

/-- The values of a run that the projection `f` finds in its inputs and outputs, in order. -/
def observed (f : ι → ο → Option β) (step : σ → ι → σ × ο) (s : σ) (is : List ι) : List β :=
  (trace step s is).filterMap fun e ↦ f e.input e.output

variable (step : σ → ι → σ × ο)

@[simp] theorem run_nil (s : σ) : run step s [] = s := rfl

@[simp] theorem run_cons (s : σ) (i : ι) (is : List ι) :
    run step s (i :: is) = run step (step s i).1 is := rfl

@[simp] theorem trace_nil (s : σ) : trace step s [] = [] := rfl

@[simp] theorem trace_cons (s : σ) (i : ι) (is : List ι) :
    trace step s (i :: is) = ⟨s, i, (step s i).2⟩ :: trace step (step s i).1 is := rfl

theorem run_append (s : σ) (is js : List ι) :
    run step s (is ++ js) = run step (run step s is) js := by
  induction is generalizing s with
  | nil => rfl
  | cons i is ih => exact ih (step s i).1

theorem trace_append (s : σ) (is js : List ι) :
    trace step s (is ++ js) = trace step s is ++ trace step (run step s is) js := by
  induction is generalizing s with
  | nil => rfl
  | cons i is ih => simp [ih]

@[simp] theorem emitted_nil (f : ο → Option β) (s : σ) : emitted f step s [] = [] := rfl

theorem emitted_cons_some {f : ο → Option β} {s : σ} {i : ι} {b : β}
    (h : f (step s i).2 = some b) (is : List ι) :
    emitted f step s (i :: is) = b :: emitted f step (step s i).1 is := by
  simp [emitted, h]

theorem emitted_cons_none {f : ο → Option β} {s : σ} {i : ι}
    (h : f (step s i).2 = none) (is : List ι) :
    emitted f step s (i :: is) = emitted f step (step s i).1 is := by
  simp [emitted, h]

theorem emitted_cons (f : ο → Option β) (s : σ) (i : ι) (is : List ι) :
    emitted f step s (i :: is) =
      (f (step s i).2).toList ++ emitted f step (step s i).1 is := by
  cases h : f (step s i).2 with
  | none => exact emitted_cons_none step h is
  | some b => exact emitted_cons_some step h is

@[simp] theorem observed_nil (f : ι → ο → Option β) (s : σ) : observed f step s [] = [] := rfl

theorem observed_cons (f : ι → ο → Option β) (s : σ) (i : ι) (is : List ι) :
    observed f step s (i :: is) =
      (f i (step s i).2).toList ++ observed f step (step s i).1 is := by
  cases h : f i (step s i).2 <;> simp [observed, h]

theorem run_concat (s : σ) (is : List ι) (i : ι) :
    run step s (is ++ [i]) = (step (run step s is) i).1 :=
  run_append step s is [i]

theorem trace_concat (s : σ) (is : List ι) (i : ι) :
    trace step s (is ++ [i]) =
      trace step s is ++ [⟨run step s is, i, (step (run step s is) i).2⟩] :=
  trace_append step s is [i]

theorem observed_concat (f : ι → ο → Option β) (s : σ) (is : List ι) (i : ι) :
    observed f step s (is ++ [i]) =
      observed f step s is ++ (f i (step (run step s is) i).2).toList := by
  induction is generalizing s with
  | nil => simp [observed_cons]
  | cons j is ih => rw [List.cons_append, observed_cons, observed_cons, ih, List.append_assoc]; rfl

/-- A line of the record splits the inputs at the step it records. -/
theorem mem_trace {s : σ} {is : List ι} {e : Entry σ ι ο} (he : e ∈ trace step s is) :
    ∃ pre post, is = pre ++ e.input :: post ∧ e.state = run step s pre ∧
      e.output = (step e.state e.input).2 := by
  induction is generalizing s with
  | nil => simp at he
  | cons i is ih =>
      rcases List.mem_cons.mp he with rfl | he
      · exact ⟨[], is, rfl, rfl, rfl⟩
      · obtain ⟨pre, post, rfl, hstate, hout⟩ := ih he
        exact ⟨i :: pre, post, rfl, hstate, hout⟩

/-- And every split of the inputs is a line of the record. -/
theorem mem_trace_of_split (s : σ) (pre : List ι) (i : ι) (post : List ι) :
    (⟨run step s pre, i, (step (run step s pre) i).2⟩ : Entry σ ι ο) ∈
      trace step s (pre ++ i :: post) := by
  rw [trace_append]
  exact List.mem_append_right _ List.mem_cons_self

theorem trace_input_mem {s : σ} {is : List ι} {e : Entry σ ι ο} (he : e ∈ trace step s is) :
    e.input ∈ is := by
  obtain ⟨pre, post, rfl, -, -⟩ := mem_trace step he
  simp

theorem map_input_trace (s : σ) (is : List ι) : (trace step s is).map Entry.input = is := by
  induction is generalizing s with
  | nil => rfl
  | cons i is ih => rw [trace_cons, List.map_cons, ih]

theorem countP_input_trace (p : ι → Bool) (s : σ) (is : List ι) :
    ((trace step s is).countP fun e ↦ p e.input) = is.countP p := by
  conv_rhs => rw [← map_input_trace step s is]
  rw [List.countP_map]
  rfl

section Invariants

variable {step} {I : σ → Prop} {G : σ → ι → Prop}

/-- The invariant rule: what every guarded step preserves holds at every
line of a run whose steps all satisfy the guard. -/
theorem invariant_trace (hstep : ∀ s i, I s → G s i → I (step s i).1)
    {s : σ} (hs : I s) {is : List ι} (hG : ∀ e ∈ trace step s is, G e.state e.input) :
    (∀ e ∈ trace step s is, I e.state) ∧ I (run step s is) := by
  induction is generalizing s with
  | nil => exact ⟨by simp, hs⟩
  | cons i is ih =>
      have hnext : I (step s i).1 := hstep s i hs (hG ⟨s, i, (step s i).2⟩ (by simp))
      obtain ⟨htrace, hrun⟩ := ih hnext fun e he ↦ hG e (by simp [he])
      refine ⟨?_, hrun⟩
      intro e he
      rcases List.mem_cons.mp he with rfl | he
      · exact hs
      · exact htrace e he

/-- The invariant rule without a guard. -/
theorem invariant_run (hstep : ∀ s i, I s → I (step s i).1) {s : σ} (hs : I s) (is : List ι) :
    I (run step s is) :=
  (invariant_trace (G := fun _ _ ↦ True) (fun s i h _ ↦ hstep s i h) hs fun _ _ ↦ trivial).2

/-- The history rule: a relation between a state and what was observed up to
it, which a step keeps exactly when the guard holds, is true at every point of
a run exactly when the guard holds of every step of that run. -/
theorem history_iff {f : ι → ο → Option β} {R : σ → List β → Prop}
    (hstep : ∀ s seen i, R s seen →
      (R (step s i).1 (seen ++ (f i (step s i).2).toList) ↔ G s i))
    {s : σ} {seen : List β} (hs : R s seen) (is : List ι) :
    (∀ pre, pre <+: is → R (run step s pre) (seen ++ observed f step s pre)) ↔
      ∀ e ∈ trace step s is, G e.state e.input := by
  induction is generalizing s seen with
  | nil => simp [hs]
  | cons i is ih =>
      constructor
      · intro hall
        have hnext : R (step s i).1 (seen ++ (f i (step s i).2).toList) := by
          simpa [observed_cons] using hall [i] ⟨is, rfl⟩
        have hrest : ∀ pre, pre <+: is → R (run step (step s i).1 pre)
            (seen ++ (f i (step s i).2).toList ++ observed f step (step s i).1 pre) := by
          intro pre hpre
          have := hall (i :: pre) (List.cons_prefix_cons.mpr ⟨rfl, hpre⟩)
          rwa [observed_cons, ← List.append_assoc] at this
        intro e he
        rcases List.mem_cons.mp he with rfl | he
        · exact (hstep s seen i hs).mp hnext
        · exact (ih hnext).mp hrest e he
      · intro hG pre hpre
        have hnext := (hstep s seen i hs).mpr (hG ⟨s, i, (step s i).2⟩ (by simp))
        cases pre with
        | nil => simpa using hs
        | cons j pre =>
            obtain ⟨rfl, htail⟩ := List.cons_prefix_cons.mp hpre
            have hrest := (ih hnext).mpr (fun e he ↦ hG e (by simp [he])) pre htail
            rwa [List.append_assoc, ← observed_cons] at hrest

/-- The history rule for a relation that every step keeps. -/
theorem history_run {f : ι → ο → Option β} {R : σ → List β → Prop}
    (hstep : ∀ s seen i, R s seen → R (step s i).1 (seen ++ (f i (step s i).2).toList))
    {s : σ} (hs : R s []) (is : List ι) : R (run step s is) (observed f step s is) := by
  have hiff : ∀ s seen i, R s seen →
      (R (step s i).1 (seen ++ (f i (step s i).2).toList) ↔ True) := fun s seen i h ↦
    iff_true_intro (hstep s seen i h)
  exact (history_iff (G := fun _ _ ↦ True) hiff hs is).mpr (fun _ _ ↦ trivial) is List.prefix_rfl

/-- The record rule: what holds of the initial state with an empty record, and
is kept when a step adds its line, is true of every run and its record. -/
theorem trace_run {R : σ → List (Entry σ ι ο) → Prop}
    (hstep : ∀ s seen i, R s seen → R (step s i).1 (seen ++ [⟨s, i, (step s i).2⟩]))
    {s : σ} (hs : R s []) (is : List ι) : R (run step s is) (trace step s is) := by
  induction is using List.reverseRecOn with
  | nil => exact hs
  | append_singleton is i ih =>
      rw [run_concat, trace_append]
      exact hstep _ _ i ih

/-- The unwinding rule.  `R` relates two runs of which the second sees only the
inputs that `visible` selects: a visible input gives both the same output, and
an input that is not visible changes nothing the second run depends on.  What
is enough for that may depend on the inputs that are still to come. -/
theorem unwinding_ahead {R : List ι → σ → σ → Prop} {visible : ι → Prop} [DecidablePred visible]
    (hvisible : ∀ s t i is, visible i → R (i :: is) s t →
      (step s i).2 = (step t i).2 ∧ R is (step s i).1 (step t i).1)
    (hhidden : ∀ s t i is, ¬visible i → R (i :: is) s t → R is (step s i).1 t)
    {s t : σ} {is : List ι} (h : R is s t) :
    ((trace step s is).filter fun e ↦ visible e.input).map Entry.output =
        (trace step t (is.filter fun i ↦ visible i)).map Entry.output ∧
      R [] (run step s is) (run step t (is.filter fun i ↦ visible i)) := by
  induction is generalizing s t with
  | nil => exact ⟨rfl, h⟩
  | cons i is ih =>
      by_cases hi : visible i
      · obtain ⟨hout, hnext⟩ := hvisible s t i is hi h
        obtain ⟨houts, hrun⟩ := ih hnext
        simp only [trace_cons, List.filter_cons, hi, decide_true, if_true, List.map_cons, hout,
          houts, run_cons]
        exact ⟨trivial, hrun⟩
      · obtain ⟨houts, hrun⟩ := ih (hhidden s t i is hi h)
        simp only [trace_cons, List.filter_cons, hi, decide_false, Bool.false_eq_true, if_false,
          houts, run_cons]
        exact ⟨trivial, hrun⟩

/-- The unwinding rule for a relation that does not look ahead. -/
theorem unwinding {Agree : σ → σ → Prop} {visible : ι → Prop} [DecidablePred visible]
    (hvisible : ∀ s t i, visible i → Agree s t →
      (step s i).2 = (step t i).2 ∧ Agree (step s i).1 (step t i).1)
    (hhidden : ∀ s t i, ¬visible i → Agree s t → Agree (step s i).1 t)
    {s t : σ} (h : Agree s t) (is : List ι) :
    ((trace step s is).filter fun e ↦ visible e.input).map Entry.output =
        (trace step t (is.filter fun i ↦ visible i)).map Entry.output ∧
      Agree (run step s is) (run step t (is.filter fun i ↦ visible i)) :=
  unwinding_ahead (R := fun _ ↦ Agree) (fun s t i _ ↦ hvisible s t i)
    (fun s t i _ ↦ hhidden s t i) h

/-- The order rule for emitted values.  `Above s b` says that `b` may still
be emitted from `s`; every step keeps these sets shrinking, and a value that
is emitted comes before everything that may follow it. -/
theorem emitted_pairwise {f : ο → Option β} {r : β → β → Prop} (Above : σ → β → Prop)
    (hstep : ∀ s i, I s → G s i → I (step s i).1)
    (hshrink : ∀ s i b, I s → G s i → Above (step s i).1 b → Above s b)
    (hemit : ∀ s i b, I s → G s i → f (step s i).2 = some b →
      Above s b ∧ ∀ b', Above (step s i).1 b' → r b b')
    {s : σ} (hs : I s) {is : List ι} (hG : ∀ e ∈ trace step s is, G e.state e.input) :
    (emitted f step s is).Pairwise r ∧ ∀ b ∈ emitted f step s is, Above s b := by
  induction is generalizing s with
  | nil => simp
  | cons i is ih =>
      have hGi : G s i := hG ⟨s, i, (step s i).2⟩ (by simp)
      obtain ⟨hpair, habove⟩ := ih (hstep s i hs hGi) fun e he ↦ hG e (by simp [he])
      have hrest : ∀ b ∈ emitted f step (step s i).1 is, Above s b := fun b hb ↦
        hshrink s i b hs hGi (habove b hb)
      cases hout : f (step s i).2 with
      | none =>
          rw [emitted_cons_none step hout]
          exact ⟨hpair, hrest⟩
      | some b =>
          rw [emitted_cons_some step hout]
          obtain ⟨hb, hfirst⟩ := hemit s i b hs hGi hout
          refine ⟨List.pairwise_cons.mpr ⟨fun b' hb' ↦ hfirst b' (habove b' hb'), hpair⟩, ?_⟩
          intro b' hb'
          rcases List.mem_cons.mp hb' with rfl | hb'
          · exact hb
          · exact hrest b' hb'

end Invariants

end RuntimeSync.Machine
