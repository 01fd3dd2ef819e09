import RuntimeSync.Library.Machine

/-!
# Refinement

A machine refines another one with idle steps when a relation ties their states
together, each input that the other one knows shows the same in both, and every
other input shows nothing and is not noticed by the other one.

A machine drives another one when each of its steps is a step of the other one,
on an input that it makes from its own state and input.
-/

namespace RuntimeSync.Machine

variable {σ τ ι κ ο π β : Type*}

structure Refines (step : σ → ι → σ × ο) (step' : τ → κ → τ × π) (translate : ι → Option κ)
    (shows : ο → List β) (shows' : π → List β) (R : σ → τ → Prop) : Prop where
  known : ∀ s t i k, translate i = some k → R s t →
    shows (step s i).2 = shows' (step' t k).2 ∧ R (step s i).1 (step' t k).1
  idle : ∀ s t i, translate i = none → R s t → shows (step s i).2 = [] ∧ R (step s i).1 t

variable {step : σ → ι → σ × ο} {step' : τ → κ → τ × π} {translate : ι → Option κ}
  {shows : ο → List β} {shows' : π → List β} {R : σ → τ → Prop}

/-- The runs of a refinement show what the runs of the other machine show. -/
theorem Refines.run (h : Refines step step' translate shows shows' R) {s : σ} {t : τ}
    (hR : R s t) (is : List ι) :
    (trace step s is).flatMap (fun e ↦ shows e.output) =
        (trace step' t (is.filterMap translate)).flatMap (fun e ↦ shows' e.output) ∧
      R (Machine.run step s is) (Machine.run step' t (is.filterMap translate)) := by
  induction is generalizing s t with
  | nil => exact ⟨rfl, hR⟩
  | cons i is ih =>
      cases hi : translate i with
      | none =>
          obtain ⟨hshows, hnext⟩ := h.idle s t i hi hR
          obtain ⟨htraces, hrun⟩ := ih hnext
          rw [List.filterMap_cons_none hi, trace_cons, List.flatMap_cons, hshows, run_cons]
          exact ⟨htraces, hrun⟩
      | some k =>
          obtain ⟨hshows, hnext⟩ := h.known s t i k hi hR
          obtain ⟨htraces, hrun⟩ := ih hnext
          rw [List.filterMap_cons_some hi, trace_cons, trace_cons, List.flatMap_cons,
            List.flatMap_cons, run_cons, run_cons, hshows, htraces]
          exact ⟨rfl, hrun⟩

/-! ## Driven machines -/

structure Drives (step : σ → ι → σ × ο) (step' : τ → κ → τ × ο) (view : σ → τ)
    (translate : σ → ι → κ) : Prop where
  state : ∀ s i, view (step s i).1 = (step' (view s) (translate s i)).1
  output : ∀ s i, (step s i).2 = (step' (view s) (translate s i)).2

/-- The inputs of the driven machine. -/
def driven (step : σ → ι → σ × ο) (translate : σ → ι → κ) (s : σ) (is : List ι) : List κ :=
  (trace step s is).map fun e ↦ translate e.state e.input

variable {step' : τ → κ → τ × ο} {view : σ → τ} {translate : σ → ι → κ}

/-- The record of the driven machine, line by line. -/
theorem Drives.map_trace (h : Drives step step' view translate) (s : σ) (is : List ι) :
    (trace step s is).map (fun e ↦
        (⟨view e.state, translate e.state e.input, e.output⟩ : Entry τ κ ο)) =
      trace step' (view s) (driven step translate s is) := by
  induction is generalizing s with
  | nil => rfl
  | cons i is ih =>
      have hrest := ih (step s i).1
      rw [h.state] at hrest
      rw [trace_cons, List.map_cons, hrest, h.output]
      rfl

/-- What is true of every step of every run of the driven machine is true of
the steps that drive it. -/
theorem Drives.transfer (h : Drives step step' view translate) {P : Entry τ κ ο → Prop} {s : σ}
    (hP : ∀ ks, ∀ e ∈ trace step' (view s) ks, P e) (is : List ι) :
    ∀ e ∈ trace step s is, P ⟨view e.state, translate e.state e.input, e.output⟩ := by
  intro e he
  apply hP (driven step translate s is)
  rw [← h.map_trace]
  exact List.mem_map_of_mem he

end RuntimeSync.Machine
