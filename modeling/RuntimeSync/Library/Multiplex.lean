import RuntimeSync.Library.Machine

/-!
# Families of machines

Many machines of one kind, of which each input drives the one that its key
names.  Seen from one key, the family is a single machine that gets the inputs
with that key and no others.
-/

namespace RuntimeSync.Machine

variable {σ τ ι ο κ : Type*}

/-- The line with another view of the state. -/
def Entry.mapState (f : τ → σ) (e : Entry τ ι ο) : Entry σ ι ο := ⟨f e.state, e.input, e.output⟩

/-- `member` looks up a machine of the family. -/
structure Family (family : τ → ι → τ × ο) (single : σ → ι → σ × ο) (key : ι → κ)
    (member : τ → κ → σ) : Prop where
  output : ∀ t i, (family t i).2 = (single (member t (key i)) i).2
  driven : ∀ t i, member (family t i).1 (key i) = (single (member t (key i)) i).1
  others : ∀ t i k, key i ≠ k → member (family t i).1 k = member t k

namespace Family

variable [DecidableEq κ] {family : τ → ι → τ × ο} {single : σ → ι → σ × ο} {key : ι → κ}
  {member : τ → κ → σ}

/-- The isolation rule: what a run of the family records under a key is the
run of one machine on the inputs with that key. -/
theorem trace_filter (h : Family family single key member) (t : τ) (is : List ι) (k : κ) :
    ((trace family t is).filter fun e ↦ key e.input = k).map (Entry.mapState (member · k)) =
        trace single (member t k) (is.filter fun i ↦ key i = k) ∧
      member (run family t is) k = run single (member t k) (is.filter fun i ↦ key i = k) := by
  induction is generalizing t with
  | nil => exact ⟨rfl, rfl⟩
  | cons i is ih =>
      obtain ⟨htrace, hrun⟩ := ih (family t i).1
      by_cases hi : key i = k
      · subst hi
        rw [h.driven] at htrace hrun
        simp only [trace_cons, List.filter_cons, decide_true, if_true, List.map_cons, htrace,
          run_cons, hrun, Entry.mapState, h.output]
        exact ⟨trivial, trivial⟩
      · rw [h.others t i k hi] at htrace hrun
        simp only [trace_cons, List.filter_cons, hi, decide_false, Bool.false_eq_true, if_false,
          htrace, run_cons, hrun]
        exact ⟨trivial, trivial⟩

/-- The outputs alone. -/
theorem outputs_filter (h : Family family single key member) (t : τ) (is : List ι) (k : κ) :
    ((trace family t is).filter fun e ↦ key e.input = k).map Entry.output =
      (trace single (member t k) (is.filter fun i ↦ key i = k)).map Entry.output := by
  rw [← (h.trace_filter t is k).1, List.map_map]
  rfl

end Family

end RuntimeSync.Machine
