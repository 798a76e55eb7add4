import Mathlib.Data.List.Induction

/-!
# Sessions of a reactive machine

A machine answers every input with an output and a new state.  A session keeps
the state together with the exchanges that led to it, oldest first.
-/

namespace Fcp
namespace Reactive

variable {σ ι ο : Type}

/-- A state and the exchanges that led to it. -/
structure Session (σ ι ο : Type) where
  state : σ
  history : List (ι × ο)

namespace Session

/-- The session before any exchange. -/
def start (state : σ) : Session σ ι ο :=
  ⟨state, []⟩

/-- One more exchange. -/
def advance
    (step : σ → ι → ο × σ)
    (session : Session σ ι ο)
    (input : ι) : Session σ ι ο where
  state := (step session.state input).2
  history := session.history ++ [(input, (step session.state input).1)]

/-- One exchange for each input. -/
def run
    (step : σ → ι → ο × σ)
    (session : Session σ ι ο)
    (inputs : List ι) : Session σ ι ο :=
  inputs.foldl (advance step) session

variable {step : σ → ι → ο × σ}

@[simp] theorem run_nil (session : Session σ ι ο) :
    run step session [] = session := rfl

theorem run_cons
    (session : Session σ ι ο)
    (input : ι)
    (inputs : List ι) :
    run step session (input :: inputs) =
      run step (session.advance step input) inputs := rfl

theorem run_append
    (session : Session σ ι ο)
    (first second : List ι) :
    run step session (first ++ second) =
      run step (run step session first) second :=
  List.foldl_append

@[simp] theorem run_concat
    (session : Session σ ι ο)
    (inputs : List ι)
    (input : ι) :
    run step session (inputs ++ [input]) =
      (run step session inputs).advance step input :=
  run_append session inputs [input]

/-- What follows depends on the state reached and not on the exchanges that led
to it. -/
theorem run_eq (session : Session σ ι ο) (inputs : List ι) :
    run step session inputs =
      ⟨(run step (start session.state) inputs).state,
        session.history ++ (run step (start session.state) inputs).history⟩ := by
  induction inputs using List.reverseRecOn with
  | nil => rw [run_nil, run_nil, start, List.append_nil]
  | append_singleton inputs input inductionHypothesis =>
      rw [run_concat, run_concat, inductionHypothesis]
      simp only [advance, List.append_assoc]

/-- An exchange that leaves the state as it was can be left out. -/
theorem run_append_cons_of_state_eq
    {session : Session σ ι ο}
    {before after : List ι}
    {input : ι}
    (unchanged : (step (run step session before).state input).2 =
      (run step session before).state) :
    ∃ rest : Session σ ι ο,
      run step session (before ++ after) =
        ⟨rest.state, (run step session before).history ++ rest.history⟩ ∧
      run step session (before ++ input :: after) =
        ⟨rest.state, (run step session before).history ++
          (input, (step (run step session before).state input).1) ::
            rest.history⟩ := by
  refine ⟨run step (start (run step session before).state) after, ?_, ?_⟩
  · rw [run_append, run_eq]
  · rw [run_append, run_cons, run_eq]
    simp only [advance, unchanged, List.append_assoc, List.singleton_append]

/-- A property that every exchange preserves holds along every run. -/
theorem run_invariant
    {invariant : Session σ ι ο → Prop}
    (preserved : ∀ session input, invariant session →
      invariant (session.advance step input))
    {session : Session σ ι ο}
    (holds : invariant session)
    (inputs : List ι) :
    invariant (run step session inputs) := by
  induction inputs using List.reverseRecOn with
  | nil => exact holds
  | append_singleton inputs input inductionHypothesis =>
      rw [run_concat]
      exact preserved _ input inductionHypothesis

end Session

end Reactive
end Fcp
