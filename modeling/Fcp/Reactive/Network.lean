import Mathlib.Logic.Function.Basic
import Fcp.Reactive.Session

/-!
# Networks of reactive machines

A family of machines whose exchanges interleave in any order.  One log records
every exchange, oldest first, and a guard decides from the network which inputs
may reach which machine.
-/

namespace Fcp
namespace Reactive

variable {ν σ ι ο : Type}

/-- The states of all machines and the log of their exchanges. -/
structure Network (ν σ ι ο : Type) where
  states : ν → σ
  log : List (ν × ι × ο)

namespace Network

/-- The network before any exchange. -/
def start (initial : ν → σ) : Network ν σ ι ο :=
  ⟨initial, []⟩

variable [DecidableEq ν]

/-- One machine answers one input. -/
def advance
    (step : σ → ι → ο × σ)
    (network : Network ν σ ι ο)
    (node : ν)
    (input : ι) : Network ν σ ι ο where
  states := Function.update network.states node
    (step (network.states node) input).2
  log := network.log ++
    [(node, input, (step (network.states node) input).1)]

/-- The exchanges of one machine. -/
def history (network : Network ν σ ι ο) (node : ν) : List (ι × ο) :=
  network.log.filterMap fun entry =>
    if entry.1 = node then some entry.2 else none

/-- The session of one machine. -/
def session (network : Network ν σ ι ο) (node : ν) : Session σ ι ο :=
  ⟨network.states node, network.history node⟩

theorem mem_history_iff
    {network : Network ν σ ι ο}
    {node : ν}
    {exchange : ι × ο} :
    exchange ∈ network.history node ↔ (node, exchange) ∈ network.log := by
  simp [history, Prod.ext_iff]

theorem session_advance_self
    (step : σ → ι → ο × σ)
    (network : Network ν σ ι ο)
    (node : ν)
    (input : ι) :
    (network.advance step node input).session node =
      (network.session node).advance step input := by
  simp [session, advance, history, Session.advance]

theorem session_advance_of_ne
    (step : σ → ι → ο × σ)
    (network : Network ν σ ι ο)
    {node other : ν}
    (different : other ≠ node)
    (input : ι) :
    (network.advance step node input).session other =
      network.session other := by
  simp [session, advance, history, different, different.symm]

theorem states_advance_self
    (step : σ → ι → ο × σ)
    (network : Network ν σ ι ο)
    (node : ν)
    (input : ι) :
    (network.advance step node input).states node =
      (step (network.states node) input).2 :=
  congrArg Session.state (session_advance_self step network node input)

theorem states_advance_of_ne
    (step : σ → ι → ο × σ)
    (network : Network ν σ ι ο)
    {node other : ν}
    (different : other ≠ node)
    (input : ι) :
    (network.advance step node input).states other = network.states other :=
  congrArg Session.state (session_advance_of_ne step network different input)

/-- The networks that exchanges allowed by a guard can lead to. -/
inductive Reachable
    (step : σ → ι → ο × σ)
    (permitted : Network ν σ ι ο → ν → ι → Prop)
    (initial : ν → σ) : Network ν σ ι ο → Prop
  | start : Reachable step permitted initial (.start initial)
  | advance
      {network : Network ν σ ι ο}
      (reachable : Reachable step permitted initial network)
      (node : ν)
      (input : ι)
      (allowed : permitted network node input) :
      Reachable step permitted initial (network.advance step node input)

namespace Reachable

variable {step : σ → ι → ο × σ}
variable {permitted : Network ν σ ι ο → ν → ι → Prop}
variable {initial : ν → σ}
variable {network : Network ν σ ι ο}

/-- Every machine of a reachable network has run on its own inputs. -/
theorem exists_session_eq_run
    (reachable : Reachable step permitted initial network)
    (node : ν) :
    ∃ inputs, network.session node =
      Session.run step (.start (initial node)) inputs := by
  induction reachable with
  | start => exact ⟨[], rfl⟩
  | @advance network _ active input _ inductionHypothesis =>
      obtain ⟨inputs, session_eq⟩ := inductionHypothesis
      by_cases same : node = active
      · subst same
        refine ⟨inputs ++ [input], ?_⟩
        rw [session_advance_self, session_eq, Session.run_concat]
      · refine ⟨inputs, ?_⟩
        rw [session_advance_of_ne step network same, session_eq]

/-- Every logged exchange was made by a reachable network whose log ends just
before it. -/
theorem exists_before
    (reachable : Reachable step permitted initial network)
    {earlier later : List (ν × ι × ο)}
    {node : ν}
    {input : ι}
    {output : ο}
    (log_eq : network.log = earlier ++ (node, input, output) :: later) :
    ∃ before : Network ν σ ι ο,
      Reachable step permitted initial before ∧
        before.log = earlier ∧
        permitted before node input ∧
        output = (step (before.states node) input).1 := by
  induction reachable generalizing later with
  | start => simp [Network.start] at log_eq
  | @advance network reachable active received allowed inductionHypothesis =>
      cases later using List.reverseRecOn with
      | nil =>
          obtain ⟨rfl, entry_eq⟩ := List.append_inj' log_eq rfl
          simp only [List.cons.injEq, Prod.mk.injEq, and_true] at entry_eq
          obtain ⟨rfl, rfl, rfl⟩ := entry_eq
          exact ⟨network, reachable, rfl, allowed, rfl⟩
      | append_singleton later last =>
          rw [← List.cons_append, ← List.append_assoc] at log_eq
          exact inductionHypothesis (List.append_inj' log_eq rfl).1

end Reachable

end Network

end Reactive
end Fcp
