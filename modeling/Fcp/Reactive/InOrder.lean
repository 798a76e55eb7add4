import Mathlib.Data.List.Infix
import Fcp.Reactive.Network

/-!
# In-order delivery

Outputs of a machine may carry messages, and inputs may deliver them.  When
every delivered message is the next one that the peer has emitted, the messages
taken by a machine are always a prefix of those emitted by its peer.
-/

namespace Fcp
namespace Reactive
namespace Network

variable {ν σ ι ο μ : Type} [DecidableEq ν]

/-- The messages that a machine has emitted, oldest first. -/
def emitted
    (emits : ο → List μ)
    (network : Network ν σ ι ο)
    (node : ν) : List μ :=
  (network.history node).flatMap fun exchange => emits exchange.2

/-- The messages that a machine has taken, oldest first. -/
def taken
    (takes? : ι → Option μ)
    (network : Network ν σ ι ο)
    (node : ν) : List μ :=
  (network.history node).filterMap fun exchange => takes? exchange.1

/-- A delivered message is the next one that the peer has emitted. -/
def InOrder
    (emits : ο → List μ)
    (takes? : ι → Option μ)
    (peer : ν → ν)
    (network : Network ν σ ι ο)
    (node : ν)
    (input : ι) : Prop :=
  ∀ message, takes? input = some message →
    network.taken takes? node ++ [message] <+:
      network.emitted emits (peer node)

variable {step : σ → ι → ο × σ}
variable {emits : ο → List μ}
variable {takes? : ι → Option μ}
variable {peer : ν → ν}

theorem history_advance_self
    (network : Network ν σ ι ο)
    (node : ν)
    (input : ι) :
    (network.advance step node input).history node =
      network.history node ++
        [(input, (step (network.states node) input).1)] :=
  congrArg Session.history (session_advance_self step network node input)

theorem history_advance_of_ne
    (network : Network ν σ ι ο)
    {node other : ν}
    (different : other ≠ node)
    (input : ι) :
    (network.advance step node input).history other =
      network.history other :=
  congrArg Session.history (session_advance_of_ne step network different input)

/-- An exchange extends the history of every machine by nothing or by itself. -/
theorem history_prefix_advance
    (step : σ → ι → ο × σ)
    (network : Network ν σ ι ο)
    (node other : ν)
    (input : ι) :
    network.history other <+:
      (network.advance step node input).history other := by
  by_cases same : other = node
  · subst same
    rw [history_advance_self]
    exact List.prefix_append _ _
  · rw [history_advance_of_ne network same]

theorem emitted_prefix_advance
    (step : σ → ι → ο × σ)
    (network : Network ν σ ι ο)
    (node other : ν)
    (input : ι) :
    network.emitted emits other <+:
      (network.advance step node input).emitted emits other := by
  obtain ⟨more, history_eq⟩ :=
    history_prefix_advance step network node other input
  rw [emitted, emitted, ← history_eq, List.flatMap_append]
  exact List.prefix_append _ _

theorem taken_advance_self
    (network : Network ν σ ι ο)
    (node : ν)
    (input : ι) :
    (network.advance step node input).taken takes? node =
      network.taken takes? node ++ (takes? input).toList := by
  rw [taken, history_advance_self, List.filterMap_append, taken]
  cases found : takes? input <;> simp [found]

theorem taken_advance_of_ne
    (network : Network ν σ ι ο)
    {node other : ν}
    (different : other ≠ node)
    (input : ι) :
    (network.advance step node input).taken takes? other =
      network.taken takes? other := by
  rw [taken, history_advance_of_ne network different, taken]

/-- Nothing is taken that was not emitted, and nothing is skipped. -/
theorem Reachable.taken_prefix_emitted
    {permitted : Network ν σ ι ο → ν → ι → Prop}
    {initial : ν → σ}
    {network : Network ν σ ι ο}
    (ordered : ∀ {network : Network ν σ ι ο} {node input},
      permitted network node input →
        network.InOrder emits takes? peer node input)
    (reachable : Reachable step permitted initial network)
    (node : ν) :
    network.taken takes? node <+: network.emitted emits (peer node) := by
  induction reachable with
  | start => exact List.nil_prefix
  | @advance network reachable active input allowed inductionHypothesis =>
      refine List.IsPrefix.trans ?_
        (emitted_prefix_advance step network active (peer node) input)
      by_cases same : node = active
      · subst same
        rw [taken_advance_self]
        cases takes : takes? input with
        | none => simpa using inductionHypothesis
        | some message => exact ordered allowed message takes
      · rw [taken_advance_of_ne network same]
        exact inductionHypothesis

end Network
end Reactive
end Fcp
