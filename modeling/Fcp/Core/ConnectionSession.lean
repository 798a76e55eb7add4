import Fcp.Reactive.Session
import Fcp.Core.ConnectionTransition

/-!
# Sessions of a connection

Runs of one connection over any sequence of public operations, the envelopes it
emits and accepts along the way, and the facts about it that no operation can
undo.
-/

namespace Fcp
namespace Core

open Reactive

/-- What a public operation returns. -/
abbrev Outcome : Type :=
  Except Error (List Action)

/-- The envelope that an action sends. -/
def Action.sent? : Action → Option Envelope
  | .send envelope => some envelope
  | _ => none

/-- The envelopes that an operation sends. -/
def Outcome.sent : Outcome → List Envelope
  | .ok actions => actions.filterMap Action.sent?
  | .error _ => []

theorem Outcome.mem_sent_send {envelope signed : Envelope} :
    envelope ∈ Outcome.sent (.ok [.send signed]) ↔ envelope = signed :=
  List.mem_singleton

/-- The envelope that an exchange acts upon. -/
def accepted? : Operation × Outcome → Option Envelope
  | (.receive envelope, .ok (_ :: _)) => some envelope
  | _ => none

/-- The envelopes accepted along a history, in order. -/
def accepted (history : List (Operation × Outcome)) : List Envelope :=
  history.filterMap accepted?

@[simp] theorem accepted_nil : accepted [] = [] := rfl

theorem accepted_concat
    (history : List (Operation × Outcome))
    (exchange : Operation × Outcome) :
    accepted (history ++ [exchange]) =
      accepted history ++ (accepted? exchange).toList := by
  rw [accepted, List.filterMap_append, accepted]
  cases found : accepted? exchange <;> simp [found]

@[simp] theorem accepted?_error (operation : Operation) (error : Error) :
    accepted? (operation, .error error) = none := by
  cases operation <;> rfl

theorem accepted?_eq_some_iff
    {operation : Operation}
    {outcome : Outcome}
    {envelope : Envelope} :
    accepted? (operation, outcome) = some envelope ↔
      operation = .receive envelope ∧
        ∃ actions, actions ≠ [] ∧ outcome = .ok actions := by
  unfold accepted?
  split
  case h_1 received action actions found =>
    simp only [Prod.mk.injEq] at found
    obtain ⟨rfl, rfl⟩ := found
    simp
  case h_2 other =>
    simp only [reduceCtorEq, false_iff, not_and, not_exists]
    rintro rfl actions nonempty rfl
    cases actions with
    | nil => exact nonempty rfl
    | cons action actions => exact other envelope action actions rfl

namespace Phase

/-- How far an attempt has progressed. -/
def rank : Phase → Nat
  | .idle => 0
  | .offerSent | .offerReceived => 1
  | .answerSent | .answerReceived => 2
  | .established => 3
  | .closed => 4

theorem rank_le (phase : Phase) : phase.rank ≤ 4 := by
  cases phase <;> decide

theorem rank_lt_of_ne_closed {phase : Phase} (unfinished : phase ≠ .closed) :
    phase.rank < 4 := by
  cases phase <;> simp_all [rank]

end Phase

/-- The progress that an accepted envelope of a one-time kind leaves behind. -/
def Kind.progress : Kind → Nat
  | .offer => 1
  | .answer => 2
  | .close => 4
  | .candidate | .cfrControl => 0

namespace Connection

variable {primitives : Primitives}
variable {connection later : Connection}
variable {operation : Operation}
variable {actions : List Action}

/-- The tuple pinned when a connection is created. -/
def pins (connection : Connection) :
    FederationId × AttemptId × EndpointIdentity × EndpointIdentity :=
  (connection.federation, connection.attempt, connection.localEndpoint,
    connection.remoteEndpoint)

theorem Admits.of_pins_eq
    {other : Connection}
    {envelope : Envelope}
    (admitted : connection.Admits primitives envelope)
    (same : other.pins = connection.pins) :
    other.Admits primitives envelope := by
  simp only [pins, Prod.mk.injEq] at same
  obtain ⟨federation_eq, attempt_eq, local_eq, remote_eq⟩ := same
  exact ⟨admitted.federation_eq.trans federation_eq.symm,
    admitted.attempt_eq.trans attempt_eq.symm,
    admitted.sender_eq.trans remote_eq.symm,
    admitted.recipient_eq.trans local_eq.symm, admitted.verified⟩

/-! ## Frame facts of one transition -/

/-- The action with which a receiver reacts to a body. -/
def reaction (id : EnvelopeId) (sender : EndpointIdentity) : Body → Action
  | .offer binding description => .applyOffer binding description
  | .answer _ binding description => .applyAnswer binding description
  | .candidate _ sequence fragment => .addCandidate sequence fragment
  | .close reason => .closeTransport reason
  | .cfrControl payload => .deliverCfr id sender payload

theorem Reacts.action_eq
    {id : EnvelopeId}
    {sender : EndpointIdentity}
    {body : Body}
    {action : Action}
    (reacts : Reacts id sender connection body action later) :
    action = reaction id sender body := by
  cases reacts <;> rfl

theorem Reacts.pins_eq
    {id : EnvelopeId}
    {sender : EndpointIdentity}
    {body : Body}
    {action : Action}
    (reacts : Reacts id sender connection body action later) :
    later.pins = connection.pins := by
  cases reacts <;> rfl

theorem Reacts.seen_eq
    {id : EnvelopeId}
    {sender : EndpointIdentity}
    {body : Body}
    {action : Action}
    (reacts : Reacts id sender connection body action later) :
    later.seen = connection.seen := by
  cases reacts <;> rfl

theorem Reacts.sent?_eq_none
    {id : EnvelopeId}
    {sender : EndpointIdentity}
    {body : Body}
    {action : Action}
    (reacts : Reacts id sender connection body action later) :
    action.sent? = none := by
  cases reacts <;> rfl

/-- A reaction never loses progress. -/
theorem Reacts.rank_le
    {id : EnvelopeId}
    {sender : EndpointIdentity}
    {body : Body}
    {action : Action}
    (reacts : Reacts id sender connection body action later) :
    connection.phase.rank ≤ later.phase.rank := by
  cases reacts with
  | offer phase_eq => simp [phase_eq, Phase.rank]
  | answer phase_eq negotiation_eq => simp [phase_eq, Phase.rank]
  | candidate allowed => exact Nat.le_refl _
  | close started unfinished => exact connection.phase.rank_le
  | cfrControl phase_eq => exact Nat.le_refl _

/-- A one-time kind needs less progress than it leaves behind. -/
theorem Reacts.progress
    {id : EnvelopeId}
    {sender : EndpointIdentity}
    {body : Body}
    {action : Action}
    (reacts : Reacts id sender connection body action later) :
    body.kind.progress ≤ later.phase.rank ∧
      (body.kind.progress = 0 ∨
        connection.phase.rank < body.kind.progress) := by
  cases reacts with
  | offer phase_eq => simp [phase_eq, Phase.rank, Body.kind, Kind.progress]
  | answer phase_eq negotiation_eq =>
      simp [phase_eq, Phase.rank, Body.kind, Kind.progress]
  | candidate allowed => simp [Body.kind, Kind.progress]
  | close started unfinished =>
      exact ⟨Nat.le_refl 4, .inr (Phase.rank_lt_of_ne_closed unfinished)⟩
  | cfrControl phase_eq => simp [Body.kind, Kind.progress]

theorem Transition.pins_eq
    (transition : Transition primitives connection operation actions later) :
    later.pins = connection.pins := by
  cases transition with
  | receive admitted fresh reacts => exact reacts.pins_eq
  | _ => rfl

theorem Transition.rank_le
    (transition : Transition primitives connection operation actions later) :
    connection.phase.rank ≤ later.phase.rank := by
  cases transition with
  | beginOffer signer_eq phase_eq bounded => simp [phase_eq, Phase.rank]
  | answer signer_eq phase_eq negotiation_eq bounded =>
      simp [phase_eq, Phase.rank]
  | candidate signer_eq live negotiation_eq bounded => exact Nat.le_refl _
  | cfrControl signer_eq phase_eq bounded => exact Nat.le_refl _
  | close signer_eq started unfinished => exact connection.phase.rank_le
  | duplicate admitted known => exact Nat.le_refl _
  | receive admitted fresh reacts => exact reacts.rank_le
  | transportConnected phase_eq =>
      rcases phase_eq with phase_eq | phase_eq <;> simp [phase_eq, Phase.rank]
  | transportFailed started unfinished => exact connection.phase.rank_le

/-! ## Runs -/

/-- Run public operations on a connection. -/
def session
    (primitives : Primitives)
    (connection : Connection)
    (operations : List Operation) : Session Connection Operation Outcome :=
  Session.run (Operation.perform primitives) (.start connection) operations

/-- A property of a connection and its history that failures and transitions
preserve holds along every run. -/
theorem session_invariant
    {invariant : Connection → List (Operation × Outcome) → Prop}
    (failed : ∀ {connection history}, invariant connection history →
      ∀ operation error,
        invariant connection (history ++ [(operation, .error error)]))
    (moved : ∀ {connection history operation actions later},
      invariant connection history →
      Transition primitives connection operation actions later →
      invariant later (history ++ [(operation, .ok actions)]))
    (holds : invariant connection [])
    (operations : List Operation) :
    invariant (connection.session primitives operations).state
      (connection.session primitives operations).history := by
  have preserved : ∀ (session : Session Connection Operation Outcome) operation,
      invariant session.state session.history →
        invariant (session.advance (Operation.perform primitives) operation).state
          (session.advance (Operation.perform primitives) operation).history := by
    intro session operation current
    rcases perform_cases primitives session.state operation with
      ⟨error, performed⟩ | ⟨actions, later, performed, transition⟩
    · simp only [Session.advance, performed]
      exact failed current operation error
    · simp only [Session.advance, performed]
      exact moved current transition
  exact Session.run_invariant preserved holds operations

/-! ## Failures -/

/-- A failing operation changes nothing: every operation after it returns what
it would have returned without the failure. -/
theorem failed_operations_leave_no_trace
    (primitives : Primitives)
    (connection : Connection)
    (before after : List Operation)
    {operation : Operation}
    {error : Error}
    (failed : (operation.perform primitives
      (connection.session primitives before).state).1 = .error error) :
    (operation.perform primitives
        (connection.session primitives before).state).2 =
      (connection.session primitives before).state ∧
    ∃ rest : Session Connection Operation Outcome,
      connection.session primitives (before ++ after) =
        ⟨rest.state,
          (connection.session primitives before).history ++ rest.history⟩ ∧
      connection.session primitives (before ++ operation :: after) =
        ⟨rest.state, (connection.session primitives before).history ++
          (operation, .error error) :: rest.history⟩ := by
  have unchanged : (operation.perform primitives
      (connection.session primitives before).state).2 =
        (connection.session primitives before).state :=
    perform_eq_error (Prod.ext failed rfl)
  rw [← failed]
  exact ⟨unchanged, Session.run_append_cons_of_state_eq unchanged⟩

/-- A failure reported to an idle connection does not stand in the way of an
offer. -/
theorem failed_operations_leave_no_trace_idle :
    ∃ rest : Session Connection Operation Outcome,
      (Connection.sample 0 1).session .sample
          [.beginOffer (.sample 0) ⟨Vector.replicate 32 0⟩ []] = rest ∧
      (Connection.sample 0 1).session .sample
          [.transportFailed,
            .beginOffer (.sample 0) ⟨Vector.replicate 32 0⟩ []] =
        ⟨rest.state, (.transportFailed, .error .invalidState) ::
          rest.history⟩ :=
  (failed_operations_leave_no_trace .sample (.sample 0 1) []
    [.beginOffer (.sample 0) ⟨Vector.replicate 32 0⟩ []] rfl).2

end Connection

end Core
end Fcp
