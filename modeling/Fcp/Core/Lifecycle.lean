import Fcp.Core.ConnectionSession

/-!
# Lifecycle of a connection

The phase of a connection follows the arrows of the state diagram, its stored
ids are in step with the phase, and the actions that set up or tear down the
transport occur in an order that leaves room for each of them once.
-/

namespace Fcp
namespace Core

open Reactive Rust

namespace Phase

/-- The arrows of the state diagram. -/
inductive Edge : Phase → Phase → Prop
  | localOffer : Edge .idle .offerSent
  | validOffer : Edge .idle .offerReceived
  | validAnswer : Edge .offerSent .answerReceived
  | localAnswer : Edge .offerReceived .answerSent
  | connectedInitiator : Edge .answerReceived .established
  | connectedResponder : Edge .answerSent .established
  | close {phase : Phase} (live : phase.Live) : Edge phase .closed

theorem live_iff {phase : Phase} :
    phase.Live ↔ phase ≠ .idle ∧ phase ≠ .closed := by
  cases phase <;> decide

/-- Every arrow makes progress. -/
theorem Edge.rank_lt {first second : Phase} (edge : Edge first second) :
    first.rank < second.rank := by
  cases edge with
  | close live => exact rank_lt_of_ne_closed (live_iff.mp live).2
  | _ => decide

end Phase

/-- The actions that set up or tear down the transport. -/
inductive Milestone
  | openControlChannel
  | applyOffer
  | applyAnswer
  | closeTransport
  deriving DecidableEq

/-- The progress of the connection that performs a milestone. -/
def Milestone.progress : Milestone → Nat
  | .openControlChannel | .applyOffer => 1
  | .applyAnswer => 2
  | .closeTransport => 4

/-- The milestone that an action is. -/
def Action.milestone? : Action → Option Milestone
  | .openControlChannel => some .openControlChannel
  | .applyOffer _ _ => some .applyOffer
  | .applyAnswer _ _ => some .applyAnswer
  | .closeTransport _ => some .closeTransport
  | .send _ | .addCandidate _ _ | .deliverCfr _ _ _ => none

/-- The actions that an operation emits. -/
def Outcome.actions : Outcome → List Action
  | .ok actions => actions
  | .error _ => []

/-- The milestones emitted along a history, oldest first. -/
def milestones (history : List (Operation × Outcome)) : List Milestone :=
  history.flatMap fun exchange =>
    (Outcome.actions exchange.2).filterMap Action.milestone?

theorem milestones_concat
    (history : List (Operation × Outcome))
    (operation : Operation)
    (outcome : Outcome) :
    milestones (history ++ [(operation, outcome)]) =
      milestones history ++
        (Outcome.actions outcome).filterMap Action.milestone? := by
  rw [milestones, List.flatMap_append, List.flatMap_singleton, milestones]

namespace Connection

variable {primitives : Primitives}
variable {connection later : Connection}
variable {operation : Operation}
variable {actions : List Action}

/-- The stored ids are in step with the phase. -/
structure Consistent (connection : Connection) : Prop where
  none_iff : connection.negotiation = none ↔ connection.phase = .idle
  answer_present : connection.phase = .answerSent ∨
      connection.phase = .answerReceived ∨
      connection.phase = .established →
    ∃ offer answer, connection.negotiation = some ⟨offer, some answer⟩
  answer_absent : connection.phase = .offerSent ∨
      connection.phase = .offerReceived →
    ∃ offer, connection.negotiation = some ⟨offer, none⟩

/-- A phase check that excludes an idle connection leaves nothing to fail when
the ids are read. -/
theorem Consistent.exists_okOr
    (consistent : connection.Consistent)
    (started : connection.phase ≠ .idle)
    (error : Error) :
    ∃ ids, okOr connection.negotiation error = .ok ids := by
  cases negotiation_eq : connection.negotiation with
  | none => exact absurd (consistent.none_iff.mp negotiation_eq) started
  | some ids => exact ⟨ids, rfl⟩

/-! ## One transition -/

theorem Consistent.close
    (consistent : connection.Consistent)
    (started : connection.phase ≠ .idle) :
    Consistent { connection with phase := .closed } := by
  refine ⟨?_, ?_, ?_⟩
  · simpa using fun absent => started (consistent.none_iff.mp absent)
  · simp
  · simp

theorem Consistent.reacts
    {id : EnvelopeId}
    {sender : EndpointIdentity}
    {body : Body}
    {action : Action}
    (consistent : connection.Consistent)
    (reacts : Reacts id sender connection body action later) :
    later.Consistent := by
  cases reacts with
  | offer phase_eq => constructor <;> simp
  | answer phase_eq negotiation_eq => constructor <;> simp
  | candidate allowed => exact consistent
  | close started unfinished => exact consistent.close started
  | cfrControl phase_eq => exact consistent

theorem Consistent.remember
    (consistent : connection.Consistent)
    (id : EnvelopeId) :
    (connection.remember id).Consistent :=
  ⟨consistent.none_iff, consistent.answer_present, consistent.answer_absent⟩

theorem Consistent.transition
    (consistent : connection.Consistent)
    (transition : Transition primitives connection operation actions later) :
    later.Consistent := by
  cases transition with
  | beginOffer signer_eq phase_eq bounded => constructor <;> simp
  | answer signer_eq phase_eq negotiation_eq bounded => constructor <;> simp
  | candidate signer_eq live negotiation_eq bounded => exact consistent
  | cfrControl signer_eq phase_eq bounded => exact consistent
  | close signer_eq started unfinished => exact consistent.close started
  | duplicate admitted known => exact consistent
  | receive admitted fresh reacts => exact (consistent.reacts reacts).remember _
  | transportConnected phase_eq =>
      have present := consistent.answer_present
        (phase_eq.imp_right Or.inl)
      obtain ⟨offer, answer, negotiation_eq⟩ := present
      constructor <;> simp [negotiation_eq]
  | transportFailed started unfinished => exact consistent.close started

theorem Reacts.edge
    {id : EnvelopeId}
    {sender : EndpointIdentity}
    {body : Body}
    {action : Action}
    (reacts : Reacts id sender connection body action later) :
    later.phase = connection.phase ∨
      Phase.Edge connection.phase later.phase := by
  cases reacts with
  | offer phase_eq => exact .inr (phase_eq ▸ .validOffer)
  | answer phase_eq negotiation_eq => exact .inr (phase_eq ▸ .validAnswer)
  | candidate allowed => exact .inl rfl
  | close started unfinished =>
      exact .inr (.close (Phase.live_iff.mpr ⟨started, unfinished⟩))
  | cfrControl phase_eq => exact .inl rfl

/-- A transition keeps the phase or follows an arrow. -/
theorem Transition.edge
    (transition : Transition primitives connection operation actions later) :
    later.phase = connection.phase ∨
      Phase.Edge connection.phase later.phase := by
  cases transition with
  | beginOffer signer_eq phase_eq bounded =>
      exact .inr (phase_eq ▸ .localOffer)
  | answer signer_eq phase_eq negotiation_eq bounded =>
      exact .inr (phase_eq ▸ .localAnswer)
  | candidate signer_eq live negotiation_eq bounded => exact .inl rfl
  | cfrControl signer_eq phase_eq bounded => exact .inl rfl
  | close signer_eq started unfinished =>
      exact .inr (.close (Phase.live_iff.mpr ⟨started, unfinished⟩))
  | duplicate admitted known => exact .inl rfl
  | receive admitted fresh reacts => exact reacts.edge
  | transportConnected phase_eq =>
      rcases phase_eq with phase_eq | phase_eq
      · exact .inr (phase_eq ▸ .connectedResponder)
      · exact .inr (phase_eq ▸ .connectedInitiator)
  | transportFailed started unfinished =>
      exact .inr (.close (Phase.live_iff.mpr ⟨started, unfinished⟩))

/-- A transition that keeps the rank keeps the phase. -/
theorem Transition.phase_eq_of_rank
    (transition : Transition primitives connection operation actions later)
    (rank_le : later.phase.rank ≤ connection.phase.rank) :
    later.phase = connection.phase := by
  rcases transition.edge with same | edge
  · exact same
  · exact absurd edge.rank_lt (Nat.not_lt.mpr rank_le)

/-- A milestone needs less progress than it leaves behind. -/
theorem Reacts.milestone
    {id : EnvelopeId}
    {sender : EndpointIdentity}
    {body : Body}
    {action : Action}
    {milestone : Milestone}
    (reacts : Reacts id sender connection body action later)
    (reached : action.milestone? = some milestone) :
    connection.phase.rank < milestone.progress ∧
      milestone.progress ≤ later.phase.rank := by
  cases reacts with
  | offer phase_eq =>
      obtain rfl := Option.some.inj reached
      rw [phase_eq]
      exact ⟨by decide, Nat.le_refl _⟩
  | answer phase_eq negotiation_eq =>
      obtain rfl := Option.some.inj reached
      rw [phase_eq]
      exact ⟨by decide, Nat.le_refl _⟩
  | candidate allowed => simp [Action.milestone?] at reached
  | close started unfinished =>
      obtain rfl := Option.some.inj reached
      exact ⟨Phase.rank_lt_of_ne_closed unfinished, Nat.le_refl 4⟩
  | cfrControl phase_eq => simp [Action.milestone?] at reached

/-- A transition emits at most one milestone, which needs less progress than it
leaves behind. -/
theorem Transition.milestones
    (transition : Transition primitives connection operation actions later) :
    actions.filterMap Action.milestone? = [] ∨
      ∃ milestone : Milestone,
        actions.filterMap Action.milestone? = [milestone] ∧
          connection.phase.rank < milestone.progress ∧
          milestone.progress ≤ later.phase.rank := by
  cases transition with
  | beginOffer signer_eq phase_eq bounded =>
      refine .inr ⟨.openControlChannel, rfl, ?_, Nat.le_refl 1⟩
      rw [phase_eq]
      decide
  | @receive _ action _ admitted fresh reacts =>
      cases reached : action.milestone? with
      | none => simp [reached]
      | some milestone =>
          refine .inr ⟨milestone, ?_, reacts.milestone reached⟩
          simp [reached]
  | _ => exact .inl rfl

/-- Control payloads are delivered by an established connection. -/
theorem Transition.established_of_deliverCfr
    {envelopeId : EnvelopeId}
    {remoteEndpoint : EndpointIdentity}
    {payload : List UInt8}
    (transition : Transition primitives connection operation actions later)
    (delivered : .deliverCfr envelopeId remoteEndpoint payload ∈ actions) :
    connection.phase = .established := by
  cases transition with
  | receive admitted fresh reacts =>
      obtain rfl := List.mem_singleton.mp delivered
      generalize Envelope.body _ = body at reacts
      cases reacts with
      | cfrControl phase_eq => exact phase_eq
  | _ => simp at delivered

/-- A closed connection has no transition but the one for a remembered
duplicate. -/
theorem Transition.of_closed
    (transition : Transition primitives connection operation actions later)
    (closed : connection.phase = .closed) :
    ∃ envelope, operation = .receive envelope ∧
      envelope.digest primitives ∈ connection.seen ∧
      actions = [] ∧ later = connection := by
  cases transition with
  | duplicate admitted known => exact ⟨_, rfl, known, rfl, rfl⟩
  | receive admitted fresh reacts =>
      generalize Envelope.body _ = body at reacts
      cases reacts with
      | candidate allowed => exact absurd closed (Phase.live_iff.mp allowed.1).2
      | close started unfinished => exact absurd closed unfinished
      | _ => simp_all
  | candidate signer_eq live negotiation_eq bounded =>
      exact absurd closed (Phase.live_iff.mp live).2
  | close signer_eq started unfinished => exact absurd closed unfinished
  | transportFailed started unfinished => exact absurd closed unfinished
  | _ => simp_all

/-! ## Runs -/

/-- The connection after a run of public operations. -/
abbrev after
    (primitives : Primitives)
    (connection : Connection)
    (operations : List Operation) : Connection :=
  (connection.session primitives operations).state

theorem after_concat
    (primitives : Primitives)
    (connection : Connection)
    (operations : List Operation)
    (operation : Operation) :
    connection.after primitives (operations ++ [operation]) =
      (operation.perform primitives
        (connection.after primitives operations)).2 := by
  simp only [after, session, Session.run_concat]
  rfl

theorem after_append
    (primitives : Primitives)
    (connection : Connection)
    (first second : List Operation) :
    connection.after primitives (first ++ second) =
      (connection.after primitives first).after primitives second := by
  induction second using List.reverseRecOn with
  | nil =>
      rw [List.append_nil]
      rfl
  | append_singleton second operation inductionHypothesis =>
      rw [← List.append_assoc, after_concat, after_concat, inductionHypothesis]

/-- A property that every transition preserves holds after every run. -/
theorem after_invariant
    (property : Connection → Prop)
    (preserved : ∀ {connection operation actions later},
      property connection →
      Transition primitives connection operation actions later →
      property later)
    (holds : property connection)
    (operations : List Operation) :
    property (connection.after primitives operations) := by
  induction operations using List.reverseRecOn with
  | nil => exact holds
  | append_singleton operations operation inductionHypothesis =>
      rw [after_concat]
      rcases perform_cases primitives
          (connection.after primitives operations) operation with
        ⟨error, performed⟩ | ⟨actions, later, performed, transition⟩
      · rw [performed]
        exact inductionHypothesis
      · rw [performed]
        exact preserved inductionHypothesis transition

theorem rank_le_after
    (primitives : Primitives)
    (connection : Connection)
    (operations : List Operation) :
    connection.phase.rank ≤
      (connection.after primitives operations).phase.rank :=
  after_invariant (fun later => connection.phase.rank ≤ later.phase.rank)
    (fun bound transition => bound.trans transition.rank_le)
    (Nat.le_refl _) operations

/-- A run that ends with the rank it began with never left its phase. -/
theorem phase_after_eq_of_rank
    (operations : List Operation)
    (rank_le : (connection.after primitives operations).phase.rank ≤
      connection.phase.rank) :
    (connection.after primitives operations).phase = connection.phase := by
  induction operations using List.reverseRecOn with
  | nil => rfl
  | append_singleton operations operation inductionHypothesis =>
      rw [after_concat] at rank_le ⊢
      have start := rank_le_after primitives connection operations
      rcases perform_cases primitives
          (connection.after primitives operations) operation with
        ⟨error, performed⟩ | ⟨actions, later, performed, transition⟩
      · rw [performed] at rank_le ⊢
        exact inductionHypothesis rank_le
      · rw [performed] at rank_le ⊢
        have middle := inductionHypothesis (transition.rank_le.trans rank_le)
        rw [← middle] at rank_le ⊢
        exact transition.phase_eq_of_rank rank_le

theorem after_consistent
    (consistent : connection.Consistent)
    (operations : List Operation) :
    (connection.after primitives operations).Consistent :=
  after_invariant Consistent
    (fun current transition => current.transition transition)
    consistent operations

/-- The milestones of a run make more and more progress. -/
structure Advances
    (connection : Connection)
    (history : List (Operation × Outcome)) : Prop where
  increasing : (milestones history).Pairwise
    fun first second => first.progress < second.progress
  reached : ∀ milestone ∈ milestones history,
    milestone.progress ≤ connection.phase.rank

theorem session_advances
    (primitives : Primitives)
    (connection : Connection)
    (operations : List Operation) :
    Advances (connection.session primitives operations).state
      (connection.session primitives operations).history := by
  refine session_invariant ?_ ?_ ⟨.nil, nofun⟩ operations
  · intro connection history advances operation error
    refine ⟨?_, ?_⟩
    · simpa [milestones_concat, Outcome.actions] using advances.increasing
    · simpa [milestones_concat, Outcome.actions] using advances.reached
  · intro connection history operation actions later advances transition
    have kept : ∀ milestone ∈ milestones history,
        milestone.progress ≤ later.phase.rank := by
      intro milestone member
      exact (advances.reached milestone member).trans transition.rank_le
    rcases transition.milestones with nothing | ⟨next, emitted, needed, left⟩
    · refine ⟨?_, ?_⟩
      · simpa [milestones_concat, Outcome.actions, nothing]
          using advances.increasing
      · simpa [milestones_concat, Outcome.actions, nothing] using kept
    · refine ⟨?_, ?_⟩
      · rw [milestones_concat, Outcome.actions, emitted, List.pairwise_append]
        refine ⟨advances.increasing, List.pairwise_singleton _ _, ?_⟩
        intro milestone member last last_mem
        obtain rfl := List.mem_singleton.mp last_mem
        exact (advances.reached milestone member).trans_lt needed
      · intro milestone member
        rw [milestones_concat, Outcome.actions, emitted,
          List.mem_append, List.mem_singleton] at member
        rcases member with member | rfl
        · exact kept milestone member
        · exact left

theorem Advances.nodup
    {history : List (Operation × Outcome)}
    (advances : Advances connection history) :
    ((milestones history).map Milestone.progress).Nodup := by
  rw [List.Nodup, List.pairwise_map]
  exact advances.increasing.imp Nat.ne_of_lt

theorem Advances.count_le_one
    {history : List (Operation × Outcome)}
    (advances : Advances connection history)
    (milestone : Milestone) :
    (milestones history).count milestone ≤ 1 :=
  List.nodup_iff_count_le_one.mp advances.nodup.of_map milestone

/-- A connection opens the channel of its own offer or applies the offer of its
peer, never both. -/
theorem Advances.one_role
    {history : List (Operation × Outcome)}
    (advances : Advances connection history) :
    ¬(.openControlChannel ∈ milestones history ∧
      .applyOffer ∈ milestones history) := by
  rintro ⟨opened, applied⟩
  have same := List.inj_on_of_nodup_map advances.nodup opened applied rfl
  exact absurd same nofun

theorem perform_closed
    (closed : connection.phase = .closed)
    (operation : Operation) :
    (operation.perform primitives connection).2 = connection := by
  rcases perform_cases primitives connection operation with
    ⟨error, performed⟩ | ⟨actions, later, performed, transition⟩
  · rw [performed]
  · obtain ⟨envelope, -, -, -, rfl⟩ := transition.of_closed closed
    rw [performed]

theorem after_closed
    (operations : List Operation)
    (closed : connection.phase = .closed) :
    connection.after primitives operations = connection := by
  refine after_invariant (fun later => later = connection) ?_ rfl operations
  rintro _ operation actions later rfl transition
  obtain ⟨envelope, -, -, -, later_eq⟩ := transition.of_closed closed
  exact later_eq

/-- The connection that answers one more operation fails, or recognises a
duplicate and emits nothing. -/
def RefusesOrIgnores
    (primitives : Primitives)
    (connection : Connection)
    (operation : Operation) : Prop :=
  (∃ error, operation.perform primitives connection =
      (.error error, connection)) ∨
    ∃ envelope, operation = .receive envelope ∧
      envelope.digest primitives ∈ connection.seen ∧
      operation.perform primitives connection = (.ok [], connection)

theorem refusesOrIgnores_of_closed
    (closed : connection.phase = .closed)
    (operation : Operation) :
    connection.RefusesOrIgnores primitives operation := by
  rcases perform_cases primitives connection operation with
    failed | ⟨actions, later, performed, transition⟩
  · exact .inl failed
  · obtain ⟨envelope, operation_eq, known, rfl, rfl⟩ :=
      transition.of_closed closed
    exact .inr ⟨envelope, operation_eq, known, performed⟩

/-- What holds along every run of a connection. -/
structure Lifecycle
    (primitives : Primitives)
    (connection : Connection) : Prop where
  consistent : ∀ operations,
    (connection.after primitives operations).Consistent
  ids_found : ∀ operations,
    (connection.after primitives operations).phase ≠ .idle →
    ∃ ids, okOr (connection.after primitives operations).negotiation
      Error.invalidState = .ok ids
  follows_edges : ∀ operations operation,
    (connection.after primitives (operations ++ [operation])).phase =
        (connection.after primitives operations).phase ∨
      Phase.Edge (connection.after primitives operations).phase
        (connection.after primitives (operations ++ [operation])).phase
  never_reentered : ∀ first second third,
    (connection.after primitives (first ++ second ++ third)).phase =
        (connection.after primitives first).phase →
      (connection.after primitives (first ++ second)).phase =
        (connection.after primitives first).phase
  milestone_once : ∀ operations milestone,
    (milestones (connection.session primitives operations).history).count
      milestone ≤ 1
  one_role : ∀ operations,
    ¬(.openControlChannel ∈
        milestones (connection.session primitives operations).history ∧
      .applyOffer ∈
        milestones (connection.session primitives operations).history)
  delivers_established : ∀ operations operation actions later envelopeId
      remoteEndpoint payload,
    Operation.perform primitives (connection.after primitives operations)
        operation = (.ok actions, later) →
      .deliverCfr envelopeId remoteEndpoint payload ∈ actions →
      (connection.after primitives operations).phase = .established
  closed_forever : ∀ operations further operation,
    (connection.after primitives operations).phase = .closed →
      (connection.after primitives (operations ++ further)).phase = .closed ∧
        (connection.after primitives (operations ++ further)).RefusesOrIgnores
          primitives operation

/-- Every created connection has the lifecycle of the state diagram. -/
theorem lifecycle_of_new
    {federation : FederationId}
    {attempt : AttemptId}
    {localEndpoint remoteEndpoint : EndpointIdentity}
    {connection : Connection}
    (primitives : Primitives)
    (created : Connection.new federation attempt localEndpoint remoteEndpoint =
      .ok connection) :
    connection.Lifecycle primitives := by
  obtain ⟨-, rfl⟩ := new_eq_ok_iff.mp created
  have consistent : (fresh federation attempt localEndpoint
      remoteEndpoint).Consistent := by
    constructor <;> simp [fresh]
  refine ⟨after_consistent consistent, ?_, ?_, ?_, ?_, ?_, ?_, ?_⟩
  · intro operations started
    exact (after_consistent consistent operations).exists_okOr started _
  · intro operations operation
    rw [after_concat]
    rcases perform_cases primitives _ operation with
      ⟨error, performed⟩ | ⟨actions, later, performed, transition⟩
    · rw [performed]
      exact .inl rfl
    · rw [performed]
      exact transition.edge
  · intro first second third returned
    rw [after_append]
    apply phase_after_eq_of_rank
    rw [← after_append, ← returned, after_append primitives _ (first ++ second)]
    exact rank_le_after primitives _ third
  · intro operations milestone
    exact (session_advances primitives _ operations).count_le_one milestone
  · intro operations
    exact (session_advances primitives _ operations).one_role
  · intro operations operation actions later envelopeId remoteEndpoint payload
      performed delivered
    exact (perform_eq_ok_iff.mp performed).established_of_deliverCfr delivered
  · intro operations further operation closed
    rw [after_append, after_closed further closed]
    exact ⟨closed, refusesOrIgnores_of_closed closed operation⟩

/-- The theorem speaks about the sample connection, which can be created. -/
theorem lifecycle_of_new_sample :
    (Connection.sample 0 1).Lifecycle .sample :=
  lifecycle_of_new .sample (new_sample (by decide))

end Connection

end Core
end Fcp
