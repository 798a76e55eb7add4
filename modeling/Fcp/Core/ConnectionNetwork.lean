import Fcp.Reactive.Network
import Fcp.Core.ConnectionSession

/-!
# Networks of connections

Any number of connections, sharing signing identities across federations and
attempts, exchange envelopes through a network that may drop, repeat, reorder
and reflect them and may inject any envelope it can build without the keys of
an honest endpoint.
-/

namespace Fcp
namespace Core

open Reactive

/-- Connections and the log of their operations. -/
abbrev ConnectionNetwork (ν : Type) : Type :=
  Network ν Connection Operation Outcome

/-- An envelope in scope that verifies carries the transcript and the
signatures of an envelope some connection has emitted. -/
def Unforged
    (primitives : Primitives)
    (scope : Envelope → Prop)
    (log : List (ν × Operation × Outcome))
    (envelope : Envelope) : Prop :=
  scope envelope → envelope.verify primitives = .ok () →
    ∃ origin operation outcome signed,
      (origin, operation, outcome) ∈ log ∧ signed ∈ Outcome.sent outcome ∧
        signed.transcript = envelope.transcript ∧
        signed.signatures = envelope.signatures

/-- Callers may perform any operation; the network may deliver any envelope
that is not forged. -/
def Permitted
    (primitives : Primitives)
    (scope : Envelope → Prop)
    (network : ConnectionNetwork ν)
    (_ : ν) : Operation → Prop
  | .receive envelope => Unforged primitives scope network.log envelope
  | _ => True

/-- The content supplied with an operation is the content of an action. -/
def Operation.Conveys : Operation → Action → Prop
  | .beginOffer _ binding description, action =>
      action = .applyOffer binding description
  | .answer _ binding description, action =>
      action = .applyAnswer binding description
  | .candidate _ sequence fragment, action =>
      action = .addCandidate sequence fragment
  | .cfrControl _ payload, action =>
      ∃ envelopeId remoteEndpoint,
        action = .deliverCfr envelopeId remoteEndpoint payload
  | .close _ reason, action => action = .closeTransport reason
  | .receive _, _ | .transportConnected, _ | .transportFailed, _ => False

namespace Connection

variable {primitives : Primitives}
variable {connection later : Connection}
variable {operation : Operation}
variable {actions : List Action}

/-- Two connections pin the same federation and attempt and face each other. -/
structure Mirrors (left right : Connection) : Prop where
  federation_eq : left.federation = right.federation
  attempt_eq : left.attempt = right.attempt
  local_eq : left.localEndpoint = right.remoteEndpoint
  remote_eq : left.remoteEndpoint = right.localEndpoint

/-- An envelope carries the pinned tuple of the connection that sends it. -/
structure Issues (connection : Connection) (envelope : Envelope) : Prop where
  federation_eq : envelope.federation = connection.federation
  attempt_eq : envelope.attempt = connection.attempt
  sender_eq : envelope.sender = connection.localEndpoint
  recipient_eq : envelope.recipient = connection.remoteEndpoint
  bounded : envelope.body.WithinBounds

theorem issues_outbound
    {signer : EndpointSigner}
    {body : Body}
    (signer_eq : signer.endpoint = connection.localEndpoint)
    (bounded : body.WithinBounds) :
    connection.Issues (connection.outbound signer body) :=
  ⟨rfl, rfl, signer_eq, rfl, bounded⟩

theorem Issues.of_pins_eq
    {other : Connection}
    {envelope : Envelope}
    (issued : connection.Issues envelope)
    (same : other.pins = connection.pins) :
    other.Issues envelope := by
  simp only [pins, Prod.mk.injEq] at same
  obtain ⟨federation_eq, attempt_eq, local_eq, remote_eq⟩ := same
  exact ⟨issued.federation_eq.trans federation_eq.symm,
    issued.attempt_eq.trans attempt_eq.symm,
    issued.sender_eq.trans local_eq.symm,
    issued.recipient_eq.trans remote_eq.symm, issued.bounded⟩

theorem Issues.mirrors
    {other : Connection}
    {envelope : Envelope}
    (issued : connection.Issues envelope)
    (admitted : other.Admits primitives envelope) :
    connection.Mirrors other :=
  ⟨issued.federation_eq.symm.trans admitted.federation_eq,
    issued.attempt_eq.symm.trans admitted.attempt_eq,
    issued.sender_eq.symm.trans admitted.sender_eq,
    issued.recipient_eq.symm.trans admitted.recipient_eq⟩

theorem Mirrors.of_pins_eq
    {left right left' right' : Connection}
    (mirrors : left.Mirrors right)
    (left_eq : left'.pins = left.pins)
    (right_eq : right'.pins = right.pins) :
    left'.Mirrors right' := by
  simp only [pins, Prod.mk.injEq] at left_eq right_eq
  obtain ⟨leftFederation, leftAttempt, leftLocal, leftRemote⟩ := left_eq
  obtain ⟨rightFederation, rightAttempt, rightLocal, rightRemote⟩ := right_eq
  exact ⟨by rw [leftFederation, rightFederation, mirrors.federation_eq],
    by rw [leftAttempt, rightAttempt, mirrors.attempt_eq],
    by rw [leftLocal, rightRemote, mirrors.local_eq],
    by rw [leftRemote, rightLocal, mirrors.remote_eq]⟩

/-- What a transition sends is the outbound envelope for the content its caller
supplied. -/
theorem Transition.exists_of_mem_sent
    {envelope : Envelope}
    (transition : Transition primitives connection operation actions later)
    (sent : envelope ∈ Outcome.sent (.ok actions)) :
    connection.Issues envelope ∧
      ∀ {id sender receiver after action},
        Reacts id sender receiver envelope.body action after →
          operation.Conveys action := by
  cases transition with
  | beginOffer signer_eq phase_eq bounded =>
      obtain rfl := Outcome.mem_sent_send.mp sent
      exact ⟨issues_outbound signer_eq bounded, Reacts.action_eq⟩
  | answer signer_eq phase_eq negotiation_eq bounded =>
      obtain rfl := Outcome.mem_sent_send.mp sent
      exact ⟨issues_outbound signer_eq bounded, Reacts.action_eq⟩
  | candidate signer_eq live negotiation_eq bounded =>
      obtain rfl := Outcome.mem_sent_send.mp sent
      exact ⟨issues_outbound signer_eq bounded, Reacts.action_eq⟩
  | cfrControl signer_eq phase_eq bounded =>
      obtain rfl := Outcome.mem_sent_send.mp sent
      refine ⟨issues_outbound signer_eq bounded, ?_⟩
      intro id sender receiver after action reacts
      exact ⟨id, sender, reacts.action_eq⟩
  | close signer_eq started unfinished =>
      obtain rfl := Outcome.mem_sent_send.mp sent
      exact ⟨issues_outbound signer_eq trivial, Reacts.action_eq⟩
  | duplicate admitted known => simp [Outcome.sent] at sent
  | receive admitted fresh reacts =>
      simp [Outcome.sent, reacts.sent?_eq_none] at sent
  | transportConnected phase_eq => simp [Outcome.sent] at sent
  | transportFailed started unfinished => simp [Outcome.sent] at sent

/-- No operation changes the pinned tuple. -/
theorem session_pins_eq
    (primitives : Primitives)
    (connection : Connection)
    (operations : List Operation) :
    (connection.session primitives operations).state.pins = connection.pins :=
  session_invariant
    (fun same _ _ => same)
    (fun same transition => transition.pins_eq.trans same)
    rfl operations

end Connection

/-! ## Reachable networks -/

namespace ConnectionNetwork

open Connection

variable {ν : Type} [DecidableEq ν]
variable {primitives : Primitives}
variable {scope : Envelope → Prop}
variable {initial : ν → Connection}
variable {network : ConnectionNetwork ν}

/-- Networks reached from created connections without forging. -/
abbrev Reachable
    (primitives : Primitives)
    (scope : Envelope → Prop)
    (initial : ν → Connection) : ConnectionNetwork ν → Prop :=
  Network.Reachable (Operation.perform primitives)
    (Permitted primitives scope) initial

theorem pins_eq
    (reachable : Reachable primitives scope initial network)
    (node : ν) :
    (network.states node).pins = (initial node).pins := by
  obtain ⟨operations, session_eq⟩ := reachable.exists_session_eq_run node
  have state_eq : network.states node =
      ((initial node).session primitives operations).state :=
    congrArg Session.state session_eq
  rw [state_eq]
  exact session_pins_eq primitives (initial node) operations

/-- A permitted transition of one connection leads to a reachable network. -/
theorem reachable_transition
    {permitted : ConnectionNetwork ν → ν → Operation → Prop}
    (reachable : Network.Reachable (Operation.perform primitives) permitted
      initial network)
    {node : ν}
    {operation : Operation}
    {actions : List Action}
    {later : Connection}
    (transition : Transition primitives (network.states node) operation actions
      later)
    (allowed : permitted network node operation) :
    Network.Reachable (Operation.perform primitives) permitted initial
      ⟨Function.update network.states node later,
        network.log ++ [(node, operation, .ok actions)]⟩ := by
  have advanced := Network.Reachable.advance reachable node operation allowed
  rw [Network.advance, perform_eq_ok_iff.mpr transition] at advanced
  exact advanced

/-- A successful operation in the log was a transition of its connection. -/
theorem exists_transition
    (reachable : Reachable primitives scope initial network)
    {earlier later : List (ν × Operation × Outcome)}
    {node : ν}
    {operation : Operation}
    {actions : List Action}
    (log_eq : network.log = earlier ++ (node, operation, .ok actions) :: later) :
    ∃ before : ConnectionNetwork ν,
      Reachable primitives scope initial before ∧ before.log = earlier ∧
        Permitted primitives scope before node operation ∧
        (before.states node).pins = (network.states node).pins ∧
        ∃ after, Transition primitives (before.states node) operation actions
          after := by
  obtain ⟨before, reachedBefore, before_eq, allowed, returned⟩ :=
    reachable.exists_before log_eq
  have same := (pins_eq reachedBefore node).trans (pins_eq reachable node).symm
  exact ⟨before, reachedBefore, before_eq, allowed, same, _,
    perform_eq_ok_iff.mp (Prod.ext returned.symm rfl)⟩

/-- An emitted envelope carries the tuple of the connection that sent it. -/
theorem exists_origin
    (reachable : Reachable primitives scope initial network)
    {node : ν}
    {operation : Operation}
    {outcome : Outcome}
    {envelope : Envelope}
    (logged : (node, operation, outcome) ∈ network.log)
    (sent : envelope ∈ Outcome.sent outcome) :
    ∃ before : Connection,
      before.pins = (network.states node).pins ∧ before.Issues envelope ∧
        ∀ {id sender receiver after action},
          Reacts id sender receiver envelope.body action after →
            operation.Conveys action := by
  cases outcome with
  | error error => simp [Outcome.sent] at sent
  | ok actions =>
      obtain ⟨earlier, later, log_eq⟩ := List.append_of_mem logged
      obtain ⟨before, -, -, -, same, after, transition⟩ :=
        exists_transition reachable log_eq
      obtain ⟨issued, conveys⟩ := transition.exists_of_mem_sent sent
      exact ⟨before.states node, same, issued, conveys⟩

theorem issues_of_mem_sent
    (reachable : Reachable primitives scope initial network)
    {node : ν}
    {operation : Operation}
    {outcome : Outcome}
    {envelope : Envelope}
    (logged : (node, operation, outcome) ∈ network.log)
    (sent : envelope ∈ Outcome.sent outcome) :
    (network.states node).Issues envelope := by
  obtain ⟨before, same, issued, -⟩ := exists_origin reachable logged sent
  exact issued.of_pins_eq same.symm

/-- An envelope in scope that a connection acts upon was emitted before by a
connection that mirrors it, and the action carries what that connection's caller
supplied. -/
theorem acted_upon_was_emitted
    (reachable : Reachable primitives scope initial network)
    {earlier later : List (ν × Operation × Outcome)}
    {node : ν}
    {envelope : Envelope}
    {actions : List Action}
    (log_eq : network.log =
      earlier ++ (node, .receive envelope, .ok actions) :: later)
    (nonempty : actions ≠ [])
    (inScope : (network.states node).Admits primitives envelope →
      scope envelope) :
    ∃ origin operation outcome action,
      (origin, operation, outcome) ∈ earlier ∧
        envelope ∈ Outcome.sent outcome ∧
        (network.states origin).Mirrors (network.states node) ∧
        actions = [action] ∧ operation.Conveys action := by
  obtain ⟨before, reachedBefore, rfl, allowed, same, after, transition⟩ :=
    exists_transition reachable log_eq
  cases transition with
  | duplicate admitted known => exact absurd rfl nonempty
  | @receive _ action middle admitted fresh reacts =>
      obtain ⟨origin, operation, outcome, signed, logged, sent,
          transcript_eq, signatures_eq⟩ :=
        allowed (inScope (admitted.of_pins_eq same.symm)) admitted.verified
      have issued := issues_of_mem_sent reachedBefore logged sent
      have signed_eq : signed = envelope := Envelope.eq_of_transcript_eq
        issued.bounded admitted.bounded transcript_eq signatures_eq
      subst signed_eq
      obtain ⟨sender, -, -, conveys⟩ := exists_origin reachedBefore logged sent
      have originPins := (pins_eq reachable origin).trans
        (pins_eq reachedBefore origin).symm
      exact ⟨origin, operation, outcome, action, logged, sent,
        (issued.mirrors admitted).of_pins_eq originPins same.symm, rfl,
        conveys reacts⟩

/-! ## Two mirrored connections -/

/-- The two ends of one attempt. -/
inductive Side
  | left
  | right
  deriving DecidableEq

namespace Side

/-- The opposite end. -/
def other : Side → Side
  | .left => .right
  | .right => .left

theorem other_other (side : Side) : side.other.other = side := by
  cases side <;> rfl

theorem other_ne (side : Side) : side.other ≠ side := by
  cases side <;> exact nofun

/-- One value for each end. -/
def pair (left right : α) : Side → α
  | .left => left
  | .right => right

theorem update_pair_left (left right changed : α) :
    Function.update (pair left right) .left changed = pair changed right := by
  funext side
  cases side <;> rfl

theorem update_pair_right (left right changed : α) :
    Function.update (pair left right) .right changed = pair left changed := by
  funext side
  cases side <;> rfl

end Side

section Pair

variable {permitted : ConnectionNetwork Side → Side → Operation → Prop}
variable {left right later : Connection}
variable {connections : Side → Connection}
variable {log : List (Side × Operation × Outcome)}
variable {operation : Operation}
variable {actions : List Action}

theorem reachable_left
    (reachable : Network.Reachable (Operation.perform primitives) permitted
      connections ⟨Side.pair left right, log⟩)
    (transition : Transition primitives left operation actions later)
    (allowed : permitted ⟨Side.pair left right, log⟩ .left operation) :
    Network.Reachable (Operation.perform primitives) permitted connections
      ⟨Side.pair later right, log ++ [(.left, operation, .ok actions)]⟩ := by
  rw [← Side.update_pair_left left right later]
  exact reachable_transition reachable transition allowed

theorem reachable_right
    (reachable : Network.Reachable (Operation.perform primitives) permitted
      connections ⟨Side.pair left right, log⟩)
    (transition : Transition primitives right operation actions later)
    (allowed : permitted ⟨Side.pair left right, log⟩ .right operation) :
    Network.Reachable (Operation.perform primitives) permitted connections
      ⟨Side.pair left later, log ++ [(.right, operation, .ok actions)]⟩ := by
  rw [← Side.update_pair_right left right later]
  exact reachable_transition reachable transition allowed

end Pair

/-- An envelope that a mirrored connection of an honest signer sends. -/
theorem admits_outbound
    {sender receiver : Connection}
    {signer : EndpointSigner}
    {body : Body}
    (mirrors : sender.Mirrors receiver)
    (signer_eq : signer.endpoint = sender.localEndpoint)
    (honest : signer.Honest primitives)
    (bounded : body.WithinBounds) :
    receiver.Admits primitives (sender.outbound signer body) :=
  ⟨mirrors.federation_eq, mirrors.attempt_eq,
    signer_eq.trans mirrors.local_eq, mirrors.remote_eq,
    Envelope.verify_signedBy honest _ _ _ bounded⟩

omit [DecidableEq ν] in
theorem unforged_of_mem
    {log : List (ν × Operation × Outcome)}
    {origin : ν}
    {operation : Operation}
    {outcome : Outcome}
    {envelope : Envelope}
    (logged : (origin, operation, outcome) ∈ log)
    (sent : envelope ∈ Outcome.sent outcome) :
    Unforged primitives scope log envelope :=
  fun _ _ => ⟨origin, operation, outcome, envelope, logged, sent, rfl, rfl⟩

section Negotiation

variable {leftSigner rightSigner : EndpointSigner}
variable {offerBinding answerBinding : WebRtcBinding}
variable {offerDescription answerDescription : List UInt8}

/-- Two honest ends can always negotiate: one offers, the other one answers, the
first one applies the answer and both report the transport connected. -/
theorem exists_negotiation
    (federation : FederationId)
    (attempt : AttemptId)
    (leftHonest : leftSigner.Honest primitives)
    (rightHonest : rightSigner.Honest primitives)
    (offerBounded :
      (Body.offer offerBinding offerDescription).WithinBounds)
    (answerBounded : ∀ offerId,
      (Body.answer offerId answerBinding answerDescription).WithinBounds)
    (scope : Envelope → Prop) :
    ∃ network : ConnectionNetwork Side, ∃ answer,
      Reachable primitives scope
        (Side.pair
          (fresh federation attempt leftSigner.endpoint rightSigner.endpoint)
          (fresh federation attempt rightSigner.endpoint leftSigner.endpoint))
        network ∧
      (Side.left, Operation.receive answer,
        .ok [.applyAnswer answerBinding answerDescription]) ∈ network.log ∧
      (∀ side, (network.states side).phase = .established) ∧
      (network.states .right).seen =
        [((fresh federation attempt leftSigner.endpoint
          rightSigner.endpoint).outbound leftSigner
            (.offer offerBinding offerDescription)).digest primitives] := by
  let left :=
    fresh federation attempt leftSigner.endpoint rightSigner.endpoint
  let right :=
    fresh federation attempt rightSigner.endpoint leftSigner.endpoint
  let offer := left.outbound leftSigner (.offer offerBinding offerDescription)
  let offerId := offer.digest primitives
  let offering : Connection :=
    { left with negotiation := some ⟨offerId, none⟩, phase := .offerSent }
  let invited : Connection := Connection.remember
    { right with
      negotiation := some ⟨offerId, none⟩
      phase := .offerReceived } offerId
  let answer := invited.outbound rightSigner
    (.answer offerId answerBinding answerDescription)
  have started : Reachable primitives scope (Side.pair left right)
      ⟨Side.pair left right, []⟩ := .start
  have offers : Transition primitives left
      (.beginOffer leftSigner offerBinding offerDescription)
      [.openControlChannel, .send offer] offering :=
    .beginOffer rfl rfl offerBounded
  have accepts : Transition primitives right (.receive offer)
      [.applyOffer offerBinding offerDescription] invited :=
    .receive
      (admits_outbound ⟨rfl, rfl, rfl, rfl⟩ rfl leftHonest offerBounded)
      List.not_mem_nil (.offer rfl)
  have answers : Transition primitives invited
      (.answer rightSigner answerBinding answerDescription) [.send answer] _ :=
    @Transition.answer primitives invited rightSigner answerBinding
      answerDescription ⟨offerId, none⟩ rfl rfl rfl (answerBounded offerId)
  have applies : Transition primitives offering (.receive answer)
      [.applyAnswer answerBinding answerDescription] _ :=
    .receive
      (admits_outbound ⟨rfl, rfl, rfl, rfl⟩ rfl rightHonest
        (answerBounded offerId))
      List.not_mem_nil (.answer rfl rfl)
  have offered := reachable_left started offers trivial
  have accepted := reachable_right offered accepts
    (unforged_of_mem List.mem_cons_self (Outcome.mem_sent_send.mpr rfl))
  have answered := reachable_right accepted answers trivial
  have concluded := reachable_left answered applies
    (unforged_of_mem (List.mem_append_right _ List.mem_cons_self)
      (Outcome.mem_sent_send.mpr rfl))
  have leftConnected :=
    reachable_left concluded (.transportConnected (.inr rfl)) trivial
  have bothConnected :=
    reachable_right leftConnected (.transportConnected (.inl rfl)) trivial
  refine ⟨_, answer, bothConnected, ?_, ?_, rfl⟩
  · simp
  · intro side
    cases side <;> rfl

/-- The sample ends negotiate, whatever the scope of unforgeability. -/
theorem exists_sample_negotiation (scope : Envelope → Prop) :
    ∃ network : ConnectionNetwork Side, ∃ answer,
      Reachable .sample scope
        (Side.pair (.sample 0 1) (.sample 1 0)) network ∧
      (Side.left, Operation.receive answer,
        .ok [.applyAnswer ⟨Vector.replicate 32 0⟩ []]) ∈ network.log ∧
      (∀ side, (network.states side).phase = .established) ∧
      (network.states .right).seen =
        [((Connection.sample 0 1).outbound (.sample 0)
          (.offer ⟨Vector.replicate 32 0⟩ [])).digest .sample] := by
  have offerBounded :
      (Body.offer ⟨Vector.replicate 32 0⟩ []).WithinBounds := Nat.zero_le _
  have answerBounded : ∀ offerId,
      (Body.answer offerId ⟨Vector.replicate 32 0⟩ []).WithinBounds :=
    fun _ => Nat.zero_le _
  exact exists_negotiation _ _ (EndpointSigner.sample_honest 0)
    (EndpointSigner.sample_honest 1) offerBounded answerBounded scope

end Negotiation

/-- Whatever a connection with an honest peer acts upon was emitted before by a
connection of that peer with the mirrored tuple, with unchanged content, and no
connection acts on an envelope of its own endpoint. -/
structure NoCrossTalk
    (honest : EndpointIdentity → Prop)
    (network : ConnectionNetwork ν) : Prop where
  emitted : ∀ earlier later node envelope actions,
    network.log = earlier ++ (node, .receive envelope, .ok actions) :: later →
    actions ≠ [] →
    honest (network.states node).remoteEndpoint →
      ∃ origin operation outcome action,
        (origin, operation, outcome) ∈ earlier ∧
          envelope ∈ Outcome.sent outcome ∧
          (network.states origin).Mirrors (network.states node) ∧
          actions = [action] ∧ operation.Conveys action
  foreign : ∀ node other envelope actions operation outcome,
    (node, .receive envelope, .ok actions) ∈ network.log →
    actions ≠ [] →
    (other, operation, outcome) ∈ network.log →
    envelope ∈ Outcome.sent outcome →
      (network.states other).localEndpoint ≠
        (network.states node).localEndpoint

/-- Sessions do not leak into each other along any run. -/
theorem no_cross_talk
    {primitives : Primitives}
    {honest : EndpointIdentity → Prop}
    {initial : ν → Connection}
    {network : ConnectionNetwork ν}
    (created : ∀ node, ∃ federation attempt localEndpoint remoteEndpoint,
      Connection.new federation attempt localEndpoint remoteEndpoint =
        .ok (initial node))
    (reachable : Reachable primitives (fun envelope => honest envelope.sender)
      initial network) :
    NoCrossTalk honest network := by
  constructor
  · intro earlier later node envelope actions log_eq nonempty trusted
    refine acted_upon_was_emitted reachable log_eq nonempty ?_
    intro admitted
    rw [admitted.sender_eq]
    exact trusted
  · intro node other envelope actions operation outcome received nonempty
      logged sent local_eq
    obtain ⟨earlier, later, log_eq⟩ := List.append_of_mem received
    obtain ⟨before, -, -, -, same, after, transition⟩ :=
      exists_transition reachable log_eq
    have issued := issues_of_mem_sent reachable logged sent
    obtain ⟨federation, attempt, localEndpoint, remoteEndpoint, made⟩ :=
      created node
    obtain ⟨different, initial_eq⟩ := new_eq_ok_iff.mp made
    have pinned := pins_eq reachable node
    rw [initial_eq] at pinned
    simp only [pins, fresh, Prod.mk.injEq] at pinned
    cases transition with
    | duplicate admitted known => exact nonempty rfl
    | receive admitted fresh reacts =>
        have admittedNow := admitted.of_pins_eq same.symm
        apply different
        rw [← pinned.2.2.1, ← pinned.2.2.2, ← admittedNow.sender_eq,
          issued.sender_eq, local_eq]

/-- The theorem speaks about a run in which an answer is applied. -/
theorem no_cross_talk_sample :
    ∃ network : ConnectionNetwork Side, ∃ answer action,
      (Side.left, Operation.receive answer, .ok [action]) ∈ network.log ∧
        NoCrossTalk (fun _ => True) network := by
  obtain ⟨network, answer, reachable, received, -, -⟩ :=
    exists_sample_negotiation fun _ => True
  refine ⟨network, answer, _, received, no_cross_talk ?_ reachable⟩
  intro side
  cases side with
  | left => exact ⟨_, _, _, _, new_sample (by decide : (0 : UInt8) ≠ 1)⟩
  | right => exact ⟨_, _, _, _, new_sample (by decide : (1 : UInt8) ≠ 0)⟩

end ConnectionNetwork

end Core
end Fcp
