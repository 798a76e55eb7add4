import Fcp.Reactive.Window
import Fcp.Core.Connection
import Fcp.Core.EnvelopeCanonical

/-!
# Transitions of a connection

Every successful operation of a connection is one of the transitions listed
here, and every failing operation leaves the connection as it was.  Later
modules reason about transitions and no longer about the method bodies.
-/

namespace Fcp
namespace Core

open Rust

/-! ## Envelopes made by a signer -/

namespace Envelope

/-- The envelope a signer makes for a body. -/
def signedBy
    (signer : EndpointSigner)
    (federation : FederationId)
    (attempt : AttemptId)
    (recipient : EndpointIdentity)
    (body : Body) : Envelope :=
  let unsigned : Envelope :=
    { federation := federation
      attempt := attempt
      sender := signer.endpoint
      recipient := recipient
      body := body
      classicalSignature := Vector.replicate 64 0
      postQuantumSignature := Vector.replicate mlDsa65SignatureBytes 0 }
  { unsigned with
    classicalSignature := signer.signClassical unsigned.transcript
    postQuantumSignature := signer.signPostQuantum unsigned.transcript }

theorem sign_eq_ok_iff
    {signer : EndpointSigner}
    {federation : FederationId}
    {attempt : AttemptId}
    {recipient : EndpointIdentity}
    {body : Body}
    {envelope : Envelope} :
    sign signer federation attempt recipient body = .ok envelope ↔
      body.WithinBounds ∧
        envelope = signedBy signer federation attempt recipient body := by
  unfold sign signedBy
  simp only [bind_eq_ok_iff, Body.validate_eq_ok_iff, signedBytes_eq_ok_iff,
    pure, Except.pure, Except.ok.injEq]
  constructor
  · rintro ⟨_, bounded, _, ⟨-, rfl⟩, rfl⟩
    exact ⟨bounded, rfl⟩
  · rintro ⟨bounded, rfl⟩
    exact ⟨(), bounded, _, ⟨bounded, rfl⟩, rfl⟩

/-- The digest of the complete signed spelling. -/
def digest (primitives : Primitives) (envelope : Envelope) : EnvelopeId :=
  ⟨primitives.blake3 (envelope.transcript ++ envelope.signatures)⟩

theorem id_eq_ok_iff
    {primitives : Primitives}
    {envelope : Envelope}
    {id : EnvelopeId} :
    envelope.id primitives = .ok id ↔
      envelope.body.WithinBounds ∧ id = envelope.digest primitives := by
  unfold Envelope.id digest
  simp only [bind_eq_ok_iff, encode_eq_ok_iff, pure, Except.pure,
    Except.ok.injEq]
  constructor
  · rintro ⟨_, ⟨bounded, rfl⟩, rfl⟩
    exact ⟨bounded, rfl⟩
  · rintro ⟨bounded, rfl⟩
    exact ⟨_, ⟨bounded, rfl⟩, rfl⟩

/-- An envelope made by an honest signer verifies. -/
theorem verify_signedBy
    {primitives : Primitives}
    {signer : EndpointSigner}
    (honest : signer.Honest primitives)
    (federation : FederationId)
    (attempt : AttemptId)
    (recipient : EndpointIdentity)
    {body : Body}
    (bounded : body.WithinBounds) :
    (signedBy signer federation attempt recipient body).verify primitives =
      .ok () :=
  verify_eq_ok_iff.mpr ⟨bounded, honest _⟩

end Envelope

namespace Connection

/-- The idle connection pinned to a tuple. -/
def fresh
    (federation : FederationId)
    (attempt : AttemptId)
    (localEndpoint remoteEndpoint : EndpointIdentity) : Connection where
  federation := federation
  attempt := attempt
  localEndpoint := localEndpoint
  remoteEndpoint := remoteEndpoint
  phase := .idle
  negotiation := none
  seen := []

theorem new_eq_ok_iff
    {federation : FederationId}
    {attempt : AttemptId}
    {localEndpoint remoteEndpoint : EndpointIdentity}
    {connection : Connection} :
    Connection.new federation attempt localEndpoint remoteEndpoint =
        .ok connection ↔
      localEndpoint ≠ remoteEndpoint ∧
        connection = fresh federation attempt localEndpoint remoteEndpoint := by
  unfold Connection.new
  simp only [bind_eq_ok_iff, rejectIf_eq_ok_iff, pure, Except.pure,
    Except.ok.injEq]
  constructor
  · rintro ⟨_, different, rfl⟩
    exact ⟨different, rfl⟩
  · rintro ⟨different, rfl⟩
    exact ⟨(), different, rfl⟩

/-- A sample connection between two sample identities. -/
def sample (localByte remoteByte : UInt8) : Connection :=
  fresh ⟨Vector.replicate 32 0⟩ ⟨Vector.replicate 16 0⟩ (.sample localByte)
    (.sample remoteByte)

theorem new_sample
    {localByte remoteByte : UInt8}
    (different : localByte ≠ remoteByte) :
    Connection.new ⟨Vector.replicate 32 0⟩ ⟨Vector.replicate 16 0⟩
        (.sample localByte) (.sample remoteByte) =
      .ok (sample localByte remoteByte) :=
  new_eq_ok_iff.mpr ⟨EndpointIdentity.sample_ne different, rfl⟩

/-- The envelope a connection sends for a body. -/
def outbound
    (connection : Connection)
    (signer : EndpointSigner)
    (body : Body) : Envelope :=
  Envelope.signedBy signer connection.federation connection.attempt
    connection.remoteEndpoint body

/-- The control envelope that a connection sends for a payload. -/
def control
    (connection : Connection)
    (signer : EndpointSigner)
    (payload : List UInt8) : Envelope :=
  connection.outbound signer (.cfrControl payload)

/-- The pinned tuple and both signatures of an inbound envelope match. -/
structure Admits
    (primitives : Primitives)
    (connection : Connection)
    (envelope : Envelope) : Prop where
  federation_eq : envelope.federation = connection.federation
  attempt_eq : envelope.attempt = connection.attempt
  sender_eq : envelope.sender = connection.remoteEndpoint
  recipient_eq : envelope.recipient = connection.localEndpoint
  verified : envelope.verify primitives = .ok ()

/-- A candidate parent is the active offer or the active answer. -/
def AllowsParent (connection : Connection) (parent : EnvelopeId) : Prop :=
  connection.phase.Live ∧
    ∃ ids, connection.negotiation = some ids ∧
      (parent = ids.offer ∨ ids.answer = some parent)

/-- The connection after an accepted id has entered its window. -/
def remember (connection : Connection) (id : EnvelopeId) : Connection :=
  { connection with seen := Reactive.slide maxSeenEnvelopes connection.seen id }

/-- The reaction to the body of a fresh inbound envelope. -/
inductive Reacts
    (id : EnvelopeId)
    (sender : EndpointIdentity)
    (connection : Connection) : Body → Action → Connection → Prop
  | offer
      {binding : WebRtcBinding}
      {description : List UInt8}
      (phase_eq : connection.phase = .idle) :
      Reacts id sender connection (.offer binding description)
        (.applyOffer binding description)
        { connection with
          negotiation := some ⟨id, none⟩
          phase := .offerReceived }
  | answer
      {offerId : EnvelopeId}
      {earlier : Option EnvelopeId}
      {binding : WebRtcBinding}
      {description : List UInt8}
      (phase_eq : connection.phase = .offerSent)
      (negotiation_eq : connection.negotiation = some ⟨offerId, earlier⟩) :
      Reacts id sender connection (.answer offerId binding description)
        (.applyAnswer binding description)
        { connection with
          negotiation := some ⟨offerId, some id⟩
          phase := .answerReceived }
  | candidate
      {parentId : EnvelopeId}
      {sequence : UInt32}
      {fragment : List UInt8}
      (allowed : connection.AllowsParent parentId) :
      Reacts id sender connection (.candidate parentId sequence fragment)
        (.addCandidate sequence fragment) connection
  | close
      {reason : CloseCode}
      (started : connection.phase ≠ .idle)
      (unfinished : connection.phase ≠ .closed) :
      Reacts id sender connection (.close reason) (.closeTransport reason)
        { connection with phase := .closed }
  | cfrControl
      {payload : List UInt8}
      (phase_eq : connection.phase = .established) :
      Reacts id sender connection (.cfrControl payload)
        (.deliverCfr id sender payload) connection

/-- The successful operations of a connection. -/
inductive Transition
    (primitives : Primitives)
    (connection : Connection) :
    Operation → List Action → Connection → Prop
  | beginOffer
      {signer : EndpointSigner}
      {binding : WebRtcBinding}
      {description : List UInt8}
      (signer_eq : signer.endpoint = connection.localEndpoint)
      (phase_eq : connection.phase = .idle)
      (bounded : (Body.offer binding description).WithinBounds) :
      Transition primitives connection
        (.beginOffer signer binding description)
        [.openControlChannel,
          .send (connection.outbound signer (.offer binding description))]
        { connection with
          negotiation := some
            ⟨(connection.outbound signer (.offer binding description)).digest
              primitives, none⟩
          phase := .offerSent }
  | answer
      {signer : EndpointSigner}
      {binding : WebRtcBinding}
      {description : List UInt8}
      {ids : NegotiationIds}
      (signer_eq : signer.endpoint = connection.localEndpoint)
      (phase_eq : connection.phase = .offerReceived)
      (negotiation_eq : connection.negotiation = some ids)
      (bounded : (Body.answer ids.offer binding description).WithinBounds) :
      Transition primitives connection
        (.answer signer binding description)
        [.send (connection.outbound signer
          (.answer ids.offer binding description))]
        { connection with
          negotiation := some ⟨ids.offer, some ((connection.outbound signer
            (.answer ids.offer binding description)).digest primitives)⟩
          phase := .answerSent }
  | candidate
      {signer : EndpointSigner}
      {sequence : UInt32}
      {fragment : List UInt8}
      {ids : NegotiationIds}
      (signer_eq : signer.endpoint = connection.localEndpoint)
      (live : connection.phase.Live)
      (negotiation_eq : connection.negotiation = some ids)
      (bounded : (Body.candidate (ids.answer.getD ids.offer) sequence
        fragment).WithinBounds) :
      Transition primitives connection
        (.candidate signer sequence fragment)
        [.send (connection.outbound signer
          (.candidate (ids.answer.getD ids.offer) sequence fragment))]
        connection
  | cfrControl
      {signer : EndpointSigner}
      {payload : List UInt8}
      (signer_eq : signer.endpoint = connection.localEndpoint)
      (phase_eq : connection.phase = .established)
      (bounded : (Body.cfrControl payload).WithinBounds) :
      Transition primitives connection (.cfrControl signer payload)
        [.send (connection.outbound signer (.cfrControl payload))] connection
  | close
      {signer : EndpointSigner}
      {reason : CloseCode}
      (signer_eq : signer.endpoint = connection.localEndpoint)
      (started : connection.phase ≠ .idle)
      (unfinished : connection.phase ≠ .closed) :
      Transition primitives connection (.close signer reason)
        [.send (connection.outbound signer (.close reason))]
        { connection with phase := .closed }
  | duplicate
      {envelope : Envelope}
      (admitted : connection.Admits primitives envelope)
      (known : envelope.digest primitives ∈ connection.seen) :
      Transition primitives connection (.receive envelope) [] connection
  | receive
      {envelope : Envelope}
      {action : Action}
      {later : Connection}
      (admitted : connection.Admits primitives envelope)
      (fresh : envelope.digest primitives ∉ connection.seen)
      (reacts : Reacts (envelope.digest primitives) envelope.sender connection
        envelope.body action later) :
      Transition primitives connection (.receive envelope) [action]
        (later.remember (envelope.digest primitives))
  | transportConnected
      (phase_eq : connection.phase = .answerSent ∨
        connection.phase = .answerReceived) :
      Transition primitives connection .transportConnected []
        { connection with phase := .established }
  | transportFailed
      (started : connection.phase ≠ .idle)
      (unfinished : connection.phase ≠ .closed) :
      Transition primitives connection .transportFailed []
        { connection with phase := .closed }

/-! ## Checks -/

theorem requireLocalSigner_eq_ok_iff
    {connection : Connection}
    {signer : EndpointSigner}
    {result : Unit} :
    connection.requireLocalSigner signer = .ok result ↔
      signer.endpoint = connection.localEndpoint := by
  rw [requireLocalSigner, rejectIf_eq_ok_iff, Decidable.not_not]

theorem validateInbound_eq_ok_iff
    {primitives : Primitives}
    {connection : Connection}
    {envelope : Envelope}
    {result : Unit} :
    connection.validateInbound primitives envelope = .ok result ↔
      connection.Admits primitives envelope := by
  unfold validateInbound
  simp only [bind_eq_ok_iff, rejectIf_eq_ok_iff, Decidable.not_not]
  constructor
  · rintro ⟨_, federation_eq, _, attempt_eq, _, sender_eq, _, recipient_eq,
      verified⟩
    exact ⟨federation_eq, attempt_eq, sender_eq, recipient_eq, verified⟩
  · rintro ⟨federation_eq, attempt_eq, sender_eq, recipient_eq, verified⟩
    exact ⟨(), federation_eq, (), attempt_eq, (), sender_eq, (), recipient_eq,
      verified⟩

theorem validateCandidateParent_eq_ok_iff
    {connection : Connection}
    {parent : EnvelopeId}
    {result : Unit} :
    connection.validateCandidateParent parent = .ok result ↔
      connection.AllowsParent parent := by
  unfold validateCandidateParent AllowsParent
  simp only [bind_eq_ok_iff, rejectIf_eq_ok_iff, okOr_eq_ok_iff,
    not_not, not_and_or]
  constructor
  · rintro ⟨ids, negotiation_eq, _, live, allowed⟩
    exact ⟨live, ids, negotiation_eq, allowed⟩
  · rintro ⟨live, ids, negotiation_eq, allowed⟩
    exact ⟨ids, negotiation_eq, (), live, allowed⟩

theorem call_noteSeen (id : EnvelopeId) (connection : Connection) :
    (noteSeen id).call connection = (.ok (), connection.remember id) := by
  unfold noteSeen remember Reactive.slide
  rw [Method.call_get_bind]
  split <;> rfl

/-! ## Operations -/

variable {primitives : Primitives}
variable {connection later : Connection}

theorem call_beginOffer_eq_ok_iff
    {signer : EndpointSigner}
    {binding : WebRtcBinding}
    {description : List UInt8}
    {actions : List Action} :
    (beginOffer primitives signer binding description).call connection =
        (.ok actions, later) ↔
      Transition primitives connection (.beginOffer signer binding description)
        actions later := by
  unfold beginOffer
  simp only [Method.call_get_bind, Method.call_lift_bind_eq_ok_iff,
    Method.call_modify_bind, Method.call_pure, Prod.mk.injEq, Except.ok.injEq,
    requireLocalSigner_eq_ok_iff, rejectIf_eq_ok_iff, Decidable.not_not,
    Envelope.sign_eq_ok_iff, Envelope.id_eq_ok_iff]
  constructor
  · rintro ⟨_, signer_eq, _, phase_eq, _, ⟨bounded, rfl⟩, _, ⟨-, rfl⟩, rfl, rfl⟩
    exact .beginOffer signer_eq phase_eq bounded
  · intro transition
    cases transition with
    | beginOffer signer_eq phase_eq bounded =>
        exact ⟨(), signer_eq, (), phase_eq, _, ⟨bounded, rfl⟩, _,
          ⟨bounded, rfl⟩, rfl, rfl⟩

theorem call_answer_eq_ok_iff
    {signer : EndpointSigner}
    {binding : WebRtcBinding}
    {description : List UInt8}
    {actions : List Action} :
    ((fun action => [action]) <$>
        answer primitives signer binding description).call connection =
        (.ok actions, later) ↔
      Transition primitives connection (.answer signer binding description)
        actions later := by
  unfold answer
  simp only [Method.call_map_eq_ok_iff, Method.call_get_bind,
    Method.call_lift_bind_eq_ok_iff, Method.call_modify_bind, Method.call_pure,
    Prod.mk.injEq, Except.ok.injEq, requireLocalSigner_eq_ok_iff,
    rejectIf_eq_ok_iff, okOr_eq_ok_iff, Decidable.not_not,
    Envelope.sign_eq_ok_iff, Envelope.id_eq_ok_iff]
  constructor
  · rintro ⟨_, ⟨_, signer_eq, _, phase_eq, ids, negotiation_eq, _,
      ⟨bounded, rfl⟩, _, ⟨-, rfl⟩, rfl, rfl⟩, rfl⟩
    exact .answer signer_eq phase_eq negotiation_eq bounded
  · intro transition
    cases transition with
    | answer signer_eq phase_eq negotiation_eq bounded =>
        exact ⟨_, ⟨(), signer_eq, (), phase_eq, _, negotiation_eq, _,
          ⟨bounded, rfl⟩, _, ⟨bounded, rfl⟩, rfl, rfl⟩, rfl⟩

theorem map_candidate_eq_ok_iff
    {signer : EndpointSigner}
    {sequence : UInt32}
    {fragment : List UInt8}
    {actions : List Action} :
    ((connection.candidate signer sequence fragment).map fun action => [action],
        connection) = (.ok actions, later) ↔
      Transition primitives connection (.candidate signer sequence fragment)
        actions later := by
  unfold candidate
  simp only [Prod.mk.injEq, map_eq_ok_iff, bind_eq_ok_iff,
    requireLocalSigner_eq_ok_iff, rejectIf_eq_ok_iff, okOr_eq_ok_iff,
    Decidable.not_not, Envelope.sign_eq_ok_iff, pure, Except.pure,
    Except.ok.injEq]
  constructor
  · rintro ⟨⟨_, ⟨_, signer_eq, _, live, ids, negotiation_eq, _,
      ⟨bounded, rfl⟩, rfl⟩, rfl⟩, rfl⟩
    exact .candidate signer_eq live negotiation_eq bounded
  · intro transition
    cases transition with
    | candidate signer_eq live negotiation_eq bounded =>
        exact ⟨⟨_, ⟨(), signer_eq, (), live, _, negotiation_eq, _,
          ⟨bounded, rfl⟩, rfl⟩, rfl⟩, rfl⟩

theorem cfrControl_eq_ok_iff
    {signer : EndpointSigner}
    {payload : List UInt8}
    {action : Action} :
    connection.cfrControl signer payload = .ok action ↔
      signer.endpoint = connection.localEndpoint ∧
        connection.phase = .established ∧
        (Body.cfrControl payload).WithinBounds ∧
        action = .send (connection.control signer payload) := by
  unfold cfrControl
  simp only [bind_eq_ok_iff, requireLocalSigner_eq_ok_iff, rejectIf_eq_ok_iff,
    Decidable.not_not, Envelope.sign_eq_ok_iff, pure, Except.pure,
    Except.ok.injEq]
  constructor
  · rintro ⟨_, signer_eq, _, phase_eq, _, ⟨bounded, rfl⟩, rfl⟩
    exact ⟨signer_eq, phase_eq, bounded, rfl⟩
  · rintro ⟨signer_eq, phase_eq, bounded, rfl⟩
    exact ⟨(), signer_eq, (), phase_eq, _, ⟨bounded, rfl⟩, rfl⟩

theorem map_cfrControl_eq_ok_iff
    {signer : EndpointSigner}
    {payload : List UInt8}
    {actions : List Action} :
    ((connection.cfrControl signer payload).map fun action => [action],
        connection) = (.ok actions, later) ↔
      Transition primitives connection (.cfrControl signer payload)
        actions later := by
  simp only [Prod.mk.injEq, map_eq_ok_iff, cfrControl_eq_ok_iff]
  constructor
  · rintro ⟨⟨_, ⟨signer_eq, phase_eq, bounded, rfl⟩, rfl⟩, rfl⟩
    exact .cfrControl signer_eq phase_eq bounded
  · intro transition
    cases transition with
    | cfrControl signer_eq phase_eq bounded =>
        exact ⟨⟨_, ⟨signer_eq, phase_eq, bounded, rfl⟩, rfl⟩, rfl⟩

theorem call_close_eq_ok_iff
    {signer : EndpointSigner}
    {reason : CloseCode}
    {actions : List Action} :
    ((fun action => [action]) <$> close signer reason).call connection =
        (.ok actions, later) ↔
      Transition primitives connection (.close signer reason) actions later := by
  unfold close
  simp only [Method.call_map_eq_ok_iff, Method.call_get_bind,
    Method.call_lift_bind_eq_ok_iff, Method.call_modify_bind, Method.call_pure,
    Prod.mk.injEq, Except.ok.injEq, requireLocalSigner_eq_ok_iff,
    rejectIf_eq_ok_iff, not_or, Envelope.sign_eq_ok_iff]
  constructor
  · rintro ⟨_, ⟨_, signer_eq, _, ⟨started, unfinished⟩, _, ⟨-, rfl⟩, rfl, rfl⟩,
      rfl⟩
    exact .close signer_eq started unfinished
  · intro transition
    cases transition with
    | close signer_eq started unfinished =>
        exact ⟨_, ⟨(), signer_eq, (), ⟨started, unfinished⟩, _,
          ⟨trivial, rfl⟩, rfl, rfl⟩, rfl⟩

theorem call_receiveBody_eq_ok_iff
    {id : EnvelopeId}
    {sender : EndpointIdentity}
    {body : Body}
    {actions : List Action} :
    (receiveBody id sender body).call connection = (.ok actions, later) ↔
      ∃ action, actions = [action] ∧
        Reacts id sender connection body action later := by
  cases body with
  | offer binding description =>
      simp only [receiveBody, Method.call_get_bind,
        Method.call_lift_bind_eq_ok_iff, Method.call_modify_bind,
        Method.call_pure, Prod.mk.injEq, Except.ok.injEq, rejectIf_eq_ok_iff,
        Decidable.not_not]
      constructor
      · rintro ⟨_, -, _, phase_eq, rfl, rfl⟩
        exact ⟨_, rfl, .offer phase_eq⟩
      · rintro ⟨_, rfl, reacts⟩
        cases reacts with
        | offer phase_eq =>
            exact ⟨(), by simp [phase_eq], (), phase_eq, rfl, rfl⟩
  | answer offerId binding description =>
      simp only [receiveBody, Method.call_get_bind,
        Method.call_lift_bind_eq_ok_iff, Method.call_modify_bind,
        Method.call_pure, Prod.mk.injEq, Except.ok.injEq, rejectIf_eq_ok_iff,
        okOr_eq_ok_iff, Decidable.not_not]
      constructor
      · rintro ⟨_, phase_eq, ⟨_, earlier⟩, negotiation_eq, _, rfl, rfl, rfl⟩
        exact ⟨_, rfl, .answer phase_eq negotiation_eq⟩
      · rintro ⟨_, rfl, reacts⟩
        cases reacts with
        | answer phase_eq negotiation_eq =>
            exact ⟨(), phase_eq, _, negotiation_eq, (), rfl, rfl, rfl⟩
  | candidate parentId sequence fragment =>
      simp only [receiveBody, Method.call_get_bind,
        Method.call_lift_bind_eq_ok_iff, Method.call_pure, Prod.mk.injEq,
        Except.ok.injEq, validateCandidateParent_eq_ok_iff]
      constructor
      · rintro ⟨_, allowed, rfl, rfl⟩
        exact ⟨_, rfl, .candidate allowed⟩
      · rintro ⟨_, rfl, reacts⟩
        cases reacts with
        | candidate allowed => exact ⟨(), allowed, rfl, rfl⟩
  | close reason =>
      simp only [receiveBody, Method.call_get_bind,
        Method.call_lift_bind_eq_ok_iff, Method.call_modify_bind,
        Method.call_pure, Prod.mk.injEq, Except.ok.injEq, rejectIf_eq_ok_iff,
        not_or]
      constructor
      · rintro ⟨_, ⟨started, unfinished⟩, rfl, rfl⟩
        exact ⟨_, rfl, .close started unfinished⟩
      · rintro ⟨_, rfl, reacts⟩
        cases reacts with
        | close started unfinished =>
            exact ⟨(), ⟨started, unfinished⟩, rfl, rfl⟩
  | cfrControl payload =>
      simp only [receiveBody, Method.call_get_bind,
        Method.call_lift_bind_eq_ok_iff, Method.call_pure, Prod.mk.injEq,
        Except.ok.injEq, rejectIf_eq_ok_iff, Decidable.not_not]
      constructor
      · rintro ⟨_, phase_eq, rfl, rfl⟩
        exact ⟨_, rfl, .cfrControl phase_eq⟩
      · rintro ⟨_, rfl, reacts⟩
        cases reacts with
        | cfrControl phase_eq => exact ⟨(), phase_eq, rfl, rfl⟩

theorem Admits.bounded
    {envelope : Envelope}
    (admitted : connection.Admits primitives envelope) :
    envelope.body.WithinBounds :=
  (Envelope.verify_eq_ok_iff.mp admitted.verified).1

theorem call_receive_eq_ok_iff
    {envelope : Envelope}
    {actions : List Action} :
    (receive primitives envelope).call connection = (.ok actions, later) ↔
      Transition primitives connection (.receive envelope) actions later := by
  unfold receive
  simp only [Method.call_get_bind, Method.call_lift_bind_eq_ok_iff,
    validateInbound_eq_ok_iff, Envelope.id_eq_ok_iff]
  constructor
  · rintro ⟨_, admitted, _, ⟨-, rfl⟩, called⟩
    split at called
    case isTrue known =>
      rw [Method.call_pure, Prod.mk.injEq, Except.ok.injEq] at called
      obtain ⟨rfl, rfl⟩ := called
      exact .duplicate admitted known
    case isFalse fresh =>
      obtain ⟨_, middle, reacted, noted⟩ :=
        Method.call_bind_eq_ok_iff.mp called
      obtain ⟨action, rfl, reacts⟩ := call_receiveBody_eq_ok_iff.mp reacted
      obtain ⟨_, last, remembered, returned⟩ :=
        Method.call_bind_eq_ok_iff.mp noted
      rw [call_noteSeen, Prod.mk.injEq] at remembered
      rw [Method.call_pure, Prod.mk.injEq, Except.ok.injEq,
        ← remembered.2] at returned
      obtain ⟨rfl, rfl⟩ := returned
      exact .receive admitted fresh reacts
  · intro transition
    cases transition with
    | duplicate admitted known =>
        refine ⟨(), admitted, _, ⟨admitted.bounded, rfl⟩, ?_⟩
        rw [if_pos known, Method.call_pure]
    | receive admitted fresh reacts =>
        refine ⟨(), admitted, _, ⟨admitted.bounded, rfl⟩, ?_⟩
        rw [if_neg fresh]
        exact Method.call_bind_eq_ok_iff.mpr ⟨_, _,
          call_receiveBody_eq_ok_iff.mpr ⟨_, rfl, reacts⟩,
          Method.call_bind_eq_ok_iff.mpr
            ⟨_, _, call_noteSeen _ _, Method.call_pure _ _⟩⟩

theorem call_transportConnected_eq_ok_iff {actions : List Action} :
    transportConnected.call connection = (.ok actions, later) ↔
      Transition primitives connection .transportConnected actions later := by
  unfold transportConnected
  simp only [Method.call_get_bind, Method.call_lift_bind_eq_ok_iff,
    Method.call_modify_bind, Method.call_pure, Prod.mk.injEq, Except.ok.injEq,
    rejectIf_eq_ok_iff, Decidable.not_not]
  constructor
  · rintro ⟨_, phase_eq, rfl, rfl⟩
    exact .transportConnected phase_eq
  · intro transition
    cases transition with
    | transportConnected phase_eq => exact ⟨(), phase_eq, rfl, rfl⟩

theorem call_transportFailed_eq_ok_iff {actions : List Action} :
    ((fun _ => []) <$> transportFailed).call connection =
        (.ok actions, later) ↔
      Transition primitives connection .transportFailed actions later := by
  unfold transportFailed
  simp only [Method.call_map_eq_ok_iff, Method.call_get_bind,
    Method.call_lift_bind_eq_ok_iff, Method.call_modify, Prod.mk.injEq,
    rejectIf_eq_ok_iff, not_or]
  constructor
  · rintro ⟨_, ⟨_, ⟨started, unfinished⟩, -, rfl⟩, rfl⟩
    exact .transportFailed started unfinished
  · intro transition
    cases transition with
    | transportFailed started unfinished =>
        exact ⟨(), ⟨(), ⟨started, unfinished⟩, trivial, rfl⟩, rfl⟩

/-! ## All operations -/

/-- The successful operations are exactly the transitions. -/
theorem perform_eq_ok_iff
    {operation : Operation}
    {actions : List Action} :
    operation.perform primitives connection = (.ok actions, later) ↔
      Transition primitives connection operation actions later := by
  cases operation with
  | beginOffer signer binding description => exact call_beginOffer_eq_ok_iff
  | answer signer binding description => exact call_answer_eq_ok_iff
  | candidate signer sequence fragment => exact map_candidate_eq_ok_iff
  | cfrControl signer payload => exact map_cfrControl_eq_ok_iff
  | close signer reason => exact call_close_eq_ok_iff
  | receive envelope => exact call_receive_eq_ok_iff
  | transportConnected => exact call_transportConnected_eq_ok_iff
  | transportFailed => exact call_transportFailed_eq_ok_iff

theorem atomicAt_receiveBody
    (id : EnvelopeId)
    (sender : EndpointIdentity)
    (body : Body)
    (connection : Connection) :
    Method.AtomicAt connection (receiveBody id sender body) := by
  cases body with
  | offer binding description =>
      exact .get_bind (.lift_bind fun _ => .lift_bind fun _ => .of_ok rfl)
  | answer offerId binding description =>
      exact .get_bind (.lift_bind fun _ => .lift_bind fun _ =>
        .lift_bind fun _ => .of_ok rfl)
  | candidate parentId sequence fragment =>
      exact .get_bind (.lift_bind fun _ => .of_ok rfl)
  | close reason => exact .get_bind (.lift_bind fun _ => .of_ok rfl)
  | cfrControl payload => exact .get_bind (.lift_bind fun _ => .of_ok rfl)

theorem atomicAt_receive
    (primitives : Primitives)
    (envelope : Envelope)
    (connection : Connection) :
    Method.AtomicAt connection (receive primitives envelope) := by
  refine .get_bind (.lift_bind fun _ => .lift_bind fun id => ?_)
  split
  · exact .of_ok rfl
  · refine (atomicAt_receiveBody id envelope.sender envelope.body
      connection).bind_of_ok ?_
    intro actions middle
    exact ⟨actions, middle.remember id, Method.call_bind_eq_ok_iff.mpr
      ⟨_, _, call_noteSeen _ _, Method.call_pure _ _⟩⟩

/-- Closing marks the connection before it signs, and signing a close envelope
always succeeds. -/
theorem atomicAt_close
    (signer : EndpointSigner)
    (reason : CloseCode)
    (connection : Connection) :
    Method.AtomicAt connection (close signer reason) := by
  have signed : Envelope.sign signer connection.federation connection.attempt
      connection.remoteEndpoint (.close reason) =
        .ok (connection.outbound signer (.close reason)) :=
    Envelope.sign_eq_ok_iff.mpr ⟨trivial, rfl⟩
  refine .get_bind (.lift_bind fun _ => .lift_bind fun _ => ?_)
  intro error later failed
  rw [Method.call_modify_bind, Method.call_lift_bind, signed] at failed
  simp at failed

/-- A failing operation leaves the connection as it was. -/
theorem perform_eq_error
    {operation : Operation}
    {error : Error}
    (failed : operation.perform primitives connection = (.error error, later)) :
    later = connection := by
  cases operation with
  | beginOffer signer binding description =>
      have atomic : Method.AtomicAt connection
          (beginOffer primitives signer binding description) :=
        .get_bind (.lift_bind fun _ => .lift_bind fun _ => .lift_bind fun _ =>
          .lift_bind fun _ => .of_ok rfl)
      exact atomic error later failed
  | answer signer binding description =>
      have atomic : Method.AtomicAt connection
          (answer primitives signer binding description) :=
        .get_bind (.lift_bind fun _ => .lift_bind fun _ => .lift_bind fun _ =>
          .lift_bind fun _ => .lift_bind fun _ => .of_ok rfl)
      exact atomic.map _ error later failed
  | candidate signer sequence fragment => exact (Prod.mk.inj failed).2.symm
  | cfrControl signer payload => exact (Prod.mk.inj failed).2.symm
  | close signer reason =>
      exact (atomicAt_close signer reason connection).map _ error later failed
  | receive envelope =>
      exact atomicAt_receive primitives envelope connection error later failed
  | transportConnected =>
      have atomic : Method.AtomicAt connection transportConnected :=
        .get_bind (.lift_bind fun _ => .of_ok rfl)
      exact atomic error later failed
  | transportFailed =>
      have atomic : Method.AtomicAt connection transportFailed :=
        .get_bind (.lift_bind fun _ => .of_ok rfl)
      exact atomic.map _ error later failed

/-- An operation either fails and changes nothing or makes a transition. -/
theorem perform_cases
    (primitives : Primitives)
    (connection : Connection)
    (operation : Operation) :
    (∃ error, operation.perform primitives connection =
        (.error error, connection)) ∨
      ∃ actions later,
        operation.perform primitives connection = (.ok actions, later) ∧
          Transition primitives connection operation actions later := by
  cases performed : operation.perform primitives connection with
  | mk result later =>
      cases result with
      | error error =>
          rw [perform_eq_error performed]
          exact .inl ⟨error, rfl⟩
      | ok actions =>
          exact .inr ⟨actions, later, rfl, perform_eq_ok_iff.mp performed⟩

/-- An operation without a transition fails. -/
theorem exists_error_of_not_transition
    {primitives : Primitives}
    {connection : Connection}
    {operation : Operation}
    (stuck : ∀ actions later,
      ¬Transition primitives connection operation actions later) :
    ∃ error, operation.perform primitives connection =
      (.error error, connection) := by
  rcases perform_cases primitives connection operation with
    failed | ⟨actions, later, -, transition⟩
  · exact failed
  · exact absurd transition (stuck actions later)

end Connection

end Core
end Fcp
