import Fcp.Reactive.InOrder
import Fcp.Core.Lifecycle
import Fcp.Core.Negotiation
import Fcp.Core.CfrDelivery

/-!
# Candidates that arrive in order

Two mirrored connections of which only one makes offers, each of them receiving
what the other one has emitted in order and without loss.  A candidate names an
offer or an answer that its sender has sent earlier on the same way or has taken
from the opposite way, so its receiver knows this parent as well.
-/

namespace Fcp
namespace Core

open Reactive Rust

/-- The signer that a caller supplies. -/
def Operation.signer? : Operation → Option EndpointSigner
  | .beginOffer signer _ _ | .answer signer _ _ | .candidate signer _ _
  | .cfrControl signer _ | .close signer _ => some signer
  | .receive _ | .transportConnected | .transportFailed => none

/-- The envelope that an operation delivers. -/
def Operation.received? : Operation → Option Envelope
  | .receive envelope => some envelope
  | _ => none

theorem Operation.eq_receive
    {operation : Operation}
    {envelope : Envelope}
    (arrives : operation.received? = some envelope) :
    operation = .receive envelope := by
  cases operation with
  | receive other => rw [Option.some.inj arrives]
  | _ => exact absurd arrives nofun

theorem Operation.received?_of_accepted?
    {operation : Operation}
    {outcome : Outcome}
    {envelope : Envelope}
    (found : accepted? (operation, outcome) = some envelope) :
    operation.received? = some envelope := by
  obtain ⟨rfl, -⟩ := accepted?_eq_some_iff.mp found
  rfl

namespace Handshake

variable {primitives : Primitives}
variable {handshake : Handshake}

/-- The parent that a connection chooses for a candidate is the digest of an
envelope of its handshake. -/
theorem exists_parent
    {ids : NegotiationIds}
    (ids_eq : handshake.ids primitives = some ids) :
    ∃ envelope, (envelope ∈ handshake.sent ∨ envelope ∈ handshake.received) ∧
      envelope.digest primitives = ids.answer.getD ids.offer := by
  cases handshake with
  | fresh => exact absurd ids_eq nofun
  | offered offer =>
      obtain rfl := Option.some.inj ids_eq
      exact ⟨offer, .inl (List.mem_singleton.mpr rfl), rfl⟩
  | invited offer =>
      obtain rfl := Option.some.inj ids_eq
      exact ⟨offer, .inr (List.mem_singleton.mpr rfl), rfl⟩
  | answered offer answer =>
      obtain rfl := Option.some.inj ids_eq
      exact ⟨answer, .inl (List.mem_singleton.mpr rfl), rfl⟩
  | concluded offer answer =>
      obtain rfl := Option.some.inj ids_eq
      exact ⟨answer, .inr (List.mem_singleton.mpr rfl), rfl⟩

/-- Every envelope of a handshake is known as a parent. -/
theorem exists_ids
    {envelope : Envelope}
    (primitives : Primitives)
    (member : envelope ∈ handshake.sent ∨ envelope ∈ handshake.received) :
    ∃ ids, handshake.ids primitives = some ids ∧
      (envelope.digest primitives = ids.offer ∨
        ids.answer = some (envelope.digest primitives)) := by
  cases handshake with
  | fresh => simp [sent, received] at member
  | _ =>
      refine ⟨_, rfl, ?_⟩
      rcases member with member | member <;>
        simp_all [sent, received]

end Handshake

namespace Connection

variable {primitives : Primitives}
variable {connection later : Connection}
variable {operation : Operation}
variable {actions : List Action}
variable {envelope : Envelope}

/-! ## What one transition sends -/

theorem Transition.exists_outbound
    (transition : Transition primitives connection operation actions later)
    (sent : envelope ∈ Outcome.sent (.ok actions)) :
    ∃ signer body, operation.signer? = some signer ∧
      signer.endpoint = connection.localEndpoint ∧ body.WithinBounds ∧
      envelope = connection.outbound signer body := by
  cases transition with
  | beginOffer signer_eq phase_eq bounded =>
      exact ⟨_, _, rfl, signer_eq, bounded, Outcome.mem_sent_send.mp sent⟩
  | answer signer_eq phase_eq negotiation_eq bounded =>
      exact ⟨_, _, rfl, signer_eq, bounded, Outcome.mem_sent_send.mp sent⟩
  | candidate signer_eq live negotiation_eq bounded =>
      exact ⟨_, _, rfl, signer_eq, bounded, Outcome.mem_sent_send.mp sent⟩
  | cfrControl signer_eq phase_eq bounded =>
      exact ⟨_, _, rfl, signer_eq, bounded, Outcome.mem_sent_send.mp sent⟩
  | close signer_eq started unfinished =>
      exact ⟨_, .close _, rfl, signer_eq, trivial, Outcome.mem_sent_send.mp sent⟩
  | duplicate admitted known => simp [Outcome.sent] at sent
  | receive admitted fresh reacts =>
      simp [Outcome.sent, reacts.sent?_eq_none] at sent
  | transportConnected phase_eq => simp [Outcome.sent] at sent
  | transportFailed started unfinished => simp [Outcome.sent] at sent

theorem Transition.length_sent_le
    (transition : Transition primitives connection operation actions later) :
    (Outcome.sent (.ok actions)).length ≤ 1 := by
  cases transition with
  | receive admitted fresh reacts =>
      simp [Outcome.sent, reacts.sent?_eq_none]
  | beginOffer signer_eq phase_eq bounded => exact Nat.le_refl 1
  | _ => simp [Outcome.sent, Action.sent?]

theorem Transition.exists_beginOffer
    (transition : Transition primitives connection operation actions later)
    (sent : envelope ∈ Outcome.sent (.ok actions))
    (kind_eq : envelope.kind = .offer) :
    ∃ signer binding description,
      operation = .beginOffer signer binding description := by
  cases transition with
  | beginOffer signer_eq phase_eq bounded => exact ⟨_, _, _, rfl⟩
  | duplicate admitted known => simp [Outcome.sent] at sent
  | receive admitted fresh reacts =>
      simp [Outcome.sent, reacts.sent?_eq_none] at sent
  | transportConnected phase_eq => simp [Outcome.sent] at sent
  | transportFailed started unfinished => simp [Outcome.sent] at sent
  | _ =>
      obtain rfl := Outcome.mem_sent_send.mp sent
      cases kind_eq

/-- The parent of a sent candidate is the answer when there is one, else the
offer. -/
theorem Transition.candidate_parent
    {parent : EnvelopeId}
    {sequence : UInt32}
    {fragment : List UInt8}
    (transition : Transition primitives connection operation actions later)
    (sent : envelope ∈ Outcome.sent (.ok actions))
    (body_eq : envelope.body = .candidate parent sequence fragment) :
    ∃ ids, connection.negotiation = some ids ∧
      parent = ids.answer.getD ids.offer := by
  cases transition with
  | @candidate signer _ _ ids signer_eq live negotiation_eq bounded =>
      obtain rfl := Outcome.mem_sent_send.mp sent
      rw [outbound, Envelope.signedBy, Body.candidate.injEq] at body_eq
      exact ⟨ids, negotiation_eq, body_eq.1.symm⟩
  | duplicate admitted known => simp [Outcome.sent] at sent
  | receive admitted fresh reacts =>
      simp [Outcome.sent, reacts.sent?_eq_none] at sent
  | transportConnected phase_eq => simp [Outcome.sent] at sent
  | transportFailed started unfinished => simp [Outcome.sent] at sent
  | _ =>
      obtain rfl := Outcome.mem_sent_send.mp sent
      cases body_eq

/-- Only a live connection refuses a body for a wrong parent, and only a
candidate. -/
theorem candidate_of_receiveBody
    {id : EnvelopeId}
    {sender : EndpointIdentity}
    {body : Body}
    (refused : (receiveBody id sender body).call connection =
      (.error .wrongCandidateParent, later)) :
    ∃ parent sequence fragment,
      body = .candidate parent sequence fragment ∧ connection.phase.Live := by
  cases body with
  | candidate parent sequence fragment =>
      refine ⟨parent, sequence, fragment, rfl, ?_⟩
      simp only [receiveBody, validateCandidateParent, Method.call_get_bind,
        Method.call_lift_bind_eq_error_iff, bind_eq_error_iff,
        rejectIf_eq_error_iff, rejectIf_eq_ok_iff, okOr_eq_error_iff,
        reduceCtorEq, and_false, false_or, Decidable.not_not] at refused
      rcases refused with ⟨⟨ids, -, _, live, -⟩, -⟩ | ⟨_, -, returned⟩
      · exact live
      · simp at returned
  | _ =>
      simp only [receiveBody, Method.call_get_bind, Method.call_modify_bind,
        Method.call_pure, Method.call_lift_bind_eq_error_iff,
        rejectIf_eq_error_iff, okOr_eq_error_iff, Prod.mk.injEq, reduceCtorEq,
        and_false, false_and, false_or, exists_false] at refused

theorem candidate_of_wrongCandidateParent
    (admitted : connection.Admits primitives envelope)
    (refused : ((Operation.receive envelope).perform primitives connection).1 =
      .error .wrongCandidateParent) :
    ∃ parent sequence fragment,
      envelope.body = .candidate parent sequence fragment ∧
        connection.phase.Live := by
  have called : (receive primitives envelope).call connection =
      (.error .wrongCandidateParent,
        ((receive primitives envelope).call connection).2) :=
    Prod.ext refused rfl
  have validated : connection.validateInbound primitives envelope = .ok () :=
    validateInbound_eq_ok_iff.mpr admitted
  have identified : envelope.id primitives = .ok (envelope.digest primitives) :=
    Envelope.id_eq_ok_iff.mpr ⟨admitted.bounded, rfl⟩
  unfold receive at called
  simp only [Method.call_get_bind, validated, identified,
    Method.call_lift_bind] at called
  split at called
  case isTrue known => simp at called
  case isFalse fresh =>
    rcases Method.call_bind_eq_error_iff.mp called with
      failed | ⟨actions, middle, -, noted⟩
    · exact candidate_of_receiveBody failed
    · rw [Method.call_bind, call_noteSeen] at noted
      exact absurd (congrArg Prod.fst noted) nofun

/-! ## Parents along a run -/

/-- The parent of a sent candidate was sent before it or has been accepted. -/
def Grounded
    (primitives : Primitives)
    (history : List (Operation × Outcome)) : Prop :=
  ∀ earlier envelope parent sequence fragment,
    earlier ++ [envelope] <+: sentEnvelopes history →
      envelope.body = .candidate parent sequence fragment →
      ∃ origin : Envelope, origin.Negotiates ∧
        origin.digest primitives = parent ∧
        (origin ∈ earlier ∨ origin ∈ accepted history)

theorem sentEnvelopes_concat
    (history : List (Operation × Outcome))
    (operation : Operation)
    (outcome : Outcome) :
    sentEnvelopes (history ++ [(operation, outcome)]) =
      sentEnvelopes history ++ Outcome.sent outcome := by
  rw [sentEnvelopes, List.flatMap_append, List.flatMap_singleton, sentEnvelopes]

theorem Grounded.concat
    {history : List (Operation × Outcome)}
    {outcome : Outcome}
    (grounded : Grounded primitives history)
    (operation : Operation)
    (single : (Outcome.sent outcome).length ≤ 1)
    (last : ∀ envelope ∈ Outcome.sent outcome,
      ∀ parent sequence fragment,
        envelope.body = .candidate parent sequence fragment →
        ∃ origin : Envelope, origin.Negotiates ∧
          origin.digest primitives = parent ∧
          (origin ∈ sentEnvelopes history ∨ origin ∈ accepted history)) :
    Grounded primitives (history ++ [(operation, outcome)]) := by
  have kept {origin : Envelope} (member : origin ∈ accepted history) :
      origin ∈ accepted (history ++ [(operation, outcome)]) :=
    mem_accepted_concat.mpr (.inl member)
  intro earlier envelope parent sequence fragment begins body_eq
  rw [sentEnvelopes_concat] at begins
  have within (inside : earlier ++ [envelope] <+: sentEnvelopes history) :
      ∃ origin : Envelope, origin.Negotiates ∧
        origin.digest primitives = parent ∧
        (origin ∈ earlier ∨
          origin ∈ accepted (history ++ [(operation, outcome)])) := by
    obtain ⟨origin, negotiates, digest_eq, member⟩ :=
      grounded earlier envelope parent sequence fragment inside body_eq
    exact ⟨origin, negotiates, digest_eq, member.imp_right kept⟩
  match sent_eq : Outcome.sent outcome with
  | [] =>
      rw [sent_eq, List.append_nil] at begins
      exact within begins
  | [signed] =>
      rw [sent_eq, List.prefix_concat_iff] at begins
      rcases begins with whole | inside
      · obtain ⟨rfl, envelope_eq⟩ := List.append_inj' whole rfl
        obtain rfl : envelope = signed := List.singleton_inj.mp envelope_eq
        obtain ⟨origin, negotiates, digest_eq, member⟩ :=
          last envelope (by simp [sent_eq]) parent sequence fragment body_eq
        exact ⟨origin, negotiates, digest_eq, member.imp_right kept⟩
      · exact within inside
  | _ :: _ :: _ => simp [sent_eq] at single

theorem Grounded.transition
    {history : List (Operation × Outcome)}
    {handshake : Handshake}
    (grounded : Grounded primitives history)
    (describes : handshake.Describes primitives connection history)
    (transition : Transition primitives connection operation actions later) :
    Grounded primitives (history ++ [(operation, .ok actions)]) := by
  refine grounded.concat operation transition.length_sent_le ?_
  intro envelope sent parent sequence fragment body_eq
  obtain ⟨ids, negotiation_eq, rfl⟩ := transition.candidate_parent sent body_eq
  obtain ⟨origin, member, digest_eq⟩ :=
    Handshake.exists_parent (describes.negotiation_eq.symm.trans negotiation_eq)
  rcases member with member | member
  · obtain ⟨sentBefore, negotiates⟩ := (describes.sent_iff origin).mp member
    exact ⟨origin, negotiates, digest_eq, .inl sentBefore⟩
  · obtain ⟨acceptedBefore, negotiates⟩ :=
      (describes.received_iff origin).mp member
    exact ⟨origin, negotiates, digest_eq, .inr acceptedBefore⟩

theorem session_grounded
    (primitives : Primitives)
    (federation : FederationId)
    (attempt : AttemptId)
    (localEndpoint remoteEndpoint : EndpointIdentity)
    (operations : List Operation) :
    Grounded primitives ((fresh federation attempt localEndpoint
      remoteEndpoint).session primitives operations).history := by
  induction operations using List.reverseRecOn with
  | nil =>
      intro earlier envelope parent sequence fragment begins
      simp [session, Session.start, sentEnvelopes] at begins
  | append_singleton operations operation inductionHypothesis =>
      obtain ⟨handshake, describes⟩ := Handshake.exists_session primitives
        federation attempt localEndpoint remoteEndpoint operations
      rw [session, Session.run_concat, Session.advance]
      rcases perform_cases primitives ((fresh federation attempt localEndpoint
          remoteEndpoint).session primitives operations).state operation with
        ⟨error, performed⟩ | ⟨actions, later, performed, transition⟩
      · rw [session] at performed
        rw [performed]
        apply inductionHypothesis.concat operation
        · simp [Outcome.sent]
        · simp [Outcome.sent]
      · rw [session] at performed
        rw [performed]
        exact inductionHypothesis.transition describes transition

end Connection

/-! ## Two ends with ordered links -/

namespace ConnectionNetwork

open Connection

/-- The envelopes that one end has emitted. -/
abbrev emitted (network : ConnectionNetwork Side) (side : Side) :
    List Envelope :=
  Network.emitted Outcome.sent network side

/-- The envelopes that one end has received, whatever came of them. -/
abbrev received (network : ConnectionNetwork Side) (side : Side) :
    List Envelope :=
  Network.taken Operation.received? network side

/-- Callers sign honestly, only the initiator makes offers, and every link
delivers in order and without loss. -/
structure Orderly
    (primitives : Primitives)
    (initiator : Side)
    (network : ConnectionNetwork Side)
    (side : Side)
    (operation : Operation) : Prop where
  honest : ∀ signer, operation.signer? = some signer →
    signer.Honest primitives
  inOrder : network.InOrder Outcome.sent Operation.received? Side.other side
    operation
  offers : ∀ signer binding description,
    operation = .beginOffer signer binding description → side = initiator

theorem Orderly.of_signer
    {primitives : Primitives}
    {initiator side : Side}
    {network : ConnectionNetwork Side}
    {operation : Operation}
    {signer : EndpointSigner}
    (supplied : operation.signer? = some signer)
    (honest : signer.Honest primitives)
    (offers : ∀ signer binding description,
      operation = .beginOffer signer binding description → side = initiator) :
    Orderly primitives initiator network side operation where
  honest := by
    intro other found
    rw [supplied, Option.some.injEq] at found
    exact found ▸ honest
  inOrder := by
    intro envelope arrives
    rw [Operation.eq_receive arrives] at supplied
    exact absurd supplied nofun
  offers := offers

theorem Orderly.of_received
    {primitives : Primitives}
    {initiator side : Side}
    {network : ConnectionNetwork Side}
    {envelope : Envelope}
    (next : network.received side ++ [envelope] <+:
      network.emitted side.other) :
    Orderly primitives initiator network side (.receive envelope) where
  honest := nofun
  inOrder := by
    intro message arrives
    rw [← Option.some.inj arrives]
    exact next
  offers := nofun

/-- The digest tells the encodings of all emitted envelopes apart. -/
def CollisionFree
    (primitives : Primitives)
    (network : ConnectionNetwork Side) : Prop :=
  ∀ first second firstSide secondSide firstWire secondWire,
    first ∈ network.emitted firstSide → second ∈ network.emitted secondSide →
      Envelope.encode first = .ok firstWire →
      Envelope.encode second = .ok secondWire →
      primitives.blake3 firstWire = primitives.blake3 secondWire →
      firstWire = secondWire

section Ordered

variable {primitives : Primitives}
variable {initiator side : Side}
variable {federation : FederationId}
variable {attempt : AttemptId}
variable {left right : EndpointIdentity}
variable {network : ConnectionNetwork Side}
variable {envelope : Envelope}

/-- Networks of two ends with ordered links. -/
abbrev OrderlyReachable
    (primitives : Primitives)
    (initiator : Side)
    (initial : Side → Connection) : ConnectionNetwork Side → Prop :=
  Network.Reachable (Operation.perform primitives)
    (Orderly primitives initiator) initial

/-- What holds along every run of a created connection holds at both ends. -/
theorem OrderlyReachable.of_session
    (reachable : OrderlyReachable primitives initiator
      (ends federation attempt left right) network)
    (property : Connection → List (Operation × Outcome) → Prop)
    (holds : ∀ localEndpoint remoteEndpoint operations,
      property ((fresh federation attempt localEndpoint
          remoteEndpoint).session primitives operations).state
        ((fresh federation attempt localEndpoint
          remoteEndpoint).session primitives operations).history)
    (side : Side) :
    property (network.states side) (network.history side) := by
  obtain ⟨operations, session_eq⟩ := reachable.exists_session_eq_run side
  have state_eq := congrArg Session.state session_eq
  have history_eq := congrArg Session.history session_eq
  change network.states side = _ at state_eq
  change network.history side = _ at history_eq
  rw [state_eq, history_eq]
  cases side with
  | left => exact holds left right operations
  | right => exact holds right left operations

theorem OrderlyReachable.pins_eq
    (reachable : OrderlyReachable primitives initiator
      (ends federation attempt left right) network)
    (side : Side) :
    (network.states side).pins =
      (ends federation attempt left right side).pins := by
  obtain ⟨operations, session_eq⟩ := reachable.exists_session_eq_run side
  have state_eq := congrArg Session.state session_eq
  change network.states side = _ at state_eq
  rw [state_eq]
  exact session_pins_eq primitives _ operations

theorem OrderlyReachable.mirrors
    (reachable : OrderlyReachable primitives initiator
      (ends federation attempt left right) network)
    (side : Side) :
    (network.states side.other).Mirrors (network.states side) := by
  have mirrors : (ends federation attempt left right side.other).Mirrors
      (ends federation attempt left right side) := by
    cases side <;> exact ⟨rfl, rfl, rfl, rfl⟩
  exact mirrors.of_pins_eq (reachable.pins_eq _) (reachable.pins_eq _)

theorem OrderlyReachable.exists_handshake
    (reachable : OrderlyReachable primitives initiator
      (ends federation attempt left right) network)
    (side : Side) :
    ∃ handshake : Handshake, handshake.Describes primitives
      (network.states side) (network.history side) :=
  reachable.of_session (Handshake.Exists primitives)
    (Handshake.exists_session primitives federation attempt) side

/-- An emitted envelope was emitted by a permitted transition. -/
theorem OrderlyReachable.exists_transition
    (reachable : OrderlyReachable primitives initiator
      (ends federation attempt left right) network)
    (member : envelope ∈ network.emitted side) :
    ∃ before operation actions after,
      before.pins = (network.states side).pins ∧
        (∀ signer, operation.signer? = some signer →
          signer.Honest primitives) ∧
        (∀ signer binding description,
          operation = .beginOffer signer binding description →
            side = initiator) ∧
        Transition primitives before operation actions after ∧
        envelope ∈ Outcome.sent (.ok actions) := by
  obtain ⟨operation, outcome, logged, sent⟩ :=
    mem_sentEnvelopes_history_iff.mp member
  cases outcome with
  | error error => simp [Outcome.sent] at sent
  | ok actions =>
      obtain ⟨earlier, later, log_eq⟩ := List.append_of_mem logged
      obtain ⟨before, reachedBefore, -, allowed, returned⟩ :=
        Network.Reachable.exists_before reachable log_eq
      have same := (OrderlyReachable.pins_eq reachedBefore side).trans
        (reachable.pins_eq side).symm
      exact ⟨before.states side, operation, actions, _, same, allowed.honest,
        allowed.offers, perform_eq_ok_iff.mp (Prod.ext returned.symm rfl), sent⟩

/-- Each end admits whatever the other end has emitted. -/
theorem OrderlyReachable.admits
    (reachable : OrderlyReachable primitives initiator
      (ends federation attempt left right) network)
    (member : envelope ∈ network.emitted side.other) :
    (network.states side).Admits primitives envelope := by
  obtain ⟨before, operation, actions, after, same, honest, -, transition,
    sent⟩ := reachable.exists_transition member
  obtain ⟨signer, body, supplied, signer_eq, bounded, rfl⟩ :=
    transition.exists_outbound sent
  exact admits_outbound ((reachable.mirrors side).of_pins_eq same rfl) signer_eq
    (honest signer supplied) bounded

/-- Offers come from the initiator. -/
theorem OrderlyReachable.eq_initiator
    (reachable : OrderlyReachable primitives initiator
      (ends federation attempt left right) network)
    (member : envelope ∈ network.emitted side)
    (kind_eq : envelope.kind = .offer) :
    side = initiator := by
  obtain ⟨before, operation, actions, after, -, -, offers, transition, sent⟩ :=
    reachable.exists_transition member
  obtain ⟨signer, binding, description, operation_eq⟩ :=
    transition.exists_beginOffer sent kind_eq
  exact offers signer binding description operation_eq

/-- What one end has accepted the other end has emitted. -/
theorem OrderlyReachable.emitted_of_accepted
    (reachable : OrderlyReachable primitives initiator
      (ends federation attempt left right) network)
    (member : envelope ∈ accepted (network.history side)) :
    envelope ∈ network.emitted side.other := by
  apply (Network.Reachable.taken_prefix_emitted
    (fun allowed => allowed.inOrder) reachable side).subset
  obtain ⟨exchange, logged, found⟩ := List.mem_filterMap.mp member
  exact List.mem_filterMap.mpr
    ⟨exchange, logged, Operation.received?_of_accepted? found⟩

/-- Emitted envelopes with one digest are one envelope. -/
theorem CollisionFree.eq_of_digest_eq
    {first second : Envelope}
    {firstSide secondSide : Side}
    (collisionFree : CollisionFree primitives network)
    (firstEmitted : first ∈ network.emitted firstSide)
    (secondEmitted : second ∈ network.emitted secondSide)
    (firstBounded : first.body.WithinBounds)
    (secondBounded : second.body.WithinBounds)
    (digest_eq : first.digest primitives = second.digest primitives) :
    first = second := by
  have encoded := collisionFree first second firstSide secondSide _ _
    firstEmitted secondEmitted
    (Envelope.encode_eq_ok_iff.mpr ⟨firstBounded, rfl⟩)
    (Envelope.encode_eq_ok_iff.mpr ⟨secondBounded, rfl⟩)
    (congrArg EnvelopeId.bytes digest_eq)
  have decodedFirst := Envelope.decode_eq_ok_iff.mpr ⟨firstBounded, encoded⟩
  have decodedSecond := Envelope.decode_eq_ok_iff.mpr ⟨secondBounded, rfl⟩
  exact Except.ok.inj (decodedFirst.symm.trans decodedSecond)

theorem CollisionFree.of_advance
    {operation : Operation}
    (collisionFree : CollisionFree primitives
      (network.advance (Operation.perform primitives) side operation)) :
    CollisionFree primitives network := by
  intro first second firstSide secondSide firstWire secondWire firstEmitted
    secondEmitted
  exact collisionFree first second firstSide secondSide firstWire secondWire
    ((Network.emitted_prefix_advance _ network side firstSide operation).subset
      firstEmitted)
    ((Network.emitted_prefix_advance _ network side secondSide operation).subset
      secondEmitted)

/-- An emitted envelope that the receiver has not accepted is fresh. -/
theorem OrderlyReachable.not_mem_seen
    (reachable : OrderlyReachable primitives initiator
      (ends federation attempt left right) network)
    (collisionFree : CollisionFree primitives network)
    (member : envelope ∈ network.emitted side.other)
    (unaccepted : envelope ∉ accepted (network.history side)) :
    envelope.digest primitives ∉ (network.states side).seen := by
  have remembers : (network.states side).Remembers primitives
      (network.history side) :=
    reachable.of_session (Remembers primitives)
      (fun _ _ operations => session_remembers primitives rfl operations) side
  intro known
  rw [remembers.seen_eq, recent] at known
  obtain ⟨other, accepted, digest_eq⟩ :=
    List.mem_map.mp (List.mem_of_mem_drop known)
  have otherEmitted := reachable.emitted_of_accepted accepted
  have same := collisionFree.eq_of_digest_eq otherEmitted member
    (reachable.admits otherEmitted).bounded (reachable.admits member).bounded
    digest_eq
  exact unaccepted (same ▸ accepted)

/-- What belongs to the received part of one handshake belongs to the sent part
of the other one. -/
theorem OrderlyReachable.mem_sent_of_mem_received
    {here there : Handshake}
    (reachable : OrderlyReachable primitives initiator
      (ends federation attempt left right) network)
    (describes : here.Describes primitives (network.states side)
      (network.history side))
    (otherDescribes : there.Describes primitives
      (network.states side.other) (network.history side.other))
    (member : envelope ∈ here.received) :
    envelope ∈ there.sent := by
  obtain ⟨acceptedHere, negotiates⟩ :=
    (describes.received_iff envelope).mp member
  exact (otherDescribes.sent_iff envelope).mpr
    ⟨reachable.emitted_of_accepted acceptedHere, negotiates⟩

/-- An end that has received no offer is idle when the offer of the initiator
arrives. -/
theorem OrderlyReachable.idle_of_offer
    {here there : Handshake}
    (reachable : OrderlyReachable primitives initiator
      (ends federation attempt left right) network)
    (describes : here.Describes primitives (network.states side)
      (network.history side))
    (otherDescribes : there.Describes primitives
      (network.states side.other) (network.history side.other))
    (member : envelope ∈ network.emitted side.other)
    (kind_eq : envelope.kind = .offer)
    (sent_eq : there.sent = [envelope])
    (unreceived : envelope ∉ here.received) :
    (network.states side).phase = .idle := by
  have other_eq := reachable.eq_initiator member kind_eq
  have answers : ∀ offer ∈ here.sent, offer.kind ≠ .offer := by
    intro offer sentHere isOffer
    have emittedHere := ((describes.sent_iff offer).mp sentHere).1
    have side_eq := reachable.eq_initiator emittedHere isOffer
    exact Side.other_ne side (other_eq.trans side_eq.symm)
  have foreign : ∀ other ∈ here.received, other = envelope := by
    intro other receivedHere
    have sentThere := reachable.mem_sent_of_mem_received describes
      otherDescribes receivedHere
    rw [sent_eq] at sentThere
    exact List.mem_singleton.mp sentThere
  have wellFormed := describes.wellFormed
  cases here with
  | fresh => exact List.mem_singleton.mp describes.phase_mem
  | offered offer =>
      exact absurd wellFormed (answers offer (List.mem_singleton.mpr rfl))
  | concluded offer answer =>
      exact absurd wellFormed.1 (answers offer (List.mem_singleton.mpr rfl))
  | invited offer =>
      obtain rfl := foreign offer (List.mem_singleton.mpr rfl)
      exact absurd (List.mem_singleton.mpr rfl) unreceived
  | answered offer answer =>
      obtain rfl := foreign offer (List.mem_singleton.mpr rfl)
      exact absurd (List.mem_singleton.mpr rfl) unreceived

/-- An end that has received no answer still offers what the arriving answer
answers. -/
theorem OrderlyReachable.offered_of_answer
    {here : Handshake}
    {offer : Envelope}
    (reachable : OrderlyReachable primitives initiator
      (ends federation attempt left right) network)
    (describes : here.Describes primitives (network.states side)
      (network.history side))
    (otherDescribes : (Handshake.answered offer envelope).Describes primitives
      (network.states side.other) (network.history side.other))
    (unreceived : envelope ∉ here.received) :
    here = .offered offer := by
  have offered : offer ∈ here.sent := by
    have back := describes
    rw [← Side.other_other side] at back
    exact reachable.mem_sent_of_mem_received otherDescribes back
      (List.mem_singleton.mpr rfl)
  have wellFormed := describes.wellFormed
  cases here with
  | fresh => simp [Handshake.sent] at offered
  | invited other => simp [Handshake.sent] at offered
  | offered other => rw [List.mem_singleton.mp offered]
  | answered other answer =>
      obtain rfl := List.mem_singleton.mp offered
      obtain ⟨-, binding, description, body_eq⟩ := wellFormed
      have kind_eq := otherDescribes.wellFormed.1
      rw [Envelope.kind, body_eq] at kind_eq
      cases kind_eq
  | concluded other answer =>
      have sentThere := reachable.mem_sent_of_mem_received describes
        otherDescribes (List.mem_singleton.mpr rfl)
      obtain rfl := List.mem_singleton.mp sentThere
      exact absurd (List.mem_singleton.mpr rfl) unreceived

/-- An offer or answer that arrives in order at an open end is acted upon,
unless it has been accepted before. -/
theorem OrderlyReachable.exists_reacts
    (reachable : OrderlyReachable primitives initiator
      (ends federation attempt left right) network)
    (member : envelope ∈ network.emitted side.other)
    (negotiates : envelope.Negotiates)
    (unaccepted : envelope ∉ accepted (network.history side))
    (opened : (network.states side).phase ≠ .closed) :
    ∃ action later, Reacts (envelope.digest primitives) envelope.sender
      (network.states side) envelope.body action later := by
  obtain ⟨here, describes⟩ := reachable.exists_handshake side
  obtain ⟨there, otherDescribes⟩ := reachable.exists_handshake side.other
  have sentThere : envelope ∈ there.sent :=
    (otherDescribes.sent_iff envelope).mpr ⟨member, negotiates⟩
  have unreceived : envelope ∉ here.received := by
    intro receivedHere
    exact unaccepted ((describes.received_iff envelope).mp receivedHere).1
  have offerReacts (kind_eq : envelope.kind = .offer)
      (sent_eq : there.sent = [envelope]) :
      ∃ action later, Reacts (envelope.digest primitives) envelope.sender
        (network.states side) envelope.body action later := by
    have idle := reachable.idle_of_offer describes otherDescribes member
      kind_eq sent_eq unreceived
    rw [Envelope.kind] at kind_eq
    cases body_eq : envelope.body with
    | offer binding description => exact ⟨_, _, .offer idle⟩
    | _ => simp [body_eq, Body.kind] at kind_eq
  have wellFormed := otherDescribes.wellFormed
  cases there with
  | fresh => simp [Handshake.sent] at sentThere
  | invited offer => simp [Handshake.sent] at sentThere
  | offered offer =>
      obtain rfl := List.mem_singleton.mp sentThere
      exact offerReacts wellFormed rfl
  | concluded offer answer =>
      obtain rfl := List.mem_singleton.mp sentThere
      exact offerReacts wellFormed.1 rfl
  | answered offer answer =>
      obtain rfl := List.mem_singleton.mp sentThere
      obtain ⟨-, binding, description, body_eq⟩ := wellFormed
      obtain rfl := reachable.offered_of_answer describes otherDescribes
        unreceived
      have phase_mem := describes.phase_mem
      simp only [Handshake.phases, List.mem_cons, List.not_mem_nil, or_false,
        opened] at phase_mem
      rw [body_eq]
      exact ⟨_, _, .answer phase_mem describes.negotiation_eq⟩

/-- An offer or answer that arrives in order at an open end is accepted, now or
before. -/
theorem OrderlyReachable.accepted_of_receive
    (reachable : OrderlyReachable primitives initiator
      (ends federation attempt left right) network)
    (collisionFree : CollisionFree primitives network)
    (member : envelope ∈ network.emitted side.other)
    (negotiates : envelope.Negotiates)
    (opened : (network.states side).phase ≠ .closed) :
    envelope ∈ accepted ((network.advance (Operation.perform primitives) side
      (.receive envelope)).history side) := by
  rw [Network.history_advance_self]
  apply mem_accepted_concat.mpr
  by_cases acceptedBefore : envelope ∈ accepted (network.history side)
  · exact .inl acceptedBefore
  · obtain ⟨action, later, reacts⟩ := reachable.exists_reacts member negotiates
      acceptedBefore opened
    have fresh := reachable.not_mem_seen collisionFree member acceptedBefore
    have performed := perform_eq_ok_iff.mpr
      (.receive (reachable.admits member) fresh reacts)
    rw [performed]
    exact .inr rfl

/-- Offers and answers that have been received are accepted or came too late. -/
def NegotiationAccepted (network : ConnectionNetwork Side) : Prop :=
  ∀ side, ∀ envelope ∈ network.received side, envelope.Negotiates →
    envelope ∈ accepted (network.history side) ∨
      (network.states side).phase = .closed

/-- An operation at one end keeps what this end has accepted or that it is
closed. -/
theorem accepted_or_closed_advance
    {operation : Operation}
    (settled : envelope ∈ accepted (network.history side) ∨
      (network.states side).phase = .closed) :
    envelope ∈ accepted ((network.advance (Operation.perform primitives) side
        operation).history side) ∨
      ((network.advance (Operation.perform primitives) side
        operation).states side).phase = .closed := by
  rcases settled with acceptedBefore | closed
  · left
    rw [Network.history_advance_self]
    exact mem_accepted_concat.mpr (.inl acceptedBefore)
  · right
    rw [Network.states_advance_self]
    rw [perform_closed closed operation]
    exact closed

theorem OrderlyReachable.negotiationAccepted
    (reachable : OrderlyReachable primitives initiator
      (ends federation attempt left right) network)
    (collisionFree : CollisionFree primitives network) :
    NegotiationAccepted network := by
  induction reachable with
  | start => exact nofun
  | @advance network reachable active operation allowed inductionHypothesis =>
      have before := inductionHypothesis collisionFree.of_advance
      intro side envelope member negotiates
      by_cases same : side = active
      · subst same
        rw [received, Network.taken_advance_self, List.mem_append,
          Option.mem_toList] at member
        rcases member with earlier | arrives
        · exact accepted_or_closed_advance
            (before side envelope earlier negotiates)
        · by_cases opened : (network.states side).phase = .closed
          · exact accepted_or_closed_advance (.inr opened)
          · obtain rfl := Operation.eq_receive arrives
            have emittedThere := (allowed.inOrder envelope rfl).subset
              (List.mem_append_right _ (List.mem_singleton.mpr rfl))
            exact .inl (OrderlyReachable.accepted_of_receive reachable
              collisionFree.of_advance emittedThere negotiates opened)
      · rw [received, Network.taken_advance_of_ne network same] at member
        rw [Network.history_advance_of_ne network same,
          Network.states_advance_of_ne _ network same]
        exact before side envelope member negotiates

/-- The parent of a candidate that arrives in order at an open end is known
there. -/
theorem OrderlyReachable.allowsParent
    {parent : EnvelopeId}
    {sequence : UInt32}
    {fragment : List UInt8}
    (reachable : OrderlyReachable primitives initiator
      (ends federation attempt left right) network)
    (collisionFree : CollisionFree primitives network)
    (next : network.received side ++ [envelope] <+:
      network.emitted side.other)
    (body_eq : envelope.body = .candidate parent sequence fragment)
    (opened : (network.states side).phase ≠ .closed) :
    (network.states side).AllowsParent parent := by
  have grounded : Grounded primitives (network.history side.other) :=
    reachable.of_session (fun _ history => Grounded primitives history)
      (session_grounded primitives federation attempt) _
  obtain ⟨origin, negotiates, rfl, known⟩ :=
    grounded _ envelope parent sequence fragment next body_eq
  obtain ⟨here, describes⟩ := reachable.exists_handshake side
  have member : origin ∈ here.sent ∨ origin ∈ here.received := by
    rcases known with receivedHere | acceptedThere
    · right
      have settled := reachable.negotiationAccepted collisionFree side origin
        receivedHere negotiates
      exact (describes.received_iff origin).mpr
        ⟨settled.resolve_right opened, negotiates⟩
    · left
      have emittedHere := reachable.emitted_of_accepted acceptedThere
      rw [Side.other_other] at emittedHere
      exact (describes.sent_iff origin).mpr ⟨emittedHere, negotiates⟩
  obtain ⟨ids, ids_eq, parent_eq⟩ :=
    Handshake.exists_ids primitives member
  have negotiation_eq := describes.negotiation_eq.trans ids_eq
  refine ⟨Phase.live_iff.mpr ⟨?_, opened⟩, ids, negotiation_eq, parent_eq⟩
  intro idle
  have phase_mem := describes.phase_mem
  rw [idle] at phase_mem
  obtain rfl := Handshake.eq_fresh_of_mem phase_mem
  simp [Handshake.sent, Handshake.received] at member

/-- Receiving a candidate returns its action, or nothing for a remembered
duplicate. -/
def AcceptsCandidate
    (primitives : Primitives)
    (connection : Connection)
    (envelope : Envelope)
    (sequence : UInt32)
    (fragment : List UInt8) : Prop :=
  ∃ actions later,
    (Operation.receive envelope).perform primitives connection =
        (.ok actions, later) ∧
      (actions = [.addCandidate sequence fragment] ∨
        actions = [] ∧ envelope.digest primitives ∈ connection.seen)

/-- Candidates delivered in order are accepted by an open receiver, and no
delivery in order is ever refused for a wrong parent. -/
theorem candidates_in_order_accepted
    {primitives : Primitives}
    {federation : FederationId}
    {attempt : AttemptId}
    {left right : EndpointIdentity}
    {leftConnection rightConnection : Connection}
    {initiator : Side}
    {network : ConnectionNetwork Side}
    (leftCreated : Connection.new federation attempt left right =
      .ok leftConnection)
    (rightCreated : Connection.new federation attempt right left =
      .ok rightConnection)
    (reachable : OrderlyReachable primitives initiator
      (Side.pair leftConnection rightConnection) network)
    (collisionFree : CollisionFree primitives network)
    (side : Side)
    (envelope : Envelope)
    (next : Orderly primitives initiator network side (.receive envelope)) :
    (∀ parent sequence fragment,
      envelope.body = .candidate parent sequence fragment →
        (network.states side).phase ≠ .closed →
        AcceptsCandidate primitives (network.states side) envelope sequence
          fragment) ∧
      ((Operation.receive envelope).perform primitives
        (network.states side)).1 ≠ .error .wrongCandidateParent := by
  obtain ⟨-, rfl⟩ := new_eq_ok_iff.mp leftCreated
  obtain ⟨-, rfl⟩ := new_eq_ok_iff.mp rightCreated
  have following := next.inOrder envelope rfl
  have admitted := OrderlyReachable.admits reachable (following.subset
    (List.mem_append_right _ (List.mem_singleton.mpr rfl)))
  have accepts : ∀ parent sequence fragment,
      envelope.body = .candidate parent sequence fragment →
        (network.states side).phase ≠ .closed →
        AcceptsCandidate primitives (network.states side) envelope sequence
          fragment := by
    intro parent sequence fragment body_eq opened
    by_cases known : envelope.digest primitives ∈ (network.states side).seen
    · exact ⟨[], _, perform_eq_ok_iff.mpr (.duplicate admitted known),
        .inr ⟨rfl, known⟩⟩
    · have allowed := OrderlyReachable.allowsParent reachable collisionFree
        following body_eq opened
      have reacts : Reacts (envelope.digest primitives) envelope.sender
          (network.states side) envelope.body (.addCandidate sequence fragment)
          (network.states side) := by
        rw [body_eq]
        exact .candidate allowed
      exact ⟨_, _, perform_eq_ok_iff.mpr (.receive admitted known reacts),
        .inl rfl⟩
  refine ⟨accepts, ?_⟩
  intro refused
  obtain ⟨parent, sequence, fragment, body_eq, live⟩ :=
    candidate_of_wrongCandidateParent admitted refused
  obtain ⟨actions, later, performed, -⟩ :=
    accepts parent sequence fragment body_eq (Phase.live_iff.mp live).2
  rw [performed] at refused
  exact absurd refused nofun

/-- Digests that tell the emitted envelopes apart tell their encodings apart. -/
theorem CollisionFree.of_digest
    (apart : ∀ first second firstSide secondSide,
      first ∈ network.emitted firstSide → second ∈ network.emitted secondSide →
        first.digest primitives = second.digest primitives → first = second) :
    CollisionFree primitives network := by
  intro first second firstSide secondSide firstWire secondWire firstEmitted
    secondEmitted firstEncoded secondEncoded same
  obtain ⟨-, rfl⟩ := Envelope.encode_eq_ok_iff.mp firstEncoded
  obtain ⟨-, rfl⟩ := Envelope.encode_eq_ok_iff.mp secondEncoded
  have digest_eq : first.digest primitives = second.digest primitives :=
    congrArg EnvelopeId.mk same
  rw [apart first second firstSide secondSide firstEmitted secondEmitted
    digest_eq]

/-- The theorem speaks about a run in which an offer is accepted and a candidate
that follows it is about to arrive. -/
theorem candidates_in_order_accepted_sample :
    ∃ network : ConnectionNetwork Side, ∃ envelope,
      (network.states .right).phase = .offerReceived ∧
        AcceptsCandidate .sample (network.states .right) envelope 7 [] := by
  let offer := (Connection.sample 0 1).outbound (.sample 0)
    (.offer ⟨Vector.replicate 32 0⟩ [])
  let offering : Connection :=
    { Connection.sample 0 1 with
      negotiation := some ⟨offer.digest .sample, none⟩
      phase := .offerSent }
  let invited : Connection := Connection.remember
    { Connection.sample 1 0 with
      negotiation := some ⟨offer.digest .sample, none⟩
      phase := .offerReceived } (offer.digest .sample)
  let candidate := offering.outbound (.sample 0)
    (.candidate (offer.digest .sample) 7 [])
  have started : OrderlyReachable .sample .left
      (Side.pair (.sample 0 1) (.sample 1 0))
      ⟨Side.pair (.sample 0 1) (.sample 1 0), []⟩ := .start
  have offers : Transition .sample (Connection.sample 0 1)
      (.beginOffer (.sample 0) ⟨Vector.replicate 32 0⟩ [])
      [.openControlChannel, .send offer] offering :=
    .beginOffer rfl rfl (Nat.zero_le _)
  have accepts : Transition .sample (Connection.sample 1 0) (.receive offer)
      [.applyOffer ⟨Vector.replicate 32 0⟩ []] invited :=
    .receive (admits_outbound ⟨rfl, rfl, rfl, rfl⟩ rfl
      (EndpointSigner.sample_honest 0) (Nat.zero_le _)) List.not_mem_nil
      (.offer rfl)
  have proposes : Transition .sample offering (.candidate (.sample 0) 7 [])
      [.send candidate] offering :=
    @Transition.candidate .sample offering (.sample 0) 7 []
      ⟨offer.digest .sample, none⟩ rfl (.inl rfl) rfl (Nat.zero_le _)
  have offered := reachable_left started offers
    (.of_signer rfl (EndpointSigner.sample_honest 0) fun _ _ _ _ => rfl)
  have accepted := reachable_right offered accepts
    (.of_received (List.prefix_refl [offer]))
  have proposed := reachable_left accepted proposes
    (.of_signer rfl (EndpointSigner.sample_honest 0) nofun)
  have different : offer.digest .sample ≠ candidate.digest .sample :=
    digest_sample_ne rfl rfl (by decide :
      (Body.offer ⟨Vector.replicate 32 0⟩ []).fields.length % 256 ≠
        (Body.candidate (offer.digest .sample) 7 []).fields.length % 256)
  let network : ConnectionNetwork Side :=
    ⟨Side.pair offering invited,
      [(.left, .beginOffer (.sample 0) ⟨Vector.replicate 32 0⟩ [],
          .ok [.openControlChannel, .send offer]),
        (.right, .receive offer, .ok [.applyOffer ⟨Vector.replicate 32 0⟩ []]),
        (.left, .candidate (.sample 0) 7 [], .ok [.send candidate])]⟩
  have reached : OrderlyReachable .sample .left
      (Side.pair (.sample 0 1) (.sample 1 0)) network := proposed
  have apart : ∀ first second firstSide secondSide,
      first ∈ network.emitted firstSide → second ∈ network.emitted secondSide →
        first.digest .sample = second.digest .sample → first = second := by
    intro first second firstSide secondSide firstEmitted secondEmitted same
    have either (envelope : Envelope) (side : Side)
        (member : envelope ∈ network.emitted side) :
        envelope = offer ∨ envelope = candidate := by
      cases side with
      | left => exact List.mem_pair.mp member
      | right => exact absurd member List.not_mem_nil
    rcases either first firstSide firstEmitted with rfl | rfl <;>
      rcases either second secondSide secondEmitted with rfl | rfl
    · rfl
    · exact absurd same different
    · exact absurd same.symm different
    · rfl
  exact ⟨network, candidate, rfl, (candidates_in_order_accepted
    (new_sample (by decide)) (new_sample (by decide)) reached
    (.of_digest apart) .right candidate
    (.of_received (List.prefix_refl [offer, candidate]))).1 _ 7 [] rfl nofun⟩

end Ordered

end ConnectionNetwork

end Core
end Fcp
