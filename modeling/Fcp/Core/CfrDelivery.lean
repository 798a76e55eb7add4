import Fcp.Core.ConnectionNetwork
import Fcp.Core.ReplayWindow

/-!
# Delivery of CFR payloads

A control envelope carries nothing but its payload, signing is deterministic
and the envelope id is a digest of the signed bytes, so two sends of one payload
are the same envelope.  The receiver's window then takes the second one for a
replay of the first one.
-/

namespace Fcp
namespace Core

open Reactive
open Rust

/-- The payload that an action delivers. -/
def Action.delivered? : Action → Option (List UInt8)
  | .deliverCfr _ _ payload => some payload
  | _ => none

/-- The payloads that an operation delivers. -/
def Outcome.delivered : Outcome → List (List UInt8)
  | .ok actions => actions.filterMap Action.delivered?
  | .error _ => []

/-- The payloads delivered along a history, in order. -/
def deliveredPayloads
    (history : List (Operation × Outcome)) : List (List UInt8) :=
  history.flatMap fun exchange => Outcome.delivered exchange.2

namespace Connection

variable {primitives : Primitives}
variable {signer : EndpointSigner}
variable {sender receiver : Connection}

/-- A connection that public operations have led to. -/
def Reached (primitives : Primitives) (connection : Connection) : Prop :=
  ∃ federation attempt localEndpoint remoteEndpoint created operations,
    Connection.new federation attempt localEndpoint remoteEndpoint =
        .ok created ∧
      connection = (created.session primitives operations).state

theorem Reached.length_seen_le
    (reached : receiver.Reached primitives) :
    receiver.seen.length ≤ maxSeenEnvelopes := by
  obtain ⟨federation, attempt, localEndpoint, remoteEndpoint, created,
    operations, made, rfl⟩ := reached
  obtain ⟨-, rfl⟩ := new_eq_ok_iff.mp made
  have remembers := session_remembers primitives
    (rfl : (fresh federation attempt localEndpoint remoteEndpoint).seen = [])
    operations
  rw [remembers.seen_eq, length_recent]
  exact Nat.min_le_right _ _

/-- Successful calls send the control envelopes of their payloads. -/
theorem sent_of_mapM_cfrControl
    {payloads : List (List UInt8)}
    {sends : List Action}
    (called : payloads.mapM (sender.cfrControl signer) = .ok sends) :
    sends.filterMap Action.sent? = payloads.map (sender.control signer) ∧
      ∀ payload ∈ payloads, signer.endpoint = sender.localEndpoint ∧
        (Body.cfrControl payload).WithinBounds := by
  induction payloads generalizing sends with
  | nil =>
      rw [List.mapM_nil] at called
      obtain rfl : [] = sends := Except.ok.inj called
      simp
  | cons payload payloads inductionHypothesis =>
      rw [List.mapM_cons] at called
      simp only [bind_eq_ok_iff, cfrControl_eq_ok_iff, pure, Except.pure,
        Except.ok.injEq] at called
      obtain ⟨_, ⟨signer_eq, -, bounded, rfl⟩, others, calledOthers, rfl⟩ :=
        called
      obtain ⟨sent_eq, allBounded⟩ := inductionHypothesis calledOthers
      constructor
      · rw [List.filterMap_cons, Action.sent?, sent_eq, List.map_cons]
      · intro other member
        rcases List.mem_cons.mp member with rfl | member
        · exact ⟨signer_eq, bounded⟩
        · exact allBounded other member

/-- Receiving one control envelope delivers its payload unless its id is in the
window. -/
theorem perform_receive_control
    {payload : List UInt8}
    (honest : signer.Honest primitives)
    (mirrors : sender.Mirrors receiver)
    (established : receiver.phase = .established)
    (signer_eq : signer.endpoint = sender.localEndpoint)
    (bounded : (Body.cfrControl payload).WithinBounds) :
    (Operation.receive (sender.control signer payload)).perform primitives
        receiver =
      if (sender.control signer payload).digest primitives ∈ receiver.seen then
        (.ok [], receiver)
      else
        (.ok [.deliverCfr ((sender.control signer payload).digest primitives)
            (sender.control signer payload).sender payload],
          receiver.remember
            ((sender.control signer payload).digest primitives)) := by
  have admitted : receiver.Admits primitives (sender.control signer payload) :=
    ConnectionNetwork.admits_outbound mirrors signer_eq honest bounded
  split
  case isTrue known =>
    exact perform_eq_ok_iff.mpr (.duplicate admitted known)
  case isFalse fresh =>
    exact perform_eq_ok_iff.mpr
      (.receive admitted fresh (.cfrControl established))

/-- The delivered payloads are those whose envelope ids pass the window. -/
theorem delivered_eq_passing
    (honest : signer.Honest primitives)
    (payloads : List (List UInt8))
    (bounded : ∀ payload ∈ payloads,
      signer.endpoint = sender.localEndpoint ∧
        (Body.cfrControl payload).WithinBounds)
    (mirrors : sender.Mirrors receiver)
    (established : receiver.phase = .established)
    (history : List (Operation × Outcome)) :
    deliveredPayloads (Session.run (Operation.perform primitives)
        ⟨receiver, history⟩
        ((payloads.map (sender.control signer)).map .receive)).history =
      deliveredPayloads history ++
        passing (fun payload =>
            (sender.control signer payload).digest primitives)
          maxSeenEnvelopes receiver.seen payloads := by
  induction payloads generalizing receiver history with
  | nil => exact (List.append_nil _).symm
  | cons payload payloads inductionHypothesis =>
      obtain ⟨signer_eq, payloadBounded⟩ := bounded payload List.mem_cons_self
      have others : ∀ other ∈ payloads,
          signer.endpoint = sender.localEndpoint ∧
            (Body.cfrControl other).WithinBounds :=
        fun other member => bounded other (List.mem_cons_of_mem _ member)
      have performed := perform_receive_control honest mirrors established
        signer_eq payloadBounded
      rw [List.map_cons, List.map_cons, Session.run_cons, Session.advance,
        performed, passing]
      split
      case isTrue known =>
        rw [inductionHypothesis others mirrors established]
        simp [deliveredPayloads, Outcome.delivered]
      case isFalse fresh =>
        have mirrored : sender.Mirrors (receiver.remember
            ((sender.control signer payload).digest primitives)) :=
          ⟨mirrors.federation_eq, mirrors.attempt_eq, mirrors.local_eq,
            mirrors.remote_eq⟩
        rw [inductionHypothesis others mirrored established]
        simp [deliveredPayloads, Outcome.delivered, Action.delivered?,
          Connection.remember]

/-- The receiver's whole run on the envelopes of successful calls. -/
theorem deliveredPayloads_session
    {payloads : List (List UInt8)}
    {sends : List Action}
    (honest : signer.Honest primitives)
    (mirrors : sender.Mirrors receiver)
    (established : receiver.phase = .established)
    (called : payloads.mapM (sender.cfrControl signer) = .ok sends) :
    deliveredPayloads (receiver.session primitives
        ((sends.filterMap Action.sent?).map .receive)).history =
      passing (fun payload =>
          (sender.control signer payload).digest primitives)
        maxSeenEnvelopes receiver.seen payloads := by
  obtain ⟨sent_eq, bounded⟩ := sent_of_mapM_cfrControl called
  rw [sent_eq]
  exact delivered_eq_passing honest payloads bounded mirrors established []

/-- Bounded payloads can always be sent over an established connection. -/
theorem mapM_cfrControl
    (signer_eq : signer.endpoint = sender.localEndpoint)
    (established : sender.phase = .established)
    {payloads : List (List UInt8)}
    (bounded : ∀ payload ∈ payloads,
      (Body.cfrControl payload).WithinBounds) :
    payloads.mapM (sender.cfrControl signer) =
      .ok (payloads.map fun payload => .send (sender.control signer payload)) := by
  induction payloads with
  | nil => rfl
  | cons payload payloads inductionHypothesis =>
      have called : sender.cfrControl signer payload =
          .ok (.send (sender.control signer payload)) :=
        cfrControl_eq_ok_iff.mpr ⟨signer_eq, established,
          bounded payload List.mem_cons_self, rfl⟩
      have others := inductionHypothesis fun other member =>
        bounded other (List.mem_cons_of_mem _ member)
      rw [List.mapM_cons, called, others]
      rfl

/-- Equal payloads have at least as many other payloads between them as the
window holds. -/
def WellSpaced (payloads : List (List UInt8)) : Prop :=
  ∀ earlier between later payload,
    payloads = earlier ++ payload :: (between ++ payload :: later) →
      1024 ≤ between.length

/-- No payload arrives while the id of its envelope is among those the receiver
already remembers. -/
def NotRemembered
    (primitives : Primitives)
    (signer : EndpointSigner)
    (sender receiver : Connection)
    (payloads : List (List UInt8)) : Prop :=
  ∀ earlier later payload, payloads = earlier ++ payload :: later →
    (sender.control signer payload).digest primitives ∉
      receiver.seen.drop (receiver.seen.length + earlier.length - 1024)

/-- Payloads sent over an established connection arrive exactly as they were
sent if and only if equal payloads are well spaced and none is still remembered
from before. -/
theorem exact_delivery_iff
    {primitives : Primitives}
    {signer : EndpointSigner}
    {sender receiver : Connection}
    {payloads : List (List UInt8)}
    {sends : List Action}
    (honest : signer.Honest primitives)
    (mirrors : sender.Mirrors receiver)
    (reached : receiver.Reached primitives)
    (established : receiver.phase = .established)
    (called : payloads.mapM (sender.cfrControl signer) = .ok sends)
    (collisionFree : ∀ left ∈ payloads, ∀ right ∈ payloads,
      (sender.control signer left).digest primitives =
          (sender.control signer right).digest primitives →
        left = right) :
    deliveredPayloads (receiver.session primitives
        ((sends.filterMap Action.sent?).map .receive)).history = payloads ↔
      WellSpaced payloads ∧
        NotRemembered primitives signer sender receiver payloads := by
  rw [deliveredPayloads_session honest mirrors established called]
  exact passing_eq_self_iff_spaced (by decide) reached.length_seen_le
    collisionFree

/-! ## Sample runs -/

/-- The sample digest tells envelopes apart by the length of their bodies. -/
theorem digest_sample_ne
    {left right : Envelope}
    {leftBody rightBody : Body}
    (left_eq : left.body = leftBody)
    (right_eq : right.body = rightBody)
    (different : leftBody.fields.length % 256 ≠
      rightBody.fields.length % 256) :
    left.digest .sample ≠ right.digest .sample := by
  subst left_eq right_eq
  intro same
  have bytes_eq : Vector.replicate 32 (UInt8.ofNat
      (left.transcript ++ left.signatures).length) = Vector.replicate 32
        (UInt8.ofNat (right.transcript ++ right.signatures).length) :=
    congrArg EnvelopeId.bytes same
  have first_eq := congrArg (fun bytes : Vector UInt8 32 => bytes[0]) bytes_eq
  simp only [Vector.getElem_replicate, List.length_append,
    Envelope.length_transcript, Envelope.length_signatures] at first_eq
  have values_eq := congrArg UInt8.toNat first_eq
  simp only [UInt8.toNat_ofNat'] at values_eq
  omega

/-- The sample ends reach established connections whose receiver remembers only
the offer. -/
theorem exists_sample_established :
    ∃ sender receiver : Connection,
      sender.Reached .sample ∧ receiver.Reached .sample ∧
        sender.Mirrors receiver ∧
        (EndpointSigner.sample 0).endpoint = sender.localEndpoint ∧
        sender.phase = .established ∧ receiver.phase = .established ∧
        receiver.seen = [((Connection.sample 0 1).outbound (.sample 0)
          (.offer ⟨Vector.replicate 32 0⟩ [])).digest .sample] := by
  obtain ⟨network, answer, reachable, -, phases, seen_eq⟩ :=
    ConnectionNetwork.exists_sample_negotiation fun _ => True
  have reached (side : ConnectionNetwork.Side) :
      (network.states side).Reached .sample := by
    obtain ⟨operations, session_eq⟩ := reachable.exists_session_eq_run side
    have state_eq := congrArg Session.state session_eq
    cases side with
    | left =>
        exact ⟨_, _, _, _, _, operations,
          new_sample (by decide : (0 : UInt8) ≠ 1), state_eq⟩
    | right =>
        exact ⟨_, _, _, _, _, operations,
          new_sample (by decide : (1 : UInt8) ≠ 0), state_eq⟩
  have senderPins := ConnectionNetwork.pins_eq reachable .left
  have receiverPins := ConnectionNetwork.pins_eq reachable .right
  have mirrors : (sample 0 1).Mirrors (sample 1 0) := ⟨rfl, rfl, rfl, rfl⟩
  have signer_eq : (network.states .left).localEndpoint = .sample 0 :=
    congrArg (fun pins => pins.2.2.1) senderPins
  exact ⟨network.states .left, network.states .right, reached .left,
    reached .right, mirrors.of_pins_eq senderPins receiverPins, signer_eq.symm,
    phases .left, phases .right, seen_eq⟩

/-- Two different payloads meet every assumption. -/
theorem exact_delivery_iff_sample :
    ∃ sender receiver : Connection, ∃ sends,
      [[7], [7, 7]].mapM (sender.cfrControl (.sample 0)) = .ok sends ∧
        (deliveredPayloads (receiver.session .sample
            ((sends.filterMap Action.sent?).map .receive)).history =
              [[7], [7, 7]] ↔
          WellSpaced [[7], [7, 7]] ∧
            NotRemembered .sample (.sample 0) sender receiver
              [[7], [7, 7]]) := by
  obtain ⟨sender, receiver, -, reached, mirrors, signer_eq, calling,
    established, -⟩ := exists_sample_established
  have called := mapM_cfrControl signer_eq calling
    (by decide : ∀ payload ∈ [[7], [7, 7]],
      (Body.cfrControl payload).WithinBounds)
  have different : (sender.control (.sample 0) [7]).digest .sample ≠
      (sender.control (.sample 0) [7, 7]).digest .sample :=
    digest_sample_ne rfl rfl (by decide :
      (Body.cfrControl [7]).fields.length % 256 ≠
        (Body.cfrControl [7, 7]).fields.length % 256)
  refine ⟨sender, receiver, _, called, exact_delivery_iff
    (EndpointSigner.sample_honest 0) mirrors reached established called ?_⟩
  intro left leftMember right rightMember same
  simp only [List.mem_cons, List.not_mem_nil, or_false]
    at leftMember rightMember
  rcases leftMember with rfl | rfl <;> rcases rightMember with rfl | rfl
  · rfl
  · exact absurd same different
  · exact absurd same.symm different
  · rfl

/-- A payload sent twice over an established connection arrives once. -/
theorem repeated_payload_arrives_once :
    ∃ sender receiver : Connection, ∃ sends,
      sender.Reached .sample ∧ receiver.Reached .sample ∧
        sender.Mirrors receiver ∧
        sender.phase = .established ∧ receiver.phase = .established ∧
        (EndpointSigner.sample 0).Honest .sample ∧
        [[7], [7]].mapM (sender.cfrControl (.sample 0)) = .ok sends ∧
        deliveredPayloads (receiver.session .sample
          ((sends.filterMap Action.sent?).map .receive)).history = [[7]] ∧
        deliveredPayloads (receiver.session .sample
          ((sends.filterMap Action.sent?).map .receive)).history ≠
            [[7], [7]] := by
  obtain ⟨sender, receiver, senderReached, reached, mirrors, signer_eq,
    calling, established, seen_eq⟩ := exists_sample_established
  have called := mapM_cfrControl signer_eq calling
    (by decide : ∀ payload ∈ [[7], [7]],
      (Body.cfrControl payload).WithinBounds)
  have fresh : (sender.control (.sample 0) [7]).digest .sample ∉
      receiver.seen := by
    rw [seen_eq, List.mem_singleton]
    exact digest_sample_ne rfl rfl (by decide :
      (Body.cfrControl [7]).fields.length % 256 ≠
        (Body.offer ⟨Vector.replicate 32 0⟩ []).fields.length % 256)
  have known : (sender.control (.sample 0) [7]).digest .sample ∈
      slide maxSeenEnvelopes receiver.seen
        ((sender.control (.sample 0) [7]).digest .sample) :=
    List.mem_append_right _ (List.mem_singleton.mpr rfl)
  have delivered := deliveredPayloads_session (EndpointSigner.sample_honest 0)
    mirrors established called
  simp only [passing, if_neg fresh, if_pos known] at delivered
  refine ⟨sender, receiver, _, senderReached, reached, mirrors, calling,
    established, EndpointSigner.sample_honest 0, called, delivered, ?_⟩
  rw [delivered]
  decide

end Connection

end Core
end Fcp
