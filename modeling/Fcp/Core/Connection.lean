import Fcp.Rust.Method
import Fcp.Rust.Text
import Fcp.Core.Envelope

/-!
# Per-peer connection state machine

One connection attempt between two pinned endpoints.  Operations that change
the connection run on it as a state that survives an early error return, as a
mutable receiver does.
-/

namespace Fcp
namespace Core

open Rust Parsing

/-- Hash exact description bytes together with engine-produced fingerprint
bytes. -/
def WebRtcBinding.derive
    (primitives : Primitives)
    (description dtlsFingerprint : List UInt8) : WebRtcBinding :=
  ⟨primitives.blake3 (asBytes "org.nixort.cfr.fcp/webrtc-binding" ++
    (toBigEndian 8 description.length ++ (description ++
    (toBigEndian 8 dtlsFingerprint.length ++ dtlsFingerprint))))⟩

/-- Fixed data-channel configuration that platform adapters must enforce. -/
structure ControlChannelConfig where
  label : String
  protocol : String
  ordered : Bool
  reliable : Bool
  binary : Bool
  deriving DecidableEq

/-- Required data-channel configuration. -/
def controlChannel : ControlChannelConfig where
  label := "org.nixort.cfr.fcp.control/1"
  protocol := "org.nixort.cfr.fcp"
  ordered := true
  reliable := true
  binary := true

/-- Connection lifecycle state. -/
inductive Phase
  | idle
  | offerSent
  | offerReceived
  | answerSent
  | answerReceived
  | established
  | closed
  deriving DecidableEq

/-- Identifiers of the active negotiation. -/
structure NegotiationIds where
  offer : EnvelopeId
  answer : Option EnvelopeId
  deriving DecidableEq

/-- An action emitted for a transport or platform adapter. -/
inductive Action
  | send (envelope : Envelope)
  | applyOffer (binding : WebRtcBinding) (description : List UInt8)
  | applyAnswer (binding : WebRtcBinding) (description : List UInt8)
  | addCandidate (sequence : UInt32) (candidate : List UInt8)
  | openControlChannel
  | deliverCfr
      (envelopeId : EnvelopeId)
      (remoteEndpoint : EndpointIdentity)
      (payload : List UInt8)
  | closeTransport (reason : CloseCode)
  deriving DecidableEq

/-- Per-peer state machine for one connection attempt. -/
structure Connection where
  federation : FederationId
  attempt : AttemptId
  localEndpoint : EndpointIdentity
  remoteEndpoint : EndpointIdentity
  phase : Phase
  negotiation : Option NegotiationIds
  seen : List EnvelopeId
  deriving DecidableEq

/-- A fallible operation on a mutable connection. -/
abbrev ConnectionM (α : Type) : Type :=
  Method Connection Error α

namespace Phase

/-- Phases in which candidates may be created and accepted. -/
def Live (phase : Phase) : Prop :=
  phase = .offerSent ∨ phase = .offerReceived ∨ phase = .answerSent ∨
    phase = .answerReceived ∨ phase = .established

instance (phase : Phase) : Decidable phase.Live :=
  inferInstanceAs (Decidable (_ ∨ _))

end Phase

namespace Connection

/-- An idle connection pinned to a federation, an attempt and two endpoints. -/
def new
    (federation : FederationId)
    (attempt : AttemptId)
    (localEndpoint remoteEndpoint : EndpointIdentity) :
    Except Error Connection := do
  rejectIf (localEndpoint = remoteEndpoint) .sameEndpoint
  return {
    federation := federation
    attempt := attempt
    localEndpoint := localEndpoint
    remoteEndpoint := remoteEndpoint
    phase := .idle
    negotiation := none
    seen := [] }

def requireLocalSigner
    (connection : Connection)
    (signer : EndpointSigner) : Except Error Unit :=
  rejectIf (signer.endpoint ≠ connection.localEndpoint) .wrongLocalSigner

/-- Check the pinned tuple of an inbound envelope, then its signatures. -/
def validateInbound
    (primitives : Primitives)
    (connection : Connection)
    (envelope : Envelope) : Except Error Unit := do
  rejectIf (envelope.federation ≠ connection.federation) .wrongFederation
  rejectIf (envelope.attempt ≠ connection.attempt) .wrongAttempt
  rejectIf (envelope.sender ≠ connection.remoteEndpoint) .wrongSender
  rejectIf (envelope.recipient ≠ connection.localEndpoint) .wrongRecipient
  envelope.verify primitives

/-- Require that a candidate names the active offer or answer. -/
def validateCandidateParent
    (connection : Connection)
    (parent : EnvelopeId) : Except Error Unit := do
  let ids ← okOr connection.negotiation .invalidState
  rejectIf (¬connection.phase.Live) .invalidState
  rejectIf (parent ≠ ids.offer ∧ ids.answer ≠ some parent) .wrongCandidateParent

/-- Remember an accepted id, forgetting the oldest one of a full window. -/
def noteSeen (id : EnvelopeId) : ConnectionM Unit := do
  let connection ← get
  if connection.seen.length = maxSeenEnvelopes then
    modify fun connection => { connection with seen := connection.seen.drop 1 }
  modify fun connection => { connection with seen := connection.seen ++ [id] }

/-- Start a local offer from `idle`. -/
def beginOffer
    (primitives : Primitives)
    (signer : EndpointSigner)
    (binding : WebRtcBinding)
    (description : List UInt8) : ConnectionM (List Action) := do
  let connection ← get
  connection.requireLocalSigner signer
  rejectIf (connection.phase ≠ .idle) Error.invalidState
  let offer ← Envelope.sign signer connection.federation connection.attempt
    connection.remoteEndpoint (.offer binding description)
  let offerId ← offer.id primitives
  modify fun connection =>
    { connection with negotiation := some ⟨offerId, none⟩ }
  modify fun connection => { connection with phase := .offerSent }
  return [.openControlChannel, .send offer]

/-- Answer one accepted remote offer. -/
def answer
    (primitives : Primitives)
    (signer : EndpointSigner)
    (binding : WebRtcBinding)
    (description : List UInt8) : ConnectionM Action := do
  let connection ← get
  connection.requireLocalSigner signer
  rejectIf (connection.phase ≠ .offerReceived) Error.invalidState
  let ids ← okOr connection.negotiation Error.invalidState
  let answer ← Envelope.sign signer connection.federation connection.attempt
    connection.remoteEndpoint (.answer ids.offer binding description)
  let answerId ← answer.id primitives
  modify fun connection =>
    { connection with negotiation := some ⟨ids.offer, some answerId⟩ }
  modify fun connection => { connection with phase := .answerSent }
  return .send answer

/-- Create a candidate bound to the active negotiation. -/
def candidate
    (connection : Connection)
    (signer : EndpointSigner)
    (sequence : UInt32)
    (fragment : List UInt8) : Except Error Action := do
  connection.requireLocalSigner signer
  rejectIf (¬connection.phase.Live) .invalidState
  let ids ← okOr connection.negotiation .invalidState
  let parentId := ids.answer.getD ids.offer
  let envelope ← Envelope.sign signer connection.federation connection.attempt
    connection.remoteEndpoint (.candidate parentId sequence fragment)
  return .send envelope

/-- Emit one bounded raw CFR control envelope. -/
def cfrControl
    (connection : Connection)
    (signer : EndpointSigner)
    (payload : List UInt8) : Except Error Action := do
  connection.requireLocalSigner signer
  rejectIf (connection.phase ≠ .established) .invalidState
  let envelope ← Envelope.sign signer connection.federation connection.attempt
    connection.remoteEndpoint (.cfrControl payload)
  return .send envelope

/-- Emit a local close and close the attempt. -/
def close
    (signer : EndpointSigner)
    (reason : CloseCode) : ConnectionM Action := do
  let connection ← get
  connection.requireLocalSigner signer
  rejectIf (connection.phase = .idle ∨ connection.phase = .closed)
    Error.invalidState
  modify fun connection => { connection with phase := .closed }
  let envelope ← Envelope.sign signer connection.federation connection.attempt
    connection.remoteEndpoint (.close reason)
  return .send envelope

/-- Act on the body of a fresh inbound envelope. -/
def receiveBody
    (id : EnvelopeId)
    (sender : EndpointIdentity) : Body → ConnectionM (List Action)
  | .offer binding description => do
      let connection ← get
      rejectIf (connection.phase = .offerSent) Error.glare
      rejectIf (connection.phase ≠ .idle) Error.invalidState
      modify fun connection =>
        { connection with negotiation := some ⟨id, none⟩ }
      modify fun connection => { connection with phase := .offerReceived }
      return [.applyOffer binding description]
  | .answer offerId binding description => do
      let connection ← get
      rejectIf (connection.phase ≠ .offerSent) Error.invalidState
      let ids ← okOr connection.negotiation Error.invalidState
      rejectIf (ids.offer ≠ offerId) Error.invalidState
      modify fun connection =>
        { connection with negotiation := some ⟨ids.offer, some id⟩ }
      modify fun connection => { connection with phase := .answerReceived }
      return [.applyAnswer binding description]
  | .candidate parentId sequence fragment => do
      let connection ← get
      connection.validateCandidateParent parentId
      return [.addCandidate sequence fragment]
  | .close reason => do
      let connection ← get
      rejectIf (connection.phase = .idle ∨ connection.phase = .closed)
        Error.invalidState
      modify fun connection => { connection with phase := .closed }
      return [.closeTransport reason]
  | .cfrControl payload => do
      let connection ← get
      rejectIf (connection.phase ≠ .established) Error.invalidState
      return [.deliverCfr id sender payload]

/-- Process a received envelope after binding and signature validation. -/
def receive
    (primitives : Primitives)
    (envelope : Envelope) : ConnectionM (List Action) := do
  let connection ← get
  connection.validateInbound primitives envelope
  let id ← envelope.id primitives
  if id ∈ connection.seen then
    return []
  let actions ← receiveBody id envelope.sender envelope.body
  noteSeen id
  return actions

/-- Record that the platform adapter reached a connected control channel. -/
def transportConnected : ConnectionM (List Action) := do
  let connection ← get
  rejectIf
    (¬(connection.phase = .answerSent ∨ connection.phase = .answerReceived))
    Error.invalidState
  modify fun connection => { connection with phase := .established }
  return []

/-- Record a local platform failure and stop this attempt. -/
def transportFailed : ConnectionM Unit := do
  let connection ← get
  rejectIf (connection.phase = .idle ∨ connection.phase = .closed)
    Error.invalidState
  modify fun connection => { connection with phase := .closed }

end Connection

/-! ## Public operations -/

/-- One call of a public operation with its arguments. -/
inductive Operation
  | beginOffer
      (signer : EndpointSigner)
      (binding : WebRtcBinding)
      (description : List UInt8)
  | answer
      (signer : EndpointSigner)
      (binding : WebRtcBinding)
      (description : List UInt8)
  | candidate
      (signer : EndpointSigner)
      (sequence : UInt32)
      (fragment : List UInt8)
  | cfrControl (signer : EndpointSigner) (payload : List UInt8)
  | close (signer : EndpointSigner) (reason : CloseCode)
  | receive (envelope : Envelope)
  | transportConnected
  | transportFailed

/-- Run one public operation: the returned actions or error, and the
connection afterwards. -/
def Operation.perform
    (primitives : Primitives)
    (connection : Connection) :
    Operation → Except Error (List Action) × Connection
  | .beginOffer signer binding description =>
      (Connection.beginOffer primitives signer binding description).call
        connection
  | .answer signer binding description =>
      ((fun action => [action]) <$>
        Connection.answer primitives signer binding description).call
          connection
  | .candidate signer sequence fragment =>
      ((connection.candidate signer sequence fragment).map fun action =>
        [action], connection)
  | .cfrControl signer payload =>
      ((connection.cfrControl signer payload).map fun action => [action],
        connection)
  | .close signer reason =>
      ((fun action => [action]) <$>
        Connection.close signer reason).call connection
  | .receive envelope =>
      (Connection.receive primitives envelope).call connection
  | .transportConnected => Connection.transportConnected.call connection
  | .transportFailed =>
      ((fun _ => []) <$> Connection.transportFailed).call connection

end Core
end Fcp
