import Fcp.Webrtc.Control

/-!
# Sessions

The calls of the application on a session, the callbacks of the engine and the
tasks of the runtime.
-/

namespace Fcp
namespace Webrtc

open Core Reactive Rust

/-! ## Actions of the connection -/

section Actions

variable (context : SessionContext)

/-- Check that a remote description is the bound one and parse it. -/
def checkDescription
    (sdpType : RTCSdpType)
    (mismatch : String)
    (binding : WebRtcBinding)
    (description : List UInt8) : Except Error RTCSessionDescription := do
  let fingerprint ← dtlsFingerprint description
  let expected :=
    WebRtcBinding.derive context.primitives description fingerprint
  rejectIf (binding ≠ expected) (.invalidAction mismatch)
  let sdp ← okOr (fromUtf8 description) .descriptionEncoding
  (context.parseDescription sdpType sdp).mapError .webRtc

/-- Give a checked remote description to the engine. -/
def applyDescription
    (sdpType : RTCSdpType)
    (mismatch : String)
    (binding : WebRtcBinding)
    (description : List UInt8) : Fallible Unit := do
  let parsed ←
    settle (checkDescription context sdpType mismatch binding description)
  callEngine (.setRemoteDescription parsed)

/-- Carry out one action. -/
def processAction : Action → Fallible Unit
  | .send envelope => do
      if !(← await (.trySendSignal ⟨envelope⟩)) then
        throw (.invalidAction "signaling consumer is not draining events")
  | .applyOffer binding description =>
      applyDescription context .offer
        "offer binding does not match engine description" binding description
  | .applyAnswer binding description =>
      applyDescription context .answer
        "answer binding does not match engine description" binding description
  | .addCandidate _ candidate => do
      let parsed ←
        settle (okOr (context.decodeCandidate candidate) .candidateEncoding)
      callEngine (.addIceCandidate parsed)
  | .openControlChannel => return
  | .deliverCfr envelopeId remoteEndpoint payload => do
      if !(← await (.sendEvent
          (.deliverCfr envelopeId remoteEndpoint payload))) then
        throw .closed
  | .closeTransport reason => do
      if !(← ExceptT.lift (emitTerminal (.closed reason))) then
        throw .closed
      callEngine .closePeer

/-- Carry out actions in order. -/
def processActions : List Action → Fallible Unit
  | [] => return
  | action :: rest => do
      processAction context action
      processActions rest

/-! ## Signals -/

/-- Emit staged candidates in order. -/
def emitCandidates : List LocalCandidate → Async Unit
  | [] => return
  | (sequence, candidate) :: rest => do
      emitOrStageCandidate context sequence candidate
      emitCandidates rest

/-- Take all staged candidates and emit them. -/
def flushStagedCandidates : Async Unit := do
  let staged ← access .takeStaged
  emitCandidates context staged

/-- Take one signal without waiting. -/
def tryTakeSignal : Async (Option SignalEvent) := do
  let signal ← access .tryRecvSignal
  if signal.isSome then
    flushStagedCandidates context
  return signal

/-! ## Calls of the application -/

/-- The part that an offer and an answer share: sign the local description,
carry out the actions, flush the candidates and take a signal. -/
def emitDescription
    (operation : WebRtcBinding → List UInt8 → Core.Operation)
    (unavailable unemitted : String) : Fallible SignalEvent := do
  let description ← settle
    (okOr (← await .localDescription) (.invalidAction unavailable))
  let descriptionBytes := asBytes description.sdp
  let fingerprint ← settle (dtlsFingerprint descriptionBytes)
  let binding :=
    WebRtcBinding.derive context.primitives descriptionBytes fingerprint
  let actions ← lockConnection (operation binding descriptionBytes)
  processActions context actions
  ExceptT.lift (flushStagedCandidates context)
  settle (okOr (← ExceptT.lift (tryTakeSignal context))
    (.invalidAction unemitted))

/-- Start an initiator offer and return a signal. -/
def beginOffer : Fallible SignalEvent := do
  let channel ← callEngine (.createDataChannel controlChannel.label
    { ordered := controlChannel.ordered
      maxPacketLifeTime := none
      maxRetransmits := none
      protocol := controlChannel.protocol
      negotiated := none })
  ExceptT.lift (installLocalControlChannel channel)
  let offer ← callEngine .createOffer
  callEngine (.setLocalDescription offer)
  emitDescription context (.beginOffer context.signer)
    "local offer unavailable" "local offer was not emitted"

/-- Answer a verified remote offer and return a signal. -/
def answer : Fallible SignalEvent := do
  let answer ← callEngine .createAnswer
  callEngine (.setLocalDescription answer)
  emitDescription context (.answer context.signer)
    "local answer unavailable" "local answer was not emitted"

/-- Accept one signed envelope received through the signaling path. -/
def acceptSignal (wire : List UInt8) : Fallible Unit := do
  let envelope ←
    settle ((Envelope.decodeVerified context.primitives wire).mapError .fcp)
  let actions ← lockConnection (.receive envelope)
  processActions context actions

/-- Send CFR control bytes over the established data channel. -/
def sendCfr (payload : List UInt8) : Fallible Unit := do
  let [.send envelope] ←
      lockConnection (.cfrControl context.signer payload)
    | throw (.invalidAction "CFR control must be a signed envelope")
  let control ← settle (okOr (← await .getControl) .controlChannelUnavailable)
  let wire ← settle (envelope.encode.mapError .fcp)
  callEngine (.send control wire)

/-- Start a signed graceful close. -/
def beginClose (reason : CloseCode) : Fallible SignalEvent := do
  let [.send envelope] ← lockConnection (.close context.signer reason)
    | throw (.invalidAction "FCP close must produce a signaling envelope")
  return ⟨envelope⟩

/-- Close the peer connection. -/
def close : Fallible Unit :=
  callEngine .closePeer

/-! ## Callbacks of the engine -/

/-- The engine reports a local candidate, given as its transport form if it has
one. -/
def onIceCandidate (json : Option RTCIceCandidateInit) : Async Unit := do
  let some json := json | return
  let some candidate := context.encodeCandidate json | return
  let sequence ← access .nextSequence
  emitOrStageCandidate context sequence candidate

/-- The engine reports the state of the peer connection. -/
def onConnectionStateChange (state : RTCPeerConnectionState) : Async Unit := do
  if state = .failed then
    let _ ← emitTerminal .failed

end Actions

/-! ## Tasks -/

/-- What runs beside each other: calls of the application, callbacks of the
engine, and pumps that the runtime picks up. -/
inductive Task
  | beginOffer
  | answer
  | acceptSignal (wire : List UInt8)
  | sendCfr (payload : List UInt8)
  | tryTakeSignal
  | tryTakeEvent
  | beginClose (reason : CloseCode)
  | close
  | onIceCandidate (json : Option RTCIceCandidateInit)
  | onConnectionStateChange (state : RTCPeerConnectionState)
  | onDataChannel (channel : DataChannel)
  | controlPump (polls : Nat)

/-- What a task returns. -/
inductive Returned
  | signal (result : Except Error SignalEvent)
  | unit (result : Except Error Unit)
  | taken (signal : Option SignalEvent)
  | event (event : Option SessionEvent)
  | nothing
  deriving DecidableEq

/-- The computation of a task. -/
def Task.program (context : SessionContext) : Task → Async Returned
  | beginOffer => .signal <$> (Webrtc.beginOffer context).run
  | answer => .signal <$> (Webrtc.answer context).run
  | acceptSignal wire => .unit <$> (Webrtc.acceptSignal context wire).run
  | sendCfr payload => .unit <$> (Webrtc.sendCfr context payload).run
  | tryTakeSignal => .taken <$> Webrtc.tryTakeSignal context
  | tryTakeEvent => .event <$> access .tryRecvEvent
  | beginClose reason => .signal <$> (Webrtc.beginClose context reason).run
  | close => .unit <$> Webrtc.close.run
  | onIceCandidate json =>
      (fun _ => .nothing) <$> Webrtc.onIceCandidate context json
  | onConnectionStateChange state =>
      (fun _ => .nothing) <$> Webrtc.onConnectionStateChange state
  | onDataChannel channel =>
      (fun _ => .nothing) <$> installRemoteControlChannel channel
  | controlPump polls => do
      let channel ← access .pickUp
      Webrtc.controlPump polls channel
      return .nothing

/-! ## Sample values -/

/-- A session of a sample signer whose candidates travel as plain text. -/
def SessionContext.sample : SessionContext where
  primitives := .sample
  signer := .sample 0
  encodeCandidate json := some (asBytes json.candidate)
  decodeCandidate bytes := (fromUtf8 bytes).map .mk
  parseDescription sdpType sdp := .ok ⟨sdpType, sdp⟩

/-- An engine whose calls succeed and whose channels report one event. -/
def Engine.sample (event : Option DataChannelEvent) : Engine where
  returns
    | .createDataChannel _ _ => .ok ⟨0⟩
    | .createOffer => .ok ⟨.offer, "a=fingerprint:0"⟩
    | .createAnswer => .ok ⟨.answer, "a=fingerprint:0"⟩
    | .label _ => .ok controlChannel.label
    | .protocol _ => .ok controlChannel.protocol
    | .ordered _ => .ok true
    | .maxPacketLifeTime _ | .maxRetransmits _ => .ok none
    | .setLocalDescription _ | .setRemoteDescription _ | .addIceCandidate _
    | .closePeer | .closeChannel _ | .send _ _ => .ok ()
  localDescription := some ⟨.offer, "a=fingerprint:0"⟩
  poll _ := event

end Webrtc
end Fcp
