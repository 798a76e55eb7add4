import Fcp.Webrtc.Engine

/-!
# Control channel, event pump and candidate staging

The helpers that the application's calls, the callbacks of the engine and the
pump of the control channel share.
-/

namespace Fcp
namespace Webrtc

open Core Reactive

/-! ## Candidates -/

/-- The signal that an action sends. -/
def signalFromAction : Action → Option SignalEvent
  | .send envelope => some ⟨envelope⟩
  | _ => none

/-- The signal of a method that returns one action. -/
def signalFromOutcome (outcome : Except Core.Error (List Action)) :
    Option SignalEvent := do
  let actions ← outcome.toOption
  signalFromAction (← actions.head?)

/-- Sign a local candidate and queue it, or stage it while the connection does
not sign.  A signal that does not fit into the queue is dropped. -/
def emitOrStageCandidate
    (context : SessionContext)
    (sequence : UInt32)
    (candidate : List UInt8) : Async Unit := do
  let outcome ← access
    (.connection (.candidate context.signer sequence candidate))
  match signalFromOutcome outcome with
  | some signal =>
      let _ ← access (.trySendSignal signal)
  | none =>
      let _ ← access (.stage sequence candidate)

/-! ## Events and signals -/

/-- Queue an event, waiting for room. -/
def emitEvent (event : SessionEvent) : Async Bool :=
  access (.sendEvent event)

/-- Queue an event that ends the session unless there was one before. -/
def emitTerminal (event : SessionEvent) : Async Bool := do
  if !(← access .exchangeTerminal) then
    return true
  emitEvent event

/-- Queue a signal, waiting for room. -/
def emitSignal (signal : SignalEvent) : Async Bool :=
  access (.sendSignal signal)

/-! ## The pump of the control channel -/

/-- The actions that the pump carries out; it passes over all others.  It stops
when a queue is closed. -/
def pumpActions : List Action → Async Bool
  | [] => return true
  | .deliverCfr envelopeId remoteEndpoint payload :: rest => do
      if !(← emitEvent (.deliverCfr envelopeId remoteEndpoint payload)) then
        return false
      pumpActions rest
  | .send envelope :: rest => do
      if !(← emitSignal ⟨envelope⟩) then
        return false
      pumpActions rest
  | _ :: rest => pumpActions rest

/-- React to one report of the control channel.  The result says whether the
pump polls again. -/
def handleControlEvent : Option DataChannelEvent → Async Bool
  | some .onOpen => do
      match ← access (.applyEvent .connected) with
      | .error _ => return false
      | .ok actions =>
          if !(← pumpActions actions) then
            return false
          emitEvent .connected
  | some (.onMessage data) => do
      match ← access (.applyEvent (.controlBinary data)) with
      | .error _ => return false
      | .ok actions => pumpActions actions
  | some .onClose | none => do
      let _ ← emitTerminal .failed
      return false
  | some .other => return true

/-- The loop of the pump, for as many polls as a run may see. -/
def controlPump : (polls : Nat) → DataChannel → Async Unit
  | 0, _ => return
  | polls + 1, channel => do
      let event ← access (.poll channel)
      if ← handleControlEvent event then
        controlPump polls channel

/-! ## Installation -/

/-- Keep a control channel and start its pump. -/
def installControlChannel (channel : DataChannel) : Async Unit := do
  access (.setControl channel)
  access (.spawn channel)

/-- Install the control channel that the initiator has created. -/
def installLocalControlChannel (channel : DataChannel) : Async Unit :=
  installControlChannel channel

/-- Whether a channel delivers everything, however long it takes. -/
def isReliable (channel : DataChannel) : Async Bool := do
  let .ok none ← access (.engine (.maxPacketLifeTime channel)) | return false
  let .ok none ← access (.engine (.maxRetransmits channel)) | return false
  return true

/-- Install a channel of the remote peer if it is the reliable ordered control
channel. -/
def installRemoteControlChannel (channel : DataChannel) : Async Unit := do
  let .ok label ← access (.engine (.label channel)) | return
  let .ok protocol ← access (.engine (.protocol channel)) | return
  let .ok ordered ← access (.engine (.ordered channel)) | return
  let reliable ← isReliable channel
  if label ≠ controlChannel.label ∨ protocol ≠ controlChannel.protocol ∨
      !ordered ∨ !reliable then
    let _ ← access (.engine (.closeChannel channel))
  else
    installControlChannel channel

end Webrtc
end Fcp
