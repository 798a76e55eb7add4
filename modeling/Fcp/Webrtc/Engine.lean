import Fcp.Reactive.Program
import Fcp.Transport.Adapter

/-!
# Shared state of a session and the engine beside it

A session shares its connection, two bounded queues, the control channel, the
staged candidates and two counters between the application's calls, the
callbacks of the engine and the pump of the control channel.  Each access to the
shared state is one operation; whatever the engine returns is arbitrary.  The
receiving ends of the queues live as long as the session, so a send never finds
its queue closed, and no access panics, so a lock is never poisoned.
-/

namespace Fcp
namespace Webrtc

open Core Reactive Rust Transport

/-! ## Values of the engine -/

/-- An error of the engine. -/
structure EngineError where
  message : String
  deriving DecidableEq

/-- A handle of a data channel. -/
structure DataChannel where
  handle : Nat
  deriving DecidableEq

/-- The parameters of a new data channel. -/
structure RTCDataChannelInit where
  ordered : Bool
  maxPacketLifeTime : Option UInt16
  maxRetransmits : Option UInt16
  protocol : String
  negotiated : Option UInt16
  deriving DecidableEq

/-- The role of a session description. -/
inductive RTCSdpType
  | offer
  | answer
  deriving DecidableEq

/-- A session description of the engine. -/
structure RTCSessionDescription where
  sdpType : RTCSdpType
  sdp : String
  deriving DecidableEq

/-- An ICE candidate in the form that travels between the peers. -/
structure RTCIceCandidateInit where
  candidate : String
  deriving DecidableEq

/-- The state of a peer connection. -/
inductive RTCPeerConnectionState
  | unspecified
  | new
  | connecting
  | connected
  | disconnected
  | failed
  | closed
  deriving DecidableEq

/-- What a data channel reports.  The session ignores all other reports. -/
inductive DataChannelEvent
  | onOpen
  | onMessage (data : List UInt8)
  | onClose
  | other
  deriving DecidableEq

/-- The fallible calls into the engine. -/
inductive EngineCall
  | createDataChannel (label : String) (parameters : RTCDataChannelInit)
  | createOffer
  | createAnswer
  | setLocalDescription (description : RTCSessionDescription)
  | setRemoteDescription (description : RTCSessionDescription)
  | addIceCandidate (candidate : RTCIceCandidateInit)
  | closePeer
  | label (channel : DataChannel)
  | protocol (channel : DataChannel)
  | ordered (channel : DataChannel)
  | maxPacketLifeTime (channel : DataChannel)
  | maxRetransmits (channel : DataChannel)
  | closeChannel (channel : DataChannel)
  | send (channel : DataChannel) (data : List UInt8)
  deriving DecidableEq

/-- What an engine call returns on success. -/
abbrev EngineCall.Result : EngineCall → Type
  | createDataChannel _ _ => DataChannel
  | createOffer | createAnswer => RTCSessionDescription
  | label _ | protocol _ => String
  | ordered _ => Bool
  | maxPacketLifeTime _ | maxRetransmits _ => Option UInt16
  | _ => Unit

/-- One choice of everything the engine may return. -/
structure Engine where
  returns : (call : EngineCall) → Except EngineError call.Result
  localDescription : Option RTCSessionDescription
  poll : DataChannel → Option DataChannelEvent

/-! ## Values of the session -/

/-- A signed envelope ready for the application's signaling path. -/
structure SignalEvent where
  envelope : Envelope
  deriving DecidableEq

/-- Application-facing live event. -/
inductive SessionEvent
  | connected
  | deliverCfr
      (envelopeId : EnvelopeId)
      (remoteEndpoint : EndpointIdentity)
      (payload : List UInt8)
  | closed (reason : CloseCode)
  | failed
  deriving DecidableEq

/-- The events that end a session. -/
def SessionEvent.isTerminal : SessionEvent → Bool
  | closed _ | failed => true
  | connected | deliverCfr _ _ _ => false

/-- Engine, signaling-session or transition failure. -/
inductive Error
  | fcp (error : Core.Error)
  | webRtc (error : EngineError)
  | invalidAction (text : String)
  | descriptionEncoding
  | candidateEncoding
  | controlChannelUnavailable
  | closed
  deriving DecidableEq

def engineEventCapacity : Nat := 128

def signalEventCapacity : Nat := 128

def maxStagedLocalCandidates : Nat := 64

/-- What a session is given once: its signer, the cryptographic operations and
the codecs of the libraries it uses. -/
structure SessionContext where
  primitives : Primitives
  signer : EndpointSigner
  /-- `serde_json::to_vec` on a candidate. -/
  encodeCandidate : RTCIceCandidateInit → Option (List UInt8)
  /-- `serde_json::from_slice` to a candidate. -/
  decodeCandidate : List UInt8 → Option RTCIceCandidateInit
  /-- `RTCSessionDescription::offer` and `RTCSessionDescription::answer`. -/
  parseDescription :
    RTCSdpType → String → Except EngineError RTCSessionDescription

/-- A local candidate with its sequence number. -/
abbrev LocalCandidate : Type :=
  UInt32 × List UInt8

/-- The shared state of a session.  Queues are oldest first, and `spawned` holds
the control channels whose pump the runtime has not picked up. -/
structure Shared where
  connection : Connection
  signals : List SignalEvent
  events : List SessionEvent
  control : Option DataChannel
  candidateSequence : UInt32
  stagedCandidates : List LocalCandidate
  terminal : Bool
  spawned : List DataChannel
  deriving DecidableEq

/-- The state of a new session. -/
def Shared.new (connection : Connection) : Shared where
  connection := connection
  signals := []
  events := []
  control := none
  candidateSequence := 0
  stagedCandidates := []
  terminal := false
  spawned := []

/-! ## Operations -/

/-- The accesses to the shared state and the calls into the engine. -/
inductive Operation
  /-- A method of the connection under its lock. -/
  | connection (operation : Core.Operation)
  /-- `apply_event` under the lock of the connection. -/
  | applyEvent (event : AdapterEvent)
  | trySendSignal (signal : SignalEvent)
  | sendSignal (signal : SignalEvent)
  | tryRecvSignal
  | sendEvent (event : SessionEvent)
  | tryRecvEvent
  | setControl (channel : DataChannel)
  | getControl
  /-- `fetch_add` on the candidate sequence. -/
  | nextSequence
  /-- Make room in the staging list and append to it. -/
  | stage (sequence : UInt32) (candidate : List UInt8)
  /-- `mem::take` on the staging list. -/
  | takeStaged
  /-- `compare_exchange` on the terminal flag. -/
  | exchangeTerminal
  | spawn (channel : DataChannel)
  /-- The runtime picks up a spawned pump. -/
  | pickUp
  | engine (call : EngineCall)
  | localDescription
  | poll (channel : DataChannel)

/-- What an operation returns.  A full queue refuses a `trySendSignal`, and
staging returns the candidate it evicts. -/
abbrev Operation.Reply : Operation → Type
  | connection _ | applyEvent _ => Except Core.Error (List Action)
  | trySendSignal _ | sendSignal _ | sendEvent _ | exchangeTerminal => Bool
  | tryRecvSignal => Option SignalEvent
  | tryRecvEvent => Option SessionEvent
  | setControl _ | spawn _ => Unit
  | getControl => Option DataChannel
  | nextSequence => UInt32
  | stage _ _ => Option LocalCandidate
  | takeStaged => List LocalCandidate
  | pickUp => DataChannel
  | engine call => Except EngineError call.Result
  | localDescription => Option RTCSessionDescription
  | poll _ => Option DataChannelEvent

/-- The reply to an operation and the state after it, if it need not wait. -/
def respond
    (primitives : Primitives)
    (engine : Engine)
    (shared : Shared) :
    (operation : Operation) → Option (operation.Reply × Shared)
  | .connection operation =>
      let (outcome, later) := operation.perform primitives shared.connection
      some (outcome, { shared with connection := later })
  | .applyEvent event =>
      let (outcome, later) :=
        (applyEvent primitives event).call shared.connection
      some (outcome, { shared with connection := later })
  | .trySendSignal signal =>
      if shared.signals.length < signalEventCapacity then
        some (true, { shared with signals := shared.signals ++ [signal] })
      else
        some (false, shared)
  | .sendSignal signal =>
      if shared.signals.length < signalEventCapacity then
        some (true, { shared with signals := shared.signals ++ [signal] })
      else
        none
  | .tryRecvSignal =>
      some (shared.signals.head?,
        { shared with signals := shared.signals.tail })
  | .sendEvent event =>
      if shared.events.length < engineEventCapacity then
        some (true, { shared with events := shared.events ++ [event] })
      else
        none
  | .tryRecvEvent =>
      some (shared.events.head?, { shared with events := shared.events.tail })
  | .setControl channel => some ((), { shared with control := some channel })
  | .getControl => some (shared.control, shared)
  | .nextSequence =>
      some (shared.candidateSequence,
        { shared with candidateSequence := shared.candidateSequence + 1 })
  | .stage sequence candidate =>
      if shared.stagedCandidates.length = maxStagedLocalCandidates then
        some (shared.stagedCandidates.head?,
          { shared with
            stagedCandidates :=
              shared.stagedCandidates.tail ++ [(sequence, candidate)] })
      else
        some (none,
          { shared with
            stagedCandidates :=
              shared.stagedCandidates ++ [(sequence, candidate)] })
  | .takeStaged =>
      some (shared.stagedCandidates, { shared with stagedCandidates := [] })
  | .exchangeTerminal =>
      if shared.terminal then
        some (false, shared)
      else
        some (true, { shared with terminal := true })
  | .spawn channel =>
      some ((), { shared with spawned := shared.spawned ++ [channel] })
  | .pickUp =>
      match shared.spawned with
      | [] => none
      | channel :: rest => some (channel, { shared with spawned := rest })
  | .engine call => some (engine.returns call, shared)
  | .localDescription => some (engine.localDescription, shared)
  | .poll channel => some (engine.poll channel, shared)

/-- One operation with any choice of the engine. -/
def Step
    (primitives : Primitives)
    (shared : Shared)
    (operation : Operation)
    (reply : operation.Reply)
    (later : Shared) : Prop :=
  ∃ engine, respond primitives engine shared operation = some (reply, later)

/-- A computation on the shared state. -/
abbrev Async (α : Type) : Type :=
  Program Operation Operation.Reply α

/-- A computation on the shared state that may return an error. -/
abbrev Fallible (α : Type) : Type :=
  ExceptT Error (Program Operation Operation.Reply) α

/-- Perform one operation. -/
def access (operation : Operation) : Async operation.Reply :=
  Program.call operation

/-- Perform one operation in a computation that may return an error. -/
def await (operation : Operation) : Fallible operation.Reply :=
  ExceptT.lift (access operation)

/-- Rust's `?` on a result at hand. -/
def settle (result : Except Error α) : Fallible α :=
  ExceptT.mk (pure result)

/-- Call the engine and return its error as one of the session. -/
def callEngine (call : EngineCall) : Fallible call.Result := do
  settle ((← await (.engine call)).mapError .webRtc)

/-- Call a method of the connection and return its error as one of the
session. -/
def lockConnection (operation : Core.Operation) : Fallible (List Action) := do
  settle ((← await (.connection operation)).mapError .fcp)

section Equations

variable {α β : Type}

theorem run_await_bind (operation : Operation)
    (next : operation.Reply → Fallible α) :
    (await operation >>= next).run =
      .perform operation fun reply => (next reply).run := rfl

theorem run_settle_bind (result : Except Error β) (next : β → Fallible α) :
    (settle result >>= next).run =
      match result with
      | .ok value => (next value).run
      | .error error => .done (.error error) := by
  cases result <;> rfl

theorem run_callEngine_bind (call : EngineCall)
    (next : call.Result → Fallible α) :
    (callEngine call >>= next).run =
      .perform (.engine call) fun reply =>
        match reply with
        | .ok result => (next result).run
        | .error error => .done (.error (.webRtc error)) := by
  refine congrArg (Program.perform _) (funext fun reply => ?_)
  cases reply <;> rfl

theorem run_callEngine (call : EngineCall) :
    (callEngine call).run =
      .perform (.engine call) fun reply => .done (reply.mapError .webRtc) := by
  refine congrArg (Program.perform _) (funext fun reply => ?_)
  cases reply <;> rfl

theorem run_lockConnection_bind (operation : Core.Operation)
    (next : List Action → Fallible α) :
    (lockConnection operation >>= next).run =
      .perform (.connection operation) fun reply =>
        match reply with
        | .ok actions => (next actions).run
        | .error error => .done (.error (.fcp error)) := by
  refine congrArg (Program.perform _) (funext fun reply => ?_)
  cases reply <;> rfl

end Equations

/-! ## Session descriptions -/

/-- The DTLS fingerprint of a session description. -/
def dtlsFingerprint (description : List UInt8) :
    Except Error (List UInt8) := do
  let text ← okOr (fromUtf8 description) .descriptionEncoding
  okOr
    ((lines text).findSome? fun line =>
      (stripPrefix "a=fingerprint:" line).map asBytes)
    (.invalidAction "SDP contains no DTLS fingerprint")

end Webrtc
end Fcp
