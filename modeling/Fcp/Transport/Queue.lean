import Fcp.Core.CfrDelivery
import Fcp.Core.Lifecycle
import Fcp.Transport.Adapter

/-!
# Dispatch to a platform adapter

The owner of a connection hands each action either to the WebRTC engine of its
platform or to the application.  An engine without a synchronous interface is
fed from a queue of commands, which the owner drains whenever it likes.
-/

namespace Fcp
namespace Transport

open Core Rust Reactive

/-- What a platform has to offer to be driven by a connection. -/
structure WebRtcAdapter (σ ε : Type) where
  applyOffer : WebRtcBinding → List UInt8 → Method σ ε Unit
  applyAnswer : WebRtcBinding → List UInt8 → Method σ ε Unit
  addCandidate : UInt32 → List UInt8 → Method σ ε Unit
  openControlChannel : ControlChannelConfig → Method σ ε Unit
  close : CloseCode → Method σ ε Unit

/-- What remains for the application to do. -/
inductive ApplicationAction
  | send (envelope : Envelope)
  | deliverCfr (envelopeId : EnvelopeId) (remoteEndpoint : EndpointIdentity)
      (payload : List UInt8)

/-- Hand one action to the engine or to the application. -/
def dispatch (adapter : WebRtcAdapter σ ε) :
    Action → Method σ ε (Option ApplicationAction)
  | .send envelope => return some (.send envelope)
  | .applyOffer binding description => do
      adapter.applyOffer binding description
      return none
  | .applyAnswer binding description => do
      adapter.applyAnswer binding description
      return none
  | .addCandidate sequence candidate => do
      adapter.addCandidate sequence candidate
      return none
  | .openControlChannel => do
      adapter.openControlChannel controlChannel
      return none
  | .deliverCfr envelopeId remoteEndpoint payload =>
      return some (.deliverCfr envelopeId remoteEndpoint payload)
  | .closeTransport reason => do
      adapter.close reason
      return none

/-! ## The queue of commands -/

/-- One command for an engine. -/
inductive NativeCommand
  | applyOffer (binding : WebRtcBinding) (description : List UInt8)
  | applyAnswer (binding : WebRtcBinding) (description : List UInt8)
  | addCandidate (sequence : UInt32) (candidate : List UInt8)
  | openControlChannel (configuration : ControlChannelConfig)
  | close (reason : CloseCode)

/-- Commands that wait for an engine. -/
structure CommandQueue where
  commands : List NativeCommand

namespace CommandQueue

/-- The queue without commands. -/
def default : CommandQueue :=
  ⟨[]⟩

/-- Drain the commands in their order. -/
def takeCommands (queue : CommandQueue) : List NativeCommand × CommandQueue :=
  (queue.commands, default)

/-- Queue one command, which never fails. -/
def push (command : NativeCommand) : Method CommandQueue Empty Unit :=
  modify fun queue => ⟨queue.commands ++ [command]⟩

/-- The queue in the place of an engine. -/
def adapter : WebRtcAdapter CommandQueue Empty where
  applyOffer binding description := push (.applyOffer binding description)
  applyAnswer binding description := push (.applyAnswer binding description)
  addCandidate sequence candidate := push (.addCandidate sequence candidate)
  openControlChannel configuration := push (.openControlChannel configuration)
  close reason := push (.close reason)

end CommandQueue

/-- The command that an action is for the engine. -/
def command? : Action → Option NativeCommand
  | .applyOffer binding description => some (.applyOffer binding description)
  | .applyAnswer binding description => some (.applyAnswer binding description)
  | .addCandidate sequence candidate => some (.addCandidate sequence candidate)
  | .openControlChannel => some (.openControlChannel controlChannel)
  | .closeTransport reason => some (.close reason)
  | .send _ | .deliverCfr .. => none

/-- What an action is for the application. -/
def application? : Action → Option ApplicationAction
  | .send envelope => some (.send envelope)
  | .deliverCfr envelopeId remoteEndpoint payload =>
      some (.deliverCfr envelopeId remoteEndpoint payload)
  | _ => none

/-- An action is for the engine or for the application, never for both. -/
theorem isSome_command? (action : Action) :
    (command? action).isSome = (application? action).isNone := by
  cases action <;> rfl

/-- Hand actions over one after the other. -/
def dispatchAll (adapter : WebRtcAdapter σ ε) :
    List Action → Method σ ε (List ApplicationAction)
  | [] => return []
  | action :: actions => do
      let first ← dispatch adapter action
      let rest ← dispatchAll adapter actions
      return first.toList ++ rest

theorem call_dispatch (action : Action) (queue : CommandQueue) :
    (dispatch CommandQueue.adapter action).call queue =
      (.ok (application? action),
        ⟨queue.commands ++ (command? action).toList⟩) := by
  cases action with
  | send | deliverCfr =>
      rw [command?, Option.toList_none, List.append_nil]
      rfl
  | _ => rfl

/-- The queue takes the commands, and the application is given the rest. -/
theorem call_dispatchAll (actions : List Action) (queue : CommandQueue) :
    (dispatchAll CommandQueue.adapter actions).call queue =
      (.ok (actions.filterMap application?),
        ⟨queue.commands ++ actions.filterMap command?⟩) := by
  induction actions generalizing queue with
  | nil =>
      rw [List.filterMap_nil, List.filterMap_nil, List.append_nil]
      rfl
  | cons action actions inductionHypothesis =>
      rw [dispatchAll, Method.call_bind, call_dispatch]
      dsimp only
      rw [Method.call_bind, inductionHypothesis]
      dsimp only
      rw [Method.call_pure, List.append_assoc, List.filterMap_cons,
        List.filterMap_cons]
      cases application? action <;> cases command? action <;> rfl

/-! ## The owner of a connection -/

/-- A connection and the queue for its engine. -/
structure Owner where
  connection : Connection
  queue : CommandQueue

/-- What happens to an owner. -/
inductive Step
  | operate (operation : Operation)
  | report (event : AdapterEvent)
  | drain

/-- What an owner has to pass on. -/
inductive Result
  | applied (actions : List ApplicationAction)
  | failed (error : Error)
  | drained (commands : List NativeCommand)

/-- Dispatch what a connection has returned. -/
def Owner.settle (queue : CommandQueue) :
    Except Error (List Action) × Connection → Result × Owner
  | (.error error, connection) => (.failed error, ⟨connection, queue⟩)
  | (.ok actions, connection) =>
      match (dispatchAll CommandQueue.adapter actions).call queue with
      | (.ok applied, later) => (.applied applied, ⟨connection, later⟩)
      | (.error error, _) => nomatch error

/-- Take one step. -/
def Step.perform
    (primitives : Primitives)
    (owner : Owner) : Step → Result × Owner
  | .operate operation =>
      Owner.settle owner.queue (operation.perform primitives owner.connection)
  | .report event =>
      Owner.settle owner.queue
        ((applyEvent primitives event).call owner.connection)
  | .drain =>
      let (commands, queue) := owner.queue.takeCommands
      (.drained commands, { owner with queue := queue })

/-- The operation of the connection behind a step, unless it has none. -/
def Step.operation? (primitives : Primitives) : Step → Option Operation
  | .operate operation => some operation
  | .report .connected => some .transportConnected
  | .report (.controlBinary wire) =>
      (Envelope.decodeVerified primitives wire).toOption.map .receive
  | .report .failed | .report .closed => some .transportFailed
  | .drain => none

/-- Take steps one after the other. -/
def Owner.session
    (primitives : Primitives)
    (owner : Owner)
    (steps : List Step) : Session Owner Step Result :=
  Session.run (Step.perform primitives) (.start owner) steps

/-- The commands that a step has drained. -/
def Result.commands : Result → List NativeCommand
  | .drained commands => commands
  | _ => []

/-- What a step has given to the application. -/
def Result.actions : Result → List ApplicationAction
  | .applied actions => actions
  | _ => []

/-- The commands that an engine has been given along a run. -/
def drained (history : List (Step × Result)) : List NativeCommand :=
  history.flatMap fun exchange => exchange.2.commands

/-- What the application has been given along a run. -/
def handedOut (history : List (Step × Result)) : List ApplicationAction :=
  history.flatMap fun exchange => exchange.2.actions

theorem Owner.settle_eq
    (queue : CommandQueue)
    (outcome : Except Error (List Action))
    (later : Connection) :
    ∃ result, Owner.settle queue (outcome, later) =
        (result, ⟨later,
          ⟨queue.commands ++ (Outcome.actions outcome).filterMap command?⟩⟩) ∧
      result.commands = [] ∧
      result.actions = (Outcome.actions outcome).filterMap application? := by
  cases outcome with
  | error error =>
      refine ⟨.failed error, ?_, rfl, rfl⟩
      rw [Outcome.actions, List.filterMap_nil, List.append_nil]
      rfl
  | ok actions =>
      refine ⟨.applied (actions.filterMap application?), ?_, rfl, rfl⟩
      rw [Owner.settle, call_dispatchAll]
      rfl

/-- A step with an operation settles what the operation returns. -/
theorem Step.perform_of_operation
    {primitives : Primitives}
    {step : Step}
    {operation : Operation}
    (found : step.operation? primitives = some operation)
    (owner : Owner) :
    step.perform primitives owner = Owner.settle owner.queue
      (operation.perform primitives owner.connection) := by
  cases step with
  | operate operation =>
      cases found
      rfl
  | drain => cases found
  | report event =>
      cases event with
      | connected | failed | closed =>
          cases found
          rfl
      | controlBinary wire =>
          rw [perform, call_applyEvent_controlBinary]
          rw [operation?] at found
          cases decoded : Envelope.decodeVerified primitives wire with
          | error error =>
              rw [decoded] at found
              cases found
          | ok envelope =>
              rw [decoded] at found
              cases found
              rfl

/-- A step without an operation drains the queue or is a wire that is not
decoded. -/
theorem Step.perform_of_no_operation
    {primitives : Primitives}
    {step : Step}
    (absent : step.operation? primitives = none)
    (owner : Owner) :
    (step = .drain ∧ step.perform primitives owner =
      (.drained owner.queue.commands, ⟨owner.connection, .default⟩)) ∨
    ∃ error, step.perform primitives owner = (.failed error, owner) := by
  cases step with
  | operate operation => cases absent
  | drain => exact .inl ⟨rfl, rfl⟩
  | report event =>
      cases event with
      | connected | failed | closed => cases absent
      | controlBinary wire =>
          rw [perform, call_applyEvent_controlBinary]
          rw [operation?] at absent
          cases decoded : Envelope.decodeVerified primitives wire with
          | error error => exact .inr ⟨error, rfl⟩
          | ok envelope =>
              rw [decoded] at absent
              cases absent

/-- The actions that a connection has emitted, oldest first. -/
def emitted (history : List (Operation × Outcome)) : List Action :=
  history.flatMap fun exchange => Outcome.actions exchange.2

/-- The owner is in step with a run of its connection. -/
structure Owner.Tracks
    (primitives : Primitives)
    (connection : Connection)
    (steps : List Step)
    (session : Session Owner Step Result) : Prop where
  connection_eq : session.state.connection =
    (connection.session primitives
      (steps.filterMap (Step.operation? primitives))).state
  commands_eq : drained session.history ++ session.state.queue.commands =
    (emitted (connection.session primitives
      (steps.filterMap (Step.operation? primitives))).history).filterMap command?
  actions_eq : handedOut session.history =
    (emitted (connection.session primitives
      (steps.filterMap (Step.operation? primitives))).history).filterMap
        application?

theorem emitted_concat
    (history : List (Operation × Outcome))
    (operation : Operation)
    (outcome : Outcome) :
    emitted (history ++ [(operation, outcome)]) =
      emitted history ++ Outcome.actions outcome := by
  simp [emitted]

theorem Owner.Tracks.advance
    {primitives : Primitives}
    {connection : Connection}
    {steps : List Step}
    {session : Session Owner Step Result}
    (tracks : Owner.Tracks primitives connection steps session)
    (step : Step) :
    Owner.Tracks primitives connection (steps ++ [step])
      (session.advance (Step.perform primitives) step) := by
  obtain ⟨connection_eq, commands_eq, actions_eq⟩ := tracks
  rw [Session.advance]
  cases found : step.operation? primitives with
  | some operation =>
      have operations_eq : (steps ++ [step]).filterMap
          (Step.operation? primitives) =
            steps.filterMap (Step.operation? primitives) ++ [operation] := by
        simp [found]
      rw [Step.perform_of_operation found, connection_eq]
      rcases performed : operation.perform primitives
          (connection.session primitives
            (steps.filterMap (Step.operation? primitives))).state with
        ⟨outcome, later⟩
      obtain ⟨result, settled, noCommands, applied⟩ :=
        Owner.settle_eq session.state.queue outcome later
      have core_eq : connection.session primitives
          (steps.filterMap (Step.operation? primitives) ++ [operation]) =
            ⟨later, (connection.session primitives
              (steps.filterMap (Step.operation? primitives))).history ++
                [(operation, outcome)]⟩ := by
        rw [Connection.session, Session.run_concat, ← Connection.session,
          Session.advance, performed]
      rw [settled]
      constructor
      · rw [operations_eq, core_eq]
      · rw [operations_eq, core_eq, emitted_concat, List.filterMap_append,
          ← commands_eq, drained, List.flatMap_append, List.flatMap_singleton,
          noCommands, List.append_nil, ← List.append_assoc]
        rfl
      · rw [operations_eq, core_eq, emitted_concat, List.filterMap_append,
          ← actions_eq, handedOut, List.flatMap_append, List.flatMap_singleton,
          applied]
        rfl
  | none =>
      have operations_eq : (steps ++ [step]).filterMap
          (Step.operation? primitives) =
            steps.filterMap (Step.operation? primitives) := by
        simp [found]
      rcases Step.perform_of_no_operation found session.state with
        ⟨-, performed⟩ | ⟨error, performed⟩
      · rw [performed]
        constructor
        · rw [operations_eq]
          exact connection_eq
        · rw [operations_eq, ← commands_eq]
          simp [drained, Result.commands, CommandQueue.default]
        · rw [operations_eq, ← actions_eq]
          simp [handedOut, Result.actions]
      · rw [performed]
        constructor
        · rw [operations_eq]
          exact connection_eq
        · rw [operations_eq, ← commands_eq]
          simp [drained, Result.commands]
        · rw [operations_eq, ← actions_eq]
          simp [handedOut, Result.actions]

theorem Owner.tracks_session
    (primitives : Primitives)
    (connection : Connection)
    (steps : List Step) :
    Owner.Tracks primitives connection steps
      (Owner.session primitives ⟨connection, .default⟩ steps) := by
  induction steps using List.reverseRecOn with
  | nil => exact ⟨rfl, rfl, rfl⟩
  | append_singleton steps step inductionHypothesis =>
      rw [Owner.session, Session.run_concat, ← Owner.session]
      exact inductionHypothesis.advance step

/-- Whatever happens to an owner, its engine has been given or will be given
exactly the commands among the actions of the connection, in their order and
each once, and the application has been given all other actions in theirs. -/
theorem engine_and_application_share_the_actions
    (primitives : Primitives)
    (connection : Connection)
    (steps : List Step) :
    let owner := Owner.session primitives ⟨connection, .default⟩ steps
    let core := connection.session primitives
      (steps.filterMap (Step.operation? primitives))
    owner.state.connection = core.state ∧
      drained owner.history ++ owner.state.queue.commands =
        (emitted core.history).filterMap command? ∧
      handedOut owner.history =
        (emitted core.history).filterMap application? ∧
      ∀ action, (command? action).isSome = (application? action).isNone := by
  obtain ⟨connection_eq, commands_eq, actions_eq⟩ :=
    Owner.tracks_session primitives connection steps
  exact ⟨connection_eq, commands_eq, actions_eq, isSome_command?⟩

/-! ## The order of commands -/

/-- How far the engine of a platform has been taken. -/
inductive Engine
  | fresh
  | offering
  | answering
  | negotiated
  | closed
  deriving DecidableEq

namespace Engine

/-- The commands that an engine can follow: a description comes first, an answer
once and only to an own offer, candidates only in between, and nothing after the
close. -/
def next : Engine → NativeCommand → Option Engine
  | .fresh, .openControlChannel _ => some .offering
  | .fresh, .applyOffer .. => some .answering
  | .offering, .applyAnswer .. => some .negotiated
  | .offering, .addCandidate .. => some .offering
  | .answering, .addCandidate .. => some .answering
  | .negotiated, .addCandidate .. => some .negotiated
  | .offering, .close _ | .answering, .close _ | .negotiated, .close _ =>
      some .closed
  | _, _ => none

/-- Follow commands one after the other. -/
def follow (engine : Engine) (commands : List NativeCommand) : Option Engine :=
  commands.foldlM next engine

/-- The engine that goes with a phase.  A closed connection gives no commands. -/
def Fits (engine : Engine) : Phase → Prop
  | .idle => engine = .fresh
  | .offerSent => engine = .offering
  | .offerReceived | .answerSent => engine = .answering
  | .answerReceived => engine = .negotiated
  | .established => engine = .answering ∨ engine = .negotiated
  | .closed => True

end Engine

/-- An engine between its first description and its close takes candidates and
can be closed. -/
theorem Engine.Fits.cases
    {engine : Engine}
    {phase : Phase}
    (fits : engine.Fits phase)
    (started : phase ≠ .idle)
    (unfinished : phase ≠ .closed) :
    (∀ sequence candidate,
        engine.next (.addCandidate sequence candidate) = some engine) ∧
      ∀ reason, engine.next (.close reason) = some .closed := by
  have described : engine = .offering ∨ engine = .answering ∨
      engine = .negotiated := by
    cases phase with
    | idle => exact absurd rfl started
    | closed => exact absurd rfl unfinished
    | offerSent => exact .inl fits
    | offerReceived | answerSent => exact .inr (.inl fits)
    | answerReceived => exact .inr (.inr fits)
    | established => exact .inr fits
  rcases described with rfl | rfl | rfl <;>
    exact ⟨fun _ _ => rfl, fun _ => rfl⟩

/-- The engine follows the commands of one transition. -/
theorem Engine.Fits.follow
    {primitives : Primitives}
    {connection later : Connection}
    {operation : Operation}
    {actions : List Action}
    {engine : Engine}
    (fits : engine.Fits connection.phase)
    (transition : Connection.Transition primitives connection operation actions
      later) :
    ∃ next, engine.follow (actions.filterMap command?) = some next ∧
      next.Fits later.phase := by
  cases transition with
  | beginOffer signer_eq phase_eq bounded =>
      rw [phase_eq] at fits
      obtain rfl : engine = .fresh := fits
      exact ⟨.offering, rfl, rfl⟩
  | answer signer_eq phase_eq negotiation_eq bounded =>
      rw [phase_eq] at fits
      exact ⟨engine, rfl, fits⟩
  | candidate | cfrControl | duplicate => exact ⟨engine, rfl, fits⟩
  | close | transportFailed => exact ⟨engine, rfl, trivial⟩
  | transportConnected phase_eq =>
      refine ⟨engine, rfl, ?_⟩
      rcases phase_eq with phase_eq | phase_eq <;> rw [phase_eq] at fits
      · exact .inl fits
      · exact .inr fits
  | receive admitted fresh reacts =>
      generalize Envelope.body _ = body at reacts
      cases reacts with
      | offer phase_eq =>
          rw [phase_eq] at fits
          obtain rfl : engine = .fresh := fits
          exact ⟨.answering, rfl, rfl⟩
      | answer phase_eq negotiation_eq =>
          rw [phase_eq] at fits
          obtain rfl : engine = .offering := fits
          exact ⟨.negotiated, rfl, rfl⟩
      | candidate allowed =>
          have live := allowed.1
          have takes := (fits.cases
            (by rintro idle; rw [idle] at live; revert live; decide)
            (by rintro closed; rw [closed] at live; revert live; decide)).1
          exact ⟨engine, by simp [Engine.follow, command?, takes], fits⟩
      | close started unfinished =>
          have closes := (fits.cases started unfinished).2
          exact ⟨.closed, by simp [Engine.follow, command?, closes], trivial⟩
      | cfrControl phase_eq => exact ⟨engine, rfl, fits⟩

/-- The envelope of the peer of the sample connection for a body. -/
def peerEnvelope (body : Body) : Envelope :=
  (Connection.sample 1 0).outbound (.sample 1) body

/-- An offer of the peer. -/
def peerOffer : Body :=
  .offer ⟨Vector.replicate 32 0⟩ []

/-- The sample connection after the offer. -/
def offeredSample : Connection :=
  { Connection.sample 0 1 with
    negotiation := some ⟨(peerEnvelope peerOffer).digest .sample, none⟩
    phase := .offerReceived
    seen := [(peerEnvelope peerOffer).digest .sample] }

end Transport
end Fcp
