import Fcp.Core.Lifecycle
import Fcp.Webrtc.Session

/-!
# Tasks beside each other

What one operation does to the shared state, which replies an operation can
have, and rules for the computations of a session.
-/

namespace Fcp
namespace Webrtc

open Core Reactive Rust Transport

/-! ## Operations on the connection -/

/-- The actions that an operation got from the connection. -/
def actionsOf : Event Operation Operation.Reply → List Action
  | ⟨.connection _, .ok actions⟩ => actions
  | ⟨.applyEvent _, .ok actions⟩ => actions
  | _ => []

section Steps

variable {primitives : Primitives}
variable {shared later : Shared}
variable {operation : Operation}
variable {reply : operation.Reply}

/-- An operation of a session leaves the connection alone or makes one of its
transitions. -/
theorem Step.transition
    (step : Step primitives shared operation reply later) :
    later.connection = shared.connection ∧
        actionsOf ⟨operation, reply⟩ = [] ∨
      ∃ inner : Core.Operation,
        (operation = .connection inner ∨
          ∃ event, operation = .applyEvent event ∧ event.Reports inner) ∧
        Connection.Transition primitives shared.connection inner
          (actionsOf ⟨operation, reply⟩) later.connection := by
  obtain ⟨engine, responded⟩ := step
  cases operation with
  | connection inner =>
      rcases Connection.perform_cases primitives shared.connection inner with
        ⟨error, performed⟩ | ⟨actions, after, performed, transition⟩
      · rw [respond, performed] at responded
        cases responded
        exact .inl ⟨rfl, rfl⟩
      · rw [respond, performed] at responded
        cases responded
        exact .inr ⟨inner, .inl rfl, transition⟩
  | applyEvent event =>
      rcases call_applyEvent_cases primitives event shared.connection with
        ⟨error, applied⟩ | ⟨inner, reports, applied⟩
      · rw [respond, applied] at responded
        cases responded
        exact .inl ⟨rfl, rfl⟩
      · rcases Connection.perform_cases primitives shared.connection inner with
          ⟨error, performed⟩ | ⟨actions, after, performed, transition⟩
        · rw [respond, applied, performed] at responded
          cases responded
          exact .inl ⟨rfl, rfl⟩
        · rw [respond, applied, performed] at responded
          cases responded
          exact .inr ⟨inner, .inr ⟨event, rfl, reports⟩, transition⟩
  | trySendSignal signal =>
      rw [respond] at responded
      split at responded <;> cases responded <;> exact .inl ⟨rfl, rfl⟩
  | sendSignal signal =>
      rw [respond] at responded
      split at responded <;> cases responded
      exact .inl ⟨rfl, rfl⟩
  | sendEvent event =>
      rw [respond] at responded
      split at responded <;> cases responded
      exact .inl ⟨rfl, rfl⟩
  | stage sequence candidate =>
      rw [respond] at responded
      split at responded <;> cases responded <;> exact .inl ⟨rfl, rfl⟩
  | exchangeTerminal =>
      rw [respond] at responded
      split at responded <;> cases responded <;> exact .inl ⟨rfl, rfl⟩
  | pickUp =>
      rw [respond] at responded
      split at responded <;> cases responded
      exact .inl ⟨rfl, rfl⟩
  | _ =>
      cases responded
      exact .inl ⟨rfl, rfl⟩

/-- A method of the connection that succeeds makes a transition. -/
theorem Step.transition_of_ok
    {inner : Core.Operation}
    {actions : List Action}
    (step : Step primitives shared (.connection inner) (.ok actions) later) :
    Connection.Transition primitives shared.connection inner actions
      later.connection := by
  obtain ⟨engine, responded⟩ := step
  rw [respond] at responded
  obtain ⟨succeeded, later_eq⟩ := Prod.ext_iff.mp (Option.some.inj responded)
  refine Connection.perform_eq_ok_iff.mp (Prod.ext succeeded ?_)
  exact congrArg Shared.connection later_eq

end Steps

/-! ## Replies -/

/-- Some state gives this reply. -/
def Answers
    (primitives : Primitives)
    (operation : Operation)
    (reply : operation.Reply) : Prop :=
  ∃ shared later, Step primitives shared operation reply later

section Replies

variable {primitives : Primitives}
variable {actions : List Action}

theorem Answers.exists_transition
    {inner : Core.Operation}
    (answered : Answers primitives (.connection inner) (.ok actions)) :
    ∃ connection after, Connection.Transition primitives connection inner
      actions after := by
  obtain ⟨shared, later, step⟩ := answered
  exact ⟨_, _, step.transition_of_ok⟩

/-- What a connection returns for something that reached it from outside. -/
def Inbound (actions : List Action) : Prop :=
  actions = [] ∨ ∃ id sender body,
    actions = [Connection.reaction id sender body]

theorem inbound_of_transition
    {envelope : Envelope}
    {connection after : Connection}
    (transition : Connection.Transition primitives connection
      (.receive envelope) actions after) :
    Inbound actions := by
  cases transition with
  | duplicate admitted known => exact .inl rfl
  | receive admitted fresh reacts =>
      exact .inr ⟨_, _, _, by rw [reacts.action_eq]⟩

theorem Answers.inbound
    {envelope : Envelope}
    (answered : Answers primitives (.connection (.receive envelope))
      (.ok actions)) :
    Inbound actions := by
  obtain ⟨_, _, transition⟩ := answered.exists_transition
  exact inbound_of_transition transition

theorem Answers.inbound_of_event
    {event : AdapterEvent}
    (answered : Answers primitives (.applyEvent event) (.ok actions)) :
    Inbound actions := by
  obtain ⟨shared, later, step⟩ := answered
  rcases step.transition with ⟨-, none⟩ | ⟨inner, operation_eq, transition⟩
  · exact .inl none
  · rcases operation_eq with operation_eq | ⟨_, operation_eq, reports⟩
    · cases operation_eq
    · cases operation_eq
      generalize later.connection = after at transition
      cases reports with
      | connected =>
          cases transition
          exact .inl rfl
      | controlBinary => exact inbound_of_transition transition
      | failed =>
          cases transition
          exact .inl rfl
      | closed =>
          cases transition
          exact .inl rfl

/-- The actions with which a connection sends its description. -/
def Describes (actions : List Action) (envelope : Envelope) : Prop :=
  actions = [.openControlChannel, .send envelope] ∨ actions = [.send envelope]

/-- An offer that is signed is sent. -/
theorem Answers.beginOffer
    {signer : EndpointSigner}
    {binding : WebRtcBinding}
    {description : List UInt8}
    (answered : Answers primitives
      (.connection (.beginOffer signer binding description)) (.ok actions)) :
    ∃ envelope, envelope.body = .offer binding description ∧
      Describes actions envelope := by
  obtain ⟨_, _, transition⟩ := answered.exists_transition
  cases transition
  exact ⟨_, rfl, .inl rfl⟩

/-- An answer that is signed is sent. -/
theorem Answers.answer
    {signer : EndpointSigner}
    {binding : WebRtcBinding}
    {description : List UInt8}
    (answered : Answers primitives
      (.connection (.answer signer binding description)) (.ok actions)) :
    ∃ envelope offerId, envelope.body = .answer offerId binding description ∧
      Describes actions envelope := by
  obtain ⟨_, _, transition⟩ := answered.exists_transition
  cases transition
  exact ⟨_, _, rfl, .inr rfl⟩

/-- A candidate that is signed is sent. -/
theorem Answers.candidate
    {signer : EndpointSigner}
    {sequence : UInt32}
    {candidate : List UInt8}
    (answered : Answers primitives
      (.connection (.candidate signer sequence candidate)) (.ok actions)) :
    ∃ envelope parentId,
      envelope.body = .candidate parentId sequence candidate ∧
      actions = [.send envelope] := by
  obtain ⟨_, _, transition⟩ := answered.exists_transition
  cases transition
  exact ⟨_, _, rfl, rfl⟩

end Replies

/-! ## Runs -/

/-- A session of which no task has started. -/
def launch
    {ι : Type}
    (context : SessionContext)
    (tasks : ι → Task)
    (connection : Connection) : (ι → Async Returned) × Shared :=
  (fun task => (tasks task).program context, .new connection)

/-- An event of the log without its task. -/
abbrev bare {ι : Type} (event : PoolEvent ι Operation Operation.Reply) :
    Event Operation Operation.Reply :=
  ⟨event.call.2, event.reply⟩

/-! ## Plain operations -/

/-- The operations that neither touch a queue of signals, the staged candidates
and the terminal flag nor move the connection towards establishment. -/
inductive Plain : Operation → Prop
  | engine {call : EngineCall} : Plain (.engine call)
  | localDescription : Plain .localDescription
  | setControl {channel : DataChannel} : Plain (.setControl channel)
  | getControl : Plain .getControl
  | spawn {channel : DataChannel} : Plain (.spawn channel)
  | tryRecvEvent : Plain .tryRecvEvent
  | cfrControl {signer : EndpointSigner} {payload : List UInt8} :
      Plain (.connection (.cfrControl signer payload))
  | close {signer : EndpointSigner} {reason : CloseCode} :
      Plain (.connection (.close signer reason))

/-- A computation makes only plain operations and does not crash. -/
abbrev StaysPlain
    {α : Type}
    (answers : (operation : Operation) → operation.Reply → Prop)
    (ensures : List (Event Operation Operation.Reply) → α → Prop)
    (program : Async α)
    (history : List (Event Operation Operation.Reply)) : Prop :=
  program.Fulfills answers (fun _ operation => Plain operation) ensures history

section Plain

variable {answers : (operation : Operation) → operation.Reply → Prop}
variable {history : List (Event Operation Operation.Reply)}

theorem staysPlain_settle_bind
    {α β : Type}
    {ensures : List (Event Operation Operation.Reply) →
      Except Error α → Prop}
    {result : Except Error β}
    {next : β → Fallible α}
    (failed : ∀ error, ensures history (.error error))
    (rest : ∀ value, StaysPlain answers ensures (next value).run history) :
    StaysPlain answers ensures (settle result >>= next).run history := by
  rw [run_settle_bind]
  cases result with
  | error error => exact failed error
  | ok value => exact rest value

theorem staysPlain_callEngine (call : EngineCall) :
    StaysPlain answers (fun _ _ => True) (callEngine call).run history := by
  rw [run_callEngine]
  exact ⟨.engine, fun _ _ => trivial⟩

theorem staysPlain_installControlChannel (channel : DataChannel) :
    StaysPlain answers (fun _ _ => True) (installControlChannel channel)
      history :=
  ⟨.setControl, fun _ _ => ⟨.spawn, fun _ _ => trivial⟩⟩

theorem staysPlain_isReliable (channel : DataChannel) :
    StaysPlain answers (fun _ _ => True) (isReliable channel) history := by
  refine ⟨.engine, fun lifetime _ => ?_⟩
  rcases lifetime with error | _ | lifetime
  · trivial
  · refine ⟨.engine, fun retransmits _ => ?_⟩
    rcases retransmits with error | _ | retransmits <;> trivial
  · trivial

theorem staysPlain_installRemoteControlChannel (channel : DataChannel) :
    StaysPlain answers (fun _ _ => True) (installRemoteControlChannel channel)
      history := by
  refine ⟨.engine, fun label _ => ?_⟩
  cases label with
  | error error => trivial
  | ok label =>
      refine ⟨.engine, fun protocol _ => ?_⟩
      cases protocol with
      | error error => trivial
      | ok protocol =>
          refine ⟨.engine, fun ordered _ => ?_⟩
          cases ordered with
          | error error => trivial
          | ok ordered =>
              refine (staysPlain_isReliable channel).bind
                fun later reliable _ => ?_
              split
              · exact ⟨.engine, fun _ _ => trivial⟩
              · exact staysPlain_installControlChannel channel

/-- A call that sends CFR bytes has them signed first. -/
theorem staysPlain_sendCfr (context : SessionContext) (payload : List UInt8) :
    StaysPlain answers
      (fun later result => ∀ value, result = .ok value → ∃ actions,
        ⟨.connection (.cfrControl context.signer payload), .ok actions⟩ ∈ later)
      (sendCfr context payload).run history := by
  rw [sendCfr, run_lockConnection_bind]
  refine ⟨.cfrControl, fun outcome _ => ?_⟩
  cases outcome with
  | error error => exact nofun
  | ok actions =>
      dsimp only
      split
      · rw [run_await_bind]
        refine ⟨.getControl, fun control _ => ?_⟩
        refine staysPlain_settle_bind (fun _ => nofun) fun channel => ?_
        refine staysPlain_settle_bind (fun _ => nofun) fun wire => ?_
        refine (staysPlain_callEngine _).extended.mono fun later _ sent => ?_
        exact fun _ _ => ⟨_, sent.1.subset
          (List.mem_append_left _ List.mem_concat_self)⟩
      · exact nofun

theorem staysPlain_beginClose (context : SessionContext) (reason : CloseCode) :
    StaysPlain answers (fun _ _ => True) (beginClose context reason).run
      history := by
  rw [beginClose, run_lockConnection_bind]
  refine ⟨.close, fun outcome _ => ?_⟩
  cases outcome with
  | error error => trivial
  | ok actions =>
      dsimp only
      split <;> trivial

end Plain

end Webrtc
end Fcp
