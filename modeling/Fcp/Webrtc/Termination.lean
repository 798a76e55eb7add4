import Mathlib.Tactic.FinCases
import Fcp.Core.CfrDelivery
import Fcp.Webrtc.InboundSignals
import Fcp.Webrtc.Conduct

/-!
# The end of a session

A session announces its end with one terminal event.  The flag that makes the
event unique, the phase of the connection and the queue of events are separate
pieces of state, and the tasks that change them take turns.
-/

namespace Fcp
namespace Webrtc

open Core Reactive Rust Transport

/-! ## What one operation changes -/

theorem actionsOf_of_ends
    {event : Event Operation Operation.Reply}
    (is_end : ends event = true) :
    actionsOf event = [] := by
  obtain ⟨operation, reply⟩ := event
  cases operation with
  | sendEvent => rfl
  | _ => cases is_end

/-- CFR bytes are delivered. -/
def delivers : Event Operation Operation.Reply → Bool
  | ⟨.sendEvent (.deliverCfr _ _ _), _⟩ => true
  | _ => false

section Steps

variable {primitives : Primitives}
variable {shared later : Shared}
variable {operation : Operation}
variable {reply : operation.Reply}

/-- The flag counts the exchanges that succeed. -/
theorem Step.terminal
    (step : Step primitives shared operation reply later) :
    later.terminal.toNat =
      shared.terminal.toNat + if wins ⟨operation, reply⟩ then 1 else 0 := by
  obtain ⟨engine, responded⟩ := step
  cases operation with
  | exchangeTerminal =>
      rw [respond] at responded
      split at responded
      case isTrue set =>
        cases responded
        rfl
      case isFalse unset =>
        cases responded
        simp [wins, unset]
  | trySendSignal | sendSignal | sendEvent | stage | pickUp =>
      rw [respond] at responded
      split at responded <;> cases responded <;> rfl
  | _ =>
      cases responded
      rfl

theorem Step.closed
    (step : Step primitives shared operation reply later)
    (closed : shared.connection.phase = .closed) :
    later.connection.phase = .closed := by
  rcases step.transition with ⟨kept, -⟩ | ⟨inner, -, transition⟩
  · rw [kept, closed]
  · obtain ⟨-, -, -, -, kept⟩ := transition.of_closed closed
    rw [kept, closed]

/-- The transport is closed with the connection. -/
theorem Step.closed_of_closeTransport
    {reason : CloseCode}
    (step : Step primitives shared operation reply later)
    (mem : .closeTransport reason ∈ actionsOf ⟨operation, reply⟩) :
    later.connection.phase = .closed := by
  rcases step.transition with ⟨-, none⟩ | ⟨inner, -, transition⟩
  · rw [none] at mem
    cases mem
  · generalize actionsOf ⟨operation, reply⟩ = actions at mem transition
    generalize later.connection = after at transition ⊢
    cases transition with
    | @receive envelope _ _ admitted fresh reacts =>
        generalize envelope.body = body at reacts
        cases reacts with
        | close => rfl
        | _ => simp at mem
    | _ => simp at mem

/-- Only an established connection delivers. -/
theorem Step.established_of_deliverCfr
    {envelopeId : EnvelopeId}
    {remoteEndpoint : EndpointIdentity}
    {payload : List UInt8}
    (step : Step primitives shared operation reply later)
    (mem : .deliverCfr envelopeId remoteEndpoint payload ∈
      actionsOf ⟨operation, reply⟩) :
    shared.connection.phase = .established := by
  rcases step.transition with ⟨-, none⟩ | ⟨inner, -, transition⟩
  · rw [none] at mem
    cases mem
  · generalize actionsOf ⟨operation, reply⟩ = actions at mem transition
    generalize later.connection = after at transition
    cases transition with
    | @receive envelope _ _ admitted fresh reacts =>
        generalize envelope.body = body at reacts
        cases reacts with
        | cfrControl phase_eq => exact phase_eq
        | _ => simp at mem
    | _ => simp at mem

theorem Step.of_sendEvent
    {event : SessionEvent}
    {sent : Bool}
    (step : Step primitives shared (.sendEvent event) sent later) :
    later = { shared with events := shared.events ++ [event] } := by
  obtain ⟨engine, responded⟩ := step
  rw [respond] at responded
  split at responded <;> cases responded
  rfl

/-- A connection becomes established by the report of the transport. -/
theorem Step.connected_of_established
    (step : Step primitives shared operation reply later)
    (before : shared.connection.phase ≠ .established)
    (after : later.connection.phase = .established) :
    (operation = .connection .transportConnected ∨
        operation = .applyEvent .connected) ∧
      (shared.connection.phase = .answerSent ∨
        shared.connection.phase = .answerReceived) := by
  rcases step.transition with ⟨kept, -⟩ | ⟨inner, operation_eq, transition⟩
  · rw [kept] at after
    exact absurd after before
  · generalize actionsOf ⟨operation, reply⟩ = actions at transition
    generalize later.connection = connection at transition after
    cases transition with
    | transportConnected phase_eq =>
        refine ⟨?_, phase_eq⟩
        rcases operation_eq with operation_eq | ⟨event, operation_eq, reports⟩
        · exact .inl operation_eq
        · cases reports
          exact .inr operation_eq
    | @receive envelope _ _ admitted fresh reacts =>
        generalize envelope.body = body at reacts
        cases reacts with
        | candidate | cfrControl => exact absurd after before
        | _ => cases after
    | duplicate | candidate | cfrControl => exact absurd after before
    | _ => cases after

/-- Only an established connection signs CFR bytes. -/
theorem Step.established_of_cfrControl
    {signer : EndpointSigner}
    {payload : List UInt8}
    {actions : List Action}
    (step : Step primitives shared (.connection (.cfrControl signer payload))
      (.ok actions) later) :
    shared.connection.phase = .established := by
  have transition := step.transition_of_ok
  generalize later.connection = after at transition
  cases transition with
  | cfrControl signer_eq phase_eq bounded => exact phase_eq

end Steps

/-! ## Sample sessions -/

theorem respond_connection
    {primitives : Primitives}
    {engine : Engine}
    {shared : Shared}
    {inner : Core.Operation}
    {actions : List Action}
    {later : Connection}
    (transition : Connection.Transition primitives shared.connection inner
      actions later) :
    respond primitives engine shared (.connection inner) =
      some (.ok actions, { shared with connection := later }) := by
  rw [respond, Connection.perform_eq_ok_iff.mpr transition]

theorem respond_refused
    {primitives : Primitives}
    {engine : Engine}
    {shared : Shared}
    {inner : Core.Operation}
    {error : Core.Error}
    (performed : inner.perform primitives shared.connection =
      (.error error, shared.connection)) :
    respond primitives engine shared (.connection inner) =
      some (.error error, shared) := by
  rw [respond, performed]

/-- The bytes of the sample description. -/
def sampleDescription : List UInt8 :=
  asBytes "a=fingerprint:0"

def sampleBinding : WebRtcBinding :=
  .derive .sample sampleDescription (asBytes "0")

/-- The offer of the sample session. -/
def sampleOffer : Envelope :=
  (Connection.sample 0 1).outbound (.sample 0)
    (.offer sampleBinding sampleDescription)

/-- The body with which the remote peer answers the sample offer. -/
def answerBody : Body :=
  .answer (sampleOffer.digest .sample) sampleBinding sampleDescription

/-- The bytes that carry a body of the remote peer. -/
def remoteWire (body : Body) : List UInt8 :=
  (remoteSample body).transcript ++ (remoteSample body).signatures

def offeringSample : Connection :=
  { Connection.sample 0 1 with
    negotiation := some ⟨sampleOffer.digest .sample, none⟩
    phase := .offerSent }

/-- The connection after the answer, in a later phase. -/
def answeredSample (phase : Phase) : Connection :=
  { Connection.sample 0 1 with
    negotiation := some ⟨sampleOffer.digest .sample,
      some ((remoteSample answerBody).digest .sample)⟩
    phase := phase
    seen := [(remoteSample answerBody).digest .sample] }

/-- A body of another length than the answer is new to the connection. -/
theorem digest_not_seen
    {body : Body}
    (lengths : body.fields.length % 256 ≠ answerBody.fields.length % 256) :
    (remoteSample body).digest .sample ∉ (answeredSample .established).seen := by
  rw [answeredSample, List.mem_singleton]
  exact Connection.digest_sample_ne rfl rfl lengths

/-- The sample session in the course of its negotiation. -/
def sampleSession (connection : Connection) (spawned : List DataChannel) :
    Shared :=
  { Shared.new connection with
    control := some ⟨0⟩
    spawned := spawned }

/-- What a task may do before the end of a session, whatever the other tasks
do. -/
def Calm (shared : Shared) : Operation → Prop
  | .sendEvent (.closed _) | .sendEvent .failed => False
  | .applyEvent .connected => shared.terminal = false
  | _ => True

theorem beginOffer_completes :
    Program.Completes (respond .sample (.sample none)) Calm
      (Task.program .sample .beginOffer) (.new (.sample 0 1))
      (.signal (.ok ⟨sampleOffer⟩)) (sampleSession offeringSample [⟨0⟩]) := by
  have offers : Connection.Transition .sample (Connection.sample 0 1)
      (.beginOffer (.sample 0) sampleBinding sampleDescription)
      [.openControlChannel, .send sampleOffer] offeringSample :=
    .beginOffer rfl rfl (by decide)
  refine .perform rfl trivial (.perform rfl trivial (.perform rfl trivial ?_))
  refine .perform rfl trivial (.perform rfl trivial (.perform rfl trivial ?_))
  refine .perform (respond_connection offers) trivial ?_
  refine .perform rfl trivial (.perform rfl trivial ?_)
  exact .perform rfl trivial (.perform rfl trivial .done)

/-- A decoded signal is given to the connection. -/
theorem program_acceptSignal {body : Body} (bounded : body.WithinBounds) :
    ∃ resume, Task.program .sample (.acceptSignal (remoteWire body)) =
        .perform (.connection (.receive (remoteSample body))) resume ∧
      ∀ actions, resume (.ok actions) =
        .unit <$> (processActions .sample actions).run := by
  have decoded : Envelope.decodeVerified SessionContext.sample.primitives
      (remoteWire body) = .ok (remoteSample body) :=
    remoteSample_decoded bounded
  rw [Task.program, acceptSignal, decoded]
  exact ⟨_, rfl, fun _ => rfl⟩

theorem acceptAnswer_completes (spawned : List DataChannel) :
    Program.Completes (respond .sample (.sample none)) Calm
      (Task.program .sample (.acceptSignal (remoteWire answerBody)))
      (sampleSession offeringSample spawned) (.unit (.ok ()))
      (sampleSession (answeredSample .answerReceived) spawned) := by
  have bounded : answerBody.WithinBounds := by decide
  have receives : Connection.Transition .sample
      (sampleSession offeringSample spawned).connection
      (.receive (remoteSample answerBody))
      [.applyAnswer sampleBinding sampleDescription]
      (answeredSample .answerReceived) :=
    @Connection.Transition.receive .sample offeringSample
      (remoteSample answerBody) _ _ (remoteSample_admitted bounded rfl)
      List.not_mem_nil (.answer rfl rfl)
  obtain ⟨resume, program_eq, resumed⟩ := program_acceptSignal bounded
  rw [program_eq]
  refine .perform (respond_connection receives) trivial ?_
  rw [resumed]
  exact .perform rfl trivial .done

/-- The state of the established sample session. -/
def establishedSession : Shared :=
  { sampleSession (answeredSample .established) [] with events := [.connected] }

theorem open_completes :
    Program.Completes (respond .sample (.sample (some .onOpen))) Calm
      (Task.program .sample (.controlPump 1))
      (sampleSession (answeredSample .answerReceived) [⟨0⟩]) .nothing
      establishedSession := by
  have connects : respond .sample (.sample (some .onOpen))
      (sampleSession (answeredSample .answerReceived) [])
      (.applyEvent .connected) =
        some (.ok [], sampleSession (answeredSample .established) []) := rfl
  refine .perform rfl trivial (.perform rfl trivial ?_)
  exact .perform connects rfl (.perform rfl trivial .done)

theorem sendCfr_completes
    {shared : Shared}
    (established : shared.connection = answeredSample .established)
    (installed : shared.control = some ⟨0⟩) :
    Program.Completes (respond .sample (.sample none)) Calm
      (Task.program .sample (.sendCfr [])) shared (.unit (.ok ())) shared := by
  have signs : Connection.Transition .sample shared.connection
      (.cfrControl (.sample 0) [])
      [.send (shared.connection.outbound (.sample 0) (.cfrControl []))]
      shared.connection := by
    rw [established]
    exact @Connection.Transition.cfrControl .sample
      (answeredSample .established) (.sample 0) [] rfl rfl (Nat.zero_le _)
  refine .perform (respond_connection signs) trivial ?_
  refine .perform (congrArg (fun control => some (control, shared)) installed)
    trivial ?_
  have encoded : (shared.connection.outbound (.sample 0)
      (.cfrControl [])).encode = .ok _ :=
    Envelope.encode_eq_ok_iff.mpr ⟨Nat.zero_le maxCfrControlBytes, rfl⟩
  rw [encoded]
  exact .perform rfl trivial .done

section Samples

variable {ι : Type} [DecidableEq ι]
variable {condition : List (PoolEvent ι Operation Operation.Reply) →
  (ι → Async Returned) × Shared → ι × Operation → Prop}
variable {engine : Engine}
variable {first : (ι → Async Returned) × Shared}
variable {log : List (PoolEvent ι Operation Operation.Reply)}
variable {pool : ι → Async Returned}
variable {caller : ι}
variable {shared later : Shared}

/-- A task of a sample session runs to its end. -/
theorem exists_run_of_completes
    {program : Async Returned}
    {value : Returned}
    (free : ∀ {log : List (PoolEvent ι Operation Operation.Reply)}
      {pool : ι → Async Returned} {shared : Shared} {caller : ι}
      {operation : Operation}, Calm shared operation →
        condition log (pool, shared) (caller, operation))
    (run : Guarded (PoolStep (Step .sample)) condition first log (pool, shared))
    (caller : ι)
    (completes : Program.Completes (respond .sample engine) Calm program shared
      value later)
    (waits : pool caller = program) :
    ∃ events, Guarded (PoolStep (Step .sample)) condition first (log ++ events)
        (Function.update pool caller (.done value), later) ∧
      ∀ event ∈ events, event.call.1 = caller :=
  completes.exists_guarded (fun replied => ⟨engine, replied⟩) free run waits

/-- An offer and its answer, before anything else happens. -/
theorem exists_answered
    {tasks : ι → Task}
    {offerer answerer : ι}
    (free : ∀ {log : List (PoolEvent ι Operation Operation.Reply)}
      {pool : ι → Async Returned} {shared : Shared} {caller : ι}
      {operation : Operation}, Calm shared operation →
        condition log (pool, shared) (caller, operation))
    (offers : tasks offerer = .beginOffer)
    (answers : tasks answerer = .acceptSignal (remoteWire answerBody))
    (apart : answerer ≠ offerer) :
    ∃ log, Guarded (PoolStep (Step SessionContext.sample.primitives)) condition
        (launch .sample tasks (.sample 0 1)) log
        (Function.update
          (Function.update (fun task => (tasks task).program .sample) offerer
            (.done (.signal (.ok ⟨sampleOffer⟩))))
          answerer (.done (.unit (.ok ()))),
        sampleSession (answeredSample .answerReceived) [⟨0⟩]) ∧
      ∀ task, task ≠ offerer → task ≠ answerer → own task log = [] := by
  have begins : (launch .sample tasks (.sample 0 1)).1 offerer =
      Task.program .sample .beginOffer := congrArg (Task.program .sample) offers
  obtain ⟨first, run, first_callers⟩ := exists_run_of_completes free .start
    offerer beginOffer_completes begins
  have waits : Function.update (launch .sample tasks (.sample 0 1)).1 offerer
      (.done (.signal (.ok ⟨sampleOffer⟩))) answerer =
        Task.program .sample (.acceptSignal (remoteWire answerBody)) := by
    rw [Function.update_of_ne apart, ← answers]
    rfl
  obtain ⟨second, run, second_callers⟩ := exists_run_of_completes free run
    answerer (acceptAnswer_completes _) waits
  refine ⟨_, run, fun task not_offerer not_answerer => ?_⟩
  refine own_eq_nil fun event mem => ?_
  rcases List.mem_append.mp mem with mem | mem
  · rw [first_callers event mem]
    exact not_offerer.symm
  · rw [second_callers event mem]
    exact not_answerer.symm

/-- A task of a sample session makes one step. -/
theorem next_of_respond
    {operation : Operation}
    {resume : operation.Reply → Async Returned}
    {reply : operation.Reply}
    (engine : Engine)
    (run : Trace (PoolStep (Step .sample)) first log (pool, shared))
    (caller : ι)
    (responded : respond .sample engine shared operation = some (reply, later))
    (waits : pool caller = .perform operation resume) :
    Trace (PoolStep (Step .sample)) first
      (log ++ [⟨(caller, operation), reply⟩])
      (Function.update pool caller (resume reply), later) :=
  run.next (.answered waits ⟨engine, responded⟩)

/-- A task of a sample session makes one step that meets a condition. -/
theorem guarded_next_of_respond
    {operation : Operation}
    {resume : operation.Reply → Async Returned}
    {reply : operation.Reply}
    (engine : Engine)
    (run : Guarded (PoolStep (Step .sample)) condition first log (pool, shared))
    (caller : ι)
    (responded : respond .sample engine shared operation = some (reply, later))
    (waits : pool caller = .perform operation resume)
    (meets : condition log (pool, shared) (caller, operation)) :
    Guarded (PoolStep (Step .sample)) condition first
      (log ++ [⟨(caller, operation), reply⟩])
      (Function.update pool caller (resume reply), later) :=
  run.next meets (.answered waits ⟨engine, responded⟩)

end Samples

/-! ## Whole runs -/

/-- A computation that waits to deliver CFR bytes. -/
def Delivering (program : Async Returned) : Prop :=
  ∃ envelopeId remoteEndpoint payload resume, program =
    .perform (.sendEvent (.deliverCfr envelopeId remoteEndpoint payload)) resume

/-- The steps that keep an ended session dead: a failure is announced after the
connection has left the established phase, the end is announced while no task
waits to deliver, and the transport does not connect after the end. -/
def Orderly
    {ι : Type}
    (current : (ι → Async Returned) × Shared)
    (call : ι × Operation) : Prop :=
  match call.2 with
  | .sendEvent .failed =>
      current.2.connection.phase ≠ .established ∧
        ∀ task, ¬Delivering (current.1 task)
  | .sendEvent (.closed _) => ∀ task, ¬Delivering (current.1 task)
  | .applyEvent .connected =>
      current.2.terminal = true →
        current.2.connection.phase ≠ .answerSent ∧
          current.2.connection.phase ≠ .answerReceived
  | _ => True

theorem Calm.orderly
    {ι : Type}
    {pool : ι → Async Returned}
    {shared : Shared}
    {caller : ι}
    {operation : Operation}
    (calm : Calm shared operation) :
    Orderly (pool, shared) (caller, operation) := by
  cases operation with
  | sendEvent event =>
      cases event with
      | closed | failed => exact calm.elim
      | _ => trivial
  | applyEvent event =>
      cases event with
      | connected => exact fun set => absurd set (by simp [show _ = _ from calm])
      | _ => trivial
  | _ => trivial

theorem Orderly.not_delivering
    {ι : Type}
    {current : (ι → Async Returned) × Shared}
    {operation : Operation}
    {reply : operation.Reply}
    {caller : ι}
    (orderly : Orderly current (caller, operation))
    (is_end : ends ⟨operation, reply⟩ = true)
    (task : ι) :
    ¬Delivering (current.1 task) := by
  cases operation with
  | sendEvent event =>
      cases event with
      | closed reason => exact orderly task
      | failed => exact orderly.2 task
      | _ => cases is_end
  | _ => cases is_end

section Runs

variable {ι : Type} [DecidableEq ι]
variable {context : SessionContext}
variable {tasks : ι → Task}
variable {connection : Connection}
variable {log before after : List (PoolEvent ι Operation Operation.Reply)}
variable {event : PoolEvent ι Operation Operation.Reply}
variable {current : (ι → Async Returned) × Shared}

/-- At most one exchange of the flag succeeds. -/
theorem countP_wins
    (run : Trace (PoolStep (Step context.primitives))
      (launch context tasks connection) log current) :
    log.countP (fun event => wins (bare event)) =
      current.2.terminal.toNat := by
  induction run with
  | start => rfl
  | next _ moved inductionHypothesis =>
      cases moved with
      | answered waits taken =>
          rw [List.countP_append, List.countP_singleton, inductionHypothesis,
            taken.terminal]

theorem terminal_of_getLast?
    {caller : ι}
    (run : Trace (PoolStep (Step context.primitives))
      (launch context tasks connection) log current)
    (last : (own caller log).getLast? = some ⟨.exchangeTerminal, true⟩) :
    current.2.terminal = true := by
  have mem := mem_own_iff.mp (List.mem_of_getLast? last)
  have positive : 0 < log.countP fun event => wins (bare event) :=
    List.countP_pos_iff.mpr ⟨_, mem, rfl⟩
  rw [countP_wins run] at positive
  cases terminal_eq : current.2.terminal with
  | true => rfl
  | false =>
      rw [terminal_eq] at positive
      exact absurd positive (Nat.lt_irrefl 0)

theorem closed_of_closeTransport
    {reason : CloseCode}
    (run : Trace (PoolStep (Step context.primitives))
      (launch context tasks connection) log current)
    (mem : event ∈ log)
    (closes : .closeTransport reason ∈ actionsOf (bare event)) :
    current.2.connection.phase = .closed := by
  induction run with
  | start => cases mem
  | next _ moved inductionHypothesis =>
      cases moved with
      | answered waits taken =>
          rcases List.mem_append.mp mem with mem | mem
          · exact taken.closed (inductionHypothesis mem)
          · cases List.mem_singleton.mp mem
            exact taken.closed_of_closeTransport closes

/-- When the end is announced, the flag is set and the connection is not
established. -/
theorem not_established_of_announced
    {caller : ι}
    {operation : Operation}
    {reply : operation.Reply}
    {later : Shared}
    (run : Trace (PoolStep (Step context.primitives))
      (launch context tasks connection) log current)
    (is_end : ends ⟨operation, reply⟩ = true)
    (announced : Announces (own caller log) operation)
    (orderly : Orderly current (caller, operation))
    (taken : Step context.primitives current.2 operation reply later) :
    later.terminal = true ∧ later.connection.phase ≠ .established := by
  cases operation with
  | sendEvent event =>
      rw [taken.of_sendEvent]
      cases event with
      | closed reason =>
          obtain ⟨last, cause, mem, closes⟩ := announced
          have closed := closed_of_closeTransport run (mem_own_iff.mp mem) closes
          refine ⟨terminal_of_getLast? run last, ?_⟩
          simp [closed]
      | failed => exact ⟨terminal_of_getLast? run announced, orderly.1⟩
      | _ => cases is_end
  | _ => cases is_end

/-- A session whose end is announced is not established. -/
theorem not_established_of_ends
    (run : Guarded (PoolStep (Step context.primitives)) (fun _ => Orderly)
      (launch context tasks connection) log current)
    (mem : event ∈ log)
    (is_end : ends (bare event) = true) :
    current.2.terminal = true ∧
      current.2.connection.phase ≠ .established := by
  induction run with
  | start => cases mem
  | @next log state later call reply guarded meets moved inductionHypothesis =>
      cases moved with
      | @answered pool shared later caller operation resume reply waits taken =>
          rcases List.mem_append.mp mem with mem | mem
          · obtain ⟨set, apart⟩ := inductionHypothesis mem
            have flag := taken.terminal
            dsimp only at set apart
            rw [set] at flag
            refine ⟨?_, fun established => ?_⟩
            · dsimp only
              cases later_eq : later.terminal with
              | true => rfl
              | false =>
                  rw [later_eq] at flag
                  exact absurd flag (by grind)
            · obtain ⟨operation_eq | operation_eq, phase_eq⟩ :=
                taken.connected_of_established apart established
              · subst operation_eq
                exact (conduct_of_waits guarded.trace waits).announces
              · subst operation_eq
                obtain ⟨unsent, unreceived⟩ := meets set
                exact phase_eq.elim unsent unreceived
          · cases List.mem_singleton.mp mem
            have announced := (conduct_of_waits guarded.trace waits).announces
            exact not_established_of_announced guarded.trace is_end announced
              meets taken

/-- What happens after the end happens to a connection that is not
established. -/
theorem exists_step_of_mem
    {later : PoolEvent ι Operation Operation.Reply}
    (run : Guarded (PoolStep (Step context.primitives)) (fun _ => Orderly)
      (launch context tasks connection) (before ++ event :: after) current)
    (is_end : ends (bare event) = true)
    (mem : later ∈ after) :
    ∃ shared next, Step context.primitives shared later.call.2 later.reply next ∧
      shared.connection.phase ≠ .established := by
  obtain ⟨between, rest, rfl⟩ := List.append_of_mem mem
  rw [← List.cons_append, ← List.append_assoc] at run
  obtain ⟨state, next, guarded, -, moved, -⟩ := run.exists_of_cons
  have apart := (not_established_of_ends guarded
    (List.mem_append_right before List.mem_cons_self) is_end).2
  obtain ⟨⟨caller, operation⟩, reply⟩ := later
  cases moved with
  | answered waits taken => exact ⟨_, _, taken, apart⟩

/-- A call that starts after the end fails. -/
theorem sendCfr_fails
    {sender : ι}
    {payload : List UInt8}
    {result : Returned}
    (run : Guarded (PoolStep (Step context.primitives)) (fun _ => Orderly)
      (launch context tasks connection) (before ++ event :: after) current)
    (is_end : ends (bare event) = true)
    (task_eq : tasks sender = .sendCfr payload)
    (unstarted : own sender before = [])
    (finished : current.1 sender = .done result) :
    ∃ error, result = .unit (.error error) := by
  obtain ⟨-, achieved⟩ := achieves_of_finished run.trace finished
  rw [task_eq] at achieved
  obtain ⟨outcome, rfl, signed⟩ := achieved
  cases outcome with
  | error error => exact ⟨error, rfl⟩
  | ok value =>
      obtain ⟨actions, mem⟩ := signed value rfl
      rw [own_append, unstarted, List.nil_append] at mem
      rcases List.mem_cons.mp (mem_own_iff.mp mem) with same | mem
      · rw [← same] at is_end
        cases is_end
      · obtain ⟨shared, next, taken, apart⟩ := exists_step_of_mem run is_end mem
        exact absurd taken.established_of_cfrControl apart

/-- Tasks announce what they emit. -/
theorem announces_program (context : SessionContext) (task : Task) :
    (task.program context).Satisfies (Answers context.primitives) Announces
      (fun _ _ => True) [] :=
  ((conducts_program context task).satisfies.weaken
    fun _ _ conduct => conduct.announces).mono fun _ _ _ => trivial

/-- Every terminal event comes after an exchange of the flag of its own. -/
theorem countP_ends_le
    (run : Trace (PoolStep (Step context.primitives))
      (launch context tasks connection) log current) :
    log.countP (fun event => ends (bare event)) ≤
      log.countP fun event => wins (bare event) := by
  refine Run.countP_le_of_guarantee
    (fun shared later _ _ step => ⟨shared, later, step⟩)
    (fun caller => announces_program context (tasks caller)) ?_ ?_ run
  · rintro ⟨operation, reply⟩ is_end
    cases operation with
    | sendEvent event => rfl
    | _ => cases is_end
  · rintro history ⟨operation, reply⟩ announced is_end
    cases operation with
    | sendEvent event =>
        cases event with
        | closed reason => exact ⟨_, announced.1, rfl⟩
        | failed => exact ⟨_, announced, rfl⟩
        | _ => cases is_end
    | _ => cases is_end

/-- Nothing is delivered after the end. -/
theorem not_delivers_of_ends
    {between : List (PoolEvent ι Operation Operation.Reply)}
    {later : PoolEvent ι Operation Operation.Reply}
    (run : Guarded (PoolStep (Step context.primitives)) (fun _ => Orderly)
      (launch context tasks connection)
      (before ++ event :: (between ++ later :: after)) current)
    (is_end : ends (bare event) = true) :
    delivers (bare later) = false := by
  obtain ⟨state, next, guarded, orderly, moved, rest⟩ := run.exists_of_cons
  obtain ⟨waiting, _, idle, delivered, -⟩ := rest.exists_of_cons
  obtain ⟨⟨caller, operation⟩, reply⟩ := later
  cases delivered with
  | answered waits taken =>
      have since : Trace (PoolStep (Step context.primitives)) state
          (event :: between) (_, _) := (Trace.single moved).append idle
      have announced :=
        (conduct_of_waits (guarded.trace.append since) waits).announces
      cases operation with
      | sendEvent sent =>
          cases sent with
          | deliverCfr envelopeId remoteEndpoint payload =>
              obtain ⟨cause, last, mem⟩ := announced
              rw [own_append, List.getLast?_append] at last
              cases recent : (own caller (event :: between)).getLast? with
              | none =>
                  -- the task has been waiting since the end was announced
                  have unmoved := Run.eq_of_own_eq_nil since
                    (List.getLast?_eq_none_iff.mp recent)
                  dsimp only at unmoved
                  rw [waits] at unmoved
                  exact absurd ⟨_, _, _, _, unmoved.symm⟩
                    (orderly.not_delivering is_end caller)
              | some latest =>
                  rw [recent, Option.some_or] at last
                  cases last
                  rcases List.mem_cons.mp (mem_own_iff.mp
                    (List.mem_of_getLast? recent)) with same | after_end
                  · rw [← same] at is_end
                    rw [actionsOf_of_ends is_end] at mem
                    cases mem
                  · obtain ⟨shared, _, received, apart⟩ := exists_step_of_mem run
                      is_end (List.mem_append_left _ after_end)
                    exact absurd (received.established_of_deliverCfr mem) apart
          | _ => rfl
      | _ => rfl

/-- A terminated session is dead: in every run whose steps are orderly at most one
terminal event is emitted, and from then on the connection is not established, a
call that sends CFR bytes fails and nothing is delivered. -/
theorem terminated_sessions_are_dead
    {pool : ι → Async Returned}
    {state : Shared}
    (run : Guarded (PoolStep (Step context.primitives)) (fun _ => Orderly)
      (launch context tasks connection) log (pool, state)) :
    log.countP (fun event => ends (bare event)) ≤ 1 ∧
      ∀ before event after, log = before ++ event :: after →
        ends (bare event) = true →
        state.connection.phase ≠ .established ∧
          (∀ sender payload result, tasks sender = .sendCfr payload →
            own sender before = [] → pool sender = .done result →
            ∃ error, result = .unit (.error error)) ∧
          ∀ later ∈ after, delivers (bare later) = false := by
  refine ⟨?_, fun before event after log_eq is_end => ⟨?_, ?_, ?_⟩⟩
  · calc
      log.countP (fun event => ends (bare event)) ≤
          log.countP fun event => wins (bare event) :=
        countP_ends_le run.trace
      _ = state.terminal.toNat := countP_wins run.trace
      _ ≤ 1 := Bool.toNat_le _
  · subst log_eq
    exact (not_established_of_ends run
      (List.mem_append_right before List.mem_cons_self) is_end).2
  · intro sender payload result task_eq unstarted finished
    subst log_eq
    exact sendCfr_fails run is_end task_eq unstarted finished
  · intro later mem
    obtain ⟨between, rest, rfl⟩ := List.append_of_mem mem
    subst log_eq
    exact not_delivers_of_ends run is_end

end Runs

/-- Tasks of a session that the peer closes once it is established. -/
def closingTasks : Fin 5 → Task
  | 0 => .beginOffer
  | 1 => .acceptSignal (remoteWire answerBody)
  | 2 => .controlPump 1
  | 3 => .acceptSignal (remoteWire (.close ⟨0⟩))
  | 4 => .sendCfr []

/-- The connection after the close. -/
def closedSample : Connection :=
  { answeredSample .closed with
    seen := [(remoteSample answerBody).digest .sample,
      (remoteSample (.close ⟨0⟩)).digest .sample] }

/-- An established session that the peer closes refuses CFR bytes. -/
theorem terminated_sessions_are_dead_closed :
    ∃ log pool state,
      Guarded (PoolStep (Step SessionContext.sample.primitives))
        (fun _ => Orderly) (launch .sample closingTasks (.sample 0 1)) log
        (pool, state) ∧
      ⟨(2, .sendEvent .connected), true⟩ ∈ log ∧
      ⟨(3, .sendEvent (.closed ⟨0⟩)), true⟩ ∈ log ∧
      log.countP (fun event => ends (bare event)) ≤ 1 ∧
      state.connection.phase ≠ .established ∧
      ∃ error, pool 4 = .done (.unit (.error error)) := by
  have closes : Connection.Transition .sample (answeredSample .established)
      (.receive (remoteSample (.close ⟨0⟩))) [.closeTransport ⟨0⟩]
      closedSample :=
    @Connection.Transition.receive .sample (answeredSample .established)
      (remoteSample (.close ⟨0⟩)) _ _
      (@remoteSample_admitted _ (.close ⟨0⟩) trivial rfl)
      (digest_not_seen (by decide))
      (.close (by decide) (by decide))
  obtain ⟨error, refused⟩ : ∃ error, Core.Operation.perform .sample
      closedSample (.cfrControl (.sample 0) []) =
        (.error error, closedSample) := by
    refine Connection.exists_error_of_not_transition fun _ _ transition => ?_
    cases transition with
    | cfrControl signer_eq phase_eq bounded => cases phase_eq
  obtain ⟨resume, program_eq, resumed⟩ :=
    @program_acceptSignal (.close ⟨0⟩) trivial
  obtain ⟨first, run, absent⟩ := @exists_answered _ _ _ closingTasks 0 1
    Calm.orderly rfl rfl (by decide)
  have run := guarded_next_of_respond (.sample none) run 2 rfl rfl trivial
  have run := guarded_next_of_respond (.sample (some .onOpen)) run 2 rfl rfl
    trivial
  have run := guarded_next_of_respond (.sample none) run 2 rfl rfl nofun
  have run := guarded_next_of_respond (.sample none) run 2 rfl rfl trivial
  have run := guarded_next_of_respond (.sample none) run 3
    (respond_connection closes) program_eq trivial
  rw [resumed] at run
  have run := guarded_next_of_respond (.sample none) run 3 rfl rfl trivial
  have run := guarded_next_of_respond (.sample none) run 3 rfl rfl
    fun task => by
      rintro ⟨_, _, _, _, waits⟩
      fin_cases task <;> cases waits
  have run := guarded_next_of_respond (.sample none) run 3 rfl rfl trivial
  have run := guarded_next_of_respond (.sample none) run 4
    (respond_refused refused) rfl trivial
  obtain ⟨once, dead⟩ := @terminated_sessions_are_dead _ _ .sample closingTasks
    _ _ _ _ run
  have regroup {α : Type} (before : List α) (event first second : α) :
      before ++ [event] ++ [first] ++ [second] =
        before ++ event :: [first, second] := by simp
  obtain ⟨apart, fails, -⟩ := dead _ _ _ (regroup _ _ _ _) rfl
  obtain ⟨error, returned⟩ := fails 4 [] _ rfl
    (by simp only [own_append, absent 4 (by decide) (by decide)]; decide) rfl
  refine ⟨_, _, _, run, by simp, by simp, once, apart, error, ?_⟩
  rw [← returned]
  rfl

/-- Tasks of a session whose transport fails once it is established. -/
def failingTasks : Fin 6 → Task
  | 0 => .beginOffer
  | 1 => .acceptSignal (remoteWire answerBody)
  | 2 => .controlPump 1
  | 3 => .onConnectionStateChange .failed
  | 4 => .sendCfr []
  | 5 => .acceptSignal (remoteWire (.cfrControl []))

/-- An established session that reports its failure goes on: it stays
established, sends CFR bytes and delivers what it receives. -/
theorem failed_session_stays_established :
    ∃ log pool state,
      Trace (PoolStep (Step SessionContext.sample.primitives))
        (launch .sample failingTasks (.sample 0 1)) log (pool, state) ∧
      ∃ before event after, log = before ++ event :: after ∧
        ends (bare event) = true ∧
        state.connection.phase = .established ∧
        own 4 before = [] ∧
        pool 4 = .done (.unit (.ok ())) ∧
        ∃ later ∈ after, delivers (bare later) = true := by
  obtain ⟨first, run, absent⟩ := @exists_answered _ _ (fun _ _ _ => True)
    failingTasks 0 1 (fun _ => trivial) rfl rfl (by decide)
  obtain ⟨second, run, callers⟩ := exists_run_of_completes (fun _ => trivial)
    run 2 open_completes rfl
  have run := guarded_next_of_respond (.sample none) run 3 rfl rfl trivial
  have run := guarded_next_of_respond (.sample none) run 3 rfl rfl trivial
  obtain ⟨third, run, -⟩ := exists_run_of_completes (fun _ => trivial) run 4
    (sendCfr_completes rfl rfl) rfl
  obtain ⟨resume, program_eq, resumed⟩ :=
    @program_acceptSignal (.cfrControl []) (Nat.zero_le _)
  have receives := @Connection.Transition.receive .sample
    (answeredSample .established) (remoteSample (.cfrControl [])) _ _
    (remoteSample_admitted (Nat.zero_le _) rfl) (digest_not_seen (by decide))
    (.cfrControl rfl)
  have run := guarded_next_of_respond (.sample none) run 5
    (respond_connection receives) program_eq trivial
  rw [resumed] at run
  have run := guarded_next_of_respond (.sample none) run 5 rfl rfl trivial
  have regroup {α : Type} (before sent received delivered : List α) (event : α) :
      before ++ [event] ++ sent ++ received ++ delivered =
        before ++ event :: (sent ++ (received ++ delivered)) := by simp
  refine ⟨_, _, _, run.trace, _, _, _, regroup _ _ _ _ _, rfl, rfl, ?_, rfl, _,
    List.mem_append_right _ (List.mem_append_right _ List.mem_cons_self), rfl⟩
  have opened : own 4 second = [] := own_eq_nil fun event mem => by
    rw [callers event mem]
    decide
  simp only [own_append, absent 4 (by decide) (by decide), opened]
  rfl

end Webrtc
end Fcp
