import Fcp.Webrtc.Termination

/-!
# The pump of the control channel

The pump stops at the end of its channel and at every report that the connection
refuses.  Only at the end of the channel does it see to it that the application
is told.
-/

namespace Fcp
namespace Webrtc

open Core Reactive Rust Transport

/-! ## Whole runs -/

/-- The application has been told of the end: the terminal flag is set, and no
task still waits to emit the event. -/
def Told
    {ι : Type}
    (current : (ι → Async Returned) × Shared) : Prop :=
  current.2.terminal = true ∧ ∀ task, ¬(current.1 task).Awaits EmitsTerminal

/-- A message that the connection takes: a verified envelope of the peer that is
known already or whose body is due. -/
def Takes
    (primitives : Primitives)
    (connection : Connection)
    (wire : List UInt8) : Prop :=
  ∃ envelope, Envelope.decodeVerified primitives wire = .ok envelope ∧
    connection.Admits primitives envelope ∧
    (envelope.digest primitives ∈ connection.seen ∨
      ∃ action later, Connection.Reacts (envelope.digest primitives)
        envelope.sender connection envelope.body action later)

/-- The steps at which no pump stops in silence. -/
def Heard
    {ι : Type}
    (primitives : Primitives)
    (tasks : ι → Task)
    (current : (ι → Async Returned) × Shared)
    (call : ι × Operation) : Prop :=
  match call.2 with
  | .applyEvent .connected =>
      current.2.connection.phase = .answerSent ∨
        current.2.connection.phase = .answerReceived ∨ Told current
  | .applyEvent (.controlBinary wire) =>
      Takes primitives current.2.connection wire ∨ Told current
  | .exchangeTerminal =>
      (∃ count, tasks call.1 = .controlPump count) →
        current.2.terminal = true → Told current
  | _ => True

section Runs

variable {ι : Type} [DecidableEq ι]
variable {context : SessionContext}
variable {tasks : ι → Task}
variable {connection : Connection}
variable {log : List (PoolEvent ι Operation Operation.Reply)}
variable {current : (ι → Async Returned) × Shared}

/-- A task that has set the flag has emitted a terminal event or waits to. -/
theorem awaits_or_exists_end
    {caller : ι}
    (run : Trace (PoolStep (Step context.primitives))
      (launch context tasks connection) log current)
    (won : ⟨(caller, .exchangeTerminal), true⟩ ∈ log) :
    (current.1 caller).Awaits EmitsTerminal ∨
      ∃ event ∈ log, ends (bare event) = true := by
  obtain ⟨before, after, rfl⟩ := List.append_of_mem won
  have own_eq : own caller (before ++ ⟨(caller, .exchangeTerminal), true⟩ ::
      after) = own caller before ++ [⟨.exchangeTerminal, true⟩] ++
        own caller after := by
    rw [List.append_cons, own_append, own_append, own_singleton, if_pos rfl]
  cases followed : own caller after with
  | nil =>
      rw [followed, List.append_nil] at own_eq
      have last : (own caller (before ++ ⟨(caller, .exchangeTerminal), true⟩ ::
          after)).getLast? = some ⟨.exchangeTerminal, true⟩ := by
        rw [own_eq, List.getLast?_concat]
      have conducts := @conducts_of_run _ _ _ _ _ _ _ caller run
      cases at_caller : current.1 caller with
      | done result =>
          exact absurd last
            (achieves_of_finished run at_caller).1.quiet.not_won
      | crash =>
          rw [at_caller] at conducts
          exact conducts.elim
      | perform operation resume =>
          exact .inl ((conduct_of_waits run at_caller).tells last)
  | cons event rest =>
      rw [followed] at own_eq
      obtain ⟨earlier, later, log_eq, earlier_eq, -⟩ := exists_of_own_eq own_eq
      rw [log_eq] at run ⊢
      have emits := (conduct_of_event run).tells (by
        rw [earlier_eq, List.getLast?_concat])
      refine .inr ⟨_, List.mem_append_right _ List.mem_cons_self, ?_⟩
      obtain ⟨operation, reply⟩ := event
      cases operation with
      | sendEvent event => exact emits
      | _ => cases emits

/-- Once the application has been told, a terminal event is in the log. -/
theorem exists_end_of_told
    (run : Trace (PoolStep (Step context.primitives))
      (launch context tasks connection) log current)
    (told : Told current) :
    ∃ event ∈ log, ends (bare event) = true := by
  obtain ⟨set, idle⟩ := told
  have positive : 0 < log.countP fun event => wins (bare event) := by
    rw [countP_wins run, set]
    exact Nat.one_pos
  obtain ⟨⟨⟨caller, operation⟩, reply⟩, mem, won⟩ :=
    List.countP_pos_iff.mp positive
  cases operation with
  | exchangeTerminal =>
      cases won
      exact (awaits_or_exists_end run mem).resolve_left (idle caller)
  | _ => cases won

/-- A message that the connection takes is not refused. -/
theorem Takes.not_refused
    {primitives : Primitives}
    {shared later : Shared}
    {wire : List UInt8}
    {error : Core.Error}
    (takes : Takes primitives shared.connection wire) :
    ¬Step primitives shared (.applyEvent (.controlBinary wire)) (.error error)
      later := by
  rintro ⟨engine, responded⟩
  obtain ⟨envelope, decoded, admitted, due⟩ := takes
  have performs : ∃ actions after,
      (Connection.receive primitives envelope).call shared.connection =
        (.ok actions, after) := by
    by_cases known : envelope.digest primitives ∈ shared.connection.seen
    · exact ⟨_, _, Connection.call_receive_eq_ok_iff.mpr
        (.duplicate admitted known)⟩
    · obtain ⟨action, after, reacts⟩ := due.resolve_left known
      exact ⟨_, _, Connection.call_receive_eq_ok_iff.mpr
        (.receive admitted known reacts)⟩
  obtain ⟨actions, after, received⟩ := performs
  rw [respond, call_applyEvent_controlBinary, decoded] at responded
  dsimp only at responded
  rw [received] at responded
  cases responded

/-- The exchange of the flag fails only when the flag is set. -/
theorem terminal_of_yielded
    {primitives : Primitives}
    {shared later : Shared}
    (taken : Step primitives shared .exchangeTerminal false later) :
    shared.terminal = true := by
  obtain ⟨engine, responded⟩ := taken
  rw [respond] at responded
  split at responded
  case isTrue set => exact set
  case isFalse => cases responded

/-- A transport that is due is not refused. -/
theorem not_refused_of_due
    {primitives : Primitives}
    {shared later : Shared}
    {error : Core.Error}
    (due : shared.connection.phase = .answerSent ∨
      shared.connection.phase = .answerReceived) :
    ¬Step primitives shared (.applyEvent .connected) (.error error) later := by
  rintro ⟨engine, responded⟩
  rw [respond, applyEvent, Connection.call_transportConnected_eq_ok_iff.mpr
    (@Connection.Transition.transportConnected primitives _ due)] at responded
  cases responded

omit [DecidableEq ι] in
/-- A report is refused only after the application has been told. -/
theorem Heard.told_of_refused
    {caller : ι}
    {event : AdapterEvent}
    {error : Core.Error}
    {later : Shared}
    (heard : Heard context.primitives tasks current
      (caller, .applyEvent event))
    (reported : event = .connected ∨ ∃ wire, event = .controlBinary wire)
    (taken : Step context.primitives current.2 (.applyEvent event)
      (.error error) later) :
    Told current := by
  rcases reported with rfl | ⟨wire, rfl⟩
  · rcases heard with due | due | told
    · exact absurd taken (not_refused_of_due (.inl due))
    · exact absurd taken (not_refused_of_due (.inr due))
    · exact told
  · rcases heard with takes | told
    · exact absurd taken takes.not_refused
    · exact told

/-- A pump that has stopped by itself was stopped. -/
theorem stops_of_finished
    {pump : ι}
    {count : Nat}
    {result : Returned}
    (run : Trace (PoolStep (Step context.primitives))
      (launch context tasks connection) log current)
    (pumps : tasks pump = .controlPump count)
    (stopped : current.1 pump = .done result)
    (early : (own pump log).countP polls < count) :
    Stops (own pump log) := by
  have achieved := (achieves_of_finished run stopped).2
  rw [pumps] at achieved
  exact achieved.resolve_left (Nat.not_le.mpr early)

/-- The pump does not go deaf in silence: in every run whose reports are taken by
the connection until the application has been told, a pump that stops by itself
stops after a terminal event. -/
theorem pump_stops_after_end
    {pump : ι}
    {count : Nat}
    {pool : ι → Async Returned}
    {shared : Shared}
    {result : Returned}
    (run : Guarded (PoolStep (Step context.primitives))
      (fun _ => Heard context.primitives tasks)
      (launch context tasks connection) log (pool, shared))
    (pumps : tasks pump = .controlPump count)
    (stopped : pool pump = .done result)
    (early : (own pump log).countP polls < count) :
    ∃ event ∈ log, ends (bare event) = true := by
  cases stops_of_finished run.trace pumps stopped early with
  | refused reported mem =>
      obtain ⟨before, after, rfl⟩ := List.append_of_mem (mem_own_iff.mp mem)
      obtain ⟨state, next, guarded, heard, moved, -⟩ := run.exists_of_cons
      cases moved with
      | answered waits taken =>
          obtain ⟨event, mem, is_end⟩ := exists_end_of_told guarded.trace
            (heard.told_of_refused reported taken)
          exact ⟨event, List.mem_append_left _ mem, is_end⟩
  | yielded mem =>
      obtain ⟨before, after, rfl⟩ := List.append_of_mem (mem_own_iff.mp mem)
      obtain ⟨state, next, guarded, heard, moved, -⟩ := run.exists_of_cons
      cases moved with
      | answered waits taken =>
          have told := heard ⟨count, pumps⟩ (terminal_of_yielded taken)
          obtain ⟨event, mem, is_end⟩ := exists_end_of_told guarded.trace told
          exact ⟨event, List.mem_append_left _ mem, is_end⟩
  | announced mem is_end => exact ⟨_, mem_own_iff.mp mem, is_end⟩

end Runs

/-! ## Samples -/

/-- A remote control channel and its pump. -/
def channelTasks : Bool → Task
  | false => .onDataChannel ⟨0⟩
  | true => .controlPump 2

/-- A pump whose channel ends tells the application. -/
theorem pump_stops_after_end_closed :
    ∃ log pool state,
      Guarded (PoolStep (Step SessionContext.sample.primitives))
        (fun _ => Heard SessionContext.sample.primitives channelTasks)
        (launch .sample channelTasks (.sample 0 1)) log (pool, state) ∧
      pool true = .done .nothing ∧
      ∃ event ∈ log, ends (bare event) = true := by
  have run : Guarded (PoolStep (Step .sample))
      (fun _ => Heard .sample channelTasks)
      (launch .sample channelTasks (.sample 0 1)) []
      ((launch .sample channelTasks (.sample 0 1)).1, .new (.sample 0 1)) :=
    .start
  have run := guarded_next_of_respond (.sample none) run false rfl rfl trivial
  have run := guarded_next_of_respond (.sample none) run false rfl rfl trivial
  have run := guarded_next_of_respond (.sample none) run false rfl rfl trivial
  have run := guarded_next_of_respond (.sample none) run false rfl rfl trivial
  have run := guarded_next_of_respond (.sample none) run false rfl rfl trivial
  have run := guarded_next_of_respond (.sample none) run false rfl rfl trivial
  have run := guarded_next_of_respond (.sample none) run false rfl rfl trivial
  have run := guarded_next_of_respond (.sample none) run true rfl rfl trivial
  have run := guarded_next_of_respond (.sample none) run true rfl rfl trivial
  have run := guarded_next_of_respond (.sample none) run true rfl rfl
    fun _ set => by cases set
  have run := guarded_next_of_respond (.sample none) run true rfl rfl trivial
  exact ⟨_, _, _, run, rfl,
    @pump_stops_after_end _ _ .sample channelTasks _ _ true 2 _ _ .nothing run
      rfl rfl (by decide)⟩

/-- Tasks of a session whose peer sends an empty message. -/
def deafTasks : Fin 3 → Task
  | 0 => .beginOffer
  | 1 => .acceptSignal (remoteWire answerBody)
  | 2 => .controlPump 3

/-- One empty message stops the pump of an established session, and the
application is not told. -/
theorem empty_message_stops_pump :
    ∃ log pool state,
      Trace (PoolStep (Step SessionContext.sample.primitives))
        (launch .sample deafTasks (.sample 0 1)) log (pool, state) ∧
      pool 2 = .done .nothing ∧
      (own 2 log).countP polls < 3 ∧
      state.connection.phase = .established ∧
      state.terminal = false ∧
      ∀ event ∈ log, ends (bare event) = false := by
  obtain ⟨first, run, absent⟩ := @exists_answered _ _ (fun _ _ _ => True)
    deafTasks 0 1 (fun _ => trivial) rfl rfl (by decide)
  have run := next_of_respond (.sample none) run.trace 2 rfl rfl
  have run := next_of_respond (.sample (some .onOpen)) run 2 rfl rfl
  have run := next_of_respond (.sample none) run 2 rfl rfl
  have run := next_of_respond (.sample none) run 2 rfl rfl
  have run := next_of_respond (.sample (some (.onMessage []))) run 2 rfl rfl
  have run := next_of_respond (.sample none) run 2 rfl rfl
  have silent := @countP_ends_le _ _ .sample deafTasks _ _ _ run
  rw [@countP_wins _ _ .sample deafTasks _ _ _ run] at silent
  refine ⟨_, _, _, run, rfl, ?_, rfl, rfl, ?_⟩
  · simp only [own_append, absent 2 (by decide) (by decide)]
    decide
  · intro event mem
    have none := List.countP_eq_zero.mp (Nat.le_zero.mp silent) event mem
    exact Bool.not_eq_true _ ▸ none

end Webrtc
end Fcp
