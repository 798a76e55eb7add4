import Fcp.Webrtc.Tasks

/-!
# What a task does, operation by operation

Every computation of a session is gone through once.  What a task has done before
an operation, what it owes after one, which candidates it has in its hands and
what it has achieved at its end are stated together, and whatever is said of
whole runs rests on this.
-/

namespace Fcp
namespace Webrtc

open Core Reactive Rust Transport

/-! ## Signals and tasks -/

/-- A signal that carries a candidate. -/
def SignalEvent.isCandidate (signal : SignalEvent) : Bool :=
  match signal.envelope.body with
  | .candidate _ _ _ => true
  | _ => false

/-- The local candidate that a signal carries. -/
def SignalEvent.localCandidate? (signal : SignalEvent) :
    Option LocalCandidate :=
  match signal.envelope.body with
  | .candidate _ sequence candidate => some (sequence, candidate)
  | _ => none

theorem isSome_localCandidate? (signal : SignalEvent) :
    signal.localCandidate?.isSome = signal.isCandidate := by
  rw [SignalEvent.localCandidate?, SignalEvent.isCandidate]
  cases signal.envelope.body <;> rfl

/-- The calls that borrow the session exclusively. -/
def Task.isExclusive : Task → Bool
  | beginOffer | answer | tryTakeSignal | tryTakeEvent => true
  | _ => false

/-- The tasks that sign descriptions or move candidates. -/
def Task.isSignaling : Task → Bool
  | beginOffer | answer | tryTakeSignal | onIceCandidate _ => true
  | _ => false

/-! ## Terminal events -/

/-- A terminal event is emitted. -/
def ends : Event Operation Operation.Reply → Bool
  | ⟨.sendEvent event, _⟩ => event.isTerminal
  | _ => false

/-- The exchange of the terminal flag succeeds. -/
def wins : Event Operation Operation.Reply → Bool
  | ⟨.exchangeTerminal, won⟩ => won
  | _ => false

/-- A terminal event is about to be emitted. -/
def EmitsTerminal : Operation → Prop
  | .sendEvent event => event.isTerminal = true
  | _ => False

/-- What a task has done before it emits an event: a delivery follows at once on
the connection's action, and a terminal event on the exchange of the flag. -/
def Announces (history : List (Event Operation Operation.Reply)) :
    Operation → Prop
  | .sendEvent (.deliverCfr envelopeId remoteEndpoint payload) =>
      ∃ event, history.getLast? = some event ∧
        .deliverCfr envelopeId remoteEndpoint payload ∈ actionsOf event
  | .sendEvent (.closed reason) =>
      history.getLast? = some ⟨.exchangeTerminal, true⟩ ∧
        ∃ event ∈ history, .closeTransport reason ∈ actionsOf event
  | .sendEvent .failed => history.getLast? = some ⟨.exchangeTerminal, true⟩
  | .connection .transportConnected => False
  | _ => True

/-- The pump has asked for a report. -/
def polls : Event Operation Operation.Reply → Bool
  | ⟨.poll _, _⟩ => true
  | _ => false

/-- What stops the pump: a report that the connection refuses, and the end of the
channel, at which the pump or another task emits a terminal event. -/
inductive Stops (history : List (Event Operation Operation.Reply)) : Prop
  | refused
      {event : AdapterEvent}
      {error : Core.Error}
      (reported : event = .connected ∨ ∃ wire, event = .controlBinary wire)
      (mem : ⟨.applyEvent event, .error error⟩ ∈ history)
  | yielded (mem : ⟨.exchangeTerminal, false⟩ ∈ history)
  | announced
      {event : Event Operation Operation.Reply}
      (mem : event ∈ history)
      (is_end : ends event = true)

/-! ## Descriptions -/

/-- The description that a task has queued and not yet asked for. -/
def pendingAfter (pending : Option SignalEvent) :
    Event Operation Operation.Reply → Option SignalEvent
  | ⟨.trySendSignal signal, true⟩ =>
      if signal.isCandidate then pending else some signal
  | ⟨.tryRecvSignal, _⟩ => none
  | _ => pending

def pending (history : List (Event Operation Operation.Reply)) :
    Option SignalEvent :=
  history.foldl pendingAfter none

theorem pending_concat
    (history : List (Event Operation Operation.Reply))
    (event : Event Operation Operation.Reply) :
    pending (history ++ [event]) = pendingAfter (pending history) event :=
  List.foldl_concat _ _ _ _

/-- An offer has just been signed and is not yet queued. -/
def Owes (history : List (Event Operation Operation.Reply)) : Prop :=
  ∃ signer binding description actions, history.getLast? =
    some ⟨.connection (.beginOffer signer binding description), .ok actions⟩

/-- A task has signed the description that a signal carries. -/
def Signed
    (context : SessionContext)
    (history : List (Event Operation Operation.Reply))
    (signal : SignalEvent) : Task → Prop
  | .beginOffer => ∃ binding description actions,
      ⟨.connection (.beginOffer context.signer binding description),
        .ok actions⟩ ∈ history ∧
      .send signal.envelope ∈ actions ∧
      signal.envelope.body = .offer binding description
  | .answer => ∃ offerId binding description actions,
      ⟨.connection (.answer context.signer binding description),
        .ok actions⟩ ∈ history ∧
      .send signal.envelope ∈ actions ∧
      signal.envelope.body = .answer offerId binding description
  | _ => True

theorem Signed.of_prefix
    {context : SessionContext}
    {history later : List (Event Operation Operation.Reply)}
    {signal : SignalEvent}
    {task : Task}
    (signed : Signed context history signal task)
    (extended : history <+: later) :
    Signed context later signal task := by
  cases task with
  | beginOffer =>
      obtain ⟨binding, description, actions, mem, rest⟩ := signed
      exact ⟨binding, description, actions, extended.subset mem, rest⟩
  | answer =>
      obtain ⟨offerId, binding, description, actions, mem, rest⟩ := signed
      exact ⟨offerId, binding, description, actions, extended.subset mem, rest⟩
  | _ => trivial

/-- What precedes the operations on the queue. -/
def Signaling
    (context : SessionContext)
    (task : Task)
    (history : List (Event Operation Operation.Reply))
    (operation : Operation) : Prop :=
  (Owes history → ∃ signal, operation = .trySendSignal signal) ∧
    match operation with
    | .connection (.beginOffer _ _ _) => task = .beginOffer
    | .trySendSignal signal =>
        (∃ event, history.getLast? = some event ∧
          .send signal.envelope ∈ actionsOf event) ∧
        (signal.isCandidate = true ∨ task.isExclusive = true)
    | .sendSignal _ => False
    | .tryRecvSignal =>
        task.isExclusive = true ∧
          (task = .tryTakeSignal ∨
            ∃ signal, pending history = some signal ∧
              Signed context history signal task)
    | _ => True

/-- The signal that is returned was taken from the queue. -/
def Took
    (history : List (Event Operation Operation.Reply))
    (signal : SignalEvent) : Prop :=
  ∃ before after, history = before ++ ⟨.tryRecvSignal, some signal⟩ :: after

/-! ## Candidates -/

/-- The candidate that the engine reports with a new sequence number. -/
def reported
    (context : SessionContext)
    (task : Task) :
    Event Operation Operation.Reply → List LocalCandidate
  | ⟨.nextSequence, sequence⟩ =>
      match task with
      | .onIceCandidate (some json) =>
          ((context.encodeCandidate json).map fun candidate =>
            (sequence, candidate)).toList
      | _ => []
  | _ => []

/-- The candidates that are taken from the staging list to be emitted. -/
def unstaged : Event Operation Operation.Reply → List LocalCandidate
  | ⟨.takeStaged, staged⟩ => staged
  | _ => []

/-- The candidate that is offered to the queue of signals. -/
def offered : Event Operation Operation.Reply → List LocalCandidate
  | ⟨.trySendSignal signal, _⟩ => signal.localCandidate?.toList
  | _ => []

/-- The candidate that is put into the staging list. -/
def staged : Event Operation Operation.Reply → List LocalCandidate
  | ⟨.stage sequence candidate, _⟩ => [(sequence, candidate)]
  | _ => []

/-- What a task picks up. -/
def acquired
    (context : SessionContext)
    (task : Task)
    (event : Event Operation Operation.Reply) : List LocalCandidate :=
  reported context task event ++ unstaged event

/-- What a task puts down. -/
def released (event : Event Operation Operation.Reply) : List LocalCandidate :=
  offered event ++ staged event

/-- The candidates that a task has picked up and not yet put down. -/
def Holding
    (context : SessionContext)
    (task : Task)
    (held : List LocalCandidate)
    (history : List (Event Operation Operation.Reply)) : Prop :=
  history.flatMap (acquired context task) = history.flatMap released ++ held

/-- What an operation has to do with the candidates in the hands of its task: it
is about the first of them, or there are none. -/
def Handles (task : Task) (held : List LocalCandidate) : Operation → Prop
  | .connection (.candidate _ sequence candidate) =>
      task.isSignaling = true ∧ held.head? = some (sequence, candidate)
  | .stage sequence candidate =>
      task.isSignaling = true ∧ held.head? = some (sequence, candidate)
  | .trySendSignal signal =>
      task.isSignaling = true ∧ held.head? = signal.localCandidate?
  | _ => held = []

section Holding

variable {context : SessionContext}
variable {task : Task}
variable {held rest : List LocalCandidate}
variable {history : List (Event Operation Operation.Reply)}
variable {event : Event Operation Operation.Reply}

theorem Holding.acquire
    (holding : Holding context task held history)
    (releases : released event = []) :
    Holding context task (held ++ acquired context task event)
      (history ++ [event]) := by
  unfold Holding at *
  rw [List.flatMap_append, List.flatMap_append, List.flatMap_singleton,
    List.flatMap_singleton, releases, List.append_nil, holding,
    List.append_assoc]

theorem Holding.release
    (holding : Holding context task (released event ++ rest) history)
    (acquires : acquired context task event = []) :
    Holding context task rest (history ++ [event]) := by
  unfold Holding at *
  rw [List.flatMap_append, List.flatMap_append, List.flatMap_singleton,
    List.flatMap_singleton, acquires, List.append_nil, holding,
    List.append_assoc]

theorem Holding.keep
    (holding : Holding context task held history)
    (acquires : acquired context task event = [])
    (releases : released event = []) :
    Holding context task held (history ++ [event]) :=
  Holding.release (releases ▸ holding) acquires

end Holding

/-! ## Conduct -/

/-- What a task has done before an operation, and that the operation is what it
owes. -/
structure Conduct
    (context : SessionContext)
    (task : Task)
    (history : List (Event Operation Operation.Reply))
    (operation : Operation) : Prop where
  announces : Announces history operation
  tells : history.getLast? = some ⟨.exchangeTerminal, true⟩ →
    EmitsTerminal operation
  signals : Signaling context task history operation
  handles : ∃ held, Holding context task held history ∧
    Handles task held operation

/-- After the event something has to follow at once: the terminal event, or the
queueing of an offer. -/
def presses : Event Operation Operation.Reply → Bool
  | ⟨.exchangeTerminal, won⟩ => won
  | ⟨.connection (.beginOffer _ _ _), .ok _⟩ => true
  | _ => false

/-- Nothing has to follow at once. -/
def Quiet (history : List (Event Operation Operation.Reply)) : Prop :=
  ∀ event, history.getLast? = some event → presses event = false

/-- A task owes nothing and has nothing in its hands. -/
structure Settled
    (context : SessionContext)
    (task : Task)
    (history : List (Event Operation Operation.Reply)) : Prop where
  quiet : Quiet history
  holding : Holding context task [] history

/-- What has been kept of a history while candidates came and went, and the
candidates that are in the hands of the task. -/
structure Since
    (context : SessionContext)
    (task : Task)
    (kept : List (Event Operation Operation.Reply))
    (held : List LocalCandidate)
    (history : List (Event Operation Operation.Reply)) : Prop where
  quiet : Quiet history
  holding : Holding context task held history
  pending_eq : pending history = pending kept
  extended : kept <+: history

/-- Operations that a task may perform whenever it is settled. -/
def Idle : Operation → Prop
  | .sendEvent event => event = .connected
  | .connection .transportConnected | .connection (.beginOffer _ _ _)
  | .connection (.candidate _ _ _) | .stage _ _ | .trySendSignal _
  | .sendSignal _ | .tryRecvSignal => False
  | _ => True

section Conduct

variable {context : SessionContext}
variable {task : Task}
variable {held rest : List LocalCandidate}
variable {kept history : List (Event Operation Operation.Reply)}
variable {event : Event Operation Operation.Reply}
variable {operation : Operation}

theorem quiet_concat (calm : presses event = false) :
    Quiet (history ++ [event]) := by
  intro last found
  rw [List.getLast?_concat] at found
  cases found
  exact calm

theorem Quiet.not_won (quiet : Quiet history) :
    history.getLast? ≠ some ⟨.exchangeTerminal, true⟩ :=
  fun won => Bool.noConfusion (quiet _ won)

theorem Quiet.not_owes (quiet : Quiet history) : ¬Owes history := by
  rintro ⟨_, _, _, _, last⟩
  exact Bool.noConfusion (quiet _ last)

theorem settled_nil : Settled context task [] where
  quiet := nofun
  holding := rfl

theorem Settled.concat
    (settled : Settled context task history)
    (calm : presses event = false)
    (acquires : acquired context task event = [])
    (releases : released event = []) :
    Settled context task (history ++ [event]) where
  quiet := quiet_concat calm
  holding := settled.holding.keep acquires releases

theorem Settled.since (settled : Settled context task history) :
    Since context task history [] history where
  quiet := settled.quiet
  holding := settled.holding
  pending_eq := rfl
  extended := List.prefix_rfl

theorem Since.settled (since : Since context task kept [] history) :
    Settled context task history where
  quiet := since.quiet
  holding := since.holding

theorem Since.concat
    (since : Since context task kept held history)
    (calm : presses event = false)
    (holding : Holding context task rest (history ++ [event]))
    (same : ∀ earlier, pendingAfter earlier event = earlier) :
    Since context task kept rest (history ++ [event]) where
  quiet := quiet_concat calm
  holding := holding
  pending_eq := by rw [pending_concat, same, since.pending_eq]
  extended := since.extended.trans (List.prefix_append _ _)

theorem conduct_of_idle
    (settled : Settled context task history)
    (idle : Idle operation) :
    Conduct context task history operation where
  announces := by
    cases operation with
    | sendEvent event =>
        cases idle
        trivial
    | connection inner => cases inner <;> trivial
    | _ => trivial
  tells won := absurd won settled.quiet.not_won
  signals := by
    refine ⟨fun owes => absurd owes settled.quiet.not_owes, ?_⟩
    cases operation with
    | trySendSignal | sendSignal | tryRecvSignal => exact idle.elim
    | connection inner => cases inner <;> trivial
    | _ => trivial
  handles := by
    refine ⟨[], settled.holding, ?_⟩
    cases operation with
    | trySendSignal | stage => exact idle.elim
    | connection inner => cases inner <;> first | rfl | exact idle.elim
    | _ => rfl

end Conduct

/-- A computation keeps the conduct of its task, given the replies that a session
gives, and does not crash. -/
abbrev Conducts
    {α : Type}
    (context : SessionContext)
    (task : Task)
    (ensures : List (Event Operation Operation.Reply) → α → Prop)
    (program : Async α)
    (history : List (Event Operation Operation.Reply)) : Prop :=
  program.Fulfills (Answers context.primitives) (Conduct context task) ensures
    history

/-- A fallible computation that leaves its task settled, in success or failure. -/
abbrev Concludes
    {α : Type}
    (context : SessionContext)
    (task : Task)
    (ensures : List (Event Operation Operation.Reply) → α → Prop)
    (program : Fallible α)
    (history : List (Event Operation Operation.Reply)) : Prop :=
  Conducts context task
    (fun later result => Settled context task later ∧
      ∀ value, result = .ok value → ensures later value)
    program.run history

/-! ## Rules -/

section Rules

variable {α β : Type}
variable {context : SessionContext}
variable {task : Task}
variable {history : List (Event Operation Operation.Reply)}
variable {ensures : List (Event Operation Operation.Reply) → α → Prop}

theorem concludes_bind
    {between : List (Event Operation Operation.Reply) → β → Prop}
    {program : Fallible β}
    {next : β → Fallible α}
    (first : Concludes context task between program history)
    (second : ∀ later value, Settled context task later → between later value →
      Concludes context task ensures (next value) later) :
    Concludes context task ensures (program >>= next) history := by
  rw [Concludes, ExceptT.run_bind]
  refine first.bind fun later result ended => ?_
  cases result with
  | error error => exact ⟨ended.1, nofun⟩
  | ok value => exact second later value ended.1 (ended.2 value rfl)

theorem concludes_lift
    {program : Async α}
    (conducts : Conducts context task
      (fun later value => Settled context task later ∧ ensures later value)
      program history) :
    Concludes context task ensures (ExceptT.lift program) history := by
  refine conducts.bind fun later value ended => ⟨ended.1, ?_⟩
  rintro _ ⟨⟩
  exact ended.2

theorem concludes_pure
    {value : α}
    (settled : Settled context task history)
    (holds : ensures history value) :
    Concludes context task ensures (pure value) history := by
  refine ⟨settled, ?_⟩
  rintro _ ⟨⟩
  exact holds

theorem concludes_throw
    {error : Error}
    (settled : Settled context task history) :
    Concludes context task ensures (throw error) history :=
  ⟨settled, nofun⟩

theorem concludes_settle
    {result : Except Error α}
    (settled : Settled context task history)
    (holds : ∀ value, result = .ok value → ensures history value) :
    Concludes context task ensures (settle result) history :=
  ⟨settled, holds⟩

theorem concludes_settle_bind
    {result : Except Error β}
    {next : β → Fallible α}
    (settled : Settled context task history)
    (rest : ∀ value, result = .ok value →
      Concludes context task ensures (next value) history) :
    Concludes context task ensures (settle result >>= next) history := by
  rw [Concludes, run_settle_bind]
  cases result with
  | error error => exact ⟨settled, nofun⟩
  | ok value => exact rest value rfl

/-- Plain operations leave a task settled. -/
theorem conducts_of_plain
    {program : Async α}
    (plainly : StaysPlain (Answers context.primitives) ensures program history)
    (settled : Settled context task history) :
    Conducts context task
      (fun later value => Settled context task later ∧ ensures later value)
      program history := by
  refine plainly.carry (fun later operation plain settled => ?_)
    (fun later operation reply plain settled => ?_) settled
  · refine conduct_of_idle settled ?_
    cases plain <;> trivial
  · cases plain <;> exact settled.concat rfl rfl rfl

theorem concludes_of_plain
    {program : Fallible α}
    (plainly : StaysPlain (Answers context.primitives) (fun _ _ => True)
      program.run history)
    (settled : Settled context task history) :
    Concludes context task (fun _ _ => True) program history :=
  (conducts_of_plain plainly settled).mono fun _ _ ended =>
    ⟨ended.1, fun _ _ => trivial⟩

end Rules

/-! ## Candidates and descriptions -/

section Signaling

variable {context : SessionContext}
variable {task : Task}
variable {kept history : List (Event Operation Operation.Reply)}
variable {held : List LocalCandidate}

/-- The first candidate in the hands of a task is queued or staged. -/
theorem conducts_emitOrStageCandidate
    {sequence : UInt32}
    {candidate : List UInt8}
    (signaling : task.isSignaling = true)
    (since : Since context task kept ((sequence, candidate) :: held) history) :
    Conducts context task (fun later _ => Since context task kept held later)
      (emitOrStageCandidate context sequence candidate) history := by
  refine ⟨⟨trivial, fun won => absurd won since.quiet.not_won,
    ⟨fun owes => absurd owes since.quiet.not_owes, trivial⟩,
    _, since.holding, signaling, rfl⟩, fun outcome answered => ?_⟩
  have signed := @Since.concat _ _ _ _ _ _
    ⟨.connection (.candidate context.signer sequence candidate), outcome⟩ since
    rfl (since.holding.keep rfl rfl) fun _ => rfl
  cases outcome with
  | error error =>
      refine ⟨⟨trivial, fun won => absurd won signed.quiet.not_won,
        ⟨fun owes => absurd owes signed.quiet.not_owes, trivial⟩,
        _, signed.holding, signaling, rfl⟩, fun old _ => ?_⟩
      exact signed.concat rfl (signed.holding.release rfl) fun _ => rfl
  | ok actions =>
      obtain ⟨envelope, parentId, body_eq, rfl⟩ := answered.candidate
      have carries : SignalEvent.localCandidate? ⟨envelope⟩ =
          some (sequence, candidate) := by
        rw [SignalEvent.localCandidate?, body_eq]
      have is_candidate : SignalEvent.isCandidate ⟨envelope⟩ = true := by
        rw [← isSome_localCandidate?, carries]
        rfl
      refine ⟨⟨trivial, fun won => absurd won signed.quiet.not_won,
        ⟨fun owes => absurd owes signed.quiet.not_owes,
          ⟨_, List.getLast?_concat, List.mem_cons_self⟩, .inl is_candidate⟩,
        _, signed.holding, signaling, carries.symm⟩, fun sent _ => ?_⟩
      refine signed.concat rfl (Holding.release ?_ rfl) fun earlier => ?_
      · rw [released, offered, carries]
        exact signed.holding
      · cases sent with
        | false => rfl
        | true => exact if_pos is_candidate

theorem conducts_emitCandidates
    (signaling : task.isSignaling = true)
    (since : Since context task kept held history) :
    Conducts context task (fun later _ => Since context task kept [] later)
      (emitCandidates context held) history := by
  induction held generalizing history with
  | nil => exact since
  | cons first rest inductionHypothesis =>
      exact (conducts_emitOrStageCandidate signaling since).bind
        fun _ _ since => inductionHypothesis since

theorem conducts_flushStagedCandidates
    (signaling : task.isSignaling = true)
    (settled : Settled context task history) :
    Conducts context task (fun later _ => Since context task history [] later)
      (flushStagedCandidates context) history := by
  refine ⟨conduct_of_idle settled trivial, fun staged _ => ?_⟩
  refine conducts_emitCandidates signaling ?_
  exact @Since.concat _ _ _ _ _ _ ⟨.takeStaged, staged⟩ settled.since rfl
    (settled.holding.acquire rfl) fun _ => rfl

theorem conducts_tryTakeSignal
    (signaling : task.isSignaling = true)
    (settled : Settled context task history)
    (takes : task.isExclusive = true ∧
      (task = .tryTakeSignal ∨
        ∃ signal, pending history = some signal ∧
          Signed context history signal task)) :
    Conducts context task
      (fun later taken => Settled context task later ∧
        ∀ signal, taken = some signal → Took later signal)
      (tryTakeSignal context) history := by
  refine ⟨⟨trivial, fun won => absurd won settled.quiet.not_won,
    ⟨fun owes => absurd owes settled.quiet.not_owes, takes⟩,
    _, settled.holding, rfl⟩, fun taken _ => ?_⟩
  have settled := @Settled.concat _ _ _ ⟨.tryRecvSignal, taken⟩ settled rfl rfl
    rfl
  cases taken with
  | none => exact ⟨settled, nofun⟩
  | some signal =>
      refine (conducts_flushStagedCandidates signaling settled).bind
        fun later _ since => ⟨since.settled, ?_⟩
      rintro _ ⟨⟩
      obtain ⟨after, rfl⟩ := since.extended
      exact ⟨history, after, List.append_cons _ _ _ ▸ rfl⟩

/-- The envelope of a description that has just been signed is queued. -/
theorem concludes_processActions_of_describes
    {inner : Core.Operation}
    {actions : List Action}
    {envelope : Envelope}
    (signaling : task.isSignaling = true)
    (exclusive : task.isExclusive = true)
    (describes : Describes actions envelope)
    (description : SignalEvent.isCandidate ⟨envelope⟩ = false)
    (settled : Settled context task history) :
    Concludes context task
      (fun later _ => later = history ++ [⟨.connection inner, .ok actions⟩] ++
        [⟨.trySendSignal ⟨envelope⟩, true⟩])
      (processActions context actions)
      (history ++ [⟨.connection inner, .ok actions⟩]) := by
  have carries_none : SignalEvent.localCandidate? ⟨envelope⟩ = none := by
    rw [← Option.not_isSome_iff_eq_none, isSome_localCandidate?, description]
    exact Bool.false_ne_true
  have holding : Holding context task []
      (history ++ [⟨.connection inner, .ok actions⟩]) :=
    settled.holding.keep rfl rfl
  have mem : .send envelope ∈ actions := by
    rcases describes with rfl | rfl <;> simp
  have sent : Concludes context task
      (fun later _ => later = history ++ [⟨.connection inner, .ok actions⟩] ++
        [⟨.trySendSignal ⟨envelope⟩, true⟩])
      (processActions context [.send envelope])
      (history ++ [⟨.connection inner, .ok actions⟩]) := by
    refine ⟨⟨trivial, fun won => ?_, ⟨fun _ => ⟨_, rfl⟩,
      ⟨_, List.getLast?_concat, mem⟩, .inr exclusive⟩,
      [], holding, signaling, carries_none.symm⟩, fun reply _ => ?_⟩
    · rw [List.getLast?_concat] at won
      cases won
    · have settled : Settled context task
          (history ++ [⟨.connection inner, .ok actions⟩] ++
            [⟨.trySendSignal ⟨envelope⟩, reply⟩]) := by
        refine ⟨quiet_concat rfl, holding.keep rfl ?_⟩
        rw [released, offered, carries_none]
        rfl
      cases reply with
      | false => exact ⟨settled, nofun⟩
      | true => exact ⟨settled, fun _ _ => rfl⟩
  rcases describes with rfl | rfl
  · exact sent
  · exact sent

/-- A description is signed and queued, and the queue is asked for a signal. -/
theorem concludes_emitDescription
    {operation : WebRtcBinding → List UInt8 → Core.Operation}
    {unavailable unemitted : String}
    (signaling : task.isSignaling = true)
    (exclusive : task.isExclusive = true)
    (starts : ∀ later binding description, Settled context task later →
      Conduct context task later (.connection (operation binding description)))
    (signs : ∀ binding description actions, Answers context.primitives
        (.connection (operation binding description)) (.ok actions) →
      ∃ envelope, Describes actions envelope ∧
        SignalEvent.isCandidate ⟨envelope⟩ = false ∧
        ∀ later, ⟨.connection (operation binding description),
          .ok actions⟩ ∈ later → Signed context later ⟨envelope⟩ task)
    (settled : Settled context task history) :
    Concludes context task Took
      (emitDescription context operation unavailable unemitted) history := by
  refine concludes_bind (concludes_of_plain ⟨.localDescription, fun _ _ =>
    trivial⟩ settled) fun found _ settled _ => ?_
  refine concludes_settle_bind settled fun description _ => ?_
  refine concludes_settle_bind settled fun fingerprint _ => ?_
  rw [Concludes, run_lockConnection_bind]
  refine ⟨starts _ _ _ settled, fun outcome answered => ?_⟩
  cases outcome with
  | error error =>
      refine ⟨settled.concat ?_ rfl rfl, nofun⟩
      cases operation _ _ <;> rfl
  | ok actions =>
      obtain ⟨envelope, describes, description, signed⟩ := signs _ _ _ answered
      refine concludes_bind (concludes_processActions_of_describes signaling
        exclusive describes description settled) fun queued _ settled queued_eq =>
          ?_
      refine concludes_bind (concludes_lift
        ((conducts_flushStagedCandidates signaling settled).mono
          fun _ _ since => ⟨since.settled, since⟩))
        fun flushed _ settled since => ?_
      have takes : ∃ signal, pending flushed = some signal ∧
          Signed context flushed signal task := by
        refine ⟨⟨envelope⟩, ?_, signed _ (since.extended.subset ?_)⟩
        · rw [since.pending_eq, queued_eq, pending_concat, pendingAfter,
            description]
          rfl
        · rw [queued_eq]
          exact List.mem_append_left _ List.mem_concat_self
      refine concludes_bind (concludes_lift (conducts_tryTakeSignal signaling
        settled ⟨exclusive, .inr takes⟩)) fun final taken settled took => ?_
      exact concludes_settle settled fun signal found =>
        took signal (okOr_eq_ok_iff.mp found)

theorem concludes_beginOffer :
    Concludes context .beginOffer Took (beginOffer context) [] := by
  refine concludes_bind (concludes_of_plain (staysPlain_callEngine _)
    settled_nil) fun later channel settled _ => ?_
  refine concludes_bind (concludes_lift (conducts_of_plain
    (staysPlain_installControlChannel channel) settled))
    fun later _ settled _ => ?_
  refine concludes_bind (concludes_of_plain (staysPlain_callEngine _) settled)
    fun later offer settled _ => ?_
  refine concludes_bind (concludes_of_plain (staysPlain_callEngine _) settled)
    fun later _ settled _ => ?_
  refine concludes_emitDescription rfl rfl (fun later binding description settled
    => ?_) (fun binding description actions answered => ?_) settled
  · exact ⟨trivial, fun won => absurd won settled.quiet.not_won,
      ⟨fun owes => absurd owes settled.quiet.not_owes, rfl⟩, [],
      settled.holding, rfl⟩
  · obtain ⟨envelope, body_eq, describes⟩ := answered.beginOffer
    refine ⟨envelope, describes, ?_, fun later mem =>
      ⟨binding, description, actions, mem, ?_, body_eq⟩⟩
    · rw [SignalEvent.isCandidate, body_eq]
    · rcases describes with rfl | rfl <;> simp

theorem concludes_answer :
    Concludes context .answer Took (answer context) [] := by
  refine concludes_bind (concludes_of_plain (staysPlain_callEngine _)
    settled_nil) fun later answer settled _ => ?_
  refine concludes_bind (concludes_of_plain (staysPlain_callEngine _) settled)
    fun later _ settled _ => ?_
  refine concludes_emitDescription rfl rfl (fun later binding description settled
    => conduct_of_idle settled trivial)
    (fun binding description actions answered => ?_) settled
  obtain ⟨envelope, offerId, body_eq, describes⟩ := answered.answer
  refine ⟨envelope, describes, ?_, fun later mem =>
    ⟨offerId, binding, description, actions, mem, ?_, body_eq⟩⟩
  · rw [SignalEvent.isCandidate, body_eq]
  · rcases describes with rfl | rfl <;> simp

theorem conducts_onIceCandidate (json : Option RTCIceCandidateInit) :
    Conducts context (.onIceCandidate json)
      (fun later _ => Settled context (.onIceCandidate json) later)
      (onIceCandidate context json) [] := by
  cases json with
  | none => exact settled_nil
  | some json =>
      rw [onIceCandidate]
      cases encoded : context.encodeCandidate json with
      | none => exact settled_nil
      | some candidate =>
          refine ⟨conduct_of_idle settled_nil trivial, fun sequence _ => ?_⟩
          have holding := @Holding.acquire context (.onIceCandidate (some json))
            [] [] ⟨.nextSequence, sequence⟩ rfl rfl
          rw [acquired, reported, encoded] at holding
          have since := settled_nil.since.concat rfl holding fun _ => rfl
          exact (conducts_emitOrStageCandidate rfl since).mono
            fun _ _ since => since.settled

end Signaling

/-! ## The end and the pump -/

section Pump

variable {context : SessionContext}
variable {task : Task}
variable {history : List (Event Operation Operation.Reply)}

/-- Whoever waits for room in a queue gets it. -/
theorem Answers.eq_true_of_sendEvent
    {primitives : Primitives}
    {event : SessionEvent}
    {sent : Bool}
    (answered : Answers primitives (.sendEvent event) sent) :
    sent = true := by
  obtain ⟨shared, later, engine, responded⟩ := answered
  rw [respond] at responded
  split at responded <;> cases responded
  rfl

theorem conducts_emitTerminal
    {event : SessionEvent}
    (terminal : event.isTerminal = true)
    (announced : ∀ later : List (Event Operation Operation.Reply),
      later.getLast? = some ⟨.exchangeTerminal, true⟩ → history ⊆ later →
      Announces later (.sendEvent event))
    (settled : Settled context task history) :
    Conducts context task
      (fun later _ => Settled context task later ∧ Stops later)
      (emitTerminal event) history := by
  refine ⟨conduct_of_idle settled trivial, fun won _ => ?_⟩
  cases won with
  | false =>
      exact ⟨settled.concat rfl rfl rfl, .yielded List.mem_concat_self⟩
  | true =>
      have holding := @Holding.keep _ _ _ _ ⟨.exchangeTerminal, true⟩
        settled.holding rfl rfl
      refine ⟨⟨announced _ List.getLast?_concat (List.subset_append_left _ _),
        fun _ => terminal, ⟨?_, trivial⟩, [], holding, rfl⟩, fun sent _ => ?_⟩
      · rintro ⟨_, _, _, _, last⟩
        rw [List.getLast?_concat] at last
        cases last
      · exact ⟨⟨quiet_concat rfl, holding.keep rfl rfl⟩,
          .announced List.mem_concat_self terminal⟩

theorem conducts_emitFailed (settled : Settled context task history) :
    Conducts context task
      (fun later _ => Settled context task later ∧ Stops later)
      (emitTerminal .failed) history :=
  conducts_emitTerminal rfl (fun _ latest _ => latest) settled

theorem concludes_applyDescription
    (sdpType : RTCSdpType)
    (mismatch : String)
    (binding : WebRtcBinding)
    (description : List UInt8)
    (settled : Settled context task history) :
    Concludes context task (fun _ _ => True)
      (applyDescription context sdpType mismatch binding description)
      history :=
  concludes_settle_bind settled fun _ _ =>
    concludes_of_plain (staysPlain_callEngine _) settled

/-- The event that delivers what the connection has just received. -/
theorem conduct_deliverCfr
    {id : EnvelopeId}
    {sender : EndpointIdentity}
    {payload : List UInt8}
    {event : Event Operation Operation.Reply}
    (last : history.getLast? = some event)
    (mem : .deliverCfr id sender payload ∈ actionsOf event)
    (settled : Settled context task history) :
    Conduct context task history (.sendEvent (.deliverCfr id sender payload)) :=
  ⟨⟨event, last, mem⟩, fun won => absurd won settled.quiet.not_won,
    ⟨fun owes => absurd owes settled.quiet.not_owes, trivial⟩, [],
    settled.holding, rfl⟩

/-- The action that the connection has just returned. -/
theorem concludes_processAction
    {id : EnvelopeId}
    {sender : EndpointIdentity}
    {body : Body}
    {event : Event Operation Operation.Reply}
    (last : history.getLast? = some event)
    (returned : actionsOf event = [Connection.reaction id sender body])
    (settled : Settled context task history) :
    Concludes context task (fun _ _ => True)
      (processAction context (Connection.reaction id sender body)) history := by
  have mem : Connection.reaction id sender body ∈ actionsOf event :=
    returned ▸ List.mem_cons_self
  cases body with
  | offer binding description =>
      exact concludes_applyDescription _ _ _ _ settled
  | answer offerId binding description =>
      exact concludes_applyDescription _ _ _ _ settled
  | candidate parentId sequence fragment =>
      exact concludes_settle_bind settled fun _ _ =>
        concludes_of_plain (staysPlain_callEngine _) settled
  | close reason =>
      have announced : ∀ later : List (Event Operation Operation.Reply),
          later.getLast? = some ⟨.exchangeTerminal, true⟩ → history ⊆ later →
          Announces later (.sendEvent (.closed reason)) :=
        fun later latest kept =>
          ⟨latest, event, kept (List.mem_of_getLast? last), mem⟩
      refine concludes_bind (concludes_lift
        (conducts_emitTerminal rfl announced settled))
        fun later sent settled _ => ?_
      cases sent with
      | false => exact concludes_throw settled
      | true => exact concludes_of_plain (staysPlain_callEngine _) settled
  | cfrControl payload =>
      refine ⟨conduct_deliverCfr last mem settled, fun sent _ => ?_⟩
      have settled := @Settled.concat _ _ _
        ⟨.sendEvent (.deliverCfr id sender payload), sent⟩ settled rfl rfl rfl
      cases sent with
      | false => exact ⟨settled, nofun⟩
      | true => exact ⟨settled, fun _ _ => trivial⟩

/-- The actions that the connection has just returned. -/
theorem concludes_processActions_of_inbound
    {actions : List Action}
    {event : Event Operation Operation.Reply}
    (inbound : Inbound actions)
    (last : history.getLast? = some event)
    (returned : actionsOf event = actions)
    (settled : Settled context task history) :
    Concludes context task (fun _ _ => True) (processActions context actions)
      history := by
  rcases inbound with rfl | ⟨id, sender, body, rfl⟩
  · exact concludes_pure settled trivial
  · exact concludes_bind (concludes_processAction last returned settled)
      fun _ _ settled _ => concludes_pure settled trivial

theorem concludes_acceptSignal
    (wire : List UInt8)
    (settled : Settled context task history) :
    Concludes context task (fun _ _ => True) (acceptSignal context wire)
      history := by
  refine concludes_settle_bind settled fun envelope _ => ?_
  rw [Concludes, run_lockConnection_bind]
  refine ⟨conduct_of_idle settled trivial, fun outcome answered => ?_⟩
  cases outcome with
  | error error => exact ⟨settled.concat rfl rfl rfl, nofun⟩
  | ok actions =>
      exact concludes_processActions_of_inbound answered.inbound
        List.getLast?_concat rfl (settled.concat rfl rfl rfl)

/-- The pump carries out what the connection has just returned. -/
theorem conducts_pumpActions
    {actions : List Action}
    {event : Event Operation Operation.Reply}
    (inbound : Inbound actions)
    (last : history.getLast? = some event)
    (returned : actionsOf event = actions)
    (settled : Settled context task history) :
    Conducts context task
      (fun later pumped => Settled context task later ∧ pumped = true)
      (pumpActions actions) history := by
  rcases inbound with rfl | ⟨id, sender, body, rfl⟩
  · exact ⟨settled, rfl⟩
  · have mem : Connection.reaction id sender body ∈ actionsOf event :=
      returned ▸ List.mem_cons_self
    cases body with
    | cfrControl payload =>
        refine ⟨conduct_deliverCfr last mem settled, fun sent answered => ?_⟩
        cases answered.eq_true_of_sendEvent
        exact ⟨settled.concat rfl rfl rfl, rfl⟩
    | _ => exact ⟨settled, rfl⟩

/-- The pump goes on after a report unless something stops it. -/
theorem conducts_handleControlEvent
    (report : Option DataChannelEvent)
    (settled : Settled context task history) :
    Conducts context task
      (fun later again => Settled context task later ∧
        (again = true ∨ Stops later))
      (handleControlEvent report) history := by
  cases report with
  | none =>
      exact (conducts_emitFailed settled).bind
        fun _ _ ended => ⟨ended.1, .inr ended.2⟩
  | some report =>
      cases report with
      | onOpen =>
          refine ⟨conduct_of_idle settled trivial, fun outcome answered => ?_⟩
          cases outcome with
          | error error =>
              exact ⟨settled.concat rfl rfl rfl,
                .inr (.refused (.inl rfl) List.mem_concat_self)⟩
          | ok actions =>
              refine (conducts_pumpActions answered.inbound_of_event
                List.getLast?_concat rfl (settled.concat rfl rfl rfl)).bind
                  fun later pumped ended => ?_
              obtain ⟨settled, rfl⟩ := ended
              exact ⟨conduct_of_idle settled rfl, fun sent answered =>
                ⟨settled.concat rfl rfl rfl,
                  .inl answered.eq_true_of_sendEvent⟩⟩
      | onMessage data =>
          refine ⟨conduct_of_idle settled trivial, fun outcome answered => ?_⟩
          cases outcome with
          | error error =>
              exact ⟨settled.concat rfl rfl rfl,
                .inr (.refused (.inr ⟨data, rfl⟩) List.mem_concat_self)⟩
          | ok actions =>
              exact (conducts_pumpActions answered.inbound_of_event
                List.getLast?_concat rfl (settled.concat rfl rfl rfl)).mono
                  fun _ _ ended => ⟨ended.1, .inl ended.2⟩
      | onClose =>
          exact (conducts_emitFailed settled).bind
            fun _ _ ended => ⟨ended.1, .inr ended.2⟩
      | other => exact ⟨settled, .inl rfl⟩

/-- A pump asks for all its reports unless something stops it. -/
theorem conducts_controlPump
    (count : Nat)
    (channel : DataChannel)
    (settled : Settled context task history) :
    Conducts context task
      (fun later _ => Settled context task later ∧
        (history.countP polls + count ≤ later.countP polls ∨ Stops later))
      (controlPump count channel) history := by
  induction count generalizing history with
  | zero => exact ⟨settled, .inl (Nat.le_refl _)⟩
  | succ count inductionHypothesis =>
      refine ⟨conduct_of_idle settled trivial, fun report _ => ?_⟩
      refine (conducts_handleControlEvent report
        (settled.concat rfl rfl rfl)).extended.bind
          fun handled again ended => ?_
      obtain ⟨extended, settled, continues⟩ := ended
      have counted : history.countP polls + 1 ≤ handled.countP polls := by
        have grown := @List.Sublist.countP_le _ polls _ _ extended.sublist
        rwa [List.countP_append] at grown
      cases again with
      | false => exact ⟨settled, .inr (continues.resolve_left nofun)⟩
      | true =>
          refine (inductionHypothesis settled).mono fun later _ ended =>
            ⟨ended.1, ended.2.imp_left fun polled => ?_⟩
          omega

end Pump

/-! ## All tasks -/

/-- What a task has achieved when it ends. -/
def Achieves
    (context : SessionContext)
    (history : List (Event Operation Operation.Reply))
    (returned : Returned) : Task → Prop
  | .beginOffer | .answer => ∀ signal, returned = .signal (.ok signal) →
      Took history signal
  | .sendCfr payload => ∃ outcome, returned = .unit outcome ∧
      ∀ value, outcome = .ok value → ∃ actions,
        ⟨.connection (.cfrControl context.signer payload), .ok actions⟩ ∈
          history
  | .controlPump count => count ≤ history.countP polls ∨ Stops history
  | _ => True

theorem conducts_program (context : SessionContext) (task : Task) :
    Conducts context task
      (fun later returned => Settled context task later ∧
        Achieves context later returned task)
      (task.program context) [] := by
  cases task with
  | beginOffer =>
      refine concludes_beginOffer.map fun later result ended => ⟨ended.1, ?_⟩
      rintro signal ⟨⟩
      exact ended.2 signal rfl
  | answer =>
      refine concludes_answer.map fun later result ended => ⟨ended.1, ?_⟩
      rintro signal ⟨⟩
      exact ended.2 signal rfl
  | acceptSignal wire =>
      exact (concludes_acceptSignal wire settled_nil).map
        fun _ _ ended => ⟨ended.1, trivial⟩
  | sendCfr payload =>
      exact (conducts_of_plain (staysPlain_sendCfr context payload)
        settled_nil).map fun _ _ ended => ⟨ended.1, _, rfl, ended.2⟩
  | tryTakeSignal =>
      exact (conducts_tryTakeSignal rfl settled_nil ⟨rfl, .inl rfl⟩).map
        fun _ _ ended => ⟨ended.1, trivial⟩
  | tryTakeEvent =>
      exact ⟨conduct_of_idle settled_nil trivial, fun _ _ =>
        ⟨settled_nil.concat rfl rfl rfl, trivial⟩⟩
  | beginClose reason =>
      exact (conducts_of_plain (staysPlain_beginClose context reason)
        settled_nil).map fun _ _ ended => ended
  | close =>
      exact (conducts_of_plain (staysPlain_callEngine _) settled_nil).map
        fun _ _ ended => ended
  | onIceCandidate json =>
      exact (conducts_onIceCandidate json).map
        fun _ _ settled => ⟨settled, trivial⟩
  | onConnectionStateChange state =>
      refine Program.Fulfills.map ?_ fun _ _ settled => ⟨settled, trivial⟩
      rw [onConnectionStateChange]
      split
      · exact (conducts_emitFailed settled_nil).bind fun _ _ ended => ended.1
      · exact settled_nil
  | onDataChannel channel =>
      exact (conducts_of_plain (staysPlain_installRemoteControlChannel channel)
        settled_nil).map fun _ _ ended => ended
  | controlPump count =>
      refine ⟨conduct_of_idle settled_nil trivial, fun channel _ => ?_⟩
      refine (conducts_controlPump count channel
        (settled_nil.concat rfl rfl rfl)).bind fun later _ ended =>
          ⟨ended.1, ended.2.imp_left fun polled => ?_⟩
      exact Nat.le_trans (Nat.le_add_left _ _) polled

section Runs

variable {ι : Type} [DecidableEq ι]
variable {context : SessionContext}
variable {tasks : ι → Task}
variable {connection : Connection}
variable {log before after : List (PoolEvent ι Operation Operation.Reply)}
variable {current : (ι → Async Returned) × Shared}
variable {caller : ι}

/-- A task keeps its conduct in every run. -/
theorem conducts_of_run
    (run : Trace (PoolStep (Step context.primitives))
      (launch context tasks connection) log current) :
    Conducts context (tasks caller)
      (fun later returned => Settled context (tasks caller) later ∧
        Achieves context later returned (tasks caller))
      (current.1 caller) (own caller log) := by
  refine Run.fulfills (fun shared later _ _ step => ⟨shared, later, step⟩) ?_ run
  exact conducts_program context (tasks caller)

theorem conduct_of_waits
    {operation : Operation}
    {resume : operation.Reply → Async Returned}
    (run : Trace (PoolStep (Step context.primitives))
      (launch context tasks connection) log current)
    (waits : current.1 caller = .perform operation resume) :
    Conduct context (tasks caller) (own caller log) operation := by
  have conducts := @conducts_of_run _ _ _ _ _ _ _ caller run
  rw [waits] at conducts
  exact conducts.1

theorem conduct_of_event
    {event : PoolEvent ι Operation Operation.Reply}
    (run : Trace (PoolStep (Step context.primitives))
      (launch context tasks connection) (before ++ event :: after) current) :
    Conduct context (tasks event.call.1) (own event.call.1 before)
      event.call.2 := by
  obtain ⟨earlier, later, first, moved, -⟩ := run.exists_of_cons
  obtain ⟨⟨caller, operation⟩, reply⟩ := event
  cases moved with
  | answered waits taken => exact conduct_of_waits first waits

theorem achieves_of_finished
    {result : Returned}
    (run : Trace (PoolStep (Step context.primitives))
      (launch context tasks connection) log current)
    (finished : current.1 caller = .done result) :
    Settled context (tasks caller) (own caller log) ∧
      Achieves context (own caller log) result (tasks caller) := by
  have conducts := @conducts_of_run _ _ _ _ _ _ _ caller run
  rw [finished] at conducts
  exact conducts

end Runs

end Webrtc
end Fcp
