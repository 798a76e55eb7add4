import Mathlib.Data.List.Count
import Fcp.Webrtc.SignalOrder

/-!
# Local candidates are conserved

A local candidate moves from the engine into the queue of signals or the staging
list, and between the two.  Everything a task has taken into its hands it puts
down again before it ends, so candidates are lost only where a queue or the
staging list is full.
-/

namespace Fcp
namespace Webrtc

open Core Reactive Rust Transport

/-! ## The staging list -/

/-- The candidate that has to leave the staging list. -/
def evicted : Event Operation Operation.Reply → List LocalCandidate
  | ⟨.stage _ _, old⟩ => old.toList
  | _ => []

/-- The staging list is a queue: what enters it leaves it in order. -/
theorem Step.stagedCandidates
    {primitives : Primitives}
    {shared later : Shared}
    {operation : Operation}
    {reply : operation.Reply}
    (step : Step primitives shared operation reply later) :
    shared.stagedCandidates ++ staged ⟨operation, reply⟩ =
      (unstaged ⟨operation, reply⟩ ++ evicted ⟨operation, reply⟩) ++
        later.stagedCandidates := by
  obtain ⟨engine, responded⟩ := step
  cases operation with
  | stage sequence candidate =>
      rw [respond] at responded
      split at responded
      case isTrue full =>
        cases responded
        cases list_eq : shared.stagedCandidates with
        | nil =>
            rw [list_eq] at full
            cases full
        | cons first rest => rfl
      case isFalse =>
        cases responded
        rfl
  | takeStaged =>
      cases responded
      exact (List.append_assoc _ _ _).symm ▸ rfl
  | trySendSignal | sendSignal | sendEvent | exchangeTerminal | pickUp =>
      rw [respond] at responded
      split at responded <;> cases responded <;> exact List.append_nil _
  | _ =>
      cases responded
      exact List.append_nil _

/-! ## Whole runs -/

/-- No signaling task is under way. -/
def AtRest
    {ι : Type}
    [DecidableEq ι]
    (tasks : ι → Task)
    (log : List (PoolEvent ι Operation Operation.Reply))
    (pool : ι → Async Returned) : Prop :=
  ∀ caller, (tasks caller).isSignaling = true →
    own caller log = [] ∨ ∃ result, pool caller = .done result

/-- The candidates that a task has in its hands after a history. -/
def held
    (context : SessionContext)
    (task : Task)
    (history : List (Event Operation Operation.Reply)) : List LocalCandidate :=
  (history.flatMap (acquired context task)).drop
    (history.flatMap released).length

theorem Holding.held_eq
    {context : SessionContext}
    {task : Task}
    {hands : List LocalCandidate}
    {history : List (Event Operation Operation.Reply)}
    (holding : Holding context task hands history) :
    held context task history = hands := by
  rw [held, holding, List.drop_left]

theorem Holding.holding_held
    {context : SessionContext}
    {task : Task}
    {hands : List LocalCandidate}
    {history : List (Event Operation Operation.Reply)}
    (holding : Holding context task hands history) :
    Holding context task (held context task history) history := by
  rw [holding.held_eq]
  exact holding

/-- A candidate finds room in the queue of signals. -/
def Roomy
    {ι : Type}
    (current : (ι → Async Returned) × Shared)
    (call : ι × Operation) : Prop :=
  ∀ signal, call.2 = .trySendSignal signal → signal.isCandidate = true →
    current.2.signals.length < signalEventCapacity

section Runs

variable {ι : Type} [DecidableEq ι]
variable {context : SessionContext}
variable {tasks : ι → Task}
variable {connection : Connection}
variable {log before after : List (PoolEvent ι Operation Operation.Reply)}
variable {current : (ι → Async Returned) × Shared}
variable {caller : ι}

/-- The staging list holds what was staged and neither taken nor evicted. -/
theorem staged_eq_removed_append
    (run : Trace (PoolStep (Step context.primitives))
      (launch context tasks connection) log current) :
    log.flatMap (fun event => staged (bare event)) =
      log.flatMap (fun event =>
          unstaged (bare event) ++ evicted (bare event)) ++
        current.2.stagedCandidates := by
  induction run with
  | start => rfl
  | next _ moved inductionHypothesis =>
      cases moved with
      | answered waits taken =>
          have moved := taken.stagedCandidates
          rw [List.flatMap_append, List.flatMap_append, List.flatMap_singleton,
            List.flatMap_singleton, inductionHypothesis, List.append_assoc,
            List.append_assoc, moved]

/-- A task has in its hands what it has picked up and not put down. -/
theorem holding_held
    (run : Trace (PoolStep (Step context.primitives))
      (launch context tasks connection) log current) :
    Holding context (tasks caller) (held context (tasks caller) (own caller log))
      (own caller log) := by
  have conducts := @conducts_of_run _ _ _ _ _ _ _ caller run
  cases at_caller : current.1 caller with
  | done result =>
      exact (achieves_of_finished run at_caller).1.holding.holding_held
  | crash =>
      rw [at_caller] at conducts
      exact conducts.elim
  | perform operation resume =>
      obtain ⟨_, holding, -⟩ := (conduct_of_waits run at_caller).handles
      exact holding.holding_held

theorem held_of_finished
    {result : Returned}
    (run : Trace (PoolStep (Step context.primitives))
      (launch context tasks connection) log current)
    (finished : current.1 caller = .done result) :
    held context (tasks caller) (own caller log) = [] :=
  (achieves_of_finished run finished).1.holding.held_eq

theorem handles_held
    {operation : Operation}
    {resume : operation.Reply → Async Returned}
    (run : Trace (PoolStep (Step context.primitives))
      (launch context tasks connection) log current)
    (waits : current.1 caller = .perform operation resume) :
    Handles (tasks caller) (held context (tasks caller) (own caller log))
      operation := by
  obtain ⟨hands, holding, handles⟩ := (conduct_of_waits run waits).handles
  rw [holding.held_eq]
  exact handles

omit [DecidableEq ι] in
/-- A task that does not signal has nothing in its hands. -/
theorem Handles.eq_nil
    {task : Task}
    {hands : List LocalCandidate}
    {operation : Operation}
    (handles : Handles task hands operation)
    (silent : task.isSignaling = false) :
    hands = [] := by
  have signaling : ∀ {condition : Prop}, task.isSignaling = true ∧ condition →
      hands = [] := fun both => by
    rw [silent] at both
    cases both.1
  cases operation with
  | trySendSignal | stage => exact signaling handles
  | connection inner =>
      cases inner with
      | candidate => exact signaling handles
      | _ => exact handles
  | _ => exact handles

/-- At rest the tasks have nothing in their hands. -/
theorem held_of_atRest
    (run : Trace (PoolStep (Step context.primitives))
      (launch context tasks connection) log current)
    (rest : AtRest tasks log current.1) :
    held context (tasks caller) (own caller log) = [] := by
  have conducts := @conducts_of_run _ _ _ _ _ _ _ caller run
  cases at_caller : current.1 caller with
  | done result => exact held_of_finished run at_caller
  | crash =>
      rw [at_caller] at conducts
      exact conducts.elim
  | perform operation resume =>
      cases signals : (tasks caller).isSignaling with
      | false => exact (handles_held run at_caller).eq_nil signals
      | true =>
          rcases rest caller signals with unstarted | ⟨result, finished⟩
          · rw [unstarted]
            rfl
          · rw [at_caller] at finished
            cases finished

/-- Where there is room, what is offered to the queue enters it. -/
theorem offered_eq_sent
    (run : Guarded (PoolStep (Step context.primitives)) (fun _ => Roomy)
      (launch context tasks connection) log current) :
    log.flatMap (fun event => offered (bare event)) =
      (log.filterMap fun event => sentSignal (bare event)).filterMap
        SignalEvent.localCandidate? := by
  induction run with
  | start => rfl
  | @next log _ _ _ _ first meets moved inductionHypothesis =>
      cases moved with
      | @answered pool shared later other operation resume reply performs taken =>
          have entered : offered ⟨operation, reply⟩ =
              (sentSignal ⟨operation, reply⟩).toList.filterMap
                SignalEvent.localCandidate? := by
            cases operation with
            | sendSignal signal =>
                exact (conduct_of_waits first.trace performs).signals.2.elim
            | trySendSignal signal =>
                cases carries : signal.localCandidate? with
                | none => cases reply <;> simp [offered, sentSignal, carries]
                | some candidate =>
                    have room := meets signal rfl (by
                      rw [← isSome_localCandidate?, carries]
                      rfl)
                    obtain ⟨engine, responded⟩ := taken
                    rw [respond, if_pos room] at responded
                    cases responded
                    simp [offered, sentSignal, carries]
            | _ => rfl
          rw [List.flatMap_append, List.flatMap_singleton, filterMap_concat,
            List.filterMap_append, inductionHypothesis]
          exact congrArg _ entered

/-- The account of the local candidates of a session. -/
structure Conserved
    (context : SessionContext)
    (tasks : ι → Task)
    (log : List (PoolEvent ι Operation Operation.Reply))
    (pool : ι → Async Returned)
    (shared : Shared) : Prop where
  /-- What the engine has reported is in signals that were taken or are queued,
  in the staging list, evicted from it, or in the hands of a task. -/
  balance : (log.flatMap fun event =>
      reported context (tasks event.call.1) (bare event)).Perm
    ((log.filterMap (fun event => takenSignal (bare event)) ++
          shared.signals).filterMap SignalEvent.localCandidate? ++
        shared.stagedCandidates ++
        log.flatMap (fun event => evicted (bare event)) ++
      (callers log).flatMap fun caller =>
        held context (tasks caller) (own caller log))
  /-- A task puts down what it has picked up before it ends. -/
  finished : ∀ caller result, pool caller = .done result →
    held context (tasks caller) (own caller log) = []
  /-- A task has candidates in its hands only while it signs, queues or stages
  the first of them. -/
  handles : ∀ caller operation resume, pool caller = .perform operation resume →
    Handles (tasks caller) (held context (tasks caller) (own caller log))
      operation
  /-- At rest no candidate is in the hands of a task. -/
  at_rest : AtRest tasks log pool →
    (log.flatMap fun event =>
        reported context (tasks event.call.1) (bare event)).Perm
      ((log.filterMap (fun event => takenSignal (bare event)) ++
            shared.signals).filterMap SignalEvent.localCandidate? ++
          shared.stagedCandidates ++
        log.flatMap fun event => evicted (bare event))
  /-- A candidate is evicted only as the oldest of 64. -/
  oldest : ∀ before caller sequence candidate old after,
    log = before ++ ⟨(caller, .stage sequence candidate), some old⟩ :: after →
    ∃ rest, before.flatMap (fun event => staged (bare event)) =
        before.flatMap (fun event =>
          unstaged (bare event) ++ evicted (bare event)) ++ old :: rest ∧
      (old :: rest).length = maxStagedLocalCandidates

/-- What the tasks pick up they put down or have in their hands. -/
theorem acquired_perm
    (run : Trace (PoolStep (Step context.primitives))
      (launch context tasks connection) log current) :
    (log.flatMap fun event =>
        acquired context (tasks event.call.1) (bare event)).Perm
      ((log.flatMap fun event => released (bare event)) ++
        (callers log).flatMap fun caller =>
          held context (tasks caller) (own caller log)) := by
  refine @flatMap_perm_of_own _ _ _ _ _ _
    (fun caller => acquired context (tasks caller)) (fun _ => released)
    (fun caller => held context (tasks caller) (own caller log)) log
    fun caller => ?_
  have holding := @holding_held _ _ _ _ _ _ _ caller run
  unfold Holding at holding
  rw [holding]

/-- Where candidates find room in the queue, none is lost but by eviction. -/
theorem reported_perm
    (run : Guarded (PoolStep (Step context.primitives)) (fun _ => Roomy)
      (launch context tasks connection) log current) :
    (log.flatMap fun event =>
        reported context (tasks event.call.1) (bare event)).Perm
      ((log.filterMap (fun event => takenSignal (bare event)) ++
            current.2.signals).filterMap SignalEvent.localCandidate? ++
          current.2.stagedCandidates ++
          log.flatMap (fun event => evicted (bare event)) ++
        (callers log).flatMap fun caller =>
          held context (tasks caller) (own caller log)) := by
  refine List.perm_iff_count.mpr fun candidate => ?_
  have moved := List.perm_iff_count.mp (acquired_perm run.trace) candidate
  have staging := congrArg (List.count candidate)
    (staged_eq_removed_append run.trace)
  have sending := congrArg (List.count candidate) (offered_eq_sent run)
  rw [sent_eq_taken_append run.trace] at sending
  unfold acquired released at moved
  rw [List.count_append, count_flatMap_append, count_flatMap_append] at moved
  rw [List.count_append, count_flatMap_append] at staging
  rw [List.count_append, List.count_append, List.count_append]
  omega

/-- Only a full staging list lets its oldest candidate go. -/
theorem oldest_of_evicted
    {caller : ι}
    {sequence : UInt32}
    {candidate : List UInt8}
    {old : LocalCandidate}
    (run : Trace (PoolStep (Step context.primitives))
      (launch context tasks connection)
      (before ++ ⟨(caller, .stage sequence candidate), some old⟩ :: after)
      current) :
    ∃ rest, before.flatMap (fun event => staged (bare event)) =
        before.flatMap (fun event =>
          unstaged (bare event) ++ evicted (bare event)) ++ old :: rest ∧
      (old :: rest).length = maxStagedLocalCandidates := by
  obtain ⟨state, next, first, moved, -⟩ := run.exists_of_cons
  have staging := staged_eq_removed_append first
  cases moved with
  | answered waits taken =>
      obtain ⟨engine, responded⟩ := taken
      rw [respond] at responded
      dsimp only at staging
      split at responded
      case isTrue full =>
        obtain ⟨head, -⟩ := Prod.ext_iff.mp (Option.some.inj responded)
        obtain ⟨rest, list_eq⟩ := List.head?_eq_some_iff.mp head
        rw [list_eq] at staging full
        exact ⟨rest, staging, full⟩
      case isFalse => cases responded

/-- Candidates are conserved: in every run in which candidates find room in the
queue of signals, the candidates that the engine has reported are those in signals
that were taken or are queued, those in the staging list, those evicted from it as
the oldest of 64, and those in the hands of a task that is about to sign, queue or
stage them. -/
theorem candidates_conserved
    {pool : ι → Async Returned}
    {shared : Shared}
    (run : Guarded (PoolStep (Step context.primitives)) (fun _ => Roomy)
      (launch context tasks connection) log (pool, shared)) :
    Conserved context tasks log pool shared := by
  constructor
  case balance => exact reported_perm run
  case finished => exact fun caller result => held_of_finished run.trace
  case handles =>
    exact fun caller operation resume => handles_held run.trace
  case at_rest =>
    intro rest
    have balance := reported_perm run
    rwa [List.flatMap_eq_nil_iff.mpr fun caller _ =>
      held_of_atRest run.trace rest, List.append_nil] at balance
  case oldest =>
    rintro before caller sequence candidate old after rfl
    exact oldest_of_evicted run.trace

end Runs

/-! ## Samples -/

/-- An offer and as many candidates as there are numbers. -/
def flood : Nat → Task
  | 0 => .beginOffer
  | _ + 1 => .onIceCandidate (some ⟨"c"⟩)

/-- A session that has offered, whose engine has reported some candidates, and
whose application takes no signals. -/
structure Backlog
    (count : Nat)
    (log : List (PoolEvent Nat Operation Operation.Reply))
    (pool : Nat → Async Returned)
    (shared : Shared) : Prop where
  run : Trace (PoolStep (Step .sample)) (launch .sample flood (.sample 0 1)) log
    (pool, shared)
  connection_eq : shared.connection = offeringSample
  staged_eq : shared.stagedCandidates = []
  taken_eq : (log.filterMap fun event =>
    takenSignal (bare event)).filterMap SignalEvent.localCandidate? = []
  reported_eq : (log.flatMap fun event =>
    reported .sample (flood event.call.1) (bare event)).length = count
  evicted_eq : log.flatMap (fun event => evicted (bare event)) = []
  finished : ∀ caller, caller ≤ count → ∃ result, pool caller = .done result
  callers : ∀ event ∈ log, event.call.1 ≤ count

section Backlog

variable {count : Nat}
variable {log : List (PoolEvent Nat Operation Operation.Reply)}
variable {pool : Nat → Async Returned}
variable {shared : Shared}

theorem Backlog.own_eq_nil
    {caller : Nat}
    (backlog : Backlog count log pool shared)
    (later : count < caller) :
    own caller log = [] := by
  refine Reactive.own_eq_nil fun event mem same => ?_
  exact Nat.not_lt.mpr (backlog.callers event mem) (same ▸ later)

theorem Backlog.atRest (backlog : Backlog count log pool shared) :
    AtRest flood log pool := by
  intro caller _
  rcases Nat.lt_or_ge count caller with later | earlier
  · exact .inl (backlog.own_eq_nil later)
  · exact .inr (backlog.finished caller earlier)

theorem backlog_zero :
    ∃ log pool shared, Backlog 0 log pool shared ∧ shared.signals = [] ∧
      Guarded (PoolStep (Step .sample)) (fun _ => Roomy)
        (launch .sample flood (.sample 0 1)) log (pool, shared) := by
  have offers : Connection.Transition .sample (Connection.sample 0 1)
      (.beginOffer (.sample 0) sampleBinding sampleDescription)
      [.openControlChannel, .send sampleOffer] offeringSample :=
    .beginOffer rfl rfl (by decide)
  have run : Guarded (PoolStep (Step .sample)) (fun _ => Roomy)
      (launch .sample flood (.sample 0 1)) []
      ((launch .sample flood (.sample 0 1)).1, .new (.sample 0 1)) := .start
  have run := guarded_next_of_respond (.sample none) run 0 rfl rfl nofun
  have run := guarded_next_of_respond (.sample none) run 0 rfl rfl nofun
  have run := guarded_next_of_respond (.sample none) run 0 rfl rfl nofun
  have run := guarded_next_of_respond (.sample none) run 0 rfl rfl nofun
  have run := guarded_next_of_respond (.sample none) run 0 rfl rfl nofun
  have run := guarded_next_of_respond (.sample none) run 0 rfl rfl nofun
  have run := guarded_next_of_respond (.sample none) run 0
    (respond_connection offers) rfl nofun
  have run := guarded_next_of_respond (.sample none) run 0 rfl rfl
    fun _ _ _ => by decide
  have run := guarded_next_of_respond (.sample none) run 0 rfl rfl nofun
  have run := guarded_next_of_respond (.sample none) run 0 rfl rfl nofun
  have run := guarded_next_of_respond (.sample none) run 0 rfl rfl nofun
  refine ⟨_, _, _, ⟨run.trace, rfl, rfl, rfl, rfl, rfl, ?_, ?_⟩, rfl, run⟩
  · intro caller first
    rw [Nat.le_zero.mp first]
    exact ⟨.signal (.ok ⟨sampleOffer⟩), rfl⟩
  · intro event mem
    simp only [List.mem_append, List.mem_singleton, List.not_mem_nil,
      false_or] at mem
    rcases mem with
      ((((((((((rfl | rfl) | rfl) | rfl) | rfl) | rfl) | rfl) | rfl) | rfl) |
        rfl) | rfl) <;> exact Nat.le_refl 0

/-- The next callback signs its candidate and offers it to the queue, which may
have room for it. -/
theorem Backlog.exists_next (backlog : Backlog count log pool shared) :
    ∃ envelope : Envelope,
      SignalEvent.localCandidate? ⟨envelope⟩ =
        some (shared.candidateSequence, asBytes "c") ∧
      ∀ sent later,
        respond .sample (.sample none)
            { shared with candidateSequence := shared.candidateSequence + 1 }
            (.trySendSignal ⟨envelope⟩) = some (sent, later) →
        later.connection = offeringSample →
        later.stagedCandidates = [] →
        ∃ later_log later_pool,
          Backlog (count + 1) later_log later_pool later ∧
          (Guarded (PoolStep (Step .sample)) (fun _ => Roomy)
              (launch .sample flood (.sample 0 1)) log (pool, shared) →
            shared.signals.length < signalEventCapacity →
            Guarded (PoolStep (Step .sample)) (fun _ => Roomy)
              (launch .sample flood (.sample 0 1)) later_log
              (later_pool, later)) := by
  have signs := signs_candidateSample shared.candidateSequence
  refine ⟨candidateSample shared.candidateSequence, rfl,
    fun sent later queued connection_eq staged_eq => ?_⟩
  have waits : pool (count + 1) = (flood (count + 1)).program .sample :=
    Run.eq_of_own_eq_nil backlog.run
      (backlog.own_eq_nil (Nat.lt_succ_self count))
  have run := next_of_respond (.sample none) backlog.run (count + 1) rfl waits
  have run := next_of_respond (.sample none) run (count + 1)
    (respond_connection (backlog.connection_eq ▸ signs))
    (Function.update_self _ _ _)
  have run := next_of_respond (.sample none) run (count + 1) queued
    (Function.update_self _ _ _)
  refine ⟨_, _, ⟨run, connection_eq, staged_eq, ?_, ?_, ?_, ?_, ?_⟩,
    fun guarded room => ?_⟩
  · simp only [List.filterMap_append]
    rw [backlog.taken_eq]
    rfl
  · simp only [List.flatMap_append, List.flatMap_singleton, List.length_append]
    rw [backlog.reported_eq]
    rfl
  · simp only [List.flatMap_append, List.flatMap_singleton]
    rw [backlog.evicted_eq]
    rfl
  · intro caller earlier
    by_cases same : caller = count + 1
    · rw [same, Function.update_self]
      exact ⟨.nothing, rfl⟩
    · rw [Function.update_of_ne same, Function.update_of_ne same,
        Function.update_of_ne same]
      exact backlog.finished caller (by omega)
  · intro event mem
    simp only [List.mem_append, List.mem_singleton] at mem
    rcases mem with ((mem | rfl) | rfl) | rfl
    · exact Nat.le_succ_of_le (backlog.callers event mem)
    · exact Nat.le_refl _
    · exact Nat.le_refl _
    · exact Nat.le_refl _
  · have run := guarded_next_of_respond (.sample none) guarded (count + 1) rfl
      waits nofun
    have run := guarded_next_of_respond (.sample none) run (count + 1)
      (respond_connection (backlog.connection_eq ▸ signs))
      (Function.update_self _ _ _) nofun
    exact guarded_next_of_respond (.sample none) run (count + 1) queued
      (Function.update_self _ _ _) fun _ _ _ => room

/-- The queue takes as many candidates as it has room for. -/
theorem exists_backlog (fits : count ≤ signalEventCapacity) :
    ∃ log pool shared, Backlog count log pool shared ∧
      shared.signals.length = count ∧
      (shared.signals.filterMap SignalEvent.localCandidate?).length = count ∧
      Guarded (PoolStep (Step .sample)) (fun _ => Roomy)
        (launch .sample flood (.sample 0 1)) log (pool, shared) := by
  induction count with
  | zero =>
      obtain ⟨log, pool, shared, backlog, empty, guarded⟩ := backlog_zero
      refine ⟨log, pool, shared, backlog, ?_, ?_, guarded⟩
      · rw [empty]
        rfl
      · rw [empty]
        rfl
  | succ count inductionHypothesis =>
      obtain ⟨log, pool, shared, backlog, length_eq, carried, guarded⟩ :=
        inductionHypothesis (Nat.le_of_succ_le fits)
      obtain ⟨envelope, carries, next⟩ := backlog.exists_next
      have room : shared.signals.length < signalEventCapacity := by
        rw [length_eq]
        exact fits
      obtain ⟨log, pool, backlog, fills⟩ := next true _ (if_pos room)
        backlog.connection_eq backlog.staged_eq
      refine ⟨log, pool, _, backlog, ?_, ?_, fills guarded room⟩
      · rw [List.length_append, length_eq]
        rfl
      · rw [filterMap_concat, List.length_append, carried, carries]
        rfl

/-- A session that has offered and whose queue takes three candidates. -/
theorem candidates_conserved_queued :
    ∃ log pool shared,
      Guarded (PoolStep (Step SessionContext.sample.primitives))
        (fun _ => Roomy) (launch .sample flood (.sample 0 1)) log
        (pool, shared) ∧
      (log.flatMap fun event => reported .sample (flood event.call.1)
        (bare event)).length = 3 ∧
      (shared.signals.filterMap SignalEvent.localCandidate?).length = 3 ∧
      Conserved .sample flood log pool shared := by
  obtain ⟨log, pool, shared, backlog, -, carried, run⟩ :=
    exists_backlog (by decide : 3 ≤ signalEventCapacity)
  exact ⟨log, pool, shared, run, backlog.reported_eq, carried,
    @candidates_conserved _ _ .sample flood _ _ _ _ run⟩

/-- An application that takes no signals loses the candidate that does not fit
into the queue, although the staging list is empty. -/
theorem full_queue_loses_candidate :
    ∃ log pool shared,
      Trace (PoolStep (Step SessionContext.sample.primitives))
        (launch .sample flood (.sample 0 1)) log (pool, shared) ∧
      AtRest flood log pool ∧
      shared.connection.phase = .offerSent ∧
      (log.flatMap fun event => reported .sample (flood event.call.1)
        (bare event)).length = 129 ∧
      ((log.filterMap (fun event => takenSignal (bare event)) ++
        shared.signals).filterMap SignalEvent.localCandidate?).length = 128 ∧
      shared.stagedCandidates = [] ∧
      log.flatMap (fun event => evicted (bare event)) = [] := by
  obtain ⟨log, pool, shared, backlog, length_eq, carried, -⟩ :=
    exists_backlog (Nat.le_refl signalEventCapacity)
  obtain ⟨envelope, -, next⟩ := backlog.exists_next
  have full : ¬shared.signals.length < signalEventCapacity := by
    rw [length_eq]
    exact Nat.lt_irrefl _
  obtain ⟨log, pool, backlog, -⟩ := next false _ (if_neg full)
    backlog.connection_eq backlog.staged_eq
  refine ⟨log, pool, _, backlog.run, backlog.atRest, ?_, backlog.reported_eq, ?_,
    backlog.staged_eq, backlog.evicted_eq⟩
  · rw [backlog.connection_eq]
    rfl
  · rw [List.filterMap_append, backlog.taken_eq, List.nil_append]
    exact carried

end Backlog

end Webrtc
end Fcp
