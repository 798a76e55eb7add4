import Fcp.Webrtc.Termination

/-!
# Descriptions and candidates in the queue of signals

An offer and an answer are pushed onto the queue that the candidates share, and
the head of the queue is returned.  The two calls hold the session exclusively,
so the head is their own description whenever the queue was empty before it.
-/

namespace Fcp
namespace Webrtc

open Core Reactive Rust Transport

/-! ## The queue -/

/-- The signal that an operation puts into the queue. -/
def sentSignal : Event Operation Operation.Reply → Option SignalEvent
  | ⟨.trySendSignal signal, true⟩ => some signal
  | ⟨.sendSignal signal, true⟩ => some signal
  | _ => none

/-- The signal that an operation takes out of the queue. -/
def takenSignal : Event Operation Operation.Reply → Option SignalEvent
  | ⟨.tryRecvSignal, signal⟩ => signal
  | _ => none

section Steps

variable {primitives : Primitives}
variable {shared later : Shared}
variable {operation : Operation}
variable {reply : operation.Reply}

/-- Signals enter the queue at its end and leave it at its head. -/
theorem Step.signals
    (step : Step primitives shared operation reply later) :
    shared.signals ++ (sentSignal ⟨operation, reply⟩).toList =
      (takenSignal ⟨operation, reply⟩).toList ++ later.signals := by
  obtain ⟨engine, responded⟩ := step
  cases operation with
  | trySendSignal signal =>
      rw [respond] at responded
      split at responded
      · cases responded
        rfl
      · cases responded
        exact List.append_nil _
  | sendSignal signal =>
      rw [respond] at responded
      split at responded
      · cases responded
        rfl
      · cases responded
  | tryRecvSignal =>
      cases responded
      cases shared.signals with
      | nil => rfl
      | cons first rest => exact List.append_nil _
  | sendEvent | stage | exchangeTerminal | pickUp =>
      rw [respond] at responded
      split at responded <;> cases responded <;> exact List.append_nil _
  | _ =>
      cases responded
      exact List.append_nil _

/-- A connection that is idle after an operation was idle before it, and has
returned no action. -/
theorem Step.idle
    (step : Step primitives shared operation reply later)
    (idle : later.connection.phase = .idle) :
    shared.connection.phase = .idle ∧
      actionsOf ⟨operation, reply⟩ = [] := by
  rcases step.transition with ⟨kept, none⟩ | ⟨inner, -, transition⟩
  · rw [kept] at idle
    exact ⟨idle, none⟩
  · generalize actionsOf ⟨operation, reply⟩ = actions at transition ⊢
    generalize later.connection = after at transition idle
    cases transition with
    | duplicate => exact ⟨idle, rfl⟩
    | candidate signer_eq live =>
        rw [idle] at live
        exact absurd live (by decide)
    | cfrControl signer_eq phase_eq =>
        rw [phase_eq] at idle
        cases idle
    | @receive envelope _ _ admitted fresh reacts =>
        generalize envelope.body = body at reacts
        cases reacts with
        | candidate allowed =>
            have live := allowed.1
            rw [show shared.connection.phase = .idle from idle] at live
            exact absurd live (by decide)
        | cfrControl phase_eq =>
            rw [show shared.connection.phase = .idle from idle] at phase_eq
            cases phase_eq
        | _ => cases idle
    | _ => cases idle

end Steps

/-! ## Whole runs -/

/-- Calls that borrow the session exclusively do not overlap. -/
def Borrowed
    {ι : Type}
    [DecidableEq ι]
    (tasks : ι → Task)
    (log : List (PoolEvent ι Operation Operation.Reply))
    (current : (ι → Async Returned) × Shared)
    (call : ι × Operation) : Prop :=
  (tasks call.1).isExclusive = true → ∀ other, other ≠ call.1 →
    (tasks other).isExclusive = true →
      own other log = [] ∨ ∃ result, current.1 other = .done result

/-- A description is pushed onto an empty queue. -/
def Unqueued
    {ι : Type}
    (current : (ι → Async Returned) × Shared)
    (call : ι × Operation) : Prop :=
  ∀ signal, call.2 = .trySendSignal signal → signal.isCandidate = false →
    current.2.signals = []

/-- The steps that keep the descriptions before the candidates. -/
def DescriptionsFirst
    {ι : Type}
    [DecidableEq ι]
    (tasks : ι → Task)
    (log : List (PoolEvent ι Operation Operation.Reply))
    (current : (ι → Async Returned) × Shared)
    (call : ι × Operation) : Prop :=
  Borrowed tasks log current call ∧ Unqueued current call

section Runs

variable {ι : Type} [DecidableEq ι]
variable {context : SessionContext}
variable {tasks : ι → Task}
variable {connection : Connection}
variable {log before after : List (PoolEvent ι Operation Operation.Reply)}
variable {current : (ι → Async Returned) × Shared}
variable {caller : ι}

/-- The queue holds what was sent and not yet taken. -/
theorem sent_eq_taken_append
    (run : Trace (PoolStep (Step context.primitives))
      (launch context tasks connection) log current) :
    log.filterMap (fun event => sentSignal (bare event)) =
      log.filterMap (fun event => takenSignal (bare event)) ++
        current.2.signals := by
  induction run with
  | start => rfl
  | next _ moved inductionHypothesis =>
      cases moved with
      | answered waits taken =>
          have queued := taken.signals
          rw [filterMap_concat, filterMap_concat, inductionHypothesis,
            List.append_assoc, List.append_assoc, queued]

/-- As long as a connection is idle it has returned no action. -/
theorem actionsOf_eq_nil_of_idle
    {event : PoolEvent ι Operation Operation.Reply}
    (run : Trace (PoolStep (Step context.primitives))
      (launch context tasks connection) log current)
    (idle : current.2.connection.phase = .idle)
    (mem : event ∈ log) :
    actionsOf (bare event) = [] := by
  induction run with
  | start => cases mem
  | next _ moved inductionHypothesis =>
      cases moved with
      | answered waits taken =>
          obtain ⟨idle, none⟩ := taken.idle idle
          rcases List.mem_append.mp mem with mem | mem
          · exact inductionHypothesis idle mem
          · cases List.mem_singleton.mp mem
            exact none

/-- As long as a connection is idle nothing is sent. -/
theorem sent_eq_nil_of_idle
    (run : Trace (PoolStep (Step context.primitives))
      (launch context tasks connection) log current)
    (idle : current.2.connection.phase = .idle) :
    log.filterMap (fun event => sentSignal (bare event)) = [] := by
  refine List.filterMap_eq_nil_iff.mpr fun event mem => ?_
  obtain ⟨before, after, rfl⟩ := List.append_of_mem mem
  have guaranteed := (conduct_of_event run).signals.2
  obtain ⟨⟨caller, operation⟩, reply⟩ := event
  cases operation with
  | trySendSignal signal =>
      obtain ⟨⟨cause, last, sends⟩, -⟩ := guaranteed
      have cause_mem := mem_own_iff.mp (List.mem_of_getLast? last)
      have none := actionsOf_eq_nil_of_idle run idle
        (List.mem_append_left _ cause_mem)
      rw [show actionsOf cause = [] from none] at sends
      cases sends
  | sendSignal signal => exact guaranteed.elim
  | _ => rfl

omit [DecidableEq ι] in
/-- The head of the queue stays there until it is taken. -/
theorem head_of_not_taken
    {primitives : Primitives}
    {shared later : Shared}
    {operation : Operation}
    {reply : operation.Reply}
    {signal : SignalEvent}
    (step : Step primitives shared operation reply later)
    (kept : operation ≠ .tryRecvSignal)
    (head : shared.signals.head? = some signal) :
    later.signals.head? = some signal := by
  have queued := step.signals
  have none_taken : takenSignal ⟨operation, reply⟩ = none := by
    cases operation with
    | tryRecvSignal => exact absurd rfl kept
    | _ => rfl
  rw [none_taken, Option.toList_none, List.nil_append] at queued
  rw [← queued, List.head?_append, head, Option.some_or]

/-- A pending description was queued by its task. -/
theorem mem_of_pending
    {history : List (Event Operation Operation.Reply)}
    {signal : SignalEvent}
    (waits : pending history = some signal) :
    ⟨.trySendSignal signal, true⟩ ∈ history ∧ signal.isCandidate = false := by
  induction history using List.reverseRecOn with
  | nil => cases waits
  | append_singleton history event inductionHypothesis =>
      rw [pending_concat] at waits
      unfold pendingAfter at waits
      split at waits
      · split at waits
        · obtain ⟨mem, description⟩ := inductionHypothesis waits
          exact ⟨List.mem_append_left _ mem, description⟩
        case isFalse description =>
          cases waits
          exact ⟨List.mem_concat_self, Bool.eq_false_iff.mpr description⟩
      · cases waits
      · obtain ⟨mem, description⟩ := inductionHypothesis waits
        exact ⟨List.mem_append_left _ mem, description⟩

/-- Only calls with an exclusive borrow queue descriptions. -/
theorem exclusive_of_pending
    {signal : SignalEvent}
    (run : Trace (PoolStep (Step context.primitives))
      (launch context tasks connection) log current)
    (waits : pending (own caller log) = some signal) :
    (tasks caller).isExclusive = true := by
  obtain ⟨mem, description⟩ := mem_of_pending waits
  obtain ⟨before, after, rfl⟩ := List.append_of_mem (mem_own_iff.mp mem)
  obtain ⟨-, -, candidate | exclusive⟩ := (conduct_of_event run).signals
  · rw [description] at candidate
    cases candidate
  · exact exclusive

/-- A description that a task has queued is at the head of the queue until the
task asks for it. -/
theorem head_eq_pending
    {signal : SignalEvent}
    (run : Guarded (PoolStep (Step context.primitives))
      (DescriptionsFirst tasks) (launch context tasks connection) log current)
    (unfinished : ∀ result, current.1 caller ≠ .done result)
    (waits : pending (own caller log) = some signal) :
    current.2.signals.head? = some signal := by
  induction run with
  | start => cases waits
  | @next log _ _ _ _ first meets moved inductionHypothesis =>
      cases moved with
      | @answered pool shared later other operation resume reply performs taken =>
          rw [own_append, own_singleton] at waits
          by_cases same : other = caller
          · subst same
            rw [if_pos rfl, pending_concat] at waits
            have earlier := inductionHypothesis fun result finished => by
              dsimp only at finished
              rw [performs] at finished
              cases finished
            cases operation with
            | tryRecvSignal => cases waits
            | trySendSignal sent =>
                cases reply with
                | false => exact head_of_not_taken taken (by rintro ⟨⟩) (earlier waits)
                | true =>
                    rw [pendingAfter] at waits
                    split at waits
                    · exact head_of_not_taken taken (by rintro ⟨⟩) (earlier waits)
                    case isFalse description =>
                      cases waits
                      have queued := taken.signals
                      rw [meets.2 signal rfl (Bool.eq_false_iff.mpr
                        description)] at queued
                      exact congrArg List.head? queued.symm
            | _ => exact head_of_not_taken taken (by rintro ⟨⟩) (earlier waits)
          · rw [if_neg same, List.append_nil] at waits
            dsimp only at unfinished
            rw [Function.update_of_ne (Ne.symm same)] at unfinished
            have head := inductionHypothesis unfinished waits
            by_cases takes : operation = .tryRecvSignal
            · subst takes
              have exclusive :=
                (conduct_of_waits first.trace performs).signals.2.1
              rcases meets.1 exclusive caller (Ne.symm same)
                (exclusive_of_pending first.trace waits) with
                  unstarted | ⟨result, finished⟩
              · rw [unstarted] at waits
                cases waits
              · exact absurd finished (unfinished result)
            · exact head_of_not_taken taken takes head

omit [DecidableEq ι] in
/-- The envelope that an offer sends carries it. -/
theorem body_of_beginOffer
    {signer : EndpointSigner}
    {binding : WebRtcBinding}
    {description : List UInt8}
    {actions : List Action}
    {envelope : Envelope}
    (answered : Answers context.primitives
      (.connection (.beginOffer signer binding description)) (.ok actions))
    (sends : .send envelope ∈ actions) :
    envelope.body = .offer binding description := by
  obtain ⟨signed, body_eq, rfl | rfl⟩ := answered.beginOffer
  · simp only [List.mem_cons, List.not_mem_nil, or_false, reduceCtorEq,
      false_or, Action.send.injEq] at sends
    rw [sends, body_eq]
  · cases List.mem_singleton.mp sends
    exact body_eq

theorem answers_of_mem
    {event : PoolEvent ι Operation Operation.Reply}
    (run : Trace (PoolStep (Step context.primitives))
      (launch context tasks connection) log current)
    (mem : event ∈ log) :
    Answers context.primitives event.call.2 event.reply := by
  obtain ⟨before, after, rfl⟩ := List.append_of_mem mem
  obtain ⟨_, _, -, moved, -⟩ := run.exists_of_cons
  obtain ⟨⟨caller, operation⟩, reply⟩ := event
  cases moved with
  | answered waits taken => exact ⟨_, _, taken⟩

/-- Until a signed offer is queued nothing leaves, and it is queued before all
other signals. -/
theorem offer_leads
    {signer : EndpointSigner}
    {binding : WebRtcBinding}
    {description : List UInt8}
    {actions : List Action}
    (run : Guarded (PoolStep (Step context.primitives))
      (DescriptionsFirst tasks) (launch context tasks connection) log current)
    (mem : ⟨(caller, .connection (.beginOffer signer binding description)),
      .ok actions⟩ ∈ log) :
    log.filterMap (fun event => takenSignal (bare event)) = [] ∧
        (own caller log).getLast? =
          some ⟨.connection (.beginOffer signer binding description),
            .ok actions⟩ ∨
      ∃ offer : SignalEvent,
        (log.filterMap fun event => sentSignal (bare event)).head? =
          some offer ∧
        .send offer.envelope ∈ actions := by
  induction run with
  | start => cases mem
  | @next log _ _ _ _ first meets moved inductionHypothesis =>
      cases moved with
      | @answered pool shared later other operation resume reply performs taken =>
          have queued := sent_eq_taken_append first.trace
          rw [filterMap_concat, filterMap_concat, own_append, own_singleton]
          rcases List.mem_append.mp mem with offered | mem
          · rcases inductionHypothesis offered with
              ⟨none_taken, last⟩ | ⟨offer, head, sends⟩
            · by_cases same : other = caller
              · subst same
                -- the offer is pushed onto the empty queue
                have guaranteed :=
                  (conduct_of_waits first.trace performs).signals
                obtain ⟨signal, rfl⟩ := guaranteed.1 ⟨_, _, _, _, last⟩
                obtain ⟨-, ⟨cause, cause_last, sends⟩, -⟩ := guaranteed
                rw [last] at cause_last
                cases cause_last
                have answered : Answers context.primitives
                    (.connection (.beginOffer signer binding description))
                    (.ok actions) := answers_of_mem first.trace offered
                have body_eq := body_of_beginOffer answered sends
                have empty : shared.signals = [] := meets.2 signal rfl (by
                  rw [SignalEvent.isCandidate, body_eq])
                have sent : sentSignal ⟨.trySendSignal signal, reply⟩ =
                    some signal := by
                  obtain ⟨engine, responded⟩ := taken
                  rw [respond, empty, if_pos (by decide)] at responded
                  cases responded
                  rfl
                refine .inr ⟨signal, ?_, sends⟩
                rw [queued, none_taken]
                dsimp only
                rw [empty, sent]
                rfl
              · left
                rw [if_neg same, List.append_nil, none_taken]
                refine ⟨?_, last⟩
                by_cases takes : operation = .tryRecvSignal
                · subst takes
                  have exclusive :=
                    (conduct_of_waits first.trace performs).signals.2.1
                  have offers : tasks caller = .beginOffer := by
                    obtain ⟨before, after, rfl⟩ := List.append_of_mem offered
                    exact (conduct_of_event first.trace).signals.2
                  rcases meets.1 exclusive caller (Ne.symm same)
                    (by rw [offers]; rfl) with unstarted | ⟨result, finished⟩
                  · rw [unstarted] at last
                    cases last
                  · have settled := (achieves_of_finished first.trace finished).1
                    exact absurd ⟨_, _, _, _, last⟩ settled.quiet.not_owes
                · cases operation with
                  | tryRecvSignal => exact absurd rfl takes
                  | _ => rfl
            · right
              refine ⟨offer, ?_, sends⟩
              rw [List.head?_append, head, Option.some_or]
          · left
            cases List.mem_singleton.mp mem
            have transition := taken.transition_of_ok
            have idle : shared.connection.phase = .idle := by
              generalize later.connection = after at transition
              cases transition with
              | beginOffer signer_eq phase_eq bounded => exact phase_eq
            have unsent := sent_eq_nil_of_idle first.trace idle
            rw [unsent] at queued
            rw [if_pos rfl, List.getLast?_concat]
            refine ⟨?_, rfl⟩
            rw [(List.append_eq_nil_iff.mp queued.symm).1]
            rfl

/-- What a task that asks for a signal gets, once it has queued a
description. -/
theorem eq_of_took
    {signal : SignalEvent}
    (run : Guarded (PoolStep (Step context.primitives))
      (DescriptionsFirst tasks) (launch context tasks connection) log current)
    (describes : tasks caller = .beginOffer ∨ tasks caller = .answer)
    (took : Took (own caller log) signal) :
    Signed context (own caller log) signal (tasks caller) := by
  obtain ⟨own_before, own_after, own_eq⟩ := took
  obtain ⟨before, after, rfl, rfl, -⟩ := exists_of_own_eq own_eq
  obtain ⟨state, next, first, -, moved, -⟩ := run.exists_of_cons
  cases moved with
  | @answered pool shared later _ _ resume _ performs taken =>
      obtain ⟨-, -, takes | ⟨queued, waits, signed⟩⟩ :=
        (conduct_of_waits first.trace performs).signals
      · rw [takes] at describes
        rcases describes with describes | describes <;> cases describes
      · have head := head_eq_pending first (fun result finished => by
          dsimp only at finished
          rw [performs] at finished
          cases finished) waits
        have same : queued = signal := by
          obtain ⟨engine, responded⟩ := taken
          rw [respond] at responded
          obtain ⟨replied, -⟩ := Prod.ext_iff.mp (Option.some.inj responded)
          exact Option.some.inj (head.symm.trans replied)
        subst same
        rw [own_eq]
        exact signed.of_prefix (List.prefix_append _ _)

/-- Descriptions come before candidates: what an offer and an answer return, and
what leaves a session first. -/
structure InSequence
    (context : SessionContext)
    (tasks : ι → Task)
    (log : List (PoolEvent ι Operation Operation.Reply))
    (pool : ι → Async Returned) : Prop where
  offer_returned : ∀ caller signal, tasks caller = .beginOffer →
    pool caller = .done (.signal (.ok signal)) →
    ∃ binding description actions,
      ⟨(caller, .connection (.beginOffer context.signer binding description)),
        .ok actions⟩ ∈ log ∧
      .send signal.envelope ∈ actions ∧
      signal.envelope.body = .offer binding description
  answer_returned : ∀ caller signal, tasks caller = .answer →
    pool caller = .done (.signal (.ok signal)) →
    ∃ offerId binding description actions,
      ⟨(caller, .connection (.answer context.signer binding description)),
        .ok actions⟩ ∈ log ∧
      .send signal.envelope ∈ actions ∧
      signal.envelope.body = .answer offerId binding description
  offer_first : ∀ caller signer binding description actions,
    ⟨(caller, .connection (.beginOffer signer binding description)),
      .ok actions⟩ ∈ log →
    ∀ signal rest,
      log.filterMap (fun event => takenSignal (bare event)) = signal :: rest →
      .send signal.envelope ∈ actions ∧
        signal.envelope.body = .offer binding description

/-- Descriptions are returned and leave first: in every run in which no two
exclusive calls overlap and every description is pushed onto an empty queue, an
offer returns the offer that it has signed, an answer its answer, and the first
signal to leave an initiator is its offer. -/
theorem descriptions_lead
    {pool : ι → Async Returned}
    {shared : Shared}
    (run : Guarded (PoolStep (Step context.primitives))
      (DescriptionsFirst tasks) (launch context tasks connection) log
      (pool, shared)) :
    InSequence context tasks log pool := by
  constructor
  case offer_returned =>
    intro caller signal task_eq finished
    have achieved := (achieves_of_finished run.trace finished).2
    rw [task_eq] at achieved
    have took := achieved signal rfl
    have signed := eq_of_took run (.inl task_eq) took
    rw [task_eq] at signed
    obtain ⟨binding, description, actions, mem, sends, body_eq⟩ := signed
    exact ⟨binding, description, actions, mem_own_iff.mp mem, sends, body_eq⟩
  case answer_returned =>
    intro caller signal task_eq finished
    have achieved := (achieves_of_finished run.trace finished).2
    rw [task_eq] at achieved
    have took := achieved signal rfl
    have signed := eq_of_took run (.inr task_eq) took
    rw [task_eq] at signed
    obtain ⟨offerId, binding, description, actions, mem, sends, body_eq⟩ :=
      signed
    exact ⟨offerId, binding, description, actions, mem_own_iff.mp mem, sends,
      body_eq⟩
  case offer_first =>
    intro caller signer binding description actions mem signal rest taken_eq
    rcases offer_leads run mem with ⟨none_taken, -⟩ | ⟨offer, head, sends⟩
    · rw [none_taken] at taken_eq
      cases taken_eq
    · rw [sent_eq_taken_append run.trace, taken_eq] at head
      cases head
      have answered : Answers context.primitives
          (.connection (.beginOffer signer binding description))
          (.ok actions) := answers_of_mem run.trace mem
      exact ⟨sends, body_of_beginOffer answered sends⟩

end Runs

/-! ## Samples -/

/-- A candidate that the sample session signs after its offer. -/
def candidateSample (sequence : UInt32) : Envelope :=
  offeringSample.outbound (.sample 0)
    (.candidate (sampleOffer.digest .sample) sequence (asBytes "c"))

theorem signs_candidateSample (sequence : UInt32) :
    Connection.Transition .sample offeringSample
      (.candidate (.sample 0) sequence (asBytes "c"))
      [.send (candidateSample sequence)] offeringSample := by
  have bounded : (asBytes "c").length ≤ maxCandidateBytes := by decide
  exact @Connection.Transition.candidate .sample offeringSample (.sample 0)
    sequence (asBytes "c") _ rfl (by decide) rfl bounded

/-- Tasks of an initiator whose engine reports a candidate. -/
def offeringTasks : Bool → Task
  | false => .beginOffer
  | true => .onIceCandidate (some ⟨"c"⟩)

/-- A single task that borrows the session exclusively overlaps with no other. -/
theorem borrowed_of_unique
    {ι : Type}
    [DecidableEq ι]
    {tasks : ι → Task}
    {owner : ι}
    (unique : ∀ task, (tasks task).isExclusive = true → task = owner)
    (log : List (PoolEvent ι Operation Operation.Reply))
    (current : (ι → Async Returned) × Shared)
    (call : ι × Operation) :
    Borrowed tasks log current call := by
  intro exclusive other different otherExclusive
  exact absurd ((unique other otherExclusive).trans
    (unique call.1 exclusive).symm) different

/-- An offer is returned although a candidate was staged before it, and the
candidate follows it. -/
theorem descriptions_lead_flushed :
    ∃ log pool state,
      Guarded (PoolStep (Step SessionContext.sample.primitives))
        (DescriptionsFirst offeringTasks)
        (launch .sample offeringTasks (.sample 0 1)) log (pool, state) ∧
      pool false = .done (.signal (.ok ⟨sampleOffer⟩)) ∧
      pool true = .done .nothing ∧
      state.signals = [⟨candidateSample 0⟩] ∧
      InSequence .sample offeringTasks log pool := by
  have free := @borrowed_of_unique _ _ offeringTasks false (by decide)
  have offers : Connection.Transition .sample (Connection.sample 0 1)
      (.beginOffer (.sample 0) sampleBinding sampleDescription)
      [.openControlChannel, .send sampleOffer] offeringSample :=
    .beginOffer rfl rfl (by decide)
  obtain ⟨error, refused⟩ : ∃ error, Core.Operation.perform .sample
      (.sample 0 1) (.candidate (.sample 0) 0 (asBytes "c")) =
        (.error error, .sample 0 1) := by
    refine Connection.exists_error_of_not_transition fun _ _ transition => ?_
    cases transition with
    | candidate signer_eq live => exact absurd live (by decide)
  have run : Guarded (PoolStep (Step .sample)) (DescriptionsFirst offeringTasks)
      (launch .sample offeringTasks (.sample 0 1)) []
      ((launch .sample offeringTasks (.sample 0 1)).1,
        .new (.sample 0 1)) := .start
  -- the callback finds the connection idle
  have run := guarded_next_of_respond (.sample none) run true rfl rfl
    ⟨free _ _ _, nofun⟩
  have run := guarded_next_of_respond (.sample none) run true
    (respond_refused refused) rfl ⟨free _ _ _, nofun⟩
  have run := guarded_next_of_respond (.sample none) run true rfl rfl
    ⟨free _ _ _, nofun⟩
  -- the offer is made and queued
  have run := guarded_next_of_respond (.sample none) run false rfl rfl
    ⟨free _ _ _, nofun⟩
  have run := guarded_next_of_respond (.sample none) run false rfl rfl
    ⟨free _ _ _, nofun⟩
  have run := guarded_next_of_respond (.sample none) run false rfl rfl
    ⟨free _ _ _, nofun⟩
  have run := guarded_next_of_respond (.sample none) run false rfl rfl
    ⟨free _ _ _, nofun⟩
  have run := guarded_next_of_respond (.sample none) run false rfl rfl
    ⟨free _ _ _, nofun⟩
  have run := guarded_next_of_respond (.sample none) run false rfl rfl
    ⟨free _ _ _, nofun⟩
  have run := guarded_next_of_respond (.sample none) run false
    (respond_connection offers) rfl ⟨free _ _ _, nofun⟩
  have run := guarded_next_of_respond (.sample none) run false rfl rfl
    ⟨free _ _ _, fun _ _ _ => rfl⟩
  -- the staged candidate is flushed
  have run := guarded_next_of_respond (.sample none) run false rfl rfl
    ⟨free _ _ _, nofun⟩
  have run := guarded_next_of_respond (.sample none) run false
    (respond_connection (signs_candidateSample 0)) rfl ⟨free _ _ _, nofun⟩
  have run := guarded_next_of_respond (.sample none) run false rfl rfl
    ⟨free _ _ _, fun _ same description => by
      cases same
      cases description⟩
  have run := guarded_next_of_respond (.sample none) run false rfl rfl
    ⟨free _ _ _, nofun⟩
  have run := guarded_next_of_respond (.sample none) run false rfl rfl
    ⟨free _ _ _, nofun⟩
  exact ⟨_, _, _, run, rfl, rfl, rfl,
    @descriptions_lead _ _ .sample offeringTasks _ _ _ _ run⟩

/-- The body with which the remote peer offers. -/
def offerBody : Body :=
  .offer sampleBinding sampleDescription

/-- Tasks of a responder whose engine reports a candidate. -/
def answeringTasks : Fin 3 → Task
  | 0 => .acceptSignal (remoteWire offerBody)
  | 1 => .answer
  | 2 => .onIceCandidate (some ⟨"c"⟩)

/-- The connection after the remote offer. -/
def offeredSample : Connection :=
  { Connection.sample 0 1 with
    negotiation := some ⟨(remoteSample offerBody).digest .sample, none⟩
    phase := .offerReceived
    seen := [(remoteSample offerBody).digest .sample] }

/-- A candidate that the engine reports while an answer is being made is
returned in its place. -/
theorem answer_returns_candidate :
    ∃ log pool state signal,
      Guarded (PoolStep (Step SessionContext.sample.primitives))
        (Borrowed answeringTasks)
        (launch .sample answeringTasks (.sample 0 1)) log (pool, state) ∧
      answeringTasks 1 = .answer ∧
      pool 1 = .done (.signal (.ok signal)) ∧
      signal.isCandidate = true := by
  have free := @borrowed_of_unique _ _ answeringTasks 1 (by decide)
  have bounded : offerBody.WithinBounds := by decide
  have receives : Connection.Transition .sample (Connection.sample 0 1)
      (.receive (remoteSample offerBody))
      [.applyOffer sampleBinding sampleDescription] offeredSample :=
    @Connection.Transition.receive .sample (Connection.sample 0 1)
      (remoteSample offerBody) _ _ (remoteSample_admitted bounded rfl)
      List.not_mem_nil (.offer rfl)
  have signs : Connection.Transition .sample offeredSample
      (.candidate (.sample 0) 0 (asBytes "c")) _ offeredSample :=
    .candidate rfl (by decide) rfl (by decide)
  have answers : Connection.Transition .sample offeredSample
      (.answer (.sample 0) sampleBinding sampleDescription) _ _ :=
    .answer rfl rfl rfl (by decide)
  obtain ⟨resume, program_eq, resumed⟩ := program_acceptSignal bounded
  have run : Guarded (PoolStep (Step .sample)) (Borrowed answeringTasks)
      (launch .sample answeringTasks (.sample 0 1)) []
      ((launch .sample answeringTasks (.sample 0 1)).1,
        .new (.sample 0 1)) := .start
  have run := guarded_next_of_respond (.sample none) run 0
    (respond_connection receives) program_eq (free _ _ _)
  rw [resumed] at run
  have run := guarded_next_of_respond (.sample none) run 0 rfl rfl (free _ _ _)
  have run := guarded_next_of_respond (.sample none) run 1 rfl rfl (free _ _ _)
  have run := guarded_next_of_respond (.sample none) run 1 rfl rfl (free _ _ _)
  have run := guarded_next_of_respond (.sample none) run 2 rfl rfl (free _ _ _)
  have run := guarded_next_of_respond (.sample none) run 2
    (respond_connection signs) rfl (free _ _ _)
  have run := guarded_next_of_respond (.sample none) run 2 rfl rfl (free _ _ _)
  have run := guarded_next_of_respond (.sample none) run 1 rfl rfl (free _ _ _)
  have run := guarded_next_of_respond (.sample none) run 1
    (respond_connection answers) rfl (free _ _ _)
  have run := guarded_next_of_respond (.sample none) run 1 rfl rfl (free _ _ _)
  have run := guarded_next_of_respond (.sample none) run 1 rfl rfl (free _ _ _)
  have run := guarded_next_of_respond (.sample none) run 1 rfl rfl (free _ _ _)
  have run := guarded_next_of_respond (.sample none) run 1 rfl rfl (free _ _ _)
  exact ⟨_, _, _, _, run, rfl, rfl, rfl⟩

end Webrtc
end Fcp
