import Mathlib.Algebra.BigOperators.Group.Finset.Piecewise
import Mathlib.Algebra.GroupWithZero.Nat
import Mathlib.Algebra.Order.BigOperators.Group.Finset
import Mathlib.Logic.Function.Basic
import Fcp.Reactive.Trace

/-!
# Concurrent programs

A program performs calls one after the other and continues with their replies.
Programs of a pool take turns on a shared state.  What a program guarantees at
its calls is proved from its own events alone and then holds in every
interleaving.
-/

namespace Fcp
namespace Reactive

/-- A computation that waits for the reply to each of its calls.  It may also
stop without a result. -/
inductive Program (κ : Type) (Reply : κ → Type) (α : Type)
  | done (value : α)
  | crash
  | perform (call : κ) (resume : Reply call → Program κ Reply α)

namespace Program

variable {κ : Type} {Reply : κ → Type} {α β ε : Type}

/-- Continue with the result of a program. -/
def bind (next : α → Program κ Reply β) :
    Program κ Reply α → Program κ Reply β
  | done value => next value
  | crash => crash
  | perform call resume => perform call fun reply => bind next (resume reply)

instance : Monad (Program κ Reply) where
  pure := done
  bind program next := bind next program

theorem bind_done (program : Program κ Reply α) : bind done program = program := by
  induction program with
  | done value => rfl
  | crash => rfl
  | perform operation resume inductionHypothesis =>
      exact congrArg (perform operation) (funext inductionHypothesis)

theorem bind_bind
    {γ : Type}
    (program : Program κ Reply α)
    (next : α → Program κ Reply β)
    (last : β → Program κ Reply γ) :
    bind last (bind next program) =
      bind (fun value => bind last (next value)) program := by
  induction program with
  | done value => rfl
  | crash => rfl
  | perform operation resume inductionHypothesis =>
      exact congrArg (perform operation) (funext inductionHypothesis)

instance : LawfulMonad (Program κ Reply) :=
  LawfulMonad.mk' _ bind_done (fun _ _ => rfl) bind_bind

/-- The program of one call. -/
def call (operation : κ) : Program κ Reply (Reply operation) :=
  perform operation done

/-- A program that stops only with a result. -/
def Returns : Program κ Reply α → Prop
  | done _ => True
  | crash => False
  | perform _ resume => ∀ reply, (resume reply).Returns

theorem Returns.bind
    {program : Program κ Reply β}
    {next : β → Program κ Reply α}
    (first : program.Returns)
    (second : ∀ value, (next value).Returns) :
    (program >>= next).Returns := by
  induction program with
  | done value => exact second value
  | crash => exact first.elim
  | perform operation resume inductionHypothesis =>
      exact fun reply => inductionHypothesis reply (first reply)

/-- Every call of a program is of a kind, whatever the replies are. -/
def Performs (allowed : κ → Prop) : Program κ Reply α → Prop
  | done _ => True
  | crash => True
  | perform call resume =>
      allowed call ∧ ∀ reply, (resume reply).Performs allowed

theorem Performs.bind
    {allowed : κ → Prop}
    {program : Program κ Reply β}
    {next : β → Program κ Reply α}
    (first : program.Performs allowed)
    (second : ∀ value, (next value).Performs allowed) :
    (program >>= next).Performs allowed := by
  induction program with
  | done value => exact second value
  | crash => trivial
  | perform operation resume inductionHypothesis =>
      exact ⟨first.1, fun reply => inductionHypothesis reply (first.2 reply)⟩

theorem Performs.run_bind
    {allowed : κ → Prop}
    {program : ExceptT ε (Program κ Reply) β}
    {next : β → ExceptT ε (Program κ Reply) α}
    (first : program.run.Performs allowed)
    (second : ∀ value, (next value).run.Performs allowed) :
    (program >>= next).run.Performs allowed := by
  rw [ExceptT.run_bind]
  refine first.bind fun result => ?_
  cases result with
  | error error => trivial
  | ok value => exact second value

/-- A program that waits for a call of a kind. -/
def Awaits (expected : κ → Prop) : Program κ Reply α → Prop
  | done _ => False
  | crash => False
  | perform call _ => expected call

/-! ## What a program guarantees -/

/-- With replies that answer its calls, a program meets a guarantee at every
call and a condition when it is done, both about the events so far. -/
def Satisfies
    (answers : (call : κ) → Reply call → Prop)
    (guarantee : List (Event κ Reply) → κ → Prop)
    (ensures : List (Event κ Reply) → α → Prop) :
    Program κ Reply α → List (Event κ Reply) → Prop
  | done value, history => ensures history value
  | crash, _ => True
  | perform call resume, history =>
      guarantee history call ∧ ∀ reply, answers call reply →
        Satisfies answers guarantee ensures (resume reply)
          (history ++ [⟨call, reply⟩])

section Rules

variable {answers : (call : κ) → Reply call → Prop}
variable {guarantee : List (Event κ Reply) → κ → Prop}
variable {ensures : List (Event κ Reply) → α → Prop}
variable {history : List (Event κ Reply)}

@[simp] theorem satisfies_bind
    {program : Program κ Reply β}
    {next : β → Program κ Reply α} :
    Satisfies answers guarantee ensures (program >>= next) history ↔
      Satisfies answers guarantee
        (fun later value =>
          Satisfies answers guarantee ensures (next value) later)
        program history := by
  induction program generalizing history with
  | done value => exact Iff.rfl
  | crash => exact Iff.rfl
  | perform operation resume inductionHypothesis =>
      exact and_congr_right fun _ => forall_congr' fun reply =>
        imp_congr_right fun _ => inductionHypothesis reply

@[simp] theorem satisfies_map
    {program : Program κ Reply β}
    {change : β → α} :
    Satisfies answers guarantee ensures (change <$> program) history ↔
      Satisfies answers guarantee
        (fun later value => ensures later (change value)) program history :=
  satisfies_bind

/-- A weaker condition at the end. -/
theorem Satisfies.mono
    {weaker : List (Event κ Reply) → α → Prop}
    {program : Program κ Reply α}
    (satisfies : Satisfies answers guarantee ensures program history)
    (weakens : ∀ later value, ensures later value → weaker later value) :
    Satisfies answers guarantee weaker program history := by
  induction program generalizing history with
  | done value => exact weakens history value satisfies
  | crash => trivial
  | perform operation resume inductionHypothesis =>
      exact ⟨satisfies.1, fun reply answered =>
        inductionHypothesis reply (satisfies.2 reply answered)⟩

/-- A weaker guarantee. -/
theorem Satisfies.weaken
    {weaker : List (Event κ Reply) → κ → Prop}
    {program : Program κ Reply α}
    (satisfies : Satisfies answers guarantee ensures program history)
    (weakens : ∀ later call, guarantee later call → weaker later call) :
    Satisfies answers weaker ensures program history := by
  induction program generalizing history with
  | done value => exact satisfies
  | crash => trivial
  | perform operation resume inductionHypothesis =>
      exact ⟨weakens history operation satisfies.1, fun reply answered =>
        inductionHypothesis reply (satisfies.2 reply answered)⟩

/-- What calls of a kind preserve holds throughout a program of such calls. -/
theorem Performs.satisfies
    {allowed : κ → Prop}
    {Holds : List (Event κ Reply) → Prop}
    {program : Program κ Reply α}
    (performs : program.Performs allowed)
    (guaranteed : ∀ later call, allowed call → Holds later →
      guarantee later call)
    (kept : ∀ later call reply, allowed call → Holds later →
      Holds (later ++ [⟨call, reply⟩]))
    (holds : Holds history) :
    Satisfies answers guarantee (fun later _ => Holds later) program history := by
  induction program generalizing history with
  | done value => exact holds
  | crash => trivial
  | perform operation resume inductionHypothesis =>
      exact ⟨guaranteed history operation performs.1 holds, fun reply _ =>
        inductionHypothesis reply (performs.2 reply)
          (kept history operation reply performs.1 holds)⟩

/-- A program before what follows it. -/
theorem Satisfies.bind
    {between : List (Event κ Reply) → β → Prop}
    {program : Program κ Reply β}
    {next : β → Program κ Reply α}
    (first : Satisfies answers guarantee between program history)
    (second : ∀ later value, between later value →
      Satisfies answers guarantee ensures (next value) later) :
    Satisfies answers guarantee ensures (program >>= next) history :=
  satisfies_bind.mpr (first.mono second)

/-! ## Programs that do not crash -/

/-- Like `Satisfies`, of a program that never crashes on the replies it gets. -/
def Fulfills
    (answers : (call : κ) → Reply call → Prop)
    (guarantee : List (Event κ Reply) → κ → Prop)
    (ensures : List (Event κ Reply) → α → Prop) :
    Program κ Reply α → List (Event κ Reply) → Prop
  | done value, history => ensures history value
  | crash, _ => False
  | perform call resume, history =>
      guarantee history call ∧ ∀ reply, answers call reply →
        Fulfills answers guarantee ensures (resume reply)
          (history ++ [⟨call, reply⟩])

theorem Fulfills.satisfies
    {program : Program κ Reply α}
    (fulfills : Fulfills answers guarantee ensures program history) :
    Satisfies answers guarantee ensures program history := by
  induction program generalizing history with
  | done value => exact fulfills
  | crash => trivial
  | perform operation resume inductionHypothesis =>
      exact ⟨fulfills.1, fun reply answered =>
        inductionHypothesis reply (fulfills.2 reply answered)⟩

/-- A program before what follows it. -/
theorem Fulfills.bind
    {between : List (Event κ Reply) → β → Prop}
    {program : Program κ Reply β}
    {next : β → Program κ Reply α}
    (first : Fulfills answers guarantee between program history)
    (second : ∀ later value, between later value →
      Fulfills answers guarantee ensures (next value) later) :
    Fulfills answers guarantee ensures (program >>= next) history := by
  induction program generalizing history with
  | done value => exact second history value first
  | crash => exact first.elim
  | perform operation resume inductionHypothesis =>
      exact ⟨first.1, fun reply answered =>
        inductionHypothesis reply (first.2 reply answered)⟩

/-- A weaker condition at the end. -/
theorem Fulfills.mono
    {weaker : List (Event κ Reply) → α → Prop}
    {program : Program κ Reply α}
    (fulfills : Fulfills answers guarantee ensures program history)
    (weakens : ∀ later value, ensures later value → weaker later value) :
    Fulfills answers guarantee weaker program history := by
  have bound : Fulfills answers guarantee weaker (program >>= pure) history :=
    fulfills.bind weakens
  rwa [bind_pure] at bound

theorem Fulfills.map
    {ensures : List (Event κ Reply) → β → Prop}
    {weaker : List (Event κ Reply) → α → Prop}
    {program : Program κ Reply β}
    {change : β → α}
    (fulfills : Fulfills answers guarantee ensures program history)
    (weakens : ∀ later value, ensures later value →
      weaker later (change value)) :
    Fulfills answers guarantee weaker (change <$> program) history :=
  fulfills.bind weakens

/-- What calls of a kind preserve holds throughout a program that makes only such
calls with the replies it gets. -/
theorem Fulfills.carry
    {allowed : κ → Prop}
    {Holds : List (Event κ Reply) → Prop}
    {program : Program κ Reply α}
    (fulfills : Fulfills answers (fun _ call => allowed call) ensures program
      history)
    (guaranteed : ∀ later call, allowed call → Holds later →
      guarantee later call)
    (kept : ∀ later call reply, allowed call → Holds later →
      Holds (later ++ [⟨call, reply⟩]))
    (holds : Holds history) :
    Fulfills answers guarantee
      (fun later value => Holds later ∧ ensures later value) program
      history := by
  induction program generalizing history with
  | done value => exact ⟨holds, fulfills⟩
  | crash => exact fulfills.elim
  | perform operation resume inductionHypothesis =>
      exact ⟨guaranteed history operation fulfills.1 holds,
        fun reply answered => inductionHypothesis reply
          (fulfills.2 reply answered)
          (kept history operation reply fulfills.1 holds)⟩

/-- The events of a program come after those before it. -/
theorem Fulfills.extended
    {program : Program κ Reply α}
    (fulfills : Fulfills answers guarantee ensures program history) :
    Fulfills answers guarantee
      (fun later value => history <+: later ∧ ensures later value)
      program history := by
  induction program generalizing history with
  | done value => exact ⟨List.prefix_rfl, fulfills⟩
  | crash => exact fulfills.elim
  | perform operation resume inductionHypothesis =>
      refine ⟨fulfills.1, fun reply answered => ?_⟩
      exact (inductionHypothesis reply (fulfills.2 reply answered)).mono
        fun _ _ holds => ⟨(List.prefix_append _ _).trans holds.1, holds.2⟩

/-! ## Fallible programs -/

/-- A fallible program meets a guarantee at every call and a condition when it
succeeds. -/
def Yields
    (answers : (call : κ) → Reply call → Prop)
    (guarantee : List (Event κ Reply) → κ → Prop)
    (ensures : List (Event κ Reply) → α → Prop)
    (program : ExceptT ε (Program κ Reply) α)
    (history : List (Event κ Reply)) : Prop :=
  Satisfies answers guarantee
    (fun later result => ∀ value, result = .ok value → ensures later value)
    program.run history

@[simp] theorem yields_pure {value : α} :
    Yields answers guarantee ensures
        (pure value : ExceptT ε (Program κ Reply) α) history ↔
      ensures history value := by
  constructor
  · exact fun holds => holds value rfl
  · rintro holds _ ⟨⟩
    exact holds

@[simp] theorem yields_throw {error : ε} :
    Yields answers guarantee ensures
      (throw error : ExceptT ε (Program κ Reply) α) history :=
  nofun

@[simp] theorem yields_lift {program : Program κ Reply α} :
    Yields answers guarantee ensures
        (ExceptT.lift program : ExceptT ε (Program κ Reply) α) history ↔
      Satisfies answers guarantee ensures program history := by
  unfold Yields
  refine satisfies_map.trans ⟨fun satisfies => ?_, fun satisfies => ?_⟩
  · exact satisfies.mono fun later value holds => holds value rfl
  · refine satisfies.mono fun later value holds => ?_
    rintro _ ⟨⟩
    exact holds

@[simp] theorem yields_bind
    {program : ExceptT ε (Program κ Reply) β}
    {next : β → ExceptT ε (Program κ Reply) α} :
    Yields answers guarantee ensures (program >>= next) history ↔
      Yields answers guarantee
        (fun later value => Yields answers guarantee ensures (next value) later)
        program history := by
  refine satisfies_bind.trans ⟨fun satisfies => ?_, fun satisfies => ?_⟩
  · refine satisfies.mono fun later result holds => ?_
    rintro value rfl
    exact holds
  · refine satisfies.mono fun later result holds => ?_
    cases result with
    | error error => exact nofun
    | ok value => exact holds value rfl

/-- A weaker condition on success. -/
theorem Yields.mono
    {weaker : List (Event κ Reply) → α → Prop}
    {program : ExceptT ε (Program κ Reply) α}
    (yields : Yields answers guarantee ensures program history)
    (weakens : ∀ later value, ensures later value → weaker later value) :
    Yields answers guarantee weaker program history :=
  Satisfies.mono yields fun later _ holds value result =>
    weakens later value (holds value result)

theorem Yields.bind
    {between : List (Event κ Reply) → β → Prop}
    {program : ExceptT ε (Program κ Reply) β}
    {next : β → ExceptT ε (Program κ Reply) α}
    (first : Yields answers guarantee between program history)
    (second : ∀ later value, between later value →
      Yields answers guarantee ensures (next value) later) :
    Yields answers guarantee ensures (program >>= next) history :=
  yields_bind.mpr (first.mono second)

/-- A program that looks at the result of a fallible one. -/
theorem Yields.run_bind
    {between : List (Event κ Reply) → β → Prop}
    {program : ExceptT ε (Program κ Reply) β}
    {next : Except ε β → Program κ Reply α}
    (first : Yields answers guarantee between program history)
    (failed : ∀ later error,
      Satisfies answers guarantee ensures (next (.error error)) later)
    (succeeded : ∀ later value, between later value →
      Satisfies answers guarantee ensures (next (.ok value)) later) :
    Satisfies answers guarantee ensures (program.run >>= next) history := by
  refine Satisfies.bind first fun later result holds => ?_
  cases result with
  | error error => exact failed later error
  | ok value => exact succeeded later value (holds value rfl)

end Rules

/-! ## Running alone -/

/-- What a program returned, its events and the state it left. -/
structure Execution (σ κ : Type) (Reply : κ → Type) (α : Type) where
  result : Option α
  events : List (Event κ Reply)
  state : σ

section Execution

variable {σ : Type}

/-- Run a program by itself.  It stops without a result where no reply comes. -/
def execute (respond : σ → (call : κ) → Option (Reply call × σ)) :
    Program κ Reply α → σ → Execution σ κ Reply α
  | done value, state => ⟨some value, [], state⟩
  | crash, state => ⟨none, [], state⟩
  | perform call resume, state =>
      match respond state call with
      | none => ⟨none, [], state⟩
      | some (reply, later) =>
          let rest := execute respond (resume reply) later
          ⟨rest.result, ⟨call, reply⟩ :: rest.events, rest.state⟩

variable {respond : σ → (call : κ) → Option (Reply call × σ)}

@[simp] theorem execute_done (value : α) (state : σ) :
    execute respond (done value) state = ⟨some value, [], state⟩ := rfl

theorem execute_perform
    {call : κ}
    {resume : Reply call → Program κ Reply α}
    {state later : σ}
    {reply : Reply call}
    (replied : respond state call = some (reply, later)) :
    execute respond (perform call resume) state =
      ⟨(execute respond (resume reply) later).result,
        ⟨call, reply⟩ :: (execute respond (resume reply) later).events,
        (execute respond (resume reply) later).state⟩ := by
  rw [execute, replied]

/-- A program that runs by itself, with calls that are allowed where it makes
them, returns a value and leaves a state. -/
inductive Completes (respond : σ → (call : κ) → Option (Reply call × σ))
    (allowed : σ → κ → Prop) :
    Program κ Reply α → σ → α → σ → Prop
  | done {value : α} {state : σ} :
      Completes respond allowed (done value) state value state
  | perform
      {call : κ}
      {resume : Reply call → Program κ Reply α}
      {state later final : σ}
      {reply : Reply call}
      {value : α}
      (replied : respond state call = some (reply, later))
      (meets : allowed state call)
      (rest : Completes respond allowed (resume reply) later value final) :
      Completes respond allowed (perform call resume) state value final

end Execution

end Program

/-! ## Pools of programs -/

variable {ι σ κ : Type} [DecidableEq ι] {Reply : κ → Type} {α : Type}

/-- An event of a pool: who called, what, and the reply. -/
abbrev PoolEvent (ι κ : Type) (Reply : κ → Type) : Type :=
  Event (ι × κ) fun call => Reply call.2

/-- One program of a pool has its call answered and continues. -/
inductive PoolStep (step : σ → (call : κ) → Reply call → σ → Prop) :
    (ι → Program κ Reply α) × σ → (call : ι × κ) → Reply call.2 →
      (ι → Program κ Reply α) × σ → Prop
  | answered
      {pool : ι → Program κ Reply α}
      {state later : σ}
      {caller : ι}
      {call : κ}
      {resume : Reply call → Program κ Reply α}
      {reply : Reply call}
      (waits : pool caller = .perform call resume)
      (taken : step state call reply later) :
      PoolStep step (pool, state) (caller, call) reply
        (Function.update pool caller (resume reply), later)

/-- The run of a pool. -/
abbrev Run
    (step : σ → (call : κ) → Reply call → σ → Prop)
    (programs : ι → Program κ Reply α)
    (initial : σ)
    (log : List (PoolEvent ι κ Reply))
    (pool : ι → Program κ Reply α)
    (state : σ) : Prop :=
  Trace (PoolStep step) (programs, initial) log (pool, state)

/-- The events of one program. -/
def own (caller : ι) (log : List (PoolEvent ι κ Reply)) :
    List (Event κ Reply) :=
  log.filterMap fun event =>
    if event.call.1 = caller then some ⟨event.call.2, event.reply⟩ else none

theorem own_append (caller : ι) (first second : List (PoolEvent ι κ Reply)) :
    own caller (first ++ second) = own caller first ++ own caller second :=
  List.filterMap_append

theorem own_singleton (caller : ι) (event : PoolEvent ι κ Reply) :
    own caller [event] =
      if event.call.1 = caller then [⟨event.call.2, event.reply⟩] else [] := by
  unfold own
  split <;> simp [*]

theorem own_eq_nil
    {caller : ι}
    {log : List (PoolEvent ι κ Reply)}
    (others : ∀ event ∈ log, event.call.1 ≠ caller) :
    own caller log = [] :=
  List.filterMap_eq_nil_iff.mpr fun event mem => if_neg (others event mem)

theorem own_sublist
    {first second : List (PoolEvent ι κ Reply)}
    (caller : ι)
    (sublist : first.Sublist second) :
    (own caller first).Sublist (own caller second) :=
  sublist.filterMap _

/-- Own events are events of the log. -/
theorem mem_own_iff
    {caller : ι}
    {log : List (PoolEvent ι κ Reply)}
    {event : Event κ Reply} :
    event ∈ own caller log ↔ ⟨(caller, event.call), event.reply⟩ ∈ log := by
  unfold own
  rw [List.mem_filterMap]
  constructor
  · rintro ⟨⟨⟨caller, call⟩, reply⟩, mem, selected⟩
    split at selected
    case isTrue same =>
      cases same
      cases selected
      exact mem
    case isFalse => cases selected
  · intro mem
    exact ⟨_, mem, if_pos rfl⟩

/-- An event of one program is an event of the log, with the other events of the
program before and after it. -/
theorem exists_of_own_eq
    {caller : ι}
    {log : List (PoolEvent ι κ Reply)}
    {before after : List (Event κ Reply)}
    {event : Event κ Reply}
    (own_eq : own caller log = before ++ event :: after) :
    ∃ earlier later, log =
        earlier ++ ⟨(caller, event.call), event.reply⟩ :: later ∧
      own caller earlier = before ∧ own caller later = after := by
  unfold own at own_eq
  obtain ⟨earlier, rest, rfl, earlier_eq, rest_eq⟩ :=
    List.filterMap_eq_append_iff.mp own_eq
  obtain ⟨skipped, found, later, rfl, skips, finds, later_eq⟩ :=
    List.filterMap_eq_cons_iff.mp rest_eq
  refine ⟨earlier ++ skipped, later, ?_, ?_, later_eq⟩
  · obtain ⟨⟨other, call⟩, reply⟩ := found
    split at finds
    case isTrue same =>
      cases same
      cases finds
      rw [List.append_assoc]
    case isFalse => cases finds
  · rw [own_append]
    have none_skipped : own caller skipped = [] :=
      List.filterMap_eq_nil_iff.mpr skips
    rw [none_skipped, List.append_nil]
    exact earlier_eq

/-- Events that follow at once on an event of another kind are no more than
those. -/
theorem countP_le_of_follows
    {kind cause : Event κ Reply → Bool}
    {history : List (Event κ Reply)}
    (apart : ∀ event, kind event = true → cause event = false)
    (follows : ∀ before event after, history = before ++ event :: after →
      kind event = true →
      ∃ last, before.getLast? = some last ∧ cause last = true) :
    history.countP kind ≤ history.countP cause := by
  -- an event of the second kind that comes last is still free
  suffices spare : history.countP kind +
      (if history.getLast?.any cause then 1 else 0) ≤ history.countP cause from
    Nat.le_of_add_right_le spare
  induction history using List.reverseRecOn with
  | nil => exact Nat.le_refl 0
  | append_singleton history event inductionHypothesis =>
      have earlier := inductionHypothesis fun before other after history_eq =>
        follows before other (after ++ [event]) (by
          rw [history_eq, List.append_assoc, List.cons_append])
      rw [List.getLast?_concat, Option.any_some, List.countP_append,
        List.countP_append, List.countP_singleton, List.countP_singleton]
      cases is_kind : kind event with
      | true =>
          obtain ⟨last, last_eq, is_cause⟩ :=
            follows history event [] rfl is_kind
          rw [last_eq, Option.any_some, is_cause] at earlier
          rw [apart event is_kind]
          exact earlier
      | false => grind

theorem countP_eq_sum_map {β : Type} (kind : β → Bool) (members : List β) :
    members.countP kind =
      (members.map fun member => if kind member then 1 else 0).sum := by
  induction members with
  | nil => rfl
  | cons first rest inductionHypothesis =>
      rw [List.countP_cons, List.map_cons, List.sum_cons, inductionHypothesis,
        Nat.add_comm]

/-- The weight of a log is that of the events of its programs. -/
theorem sum_eq_sum_own
    (weight : ι → Event κ Reply → Nat)
    {log : List (PoolEvent ι κ Reply)}
    {callers : Finset ι}
    (covers : ∀ event ∈ log, event.call.1 ∈ callers) :
    (log.map fun event => weight event.call.1 ⟨event.call.2, event.reply⟩).sum =
      ∑ caller ∈ callers, ((own caller log).map (weight caller)).sum := by
  induction log with
  | nil => exact (Finset.sum_const_zero).symm
  | cons event rest inductionHypothesis =>
      have split_own (caller : ι) :
          ((own caller (event :: rest)).map (weight caller)).sum =
            (if event.call.1 = caller then
              weight event.call.1 ⟨event.call.2, event.reply⟩ else 0) +
              ((own caller rest).map (weight caller)).sum := by
        rw [← List.singleton_append, own_append, own_singleton, List.map_append,
          List.sum_append]
        split
        case isTrue same => rw [List.map_singleton, List.sum_singleton, same]
        case isFalse => rfl
      rw [List.map_cons, List.sum_cons, Finset.sum_congr rfl fun caller _ =>
        split_own caller, Finset.sum_add_distrib, Finset.sum_ite_eq,
        if_pos (covers event List.mem_cons_self), inductionHypothesis
        fun other mem => covers other (List.mem_cons_of_mem event mem)]

/-- What holds of the weights of each program's events holds of those of the
log. -/
theorem sum_le_of_own
    {light heavy : ι → Event κ Reply → Nat}
    {log : List (PoolEvent ι κ Reply)}
    (each : ∀ caller, ((own caller log).map (light caller)).sum ≤
      ((own caller log).map (heavy caller)).sum) :
    (log.map fun event => light event.call.1 ⟨event.call.2, event.reply⟩).sum ≤
      (log.map fun event =>
        heavy event.call.1 ⟨event.call.2, event.reply⟩).sum := by
  have covers : ∀ event ∈ log,
      event.call.1 ∈ (log.map fun event => event.call.1).toFinset :=
    fun event mem => List.mem_toFinset.mpr (List.mem_map_of_mem mem)
  rw [sum_eq_sum_own light covers, sum_eq_sum_own heavy covers]
  exact Finset.sum_le_sum fun caller _ => each caller

/-- The programs that occur in a log. -/
def callers (log : List (PoolEvent ι κ Reply)) : List ι :=
  (log.map fun event => event.call.1).dedup

/-- What each program gives it takes or keeps, and so do all of them together. -/
theorem flatMap_perm_of_own
    {β : Type}
    [DecidableEq β]
    {gives takes : ι → Event κ Reply → List β}
    {keeps : ι → List β}
    {log : List (PoolEvent ι κ Reply)}
    (each : ∀ caller, ((own caller log).flatMap (gives caller)).Perm
      ((own caller log).flatMap (takes caller) ++ keeps caller)) :
    (log.flatMap fun event =>
        gives event.call.1 ⟨event.call.2, event.reply⟩).Perm
      ((log.flatMap fun event =>
          takes event.call.1 ⟨event.call.2, event.reply⟩) ++
        (callers log).flatMap keeps) := by
  refine List.perm_iff_count.mpr fun value => ?_
  have counts (caller : ι) := List.perm_iff_count.mp (each caller) value
  have covers : ∀ event ∈ log, event.call.1 ∈ (callers log).toFinset :=
    fun event mem => List.mem_toFinset.mpr
      (List.mem_dedup.mpr (List.mem_map_of_mem mem))
  simp only [List.count_append, List.count_flatMap] at counts ⊢
  have given := sum_eq_sum_own (fun caller => List.count value ∘ gives caller)
    covers
  have taken := sum_eq_sum_own (fun caller => List.count value ∘ takes caller)
    covers
  have kept := List.sum_toFinset (List.count value ∘ keeps)
    (List.nodup_dedup (log.map fun event => event.call.1))
  calc
    _ = ∑ caller ∈ (callers log).toFinset,
        ((own caller log).map (List.count value ∘ gives caller)).sum := given
    _ = ∑ caller ∈ (callers log).toFinset,
        (((own caller log).map (List.count value ∘ takes caller)).sum +
          (keeps caller).count value) :=
      Finset.sum_congr rfl fun caller _ => counts caller
    _ = _ := by
      rw [Finset.sum_add_distrib]
      exact congrArg₂ (· + ·) taken.symm kept

namespace Run

variable {step : σ → (call : κ) → Reply call → σ → Prop}
variable {programs pool : ι → Program κ Reply α}
variable {initial state : σ}
variable {log before after : List (PoolEvent ι κ Reply)}
variable {final : (ι → Program κ Reply α) × σ}
variable {answers : (call : κ) → Reply call → Prop}
variable {guarantee : List (Event κ Reply) → κ → Prop}
variable {ensures : List (Event κ Reply) → α → Prop}
variable {caller : ι}

/-- What a program hands on to its continuations, with what it has been told, it
keeps in every interleaving. -/
theorem keeps
    {Keeps : Program κ Reply α → List (Event κ Reply) → Prop}
    (answered : ∀ state later call reply,
      step state call reply later → answers call reply)
    (handed : ∀ call resume reply history, answers call reply →
      Keeps (.perform call resume) history →
      Keeps (resume reply) (history ++ [⟨call, reply⟩]))
    (alone : Keeps (programs caller) [])
    (run : Trace (PoolStep step) (programs, initial) log final) :
    Keeps (final.1 caller) (own caller log) := by
  induction run with
  | start => exact alone
  | next _ moved inductionHypothesis =>
      cases moved with
      | @answered pool state later other call resume reply waits taken =>
          rw [own_append, own_singleton]
          dsimp only at inductionHypothesis ⊢
          by_cases same : other = caller
          · subst same
            rw [waits] at inductionHypothesis
            rw [if_pos rfl, Function.update_self]
            exact handed call resume reply _
              (answered state later call reply taken) inductionHypothesis
          · rw [if_neg same, List.append_nil,
              Function.update_of_ne (Ne.symm same)]
            exact inductionHypothesis

/-- In every interleaving a program keeps what it satisfies by itself. -/
theorem satisfies
    (answered : ∀ state later call reply,
      step state call reply later → answers call reply)
    (alone : (programs caller).Satisfies answers guarantee ensures [])
    (run : Trace (PoolStep step) (programs, initial) log final) :
    (final.1 caller).Satisfies answers guarantee ensures (own caller log) :=
  keeps answered (fun _ _ reply _ answered satisfies =>
    satisfies.2 reply answered) alone run

/-- In every interleaving a program keeps what it fulfills by itself. -/
theorem fulfills
    (answered : ∀ state later call reply,
      step state call reply later → answers call reply)
    (alone : (programs caller).Fulfills answers guarantee ensures [])
    (run : Trace (PoolStep step) (programs, initial) log final) :
    (final.1 caller).Fulfills answers guarantee ensures (own caller log) :=
  keeps answered (fun _ _ reply _ answered fulfills =>
    fulfills.2 reply answered) alone run

/-- A program that stops only with a result does so in every interleaving. -/
theorem returns
    (alone : (programs caller).Returns)
    (run : Trace (PoolStep step) (programs, initial) log final) :
    (final.1 caller).Returns :=
  @keeps _ _ _ _ _ _ _ _ _ _ _ (fun _ _ => True) caller
    (fun program _ => program.Returns) (fun _ _ _ _ _ => trivial)
    (fun _ _ reply _ _ returns => returns reply) alone run

/-- A program that is done has met its condition. -/
theorem ensures_of_done
    {value : α}
    (answered : ∀ state later call reply,
      step state call reply later → answers call reply)
    (alone : (programs caller).Satisfies answers guarantee ensures [])
    (run : Run step programs initial log pool state)
    (finished : pool caller = .done value) :
    ensures (own caller log) value := by
  have satisfied := satisfies answered alone run
  dsimp only at satisfied
  rw [finished] at satisfied
  exact satisfied

/-- Every call meets the guarantee of its program. -/
theorem guarantee_of_call
    {event : PoolEvent ι κ Reply}
    (answered : ∀ state later call reply,
      step state call reply later → answers call reply)
    (alone : (programs event.call.1).Satisfies answers guarantee ensures [])
    (run : Run step programs initial (before ++ event :: after) pool state) :
    guarantee (own event.call.1 before) event.call.2 := by
  obtain ⟨earlier, later, first, taken, -⟩ := run.exists_of_cons
  have satisfied := satisfies answered alone first
  obtain ⟨⟨caller, call⟩, reply⟩ := event
  cases taken with
  | answered waits taken =>
      dsimp only at satisfied
      rw [waits] at satisfied
      exact satisfied.1

/-- A program that makes no call stays where it is. -/
theorem eq_of_own_eq_nil
    {first : (ι → Program κ Reply α) × σ}
    (run : Trace (PoolStep step) first log final)
    (idle : own caller log = []) :
    final.1 caller = first.1 caller := by
  induction run with
  | start => rfl
  | next _ moved inductionHypothesis =>
      rw [own_append, List.append_eq_nil_iff, own_singleton] at idle
      cases moved with
      | @answered pool state later other call resume reply waits taken =>
          have different : other ≠ caller := fun same => by
            rw [if_pos same] at idle
            cases idle.2
          dsimp only at inductionHypothesis ⊢
          rw [Function.update_of_ne different.symm]
          exact inductionHypothesis idle.1

/-- Calls that follow at once on an event of another kind of their program are no
more than those. -/
theorem countP_le_of_guarantee
    {kind cause : Event κ Reply → Bool}
    (answered : ∀ state later call reply,
      step state call reply later → answers call reply)
    (alone : ∀ caller,
      (programs caller).Satisfies answers guarantee ensures [])
    (apart : ∀ event, kind event = true → cause event = false)
    (follows : ∀ history event, guarantee history event.call →
      kind event = true →
      ∃ last, history.getLast? = some last ∧ cause last = true)
    (run : Run step programs initial log pool state) :
    log.countP (fun event => kind ⟨event.call.2, event.reply⟩) ≤
      log.countP fun event => cause ⟨event.call.2, event.reply⟩ := by
  have each (caller : ι) :
      (own caller log).countP kind ≤ (own caller log).countP cause := by
    refine countP_le_of_follows apart fun before event after own_eq is_kind => ?_
    obtain ⟨earlier, later, rfl, earlier_eq, -⟩ := exists_of_own_eq own_eq
    have guaranteed := run.guarantee_of_call answered (alone caller)
    dsimp only at guaranteed
    rw [earlier_eq] at guaranteed
    exact follows before event guaranteed is_kind
  rw [countP_eq_sum_map, countP_eq_sum_map]
  refine @sum_le_of_own _ _ _ _ (fun _ event => if kind event then 1 else 0)
    (fun _ event => if cause event then 1 else 0) log fun caller => ?_
  rw [← countP_eq_sum_map, ← countP_eq_sum_map]
  exact each caller

/-- No program makes two calls of a kind that its guarantee allows once. -/
theorem nodup_callers
    {guarantees : ι → List (Event κ Reply) → κ → Prop}
    (kind : κ → Bool)
    (answered : ∀ state later call reply,
      step state call reply later → answers call reply)
    (alone : ∀ caller,
      (programs caller).Satisfies answers (guarantees caller) ensures [])
    (once : ∀ caller history call, guarantees caller history call →
      kind call = true → ∀ event ∈ history, kind event.call = false)
    (run : Trace (PoolStep step) (programs, initial) log final) :
    ((log.filter fun event => kind event.call.2).map
      fun event => event.call.1).Nodup := by
  induction run with
  | start => exact List.nodup_nil
  | @next log _ _ _ _ first moved inductionHypothesis =>
      cases moved with
      | @answered pool state later caller call resume reply waits taken =>
          rw [List.filter_append, List.map_append]
          cases selected : kind call with
          | false =>
              rw [List.filter_cons_of_neg (by simp [selected]), List.filter_nil,
                List.map_nil, List.append_nil]
              exact inductionHypothesis
          | true =>
              rw [List.filter_cons_of_pos (by simp [selected]), List.filter_nil]
              refine List.nodup_append.mpr ⟨inductionHypothesis,
                List.pairwise_singleton _ _, ?_⟩
              intro _ mapped_mem last last_mem same
              rw [List.map_singleton, List.mem_singleton] at last_mem
              obtain ⟨earlier, filtered_mem, rfl⟩ := List.mem_map.mp mapped_mem
              obtain ⟨earlier_mem, earlier_kind⟩ :=
                List.mem_filter.mp filtered_mem
              have same_caller : earlier.call.1 = caller := same.trans last_mem
              subst same_caller
              have satisfied := satisfies answered (alone earlier.call.1) first
              dsimp only at satisfied
              rw [waits] at satisfied
              have fresh := once _ _ call satisfied.1 selected
                ⟨earlier.call.2, earlier.reply⟩ (mem_own_iff.mpr earlier_mem)
              exact absurd earlier_kind (by simp [fresh])

end Run

/-- A program that completes by itself does so in a pool in which the others
wait. -/
theorem Program.Completes.exists_guarded
    {step : σ → (call : κ) → Reply call → σ → Prop}
    {condition : List (PoolEvent ι κ Reply) →
      (ι → Program κ Reply α) × σ → ι × κ → Prop}
    {respond : σ → (call : κ) → Option (Reply call × σ)}
    {allowed : σ → κ → Prop}
    {first : (ι → Program κ Reply α) × σ}
    {log : List (PoolEvent ι κ Reply)}
    {pool : ι → Program κ Reply α}
    {caller : ι}
    {program : Program κ Reply α}
    {state later : σ}
    {value : α}
    (admitted : ∀ {state later : σ} {call : κ} {reply : Reply call},
      respond state call = some (reply, later) → step state call reply later)
    (free : ∀ {log : List (PoolEvent ι κ Reply)}
      {pool : ι → Program κ Reply α} {state : σ} {call : κ},
      allowed state call → condition log (pool, state) (caller, call))
    (completes : Completes respond allowed program state value later)
    (run : Guarded (PoolStep step) condition first log (pool, state))
    (waits : pool caller = program) :
    ∃ own, Guarded (PoolStep step) condition first (log ++ own)
        (Function.update pool caller (.done value), later) ∧
      ∀ event ∈ own, event.call.1 = caller := by
  induction completes generalizing pool log with
  | done =>
      rw [← waits, Function.update_eq_self]
      refine ⟨[], ?_, fun _ mem => absurd mem List.not_mem_nil⟩
      rw [List.append_nil]
      exact run
  | @perform call resume state next _ reply _ replied meets _
      inductionHypothesis =>
      have resumed : Function.update pool caller (resume reply) caller =
          resume reply := Function.update_self ..
      obtain ⟨own, rest, callers⟩ := inductionHypothesis
        (run.next (free meets) (.answered waits (admitted replied))) resumed
      rw [Function.update_idem, List.append_assoc] at rest
      refine ⟨_, rest, ?_⟩
      intro event mem
      rcases List.mem_cons.mp mem with rfl | mem
      · rfl
      · exact callers event mem

/-! ## Schedules -/

/-- Let programs take turns as a schedule says, with replies computed from a
choice for each turn.  A turn of a program that does not wait is skipped. -/
def simulate
    {χ : Type}
    (respond : σ → χ → (call : κ) → Reply call × σ) :
    List (ι × χ) → (ι → Program κ Reply α) × σ →
      List (PoolEvent ι κ Reply) × (ι → Program κ Reply α) × σ
  | [], current => ([], current)
  | (caller, choice) :: schedule, (pool, state) =>
      match pool caller with
      | .perform call resume =>
          let answer := respond state choice call
          let rest := simulate respond schedule
            (Function.update pool caller (resume answer.1), answer.2)
          (⟨(caller, call), answer.1⟩ :: rest.1, rest.2)
      | _ => simulate respond schedule (pool, state)

/-- A schedule goes on from where its first part ends. -/
theorem simulate_append
    {χ : Type}
    (respond : σ → χ → (call : κ) → Reply call × σ)
    (first second : List (ι × χ))
    (current : (ι → Program κ Reply α) × σ) :
    simulate respond (first ++ second) current =
      ((simulate respond first current).1 ++
          (simulate respond second (simulate respond first current).2).1,
        (simulate respond second (simulate respond first current).2).2) := by
  induction first generalizing current with
  | nil => rfl
  | cons turn first inductionHypothesis =>
      obtain ⟨caller, choice⟩ := turn
      obtain ⟨pool, state⟩ := current
      rw [List.cons_append, simulate, simulate]
      split
      · dsimp only
        rw [inductionHypothesis]
        rfl
      · exact inductionHypothesis _

/-- Schedules with admitted replies are runs. -/
theorem trace_simulate
    {χ : Type}
    {step : σ → (call : κ) → Reply call → σ → Prop}
    {respond : σ → χ → (call : κ) → Reply call × σ}
    (admitted : ∀ state choice call,
      step state call (respond state choice call).1
        (respond state choice call).2)
    (schedule : List (ι × χ))
    (current : (ι → Program κ Reply α) × σ) :
    Trace (PoolStep step) current (simulate respond schedule current).1
      (simulate respond schedule current).2 := by
  induction schedule generalizing current with
  | nil => exact .start
  | cons turn schedule inductionHypothesis =>
      obtain ⟨caller, choice⟩ := turn
      obtain ⟨pool, state⟩ := current
      rw [simulate]
      split
      case h_1 call resume waits =>
        exact (Trace.single (PoolStep.answered waits
          (admitted state choice call))).append (inductionHypothesis _)
      case h_2 => exact inductionHypothesis _

/-- Whether every call of a schedule passes a check on the state before it. -/
def passes
    {χ : Type}
    (respond : σ → χ → (call : κ) → Reply call × σ)
    (check : (ι → Program κ Reply α) × σ → ι × κ → Bool) :
    List (ι × χ) → (ι → Program κ Reply α) × σ → Bool
  | [], _ => true
  | (caller, choice) :: schedule, (pool, state) =>
      match pool caller with
      | .perform call resume =>
          let answer := respond state choice call
          check (pool, state) (caller, call) &&
            passes respond check schedule
              (Function.update pool caller (resume answer.1), answer.2)
      | _ => passes respond check schedule (pool, state)

/-- Schedules that pass the check of a condition are guarded by it. -/
theorem guarded_simulate
    {χ : Type}
    {step : σ → (call : κ) → Reply call → σ → Prop}
    {respond : σ → χ → (call : κ) → Reply call × σ}
    {condition : List (PoolEvent ι κ Reply) →
      (ι → Program κ Reply α) × σ → ι × κ → Prop}
    {check : (ι → Program κ Reply α) × σ → ι × κ → Bool}
    {initial current : (ι → Program κ Reply α) × σ}
    {log : List (PoolEvent ι κ Reply)}
    (admitted : ∀ state choice call,
      step state call (respond state choice call).1
        (respond state choice call).2)
    (sound : ∀ events current call,
      check current call = true → condition events current call)
    (schedule : List (ι × χ))
    (passed : passes respond check schedule current = true)
    (guarded : Guarded (PoolStep step) condition initial log current) :
    Guarded (PoolStep step) condition initial
      (log ++ (simulate respond schedule current).1)
      (simulate respond schedule current).2 := by
  induction schedule generalizing current log with
  | nil => rwa [simulate, List.append_nil]
  | cons turn schedule inductionHypothesis =>
      obtain ⟨caller, choice⟩ := turn
      obtain ⟨pool, state⟩ := current
      rw [simulate]
      rw [passes] at passed
      split at passed
      case h_1 call resume waits =>
        obtain ⟨checked, passed⟩ := Bool.and_eq_true_iff.mp passed
        have next := inductionHypothesis passed (guarded.next
          (sound _ _ _ checked)
          (.answered waits (admitted state choice call)))
        rwa [List.append_assoc] at next
      case h_2 => exact inductionHypothesis passed guarded

end Reactive
end Fcp
