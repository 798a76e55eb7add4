import Mathlib.Data.List.Nodup
import Fcp.Fabric.Store.Spending
import Fcp.Fabric.Transport.Handlers

/-!
# Runs of requests

What the guarantees of the requests and the invariants of the store say about
the log of a run.
-/

namespace Fcp
namespace Fabric
namespace Transport

open Rust
open Reactive
open Service

/-! ## Runs of any programs -/

section Programs

variable {ι α : Type} [DecidableEq ι]
variable {environment : Environment}
variable {log before after : List (PoolEvent ι Operation Operation.Reply)}
variable {start final : (ι → Action α) × Store}

/-- The databases around a successful store call. -/
theorem exists_effect_of_run
    {caller : ι}
    {call : Call}
    {result : call.Result}
    (run : Trace (PoolStep (Operation.Step environment)) start
      (before ++ ⟨(caller, .store call), .ok result⟩ :: after) final) :
    ∃ earlierPool earlier laterPool later,
      Trace (PoolStep (Operation.Step environment)) start before
        (earlierPool, earlier) ∧
      Store.Effect environment.unicode earlier call result later ∧
      Trace (PoolStep (Operation.Step environment)) (laterPool, later) after
        final := by
  obtain ⟨⟨_, earlier⟩, ⟨_, later⟩, first, moved, second⟩ := run.exists_of_cons
  refine ⟨_, earlier, _, later, first, ?_, second⟩
  cases moved with
  | answered waits taken =>
      cases taken with
      | stored taken => exact taken.effect
      | elsewhere answers => exact answers.elim

/-- The value that an event uses up. -/
def spentBy (event : PoolEvent ι Operation Operation.Reply) : Option Item :=
  (storeEvent event).bind (Store.successful spends)

/-- No two events use up the same value. -/
theorem eq_of_spentBy
    {first second : PoolEvent ι Operation Operation.Reply}
    {item : Item}
    (run : Trace (PoolStep (Operation.Step environment)) start log final)
    (first_mem : first ∈ log)
    (second_mem : second ∈ log)
    (first_spends : spentBy first = some item)
    (second_spends : spentBy second = some item) :
    first = second := by
  have nodup := Store.nodup_spent (trace_of_run run)
  rw [List.filterMap_filterMap] at nodup
  exact eq_of_nodup_filterMap nodup first_mem second_mem first_spends
    second_spends

omit [DecidableEq ι] in
/-- Every store call that was seen was made by a program. -/
theorem exists_caller
    {seen : Event Call Call.Reply}
    (seen_mem : seen ∈ log.filterMap storeEvent) :
    ∃ caller, ⟨(caller, .store seen.call), seen.reply⟩ ∈ log := by
  obtain ⟨event, event_mem, visible⟩ := List.mem_filterMap.mp seen_mem
  obtain ⟨caller, rfl⟩ := storeEvent_eq_some visible
  exact ⟨caller, event_mem⟩

end Programs

/-! ## Runs of requests -/

section Requests

variable {environment : Environment}
variable {state : FabricHttpState}
variable {requests : Nat → Request}
variable {log before after : Log}
variable {pool : Nat → Action Response}
variable {store : Store}

/-- Every operation of a run is justified. -/
theorem Serves.guarantee
    {event : PoolEvent Nat Operation Operation.Reply}
    (serves : Serves environment state requests (before ++ event :: after) pool
      store) :
    Guarantee environment (requests event.call.1) (own event.call.1 before)
      event.call.2 :=
  Run.guarantee_of_call (fun _ _ _ _ taken => ⟨_, _, taken⟩)
    (Request.handler_keeps environment state (requests event.call.1)) serves

/-- No request repeats an operation of a kind. -/
theorem Serves.nodup_callers
    (kind : Singular)
    (serves : Serves environment state requests log pool store) :
    ((log.filter fun event => Singular.of event.call.2 = some kind).map
      fun event => event.call.1).Nodup := by
  refine Run.nodup_callers (fun operation => Singular.of operation = some kind)
    (fun _ _ _ _ taken => ⟨_, _, taken⟩)
    (fun caller => Request.handler_keeps environment state (requests caller))
    ?_ serves
  intro caller history operation guarantee is_kind event event_mem
  refine decide_eq_false fun same_kind => ?_
  refine guarantee.1 kind (of_decide_eq_true is_kind) ?_
  exact List.mem_filterMap.mpr ⟨event, event_mem, same_kind⟩

/-- Operations of a kind by the same request are the same event. -/
theorem Serves.eq_of_caller
    {first second : PoolEvent Nat Operation Operation.Reply}
    {kind : Singular}
    (serves : Serves environment state requests log pool store)
    (first_mem : first ∈ log)
    (second_mem : second ∈ log)
    (first_kind : Singular.of first.call.2 = some kind)
    (second_kind : Singular.of second.call.2 = some kind)
    (same : first.call.1 = second.call.1) :
    first = second := by
  refine List.inj_on_of_nodup_map (serves.nodup_callers kind) ?_ ?_ same
  · exact List.mem_filter.mpr ⟨first_mem, decide_eq_true first_kind⟩
  · exact List.mem_filter.mpr ⟨second_mem, decide_eq_true second_kind⟩

/-- A consumed transaction was created by a request for the same account, factor
and stage. -/
theorem Serves.exists_creation
    {caller : Nat}
    {consume : ConsumeLoginTransaction}
    {record : LoginTransactionRecord}
    (serves : Serves environment state requests log pool store)
    (consumed : ⟨(caller, .store (.consumeLoginTransaction consume)),
      .ok record⟩ ∈ log) :
    ∃ creator create created,
      ⟨(creator, .store (.createLoginTransaction create)), .ok created⟩ ∈ log ∧
      created.transactionId = record.transactionId ∧
      create.tenantId = record.tenantId ∧
      create.accountId = record.accountId ∧
      create.factorId = record.factorId ∧
      create.stage = record.stage ∧ record.stage = consume.expectedStage := by
  obtain ⟨before, after, rfl⟩ := List.append_of_mem consumed
  obtain ⟨_, earlier, _, _, first, effect, -⟩ := exists_effect_of_run serves
  cases effect with
  | @loginTransactionConsumed _ generated row _ _ found =>
      obtain ⟨row_mem, selected⟩ := Sql.Table.find?_eq_some found
      obtain ⟨-, -, awaits, -⟩ := of_decide_eq_true selected
      obtain ⟨create, created, seen, id_eq, tenant_eq, account_eq, factor_eq,
        stages⟩ :=
          (Store.originates_of_trace (trace_of_run first)).transaction row row_mem
      obtain ⟨creator, created_mem⟩ := exists_caller seen
      exact ⟨creator, create, created, List.mem_append_left _ created_mem, id_eq,
        tenant_eq, account_eq, factor_eq, stages _ awaits, rfl⟩

/-- A request has consumed a transaction that another one has created. -/
def Follows (log : Log) (creator consumer : Nat) : Prop :=
  ∃ create created consume consumed,
    ⟨(creator, .store (.createLoginTransaction create)), .ok created⟩ ∈ log ∧
    ⟨(consumer, .store (.consumeLoginTransaction consume)), .ok consumed⟩ ∈
      log ∧
    consumed.transactionId = created.transactionId

/-- One request at most follows on another. -/
theorem Serves.eq_of_follows
    {creator first second : Nat}
    (serves : Serves environment state requests log pool store)
    (follows : Follows log creator first)
    (other : Follows log creator second) :
    first = second := by
  obtain ⟨create, created, consume, record, created_mem, consumed_mem, id_eq⟩ :=
    follows
  obtain ⟨create', created', consume', record', created_mem', consumed_mem',
    id_eq'⟩ := other
  cases serves.eq_of_caller created_mem created_mem' rfl rfl rfl
  have spent : spentBy ⟨(second, .store (.consumeLoginTransaction consume')),
      .ok record'⟩ = some (.loginTransaction record.transactionId) :=
    congrArg (some ∘ Item.loginTransaction) (id_eq'.trans id_eq.symm)
  have same := eq_of_spentBy serves consumed_mem consumed_mem' rfl spent
  exact congrArg (fun event => event.call.1) same

end Requests

end Transport
end Fabric
end Fcp
