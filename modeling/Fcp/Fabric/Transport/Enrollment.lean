import Fcp.Fabric.Transport.LoginSteps
import Fcp.Fabric.Transport.Schedules
import Fcp.Fabric.Transport.Runs

/-!
# From a password to a factor

The start and the confirmation of an enrollment consume transactions of the same
stage, and only the confirmation looks at their factor.  As long as no start is
given a transaction with a factor, a password leads to at most two transactions
and one pending factor.
-/

namespace Fcp
namespace Fabric
namespace Transport

open Rust
open Reactive
open Service

variable {environment : Environment}
variable {state : FabricHttpState}
variable {requests : Nat → Request}
variable {log before after : Log}
variable {pool : Nat → Action Response}
variable {store : Store}
variable {caller : Nat}

/-- The transaction that an event consumes. -/
def consumedTransaction : PoolEvent Nat Operation Operation.Reply → Option Uuid
  | ⟨(_, .store (.consumeLoginTransaction _)), .ok record⟩ =>
      some record.transactionId
  | _ => none

/-- No start of an enrollment would consume a transaction with a factor, at any
time of the database. -/
def FactorFree
    (requests : Nat → Request)
    (_ : Log)
    (current : (Nat → Action Response) × Store)
    (call : Nat × Operation) : Prop :=
  (requests call.1).beginsEnrollment = true →
    ∀ consume, call.2 = .store (.consumeLoginTransaction consume) →
      ∀ row ∈ current.2.loginTransactions.rows, ∀ now,
        consume.selects now row = true → row.factorId = none

/-! ## Runs of requests -/

/-- Every operation of a run keeps the guarantee of its request. -/
theorem Serves.loginGuarantee
    {event : PoolEvent Nat Operation Operation.Reply}
    (serves : Serves environment state requests (before ++ event :: after) pool
      store) :
    LoginGuarantee state (requests event.call.1) (own event.call.1 before)
      event.call.2 :=
  Run.guarantee_of_call (fun _ _ _ _ taken => ⟨_, _, taken⟩)
    (@Request.handler_satisfies (Answered environment) environment state
      (requests event.call.1)) serves

/-- The guarantee at any event of a run. -/
theorem Serves.exists_loginGuarantee
    {event : PoolEvent Nat Operation Operation.Reply}
    (serves : Serves environment state requests log pool store)
    (mem : event ∈ log) :
    ∃ before after, log = before ++ event :: after ∧
      LoginGuarantee state (requests event.call.1) (own event.call.1 before)
        event.call.2 := by
  obtain ⟨before, after, rfl⟩ := List.append_of_mem mem
  exact ⟨before, after, rfl, serves.loginGuarantee⟩

theorem Consumed.exists_mem
    {record : LoginTransactionRecord}
    (consumed : Consumed (own caller before) record) :
    ∃ consume, ⟨(caller, .store (.consumeLoginTransaction consume)),
      .ok record⟩ ∈ before := by
  obtain ⟨consume, mem⟩ := consumed
  exact ⟨consume, mem_own_iff.mp mem⟩

/-- Transactions with one identifier were created by one event. -/
theorem Serves.eq_of_created
    {first second : Nat}
    {create other : CreateLoginTransaction}
    {created otherCreated : LoginTransactionRecord}
    (serves : Serves environment state requests log pool store)
    (mem : ⟨(first, .store (.createLoginTransaction create)), .ok created⟩ ∈ log)
    (other_mem : ⟨(second, .store (.createLoginTransaction other)),
      .ok otherCreated⟩ ∈ log)
    (same : created.transactionId = otherCreated.transactionId) :
    first = second ∧ create = other := by
  have nodup := Store.nodup_issued (trace_of_run serves)
  rw [List.filterMap_filterMap] at nodup
  have equal := eq_of_nodup_filterMap nodup mem other_mem rfl
    (congrArg some same.symm)
  cases equal
  exact ⟨rfl, rfl⟩

/-- Transactions with a factor are of the enrollment stage. -/
theorem Serves.stage_of_factor
    {create : CreateLoginTransaction}
    {reply : Except StoreError LoginTransactionRecord}
    (serves : Serves environment state requests log pool store)
    (mem : ⟨(caller, .store (.createLoginTransaction create)), reply⟩ ∈ log)
    (bound : create.factorId ≠ none) :
    create.stage = .mfaEnrollment := by
  obtain ⟨before, after, -, -, -, ⟨unbound, -⟩ | ⟨-, stage, -⟩⟩ :=
    serves.exists_loginGuarantee mem
  · exact absurd unbound bound
  · exact stage

/-- Only the two enrollment requests consume transactions of their stage. -/
theorem Request.of_consumedStage
    {request : Request}
    (consumes : request.consumedStage = some .mfaEnrollment) :
    request.beginsEnrollment = true ∨ request.confirmsEnrollment = true := by
  cases request with
  | beginTotpEnrollment => exact .inl rfl
  | confirmTotpEnrollment => exact .inr rfl
  | _ => cases consumes

/-- The consumption that comes before an operation of a request. -/
theorem Serves.consumes_of_mem
    {consume : ConsumeLoginTransaction}
    {reply : Except StoreError LoginTransactionRecord}
    (serves : Serves environment state requests log pool store)
    (mem : ⟨(caller, .store (.consumeLoginTransaction consume)), reply⟩ ∈ log) :
    (requests caller).consumedStage = some consume.expectedStage := by
  obtain ⟨before, after, -, -, stage_eq, -⟩ := serves.exists_loginGuarantee mem
  exact stage_eq

theorem Verified.of_prefix
    (verified : Verified (own caller before)) :
    Verified (own caller (before ++ after)) := by
  obtain ⟨password, verifier, maximum, mem⟩ := verified
  refine ⟨password, verifier, maximum, mem_own_iff.mpr ?_⟩
  exact List.mem_append_left _ (mem_own_iff.mp mem)

theorem Expires.of_prefix
    {create : CreateLoginTransaction}
    (expires : Expires state (own caller before) create) :
    Expires state (own caller (before ++ after)) create := by
  obtain ⟨flow, now, flow_eq, mem, expires_eq⟩ := expires
  refine ⟨flow, now, flow_eq, mem_own_iff.mpr ?_, expires_eq⟩
  exact List.mem_append_left _ (mem_own_iff.mp mem)

/-- What the run as a whole says about a created transaction. -/
theorem Serves.issues
    {create : CreateLoginTransaction}
    {reply : Except StoreError LoginTransactionRecord}
    (serves : Serves environment state requests log pool store)
    (mem : ⟨(caller, .store (.createLoginTransaction create)), reply⟩ ∈ log) :
    Issues state (requests caller) (own caller log) create := by
  obtain ⟨before, after, rfl, -, expires, origin⟩ :=
    serves.exists_loginGuarantee mem
  refine ⟨expires.of_prefix, ?_⟩
  rcases origin with ⟨unbound, starts, verified⟩ | bound
  · exact .inl ⟨unbound, starts, verified.of_prefix⟩
  · exact .inr bound

/-! ## One next step -/

/-- Every login transaction leads to one next step, and a password to at most
one pending factor and two transactions. -/
structure OneNextStep
    (state : FabricHttpState)
    (requests : Nat → Request)
    (log : Log)
    (pool : Nat → Action Response) : Prop where
  consumed_once : (log.filterMap consumedTransaction).Nodup
  factor_confirms : ∀ caller consume record,
    ⟨(caller, .store (.consumeLoginTransaction consume)), .ok record⟩ ∈ log →
      record.factorId ≠ none → (requests caller).confirmsEnrollment = true
  confirmation_denies : ∀ caller consume record response,
    ⟨(caller, .store (.consumeLoginTransaction consume)), .ok record⟩ ∈ log →
      record.factorId = none → (requests caller).confirmsEnrollment = true →
      pool caller = .done response → response = loginFlowDenial
  factor_after_password : ∀ caller create reply,
    ⟨(caller, .store (.createPendingTotpFactor create)), reply⟩ ∈ log →
      ∃ login, (requests login).startsLogin = true ∧
        Verified (own login log) ∧ Follows log login caller
  one_follower : ∀ login first second,
    Follows log login first → Follows log login second → first = second
  one_factor : ((log.filter fun event => isFactorCreation event.call.2).map
    fun event => event.call.1).Nodup
  two_transactions : ∀ login middle last,
    Follows log login middle → Follows log middle last →
      ∀ create reply,
        ⟨(last, .store (.createLoginTransaction create)), reply⟩ ∉ log
  lifetimes : ∀ caller create reply,
    ⟨(caller, .store (.createLoginTransaction create)), reply⟩ ∈ log →
      Expires state (own caller log) create

/-- A consumed transaction is the value that its event uses up. -/
theorem consumedTransaction_eq
    (event : PoolEvent Nat Operation Operation.Reply) :
    consumedTransaction event =
      (spentBy event).bind fun
        | .loginTransaction id => some id
        | _ => none := by
  obtain ⟨⟨caller, operation⟩, reply⟩ := event
  cases operation with
  | store call =>
      cases reply with
      | error error => cases call <;> rfl
      | ok result =>
          cases call with
          | consumeStepUpGrant request => cases result <;> rfl
          | _ => rfl
  | _ => rfl

/-- No run consumes a transaction twice. -/
theorem Serves.nodup_consumed
    (serves : Serves environment state requests log pool store) :
    (log.filterMap consumedTransaction).Nodup := by
  have nodup := Store.nodup_spent (trace_of_run serves)
  rw [List.filterMap_filterMap] at nodup
  rw [funext consumedTransaction_eq]
  rw [← List.filterMap_filterMap]
  refine nodup.filterMap ?_
  intro first second id first_eq second_eq
  cases first with
  | loginTransaction =>
      cases second with
      | loginTransaction =>
          exact congrArg Item.loginTransaction
            (Option.some.inj (first_eq.trans second_eq.symm))
      | _ => cases second_eq
  | _ => cases first_eq

/-- No request creates two pending factors. -/
theorem Serves.nodup_factorCreations
    (serves : Serves environment state requests log pool store) :
    ((log.filter fun event => isFactorCreation event.call.2).map
      fun event => event.call.1).Nodup := by
  refine Run.nodup_callers isFactorCreation
    (fun _ _ _ _ taken => ⟨_, _, taken⟩)
    (fun caller => (@Request.handler_satisfies (Answered environment)
      environment state (requests caller)).mono fun _ _ _ => trivial)
    ?_ serves
  intro caller history operation guarantee creates
  cases operation with
  | store call =>
      cases call with
      | createPendingTotpFactor => exact guarantee.2.2.2
      | _ => cases creates
  | _ => cases creates

/-- A transaction with a factor is left to the confirmation. -/
theorem confirms_of_factor
    {consume : ConsumeLoginTransaction}
    {record : LoginTransactionRecord}
    (guarded : Guarded (PoolStep (Operation.Step environment))
      (FactorFree requests)
      (fun caller => (requests caller).handler environment state, .empty) log
      (pool, store))
    (mem : ⟨(caller, .store (.consumeLoginTransaction consume)),
      .ok record⟩ ∈ log)
    (bound : record.factorId ≠ none) :
    (requests caller).confirmsEnrollment = true := by
  have serves : Serves environment state requests log pool store :=
    guarded.trace
  obtain ⟨creator, create, created, created_mem, -, -, -, factor_eq, stage_eq,
    expected⟩ := serves.exists_creation mem
  have stage := serves.stage_of_factor created_mem (factor_eq ▸ bound)
  have consumes := serves.consumes_of_mem mem
  rw [← expected, ← stage_eq, stage] at consumes
  refine (Request.of_consumedStage consumes).resolve_left fun begins => bound ?_
  obtain ⟨before, after, rfl⟩ := List.append_of_mem mem
  obtain ⟨⟨_, earlier⟩, ⟨_, later⟩, -, free, moved, -⟩ := guarded.exists_of_cons
  cases moved with
  | answered waits taken =>
      cases taken with
      | stored taken =>
          cases taken.effect with
          | loginTransactionConsumed generated found =>
              obtain ⟨row_mem, selected⟩ := Sql.Table.find?_eq_some found
              exact free begins consume rfl _ row_mem _ selected
      | elsewhere answers => exact answers.elim

/-- In every run whose enrollments start from transactions without a factor,
each transaction leads to one next step. -/
theorem transactions_lead_to_one_step
    (guarded : Guarded (PoolStep (Operation.Step environment))
      (FactorFree requests)
      (fun caller => (requests caller).handler environment state, .empty) log
      (pool, store)) :
    OneNextStep state requests log pool := by
  have serves : Serves environment state requests log pool store :=
    guarded.trace
  constructor
  case consumed_once => exact serves.nodup_consumed
  case factor_confirms =>
    intro caller consume record mem bound
    exact confirms_of_factor guarded mem bound
  case confirmation_denies =>
    intro caller consume record response mem unbound confirms done
    have ensures : LoginEnsures (requests caller) (own caller log) response :=
      Run.ensures_of_done (fun _ _ _ _ taken => ⟨_, _, taken⟩)
        (@Request.handler_satisfies (Answered environment) environment state
          (requests caller)) serves done
    exact ensures confirms record ⟨consume, mem_own_iff.mpr mem⟩ unbound
  case factor_after_password =>
    intro caller create reply mem
    obtain ⟨before, after, log_eq, -, begins, ⟨record, consumed⟩, -⟩ :=
      serves.exists_loginGuarantee mem
    obtain ⟨consume, consumed_mem⟩ := consumed.exists_mem
    have consumed_mem := log_eq ▸ List.mem_append_left _ consumed_mem
    obtain ⟨login, create, created, created_mem, id_eq, -, -, factor_eq, -⟩ :=
      serves.exists_creation consumed_mem
    obtain ⟨-, ⟨-, starts, verified⟩ | ⟨bound, -⟩⟩ := serves.issues created_mem
    · exact ⟨login, starts, verified, create, created, consume, record,
        created_mem, consumed_mem, id_eq.symm⟩
    · have confirms := confirms_of_factor guarded consumed_mem
        (factor_eq ▸ bound)
      generalize requests caller = request at begins confirms
      cases request with
      | beginTotpEnrollment => cases confirms
      | _ => cases begins
  case one_follower =>
    exact fun login first second => serves.eq_of_follows
  case one_factor => exact serves.nodup_factorCreations
  case two_transactions =>
    rintro login middle last ⟨_, _, earlier, _, -, earlier_mem, -⟩
      ⟨create, created, consume, record, created_mem, consumed_mem, id_eq⟩
      other reply other_mem
    have bound : create.factorId ≠ none := by
      obtain ⟨-, ⟨-, starts, -⟩ | ⟨bound, -⟩⟩ := serves.issues created_mem
      · have consumes := serves.consumes_of_mem earlier_mem
        generalize requests middle = request at starts consumes
        cases request with
        | startPasswordLogin => cases consumes
        | _ => cases starts
      · exact bound
    obtain ⟨_, origin, _, origin_mem, origin_id, -, -, factor_eq, -⟩ :=
      serves.exists_creation consumed_mem
    obtain ⟨-, rfl⟩ := serves.eq_of_created origin_mem created_mem
      (origin_id.trans id_eq)
    have confirms := confirms_of_factor guarded consumed_mem
      (factor_eq ▸ bound)
    obtain ⟨-, origin⟩ := serves.issues other_mem
    generalize requests last = request at confirms origin
    cases request with
    | confirmTotpEnrollment =>
        obtain ⟨-, starts, -⟩ | ⟨-, -, begins⟩ := origin
        · cases starts
        · cases begins
    | _ => cases confirms
  case lifetimes =>
    intro caller create reply mem
    exact (serves.issues mem).1

/-! ## Samples -/

/-- A check of the condition. -/
def factorFree
    (requests : Nat → Request)
    (current : (Nat → Action Response) × Store)
    (call : Nat × Operation) : Bool :=
  match call.2 with
  | .store (.consumeLoginTransaction consume) =>
      !(requests call.1).beginsEnrollment ||
        current.2.loginTransactions.rows.all fun row =>
          row.tokenDigest != consume.tokenDigest.asBytes ||
            row.bindingDigest != consume.bindingDigest || row.factorId.isNone
  | _ => true

theorem factorFree_of_check
    {current : (Nat → Action Response) × Store}
    {call : Nat × Operation}
    (checked : factorFree requests current call = true) :
    FactorFree requests log current call := by
  intro begins consume call_eq row row_mem now selected
  obtain ⟨caller, operation⟩ := call
  obtain ⟨digest_eq, binding_eq, -⟩ := of_decide_eq_true selected
  cases call_eq
  simp only [factorFree, begins, Bool.not_true, Bool.false_or,
    List.all_eq_true] at checked
  have row_checked := checked row row_mem
  rw [digest_eq, binding_eq, bne_self_eq_false, bne_self_eq_false,
    Bool.false_or, Bool.false_or] at row_checked
  exact Option.isNone_iff_eq_none.mp row_checked

/-- A schedule that passes the check is a run that meets the condition. -/
theorem guarded_serve
    (environment : Environment)
    (state : FabricHttpState)
    (requests : Nat → Request)
    (schedule : List (Nat × Draw))
    (passed : passes (respond environment) (factorFree requests) schedule
      (fun caller => (requests caller).handler environment state, .empty) =
        true) :
    Guarded (PoolStep (Operation.Step environment)) (FactorFree requests)
      (fun caller => (requests caller).handler environment state, .empty)
      (serve environment state requests schedule).1
      ((serve environment state requests schedule).2.1,
        (serve environment state requests schedule).2.2) :=
  guarded_simulate (step_respond environment)
    (fun _ _ _ => factorFree_of_check) schedule passed .start

/-- The turns of the sample requests up to the start of an enrollment. -/
def enrollmentTurns : List Nat :=
  [0, 1] ++ .replicate 8 2 ++ .replicate 12 3

/-- A start of an enrollment that presents the transaction of the confirmation,
with a binding. -/
def secondStart (binding : Nat) : Request :=
  .beginTotpEnrollment (sampleHeaders
    [(loginTransactionCookie, 19), (loginBindingCookie, binding),
      (loginCsrfCookie, 21)] 21)

/-- The sample requests with a second start from another browser in place of the
confirmation. -/
def strangeRequests : Nat → Request
  | 4 => secondStart 7
  | caller => sampleRequests caller

/-- The second start follows on the first one. -/
def strangeTurns : List (Nat × Draw) :=
  turns (enrollmentTurns ++ .replicate 2 4)

def strangeRun : Log × (Nat → Action Response) × Store :=
  serve sampleEnvironment sampleState strangeRequests strangeTurns

/-- The requests that try to consume a login transaction, and whether they do. -/
def consumer : PoolEvent Nat Operation Operation.Reply → Option (Nat × Bool)
  | ⟨(caller, .store (.consumeLoginTransaction _)), .ok _⟩ =>
      some (caller, true)
  | ⟨(caller, .store (.consumeLoginTransaction _)), .error _⟩ =>
      some (caller, false)
  | _ => none

theorem strangeRun_facts :
    passes (respond sampleEnvironment) (factorFree strangeRequests) strangeTurns
      (fun caller =>
        (strangeRequests caller).handler sampleEnvironment sampleState,
        .empty) = true ∧
    strangeRun.1.filterMap consumer = [(3, true), (4, false)] ∧
    strangeRun.1.countP (fun event => isFactorCreation event.call.2) = 1 := by
  decide +kernel

/-- One password leads to one pending factor; a second start from another browser
presents the transaction of the confirmation and is refused. -/
theorem transactions_lead_to_one_step_enrollment :
    OneNextStep sampleState strangeRequests strangeRun.1 strangeRun.2.1 ∧
    strangeRun.1.filterMap consumer = [(3, true), (4, false)] ∧
    strangeRun.1.countP (fun event => isFactorCreation event.call.2) = 1 :=
  ⟨transactions_lead_to_one_step
      (guarded_serve _ _ _ _ strangeRun_facts.1),
    strangeRun_facts.2⟩

/-- The sample requests with the second start in place of the confirmation. -/
def repeatedRequests : Nat → Request
  | 4 => secondStart 6
  | caller => sampleRequests caller

/-- The second start follows on the first one. -/
def repeatedRun : Log × (Nat → Action Response) × Store :=
  serve sampleEnvironment sampleState repeatedRequests
    (turns (enrollmentTurns ++ .replicate 12 4))

/-- The requests of the successful consumptions of transactions with a factor. -/
def factorConsumer :
    PoolEvent Nat Operation Operation.Reply → Option Nat
  | ⟨(caller, .store (.consumeLoginTransaction _)), .ok record⟩ =>
      if record.factorId.isSome then some caller else none
  | _ => none

/-- The requests that verify a password. -/
def passwordCaller :
    PoolEvent Nat Operation Operation.Reply → Option Nat
  | ⟨(caller, .verifyPassword _ _ _), true⟩ => some caller
  | _ => none

/-- One password leads to two pending factors and three transactions: the second
start consumes a transaction with a factor. -/
theorem enrollments_start_again :
    Serves sampleEnvironment sampleState repeatedRequests repeatedRun.1
      repeatedRun.2.1 repeatedRun.2.2 ∧
    repeatedRun.1.filterMap passwordCaller = [2] ∧
    repeatedRun.1.filterMap factorConsumer = [4] ∧
    (repeatedRequests 4).beginsEnrollment = true ∧
    repeatedRun.2.2.mfaTotpFactors.rows.map (fun row => row.status) =
      [.pending, .pending] ∧
    repeatedRun.2.2.loginTransactions.rows.length = 3 :=
  ⟨serves_serve _ _ _ _, by decide +kernel⟩

end Transport
end Fabric
end Fcp
