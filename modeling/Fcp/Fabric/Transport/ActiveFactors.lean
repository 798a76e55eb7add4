import Fcp.Fabric.Store.Families
import Fcp.Fabric.Transport.Runs
import Fcp.Fabric.Transport.Schedules

/-!
# Password logins of active accounts

An account is active exactly while it has one active factor, which it keeps.  A
login that read an active account therefore finds the factor in its later query,
whatever happens in between, and no login ends without a second factor.
-/

namespace Fcp
namespace Fabric
namespace Transport

open Rust
open Reactive
open Service

section Programs

variable {ι α : Type} [DecidableEq ι]
variable {environment : Environment}
variable {before after : List (PoolEvent ι Operation Operation.Reply)}
variable {start final : (ι → Action α) × Store}

/-- A factor query that follows the reading of an active account. -/
theorem factor_found
    {events : List (Event Call Call.Reply)}
    {reader asker : ι}
    {address : UserAddress}
    {login : LoginAccount}
    {found : Bool}
    (reachable : Trace (Store.Step environment.unicode) .empty events start.2)
    (run : Trace (PoolStep (Operation.Step environment)) start
      (before ++ ⟨(asker, .store (.hasActiveTotpFactor login.tenantId
        login.accountId)), .ok found⟩ :: after) final)
    (read : ⟨(reader, .store (.loginAccount address)), .ok (some login)⟩ ∈
      before)
    (active : login.state = .active) :
    found = true := by
  obtain ⟨first, between, rfl⟩ := List.append_of_mem read
  obtain ⟨_, asked, _, _, asking, effect, -⟩ := exists_effect_of_run run
  obtain ⟨_, seen, _, _, reading, seeing, passing⟩ :=
    exists_effect_of_run asking
  have invariant := Store.factorInvariant_of_trace
    (reachable.append (trace_of_run reading))
  have progress := seeing.progress.trans
    (Store.progress_of_trace (trace_of_run passing))
  have login_eq : seen.loginAccount address = some login := by
    generalize some login = result at seeing
    cases seeing
    rfl
  cases effect
  exact Store.hasActiveTotpFactor_of_loginAccount invariant login_eq active
    progress

/-- The password service never authenticates an account by itself, whatever
other programs do between its queries. -/
theorem authenticate_ne_authenticated
    {events : List (Event Call Call.Reply)}
    {programs pool : ι →
      Action (Except PasswordLoginError PasswordLoginOutcome)}
    {store later : Store}
    {log : List (PoolEvent ι Operation Operation.Reply)}
    {caller : ι}
    {service : PasswordLoginService}
    {address : UserAddress}
    {password : String}
    {context : AuthorizationContext}
    (reachable : Trace (Store.Step environment.unicode) .empty events store)
    (runs : programs caller = (service.authenticate address password).run)
    (run : Run (Operation.Step environment) programs store log pool later) :
    pool caller ≠ .done (.ok (.authenticated context)) := by
  intro done
  have alone : (programs caller).Satisfies (Answered environment)
      (Guarantee environment (.beginTotpEnrollment []))
      (fun later result => ∀ outcome, result = .ok outcome →
        Continues [] [] later ∧ Supports later outcome ∧
          Decides environment service address password later outcome) [] := by
    rw [runs]
    exact authenticate_keeps service address password
  obtain ⟨-, asked, -⟩ := Run.ensures_of_done
    (fun _ _ _ _ taken => ⟨_, _, taken⟩) alone run done _ rfl
  obtain ⟨before, after, rfl⟩ := List.append_of_mem (mem_own_iff.mp asked)
  obtain ⟨-, address, login, read, tenant_eq, account_eq, active⟩ :=
    Run.guarantee_of_call (fun _ _ _ _ taken => ⟨_, _, taken⟩) alone run
  have read := mem_own_iff.mp read
  rw [← tenant_eq, ← account_eq] at run
  exact absurd (factor_found reachable run read active) Bool.false_ne_true

end Programs

section Requests

variable {environment : Environment}
variable {state : FabricHttpState}
variable {requests : Nat → Request}
variable {log : Log}
variable {pool : Nat → Action Response}
variable {store : Store}

/-- No request starts a login that needs no second factor. -/
theorem stage_ne_sessionIssuance
    {caller : Nat}
    {transaction : CreateLoginTransaction}
    {reply : (Operation.store (.createLoginTransaction transaction)).Reply}
    (serves : Serves environment state requests log pool store)
    (called : ⟨(caller, .store (.createLoginTransaction transaction)),
      reply⟩ ∈ log) :
    transaction.stage ≠ .sessionIssuance := by
  intro stage
  obtain ⟨before, after, rfl⟩ := List.append_of_mem called
  obtain ⟨-, justified⟩ := serves.guarantee
  simp only [Justified, stage] at justified
  obtain ⟨earlier, between, rfl⟩ :=
    List.append_of_mem (mem_own_iff.mp justified)
  rw [List.append_assoc] at serves
  obtain ⟨-, address, login, read, tenant_eq, account_eq, active⟩ :=
    serves.guarantee
  have read := mem_own_iff.mp read
  rw [← tenant_eq, ← account_eq] at serves
  exact absurd (factor_found .start serves read active) Bool.false_ne_true

/-- No pending transaction needs no second factor. -/
theorem stage_ne_awaits_sessionIssuance
    {row : LoginTransactionRow}
    (serves : Serves environment state requests log pool store)
    (row_mem : row ∈ store.loginTransactions.rows) :
    row.stage ≠ .awaits .sessionIssuance := by
  intro awaits
  obtain ⟨transaction, record, created, -, -, -, -, stage⟩ :=
    (Store.originates_of_trace (trace_of_run serves)).transaction row row_mem
  obtain ⟨caller, called⟩ := exists_caller created
  exact stage_ne_sessionIssuance serves called (stage _ awaits)

end Requests

/-- In every reachable database an account is active exactly if it has one
active factor, and it keeps that factor in every later database.  So the
password service never authenticates by itself, from any reachable database and
beside any other programs, and the requests never create a transaction for a
session without a second factor. -/
theorem active_iff_one_kept_factor
    {environment : Environment}
    {events : List (Event Call Call.Reply)}
    {store : Store}
    (reachable : Trace (Store.Step environment.unicode) .empty events store) :
    (∀ account ∈ store.accounts.rows,
      (account.state = .active ↔
        ∃ factor, store.activeFactors account.tenantId account.id = [factor]) ∧
      (account.state = .active → ∀ more later,
        Trace (Store.Step environment.unicode) store more later →
          later.activeFactors account.tenantId account.id =
            store.activeFactors account.tenantId account.id)) ∧
    (∀ (ι : Type) [DecidableEq ι]
        (programs pool : ι →
          Action (Except PasswordLoginError PasswordLoginOutcome))
        (log : List (PoolEvent ι Operation Operation.Reply)) (later : Store)
        (caller : ι) (service : PasswordLoginService) (address : UserAddress)
        (password : String) (context : AuthorizationContext),
      programs caller = (service.authenticate address password).run →
      Run (Operation.Step environment) programs store log pool later →
        pool caller ≠ .done (.ok (.authenticated context))) ∧
    (∀ (state : FabricHttpState) (requests : Nat → Request) (log : Log)
        (pool : Nat → Action Response) (later : Store),
      Serves environment state requests log pool later →
        (∀ caller transaction reply,
          ⟨(caller, .store (.createLoginTransaction transaction)), reply⟩ ∈
            log → transaction.stage ≠ .sessionIssuance) ∧
        ∀ row ∈ later.loginTransactions.rows,
          row.stage ≠ .awaits .sessionIssuance) := by
  have invariant := Store.factorInvariant_of_trace reachable
  refine ⟨fun account account_mem => ⟨?_, fun active more later trace => ?_⟩,
    fun ι _ programs pool log later caller service address password context runs
      run => ?_, fun state requests log pool later serves => ⟨?_, ?_⟩⟩
  · exact Store.active_iff_activeFactors invariant account_mem
  · exact Store.activeFactors_of_progress invariant account_mem active
      (Store.progress_of_trace trace)
  · exact authenticate_ne_authenticated reachable runs run
  · exact fun caller transaction reply => stage_ne_sessionIssuance serves
  · exact fun row => stage_ne_awaits_sessionIssuance serves

/-- An account that has enrolled its factor. -/
theorem active_iff_one_kept_factor_enrolled :
    ∃ (events : List (Event Call Call.Reply)) (store : Store)
      (account : AccountRow) (factor : Uuid),
      Trace (Store.Step .sample) .empty events store ∧
      account ∈ store.accounts.rows ∧ account.state = .active ∧
      store.activeFactors account.tenantId account.id = [factor] := by
  obtain ⟨events, trace⟩ : ∃ events, Trace (Store.Step .sample) Store.empty
      events (Store.replay .sample .empty Store.enrolled) :=
    Store.exists_trace_replay .empty Store.enrolled
  have found : ((Store.replay .sample .empty Store.enrolled).accounts.any
      fun account => account.state = .active) = true := by
    decide +kernel
  obtain ⟨account, account_mem, active⟩ := List.any_eq_true.mp found
  have active := of_decide_eq_true active
  have described := @active_iff_one_kept_factor sampleEnvironment _ _ trace
  obtain ⟨factor, only⟩ := (described.1 account account_mem).1.mp active
  exact ⟨events, _, account, factor, trace, account_mem, active, only⟩

end Transport
end Fabric
end Fcp
