import Mathlib.Combinatorics.Enumerative.DoubleCounting
import Fcp.Fabric.Transport.ActiveFactors

/-!
# Evidence for sessions

Every session family was created by a request that had used up evidence of a
second factor, and no evidence serves two families.  Codes are tried at most as
often as passwords were verified.
-/

namespace Fcp
namespace Fabric
namespace Transport

open Rust
open Reactive
open Service

variable {environment : Environment}
variable {state : FabricHttpState}
variable {requests : Nat → Request}
variable {log before after : Log}
variable {pool : Nat → Action Response}
variable {store : Store}
variable {tenant : TenantId}
variable {account : AccountId}

/-! ## Origins of consumed transactions -/

/-- No transaction for a session without a second factor is consumed. -/
theorem consumed_stage_ne_sessionIssuance
    {caller : Nat}
    {consume : ConsumeLoginTransaction}
    {record : LoginTransactionRecord}
    (serves : Serves environment state requests log pool store)
    (consumed : ⟨(caller, .store (.consumeLoginTransaction consume)),
      .ok record⟩ ∈ log) :
    record.stage ≠ .sessionIssuance := by
  obtain ⟨creator, create, created, called, -, -, -, -, stage, -⟩ :=
    serves.exists_creation consumed
  exact stage ▸ stage_ne_sessionIssuance serves called

/-! ## Evidence -/

/-- The factor that a piece of evidence is about. -/
def Evidence.factor : Evidence → Option Uuid
  | totp _ factor _ => some factor
  | enrollment _ factor => some factor
  | passkey _ => none

/-- A family was created by a request that had shown the evidence before; a
factor of the evidence is the active factor of the account. -/
def Backs
    (environment : Environment)
    (log : Log)
    (store : Store)
    (family : SessionFamilyRow)
    (evidence : Evidence) : Prop :=
  (∃ before caller session record after,
    log = before ++
      ⟨(caller, .store (.createRefreshSession session)), .ok record⟩ :: after ∧
    record.familyId = family.id ∧
    SecondFactor (own caller before) family.tenantId family.accountId
      environment evidence) ∧
  ∀ factor ∈ evidence.factor,
    store.activeFactors family.tenantId family.accountId = [factor]

/-- A shown value was used up by the request that shows it. -/
theorem exists_spent_of_item
    {caller : Nat}
    {evidence : Evidence}
    {item : Item}
    (shown : SecondFactor (own caller before) tenant account environment
      evidence)
    (item_mem : item ∈ evidence.items) :
    ∃ event ∈ before, event.call.1 = caller ∧ spentBy event = some item := by
  cases shown with
  | totp consumed stage recorded =>
      obtain ⟨-, -, request, consumed⟩ := consumed
      simp only [Evidence.items, List.mem_cons, List.not_mem_nil,
        or_false] at item_mem
      rcases item_mem with rfl | rfl
      · exact ⟨_, mem_own_iff.mp consumed, rfl, rfl⟩
      · exact ⟨_, mem_own_iff.mp recorded.1, rfl, rfl⟩
  | enrollment consumed stage bound activated =>
      obtain ⟨-, -, request, consumed⟩ := consumed
      simp only [Evidence.items, List.mem_cons, List.not_mem_nil,
        or_false] at item_mem
      rcases item_mem with rfl | rfl
      · exact ⟨_, mem_own_iff.mp consumed, rfl, rfl⟩
      · exact ⟨_, mem_own_iff.mp activated, rfl, rfl⟩
  | passkey consumed =>
      rw [Evidence.items, List.mem_singleton] at item_mem
      subst item_mem
      exact ⟨_, mem_own_iff.mp consumed, rfl, rfl⟩

/-- A factor on which a step was recorded is the active one at the end. -/
theorem activeFactors_of_recorded
    {caller : Nat}
    {step : ConsumeTotpStep}
    (serves : Serves environment state requests log pool store)
    (recorded : ⟨(caller, .store (.consumeTotpStep step)), .ok ()⟩ ∈ log) :
    store.activeFactors step.tenantId step.accountId = [step.factorId] := by
  obtain ⟨before, after, rfl⟩ := List.append_of_mem recorded
  obtain ⟨_, earlier, _, _, -, effect, rest⟩ := exists_effect_of_run serves
  have progress := effect.progress.trans
    (Store.progress_of_trace (trace_of_run rest))
  cases effect with
  | stepConsumed _ factor_active =>
      obtain ⟨row, row_mem, selected⟩ :=
        Sql.Table.exists_of_count_eq_one factor_active
      obtain ⟨row_id, row_tenant, row_account, active, -⟩ :=
        of_decide_eq_true selected
      rw [← row_id, ← row_tenant, ← row_account]
      exact Store.activeFactors_eq_singleton_of_progress row_mem active progress

/-- A factor that was activated is the active one at the end. -/
theorem activeFactors_of_activated
    {caller : Nat}
    {request : ActivateTotpFactor}
    (serves : Serves environment state requests log pool store)
    (activated : ⟨(caller, .store (.activateTotpFactor request)), .ok ()⟩ ∈
      log) :
    store.activeFactors request.tenantId request.accountId =
      [request.factorId] := by
  obtain ⟨before, after, rfl⟩ := List.append_of_mem activated
  obtain ⟨_, earlier, _, _, -, effect, rest⟩ := exists_effect_of_run serves
  have progress := Store.progress_of_trace (trace_of_run rest)
  cases effect with
  | @factorActivated _ generated later _ _ factor_pending _ factors_rows =>
      obtain ⟨row, row_mem, selected⟩ :=
        Sql.Table.exists_of_count_eq_one factor_pending
      obtain ⟨row_id, row_tenant, row_account, -⟩ := of_decide_eq_true selected
      have active_mem : request.activates generated row ∈ later.rows := by
        rw [factors_rows]
        exact List.mem_map.mpr ⟨row, row_mem, Sql.modify_of_selects selected⟩
      have only :=
        Store.activeFactors_eq_singleton_of_progress active_mem rfl progress
      simpa only [ActivateTotpFactor.activates, row_id, row_tenant,
        row_account] using only

/-- Every family has evidence. -/
theorem exists_backing
    {family : SessionFamilyRow}
    (serves : Serves environment state requests log pool store)
    (family_mem : family ∈ store.sessionFamilies.rows) :
    ∃ evidence, Backs environment log store family evidence := by
  obtain ⟨session, record, created, id, tenant_eq, account_eq⟩ :=
    (Store.originates_of_trace (trace_of_run serves)).family family family_mem
  obtain ⟨caller, created⟩ := exists_caller created
  obtain ⟨before, after, log_eq⟩ := List.append_of_mem created
  obtain ⟨-, entitled⟩ := (log_eq ▸ serves).guarantee
  have earlier {event : PoolEvent Nat Operation Operation.Reply}
      (event_mem : event ∈ before) : event ∈ log :=
    log_eq ▸ List.mem_append_left _ event_mem
  rcases entitled with ⟨evidence, shown⟩ | ⟨record, consumed, stage⟩
  · dsimp only at shown
    rw [tenant_eq, account_eq] at shown
    refine ⟨evidence, ⟨before, caller, session, record, after, log_eq, id,
      shown⟩, ?_⟩
    cases shown with
    | totp consumed stage recorded =>
        obtain ⟨recorded, step_tenant, step_account⟩ := recorded
        rintro factor ⟨⟩
        rw [← step_tenant, ← step_account]
        exact activeFactors_of_recorded serves
          (earlier (mem_own_iff.mp recorded))
    | enrollment consumed stage bound activated factor_tenant factor_account =>
        rintro factor ⟨⟩
        rw [← factor_tenant, ← factor_account]
        exact activeFactors_of_activated serves
          (earlier (mem_own_iff.mp activated))
    | passkey => exact nofun
  · obtain ⟨-, -, request, consumed⟩ := consumed
    exact absurd stage (consumed_stage_ne_sessionIssuance serves
      (earlier (mem_own_iff.mp consumed)))

/-- Families with a common value of evidence are the same. -/
theorem id_eq_of_common_item
    {first second : SessionFamilyRow}
    {evidence other : Evidence}
    {item : Item}
    (serves : Serves environment state requests log pool store)
    (backs : Backs environment log store first evidence)
    (backsOther : Backs environment log store second other)
    (item_mem : item ∈ evidence.items)
    (item_mem_other : item ∈ other.items) :
    first.id = second.id := by
  obtain ⟨⟨before, caller, session, record, after, log_eq, id, shown⟩, -⟩ :=
    backs
  obtain ⟨⟨before', caller', session', record', after', log_eq', id', shown'⟩,
    -⟩ := backsOther
  obtain ⟨event, event_mem, own_event, spends⟩ :=
    exists_spent_of_item shown item_mem
  obtain ⟨event', event_mem', own_event', spends'⟩ :=
    exists_spent_of_item shown' item_mem_other
  have same_event : event = event' := eq_of_spentBy serves
    (log_eq ▸ List.mem_append_left _ event_mem)
    (log_eq' ▸ List.mem_append_left _ event_mem') spends spends'
  have same_caller : caller = caller' := by
    rw [← own_event, ← own_event', same_event]
  subst same_caller
  have created_mem :
      ⟨(caller, .store (.createRefreshSession session)), .ok record⟩ ∈ log :=
    log_eq ▸ List.mem_append_right before List.mem_cons_self
  have created_mem' :
      ⟨(caller, .store (.createRefreshSession session')), .ok record'⟩ ∈ log :=
    log_eq' ▸ List.mem_append_right before' List.mem_cons_self
  cases serves.eq_of_caller created_mem created_mem' rfl rfl rfl
  exact id.symm.trans id'

/-! ## Tries of codes -/

/-- Whether an event is the check of a code that completes a login of an
account. -/
def triesCode
    (requests : Nat → Request)
    (tenant : TenantId)
    (account : AccountId)
    (event : PoolEvent Nat Operation Operation.Reply) : Bool :=
  match event.call with
  | (caller, .verifyTotp attempt) =>
      (requests caller).completesLogin && decide
        (attempt.binding.tenantId = tenant ∧ attempt.binding.accountId = account)
  | _ => false

/-- Whether an event is the reading of an account by a request. -/
def readsAccount
    (tenant : TenantId)
    (account : AccountId)
    (reader : Nat) :
    PoolEvent Nat Operation Operation.Reply → Bool
  | ⟨(caller, .store (.loginAccount _)), .ok (some login)⟩ =>
      caller = reader ∧ login.tenantId = tenant ∧ login.accountId = account
  | _ => false

/-- Whether an event is a successful password verification by a request that
read the account. -/
def verifiesPassword
    (log : Log)
    (tenant : TenantId)
    (account : AccountId) :
    PoolEvent Nat Operation Operation.Reply → Bool
  | ⟨(caller, .verifyPassword _ _ _), true⟩ =>
      log.any (readsAccount tenant account caller)
  | _ => false

/-- Every tried code follows a password verification. -/
theorem exists_verification_of_tried
    {event : PoolEvent Nat Operation Operation.Reply}
    (serves : Serves environment state requests log pool store)
    (event_mem : event ∈ log)
    (tries : triesCode requests tenant account event = true) :
    ∃ verification ∈ log, verifiesPassword log tenant account verification ∧
      Follows log verification.call.1 event.call.1 := by
  obtain ⟨⟨caller, operation⟩, reply⟩ := event
  cases operation with
  | verifyTotp attempt =>
      obtain ⟨completes, same⟩ := Bool.and_eq_true_iff.mp tries
      obtain ⟨tenant_eq, account_eq⟩ := of_decide_eq_true same
      obtain ⟨before, after, log_eq⟩ := List.append_of_mem event_mem
      obtain ⟨-, challenged⟩ := (log_eq ▸ serves).guarantee
      obtain ⟨record, ⟨record_tenant, record_account, consume, consumed⟩,
        stage⟩ := challenged completes
      have consumed_mem := log_eq ▸
        List.mem_append_left _ (mem_own_iff.mp consumed)
      obtain ⟨creator, create, created, created_mem, id, create_tenant,
        create_account, -, create_stage, -⟩ :=
          serves.exists_creation consumed_mem
      obtain ⟨earlier, _, created_eq⟩ := List.append_of_mem created_mem
      obtain ⟨-, justified⟩ := (created_eq ▸ serves).guarantee
      simp only [Justified, create_stage, stage] at justified
      obtain ⟨address, login, read, login_tenant, login_account, password,
        verifier, maximum, verified⟩ := justified
      have in_log {event : PoolEvent Nat Operation Operation.Reply}
          (event_mem : event ∈ earlier) : event ∈ log :=
        created_eq ▸ List.mem_append_left _ event_mem
      refine ⟨_, in_log (mem_own_iff.mp verified), ?_, create, created, consume,
        record, created_mem, consumed_mem, id.symm⟩
      refine List.any_eq_true.mpr ⟨_, in_log (mem_own_iff.mp read),
        decide_eq_true ⟨rfl, ?_, ?_⟩⟩
      · exact login_tenant.trans
          (create_tenant.trans (record_tenant.trans tenant_eq))
      · exact login_account.trans
          (create_account.trans (record_account.trans account_eq))
  | _ => cases tries

/-- Codes are tried at most as often as passwords were verified. -/
theorem length_tries_le
    (serves : Serves environment state requests log pool store)
    (tenant : TenantId)
    (account : AccountId) :
    (log.filter (triesCode requests tenant account)).length ≤
      (log.filter (verifiesPassword log tenant account)).length := by
  classical
  let tries := (log.filter (triesCode requests tenant account)).map (·.call.1)
  let verifications :=
    (log.filter (verifiesPassword log tenant account)).map (·.call.1)
  have tries_nodup : tries.Nodup := by
    refine (serves.nodup_callers .codeCheck).sublist (.map _ ?_)
    refine List.monotone_filter_right log fun event tried => ?_
    obtain ⟨⟨caller, operation⟩, reply⟩ := event
    cases operation with
    | verifyTotp attempt => rfl
    | _ => cases tried
  have linked : ∀ caller ∈ tries.toFinset,
      ∃ verifier ∈ verifications.toFinset, Follows log verifier caller := by
    intro caller caller_mem
    obtain ⟨event, event_mem, rfl⟩ :=
      List.mem_map.mp (List.mem_toFinset.mp caller_mem)
    obtain ⟨event_mem, tried⟩ := List.mem_filter.mp event_mem
    obtain ⟨verification, verification_mem, verifies, follows⟩ :=
      exists_verification_of_tried serves event_mem tried
    exact ⟨_, List.mem_toFinset.mpr (List.mem_map_of_mem
      (List.mem_filter.mpr ⟨verification_mem, verifies⟩)), follows⟩
  have counted := Finset.card_le_card_of_forall_subsingleton
    (fun caller verifier => Follows log verifier caller) linked
    fun verifier _ first follows second other =>
      serves.eq_of_follows follows.2 other.2
  calc (log.filter (triesCode requests tenant account)).length
      = tries.length := List.length_map _ |>.symm
    _ = tries.toFinset.card := (List.toFinset_card_of_nodup tries_nodup).symm
    _ ≤ verifications.toFinset.card := counted
    _ ≤ verifications.length := List.toFinset_card_le verifications
    _ = (log.filter (verifiesPassword log tenant account)).length :=
        List.length_map _

/-! ## The theorem -/

/-- Every family has its own evidence of a second factor, no value of which
serves two families; the families are all that requests created; and codes are
tried at most as often as the account's password was verified. -/
theorem sessions_have_second_factors
    (serves : Serves environment state requests log pool store) :
    (∃ evidence : List Evidence,
      List.Forall₂ (Backs environment log store) store.sessionFamilies.rows
        evidence ∧
      evidence.Pairwise fun first second =>
        ∀ item ∈ first.items, item ∉ second.items) ∧
    (∀ caller session record,
      ⟨(caller, .store (.createRefreshSession session)), .ok record⟩ ∈ log →
        ∃ family ∈ store.sessionFamilies.rows, family.id = record.familyId ∧
          family.tenantId = session.tenantId ∧
          family.accountId = session.accountId) ∧
    ∀ tenant account,
      (log.filter (triesCode requests tenant account)).length ≤
        (log.filter (verifiesPassword log tenant account)).length := by
  refine ⟨?_, ?_, length_tries_le serves⟩
  · refine exists_forall₂_pairwise (fun family => exists_backing serves)
      store.sessionFamilies.apart ?_
    intro first second evidence other backs otherBacks apart item item_mem
      other_mem
    exact apart (id_eq_of_common_item serves backs otherBacks item_mem other_mem)
  · intro caller session record created
    obtain ⟨before, after, rfl⟩ := List.append_of_mem created
    obtain ⟨_, earlier, _, _, -, effect, rest⟩ := exists_effect_of_run serves
    have progress := Store.progress_of_trace (trace_of_run rest)
    cases effect with
    | sessionCreated generated _ families_rows =>
        obtain ⟨family, family_mem, identity, -⟩ := progress.families
          (session.family generated) (by simp [families_rows])
        simp only [SessionFamilyRow.identity, Prod.mk.injEq] at identity
        exact ⟨family, family_mem, identity⟩

/-- Two sessions, one after an enrollment and one after a challenge. -/
theorem sessions_have_second_factors_sample :
    ∃ log pool store,
      Serves sampleEnvironment sampleState sampleRequests log pool store ∧
      store.sessionFamilies.rows.length = 2 ∧
      ∃ evidence : List Evidence, evidence.length = 2 ∧
        List.Forall₂ (Backs sampleEnvironment log store)
          store.sessionFamilies.rows evidence := by
  obtain ⟨⟨evidence, backs, -⟩, -⟩ :=
    sessions_have_second_factors serves_sampleRun
  exact ⟨_, _, _, serves_sampleRun, sampleRun_facts.1, evidence,
    backs.length_eq.symm.trans sampleRun_facts.1, backs⟩

end Transport
end Fabric
end Fcp
