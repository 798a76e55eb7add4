import Fcp.Fabric.Store.Progress

/-!
# Factors and account states

An account is active exactly while it has an active factor, and it keeps the
factor that activated it.  The time steps accepted on a factor only increase.
-/

namespace Fcp
namespace Fabric

open Rust
open Sql
open Reactive

variable {unicode : Unicode}
variable {generated : Generated}

/-- Account states agree with factors. -/
structure FactorInvariant (accounts : Accounts) (factors : TotpFactors) :
    Prop where
  owner : ∀ factor ∈ factors.rows, ∃ account ∈ accounts.rows,
    account.id = factor.accountId ∧ account.tenantId = factor.tenantId
  active_iff : ∀ account ∈ accounts.rows,
    account.state = .active ↔ ∃ factor ∈ factors.rows,
      factor.tenantId = account.tenantId ∧ factor.accountId = account.id ∧
        factor.status = .active

namespace FactorInvariant

variable {accounts laterAccounts : Accounts}
variable {factors laterFactors : TotpFactors}

/-- A new account has no factor. -/
theorem addAccount
    {added : AccountRow}
    (invariant : FactorInvariant accounts factors)
    (inactive : added.state ≠ .active)
    (accounts_rows : laterAccounts.rows = accounts.rows ++ [added]) :
    FactorInvariant laterAccounts factors := by
  have fresh : ∀ account ∈ accounts.rows, account.id ≠ added.id := by
    have apart := laterAccounts.apart
    rw [accounts_rows] at apart
    intro account account_mem
    exact ((List.pairwise_append.mp apart).2.2 account account_mem added
      List.mem_cons_self).1
  constructor
  case owner =>
    intro factor factor_mem
    obtain ⟨account, account_mem, same⟩ := invariant.owner factor factor_mem
    exact ⟨account, accounts_rows ▸ List.mem_append_left _ account_mem, same⟩
  case active_iff =>
    intro account account_mem
    rw [accounts_rows, List.mem_append, List.mem_singleton] at account_mem
    rcases account_mem with account_mem | rfl
    · exact invariant.active_iff account account_mem
    · refine iff_of_false inactive ?_
      rintro ⟨factor, factor_mem, -, factor_account, -⟩
      obtain ⟨other, other_mem, other_id, -⟩ :=
        invariant.owner factor factor_mem
      exact fresh other other_mem (other_id.trans factor_account)

/-- A new pending factor leaves account states alone. -/
theorem addFactor
    {added : TotpFactorRow}
    (invariant : FactorInvariant accounts factors)
    (owner : ∃ account ∈ accounts.rows, account.id = added.accountId ∧
      account.tenantId = added.tenantId)
    (pending : added.status = .pending)
    (factors_rows : laterFactors.rows = factors.rows ++ [added]) :
    FactorInvariant accounts laterFactors := by
  constructor
  case owner =>
    intro factor factor_mem
    rw [factors_rows, List.mem_append, List.mem_singleton] at factor_mem
    rcases factor_mem with factor_mem | rfl
    · exact invariant.owner factor factor_mem
    · exact owner
  case active_iff =>
    intro account account_mem
    rw [invariant.active_iff account account_mem, factors_rows]
    constructor
    · rintro ⟨factor, factor_mem, active⟩
      exact ⟨factor, List.mem_append_left _ factor_mem, active⟩
    · rintro ⟨factor, factor_mem, tenant, owner, active⟩
      rw [List.mem_append, List.mem_singleton] at factor_mem
      rcases factor_mem with factor_mem | rfl
      · exact ⟨factor, factor_mem, tenant, owner, active⟩
      · rw [pending] at active
        contradiction

/-- An activation makes one factor and its account active. -/
theorem activate
    {request : ActivateTotpFactor}
    (invariant : FactorInvariant accounts factors)
    (factor_pending : factors.count request.selects = 1)
    (account_awaits : accounts.count request.selectsAccount = 1)
    (factors_rows : laterFactors.rows =
      factors.rows.map (modify request.selects (request.activates generated)))
    (accounts_rows : laterAccounts.rows =
      accounts.rows.map
        (modify request.selectsAccount
          (ActivateTotpFactor.releases generated))) :
    FactorInvariant laterAccounts laterFactors := by
  obtain ⟨target, target_mem, target_selected⟩ :=
    Table.exists_of_count_eq_one factor_pending
  obtain ⟨released, released_mem, released_selected⟩ :=
    Table.exists_of_count_eq_one account_awaits
  constructor
  case owner =>
    intro factor factor_mem
    rw [factors_rows] at factor_mem
    obtain ⟨before, before_mem, rfl⟩ := List.mem_map.mp factor_mem
    obtain ⟨account, account_mem, same⟩ := invariant.owner before before_mem
    refine ⟨_, accounts_rows ▸ List.mem_map_of_mem account_mem, ?_⟩
    unfold Sql.modify
    split <;> split <;> exact same
  case active_iff =>
    intro account account_mem
    rw [accounts_rows] at account_mem
    obtain ⟨before, before_mem, rfl⟩ := List.mem_map.mp account_mem
    cases selected : request.selectsAccount before with
    | true =>
        obtain ⟨same_id, same_tenant, -⟩ := of_decide_eq_true selected
        obtain ⟨-, target_tenant, target_account, -⟩ :=
          of_decide_eq_true target_selected
        rw [modify_of_selects selected]
        refine iff_of_true rfl ⟨request.activates generated target, ?_,
          target_tenant.trans same_tenant.symm,
          target_account.trans same_id.symm, rfl⟩
        rw [factors_rows]
        exact List.mem_map.mpr
          ⟨target, target_mem, modify_of_selects target_selected⟩
    | false =>
        rw [modify_of_not_selects selected,
          invariant.active_iff before before_mem, factors_rows]
        constructor
        · rintro ⟨factor, factor_mem, tenant, owner, active⟩
          refine ⟨factor, List.mem_map.mpr ⟨factor, factor_mem, ?_⟩, tenant,
            owner, active⟩
          refine modify_of_not_selects (decide_eq_false ?_)
          rintro ⟨-, -, -, pending⟩
          rw [pending] at active
          contradiction
        · rintro ⟨_, factor_mem, tenant, owner, active⟩
          obtain ⟨factor, before_factor_mem, rfl⟩ :=
            List.mem_map.mp factor_mem
          cases chosen : request.selects factor with
          | true =>
              -- The activated factor belongs to the released account.
              rw [modify_of_selects chosen] at tenant owner
              obtain ⟨-, -, factor_account, -⟩ := of_decide_eq_true chosen
              obtain ⟨released_id, -, -⟩ := of_decide_eq_true released_selected
              have same : released = before :=
                Table.eq_of_key (fun apart => apart.1) released_mem before_mem
                  (released_id.trans (factor_account.symm.trans owner))
              rw [same, selected] at released_selected
              contradiction
          | false =>
              rw [modify_of_not_selects chosen] at tenant owner active
              exact ⟨factor, before_factor_mem, tenant, owner, active⟩

/-- A recorded step leaves statuses alone. -/
theorem recordStep
    {request : ConsumeTotpStep}
    (invariant : FactorInvariant accounts factors)
    (factors_rows : laterFactors.rows =
      factors.rows.map (modify request.selects request.records)) :
    FactorInvariant accounts laterFactors := by
  constructor
  case owner =>
    intro factor factor_mem
    rw [factors_rows] at factor_mem
    obtain ⟨before, before_mem, rfl⟩ := List.mem_map.mp factor_mem
    have owner := invariant.owner before before_mem
    unfold Sql.modify
    split <;> exact owner
  case active_iff =>
    intro account account_mem
    rw [invariant.active_iff account account_mem, factors_rows]
    constructor
    · rintro ⟨factor, factor_mem, active⟩
      refine ⟨_, List.mem_map_of_mem factor_mem, ?_⟩
      unfold Sql.modify
      split <;> exact active
    · rintro ⟨factor, factor_mem, active⟩
      obtain ⟨before, before_mem, rfl⟩ := List.mem_map.mp factor_mem
      refine ⟨before, before_mem, ?_⟩
      unfold Sql.modify at active
      split at active <;> exact active

end FactorInvariant

/-- The factor invariant of a store. -/
abbrev Store.FactorInvariant (store : Store) : Prop :=
  Fabric.FactorInvariant store.accounts store.mfaTotpFactors

namespace Store

variable {store later : Store}
variable {call : Call}
variable {result : call.Result}
variable {events : List (Event Call Call.Reply)}

/-- Successful calls keep account states and factors in agreement. -/
theorem Effect.factorInvariant
    (invariant : store.FactorInvariant)
    (effect : Effect unicode store call result later) :
    later.FactorInvariant := by
  cases effect with
  | tenantBootstrapped generated valid tenants_rows accounts_rows =>
      exact invariant.addAccount (by simp [BootstrapTenant.owner]) accounts_rows
  | accountInvited generated valid tenant_exists accounts_rows =>
      exact invariant.addAccount (by simp [InviteAccount.account]) accounts_rows
  | pendingFactorCreated generated account_exists factors_rows =>
      obtain ⟨account, account_mem, selected⟩ := List.any_eq_true.mp account_exists
      obtain ⟨id, tenant⟩ := of_decide_eq_true selected
      exact invariant.addFactor ⟨account, account_mem, id, tenant⟩ rfl
        factors_rows
  | factorActivated generated factor_pending account_awaits factors_rows
      accounts_rows =>
      exact invariant.activate factor_pending account_awaits factors_rows
        accounts_rows
  | stepConsumed _ _ factors_rows => exact invariant.recordStep factors_rows
  | _ => exact invariant

/-- Every reachable store has the factor invariant. -/
theorem factorInvariant_of_trace
    (trace : Trace (Step unicode) .empty events store) :
    store.FactorInvariant := by
  refine invariant_of_trace Effect.factorInvariant trace ?_
  constructor <;> simp [Store.empty]

/-- The active factors of an account. -/
def activeFactors
    (store : Store)
    (tenant : TenantId)
    (account : AccountId) : List Uuid :=
  (store.mfaTotpFactors.rows.filter fun row =>
    row.tenantId = tenant ∧ row.accountId = account ∧
      row.status = .active).map (·.id)

/-- An active factor is the only one of its account. -/
theorem activeFactors_eq_singleton
    {row : TotpFactorRow}
    (row_mem : row ∈ store.mfaTotpFactors.rows)
    (active : row.status = .active) :
    store.activeFactors row.tenantId row.accountId = [row.id] := by
  let selects (other : TotpFactorRow) : Bool :=
    other.tenantId = row.tenantId ∧ other.accountId = row.accountId ∧
      other.status = .active
  have row_selected : selects row = true := decide_eq_true ⟨rfl, rfl, active⟩
  have close {first second : TotpFactorRow}
      (first_selected : selects first = true)
      (second_selected : selects second = true) :
      ¬TotpFactorRow.Apart first second := by
    obtain ⟨first_tenant, first_account, first_active⟩ :=
      of_decide_eq_true first_selected
    obtain ⟨second_tenant, second_account, second_active⟩ :=
      of_decide_eq_true second_selected
    exact fun apart => apart.2 ⟨first_active, second_active,
      first_tenant.trans second_tenant.symm,
      first_account.trans second_account.symm⟩
  have single := Table.count_eq_one close row_mem row_selected
  rw [Table.count, List.countP_eq_length_filter,
    List.length_eq_one_iff] at single
  obtain ⟨other, only⟩ := single
  have row_only := List.mem_filter.mpr ⟨row_mem, row_selected⟩
  rw [only, List.mem_singleton] at row_only
  subst row_only
  exact congrArg (List.map TotpFactorRow.id) only

/-- An account is active exactly while it has one active factor. -/
theorem active_iff_activeFactors
    {account : AccountRow}
    (invariant : store.FactorInvariant)
    (account_mem : account ∈ store.accounts.rows) :
    account.state = .active ↔
      ∃ factor, store.activeFactors account.tenantId account.id = [factor] := by
  rw [invariant.active_iff account account_mem]
  constructor
  · rintro ⟨factor, factor_mem, tenant, owner, active⟩
    rw [← tenant, ← owner]
    exact ⟨factor.id, activeFactors_eq_singleton factor_mem active⟩
  · rintro ⟨id, only⟩
    have id_mem : id ∈ store.activeFactors account.tenantId account.id :=
      only ▸ List.mem_cons_self
    obtain ⟨factor, selected, -⟩ := List.mem_map.mp id_mem
    obtain ⟨factor_mem, selected⟩ := List.mem_filter.mp selected
    exact ⟨factor, factor_mem, of_decide_eq_true selected⟩

/-- An active factor stays the only one of its account. -/
theorem activeFactors_eq_singleton_of_progress
    {row : TotpFactorRow}
    (row_mem : row ∈ store.mfaTotpFactors.rows)
    (active : row.status = .active)
    (progress : Progress store later) :
    later.activeFactors row.tenantId row.accountId = [row.id] := by
  obtain ⟨next, next_mem, identity, settled⟩ := progress.factors row row_mem
  obtain ⟨same_id, same_tenant, same_account⟩ :=
    TotpFactorRow.identity_eq_iff.mp identity
  rw [← same_id, ← same_tenant, ← same_account]
  exact activeFactors_eq_singleton next_mem (settled active)

/-- An active account keeps its factor. -/
theorem activeFactors_of_progress
    {account : AccountRow}
    (invariant : store.FactorInvariant)
    (account_mem : account ∈ store.accounts.rows)
    (active : account.state = .active)
    (progress : Progress store later) :
    later.activeFactors account.tenantId account.id =
      store.activeFactors account.tenantId account.id := by
  obtain ⟨factor, factor_mem, tenant, owner, factor_active⟩ :=
    (invariant.active_iff account account_mem).mp active
  have before := activeFactors_eq_singleton factor_mem factor_active
  have kept := activeFactors_eq_singleton_of_progress factor_mem factor_active
    progress
  rw [← tenant, ← owner]
  exact kept.trans before.symm

/-- A login that read an active account finds its factor at any later time. -/
theorem hasActiveTotpFactor_of_loginAccount
    {address : UserAddress}
    {login : LoginAccount}
    (invariant : store.FactorInvariant)
    (read : store.loginAccount address = some login)
    (active : login.state = .active)
    (progress : Progress store later) :
    later.hasActiveTotpFactor login.tenantId login.accountId = true := by
  simp only [loginAccount, Option.bind_eq_bind, Option.bind_eq_some_iff] at read
  obtain ⟨tenant, -, account, found, returned⟩ := read
  cases returned
  obtain ⟨account_mem, selected⟩ := Table.find?_eq_some found
  obtain ⟨account_tenant, -⟩ := of_decide_eq_true selected
  obtain ⟨factor, factor_mem, factor_tenant, owner, factor_active⟩ :=
    (invariant.active_iff account account_mem).mp active
  obtain ⟨next, next_mem, identity, settled⟩ :=
    progress.factors factor factor_mem
  obtain ⟨-, same_tenant, same_account⟩ :=
    TotpFactorRow.identity_eq_iff.mp identity
  refine List.any_eq_true.mpr ⟨next, next_mem, decide_eq_true ⟨?_, ?_, ?_⟩⟩
  · exact same_tenant.trans (factor_tenant.trans account_tenant)
  · exact same_account.trans owner
  · exact settled factor_active

end Store

/-! ## Accepted time steps -/

/-- How a factor came to accept a time step. -/
inductive Acceptance
  | activated (step : Int)
  | consumed (step : Int)
  deriving DecidableEq

/-- The time step that a successful call records on a factor. -/
def acceptedOn (factor : Uuid) : (call : Call) → call.Result → Option Acceptance
  | .activateTotpFactor request, _ =>
      if request.factorId = factor then
        some (.activated request.acceptedStep)
      else
        none
  | .consumeTotpStep request, _ =>
      if request.factorId = factor then
        some (.consumed request.acceptedStep)
      else
        none
  | _, _ => none

/-- The steps that a factor accepted, oldest first, agree with its row: a
pending factor accepted none, and an active one keeps the latest. -/
inductive Accepts (factors : TotpFactors) (factor : Uuid) :
    List Acceptance → Prop
  | pending
      (all_pending : ∀ row ∈ factors.rows, row.id = factor →
        row.status = .pending) :
      Accepts factors factor []
  | active
      {row : TotpFactorRow}
      {first last : Int}
      {rest : List Int}
      (row_mem : row ∈ factors.rows)
      (row_id : row.id = factor)
      (row_active : row.status = .active)
      (row_last : row.lastAcceptedTimeStep = some last)
      (increasing : (first :: rest).Pairwise (· < ·))
      (bounded : ∀ step ∈ first :: rest, step ≤ last) :
      Accepts factors factor (.activated first :: rest.map .consumed)

namespace Accepts

variable {factors laterFactors : TotpFactors}
variable {factor : Uuid}
variable {acceptances : List Acceptance}

/-- A new pending factor accepted nothing. -/
theorem add
    {added : TotpFactorRow}
    (accepts : Accepts factors factor acceptances)
    (pending : added.status = .pending)
    (factors_rows : laterFactors.rows = factors.rows ++ [added]) :
    Accepts laterFactors factor acceptances := by
  cases accepts with
  | pending all_pending =>
      refine .pending fun row row_mem row_id => ?_
      rw [factors_rows, List.mem_append, List.mem_singleton] at row_mem
      rcases row_mem with row_mem | rfl
      · exact all_pending row row_mem row_id
      · exact pending
  | active row_mem row_id row_active row_last increasing bounded =>
      exact .active (factors_rows ▸ List.mem_append_left _ row_mem) row_id
        row_active row_last increasing bounded

/-- A change of other factors. -/
theorem other
    {selects : TotpFactorRow → Bool}
    {change : TotpFactorRow → TotpFactorRow}
    (accepts : Accepts factors factor acceptances)
    (elsewhere : ∀ row, selects row = true → row.id ≠ factor)
    (kept : ∀ row, (change row).id = row.id)
    (factors_rows : laterFactors.rows =
      factors.rows.map (modify selects change)) :
    Accepts laterFactors factor acceptances := by
  have unselected : ∀ row : TotpFactorRow, row.id = factor →
      selects row = false := by
    intro row row_id
    cases selected : selects row with
    | true => exact absurd row_id (elsewhere row selected)
    | false => rfl
  cases accepts with
  | pending all_pending =>
      refine .pending fun row row_mem row_id => ?_
      rw [factors_rows] at row_mem
      obtain ⟨before, before_mem, rfl⟩ := List.mem_map.mp row_mem
      rw [modify_column TotpFactorRow.id kept] at row_id
      rw [modify_of_not_selects (unselected before row_id)]
      exact all_pending before before_mem row_id
  | active row_mem row_id row_active row_last increasing bounded =>
      refine .active ?_ row_id row_active row_last increasing bounded
      rw [factors_rows]
      exact List.mem_map.mpr
        ⟨_, row_mem, modify_of_not_selects (unselected _ row_id)⟩

/-- The activation of a factor is the first acceptance on it. -/
theorem activate
    {request : ActivateTotpFactor}
    (accepts : Accepts factors request.factorId acceptances)
    (factor_pending : factors.count request.selects = 1)
    (factors_rows : laterFactors.rows =
      factors.rows.map (modify request.selects (request.activates generated))) :
    Accepts laterFactors request.factorId
      (acceptances ++ [.activated request.acceptedStep]) := by
  obtain ⟨target, target_mem, target_selected⟩ :=
    Table.exists_of_count_eq_one factor_pending
  obtain ⟨target_id, -, -, target_pending⟩ := of_decide_eq_true target_selected
  cases accepts with
  | pending =>
      have stored : request.activates generated target ∈ laterFactors.rows := by
        rw [factors_rows]
        exact List.mem_map.mpr
          ⟨target, target_mem, modify_of_selects target_selected⟩
      exact .active stored target_id rfl rfl (List.pairwise_singleton _ _)
        (fun step step_mem => (List.mem_singleton.mp step_mem).le)
  | active row_mem row_id row_active =>
      have same := Table.eq_of_key (fun apart => apart.1) row_mem target_mem
        (row_id.trans target_id.symm)
      rw [same, target_pending] at row_active
      contradiction

/-- A consumed step is later than every step before it. -/
theorem consume
    {request : ConsumeTotpStep}
    (accepts : Accepts factors request.factorId acceptances)
    (factor_active : factors.count request.selects = 1)
    (factors_rows : laterFactors.rows =
      factors.rows.map (modify request.selects request.records)) :
    Accepts laterFactors request.factorId
      (acceptances ++ [.consumed request.acceptedStep]) := by
  obtain ⟨target, target_mem, target_selected⟩ :=
    Table.exists_of_count_eq_one factor_active
  obtain ⟨target_id, -, -, target_active, later⟩ :=
    of_decide_eq_true target_selected
  cases accepts with
  | pending all_pending =>
      rw [all_pending target target_mem target_id] at target_active
      contradiction
  | @active row first last rest row_mem row_id row_active row_last increasing
      bounded =>
      have same := Table.eq_of_key (fun apart => apart.1) row_mem target_mem
        (row_id.trans target_id.symm)
      subst same
      have new_last : last < request.acceptedStep := later last row_last
      have above : ∀ step ∈ first :: rest, step < request.acceptedStep :=
        fun step step_mem => lt_of_le_of_lt (bounded step step_mem) new_last
      have stored : request.records row ∈ laterFactors.rows := by
        rw [factors_rows]
        exact List.mem_map.mpr
          ⟨row, target_mem, modify_of_selects target_selected⟩
      have longer : ((first :: rest) ++ [request.acceptedStep]).Pairwise
          (· < ·) := by
        refine List.pairwise_append.mpr
          ⟨increasing, List.pairwise_singleton _ _, ?_⟩
        intro step step_mem other other_mem
        rw [List.mem_singleton.mp other_mem]
        exact above step step_mem
      have appended : Accepts laterFactors request.factorId
          (.activated first :: (rest ++ [request.acceptedStep]).map .consumed) := by
        refine .active stored row_id row_active rfl longer ?_
        intro step step_mem
        rw [← List.cons_append] at step_mem
        rcases List.mem_append.mp step_mem with step_mem | step_mem
        · exact (above step step_mem).le
        · exact (List.mem_singleton.mp step_mem).le
      rw [List.map_append] at appended
      exact appended

end Accepts

namespace Store

variable {store later : Store}
variable {call : Call}
variable {result : call.Result}
variable {factor : Uuid}
variable {acceptances : List Acceptance}
variable {events : List (Event Call Call.Reply)}

/-- Successful calls record accepted steps in order. -/
theorem Effect.accepts
    (accepts : Accepts store.mfaTotpFactors factor acceptances)
    (effect : Effect unicode store call result later) :
    Accepts later.mfaTotpFactors factor
      (acceptances ++ (acceptedOn factor call result).toList) := by
  have silent {factors : TotpFactors}
      (accepts : Accepts factors factor acceptances) :
      Accepts factors factor (acceptances ++ []) := by
    rw [List.append_nil]
    exact accepts
  cases effect with
  | pendingFactorCreated generated _ factors_rows =>
      exact silent (accepts.add rfl factors_rows)
  | @factorActivated request generated _ _ _ factor_pending _ factors_rows =>
      by_cases same : request.factorId = factor
      · subst same
        rw [acceptedOn, if_pos rfl]
        exact accepts.activate factor_pending factors_rows
      · rw [acceptedOn, if_neg same]
        refine silent (accepts.other ?_ ?_ factors_rows)
        · intro row selected
          rw [(of_decide_eq_true selected).1]
          exact same
        · exact fun _ => rfl
  | @stepConsumed request _ _ factor_active factors_rows =>
      by_cases same : request.factorId = factor
      · subst same
        rw [acceptedOn, if_pos rfl]
        exact accepts.consume factor_active factors_rows
      · rw [acceptedOn, if_neg same]
        refine silent (accepts.other ?_ ?_ factors_rows)
        · intro row selected
          rw [(of_decide_eq_true selected).1]
          exact same
        · exact fun _ => rfl
  | _ => exact silent accepts

/-- Along every run the steps accepted on a factor agree with its row. -/
theorem accepts_of_trace
    (factor : Uuid)
    (trace : Trace (Step unicode) .empty events store) :
    Accepts store.mfaTotpFactors factor
      (events.filterMap (successful (acceptedOn factor))) := by
  refine invariant_of_successful
    (fun acceptances store => Accepts store.mfaTotpFactors factor acceptances)
    ?_ trace ?_
  · exact fun accepts effect => effect.accepts accepts
  · exact .pending fun row row_mem => absurd row_mem List.not_mem_nil

end Store

end Fabric
end Fcp
