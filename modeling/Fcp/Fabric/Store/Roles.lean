import Fcp.Fabric.Store.Tenancy

/-!
# Role assignments

The owner of a tenant is the account of its bootstrap, in every later database.
Administrators come from role changes alone.
-/

namespace Fcp
namespace Fabric

open Rust
open Sql
open Reactive

variable {unicode : Unicode}

/-- The accounts that hold a role in a tenant. -/
def holdersIn
    (rows : List AccountRoleRow)
    (tenant : TenantId)
    (role : Role) : List AccountId :=
  (rows.filter fun row => row.tenantId = tenant ∧ row.role = role).map
    (·.accountId)

theorem mem_holdersIn
    {rows : List AccountRoleRow}
    {tenant : TenantId}
    {role : Role}
    {account : AccountId} :
    account ∈ holdersIn rows tenant role ↔ ∃ row ∈ rows,
      row.tenantId = tenant ∧ row.role = role ∧ row.accountId = account := by
  simp [holdersIn, and_assoc]

/-- A row of another tenant or role adds no holder. -/
theorem holdersIn_concat_of_ne
    {rows later : List AccountRoleRow}
    {added : AccountRoleRow}
    {tenant : TenantId}
    {role : Role}
    (other : ¬(added.tenantId = tenant ∧ added.role = role))
    (rows_eq : later = rows ++ [added]) :
    holdersIn later tenant role = holdersIn rows tenant role := by
  simp [holdersIn, rows_eq, other]

/-- Deleting rows of another role takes no holder away. -/
theorem holdersIn_filter_of_ne
    {rows : List AccountRoleRow}
    {selects : AccountRoleRow → Bool}
    {role : Role}
    (other : ∀ row, selects row = true → row.role ≠ role)
    (tenant : TenantId) :
    holdersIn (rows.filter fun row => !selects row) tenant role =
      holdersIn rows tenant role := by
  unfold holdersIn
  rw [List.filter_filter]
  congr 1
  apply List.filter_congr
  intro row _
  cases selected : selects row with
  | false => simp
  | true => simp [other row selected]

namespace Store

variable {store later : Store}
variable {call : Call}
variable {result : call.Result}
variable {events : List (Event Call Call.Reply)}

/-- The accounts that hold a role in a tenant of a database. -/
abbrev holders (store : Store) (tenant : TenantId) (role : Role) :
    List AccountId :=
  holdersIn store.accountRoles.rows tenant role

/-- Tenants come from bootstraps, which also determine their owners, and
administrators come from role changes. -/
structure Governed (events : List (Event Call Call.Reply)) (store : Store) :
    Prop where
  bootstrapped : ∀ tenant ∈ store.tenants.rows,
    ∃ (command : BootstrapTenant) (created : BootstrapResult),
      ⟨.bootstrapTenant command, .ok created⟩ ∈ events ∧
      created.tenantId = tenant.id
  known : ∀ (command : BootstrapTenant) (created : BootstrapResult),
    ⟨.bootstrapTenant command, .ok created⟩ ∈ events →
      store.hasTenant created.tenantId = true
  owned : ∀ (command : BootstrapTenant) (created : BootstrapResult),
    ⟨.bootstrapTenant command, .ok created⟩ ∈ events →
      store.holders created.tenantId .owner = [created.ownerId]
  granted : ∀ row ∈ store.accountRoles.rows, row.role = .admin →
    ∃ command : ChangeRole, ⟨.changeRole command, .ok ()⟩ ∈ events ∧
      command.grant = true ∧ command.role = .admin ∧
      command.tenantId = row.tenantId ∧ command.targetAccountId = row.accountId

/-- Whether a call bootstrapped a tenant. -/
def isBootstrap : Event Call Call.Reply → Bool
  | ⟨.bootstrapTenant _, .ok _⟩ => true
  | _ => false

/-- An event that is no bootstrap. -/
theorem Governed.extend
    {event : Event Call Call.Reply}
    (governed : Governed events store)
    (other : isBootstrap event = false) :
    Governed (events ++ [event]) store where
  bootstrapped tenant tenant_mem := by
    obtain ⟨command, created, mem, id_eq⟩ :=
      governed.bootstrapped tenant tenant_mem
    exact ⟨command, created, List.mem_append_left _ mem, id_eq⟩
  known command created mem := by
    rcases List.mem_append.mp mem with mem | mem
    · exact governed.known command created mem
    · cases List.mem_singleton.mp mem
      cases other
  owned command created mem := by
    rcases List.mem_append.mp mem with mem | mem
    · exact governed.owned command created mem
    · cases List.mem_singleton.mp mem
      cases other
  granted row row_mem is_admin := by
    obtain ⟨command, mem, described⟩ := governed.granted row row_mem is_admin
    exact ⟨command, List.mem_append_left _ mem, described⟩

/-- A role is held in a tenant that exists. -/
theorem Tenancy.hasTenant_of_role
    {row : AccountRoleRow}
    (tenancy : store.Tenancy)
    (row_mem : row ∈ store.accountRoles.rows) :
    store.hasTenant row.tenantId = true := by
  obtain ⟨account, account_mem, -, tenant_eq⟩ :=
    hasAccount_eq_true_iff.mp (tenancy.roles row row_mem)
  rw [← tenant_eq]
  exact tenancy.accounts account account_mem

/-- A bootstrap creates a tenant that nothing refers to yet. -/
theorem Governed.bootstrap
    {command : BootstrapTenant}
    {generated : Generated}
    {tenants : Table TenantRow TenantRow.Apart}
    {accounts : Table AccountRow AccountRow.Apart}
    {accountRoles : Table AccountRoleRow AccountRoleRow.Apart}
    {auditEvents : Table AuditEventRow AuditEventRow.Apart}
    (tenancy : store.Tenancy)
    (governed : Governed events store)
    (tenants_rows : tenants.rows =
      store.tenants.rows ++ [command.tenant generated])
    (roles_rows : accountRoles.rows =
      store.accountRoles.rows ++ [BootstrapTenant.ownerRole generated]) :
    Governed
      (events ++ [⟨.bootstrapTenant command,
        .ok (BootstrapTenant.result generated)⟩])
      { store with
        tenants := tenants
        accounts := accounts
        accountRoles := accountRoles
        auditEvents := auditEvents } := by
  have fresh {tenant : TenantId} (found : store.hasTenant tenant = true) :
      ⟨generated.uuid 0⟩ ≠ tenant := by
    obtain ⟨row, row_mem, selected⟩ := List.any_eq_true.mp found
    have apart := tenants.apart
    rw [tenants_rows] at apart
    have apart := (List.pairwise_append.mp apart).2.2 row row_mem
      (command.tenant generated) List.mem_cons_self
    exact fun same => apart.1 ((of_decide_eq_true selected).trans same.symm)
  constructor
  case bootstrapped =>
    refine forall_mem_concat tenants_rows (fun tenant tenant_mem => ?_)
      ⟨command, _, List.mem_concat_self, rfl⟩
    obtain ⟨command, created, mem, id_eq⟩ :=
      governed.bootstrapped tenant tenant_mem
    exact ⟨command, created, List.mem_append_left _ mem, id_eq⟩
  case known =>
    intro other created mem
    rcases List.mem_append.mp mem with mem | mem
    · obtain ⟨row, row_mem, selected⟩ :=
        List.any_eq_true.mp (governed.known other created mem)
      exact List.any_eq_true.mpr
        ⟨row, tenants_rows ▸ List.mem_append_left _ row_mem, selected⟩
    · cases List.mem_singleton.mp mem
      exact List.any_eq_true.mpr ⟨command.tenant generated,
        tenants_rows ▸ List.mem_concat_self, decide_eq_true rfl⟩
  case owned =>
    intro other created mem
    rcases List.mem_append.mp mem with mem | mem
    · have different := fresh (governed.known other created mem)
      exact (holdersIn_concat_of_ne (fun same => different same.1)
        roles_rows).trans (governed.owned other created mem)
    · cases List.mem_singleton.mp mem
      have unheld : holdersIn store.accountRoles.rows ⟨generated.uuid 0⟩ .owner =
          [] := by
        refine List.eq_nil_iff_forall_not_mem.mpr fun account held => ?_
        obtain ⟨row, row_mem, tenant_eq, -⟩ := mem_holdersIn.mp held
        exact fresh (tenancy.hasTenant_of_role row_mem) tenant_eq.symm
      simp only [holders, holdersIn, roles_rows, List.filter_append,
        List.map_append]
      change holdersIn store.accountRoles.rows ⟨generated.uuid 0⟩ .owner ++ _ = _
      rw [unheld]
      simp [BootstrapTenant.ownerRole, BootstrapTenant.result]
  case granted =>
    refine forall_mem_concat roles_rows (fun row row_mem is_admin => ?_) nofun
    obtain ⟨command, mem, described⟩ := governed.granted row row_mem is_admin
    exact ⟨command, List.mem_append_left _ mem, described⟩

/-- Every call keeps owners and explains administrators. -/
theorem Effect.governed
    (tenancy : store.Tenancy)
    (governed : Governed events store)
    (effect : Effect unicode store call result later) :
    Governed (events ++ [⟨call, .ok result⟩]) later := by
  have extended (other : isBootstrap ⟨call, .ok result⟩ = false) :=
    governed.extend other
  cases effect with
  | tenantBootstrapped generated _ tenants_rows _ roles_rows =>
      exact governed.bootstrap tenancy tenants_rows roles_rows
  | accountInvited generated valid _ _ roles_rows =>
      obtain ⟨not_owner, not_admin⟩ :=
        InviteAccount.initialRole_of_validate valid
      refine { extended rfl with
        owned := fun command created mem => ?_
        granted := forall_mem_concat roles_rows (extended rfl).granted
          fun is_admin => absurd is_admin not_admin }
      exact (holdersIn_concat_of_ne (fun same => not_owner same.2)
        roles_rows).trans ((extended rfl).owned command created mem)
  | roleGranted generated valid grants _ roles_rows =>
      obtain ⟨-, -, -, not_owner⟩ := ChangeRole.of_validate valid
      refine { extended rfl with
        owned := fun command created mem => ?_
        granted := forall_mem_concat roles_rows (extended rfl).granted
          fun is_admin =>
            ⟨_, List.mem_concat_self, grants, is_admin, rfl, rfl⟩ }
      exact (holdersIn_concat_of_ne (fun same => not_owner same.2)
        roles_rows).trans ((extended rfl).owned command created mem)
  | roleRevoked generated valid =>
      obtain ⟨-, -, -, not_owner⟩ := ChangeRole.of_validate valid
      refine { extended rfl with
        owned := fun command created mem => ?_
        granted := fun row row_mem =>
          (extended rfl).granted row (Table.mem_delete.mp row_mem).1 }
      refine (holdersIn_filter_of_ne (fun row selected is_owner => ?_)
        created.tenantId).trans ((extended rfl).owned command created mem)
      obtain ⟨-, -, role_eq⟩ := of_decide_eq_true selected
      exact not_owner (role_eq.symm.trans is_owner)
  | _ => exact { extended rfl with }

/-- Every reachable database has the owners of its bootstraps. -/
theorem governed_of_trace (trace : Trace (Step unicode) .empty events store) :
    Governed events store := by
  induction trace with
  | start =>
      constructor
      case bootstrapped => exact fun _ mem => absurd mem List.not_mem_nil
      case known => exact fun _ _ mem => absurd mem List.not_mem_nil
      case owned => exact fun _ _ mem => absurd mem List.not_mem_nil
      case granted => exact fun _ mem => absurd mem List.not_mem_nil
  | @next events _ _ call reply earlier taken inductionHypothesis =>
      cases reply with
      | error error =>
          rw [taken.eq_of_error]
          exact inductionHypothesis.extend (by cases call <;> rfl)
      | ok result =>
          exact taken.effect.governed (tenancy_of_trace earlier)
            inductionHypothesis

/-- Whoever holds the owner role is the account of the tenant's bootstrap. -/
theorem Governed.owner_of_role
    {tenant : TenantId}
    {account : AccountId}
    (governed : Governed events store)
    (tenancy : store.Tenancy)
    (held : Role.owner ∈ store.rolesForAccount tenant account) :
    ∃ (command : BootstrapTenant) (created : BootstrapResult),
      ⟨.bootstrapTenant command, .ok created⟩ ∈ events ∧
      created.tenantId = tenant ∧ created.ownerId = account := by
  obtain ⟨row, row_mem, selected⟩ :=
    List.any_eq_true.mp (List.mem_filter.mp held).2
  obtain ⟨rfl, rfl, is_owner⟩ := of_decide_eq_true selected
  obtain ⟨known, known_mem, known_id⟩ :=
    List.any_eq_true.mp (tenancy.hasTenant_of_role row_mem)
  obtain ⟨command, created, mem, created_id⟩ :=
    governed.bootstrapped known known_mem
  have same := created_id.trans (of_decide_eq_true known_id)
  refine ⟨command, created, mem, same, ?_⟩
  have holds : row.accountId ∈ store.holders created.tenantId .owner :=
    mem_holdersIn.mpr ⟨row, row_mem, same.symm, is_owner, rfl⟩
  rw [governed.owned command created mem] at holds
  exact (List.mem_singleton.mp holds).symm

/-- The account of a bootstrap holds the owner role. -/
theorem Governed.owner_mem_roles
    {command : BootstrapTenant}
    {created : BootstrapResult}
    (governed : Governed events store)
    (mem : ⟨.bootstrapTenant command, .ok created⟩ ∈ events) :
    Role.owner ∈ store.rolesForAccount created.tenantId created.ownerId := by
  have holds : created.ownerId ∈ store.holders created.tenantId .owner := by
    rw [governed.owned command created mem]
    exact List.mem_cons_self
  obtain ⟨row, row_mem, tenant_eq, is_owner, account_eq⟩ :=
    mem_holdersIn.mp holds
  refine List.mem_filter.mpr ⟨by decide, List.any_eq_true.mpr ⟨row, row_mem, ?_⟩⟩
  exact decide_eq_true ⟨tenant_eq, account_eq, is_owner⟩

end Store

end Fabric
end Fcp
