import Fcp.Fabric.Store.Helpers

/-!
# Tenants, accounts, passwords and current authorization
-/

namespace Fcp
namespace Fabric

open Rust
open Sql
open Sql.Transaction

/-- Durable result of a successful tenant bootstrap. -/
structure BootstrapResult where
  tenantId : TenantId
  ownerId : AccountId
  policyVersion : Nat
  ownerState : AccountState

/-- Login data required for generic local credential verification. -/
structure LoginAccount where
  accountId : AccountId
  tenantId : TenantId
  state : AccountState
  verifier : Option PasswordVerifierString

/-! ## Rows written -/

namespace BootstrapTenant

def tenant (command : BootstrapTenant) (generated : Generated) : TenantRow where
  id := ⟨generated.uuid 0⟩
  canonicalDomain := command.domain
  policyVersion := 1
  createdAt := generated.now.timestamptz
  updatedAt := generated.now.timestamptz

def owner (command : BootstrapTenant) (generated : Generated) : AccountRow where
  id := ⟨generated.uuid 1⟩
  tenantId := ⟨generated.uuid 0⟩
  normalizedLocalpart := command.ownerLocalpart
  state := .mfaEnrollmentRequired
  createdAt := generated.now.timestamptz
  updatedAt := generated.now.timestamptz

/-- The owner role that a bootstrap writes. -/
def ownerRole (generated : Generated) : AccountRoleRow where
  tenantId := ⟨generated.uuid 0⟩
  accountId := ⟨generated.uuid 1⟩
  role := .owner
  grantedByAccountId := none
  grantedAt := generated.now.timestamptz

def audit (command : BootstrapTenant) (generated : Generated) :
    AuditEventRow where
  id := generated.uuid 2
  tenantId := ⟨generated.uuid 0⟩
  actorId := some ⟨generated.uuid 1⟩
  action := .tenantBootstrapped
  correlationId := command.correlationId
  metadata := .object [("domain", .string command.domain.asStr)]
  occurredAt := generated.now.timestamptz

/-- What a bootstrap returns. -/
def result (generated : Generated) : BootstrapResult where
  tenantId := ⟨generated.uuid 0⟩
  ownerId := ⟨generated.uuid 1⟩
  policyVersion := 1
  ownerState := .mfaEnrollmentRequired

end BootstrapTenant

namespace InviteAccount

def account (command : InviteAccount) (generated : Generated) :
    AccountRow where
  id := ⟨generated.uuid 0⟩
  tenantId := command.tenantId
  normalizedLocalpart := command.localpart
  state := .mfaEnrollmentRequired
  createdAt := generated.now.timestamptz
  updatedAt := generated.now.timestamptz

def accountRole (command : InviteAccount) (generated : Generated) :
    AccountRoleRow where
  tenantId := command.tenantId
  accountId := ⟨generated.uuid 0⟩
  role := command.initialRole
  grantedByAccountId := some command.actor.accountId
  grantedAt := generated.now.timestamptz

def audit (command : InviteAccount) (generated : Generated) :
    AuditEventRow where
  id := generated.uuid 1
  tenantId := command.tenantId
  actorId := some command.actor.accountId
  action := .accountCreated
  correlationId := command.correlationId
  metadata := .object
    [("account_id", .uuid (generated.uuid 0)),
      ("initial_role", .string command.initialRole.text)]
  occurredAt := generated.now.timestamptz

end InviteAccount

namespace ChangeRole

/-- The role row that a change grants or revokes. -/
def selects (command : ChangeRole) (row : AccountRoleRow) : Bool :=
  row.tenantId = command.tenantId ∧ row.accountId = command.targetAccountId ∧
    row.role = command.role

def accountRole (command : ChangeRole) (generated : Generated) :
    AccountRoleRow where
  tenantId := command.tenantId
  accountId := command.targetAccountId
  role := command.role
  grantedByAccountId := some command.actor.accountId
  grantedAt := generated.now.timestamptz

def audit (command : ChangeRole) (generated : Generated) : AuditEventRow where
  id := generated.uuid 0
  tenantId := command.tenantId
  actorId := some command.actor.accountId
  action := .roleChanged
  correlationId := command.correlationId
  metadata := .object
    [("target_account_id", .uuid command.targetAccountId.asUuid),
      ("role", .string command.role.text), ("grant", .bool command.grant)]
  occurredAt := generated.now.timestamptz

end ChangeRole

/-- Arguments of a password write. -/
structure StorePasswordVerifier where
  tenantId : TenantId
  accountId : AccountId
  verifier : PasswordVerifierString
  pepperKeyVersion : Option String
  correlationId : String

namespace StorePasswordVerifier

def credential (request : StorePasswordVerifier) (generated : Generated) :
    PasswordCredentialRow where
  accountId := request.accountId
  tenantId := request.tenantId
  phcVerifier := request.verifier
  pepperKeyVersion := request.pepperKeyVersion
  changedAt := generated.now.timestamptz

/-- The change of a credential that the account already has. -/
def replaces
    (request : StorePasswordVerifier)
    (generated : Generated)
    (row : PasswordCredentialRow) : PasswordCredentialRow :=
  { row with
    phcVerifier := request.verifier
    pepperKeyVersion := request.pepperKeyVersion
    changedAt := generated.now.timestamptz }

def audit (request : StorePasswordVerifier) (generated : Generated) :
    AuditEventRow where
  id := generated.uuid 0
  tenantId := request.tenantId
  actorId := some request.accountId
  action := .passwordChanged
  correlationId := request.correlationId
  metadata := .object
    [("pepper_key_version",
      (request.pepperKeyVersion.map Json.string).getD .null)]
  occurredAt := generated.now.timestamptz

end StorePasswordVerifier

namespace Store

/-! ## Writes -/

/-- Create the first tenant owner in an enrollment-required state. -/
def bootstrapTenant (generated : Generated) (command : BootstrapTenant) :
    StoreTransaction BootstrapResult := do
  command.validate.mapError StoreError.administration
  insert tenantsRelation .database (command.tenant generated)
  insert accountsRelation .database (command.owner generated)
  insert accountRolesRelation .database (BootstrapTenant.ownerRole generated)
  insertAudit (command.audit generated)
  return BootstrapTenant.result generated

/-- Create an invite-only account inside the actor's tenant. -/
def inviteAccount (generated : Generated) (command : InviteAccount) :
    StoreTransaction AccountId := do
  command.validate.mapError StoreError.administration
  insert accountsRelation .database (command.account generated)
  insert accountRolesRelation .database (command.accountRole generated)
  insertAudit (command.audit generated)
  return ⟨generated.uuid 0⟩

/-- Grant or revoke a role, returning the number of role rows changed. -/
def writeRole (generated : Generated) (command : ChangeRole) :
    StoreTransaction Nat :=
  if command.grant then
    insertWhere accountRolesRelation .database
      (fun store =>
        store.hasAccount command.tenantId command.targetAccountId &&
          !store.accountRoles.any command.selects)
      (command.accountRole generated)
  else
    delete accountRolesRelation command.selects

/-- Apply a validated role grant or revocation in the actor's tenant. -/
def changeRole (generated : Generated) (command : ChangeRole) :
    StoreTransaction Unit := do
  command.validate.mapError StoreError.administration
  let affected ← writeRole generated command
  rejectIf (affected ≠ 1) StoreError.targetNotFoundOrUnchanged
  insertAudit (command.audit generated)

/-- Store a password verifier for an account in its own tenant. -/
def storePasswordVerifier
    (generated : Generated)
    (request : StorePasswordVerifier) : StoreTransaction Unit := do
  validateCorrelationId request.correlationId
  let affected ← upsertWhere passwordCredentialsRelation .database
    (fun store => store.hasAccount request.tenantId request.accountId)
    (request.credential generated)
    (fun row => row.accountId = request.accountId)
    (request.replaces generated)
  rejectIf (affected ≠ 1) StoreError.targetNotFoundOrUnchanged
  insertAudit (request.audit generated)

/-! ## Reads -/

/-- Find one login account and its verifier by canonical address. -/
def loginAccount (store : Store) (address : UserAddress) :
    Option LoginAccount := do
  let tenant ← store.tenants.find? fun row =>
    row.canonicalDomain = address.domain
  let account ← store.accounts.find? fun row =>
    row.tenantId = tenant.id ∧ row.normalizedLocalpart = address.localpart
  return {
    accountId := account.id
    tenantId := tenant.id
    state := account.state
    verifier :=
      (store.passwordCredentials.find? fun row =>
        row.accountId = account.id).map (·.phcVerifier) }

/-- A domain names one tenant. -/
theorem find?_canonicalDomain
    {store : Store}
    {tenant : TenantRow}
    (tenant_mem : tenant ∈ store.tenants.rows) :
    (store.tenants.find? fun row =>
      row.canonicalDomain = tenant.canonicalDomain) = some tenant := by
  refine Table.find?_of_mem ?_ tenant_mem (decide_eq_true rfl)
  intro first second first_selected second_selected
  exact Table.not_apart_of_key (fun apart => apart.2)
    (of_decide_eq_true first_selected) (of_decide_eq_true second_selected)

/-- A localpart names one account of a tenant. -/
theorem find?_localpart
    {store : Store}
    {tenant : TenantId}
    {account : AccountRow}
    (account_mem : account ∈ store.accounts.rows)
    (tenant_eq : account.tenantId = tenant) :
    (store.accounts.find? fun row => row.tenantId = tenant ∧
      row.normalizedLocalpart = account.normalizedLocalpart) =
        some account := by
  refine Table.find?_of_mem ?_ account_mem (decide_eq_true ⟨tenant_eq, rfl⟩)
  intro first second first_selected second_selected
  obtain ⟨first_tenant, first_localpart⟩ := of_decide_eq_true first_selected
  obtain ⟨second_tenant, second_localpart⟩ := of_decide_eq_true second_selected
  exact fun apart => apart.2 (Prod.ext
    (first_tenant.trans second_tenant.symm)
    (first_localpart.trans second_localpart.symm))

/-- The account row of a tenant-local account. -/
def account (store : Store) (tenant : TenantId) (account : AccountId) :
    Option AccountRow :=
  store.accounts.find? fun row => row.tenantId = tenant ∧ row.id = account

/-- The account row under its own identifiers. -/
theorem account_of_mem
    {store : Store}
    {row : AccountRow}
    {tenant : TenantId}
    {account : AccountId}
    (row_mem : row ∈ store.accounts.rows)
    (row_tenant : row.tenantId = tenant)
    (row_id : row.id = account) :
    store.account tenant account = some row := by
  apply Table.find?_of_mem _ row_mem (decide_eq_true ⟨row_tenant, row_id⟩)
  intro first second first_selected second_selected
  exact Table.not_apart_of_key And.left (of_decide_eq_true first_selected).2
    (of_decide_eq_true second_selected).2

/-- Reconstruct the canonical address of an account in its tenant. -/
def userAddressForAccount
    (unicode : Unicode)
    (store : Store)
    (tenantId : TenantId)
    (accountId : AccountId) : Except StoreError (Option UserAddress) :=
  match store.account tenantId accountId with
  | none => .ok none
  | some account =>
      match store.tenants.find? fun row => row.id = account.tenantId with
      | none => .ok none
      | some tenant =>
          match UserAddress.parse unicode
              (account.normalizedLocalpart.asStr ++ "@" ++
                tenant.canonicalDomain.asStr) with
          | .ok address => .ok (some address)
          | .error _ => .error .invalidStoredAddress

/-- The current roles of an account, in the order of their texts. -/
def rolesForAccount
    (store : Store)
    (tenant : TenantId)
    (account : AccountId) : List Role :=
  [.admin, .auditor, .member, .operator, .owner].filter fun role =>
    store.accountRoles.any fun row =>
      row.tenantId = tenant ∧ row.accountId = account ∧ row.role = role

/-- Reconstruct current tenant-local authorization for session issuance. -/
def sessionAuthorizationContext
    (store : Store)
    (tenantId : TenantId)
    (accountId : AccountId) : Option AuthorizationContext := do
  let account ← store.account tenantId accountId
  guard account.state.permitsSession
  return {
    tenantId := tenantId
    accountId := accountId
    state := account.state
    roles := store.rolesForAccount tenantId accountId
    stepUpVerified := false }

end Store

end Fabric
end Fcp
