import Fcp.Sql.Confinement
import Fcp.Fabric.Store.Families

/-!
# Tenants

Rows that belong to an account name an account of their own tenant.  With that,
every call changes rows of one tenant alone, although several statements select
rows by a family, an account or a token digest without naming the tenant.
-/

namespace Fcp
namespace Fabric

open Rust
open Sql
open Reactive

variable {unicode : Unicode}

namespace Store

variable {store later : Store}
variable {call : Call}
variable {result : call.Result}
variable {events : List (Event Call Call.Reply)}

/-! ## Owners of rows -/

/-- Every account-scoped row names an account of its own tenant. -/
structure Tenancy (store : Store) : Prop where
  accounts : ∀ row ∈ store.accounts.rows, store.hasTenant row.tenantId = true
  roles : ∀ row ∈ store.accountRoles.rows,
    store.hasAccount row.tenantId row.accountId = true
  passwords : ∀ row ∈ store.passwordCredentials.rows,
    store.hasAccount row.tenantId row.accountId = true
  factors : ∀ row ∈ store.mfaTotpFactors.rows,
    store.hasAccount row.tenantId row.accountId = true
  recoverySets : ∀ row ∈ store.recoveryCodeSets.rows,
    store.hasAccount row.tenantId row.accountId = true
  recoveryCodes : ∀ row ∈ store.recoveryCodeVerifiers.rows,
    ∃ set ∈ store.recoveryCodeSets.rows, set.id = row.setId
  families : ∀ row ∈ store.sessionFamilies.rows,
    store.hasAccount row.tenantId row.accountId = true
  credentials : ∀ row ∈ store.refreshCredentials.rows,
    store.hasAccount row.tenantId row.accountId = true
  accesses : ∀ row ∈ store.accessSessions.rows,
    store.hasAccount row.tenantId row.accountId = true
  grants : ∀ row ∈ store.stepUpGrants.rows,
    store.hasAccount row.tenantId row.accountId = true
  transactions : ∀ row ∈ store.loginTransactions.rows,
    store.hasAccount row.tenantId row.accountId = true
  passkeys : ∀ row ∈ store.webauthnCredentials.rows,
    store.hasAccount row.tenantId row.accountId = true
  ceremonies : ∀ row ∈ store.webauthnCeremonies.rows,
    store.hasAccount row.tenantId row.accountId = true

theorem hasAccount_eq_true_iff {tenant : TenantId} {account : AccountId} :
    store.hasAccount tenant account = true ↔
      ∃ row ∈ store.accounts.rows, row.id = account ∧ row.tenantId = tenant := by
  simp [hasAccount, Table.any]

/-- An account in some state is an account. -/
theorem hasAccount_of_hasAccountIn
    {tenant : TenantId}
    {account : AccountId}
    {state : AccountState}
    (found : store.hasAccountIn tenant account state = true) :
    store.hasAccount tenant account = true := by
  obtain ⟨row, row_mem, selected⟩ := List.any_eq_true.mp found
  obtain ⟨id_eq, tenant_eq, -⟩ := of_decide_eq_true selected
  exact hasAccount_eq_true_iff.mpr ⟨row, row_mem, id_eq, tenant_eq⟩

/-- An account belongs to one tenant. -/
theorem tenant_eq_of_hasAccount
    {first second : TenantId}
    {account : AccountId}
    (in_first : store.hasAccount first account = true)
    (in_second : store.hasAccount second account = true) :
    first = second := by
  obtain ⟨row, row_mem, row_id, rfl⟩ := hasAccount_eq_true_iff.mp in_first
  obtain ⟨other, other_mem, other_id, rfl⟩ :=
    hasAccount_eq_true_iff.mp in_second
  rw [Table.eq_of_key (fun apart => apart.1) row_mem other_mem
    (row_id.trans other_id.symm)]

namespace Tenancy

theorem empty : Tenancy .empty := by
  constructor <;> exact fun row row_mem => absurd row_mem List.not_mem_nil

/-- More tenants and accounts, and changes of accounts that keep their tenant,
take no owner away. -/
theorem grow
    {tenants : Table TenantRow TenantRow.Apart}
    {accounts : Table AccountRow AccountRow.Apart}
    (tenancy : store.Tenancy)
    (evolves : Evolves AccountRow.identity (fun row => row.state = .active)
      store.accounts.rows accounts.rows)
    (located : ∀ row ∈ accounts.rows,
      (tenants.any fun tenant => tenant.id = row.tenantId) = true) :
    Tenancy { store with tenants := tenants, accounts := accounts } := by
  have kept {tenant : TenantId} {account : AccountId}
      (owned : store.hasAccount tenant account = true) :
      hasAccount { store with tenants := tenants, accounts := accounts } tenant
        account = true := by
    obtain ⟨row, row_mem, id_eq, tenant_eq⟩ := hasAccount_eq_true_iff.mp owned
    obtain ⟨next, next_mem, identity, -⟩ := evolves row row_mem
    obtain ⟨next_id, next_tenant, -⟩ := AccountRow.identity_eq_iff.mp identity
    exact hasAccount_eq_true_iff.mpr ⟨next, next_mem, next_id.trans id_eq,
      next_tenant.trans tenant_eq⟩
  exact
    { accounts := located
      roles := fun row row_mem => kept (tenancy.roles row row_mem)
      passwords := fun row row_mem => kept (tenancy.passwords row row_mem)
      factors := fun row row_mem => kept (tenancy.factors row row_mem)
      recoverySets := fun row row_mem => kept (tenancy.recoverySets row row_mem)
      recoveryCodes := tenancy.recoveryCodes
      families := fun row row_mem => kept (tenancy.families row row_mem)
      credentials := fun row row_mem => kept (tenancy.credentials row row_mem)
      accesses := fun row row_mem => kept (tenancy.accesses row row_mem)
      grants := fun row row_mem => kept (tenancy.grants row row_mem)
      transactions := fun row row_mem => kept (tenancy.transactions row row_mem)
      passkeys := fun row row_mem => kept (tenancy.passkeys row row_mem)
      ceremonies := fun row row_mem => kept (tenancy.ceremonies row row_mem) }

end Tenancy

/-- Every call leaves account-scoped rows in the tenant of their account. -/
theorem Effect.tenancy
    (tenancy : store.Tenancy)
    (effect : Effect unicode store call result later) :
    later.Tenancy := by
  cases effect with
  | @tenantBootstrapped command generated tenants accounts _ _ _ tenants_rows
      accounts_rows roles_rows =>
      have located : ∀ row ∈ accounts.rows,
          (tenants.any fun tenant => tenant.id = row.tenantId) = true := by
        refine forall_mem_concat accounts_rows (fun row row_mem => ?_) ?_
        · obtain ⟨tenant, tenant_mem, selected⟩ :=
            List.any_eq_true.mp (tenancy.accounts row row_mem)
          exact List.any_eq_true.mpr ⟨tenant,
            tenants_rows ▸ List.mem_append_left _ tenant_mem, selected⟩
        · exact List.any_eq_true.mpr ⟨command.tenant generated,
            tenants_rows ▸ List.mem_concat_self, decide_eq_true rfl⟩
      have grown := tenancy.grow (.insert accounts_rows) located
      exact { grown with
        roles := forall_mem_concat roles_rows grown.roles
          (hasAccount_eq_true_iff.mpr ⟨command.owner generated,
            accounts_rows ▸ List.mem_concat_self, rfl, rfl⟩) }
  | @accountInvited command generated _ _ _ _ tenant_exists accounts_rows
      roles_rows =>
      have grown := tenancy.grow (.insert accounts_rows)
        (forall_mem_concat accounts_rows tenancy.accounts tenant_exists)
      exact { grown with
        roles := forall_mem_concat roles_rows grown.roles
          (hasAccount_eq_true_iff.mpr ⟨command.account generated,
            accounts_rows ▸ List.mem_concat_self, rfl, rfl⟩) }
  | roleGranted generated _ _ target_exists roles_rows =>
      exact { tenancy with
        roles := forall_mem_concat roles_rows tenancy.roles target_exists }
  | roleRevoked generated =>
      refine { tenancy with roles := fun row row_mem => ?_ }
      exact tenancy.roles row (Table.mem_delete.mp row_mem).1
  | passwordCreated generated account_exists passwords_rows =>
      exact { tenancy with
        passwords := forall_mem_concat passwords_rows tenancy.passwords
          account_exists }
  | passwordReplaced generated _ passwords_rows =>
      exact { tenancy with
        passwords := forall_mem_modify passwords_rows tenancy.passwords
          fun _ _ owned => owned }
  | pendingFactorCreated generated account_exists factors_rows =>
      exact { tenancy with
        factors := forall_mem_concat factors_rows tenancy.factors
          account_exists }
  | factorActivated generated _ _ factors_rows accounts_rows =>
      have grown := tenancy.grow
        (.update accounts_rows (fun _ => rfl) (fun _ _ _ => rfl))
        (forall_mem_modify accounts_rows tenancy.accounts
          fun _ _ located => located)
      exact { grown with
        factors := forall_mem_modify factors_rows grown.factors
          fun _ _ owned => owned }
  | stepConsumed _ _ factors_rows =>
      exact { tenancy with
        factors := forall_mem_modify factors_rows tenancy.factors
          fun _ _ owned => owned }
  | @recoverySetReplaced request generated _ _ _ _ account_exists sets_rows
      verifiers_rows =>
      have owned : ∀ row ∈ store.recoveryCodeSets.rows.map
          (modify request.selects
            (ReplaceRecoveryCodeSet.invalidates generated)),
          store.hasAccount row.tenantId row.accountId = true :=
        forall_mem_modify rfl tenancy.recoverySets fun _ _ owned => owned
      refine { tenancy with
        recoverySets := forall_mem_concat sets_rows owned account_exists
        recoveryCodes := fun row row_mem => ?_ }
      rw [verifiers_rows] at row_mem
      rcases List.mem_append.mp row_mem with row_mem | row_mem
      · obtain ⟨set, set_mem, set_id⟩ := tenancy.recoveryCodes row row_mem
        refine ⟨_, sets_rows ▸ List.mem_append_left _
          (List.mem_map_of_mem set_mem), ?_⟩
        exact (modify_column RecoveryCodeSetRow.id (by exact fun _ => rfl)
          set).trans set_id
      · exact ⟨request.set generated, sets_rows ▸ List.mem_concat_self,
          (ReplaceRecoveryCodeSet.setId_of_mem_verifierRows row_mem).symm⟩
  | recoveryCodeConsumed generated _ verifiers_rows =>
      exact { tenancy with
        recoveryCodes := forall_mem_modify verifiers_rows tenancy.recoveryCodes
          fun _ _ known => known }
  | sessionCreated generated account_active families_rows credentials_rows
      access_rows =>
      have owned := hasAccount_of_hasAccountIn account_active
      exact { tenancy with
        families := forall_mem_concat families_rows tenancy.families owned
        credentials := forall_mem_concat credentials_rows tenancy.credentials
          owned
        accesses := forall_mem_concat access_rows tenancy.accesses owned }
  | @credentialRotated request generated credential _ _ _ _ _ presented _ _ _ _
      credentials_rows access_rows =>
      obtain ⟨⟨credential_mem, -⟩, -⟩ := of_presentedCredential presented
      have owned := tenancy.credentials credential credential_mem
      exact { tenancy with
        credentials := forall_mem_concat credentials_rows
          (forall_mem_modify rfl tenancy.credentials fun _ _ owned => owned)
          owned
        accesses := forall_mem_concat access_rows
          (forall_mem_modify rfl tenancy.accesses fun _ _ owned => owned)
          owned }
  | reuseRevoked generated _ _ _ _ _ families_rows access_rows =>
      exact { tenancy with
        families := forall_mem_modify families_rows tenancy.families
          fun _ _ owned => owned
        accesses := forall_mem_modify access_rows tenancy.accesses
          fun _ _ owned => owned }
  | familyRevoked generated _ families_rows access_rows =>
      exact { tenancy with
        families := forall_mem_modify families_rows tenancy.families
          fun _ _ owned => owned
        accesses := forall_mem_modify access_rows tenancy.accesses
          fun _ _ owned => owned }
  | grantCreated generated _ family_live grants_rows =>
      have account_active := (Bool.and_eq_true _ _ ▸ family_live).2
      exact { tenancy with
        grants := forall_mem_concat grants_rows tenancy.grants
          (hasAccount_of_hasAccountIn account_active) }
  | grantConsumed generated _ _ grants_rows =>
      exact { tenancy with
        grants := forall_mem_modify grants_rows tenancy.grants
          fun _ _ owned => owned }
  | loginTransactionCreated generated account_exists transactions_rows =>
      exact { tenancy with
        transactions := forall_mem_concat transactions_rows
          tenancy.transactions account_exists }
  | loginTransactionConsumed generated _ transactions_rows =>
      exact { tenancy with
        transactions := forall_mem_modify transactions_rows
          tenancy.transactions fun _ _ owned => owned }
  | ceremonyCreated generated account_usable ceremonies_rows =>
      refine { tenancy with
        ceremonies := forall_mem_concat ceremonies_rows tenancy.ceremonies ?_ }
      rcases Bool.or_eq_true_iff.mp account_usable with found | found
      · exact hasAccount_of_hasAccountIn found
      · exact hasAccount_of_hasAccountIn found
  | ceremonyConsumed generated _ ceremonies_rows =>
      exact { tenancy with
        ceremonies := forall_mem_modify ceremonies_rows tenancy.ceremonies
          fun _ _ owned => owned }
  | passkeyRegistered generated account_active passkeys_rows =>
      exact { tenancy with
        passkeys := forall_mem_concat passkeys_rows tenancy.passkeys
          (hasAccount_of_hasAccountIn account_active) }
  | passkeyUpdated generated _ _ passkeys_rows =>
      exact { tenancy with
        passkeys := forall_mem_modify passkeys_rows tenancy.passkeys
          fun _ _ owned => owned }
  | _ => exact { tenancy with }

/-- Every reachable database keeps rows in the tenant of their account. -/
theorem tenancy_of_trace (trace : Trace (Step unicode) .empty events store) :
    store.Tenancy :=
  invariant_of_trace Effect.tenancy trace .empty

/-! ## The tenant of a call -/

/-- The tenant that a call names, that it creates, or whose row its token
identifies. -/
def scope (store : Store) : (call : Call) → call.Result → Option TenantId
  | .bootstrapTenant _, created => some created.tenantId
  | .inviteAccount command, _ => some command.tenantId
  | .changeRole command, _ => some command.tenantId
  | .storePasswordVerifier request, _ => some request.tenantId
  | .createPendingTotpFactor request, _ => some request.tenantId
  | .activateTotpFactor request, _ => some request.tenantId
  | .consumeTotpStep request, _ => some request.tenantId
  | .replaceRecoveryCodeSet request, _ => some request.tenantId
  | .consumeRecoveryCode request, _ => some request.tenantId
  | .createRefreshSession request, _ => some request.tenantId
  | .rotateRefreshCredential request, _ =>
      (store.refreshCredentials.find? fun row =>
        row.tokenDigest = request.presentedDigest.asBytes).map (·.tenantId)
  | .revokeRefreshSessionFamily request, _ => some request.tenantId
  | .createStepUpGrant request, _ => some request.tenantId
  | .consumeStepUpGrant request, _ => some request.tenantId
  | .createLoginTransaction request, _ => some request.tenantId
  | .consumeLoginTransaction request, _ =>
      (store.loginTransactions.find? fun row =>
        row.tokenDigest = request.tokenDigest.asBytes).map (·.tenantId)
  | .createWebauthnCeremony request, _ => some request.tenantId
  | .consumeWebauthnCeremony request, _ =>
      (store.webauthnCeremonies.find? fun row =>
        row.tokenDigest = request.tokenDigest.asBytes).map (·.tenantId)
  | .registerWebauthnPasskey request, _ => some request.tenantId
  | .updateWebauthnPasskey request, _ => some request.tenantId
  | .recordFederationReplay request, _ => some request.tenantId
  | _, _ => none

/-- Whether a tenant is not the one of a call. -/
def isOther (scope : Option TenantId) (tenant : TenantId) : Bool :=
  some tenant ≠ scope

/-- Whether a recovery code belongs to no set of the tenant of a call. -/
def isOtherCode
    (scope : Option TenantId)
    (sets : List RecoveryCodeSetRow)
    (row : RecoveryCodeVerifierRow) : Bool :=
  !sets.any fun set => set.id = row.setId ∧ some set.tenantId = scope

/-- The rows of all tenants but one are the same in two databases, and so are
the rows of no tenant, the key envelopes of the deployment. -/
structure Isolated (scope : Option TenantId) (store later : Store) : Prop where
  tenants : Confined (fun row => isOther scope row.id)
    store.tenants.rows later.tenants.rows
  accounts : Confined (fun row => isOther scope row.tenantId)
    store.accounts.rows later.accounts.rows
  roles : Confined (fun row => isOther scope row.tenantId)
    store.accountRoles.rows later.accountRoles.rows
  passwords : Confined (fun row => isOther scope row.tenantId)
    store.passwordCredentials.rows later.passwordCredentials.rows
  factors : Confined (fun row => isOther scope row.tenantId)
    store.mfaTotpFactors.rows later.mfaTotpFactors.rows
  recoverySets : Confined (fun row => isOther scope row.tenantId)
    store.recoveryCodeSets.rows later.recoveryCodeSets.rows
  recoveryCodes : Confined (isOtherCode scope later.recoveryCodeSets.rows)
    store.recoveryCodeVerifiers.rows later.recoveryCodeVerifiers.rows
  families : Confined (fun row => isOther scope row.tenantId)
    store.sessionFamilies.rows later.sessionFamilies.rows
  credentials : Confined (fun row => isOther scope row.tenantId)
    store.refreshCredentials.rows later.refreshCredentials.rows
  accesses : Confined (fun row => isOther scope row.tenantId)
    store.accessSessions.rows later.accessSessions.rows
  grants : Confined (fun row => isOther scope row.tenantId)
    store.stepUpGrants.rows later.stepUpGrants.rows
  transactions : Confined (fun row => isOther scope row.tenantId)
    store.loginTransactions.rows later.loginTransactions.rows
  passkeys : Confined (fun row => isOther scope row.tenantId)
    store.webauthnCredentials.rows later.webauthnCredentials.rows
  ceremonies : Confined (fun row => isOther scope row.tenantId)
    store.webauthnCeremonies.rows later.webauthnCeremonies.rows
  peers : later.federationPeers = store.federationPeers
  keys : later.federationKeys = store.federationKeys
  replays : Confined (fun row => isOther scope row.tenantId)
    store.federationReplays.rows later.federationReplays.rows
  audits : Confined (fun row => isOther scope row.tenantId)
    store.auditEvents.rows later.auditEvents.rows
  envelopes : later.totpDataKeyEnvelopes = store.totpDataKeyEnvelopes

/-- Nothing but one key envelope was added. -/
structure AddsEnvelope
    (request : CreateTotpDataKeyEnvelope)
    (store later : Store) : Prop where
  rest : { later with totpDataKeyEnvelopes := store.totpDataKeyEnvelopes } =
    store
  envelopes : later.totpDataKeyEnvelopes.rows =
    store.totpDataKeyEnvelopes.rows ++ [request.envelope]

/-- What a successful call may change: an envelope is for the whole deployment,
and every other call keeps to its tenant. -/
def Respects (store later : Store) : (call : Call) → call.Result → Prop
  | .createTotpDataKeyEnvelope request, _ => AddsEnvelope request store later
  | call, result => Isolated (store.scope call result) store later

theorem Isolated.refl (scope : Option TenantId) (store : Store) :
    Isolated scope store store := by
  constructor <;> exact rfl

theorem isOther_eq_false
    {scope : Option TenantId}
    {tenant : TenantId}
    (same : scope = some tenant) :
    isOther scope tenant = false := by
  simp [isOther, same]

/-- An added row of the tenant is inside its scope. -/
theorem inside_of_added
    {ρ : Type}
    {scope : Option TenantId}
    {tenantOf : ρ → TenantId}
    {added : ρ}
    (same : scope = some (tenantOf added)) :
    ∀ row ∈ [added], isOther scope (tenantOf row) = false := by
  intro row row_mem
  rw [List.mem_singleton.mp row_mem]
  exact isOther_eq_false same

/-- A row that only one token digest identifies. -/
theorem map_find?_of_digest
    {ρ : Type}
    {Apart : ρ → ρ → Prop}
    {table : Table ρ Apart}
    {digestOf : ρ → Vector UInt8 32}
    {tenantOf : ρ → TenantId}
    {digest : Vector UInt8 32}
    {row : ρ}
    (separates : ∀ {first second}, Apart first second →
      digestOf first ≠ digestOf second)
    (row_mem : row ∈ table.rows)
    (row_digest : digestOf row = digest) :
    (table.find? fun row => digestOf row = digest).map tenantOf =
      some (tenantOf row) := by
  have found : (table.find? fun row => digestOf row = digest) = some row := by
    refine Table.find?_of_mem ?_ row_mem (decide_eq_true row_digest)
    intro first second first_selected second_selected
    exact Table.not_apart_of_key @separates (of_decide_eq_true first_selected)
      (of_decide_eq_true second_selected)
  rw [found]
  rfl

/-- A presented refresh token identifies the tenant of its credential. -/
theorem scope_of_presented
    {request : RotateRefreshCredential}
    {credential : RefreshCredentialRow}
    {family : SessionFamilyRow}
    {account : AccountRow}
    (presented : store.presentedCredential request.presentedDigest =
      some (credential, family, account))
    (outcome : RefreshRotation) :
    store.scope (.rotateRefreshCredential request) outcome =
      some credential.tenantId := by
  obtain ⟨⟨credential_mem, digest_eq⟩, -⟩ := of_presentedCredential presented
  exact map_find?_of_digest (fun apart => apart.2.1) credential_mem digest_eq

/-- A login token identifies the tenant of its transaction. -/
theorem scope_of_transaction
    {request : ConsumeLoginTransaction}
    {now : OffsetDateTime}
    {transaction : LoginTransactionRow}
    (found : store.loginTransactions.find? (request.selects now) =
      some transaction)
    (record : LoginTransactionRecord) :
    store.scope (.consumeLoginTransaction request) record =
      some transaction.tenantId := by
  obtain ⟨transaction_mem, selected⟩ := Table.find?_eq_some found
  obtain ⟨digest_eq, -⟩ := of_decide_eq_true selected
  exact map_find?_of_digest (fun apart => apart.2) transaction_mem digest_eq

/-- A ceremony token identifies the tenant of its ceremony. -/
theorem scope_of_ceremony
    {request : ConsumeWebauthnCeremony}
    {now : OffsetDateTime}
    {ceremony : WebauthnCeremonyRow}
    (found : store.webauthnCeremonies.find? (request.selects now) =
      some ceremony)
    (record : WebauthnCeremonyRecord) :
    store.scope (.consumeWebauthnCeremony request) record =
      some ceremony.tenantId := by
  obtain ⟨ceremony_mem, selected⟩ := Table.find?_eq_some found
  obtain ⟨digest_eq, -⟩ := of_decide_eq_true selected
  exact map_find?_of_digest (fun apart => apart.2) ceremony_mem digest_eq

/-- The access sessions of a family have the tenant of the family. -/
theorem tenant_of_access
    {family : Uuid}
    {tenant : TenantId}
    {account : AccountId}
    {row : AccessSessionRow}
    (invariant : store.FamilyInvariant)
    (belongs : SessionFamilies.Belongs store.sessionFamilies family tenant
      account)
    (row_mem : row ∈ store.accessSessions.rows)
    (same : row.familyId = family) :
    row.tenantId = tenant := by
  obtain ⟨owner, owner_mem, owner_id, rfl, -⟩ := belongs
  exact (owner_of_belongs (invariant.access_belongs row row_mem) owner_mem
    (same.trans owner_id.symm)).1

/-- A successful call keeps to its tenant, unless it adds an envelope. -/
theorem Effect.respects
    (tenancy : store.Tenancy)
    (invariant : store.FamilyInvariant)
    (effect : Effect unicode store call result later) :
    Respects store later call result := by
  have same := Isolated.refl (store.scope call result) store
  cases effect with
  | tenantBootstrapped generated _ tenants_rows accounts_rows roles_rows
      audit_rows =>
      exact { same with
        tenants := .insert tenants_rows (inside_of_added rfl)
        accounts := .insert accounts_rows (inside_of_added rfl)
        roles := .insert roles_rows (inside_of_added rfl)
        audits := .insert audit_rows (inside_of_added rfl) }
  | accountInvited generated _ _ accounts_rows roles_rows audit_rows =>
      exact { same with
        accounts := .insert accounts_rows (inside_of_added rfl)
        roles := .insert roles_rows (inside_of_added rfl)
        audits := .insert audit_rows (inside_of_added rfl) }
  | roleGranted generated _ _ _ roles_rows audit_rows =>
      exact { same with
        roles := .insert roles_rows (inside_of_added rfl)
        audits := .insert audit_rows (inside_of_added rfl) }
  | roleRevoked generated _ _ _ audit_rows =>
      refine { same with
        roles := .delete rfl fun row _ selected => ?_
        audits := .insert audit_rows (inside_of_added rfl) }
      obtain ⟨tenant_eq, -⟩ := of_decide_eq_true selected
      exact isOther_eq_false (congrArg some tenant_eq.symm)
  | passwordCreated generated _ passwords_rows audit_rows =>
      exact { same with
        passwords := .insert passwords_rows (inside_of_added rfl)
        audits := .insert audit_rows (inside_of_added rfl) }
  | passwordReplaced generated account_exists passwords_rows audit_rows =>
      refine { same with
        passwords := .update passwords_rows (fun row row_mem selected => ?_)
          (fun _ => rfl)
        audits := .insert audit_rows (inside_of_added rfl) }
      -- The row is selected by its account alone.
      have owned := tenancy.passwords row row_mem
      rw [of_decide_eq_true selected] at owned
      exact isOther_eq_false
        (congrArg some (tenant_eq_of_hasAccount account_exists owned))
  | pendingFactorCreated generated _ factors_rows audit_rows =>
      exact { same with
        factors := .insert factors_rows (inside_of_added rfl)
        audits := .insert audit_rows (inside_of_added rfl) }
  | factorActivated generated _ _ factors_rows accounts_rows audit_rows =>
      refine { same with
        factors := .update factors_rows (fun row _ selected => ?_)
          (fun _ => rfl)
        accounts := .update accounts_rows (fun row _ selected => ?_)
          (fun _ => rfl)
        audits := .insert audit_rows (inside_of_added rfl) }
      · obtain ⟨-, tenant_eq, -⟩ := of_decide_eq_true selected
        exact isOther_eq_false (congrArg some tenant_eq.symm)
      · obtain ⟨-, tenant_eq, -⟩ := of_decide_eq_true selected
        exact isOther_eq_false (congrArg some tenant_eq.symm)
  | stepConsumed _ _ factors_rows =>
      refine { same with
        factors := .update factors_rows (fun row _ selected => ?_)
          (fun _ => rfl) }
      obtain ⟨-, tenant_eq, -⟩ := of_decide_eq_true selected
      exact isOther_eq_false (congrArg some tenant_eq.symm)
  | @recoverySetReplaced request generated _ _ _ _ _ sets_rows verifiers_rows
      audit_rows =>
      refine { same with
        recoverySets := .updateInsert sets_rows (fun row _ selected => ?_)
          (fun _ => rfl) (inside_of_added rfl)
        recoveryCodes := .insert verifiers_rows fun row row_mem => ?_
        audits := .insert audit_rows (inside_of_added rfl) }
      · obtain ⟨tenant_eq, -⟩ := of_decide_eq_true selected
        exact isOther_eq_false (congrArg some tenant_eq.symm)
      · have set_id := ReplaceRecoveryCodeSet.setId_of_mem_verifierRows row_mem
        rw [isOtherCode, Bool.not_eq_false', List.any_eq_true]
        exact ⟨request.set generated, sets_rows ▸ List.mem_concat_self,
          decide_eq_true ⟨set_id.symm, rfl⟩⟩
  | recoveryCodeConsumed generated _ verifiers_rows audit_rows =>
      refine { same with
        recoveryCodes := .update verifiers_rows (fun row _ selected => ?_)
          (fun _ => rfl)
        audits := .insert audit_rows (inside_of_added rfl) }
      obtain ⟨set, set_mem, chosen⟩ :=
        List.any_eq_true.mp (Bool.and_eq_true _ _ ▸ selected).2
      obtain ⟨set_id, tenant_eq, -⟩ := of_decide_eq_true chosen
      rw [isOtherCode, Bool.not_eq_false', List.any_eq_true]
      exact ⟨set, set_mem,
        decide_eq_true ⟨set_id.symm, congrArg some tenant_eq⟩⟩
  | sessionCreated generated _ families_rows credentials_rows access_rows
      audit_rows =>
      exact { same with
        families := .insert families_rows (inside_of_added rfl)
        credentials := .insert credentials_rows (inside_of_added rfl)
        accesses := .insert access_rows (inside_of_added rfl)
        audits := .insert audit_rows (inside_of_added rfl) }
  | @credentialRotated request generated credential _ _ _ _ _ presented _ _ _ _
      credentials_rows access_rows audit_rows =>
      obtain ⟨⟨credential_mem, -⟩, -⟩ := of_presentedCredential presented
      have scope_eq := scope_of_presented presented
        (.rotated (request.record generated credential))
      refine { same with
        credentials := .updateInsert credentials_rows
          (fun row row_mem selected => ?_) (fun _ => rfl)
          (inside_of_added scope_eq)
        accesses := .updateInsert access_rows
          (fun row row_mem selected => ?_) (fun _ => rfl)
          (inside_of_added scope_eq)
        audits := .insert audit_rows (inside_of_added scope_eq) }
      · obtain ⟨same_id, -⟩ := of_decide_eq_true selected
        rw [Table.eq_of_key (fun apart => apart.1) row_mem credential_mem
          same_id]
        exact isOther_eq_false scope_eq
      · have belongs := invariant.credential_belongs credential credential_mem
        rw [tenant_of_access invariant belongs row_mem
          (of_decide_eq_true selected).1]
        exact isOther_eq_false scope_eq
  | @reuseRevoked request generated credential _ _ _ _ _ _ presented _ _
      revocation_eq _ families_rows access_rows audit_rows =>
      subst revocation_eq
      obtain ⟨⟨credential_mem, -⟩, -⟩ := of_presentedCredential presented
      have scope_eq := scope_of_presented presented .reuseDetected
      refine { same with
        families := .update families_rows (fun row _ selected => ?_)
          (fun _ => rfl)
        accesses := .update access_rows (fun row row_mem selected => ?_)
          (fun _ => rfl)
        audits := .insert audit_rows (inside_of_added scope_eq) }
      · obtain ⟨-, tenant_eq, -⟩ := of_decide_eq_true selected
        rw [tenant_eq]
        exact isOther_eq_false scope_eq
      · have belongs := invariant.credential_belongs credential credential_mem
        rw [tenant_of_access invariant belongs row_mem
          (of_decide_eq_true selected).1]
        exact isOther_eq_false scope_eq
  | familyRevoked generated revoked families_rows access_rows audit_rows =>
      refine { same with
        families := .update families_rows (fun row _ selected => ?_)
          (fun _ => rfl)
        accesses := .update access_rows (fun row row_mem selected => ?_)
          (fun _ => rfl)
        audits := .insert audit_rows (inside_of_added rfl) }
      · obtain ⟨-, tenant_eq, -⟩ := of_decide_eq_true selected
        exact isOther_eq_false (congrArg some tenant_eq.symm)
      · -- The access sessions are selected by their family alone.
        obtain ⟨family, family_mem, chosen⟩ :=
          Table.exists_of_count_eq_one revoked
        obtain ⟨family_id, tenant_eq, -⟩ := of_decide_eq_true chosen
        rw [tenant_of_access invariant
          ⟨family, family_mem, family_id, tenant_eq, rfl⟩ row_mem
          (of_decide_eq_true selected).1]
        exact isOther_eq_false rfl
  | grantCreated generated _ _ grants_rows audit_rows =>
      exact { same with
        grants := .insert grants_rows (inside_of_added rfl)
        audits := .insert audit_rows (inside_of_added rfl) }
  | grantConsumed generated _ _ grants_rows audit_rows =>
      refine { same with
        grants := .update grants_rows (fun row _ selected => ?_)
          (fun _ => rfl)
        audits := .insert audit_rows (inside_of_added rfl) }
      obtain ⟨-, tenant_eq, -⟩ := of_decide_eq_true selected
      exact isOther_eq_false (congrArg some tenant_eq.symm)
  | loginTransactionCreated generated _ transactions_rows audit_rows =>
      exact { same with
        transactions := .insert transactions_rows (inside_of_added rfl)
        audits := .insert audit_rows (inside_of_added rfl) }
  | @loginTransactionConsumed request generated transaction _ _ found
      transactions_rows audit_rows =>
      obtain ⟨transaction_mem, selected⟩ := Table.find?_eq_some found
      obtain ⟨digest_eq, -⟩ := of_decide_eq_true selected
      have scope_eq := scope_of_transaction found (request.record transaction)
      refine { same with
        transactions := .update transactions_rows
          (fun row row_mem selected => ?_) (fun _ => rfl)
        audits := .insert audit_rows (inside_of_added scope_eq) }
      obtain ⟨row_digest, -⟩ := of_decide_eq_true selected
      rw [Table.eq_of_key (fun apart => apart.2) row_mem transaction_mem
        (row_digest.trans digest_eq.symm)]
      exact isOther_eq_false scope_eq
  | ceremonyCreated generated _ ceremonies_rows audit_rows =>
      exact { same with
        ceremonies := .insert ceremonies_rows (inside_of_added rfl)
        audits := .insert audit_rows (inside_of_added rfl) }
  | @ceremonyConsumed request generated ceremony _ _ found ceremonies_rows
      audit_rows =>
      obtain ⟨ceremony_mem, selected⟩ := Table.find?_eq_some found
      obtain ⟨digest_eq, -⟩ := of_decide_eq_true selected
      have scope_eq := scope_of_ceremony found
        (ConsumeWebauthnCeremony.record ceremony)
      refine { same with
        ceremonies := .update ceremonies_rows
          (fun row row_mem selected => ?_) (fun _ => rfl)
        audits := .insert audit_rows (inside_of_added scope_eq) }
      obtain ⟨row_digest, -⟩ := of_decide_eq_true selected
      rw [Table.eq_of_key (fun apart => apart.2) row_mem ceremony_mem
        (row_digest.trans digest_eq.symm)]
      exact isOther_eq_false scope_eq
  | passkeyRegistered generated _ passkeys_rows audit_rows =>
      exact { same with
        passkeys := .insert passkeys_rows (inside_of_added rfl)
        audits := .insert audit_rows (inside_of_added rfl) }
  | passkeyUpdated generated _ _ passkeys_rows =>
      refine { same with
        passkeys := .update passkeys_rows (fun row _ selected => ?_)
          (fun _ => rfl) }
      obtain ⟨tenant_eq, -⟩ := of_decide_eq_true selected
      exact isOther_eq_false (congrArg some tenant_eq.symm)
  | replayRecorded generated _ _ replays_rows audit_rows =>
      exact { same with
        replays := .insert replays_rows (inside_of_added rfl)
        audits := .insert audit_rows (inside_of_added rfl) }
  | envelopeCreated bounded envelopes_rows => exact ⟨rfl, envelopes_rows⟩
  | _ => exact { same with }

/-- In every reachable database, a successful call changes rows of its tenant
alone or adds one key envelope and changes nothing else, a failed call changes
nothing, and account-scoped rows name an account of their own tenant. -/
theorem tenant_isolation
    {unicode : Unicode}
    {events : List (Event Call Call.Reply)}
    {store : Store}
    (reachable : Trace (Step unicode) .empty events store) :
    (∀ (call : Call) (result : call.Result) (later : Store),
      Step unicode store call (.ok result) later →
        Respects store later call result) ∧
    (∀ (call : Call) (error : StoreError) (later : Store),
      Step unicode store call (.error error) later → later = store) ∧
    store.Tenancy := by
  have tenancy := tenancy_of_trace reachable
  refine ⟨fun call result later step => ?_, fun call error later step => ?_,
    tenancy⟩
  · exact step.effect.respects tenancy (familyInvariant_of_trace reachable)
  · exact step.eq_of_error

/-- The revocation of a family that changes an access session by its family
alone. -/
theorem tenant_isolation_revoked :
    ∃ (events : List (Event Call Call.Reply)) (store later : Store)
      (request : RevokeRefreshSessionFamily),
      Trace (Step .sample) .empty events store ∧
      Step .sample store (.revokeRefreshSessionFamily request) (.ok true)
        later ∧
      store.sessionFamilies.rows.length = 1 ∧ store.Tenancy ∧
      Isolated (some request.tenantId) store later := by
  obtain ⟨events, trace⟩ : ∃ events, Trace (Step .sample) Store.empty events
      (replay .sample .empty signedIn) :=
    exists_trace_replay .empty signedIn
  let request : RevokeRefreshSessionFamily :=
    { tenantId := ⟨.sample 1⟩
      accountId := ⟨.sample 2⟩
      familyId := .sample 20
      correlationId := "c" }
  have step : Step .sample (replay .sample .empty signedIn)
      (.revokeRefreshSessionFamily request) (.ok true) _ :=
    .answers (.sample 40) (Prod.ext (by decide +kernel) rfl)
  obtain ⟨respects, -, tenancy⟩ := tenant_isolation trace
  exact ⟨events, _, _, request, trace, step, by decide +kernel, tenancy,
    respects _ _ _ step⟩

/-- The first envelope of a deployment is a row that no tenant owns. -/
theorem envelope_belongs_to_no_tenant :
    ∃ (request : CreateTotpDataKeyEnvelope) (later : Store),
      Step .sample .empty (.createTotpDataKeyEnvelope request) (.ok ()) later ∧
      later.totpDataKeyEnvelopes.rows.length = 1 ∧
      ∀ scope, ¬Isolated scope .empty later := by
  let request : CreateTotpDataKeyEnvelope :=
    { keyReference := ⟨"k", by decide⟩
      provider := "aws_kms"
      wrappingKeyReference := "w"
      encryptedDataKey := [0]
      createdAt := .sample 0 }
  have step : Step .sample .empty (.createTotpDataKeyEnvelope request) (.ok ())
      _ := .answers (.sample 0) (Prod.ext (by decide +kernel) rfl)
  have reachable : Trace (Step .sample) .empty [] .empty := .start
  obtain ⟨-, added⟩ : AddsEnvelope request _ _ := step.effect.respects
    (tenancy_of_trace reachable) (familyInvariant_of_trace reachable)
  refine ⟨request, _, step, congrArg List.length added, fun scope isolated => ?_⟩
  rw [isolated.envelopes] at added
  cases added

end Store

end Fabric
end Fcp
