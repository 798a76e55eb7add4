import Fcp.Sql.Evolution
import Fcp.Fabric.Store.Steps

/-!
# What calls never undo

No call removes a row of an account, factor, session or token, changes what the
row stands for, or takes back an activation, a consumption or a revocation.
-/

namespace Fcp
namespace Fabric

open Sql
open Reactive

/-! ## Identities -/

def AccountRow.identity (row : AccountRow) :
    AccountId × TenantId × Localpart :=
  (row.id, row.tenantId, row.normalizedLocalpart)

theorem AccountRow.identity_eq_iff {first second : AccountRow} :
    first.identity = second.identity ↔ first.id = second.id ∧
      first.tenantId = second.tenantId ∧
      first.normalizedLocalpart = second.normalizedLocalpart := by
  simp only [identity, Prod.mk.injEq]

def TotpFactorRow.identity (row : TotpFactorRow) :
    Uuid × TenantId × AccountId :=
  (row.id, row.tenantId, row.accountId)

theorem TotpFactorRow.identity_eq_iff {first second : TotpFactorRow} :
    first.identity = second.identity ↔ first.id = second.id ∧
      first.tenantId = second.tenantId ∧ first.accountId = second.accountId := by
  simp only [identity, Prod.mk.injEq]

def SessionFamilyRow.identity (row : SessionFamilyRow) :
    Uuid × TenantId × AccountId :=
  (row.id, row.tenantId, row.accountId)

def RefreshCredentialRow.identity (row : RefreshCredentialRow) :
    Uuid × TenantId × AccountId × Uuid × Vector UInt8 32 :=
  (row.id, row.tenantId, row.accountId, row.familyId, row.tokenDigest)

def AccessSessionRow.identity (row : AccessSessionRow) :
    Uuid × TenantId × AccountId × Uuid × Vector UInt8 32 :=
  (row.id, row.tenantId, row.accountId, row.familyId, row.tokenDigest)

def StepUpGrantRow.identity (row : StepUpGrantRow) :
    Uuid × TenantId × AccountId × Uuid × Vector UInt8 32 × Vector UInt8 32 :=
  (row.id, row.tenantId, row.accountId, row.familyId, row.targetDigest,
    row.tokenDigest)

def LoginTransactionRow.identity (row : LoginTransactionRow) :
    Uuid × TenantId × AccountId × Vector UInt8 32 × Option Uuid :=
  (row.id, row.tenantId, row.accountId, row.tokenDigest, row.factorId)

def WebauthnCeremonyRow.identity (row : WebauthnCeremonyRow) :
    Uuid × TenantId × AccountId × WebauthnCeremonyKind × Vector UInt8 32 :=
  (row.id, row.tenantId, row.accountId, row.kind, row.tokenDigest)

namespace Store

variable {unicode : Unicode}
variable {store later : Store}

/-- One database is a later state of another. -/
structure Progress (store later : Store) : Prop where
  accounts : Evolves AccountRow.identity (fun row => row.state = .active)
    store.accounts.rows later.accounts.rows
  factors : Evolves TotpFactorRow.identity (fun row => row.status = .active)
    store.mfaTotpFactors.rows later.mfaTotpFactors.rows
  families : Evolves SessionFamilyRow.identity
    (fun row => row.revokedAt.isSome = true)
    store.sessionFamilies.rows later.sessionFamilies.rows
  credentials : Evolves RefreshCredentialRow.identity
    (fun row => row.consumedAt.isSome = true)
    store.refreshCredentials.rows later.refreshCredentials.rows
  accesses : Evolves AccessSessionRow.identity
    (fun row => row.revokedAt.isSome = true)
    store.accessSessions.rows later.accessSessions.rows
  grants : Evolves StepUpGrantRow.identity
    (fun row => row.consumedAt.isSome = true)
    store.stepUpGrants.rows later.stepUpGrants.rows
  transactions : Evolves LoginTransactionRow.identity
    (fun row => row.consumedAt.isSome = true)
    store.loginTransactions.rows later.loginTransactions.rows
  ceremonies : Evolves WebauthnCeremonyRow.identity
    (fun row => row.consumedAt.isSome = true)
    store.webauthnCeremonies.rows later.webauthnCeremonies.rows

namespace Progress

theorem refl (store : Store) : Progress store store where
  accounts := .refl _
  factors := .refl _
  families := .refl _
  credentials := .refl _
  accesses := .refl _
  grants := .refl _
  transactions := .refl _
  ceremonies := .refl _

theorem trans
    {middle : Store}
    (first : Progress store middle)
    (second : Progress middle later) :
    Progress store later where
  accounts := first.accounts.trans second.accounts
  factors := first.factors.trans second.factors
  families := first.families.trans second.families
  credentials := first.credentials.trans second.credentials
  accesses := first.accesses.trans second.accesses
  grants := first.grants.trans second.grants
  transactions := first.transactions.trans second.transactions
  ceremonies := first.ceremonies.trans second.ceremonies

end Progress

/-- Every effect is progress. -/
theorem Effect.progress
    {call : Call}
    {result : call.Result}
    (effect : Effect unicode store call result later) :
    Progress store later := by
  have same := Progress.refl store
  cases effect with
  | tenantBootstrapped generated _ _ accounts_rows =>
      exact { same with accounts := .insert accounts_rows }
  | accountInvited generated _ _ accounts_rows =>
      exact { same with accounts := .insert accounts_rows }
  | pendingFactorCreated generated _ factors_rows =>
      exact { same with factors := .insert factors_rows }
  | factorActivated generated _ _ factors_rows accounts_rows =>
      exact { same with
        factors := .update factors_rows (fun _ => rfl) (fun _ _ _ => rfl)
        accounts := .update accounts_rows (fun _ => rfl) (fun _ _ _ => rfl) }
  | stepConsumed _ _ factors_rows =>
      exact { same with
        factors := .update factors_rows (fun _ => rfl) (fun _ _ => id) }
  | sessionCreated generated _ families_rows credentials_rows access_rows =>
      exact { same with
        families := .insert families_rows
        credentials := .insert credentials_rows
        accesses := .insert access_rows }
  | credentialRotated generated _ _ _ _ _ credentials_rows access_rows =>
      exact { same with
        credentials := .updateInsert credentials_rows (fun _ => rfl)
          (fun _ _ _ => rfl)
        accesses := .updateInsert access_rows (fun _ => rfl)
          (fun _ _ _ => rfl) }
  | reuseRevoked generated _ _ _ _ _ families_rows access_rows =>
      exact { same with
        families := .update families_rows (fun _ => rfl) (fun _ _ _ => rfl)
        accesses := .update access_rows (fun _ => rfl) (fun _ _ _ => rfl) }
  | familyRevoked generated _ families_rows access_rows =>
      exact { same with
        families := .update families_rows (fun _ => rfl) (fun _ _ _ => rfl)
        accesses := .update access_rows (fun _ => rfl) (fun _ _ _ => rfl) }
  | grantCreated generated _ _ grants_rows =>
      exact { same with grants := .insert grants_rows }
  | grantConsumed generated _ _ grants_rows =>
      exact { same with
        grants := .update grants_rows (fun _ => rfl) (fun _ _ _ => rfl) }
  | loginTransactionCreated generated _ transactions_rows =>
      exact { same with transactions := .insert transactions_rows }
  | loginTransactionConsumed generated _ transactions_rows =>
      exact { same with
        transactions := .update transactions_rows (fun _ => rfl)
          (fun _ _ _ => rfl) }
  | ceremonyCreated generated _ ceremonies_rows =>
      exact { same with ceremonies := .insert ceremonies_rows }
  | ceremonyConsumed generated _ ceremonies_rows =>
      exact { same with
        ceremonies := .update ceremonies_rows (fun _ => rfl)
          (fun _ _ _ => rfl) }
  | _ => exact { same with }

/-- Every run is progress. -/
theorem progress_of_trace
    {events : List (Event Call Call.Reply)}
    (trace : Trace (Step unicode) store events later) :
    Progress store later :=
  invariant_of_trace (fun earlier effect => earlier.trans effect.progress) trace
    (.refl store)

end Store

end Fabric
end Fcp
