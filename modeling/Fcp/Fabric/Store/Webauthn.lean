import Fcp.Fabric.Store.Helpers

/-!
# Passkeys

Server-side ceremonies and the passkeys that they register or update.
-/

namespace Fcp
namespace Fabric

open Rust
open Sql
open Sql.Transaction

/-- Persist one server-side ceremony. -/
structure CreateWebauthnCeremony where
  tenantId : TenantId
  accountId : AccountId
  kind : WebauthnCeremonyKind
  state : Json
  tokenDigest : OpaqueTokenDigest
  bindingDigest : OpaqueTokenDigest
  expiresAt : OffsetDateTime
  correlationId : String

/-- Consume one browser-bound ceremony. -/
structure ConsumeWebauthnCeremony where
  tokenDigest : OpaqueTokenDigest
  bindingDigest : OpaqueTokenDigest
  correlationId : String

/-- Consumed ceremony record. -/
structure WebauthnCeremonyRecord where
  tenantId : TenantId
  accountId : AccountId
  kind : WebauthnCeremonyKind
  state : Json

/-- One active serialised passkey record. -/
structure StoredWebauthnPasskey where
  credentialId : String
  passkey : Json

/-- Register one verified passkey. -/
structure RegisterWebauthnPasskey where
  tenantId : TenantId
  accountId : AccountId
  credentialId : String
  passkey : Json
  label : Option String
  correlationId : String

/-- Store the verified updated state of a passkey. -/
structure UpdateWebauthnPasskey where
  tenantId : TenantId
  accountId : AccountId
  credentialId : String
  passkey : Json

/-! ## Rows written -/

namespace CreateWebauthnCeremony

def ceremony (request : CreateWebauthnCeremony) (generated : Generated) :
    WebauthnCeremonyRow where
  id := generated.uuid 0
  tenantId := request.tenantId
  accountId := request.accountId
  kind := request.kind
  state := request.state
  tokenDigest := request.tokenDigest.asBytes
  bindingDigest := request.bindingDigest.asBytes
  createdAt := generated.now.timestamptz
  expiresAt := request.expiresAt.timestamptz
  consumedAt := none

def audit (request : CreateWebauthnCeremony) (generated : Generated) :
    AuditEventRow where
  id := generated.uuid 1
  tenantId := request.tenantId
  actorId := some request.accountId
  action := .webauthnCeremonyIssued
  correlationId := request.correlationId
  metadata := .object
    [("ceremony_id", .uuid (generated.uuid 0)),
      ("kind", .string request.kind.databaseValue)]
  occurredAt := generated.now.timestamptz

end CreateWebauthnCeremony

namespace ConsumeWebauthnCeremony

/-- The unused ceremony of the presented handle and binding. -/
def selects
    (request : ConsumeWebauthnCeremony)
    (now : OffsetDateTime)
    (row : WebauthnCeremonyRow) : Bool :=
  row.tokenDigest = request.tokenDigest.asBytes ∧
    row.bindingDigest = request.bindingDigest.asBytes ∧
    row.consumedAt = none ∧ now.timestamptz < row.expiresAt

/-- A ceremony after its use. -/
def consumes (generated : Generated) (row : WebauthnCeremonyRow) :
    WebauthnCeremonyRow :=
  { row with consumedAt := some generated.now.timestamptz }

def audit
    (request : ConsumeWebauthnCeremony)
    (generated : Generated)
    (ceremony : WebauthnCeremonyRow) : AuditEventRow where
  id := generated.uuid 0
  tenantId := ceremony.tenantId
  actorId := some ceremony.accountId
  action := .webauthnCeremonyConsumed
  correlationId := request.correlationId
  metadata := .object [("kind", .string ceremony.kind.databaseValue)]
  occurredAt := generated.now.timestamptz

/-- What the consumption of a ceremony returns. -/
def record (ceremony : WebauthnCeremonyRow) : WebauthnCeremonyRecord where
  tenantId := ceremony.tenantId
  accountId := ceremony.accountId
  kind := ceremony.kind
  state := ceremony.state

end ConsumeWebauthnCeremony

namespace RegisterWebauthnPasskey

def credential (request : RegisterWebauthnPasskey) (generated : Generated) :
    WebauthnCredentialRow where
  id := generated.uuid 0
  tenantId := request.tenantId
  accountId := request.accountId
  credentialId := request.credentialId
  passkey := request.passkey
  label := request.label
  createdAt := generated.now.timestamptz
  lastUsedAt := none
  disabledAt := none

def audit (request : RegisterWebauthnPasskey) (generated : Generated) :
    AuditEventRow where
  id := generated.uuid 1
  tenantId := request.tenantId
  actorId := some request.accountId
  action := .passkeyChanged
  correlationId := request.correlationId
  metadata := .object [("outcome", .string "registered")]
  occurredAt := generated.now.timestamptz

end RegisterWebauthnPasskey

namespace UpdateWebauthnPasskey

/-- The enabled passkey of the account. -/
def selects (request : UpdateWebauthnPasskey) (row : WebauthnCredentialRow) :
    Bool :=
  row.tenantId = request.tenantId ∧ row.accountId = request.accountId ∧
    row.credentialId = request.credentialId ∧ row.disabledAt = none

/-- A passkey after its use. -/
def stores
    (request : UpdateWebauthnPasskey)
    (generated : Generated)
    (row : WebauthnCredentialRow) : WebauthnCredentialRow :=
  { row with
    passkey := request.passkey
    lastUsedAt := some generated.now.timestamptz }

end UpdateWebauthnPasskey

namespace Store

/-- Create one short-lived ceremony. -/
def createWebauthnCeremony
    (generated : Generated)
    (request : CreateWebauthnCeremony) : StoreTransaction Unit := do
  validateCorrelationId request.correlationId
  rejectIf (request.expiresAt ≤ generated.now)
    StoreError.invalidWebauthnCeremonyExpiry
  let created ← insertWhere webauthnCeremoniesRelation .database
    (fun store =>
      store.hasAccountIn request.tenantId request.accountId .active ||
        store.hasAccountIn request.tenantId request.accountId
          .mfaEnrollmentRequired)
    (request.ceremony generated)
  rejectIf (created ≠ 1) StoreError.targetNotFoundOrUnchanged
  insertAudit (request.audit generated)

/-- Consume one exact browser-bound ceremony. -/
def consumeWebauthnCeremony
    (generated : Generated)
    (request : ConsumeWebauthnCeremony) :
    StoreTransaction WebauthnCeremonyRecord := do
  validateCorrelationId request.correlationId
  let consumed ← updateReturning webauthnCeremoniesRelation .database
    (request.selects generated.now) (ConsumeWebauthnCeremony.consumes generated)
  match consumed with
  | none => throw .invalidOrExpiredWebauthnCeremony
  | some ceremony =>
      insertAudit (request.audit generated ceremony)
      return ConsumeWebauthnCeremony.record ceremony

/-- All active serialised passkeys of an account, oldest first. -/
def activeWebauthnPasskeys
    (store : Store)
    (tenant : TenantId)
    (account : AccountId) : List StoredWebauthnPasskey :=
  ((store.webauthnCredentials.rows.filter fun row =>
      row.tenantId = tenant ∧ row.accountId = account ∧
        row.disabledAt = none).mergeSort
    fun first second => first.createdAt ≤ second.createdAt).map
    fun row => { credentialId := row.credentialId, passkey := row.passkey }

/-- Persist one newly verified passkey. -/
def registerWebauthnPasskey
    (generated : Generated)
    (request : RegisterWebauthnPasskey) : StoreTransaction Unit := do
  validateCorrelationId request.correlationId
  rejectIf
    (request.credentialId = "" ∨ (asBytes request.credentialId).length > 2048)
    StoreError.invalidWebauthnCredentialId
  rejectIf (∃ label ∈ request.label, UnsafeText 96 label)
    StoreError.invalidWebauthnPasskeyLabel
  let created ← insertWhere webauthnCredentialsRelation .database
    (fun store =>
      store.hasAccountIn request.tenantId request.accountId .active)
    (request.credential generated)
  rejectIf (created ≠ 1) StoreError.targetNotFoundOrUnchanged
  insertAudit (request.audit generated)

/-- Store verified updated passkey state and the time of its use. -/
def updateWebauthnPasskey
    (generated : Generated)
    (request : UpdateWebauthnPasskey) : StoreTransaction Unit := do
  let store ← get
  let changed ← update webauthnCredentialsRelation .database
    (fun row => request.selects row &&
      store.hasAccountIn request.tenantId request.accountId .active)
    (request.stores generated)
  rejectIf (changed ≠ 1) StoreError.targetNotFoundOrUnchanged

end Store

end Fabric
end Fcp
