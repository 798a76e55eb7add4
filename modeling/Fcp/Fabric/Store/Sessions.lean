import Fcp.Fabric.Store.Accounts

/-!
# Refresh families, access sessions and revocation
-/

namespace Fcp
namespace Fabric

open Rust
open Sql
open Sql.Transaction

/-- Create a refresh family and its paired access session. -/
structure CreateRefreshSession where
  tenantId : TenantId
  accountId : AccountId
  refreshDigest : OpaqueTokenDigest
  accessDigest : OpaqueTokenDigest
  refreshExpiresAt : OffsetDateTime
  accessExpiresAt : OffsetDateTime
  correlationId : String

/-- Refresh credential record persisted with one session family. -/
structure RefreshSessionRecord where
  familyId : Uuid
  credentialId : Uuid
  expiresAt : OffsetDateTime
  accessSessionId : Uuid
  accessExpiresAt : OffsetDateTime

/-- Result of a successfully rotated refresh credential. -/
structure RefreshRotationRecord where
  tenantId : TenantId
  accountId : AccountId
  familyId : Uuid
  credentialId : Uuid
  expiresAt : OffsetDateTime
  accessSessionId : Uuid
  accessExpiresAt : OffsetDateTime

/-- Result of one refresh credential presentation. -/
inductive RefreshRotation
  | rotated (record : RefreshRotationRecord)
  | reuseDetected
  | denied

/-- Present a refresh credential for its successor. -/
structure RotateRefreshCredential where
  presentedDigest : OpaqueTokenDigest
  successorDigest : OpaqueTokenDigest
  successorAccessDigest : OpaqueTokenDigest
  successorExpiresAt : OffsetDateTime
  successorAccessExpiresAt : OffsetDateTime
  correlationId : String

/-- Arguments of an explicit revocation. -/
structure RevokeRefreshSessionFamily where
  tenantId : TenantId
  accountId : AccountId
  familyId : Uuid
  correlationId : String

/-- Current authorization derived from a valid access session. -/
structure AccessSessionAuthorization where
  context : AuthorizationContext
  familyId : Uuid

/-! ## Rows written -/

namespace CreateRefreshSession

def family (request : CreateRefreshSession) (generated : Generated) :
    SessionFamilyRow where
  id := generated.uuid 0
  tenantId := request.tenantId
  accountId := request.accountId
  createdAt := generated.now.timestamptz
  revokedAt := none
  revokeReason := none

def credential (request : CreateRefreshSession) (generated : Generated) :
    RefreshCredentialRow where
  id := generated.uuid 1
  tenantId := request.tenantId
  accountId := request.accountId
  familyId := generated.uuid 0
  tokenDigest := request.refreshDigest.asBytes
  issuedAt := generated.now.timestamptz
  expiresAt := request.refreshExpiresAt.timestamptz
  consumedAt := none
  replacedBy := none

def access (request : CreateRefreshSession) (generated : Generated) :
    AccessSessionRow where
  id := generated.uuid 2
  tenantId := request.tenantId
  accountId := request.accountId
  familyId := generated.uuid 0
  tokenDigest := request.accessDigest.asBytes
  issuedAt := generated.now.timestamptz
  expiresAt := request.accessExpiresAt.timestamptz
  revokedAt := none

def audit (request : CreateRefreshSession) (generated : Generated) :
    AuditEventRow where
  id := generated.uuid 3
  tenantId := request.tenantId
  actorId := some request.accountId
  action := .sessionIssued
  correlationId := request.correlationId
  metadata := .object
    [("family_id", .uuid (generated.uuid 0)),
      ("credential_id", .uuid (generated.uuid 1)),
      ("access_session_id", .uuid (generated.uuid 2))]
  occurredAt := generated.now.timestamptz

def record (request : CreateRefreshSession) (generated : Generated) :
    RefreshSessionRecord where
  familyId := generated.uuid 0
  credentialId := generated.uuid 1
  expiresAt := request.refreshExpiresAt
  accessSessionId := generated.uuid 2
  accessExpiresAt := request.accessExpiresAt

end CreateRefreshSession

namespace RotateRefreshCredential

/-- The presented credential while it is still unused. -/
def selects (credential row : RefreshCredentialRow) : Bool :=
  row.id = credential.id ∧ row.consumedAt = none

/-- A credential after its rotation. -/
def consumes (generated : Generated) (row : RefreshCredentialRow) :
    RefreshCredentialRow :=
  { row with
    consumedAt := some generated.now.timestamptz
    replacedBy := some (generated.uuid 0) }

def successor
    (request : RotateRefreshCredential)
    (generated : Generated)
    (credential : RefreshCredentialRow) : RefreshCredentialRow where
  id := generated.uuid 0
  tenantId := credential.tenantId
  accountId := credential.accountId
  familyId := credential.familyId
  tokenDigest := request.successorDigest.asBytes
  issuedAt := generated.now.timestamptz
  expiresAt := request.successorExpiresAt.timestamptz
  consumedAt := none
  replacedBy := none

def successorAccess
    (request : RotateRefreshCredential)
    (generated : Generated)
    (credential : RefreshCredentialRow) : AccessSessionRow where
  id := generated.uuid 1
  tenantId := credential.tenantId
  accountId := credential.accountId
  familyId := credential.familyId
  tokenDigest := request.successorAccessDigest.asBytes
  issuedAt := generated.now.timestamptz
  expiresAt := request.successorAccessExpiresAt.timestamptz
  revokedAt := none

def audit
    (request : RotateRefreshCredential)
    (generated : Generated)
    (credential : RefreshCredentialRow) : AuditEventRow where
  id := generated.uuid 2
  tenantId := credential.tenantId
  actorId := some credential.accountId
  action := .sessionIssued
  correlationId := request.correlationId
  metadata := .object
    [("operation", .string "refresh_rotated"),
      ("family_id", .uuid credential.familyId),
      ("credential_id", .uuid (generated.uuid 0)),
      ("access_session_id", .uuid (generated.uuid 1))]
  occurredAt := generated.now.timestamptz

def record
    (request : RotateRefreshCredential)
    (generated : Generated)
    (credential : RefreshCredentialRow) : RefreshRotationRecord where
  tenantId := credential.tenantId
  accountId := credential.accountId
  familyId := credential.familyId
  credentialId := generated.uuid 0
  expiresAt := request.successorExpiresAt
  accessSessionId := generated.uuid 1
  accessExpiresAt := request.successorAccessExpiresAt

end RotateRefreshCredential

/-- The live access sessions of a family. -/
def selectsAccess (family : Uuid) (row : AccessSessionRow) : Bool :=
  row.familyId = family ∧ row.revokedAt = none

/-- An access session after its revocation. -/
def revokesAccess (generated : Generated) (row : AccessSessionRow) :
    AccessSessionRow :=
  { row with revokedAt := some generated.now.timestamptz }

namespace RevokeRefreshSessionFamily

/-- The family that a revocation names while it is live. -/
def selects (request : RevokeRefreshSessionFamily) (row : SessionFamilyRow) :
    Bool :=
  row.id = request.familyId ∧ row.tenantId = request.tenantId ∧
    row.accountId = request.accountId ∧ row.revokedAt = none

/-- A family after its revocation. -/
def revokes (generated : Generated) (reason : String) (row : SessionFamilyRow) :
    SessionFamilyRow :=
  { row with
    revokedAt := some generated.now.timestamptz
    revokeReason := some reason }

def audit
    (request : RevokeRefreshSessionFamily)
    (generated : Generated)
    (reason : String) : AuditEventRow where
  id := generated.uuid 0
  tenantId := request.tenantId
  actorId := some request.accountId
  action := .sessionRevoked
  correlationId := request.correlationId
  metadata := .object
    [("family_id", .uuid request.familyId), ("reason", .string reason)]
  occurredAt := generated.now.timestamptz

end RevokeRefreshSessionFamily

namespace Store

/-! ## Writes -/

/-- Create a refresh-token family with its credential and access session. -/
def createRefreshSession
    (generated : Generated)
    (request : CreateRefreshSession) :
    StoreTransaction RefreshSessionRecord := do
  validateCorrelationId request.correlationId
  rejectIf
    (request.refreshExpiresAt ≤ generated.now ∨
      request.accessExpiresAt ≤ generated.now)
    StoreError.invalidSessionExpiry
  let family ← insertWhere sessionFamiliesRelation .database
    (fun store =>
      store.hasAccountIn request.tenantId request.accountId .active)
    (request.family generated)
  rejectIf (family ≠ 1) StoreError.targetNotFoundOrUnchanged
  insert refreshCredentialsRelation .database (request.credential generated)
  insert accessSessionsRelation .database (request.access generated)
  insertAudit (request.audit generated)
  return request.record generated

/-- Consume a locked credential and store its successor in the same family. -/
def rotateLockedRefreshCredential
    (generated : Generated)
    (request : RotateRefreshCredential)
    (credential : RefreshCredentialRow) : StoreTransaction RefreshRotation := do
  let consumed ← update refreshCredentialsRelation .database
    (RotateRefreshCredential.selects credential)
    (RotateRefreshCredential.consumes generated)
  if consumed ≠ 1 then
    return .denied
  insert refreshCredentialsRelation .database
    (request.successor generated credential)
  let _ ← update accessSessionsRelation .database
    (selectsAccess credential.familyId) (revokesAccess generated)
  insert accessSessionsRelation .database
    (request.successorAccess generated credential)
  insertAudit (request.audit generated credential)
  return .rotated (request.record generated credential)

/-- Revoke a live family with its access sessions and audit it. -/
def revokeSessionFamily
    (generated : Generated)
    (request : RevokeRefreshSessionFamily)
    (reason : String) : StoreTransaction Bool := do
  let revoked ← update sessionFamiliesRelation .database request.selects
    (RevokeRefreshSessionFamily.revokes generated reason)
  if revoked = 1 then
    let _ ← update accessSessionsRelation .database
      (selectsAccess request.familyId) (revokesAccess generated)
    insertAudit (request.audit generated reason)
  return revoked = 1

/-- A credential joined with its family and its account. -/
def presentedCredential (store : Store) (digest : OpaqueTokenDigest) :
    Option (RefreshCredentialRow × SessionFamilyRow × AccountRow) := do
  let credential ← store.refreshCredentials.find? fun row =>
    row.tokenDigest = digest.asBytes
  let family ← store.sessionFamilies.find? fun row =>
    row.id = credential.familyId
  let account ← store.account credential.tenantId credential.accountId
  return (credential, family, account)

/-- Rotate one valid refresh credential, or revoke its family on reuse. -/
def rotateRefreshCredential
    (generated : Generated)
    (request : RotateRefreshCredential) : StoreTransaction RefreshRotation := do
  validateCorrelationId request.correlationId
  rejectIf
    (request.successorExpiresAt ≤ generated.now ∨
      request.successorAccessExpiresAt ≤ generated.now)
    StoreError.invalidSessionExpiry
  let store ← get
  match store.presentedCredential request.presentedDigest with
  | none => return .denied
  | some (credential, family, account) =>
      if credential.consumedAt.isSome then
        if family.revokedAt.isNone then
          let _ ← revokeSessionFamily generated
            { tenantId := credential.tenantId
              accountId := credential.accountId
              familyId := credential.familyId
              correlationId := request.correlationId }
            "refresh_token_reuse"
          return .reuseDetected
        else
          return .denied
      else if family.revokedAt.isSome ∨
          credential.expiresAt ≤ generated.now ∨
          account.state.permitsSession = false then
        return .denied
      else
        rotateLockedRefreshCredential generated request credential

/-- Revoke one tenant-local session family explicitly. -/
def revokeRefreshSessionFamily
    (generated : Generated)
    (request : RevokeRefreshSessionFamily) : StoreTransaction Bool := do
  validateCorrelationId request.correlationId
  revokeSessionFamily generated request "explicit_revocation"

/-! ## Reads -/

/-- Authenticate one access session against current state. -/
def accessSessionAuthorizationContext
    (store : Store)
    (now : OffsetDateTime)
    (digest : OpaqueTokenDigest) : Option AccessSessionAuthorization := do
  let access ← store.accessSessions.find? fun row =>
    row.tokenDigest = digest.asBytes ∧ row.revokedAt = none ∧
      now.timestamptz < row.expiresAt
  let family ← store.sessionFamilies.find? fun row => row.id = access.familyId
  guard family.revokedAt.isNone
  let account ← store.account access.tenantId access.accountId
  guard account.state.permitsSession
  return {
    context :=
      { tenantId := access.tenantId
        accountId := access.accountId
        state := account.state
        roles := store.rolesForAccount access.tenantId access.accountId
        stepUpVerified := false }
    familyId := access.familyId }

end Store

end Fabric
end Fcp
