import Fcp.Fabric.Service.Operations

/-!
# Sessions in the service

Issuance and rotation of refresh credentials, and the authentication of access
credentials.
-/

namespace Fcp
namespace Fabric

open Rust
open Service

/-- Lifetimes of refresh and access credentials. -/
structure SessionPolicy where
  refreshLifetime : Duration
  accessLifetime : Duration
  positive : Duration.zero < refreshLifetime
  bounded : refreshLifetime ≤ .days 30
  access_eq : accessLifetime = .minutes 15

/-- Raw credentials of a session with their metadata. -/
structure IssuedRefreshSession where
  refreshToken : String
  accessToken : String
  familyId : Uuid
  credentialId : Uuid
  expiresAt : OffsetDateTime
  accessExpiresAt : OffsetDateTime

/-! ## Issuance -/

/-- Session issuance failure. -/
inductive SessionIssueError
  | invalidPolicy
  | store (error : StoreError)
  deriving DecidableEq

/-- Issues sessions after authentication. -/
structure SessionIssuer where
  digestKey : TokenDigestKey
  policy : SessionPolicy

/-- Issue a session in a new family. -/
def SessionIssuer.issue
    (issuer : SessionIssuer)
    (environment : Environment)
    (context : AuthorizationContext)
    (correlationId : String)
    (now : OffsetDateTime) : Service SessionIssueError IssuedRefreshSession := do
  let issued ← issueToken environment issuer.digestKey
  let access ← issueToken environment issuer.digestKey
  let expiresAt ← deadline now issuer.policy.refreshLifetime
  let accessExpiresAt ← deadline now issuer.policy.accessLifetime
  let record ← ask .store (.createRefreshSession
    { tenantId := context.tenantId
      accountId := context.accountId
      refreshDigest := issued.digest
      accessDigest := access.digest
      refreshExpiresAt := expiresAt
      accessExpiresAt := accessExpiresAt
      correlationId := correlationId })
  return {
    refreshToken := issued.raw
    accessToken := access.raw
    familyId := record.familyId
    credentialId := record.credentialId
    expiresAt := record.expiresAt
    accessExpiresAt := record.accessExpiresAt }

/-! ## Rotation -/

/-- Result of one refresh-credential presentation. -/
inductive SessionRotationOutcome
  | rotated (session : IssuedRefreshSession)
  | reuseDetected
  | denied

/-- Rotation failure distinct from an unavailable credential. -/
inductive SessionRotationError
  | store (error : StoreError)
  deriving DecidableEq

/-- Rotates refresh credentials. -/
structure SessionRotator where
  digestKey : TokenDigestKey
  policy : SessionPolicy

/-- Exchange a refresh credential for its successor. -/
def SessionRotator.rotate
    (rotator : SessionRotator)
    (environment : Environment)
    (presentedToken correlationId : String)
    (now : OffsetDateTime) :
    Service SessionRotationError SessionRotationOutcome := do
  let presentedDigest := deriveOpaqueTokenDigest environment.primitives
    rotator.digestKey presentedToken
  let successor ← issueToken environment rotator.digestKey
  let successorAccess ← issueToken environment rotator.digestKey
  let expiresAt ← deadline now rotator.policy.refreshLifetime
  let accessExpiresAt ← deadline now rotator.policy.accessLifetime
  match ← ask .store (.rotateRefreshCredential
      { presentedDigest := presentedDigest
        successorDigest := successor.digest
        successorAccessDigest := successorAccess.digest
        successorExpiresAt := expiresAt
        successorAccessExpiresAt := accessExpiresAt
        correlationId := correlationId }) with
  | .rotated record =>
      return .rotated
        { refreshToken := successor.raw
          accessToken := successorAccess.raw
          familyId := record.familyId
          credentialId := record.credentialId
          expiresAt := record.expiresAt
          accessExpiresAt := record.accessExpiresAt }
  | .reuseDetected => return .reuseDetected
  | .denied => return .denied

/-! ## Access -/

/-- Current authorization of a verified access credential. -/
structure AuthenticatedAccessSession where
  context : AuthorizationContext
  familyId : Uuid

/-- Access authentication failure. -/
inductive AccessSessionAuthenticationError
  | store (error : StoreError)
  deriving DecidableEq

/-- Authenticates access credentials. -/
structure AccessSessionAuthenticator where
  digestKey : TokenDigestKey

/-- Resolve a raw access credential into current authorization. -/
def AccessSessionAuthenticator.authenticate
    (authenticator : AccessSessionAuthenticator)
    (environment : Environment)
    (rawAccessToken : String) :
    Service AccessSessionAuthenticationError
      (Option AuthenticatedAccessSession) := do
  let digest := deriveOpaqueTokenDigest environment.primitives
    authenticator.digestKey rawAccessToken
  let authorization ← ask .store (.accessSessionAuthorizationContext digest)
  return authorization.map fun authorization =>
    { context := authorization.context, familyId := authorization.familyId }

end Fabric
end Fcp
