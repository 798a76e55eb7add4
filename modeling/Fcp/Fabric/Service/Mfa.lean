import Fcp.Fabric.Service.Operations

/-!
# Authenticator codes in the service

Completion of a login with a code, and the enrollment of the first factor.
-/

namespace Fcp
namespace Fabric

open Rust
open Service

/-! ## Login completion -/

/-- Result of a submitted code. -/
inductive TotpLoginOutcome
  | denied
  | authenticated (context : AuthorizationContext)
  deriving DecidableEq

/-- TOTP completion failure distinct from a denial. -/
inductive TotpLoginError
  | store (error : StoreError)
  | keyResolution (error : TotpKeyResolutionError)
  | totp (error : TotpError)
  deriving DecidableEq

namespace TotpLoginService

/-- Verify a code and record its time step for a password-verified account. -/
def complete
    (tenant : TenantId)
    (account : AccountId)
    (code : String)
    (now : OffsetDateTime) : Service TotpLoginError TotpLoginOutcome := do
  let some factor ← ask .store (.activeTotpFactor tenant account)
    | return .denied
  let key ← rethrow .keyResolution
    (← perform (.resolveKey factor.encryptedSeed.keyReference))
  let binding : TotpBinding :=
    { tenantId := tenant, accountId := account, factorId := factor.factorId }
  match ← perform (.verifyTotp
      { key := key
        encrypted := factor.encryptedSeed
        binding := binding
        code := code
        now := now
        lastAcceptedStep := factor.lastAcceptedStep }) with
  | .error .verificationFailed => return .denied
  | .error .invalidCodeFormat => return .denied
  | .error error => throw (.totp error)
  | .ok accepted =>
      match ← perform (.store (.consumeTotpStep
          { tenantId := tenant
            accountId := account
            factorId := factor.factorId
            acceptedStep := accepted })) with
      | .error .targetNotFoundOrUnchanged => return .denied
      | .error error => throw (.store error)
      | .ok () =>
          let some context ← ask .store
              (.sessionAuthorizationContext tenant account)
            | return .denied
          return .authenticated context

end TotpLoginService

/-! ## Enrollment -/

/-- Creates and confirms factors under a configured issuer label. -/
structure TotpEnrollmentService where
  issuer : String

/-- Material for the confirmation of an enrollment. -/
structure PendingTotpEnrollment where
  factorId : Uuid
  provisioningUri : String

/-- Result of an enrollment confirmation. -/
inductive TotpEnrollmentOutcome
  | denied
  | authenticated (context : AuthorizationContext)
  deriving DecidableEq

/-- Enrollment failure distinct from a denial. -/
inductive TotpEnrollmentError
  | store (error : StoreError)
  | keyResolution (error : TotpKeyResolutionError)
  | totp (error : TotpError)
  deriving DecidableEq

namespace TotpEnrollmentService

/-- Generate and store one pending factor. -/
def begin
    (service : TotpEnrollmentService)
    (environment : Environment)
    (tenant : TenantId)
    (account : AccountId)
    (correlationId : String) :
    Service TotpEnrollmentError PendingTotpEnrollment := do
  let some address ← ask .store (.userAddressForAccount tenant account)
    | throw (.store .targetNotFoundOrUnchanged)
  let activeKey ← rethrow .keyResolution (← perform .activeKey)
  let factorId ← perform .newUuid
  let binding : TotpBinding :=
    { tenantId := tenant, accountId := account, factorId := factorId }
  let seed ← perform .randomBytes
  let nonce ← perform .randomNonce
  match beginTotpEnrollment environment.primitives activeKey.key
      activeKey.reference binding address service.issuer seed nonce with
  | .error error => throw (.totp error)
  | .ok enrollment =>
      ask .store (.createPendingTotpFactor
        { tenantId := tenant
          accountId := account
          factorId := factorId
          encrypted := enrollment.encryptedSeed
          correlationId := correlationId })
      return {
        factorId := factorId
        provisioningUri := enrollment.provisioning.uri }

/-- Verify a code of a pending factor and activate it. -/
def confirm
    (tenant : TenantId)
    (account : AccountId)
    (factorId : Uuid)
    (code correlationId : String)
    (now : OffsetDateTime) :
    Service TotpEnrollmentError TotpEnrollmentOutcome := do
  let some factor ← ask .store (.pendingTotpFactor tenant account factorId)
    | return .denied
  let key ← rethrow .keyResolution
    (← perform (.resolveKey factor.encryptedSeed.keyReference))
  let binding : TotpBinding :=
    { tenantId := tenant, accountId := account, factorId := factor.factorId }
  match ← perform (.verifyTotp
      { key := key
        encrypted := factor.encryptedSeed
        binding := binding
        code := code
        now := now
        lastAcceptedStep := factor.lastAcceptedStep }) with
  | .error .verificationFailed => return .denied
  | .error .invalidCodeFormat => return .denied
  | .error error => throw (.totp error)
  | .ok accepted =>
      match ← perform (.store (.activateTotpFactor
          { tenantId := tenant
            accountId := account
            factorId := factor.factorId
            acceptedStep := accepted
            correlationId := correlationId })) with
      | .error .targetNotFoundOrUnchanged => return .denied
      | .error error => throw (.store error)
      | .ok () =>
          let some context ← ask .store
              (.sessionAuthorizationContext tenant account)
            | return .denied
          return .authenticated context

end TotpEnrollmentService

end Fabric
end Fcp
