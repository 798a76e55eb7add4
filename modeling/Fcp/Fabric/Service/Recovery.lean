import Fcp.Fabric.Service.Operations

/-!
# Recovery codes

Issuance and one-use verification of recovery codes.  The store receives only
texts of keyed digests.
-/

namespace Fcp
namespace Fabric

open Rust
open Service

/-- Recovery-code service failure distinct from the denial of a code. -/
inductive RecoveryCodeError
  | invalidPolicy
  | store (error : StoreError)
  deriving DecidableEq

/-- Bounded recovery-code inventory policy. -/
structure RecoveryCodePolicy where
  codeCount : Nat
  least : 8 ≤ codeCount
  most : codeCount ≤ 16

/-- Issues and consumes tenant-local recovery credentials. -/
structure RecoveryCodeService where
  digestKey : TokenDigestKey
  policy : RecoveryCodePolicy

/-- Sensitive replacement inventory returned for one display only. -/
structure IssuedRecoveryCodes where
  codes : List String
  codeCount : Nat
  deriving DecidableEq

namespace RecoveryCodeService

/-- The text of a digest that the store receives. -/
def verifier (primitives : Primitives) (digest : OpaqueTokenDigest) : String :=
  primitives.base64Url.encode digest.asBytes.toList

/-- Draw codes together with their verifiers. -/
def issueCodes (environment : Environment) (service : RecoveryCodeService) :
    Nat → Service RecoveryCodeError (List (String × String))
  | 0 => return []
  | count + 1 => do
      let issued ← issueToken environment service.digestKey
      let rest ← issueCodes environment service count
      return (issued.raw, verifier environment.primitives issued.digest) :: rest

/-- Replace the account's recovery inventory and return raw codes once. -/
def replace
    (environment : Environment)
    (service : RecoveryCodeService)
    (tenantId : TenantId)
    (accountId : AccountId)
    (correlationId : String) :
    Service RecoveryCodeError IssuedRecoveryCodes := do
  let issued ← issueCodes environment service service.policy.codeCount
  let set ← ask .store (.replaceRecoveryCodeSet
    { tenantId := tenantId
      accountId := accountId
      verifiers := issued.map Prod.snd
      correlationId := correlationId })
  return { codes := issued.map Prod.fst, codeCount := set.codeCount }

/-- Consume one recovery code in its tenant and account scope. -/
def consume
    (environment : Environment)
    (service : RecoveryCodeService)
    (tenantId : TenantId)
    (accountId : AccountId)
    (rawCode correlationId : String) : Service RecoveryCodeError Bool := do
  let digest :=
    deriveOpaqueTokenDigest environment.primitives service.digestKey rawCode
  ask .store (.consumeRecoveryCode
    { tenantId := tenantId
      accountId := accountId
      verifier := verifier environment.primitives digest
      correlationId := correlationId })

end RecoveryCodeService

end Fabric
end Fcp
