import Fcp.Fabric.Service.Mfa

/-!
# Step-up grants in the service

Grants for one exact role change, issued after a fresh authenticator code.
-/

namespace Fcp
namespace Fabric

open Rust
open Service

/-- Lifetime of a grant, at most five minutes. -/
structure StepUpPolicy where
  grantLifetime : Duration
  positive : Duration.zero < grantLifetime
  bounded : grantLifetime ≤ .minutes 5

/-- Issues and consumes role-change grants. -/
structure StepUpService where
  digestKey : TokenDigestKey
  policy : StepUpPolicy

/-- The role change that a grant is bound to. -/
structure RoleChangeTarget where
  accountId : AccountId
  role : Role
  grant : Bool
  deriving DecidableEq

/-- Arguments of a grant's issuance. -/
structure IssueRoleChangeStepUp where
  tenantId : TenantId
  accountId : AccountId
  familyId : Uuid
  target : RoleChangeTarget
  code : String
  correlationId : String
  now : OffsetDateTime

/-- A raw grant credential. -/
structure IssuedStepUpGrant where
  token : String
  expiresAt : OffsetDateTime

/-- Result of a fresh proof. -/
inductive StepUpIssueOutcome
  | denied
  | granted (grant : IssuedStepUpGrant)

/-- Step-up failure distinct from a denial. -/
inductive StepUpError
  | invalidPolicy
  | totp (error : TotpLoginError)
  | store (error : StoreError)
  deriving DecidableEq

/-- The bytes that the digest of a role change is taken of. -/
def RoleChangeTarget.preimage (target : RoleChangeTarget) : List UInt8 :=
  asBytes "fcp-fabric-step-up-target-v1\x00change-account-role\x00" ++
    target.accountId.asUuid.toList ++ [if target.grant then 1 else 0] ++
    asBytes target.role.text

/-- The digest of a role change. -/
def roleChangeTargetDigest
    (primitives : Primitives)
    (target : RoleChangeTarget) : Vector UInt8 32 :=
  primitives.sha256 target.preimage

/-- Without length fields the bytes still determine the role change. -/
theorem RoleChangeTarget.preimage_injective :
    Function.Injective RoleChangeTarget.preimage := by
  rintro ⟨⟨first⟩, firstRole, firstGrant⟩ ⟨⟨second⟩, secondRole, secondGrant⟩ same
  simp only [preimage, List.append_assoc, List.append_cancel_left_eq] at same
  obtain ⟨uuid, rest⟩ := List.append_inj same (by simp)
  rw [List.singleton_append, List.singleton_append, List.cons.injEq] at rest
  obtain ⟨grant, role⟩ := rest
  have grant_eq : firstGrant = secondGrant := by
    cases firstGrant <;> cases secondGrant <;> first | rfl | simp at grant
  rw [Vector.toList_inj.mp uuid, grant_eq,
    Role.text_injective (asBytes_injective role)]

namespace StepUpService

/-- Verify a fresh code and issue a grant for one role change. -/
def issueRoleChange
    (service : StepUpService)
    (environment : Environment)
    (request : IssueRoleChangeStepUp) :
    Service StepUpError StepUpIssueOutcome := do
  match ← (TotpLoginService.complete request.tenantId request.accountId
      request.code request.now).adapt .totp with
  | .denied => return .denied
  | .authenticated context =>
      if context.tenantId ≠ request.tenantId ∨
          context.accountId ≠ request.accountId then
        return .denied
      let issued ← issueToken environment service.digestKey
      let targetDigest :=
        roleChangeTargetDigest environment.primitives request.target
      let expiresAt ← deadline request.now service.policy.grantLifetime
      let _ ← ask .store (.createStepUpGrant
        { tenantId := request.tenantId
          accountId := request.accountId
          familyId := request.familyId
          action := .changeAccountRole
          targetDigest := targetDigest
          tokenDigest := issued.digest
          expiresAt := expiresAt
          correlationId := request.correlationId })
      return .granted { token := issued.raw, expiresAt := expiresAt }

/-- Consume a grant for exactly the actor, the family and the role change. -/
def consumeRoleChange
    (service : StepUpService)
    (environment : Environment)
    (tenant : TenantId)
    (account : AccountId)
    (family : Uuid)
    (target : RoleChangeTarget)
    (rawToken correlationId : String) : Service StepUpError Bool :=
  ask .store (.consumeStepUpGrant
    { tenantId := tenant
      accountId := account
      familyId := family
      action := .changeAccountRole
      targetDigest := roleChangeTargetDigest environment.primitives target
      tokenDigest :=
        deriveOpaqueTokenDigest environment.primitives service.digestKey rawToken
      correlationId := correlationId })

end StepUpService

end Fabric
end Fcp
