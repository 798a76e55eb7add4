import Fcp.Fabric.Transport.Session

/-!
# Administration over HTTP

Invitations, role changes and the step-up that precedes a role change.
-/

namespace Fcp
namespace Fabric
namespace Transport

open Rust
open Reactive

/-- Body of an invitation. -/
structure InviteAccountRequest where
  localpart : String
  initialRole : Role

/-- Body of a role change. -/
structure ChangeRoleRequest where
  role : Role
  grant : Bool

/-- Body of a step-up for a role change. -/
structure StepUpRequest where
  code : String
  role : Role
  grant : Bool

/-- Invite an account into the actor's tenant. -/
def inviteAccount
    (environment : Environment)
    (state : FabricHttpState)
    (headers : HeaderMap)
    (request : InviteAccountRequest) : Action Response := do
  let some services := state.mfaSession
    | return StatusCode.notFound.intoResponse
  match ← authenticateAdmin environment services headers .manageAccounts with
  | .error response => return response
  | .ok authenticated =>
      let .ok localpart := Localpart.parse environment.unicode request.localpart
        | return StatusCode.unprocessableEntity.intoResponse
      let correlationId ← newCorrelationId "http-admin-invite-"
      match ← Program.call (Operation.store (.inviteAccount
          { tenantId := authenticated.context.tenantId
            localpart := localpart
            initialRole := request.initialRole
            actor := administrationActor authenticated false
            correlationId := correlationId })) with
      | .ok accountId =>
          return {
            status := .created
            body := some (.object [("account_id", .uuid accountId.asUuid)])
            setCookie := [] }
      | .error (.administration _) => return StatusCode.forbidden.intoResponse
      | .error _ => return StatusCode.serviceUnavailable.intoResponse

/-- Issue a grant for one role change after a fresh code. -/
def beginRoleChangeStepUp
    (environment : Environment)
    (state : FabricHttpState)
    (headers : HeaderMap)
    (accountId : String)
    (request : StepUpRequest) : Action Response := do
  let some services := state.mfaSession
    | return StatusCode.notFound.intoResponse
  match ← authenticateAdmin environment services headers .manageRoles with
  | .error response => return response
  | .ok authenticated =>
      let some targetAccountId := environment.parseUuid accountId
        | return StatusCode.notFound.intoResponse
      let correlationId ← newCorrelationId "http-admin-role-step-up-"
      let now ← Program.call Operation.now
      match ← (services.stepUp.issueRoleChange environment
          { tenantId := authenticated.context.tenantId
            accountId := authenticated.context.accountId
            familyId := authenticated.familyId
            target :=
              { accountId := ⟨targetAccountId⟩
                role := request.role
                grant := request.grant }
            code := request.code
            correlationId := correlationId
            now := now }).run with
      | .ok (.granted grant) =>
          match HeaderValue.fromStr (stepUpCookie grant.token) with
          | none => return StatusCode.internalServerError.intoResponse
          | some cookie =>
              return StatusCode.noContent.intoResponse.append [cookie]
      | .ok .denied => return genericLoginDenial
      | .error _ => return StatusCode.serviceUnavailable.intoResponse

/-- Change a role in the actor's tenant with a grant for exactly that change. -/
def changeAccountRole
    (environment : Environment)
    (state : FabricHttpState)
    (headers : HeaderMap)
    (accountId : String)
    (request : ChangeRoleRequest) : Action Response := do
  let some services := state.mfaSession
    | return StatusCode.notFound.intoResponse
  match ← authenticateAdmin environment services headers .manageRoles with
  | .error response => return response
  | .ok authenticated =>
      let some accountId := environment.parseUuid accountId
        | return StatusCode.notFound.intoResponse
      let correlationId ← newCorrelationId "http-admin-role-"
      let command : ChangeRole :=
        { tenantId := authenticated.context.tenantId
          targetAccountId := ⟨accountId⟩
          role := request.role
          grant := request.grant
          actor := administrationActor authenticated true
          correlationId := correlationId }
      let .ok () := command.validate
        | return StatusCode.forbidden.intoResponse
      let some stepUpToken := browserCookie headers stepUpCookieName
        | return stepUpRequired
      match ← (services.stepUp.consumeRoleChange environment
          authenticated.context.tenantId authenticated.context.accountId
          authenticated.familyId
          { accountId := ⟨accountId⟩
            role := command.role
            grant := command.grant }
          stepUpToken correlationId).run with
      | .error _ => return StatusCode.serviceUnavailable.intoResponse
      | .ok false => return stepUpRequired
      | .ok true =>
          match ← Program.call (Operation.store (.changeRole command)) with
          | .ok () =>
              return clearStepUpCookie StatusCode.noContent.intoResponse
          | .error (.administration _) =>
              return clearStepUpCookie StatusCode.forbidden.intoResponse
          | .error _ =>
              return clearStepUpCookie
                StatusCode.serviceUnavailable.intoResponse

end Transport
end Fabric
end Fcp
