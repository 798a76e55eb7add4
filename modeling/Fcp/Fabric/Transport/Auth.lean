import Fcp.Fabric.Transport.Session

/-!
# Login over HTTP

The password stage, the enrollment of the first factor, and the completion of a
login with a code or without one.
-/

namespace Fcp
namespace Fabric
namespace Transport

open Rust
open Reactive

/-- Body of a password-stage request. -/
structure PasswordLoginRequest where
  address : String
  password : String

/-- Body of a code-stage request. -/
structure TotpLoginRequest where
  code : String

/-- The response to a transaction that could not be consumed. -/
def consumptionFailure : FabricLoginFlowError → Response
  | .transaction (.store .invalidOrExpiredLoginTransaction) => loginFlowDenial
  | _ => StatusCode.serviceUnavailable.intoResponse

/-- The cookies of a login step, if all of them are valid header values. -/
def loginStepCookies
    (transactionToken bindingToken csrfToken : String) :
    Option (List HeaderValue) := do
  let transaction ← HeaderValue.fromStr
    (loginCookie loginTransactionCookie transactionToken)
  let binding ← HeaderValue.fromStr
    (loginCookie loginBindingCookie bindingToken)
  let csrf ← HeaderValue.fromStr (csrfCookie csrfToken)
  return [transaction, binding, csrf]

/-- Check a password and start the next step. -/
def startPasswordLogin
    (environment : Environment)
    (state : FabricHttpState)
    (request : PasswordLoginRequest) : Action Response := do
  let some loginFlow := state.loginFlow
    | return StatusCode.notFound.intoResponse
  let .ok address := UserAddress.parse environment.unicode request.address
    | return genericLoginDenial
  let correlationId ← newCorrelationId "http-login-"
  let now ← Program.call Operation.now
  match ← (loginFlow.startPasswordLogin environment address request.password
      correlationId now).run with
  | .error _ => return StatusCode.serviceUnavailable.intoResponse
  | .ok .denied => return genericLoginDenial
  | .ok (.pending challenge) =>
      let csrf ← issueBrowserCsrfToken environment.primitives
      match loginStepCookies challenge.transaction.token challenge.bindingToken
          csrf with
      | some cookies =>
          return {
            status := .accepted
            body := some (.object [("status", .string "accepted")])
            setCookie := cookies }
      | none => return StatusCode.internalServerError.intoResponse

/-- What every later login step does first: read the cookies, check the CSRF
proof, and consume the transaction of its stage. -/
def consumeLoginStep
    (environment : Environment)
    (state : FabricHttpState)
    (headers : HeaderMap)
    (label : String)
    (stage : LoginTransactionStage)
    (next : FabricLoginFlow → FabricMfaSessionServices → String → String →
      LoginTransactionRecord → Action Response) : Action Response := do
  let (some loginFlow, some services) := (state.loginFlow, state.mfaSession)
    | return StatusCode.notFound.intoResponse
  let some transactionToken := browserCookie headers loginTransactionCookie
    | return loginFlowDenial
  let some bindingToken := browserCookie headers loginBindingCookie
    | return loginFlowDenial
  if csrfProofIsValid headers loginCsrfCookie = false then
    return StatusCode.forbidden.intoResponse
  let correlationId ← newCorrelationId label
  match ← (loginFlow.consumeNextStep environment transactionToken bindingToken
      stage correlationId).run with
  | .error error => return consumptionFailure error
  | .ok transaction =>
      next loginFlow services bindingToken correlationId transaction

/-- Create a pending factor and the transaction that confirms it. -/
def beginTotpEnrollment
    (environment : Environment)
    (state : FabricHttpState)
    (headers : HeaderMap) : Action Response :=
  consumeLoginStep environment state headers "http-totp-enroll-begin-"
    .mfaEnrollment
    fun loginFlow services bindingToken correlationId transaction => do
      match ← (services.totpEnrollment.begin environment transaction.tenantId
          transaction.accountId correlationId).run with
      | .error _ => return StatusCode.serviceUnavailable.intoResponse
      | .ok enrollment =>
          let now ← Program.call Operation.now
          match ← (loginFlow.beginTotpEnrollmentConfirmation environment
              transaction.tenantId transaction.accountId enrollment.factorId
              bindingToken correlationId now).run with
          | .error _ => return StatusCode.serviceUnavailable.intoResponse
          | .ok confirmation =>
              let csrf ← issueBrowserCsrfToken environment.primitives
              match loginStepCookies confirmation.token bindingToken csrf with
              | none => return StatusCode.internalServerError.intoResponse
              | some cookies =>
                  return {
                    status := .created
                    body := some (.object
                      [("status", .string "provisioning"),
                        ("otpauth_uri", .string enrollment.provisioningUri)])
                    setCookie := cookies }

/-- Confirm the pending factor of a transaction and issue a session. -/
def confirmTotpEnrollment
    (environment : Environment)
    (state : FabricHttpState)
    (headers : HeaderMap)
    (request : TotpLoginRequest) : Action Response :=
  consumeLoginStep environment state headers "http-totp-enroll-confirm-"
    .mfaEnrollment
    fun _ services _ correlationId transaction => do
      let some factorId := transaction.factorId
        | return loginFlowDenial
      let now ← Program.call Operation.now
      match ← (TotpEnrollmentService.confirm transaction.tenantId
          transaction.accountId factorId request.code correlationId
          now).run with
      | .error _ => return StatusCode.serviceUnavailable.intoResponse
      | .ok .denied => return loginFlowDenial
      | .ok (.authenticated context) =>
          issueBrowserSession environment services.sessionIssuer context
            correlationId

/-- Complete a login with a code and issue a session. -/
def completeTotpLogin
    (environment : Environment)
    (state : FabricHttpState)
    (headers : HeaderMap)
    (request : TotpLoginRequest) : Action Response :=
  consumeLoginStep environment state headers "http-totp-" .mfaChallenge
    fun _ services _ correlationId transaction => do
      let now ← Program.call Operation.now
      match ← (TotpLoginService.complete transaction.tenantId
          transaction.accountId request.code now).run with
      | .error _ => return StatusCode.serviceUnavailable.intoResponse
      | .ok .denied => return loginFlowDenial
      | .ok (.authenticated context) =>
          issueBrowserSession environment services.sessionIssuer context
            correlationId

/-- Complete a login that needs no second factor and issue a session. -/
def completePasswordOnlyLogin
    (environment : Environment)
    (state : FabricHttpState)
    (headers : HeaderMap) : Action Response :=
  consumeLoginStep environment state headers "http-session-" .sessionIssuance
    fun _ services _ correlationId transaction => do
      match ← Program.call (Operation.store (.sessionAuthorizationContext
          transaction.tenantId transaction.accountId)) with
      | .error _ => return StatusCode.serviceUnavailable.intoResponse
      | .ok none => return loginFlowDenial
      | .ok (some context) =>
          issueBrowserSession environment services.sessionIssuer context
            correlationId

end Transport
end Fabric
end Fcp
