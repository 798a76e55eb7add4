import Fcp.Fabric.Service.Login
import Fcp.Fabric.Service.StepUp
import Fcp.Fabric.Service.Webauthn
import Fcp.Fabric.Transport.Browser

/-!
# Sessions over HTTP

The state of the HTTP service, the authentication of requests by their access
cookie, and the issuance and refresh of browser sessions.
-/

namespace Fcp
namespace Fabric
namespace Transport

open Rust
open Reactive

/-- The services behind the authenticated routes. -/
structure FabricMfaSessionServices where
  totpEnrollment : TotpEnrollmentService
  sessionIssuer : SessionIssuer
  sessionRotator : SessionRotator
  accessAuthenticator : AccessSessionAuthenticator
  stepUp : StepUpService
  webauthn : WebauthnService

/-- The services that a deployment installs. -/
structure FabricHttpState where
  loginFlow : Option FabricLoginFlow
  mfaSession : Option FabricMfaSessionServices

/-- A new identifier for the audit events of a request. -/
def newCorrelationId (label : String) : Action String := do
  return label ++ (← Program.call Operation.newUuid).toText

/-! ## Authentication of requests -/

/-- Authenticate a request by its access cookie. -/
def authenticateAccess
    (environment : Environment)
    (services : FabricMfaSessionServices)
    (headers : HeaderMap) :
    Action (Except Response AuthenticatedAccessSession) := do
  if csrfProofIsValid headers sessionCsrfCookieName = false then
    return .error StatusCode.forbidden.intoResponse
  let some accessToken := browserCookie headers accessCookieName
    | return .error sessionRefreshDenial
  match ← (services.accessAuthenticator.authenticate environment
      accessToken).run with
  | .ok (some authenticated) => return .ok authenticated
  | .ok none => return .error sessionRefreshDenial
  | .error _ => return .error StatusCode.serviceUnavailable.intoResponse

/-- Authenticate a request and require a permission. -/
def authenticateAdmin
    (environment : Environment)
    (services : FabricMfaSessionServices)
    (headers : HeaderMap)
    (permission : Permission) :
    Action (Except Response AuthenticatedAccessSession) := do
  match ← authenticateAccess environment services headers with
  | .error response => return .error response
  | .ok authenticated =>
      match authenticated.context.require permission with
      | .error _ => return .error StatusCode.forbidden.intoResponse
      | .ok () => return .ok authenticated

/-- The actor of a command from an authenticated session. -/
def administrationActor
    (authenticated : AuthenticatedAccessSession)
    (stepUpVerified : Bool) : AdministrationActor where
  tenantId := authenticated.context.tenantId
  accountId := authenticated.context.accountId
  roles := authenticated.context.roles
  stepUpVerified := stepUpVerified
  accountState := authenticated.context.state

/-! ## Browser sessions -/

/-- The response that carries the credentials of a session. -/
def browserSessionResponse
    (environment : Environment)
    (session : IssuedRefreshSession) : Action Response := do
  let some sessionExpiresAt := environment.rfc3339 session.expiresAt
    | return StatusCode.internalServerError.intoResponse
  let csrf ← issueBrowserCsrfToken environment.primitives
  match HeaderValue.fromStr (refreshCookie session.refreshToken),
      HeaderValue.fromStr (accessCookie session.accessToken),
      HeaderValue.fromStr (sessionCsrfCookie csrf) with
  | some refreshCookie, some accessCookie, some sessionCsrfCookie =>
      return {
        status := .ok
        body := some (.object
          [("status", .string "authenticated"),
            ("session_expires_at", .string sessionExpiresAt)])
        setCookie := [refreshCookie, accessCookie, sessionCsrfCookie] }
  | _, _, _ => return StatusCode.internalServerError.intoResponse

/-- Issue a session and deliver it to the browser. -/
def issueBrowserSession
    (environment : Environment)
    (sessionIssuer : SessionIssuer)
    (context : AuthorizationContext)
    (correlationId : String) : Action Response := do
  let now ← Program.call Operation.now
  match ← (sessionIssuer.issue environment context correlationId now).run with
  | .error _ => return StatusCode.serviceUnavailable.intoResponse
  | .ok session =>
      return clearLoginCookies (← browserSessionResponse environment session)

/-- Exchange the refresh cookie for a new session. -/
def refreshSession
    (environment : Environment)
    (state : FabricHttpState)
    (headers : HeaderMap) : Action Response := do
  let some services := state.mfaSession
    | return StatusCode.notFound.intoResponse
  let some refreshToken := browserCookie headers refreshCookieName
    | return sessionRefreshDenial
  if csrfProofIsValid headers sessionCsrfCookieName = false then
    return StatusCode.forbidden.intoResponse
  let correlationId ← newCorrelationId "http-refresh-"
  let now ← Program.call Operation.now
  match ← (services.sessionRotator.rotate environment refreshToken correlationId
      now).run with
  | .ok (.rotated session) => browserSessionResponse environment session
  | .ok .reuseDetected => return sessionRefreshDenial
  | .ok .denied => return sessionRefreshDenial
  | .error _ => return StatusCode.serviceUnavailable.intoResponse

end Transport
end Fabric
end Fcp
