import Fcp.Fabric.Transport.Session

/-!
# Passkeys over HTTP

Passkey login and the registration of passkeys by authenticated accounts.
-/

namespace Fcp
namespace Fabric
namespace Transport

open Rust
open Reactive

/-- Body of the start of a passkey login. -/
structure PasskeyLoginBeginRequest where
  address : String

/-- Body of the start of a passkey registration. -/
structure PasskeyRegistrationBeginRequest where
  label : Option String

/-- Body of the end of a ceremony. -/
structure PasskeyFinishRequest (α : Type) where
  response : α

/-- The response that carries a challenge and the references of its ceremony. -/
def passkeyChallengeResponse
    (environment : Environment)
    (ceremony : IssuedWebauthnCeremony)
    (challenge : Json) : Action Response := do
  let csrf ← issueBrowserCsrfToken environment.primitives
  match [webauthnCookie webauthnCeremonyCookie ceremony.token true,
      webauthnCookie webauthnBindingCookie ceremony.binding true,
      webauthnCookie webauthnCsrfCookie csrf false].mapM
        HeaderValue.fromStr with
  | none => return StatusCode.internalServerError.intoResponse
  | some cookies =>
      return { status := .ok, body := some challenge, setCookie := cookies }

/-- The response to a ceremony that did not finish. -/
def ceremonyFailure : WebauthnServiceError → Response
  | .webauthn _ => passkeyDenial
  | .store .invalidOrExpiredWebauthnCeremony => passkeyDenial
  | _ => StatusCode.serviceUnavailable.intoResponse

/-- Start a passkey login for an address. -/
def beginPasskeyLogin
    (environment : Environment)
    (state : FabricHttpState)
    (request : PasskeyLoginBeginRequest) : Action Response := do
  let some services := state.mfaSession
    | return StatusCode.notFound.intoResponse
  let .ok address := UserAddress.parse environment.unicode request.address
    | return passkeyDenial
  let correlationId ← newCorrelationId "http-passkey-login-begin-"
  let now ← Program.call Operation.now
  match ← (services.webauthn.beginAuthentication environment address
      correlationId now).run with
  | .ok .denied => return passkeyDenial
  | .ok (.challenge ceremony challenge _) =>
      passkeyChallengeResponse environment ceremony challenge.value
  | .error _ => return StatusCode.serviceUnavailable.intoResponse

/-- Finish a passkey login and issue a session. -/
def finishPasskeyLogin
    (environment : Environment)
    (state : FabricHttpState)
    (headers : HeaderMap)
    (request : PasskeyFinishRequest PublicKeyCredential) : Action Response := do
  let some services := state.mfaSession
    | return StatusCode.notFound.intoResponse
  if csrfProofIsValid headers webauthnCsrfCookie = false then
    return StatusCode.forbidden.intoResponse
  let (some token, some binding) :=
      (browserCookie headers webauthnCeremonyCookie,
        browserCookie headers webauthnBindingCookie)
    | return passkeyDenial
  let correlationId ← newCorrelationId "http-passkey-login-finish-"
  match ← (services.webauthn.finishAuthentication environment token binding
      request.response correlationId).run with
  | .ok (.authenticated context) =>
      return clearWebauthnCookies
        (← issueBrowserSession environment services.sessionIssuer context
          correlationId)
  | .ok .denied => return passkeyDenial
  | .ok .registered => return passkeyDenial
  | .error error => return ceremonyFailure error

/-- Start the registration of a passkey for the authenticated account. -/
def beginPasskeyRegistration
    (environment : Environment)
    (state : FabricHttpState)
    (headers : HeaderMap)
    (request : PasskeyRegistrationBeginRequest) : Action Response := do
  let some services := state.mfaSession
    | return StatusCode.notFound.intoResponse
  match ← authenticateAccess environment services headers with
  | .error response => return response
  | .ok authenticated =>
      let correlationId ← newCorrelationId "http-passkey-registration-begin-"
      let now ← Program.call Operation.now
      match ← (services.webauthn.beginRegistration environment
          authenticated.context.tenantId authenticated.context.accountId
          request.label correlationId now).run with
      | .ok .denied => return StatusCode.forbidden.intoResponse
      | .ok (.challenge ceremony challenge _) =>
          passkeyChallengeResponse environment ceremony challenge.value
      | .error _ => return StatusCode.serviceUnavailable.intoResponse

/-- Finish the registration of a passkey for the authenticated account. -/
def finishPasskeyRegistration
    (environment : Environment)
    (state : FabricHttpState)
    (headers : HeaderMap)
    (request : PasskeyFinishRequest RegisterPublicKeyCredential) :
    Action Response := do
  let some services := state.mfaSession
    | return StatusCode.notFound.intoResponse
  match ← authenticateAccess environment services headers with
  | .error response => return response
  | .ok authenticated =>
      if csrfProofIsValid headers webauthnCsrfCookie = false then
        return StatusCode.forbidden.intoResponse
      let (some token, some binding) :=
          (browserCookie headers webauthnCeremonyCookie,
            browserCookie headers webauthnBindingCookie)
        | return passkeyDenial
      let correlationId ← newCorrelationId "http-passkey-registration-finish-"
      match ← (services.webauthn.finishRegistration environment
          authenticated.context.tenantId authenticated.context.accountId token
          binding request.response correlationId).run with
      | .ok .registered =>
          return clearWebauthnCookies StatusCode.noContent.intoResponse
      | .ok .denied => return passkeyDenial
      | .ok (.authenticated _) => return passkeyDenial
      | .error error => return ceremonyFailure error

end Transport
end Fabric
end Fcp
