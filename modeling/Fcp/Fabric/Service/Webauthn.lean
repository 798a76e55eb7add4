import Fcp.Fabric.Service.Operations

/-!
# Passkeys in the service

Registration and authentication ceremonies with server-side state.
-/

namespace Fcp
namespace Fabric

open Rust
open Service

/-- Passkey ceremonies of one relying party. -/
structure WebauthnService where
  rpDomain : DomainName
  ceremonyDigestKey : TokenDigestKey
  bindingDigestKey : TokenDigestKey

/-- References to one server-side ceremony. -/
structure IssuedWebauthnCeremony where
  token : String
  binding : String
  expiresAt : OffsetDateTime

/-- Result of the start of a ceremony. -/
inductive WebauthnBeginOutcome (α : Type)
  | denied
  | challenge
      (ceremony : IssuedWebauthnCeremony)
      (challenge : α)
      (label : Option String)

/-- Result of the end of a ceremony. -/
inductive WebauthnFinishOutcome
  | denied
  | registered
  | authenticated (context : AuthorizationContext)

/-- Passkey service failure distinct from a denial. -/
inductive WebauthnServiceError
  | invalidPolicy
  | webauthn (error : WebauthnError)
  | serialization
  | store (error : StoreError)
  | sessionUnavailable
  | invalidCredentialId

/-- Server state of a registration with its label. -/
structure RegistrationCeremonyState where
  state : PasskeyRegistration
  label : Option String

/-! ## Serialisation -/

/-- A value or the failure of its serialisation. -/
def serialized (value : Option α) : Except WebauthnServiceError α :=
  okOr value .serialization

/-- A bounded text inside a JSON document. -/
def jsonString : Json → Except WebauthnServiceError String
  | .string value =>
      if value ≠ "" ∧ (asBytes value).length ≤ 2048 then
        .ok value
      else
        .error .invalidCredentialId
  | _ => .error .invalidCredentialId

/-- The canonical identifier of a passkey. -/
def canonicalCredentialId (environment : Environment) (passkey : Passkey) :
    Except WebauthnServiceError String := do
  let value ← serialized (environment.webauthn.credentialIdToValue
    (environment.webauthn.credId passkey))
  jsonString value

namespace RegistrationCeremonyState

/-- `serde_json::to_value` of a registration state. -/
def toValue (environment : Environment) (ceremony : RegistrationCeremonyState) :
    Except WebauthnServiceError Json := do
  let state ← serialized
    (environment.webauthn.registrationToValue ceremony.state)
  return .object
    [("state", state), ("label", (ceremony.label.map Json.string).getD .null)]

/-- The label of a serialised state, which may be absent. -/
def labelOf (members : List (String × Json)) : Option (Option String) :=
  match members.lookup "label" with
  | none => some none
  | some .null => some none
  | some (.string label) => some (some label)
  | some _ => none

/-- `serde_json::from_value` of a registration state. -/
def fromValue (environment : Environment) :
    Json → Except WebauthnServiceError RegistrationCeremonyState
  | .object members => do
      let value ← serialized (members.lookup "state")
      let state ← serialized (environment.webauthn.registrationFromValue value)
      let label ← serialized (labelOf members)
      return { state := state, label := label }
  | _ => .error .serialization

end RegistrationCeremonyState

namespace WebauthnService

/-! ## Ceremonies -/

/-- Persist a ceremony of five minutes under two new tokens. -/
def persistCeremony
    (service : WebauthnService)
    (environment : Environment)
    (tenant : TenantId)
    (account : AccountId)
    (kind : WebauthnCeremonyKind)
    (state : Json)
    (correlationId : String)
    (now : OffsetDateTime) :
    Service WebauthnServiceError IssuedWebauthnCeremony := do
  let token ← issueToken environment service.ceremonyDigestKey
  let binding ← issueToken environment service.bindingDigestKey
  let expiresAt ← deadline now (.minutes 5)
  ask .store (.createWebauthnCeremony
    { tenantId := tenant
      accountId := account
      kind := kind
      state := state
      tokenDigest := token.digest
      bindingDigest := binding.digest
      expiresAt := expiresAt
      correlationId := correlationId })
  return { token := token.raw, binding := binding.raw, expiresAt := expiresAt }

/-- Consume the ceremony of a handle and its binding. -/
def consumeCeremony
    (service : WebauthnService)
    (environment : Environment)
    (token binding correlationId : String) :
    Service WebauthnServiceError WebauthnCeremonyRecord :=
  ask .store (.consumeWebauthnCeremony
    { tokenDigest := deriveOpaqueTokenDigest environment.primitives
        service.ceremonyDigestKey token
      bindingDigest := deriveOpaqueTokenDigest environment.primitives
        service.bindingDigestKey binding
      correlationId := correlationId })

/-- The active passkeys of an account. -/
def deserializeActivePasskeys
    (environment : Environment)
    (tenant : TenantId)
    (account : AccountId) : Service WebauthnServiceError (List Passkey) := do
  let records ← ask .store (.activeWebauthnPasskeys tenant account)
  rethrow id (records.mapM fun record =>
    serialized (environment.webauthn.passkeyFromValue record.passkey))

/-! ## Registration -/

/-- Start the registration of a passkey for a verified account. -/
def beginRegistration
    (service : WebauthnService)
    (environment : Environment)
    (tenant : TenantId)
    (account : AccountId)
    (label : Option String)
    (correlationId : String)
    (now : OffsetDateTime) :
    Service WebauthnServiceError
      (WebauthnBeginOutcome CreationChallengeResponse) := do
  let some address ← ask .store (.userAddressForAccount tenant account)
    | return .denied
  if address.domain ≠ service.rpDomain then
    return .denied
  let existing ← deserializeActivePasskeys environment tenant account
  let exclusions := existing.map environment.webauthn.credId
  let (challenge, state) ← rethrow .webauthn
    (← perform (.startPasskeyRegistration account.asUuid address.toText
      address.toText exclusions))
  let state ← rethrow id (RegistrationCeremonyState.toValue environment
    { state := state, label := label })
  let ceremony ← service.persistCeremony environment tenant account
    .registration state correlationId now
  return .challenge ceremony challenge none

/-- Finish the registration of a passkey once. -/
def finishRegistration
    (service : WebauthnService)
    (environment : Environment)
    (expectedTenant : TenantId)
    (expectedAccount : AccountId)
    (token binding : String)
    (response : RegisterPublicKeyCredential)
    (correlationId : String) :
    Service WebauthnServiceError WebauthnFinishOutcome := do
  let ceremony ← service.consumeCeremony environment token binding correlationId
  if ceremony.kind ≠ .registration ∨ ceremony.tenantId ≠ expectedTenant ∨
      ceremony.accountId ≠ expectedAccount then
    return .denied
  let state ← rethrow id
    (RegistrationCeremonyState.fromValue environment ceremony.state)
  let passkey ← rethrow .webauthn
    (← perform (.finishPasskeyRegistration response state.state))
  let credentialId ← rethrow id (canonicalCredentialId environment passkey)
  let passkey ← rethrow id
    (serialized (environment.webauthn.passkeyToValue passkey))
  ask .store (.registerWebauthnPasskey
    { tenantId := ceremony.tenantId
      accountId := ceremony.accountId
      credentialId := credentialId
      passkey := passkey
      label := state.label
      correlationId := correlationId })
  return .registered

/-! ## Authentication -/

/-- Start the authentication of a local address with a passkey. -/
def beginAuthentication
    (service : WebauthnService)
    (environment : Environment)
    (address : UserAddress)
    (correlationId : String)
    (now : OffsetDateTime) :
    Service WebauthnServiceError
      (WebauthnBeginOutcome RequestChallengeResponse) := do
  if address.domain ≠ service.rpDomain then
    return .denied
  let some account ← ask .store (.loginAccount address)
    | return .denied
  if account.state.permitsSession = false then
    return .denied
  let passkeys ← deserializeActivePasskeys environment account.tenantId
    account.accountId
  if passkeys.isEmpty then
    return .denied
  let (challenge, state) ← rethrow .webauthn
    (← perform (.startPasskeyAuthentication passkeys))
  let state ← rethrow id
    (serialized (environment.webauthn.authenticationToValue state))
  let ceremony ← service.persistCeremony environment account.tenantId
    account.accountId .authentication state correlationId now
  return .challenge ceremony challenge none

/-- Finish the authentication with a passkey. -/
def finishAuthentication
    (service : WebauthnService)
    (environment : Environment)
    (token binding : String)
    (response : PublicKeyCredential)
    (correlationId : String) :
    Service WebauthnServiceError WebauthnFinishOutcome := do
  let ceremony ← service.consumeCeremony environment token binding correlationId
  if ceremony.kind ≠ .authentication then
    return .denied
  let state ← rethrow id
    (serialized (environment.webauthn.authenticationFromValue ceremony.state))
  let verification ← rethrow .webauthn
    (← perform (.finishPasskeyAuthentication response state))
  let value ← rethrow id (serialized
    (environment.webauthn.credentialIdToValue
      (environment.webauthn.verifiedCredId verification)))
  let credentialId ← rethrow id (jsonString value)
  let passkeys ← deserializeActivePasskeys environment ceremony.tenantId
    ceremony.accountId
  let some passkey := passkeys.find? fun passkey =>
      match canonicalCredentialId environment passkey with
      | .ok id => id = credentialId
      | .error _ => false
    | return .denied
  let passkey ← rethrow id (serialized
    (environment.webauthn.passkeyToValue
      (environment.webauthn.updateCredential passkey verification)))
  match ← perform (.store (.updateWebauthnPasskey
      { tenantId := ceremony.tenantId
        accountId := ceremony.accountId
        credentialId := credentialId
        passkey := passkey })) with
  | .error .targetNotFoundOrUnchanged => return .denied
  | .error error => throw (.store error)
  | .ok () =>
      let some context ← ask .store
          (.sessionAuthorizationContext ceremony.tenantId ceremony.accountId)
        | throw .sessionUnavailable
      return .authenticated context

end WebauthnService

end Fabric
end Fcp
