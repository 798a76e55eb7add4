import Fcp.Fabric.Service.Operations

/-!
# Password login

The password stage of a login and the one-use transactions that lead from it to
the next stage.
-/

namespace Fcp
namespace Fabric

open Rust
open Service

/-! ## Password verification -/

/-- Password login policy with the verifier for unknown accounts. -/
structure PasswordLoginService where
  dummyVerifier : PasswordVerifierString
  maximumPasswordBytes : Nat

/-- Internal next step after password verification. -/
inductive PasswordLoginOutcome
  | denied
  | mfaEnrollmentRequired (tenantId : TenantId) (accountId : AccountId)
  | totpChallenge (tenantId : TenantId) (accountId : AccountId)
  | authenticated (context : AuthorizationContext)
  deriving DecidableEq

/-- Password-login failure distinct from a denial. -/
inductive PasswordLoginError
  | store (error : StoreError)
  deriving DecidableEq

/-- Verify a password and decide the next step. -/
def PasswordLoginService.authenticate
    (service : PasswordLoginService)
    (address : UserAddress)
    (password : String) :
    Service PasswordLoginError PasswordLoginOutcome := do
  let some account ← ask .store (.loginAccount address)
    | do
      -- The same work as for a known account; its verdict is ignored.
      let _ ← perform (.verifyPassword password service.dummyVerifier
        service.maximumPasswordBytes)
      return .denied
  let verifier := account.verifier.getD service.dummyVerifier
  let verified ← perform (.verifyPassword password verifier
    service.maximumPasswordBytes)
  if verified = false then
    return .denied
  if account.state.permitsSession = false then
    if account.state = .mfaEnrollmentRequired then
      return .mfaEnrollmentRequired account.tenantId account.accountId
    else
      return .denied
  let roles ← ask .store (.rolesForAccount account.tenantId account.accountId)
  let privileged := roles.any fun role => role = .owner ∨ role = .admin
  let hasTotp ← ask .store
    (.hasActiveTotpFactor account.tenantId account.accountId)
  if privileged ∨ hasTotp then
    if hasTotp = false then
      return .denied
    return .totpChallenge account.tenantId account.accountId
  return .authenticated
    { tenantId := account.tenantId
      accountId := account.accountId
      state := account.state
      roles := roles
      stepUpVerified := false }

/-! ## Login transactions -/

/-- Lifetime of a login transaction, at most five minutes. -/
structure LoginTransactionPolicy where
  lifetime : Duration
  positive : Duration.zero < lifetime
  bounded : lifetime ≤ .minutes 5

/-- Issues and consumes login transactions. -/
structure LoginTransactionService where
  digestKey : TokenDigestKey
  policy : LoginTransactionPolicy

/-- Login transaction failure distinct from a denial. -/
inductive LoginTransactionServiceError
  | invalidPolicy
  | store (error : StoreError)
  deriving DecidableEq

/-- A raw transaction credential with its server-side record. -/
structure IssuedLoginTransaction where
  token : String
  record : LoginTransactionRecord
  context : Option AuthorizationContext

/-- Result of the password stage. -/
inductive LoginTransactionStart
  | denied
  | pending (transaction : IssuedLoginTransaction)

/-- The account, the stage and the context that follow a password outcome. -/
def stageFor : PasswordLoginOutcome →
    Option (TenantId × AccountId × LoginTransactionStage ×
      Option AuthorizationContext)
  | .denied => none
  | .mfaEnrollmentRequired tenant account =>
      some (tenant, account, .mfaEnrollment, none)
  | .totpChallenge tenant account =>
      some (tenant, account, .mfaChallenge, none)
  | .authenticated context =>
      some (context.tenantId, context.accountId, .sessionIssuance, some context)

namespace LoginTransactionService

/-- Persist the credential for the step that follows a password outcome. -/
def begin
    (service : LoginTransactionService)
    (environment : Environment)
    (outcome : PasswordLoginOutcome)
    (bindingDigest : Vector UInt8 32)
    (correlationId : String)
    (now : OffsetDateTime) :
    Service LoginTransactionServiceError LoginTransactionStart := do
  let some (tenant, account, stage, context) := stageFor outcome
    | return .denied
  let issued ← issueToken environment service.digestKey
  let expiresAt ← deadline now service.policy.lifetime
  let record ← ask .store (.createLoginTransaction
    { tenantId := tenant
      accountId := account
      tokenDigest := issued.digest
      stage := stage
      bindingDigest := bindingDigest
      factorId := none
      expiresAt := expiresAt
      correlationId := correlationId })
  return .pending { token := issued.raw, record := record, context := context }

/-- Persist the credential that confirms one pending factor. -/
def beginTotpEnrollmentConfirmation
    (service : LoginTransactionService)
    (environment : Environment)
    (tenant : TenantId)
    (account : AccountId)
    (factor : Uuid)
    (bindingDigest : Vector UInt8 32)
    (correlationId : String)
    (now : OffsetDateTime) :
    Service LoginTransactionServiceError IssuedLoginTransaction := do
  let issued ← issueToken environment service.digestKey
  let expiresAt ← deadline now service.policy.lifetime
  let record ← ask .store (.createLoginTransaction
    { tenantId := tenant
      accountId := account
      tokenDigest := issued.digest
      stage := .mfaEnrollment
      bindingDigest := bindingDigest
      factorId := some factor
      expiresAt := expiresAt
      correlationId := correlationId })
  return { token := issued.raw, record := record, context := none }

/-- Consume a transaction for its only permitted next step. -/
def consume
    (service : LoginTransactionService)
    (environment : Environment)
    (token : String)
    (expectedStage : LoginTransactionStage)
    (bindingDigest : Vector UInt8 32)
    (correlationId : String) :
    Service LoginTransactionServiceError LoginTransactionRecord :=
  ask .store (.consumeLoginTransaction
    { tokenDigest :=
        deriveOpaqueTokenDigest environment.primitives service.digestKey token
      expectedStage := expectedStage
      bindingDigest := bindingDigest
      correlationId := correlationId })

end LoginTransactionService

/-! ## The login flow -/

/-- The password stage with its transactions. -/
structure FabricLoginFlow where
  passwordService : PasswordLoginService
  transactionService : LoginTransactionService
  bindingDigestKey : TokenDigestKey

/-- A transaction with the secret bound to the same client. -/
structure FabricLoginChallenge where
  transaction : IssuedLoginTransaction
  bindingToken : String

/-- Result of the password-login endpoint. -/
inductive FabricLoginStart
  | denied
  | pending (challenge : FabricLoginChallenge)

/-- Login flow failure distinct from a denial. -/
inductive FabricLoginFlowError
  | password (error : PasswordLoginError)
  | transaction (error : LoginTransactionServiceError)
  deriving DecidableEq

namespace FabricLoginFlow

/-- Authenticate a password and start the only permitted next step. -/
def startPasswordLogin
    (flow : FabricLoginFlow)
    (environment : Environment)
    (address : UserAddress)
    (password correlationId : String)
    (now : OffsetDateTime) : Service FabricLoginFlowError FabricLoginStart := do
  let outcome ← (flow.passwordService.authenticate address password).adapt
    .password
  if outcome = .denied then
    return .denied
  let binding ← issueToken environment flow.bindingDigestKey
  let bindingDigest := deriveOpaqueTokenDigest environment.primitives
    flow.bindingDigestKey binding.raw
  match ← (flow.transactionService.begin environment outcome
      bindingDigest.asBytes correlationId now).adapt .transaction with
  | .denied => return .denied
  | .pending transaction =>
      return .pending { transaction := transaction, bindingToken := binding.raw }

/-- Start the confirmation of one pending factor. -/
def beginTotpEnrollmentConfirmation
    (flow : FabricLoginFlow)
    (environment : Environment)
    (tenant : TenantId)
    (account : AccountId)
    (factor : Uuid)
    (bindingToken correlationId : String)
    (now : OffsetDateTime) :
    Service FabricLoginFlowError IssuedLoginTransaction :=
  let bindingDigest := deriveOpaqueTokenDigest environment.primitives
    flow.bindingDigestKey bindingToken
  (flow.transactionService.beginTotpEnrollmentConfirmation environment tenant
    account factor bindingDigest.asBytes correlationId now).adapt .transaction

/-- Consume a transaction after both secrets were presented. -/
def consumeNextStep
    (flow : FabricLoginFlow)
    (environment : Environment)
    (transactionToken bindingToken : String)
    (expectedStage : LoginTransactionStage)
    (correlationId : String) :
    Service FabricLoginFlowError LoginTransactionRecord :=
  let bindingDigest := deriveOpaqueTokenDigest environment.primitives
    flow.bindingDigestKey bindingToken
  (flow.transactionService.consume environment transactionToken expectedStage
    bindingDigest.asBytes correlationId).adapt .transaction

end FabricLoginFlow

end Fabric
end Fcp
