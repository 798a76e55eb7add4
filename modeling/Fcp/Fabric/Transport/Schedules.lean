import Fcp.Fabric.Base64
import Fcp.Fabric.Store.Factors
import Fcp.Fabric.Transport.Requests

/-!
# Schedules of requests

Runs computed from a list of turns, each with the values that its operation
draws.
-/

namespace Fcp
namespace Fabric
namespace Transport

open Rust
open Reactive

/-- What one operation draws or reads outside the database. -/
structure Draw where
  generated : Generated
  bytes : Vector UInt8 32
  nonce : Vector UInt8 12
  key : Except TotpKeyResolutionError TotpDataEncryptionKey
  activeKey : Except TotpKeyResolutionError ActiveTotpEncryptionKey
  registration :
    Except WebauthnError (CreationChallengeResponse × PasskeyRegistration)
  authentication :
    Except WebauthnError (RequestChallengeResponse × PasskeyAuthentication)

/-- The reply to an operation and the database after it. -/
def respond (environment : Environment) (store : Store) (draw : Draw) :
    (operation : Operation) → operation.Reply × Store
  | .store call =>
      (call.run environment.unicode draw.generated).commit store
  | .now => (draw.generated.now, store)
  | .newUuid => (draw.generated.uuid 0, store)
  | .randomBytes => (draw.bytes, store)
  | .randomNonce => (draw.nonce, store)
  | .verifyPassword password verifier maximumBytes =>
      (environment.verifyPassword password verifier maximumBytes, store)
  | .resolveKey _ => (draw.key, store)
  | .activeKey => (draw.activeKey, store)
  | .verifyTotp attempt => (environment.verifyTotp attempt, store)
  | .startPasskeyRegistration _ _ _ _ => (draw.registration, store)
  | .finishPasskeyRegistration response registration =>
      (environment.webauthn.finishPasskeyRegistration response registration,
        store)
  | .startPasskeyAuthentication _ => (draw.authentication, store)
  | .finishPasskeyAuthentication response authentication =>
      (environment.webauthn.finishPasskeyAuthentication response
        authentication, store)

/-- Every computed reply is one that the operation can have. -/
theorem step_respond
    (environment : Environment)
    (store : Store)
    (draw : Draw)
    (operation : Operation) :
    operation.Step environment store (respond environment store draw operation).1
      (respond environment store draw operation).2 := by
  cases operation with
  | store call => exact .stored (.answers draw.generated rfl)
  | verifyPassword | verifyTotp | finishPasskeyRegistration
  | finishPasskeyAuthentication => exact .elsewhere rfl
  | _ => exact .elsewhere trivial

/-- A program that runs by itself, with one reading of the clock. -/
def alone
    {α : Type}
    (environment : Environment)
    (draw : Draw)
    (program : Action α)
    (store : Store) : Program.Execution Store Operation Operation.Reply α :=
  program.execute
    (fun store operation => some (respond environment store draw operation))
    store

/-- The run of a schedule of programs. -/
def scheduled
    {ι α : Type}
    [DecidableEq ι]
    (environment : Environment)
    (programs : ι → Action α)
    (schedule : List (ι × Draw)) :
    List (PoolEvent ι Operation Operation.Reply) × (ι → Action α) × Store :=
  simulate (respond environment) schedule (programs, .empty)

/-- Schedules are runs of their programs. -/
theorem run_scheduled
    {ι α : Type}
    [DecidableEq ι]
    (environment : Environment)
    (programs : ι → Action α)
    (schedule : List (ι × Draw)) :
    Run (Operation.Step environment) programs .empty
      (scheduled environment programs schedule).1
      (scheduled environment programs schedule).2.1
      (scheduled environment programs schedule).2.2 :=
  trace_simulate (step_respond environment) schedule _

/-- The log of the first part of a schedule is the first part of its log. -/
theorem prefix_scheduled
    {ι α : Type}
    [DecidableEq ι]
    (environment : Environment)
    (programs : ι → Action α)
    (first second : List (ι × Draw)) :
    (scheduled environment programs first).1 <+:
      (scheduled environment programs (first ++ second)).1 := by
  rw [scheduled, scheduled, simulate_append]
  exact List.prefix_append _ _

/-- The run of a schedule. -/
def serve
    (environment : Environment)
    (state : FabricHttpState)
    (requests : Nat → Request)
    (schedule : List (Nat × Draw)) :
    Log × (Nat → Action Response) × Store :=
  scheduled environment
    (fun caller => (requests caller).handler environment state) schedule

/-- Schedules are runs of requests. -/
theorem serves_serve
    (environment : Environment)
    (state : FabricHttpState)
    (requests : Nat → Request)
    (schedule : List (Nat × Draw)) :
    Serves environment state requests
      (serve environment state requests schedule).1
      (serve environment state requests schedule).2.1
      (serve environment state requests schedule).2.2 :=
  run_scheduled environment _ schedule

/-! ## Sample values -/

/-- The bytes of a number, repeated. -/
def sampleBytes (width number : Nat) : Vector UInt8 width :=
  ⟨((List.range width).map fun index =>
    .ofNat (number / 256 ^ (index % 2))).toArray, by simp⟩

theorem sample_reference_bounded : ¬UnsafeText 256 "k" := by
  decide

/-- The draws of a turn, different from those of other turns. -/
def Draw.sample (turn : Nat) : Draw where
  generated :=
    { now := .sample 0, uuid := fun index => sampleBytes 16 (turn * 8 + index) }
  bytes := sampleBytes 32 turn
  nonce := sampleBytes 12 turn
  key := .ok ⟨sampleBytes 32 0⟩
  activeKey := .ok { reference := ⟨"k", sample_reference_bounded⟩, key := ⟨sampleBytes 32 0⟩ }
  registration := .ok (⟨.null⟩, ⟨.null⟩)
  authentication := .ok (⟨.null⟩, ⟨.null⟩)

/-- Callers take turns in the given order. -/
def turns (callers : List Nat) : List (Nat × Draw) :=
  callers.zipIdx.map fun (caller, turn) => (caller, .sample turn)

/-- The first bytes of a message in place of a digest of it. -/
def leadingBytes (message : List UInt8) : Vector UInt8 32 :=
  ⟨((message ++ List.replicate 32 0).take 32).toArray, by simp⟩

/-- Surroundings in which a password is its own verifier and the accepted time
step is the length of the code. -/
def sampleEnvironment : Environment where
  unicode := .sample
  primitives :=
    { base64Url := .rfc4648
      hmacSha256 := fun _ message => leadingBytes message
      sha256 := leadingBytes
      encrypt := fun _ _ message _ => some message
      decrypt := fun _ _ message _ => some message }
  parseUuid text := some (sampleBytes 16
    ((asBytes text).foldl (fun number byte => number * 256 + byte.toNat) 0))
  rfc3339 _ := some "now"
  verifyPassword password verifier _ := password = verifier.asStr
  verifyTotp attempt := .ok attempt.code.length
  webauthn :=
    { finishPasskeyRegistration := fun response _ => .ok ⟨response.value⟩
      finishPasskeyAuthentication := fun response _ => .ok ⟨response.value⟩
      credId := fun passkey => ⟨passkey.value⟩
      verifiedCredId := fun result => ⟨result.value⟩
      updateCredential := fun passkey _ => passkey
      credentialIdToValue := fun id => some id.value
      passkeyToValue := fun passkey => some passkey.value
      passkeyFromValue := fun value => some ⟨value⟩
      registrationToValue := fun registration => some registration.value
      registrationFromValue := fun value => some ⟨value⟩
      authenticationToValue := fun authentication => some authentication.value
      authenticationFromValue := fun value => some ⟨value⟩ }

/-- A deployment with every service. -/
def sampleState : FabricHttpState where
  loginFlow := some
    { passwordService :=
        { dummyVerifier := ⟨"dummy"⟩, maximumPasswordBytes := 1024 }
      transactionService :=
        { digestKey := ⟨sampleBytes 32 0⟩
          policy :=
            { lifetime := .minutes 5
              positive := by decide
              bounded := by decide } }
      bindingDigestKey := ⟨sampleBytes 32 0⟩ }
  mfaSession := some
    { totpEnrollment := { issuer := "fabric" }
      sessionIssuer :=
        { digestKey := ⟨sampleBytes 32 0⟩
          policy := sessionPolicy }
      sessionRotator :=
        { digestKey := ⟨sampleBytes 32 0⟩
          policy := sessionPolicy }
      accessAuthenticator := { digestKey := ⟨sampleBytes 32 0⟩ }
      stepUp :=
        { digestKey := ⟨sampleBytes 32 0⟩
          policy :=
            { grantLifetime := .minutes 5
              positive := by decide
              bounded := by decide } }
      webauthn :=
        { rpDomain := ⟨"a.b"⟩
          ceremonyDigestKey := ⟨sampleBytes 32 0⟩
          bindingDigestKey := ⟨sampleBytes 32 0⟩ } }
where
  sessionPolicy : SessionPolicy :=
    { refreshLifetime := .days 1
      accessLifetime := .minutes 15
      positive := by decide
      bounded := by decide
      access_eq := rfl }

/-- The bytes of the token that is drawn in a turn. -/
def sampleToken (turn : Nat) : List UInt8 :=
  (base64Url (sampleBytes 32 turn).toList).map fun digit => .ofNat digit.toNat

/-- Request headers with cookies and a CSRF proof of drawn tokens. -/
def sampleHeaders (cookies : List (String × Nat)) (csrf : Nat) : HeaderMap :=
  (cookies.map fun (name, turn) =>
    ("cookie", ⟨asBytes name ++ 61 :: sampleToken turn⟩)) ++
    [(csrfHeader, ⟨sampleToken csrf⟩)]

/-- An owner is bootstrapped, logs in, enrolls a factor, and then grants a role
after a step-up while logging in again. -/
def sampleRequests : Nat → Request
  | 0 => .operator (.bootstrapTenant
      { domain := ⟨"a.b"⟩, ownerLocalpart := ⟨"o"⟩, correlationId := "c" }) rfl
  | 1 => .operator (.storePasswordVerifier
      { tenantId := ⟨sampleBytes 16 0⟩
        accountId := ⟨sampleBytes 16 1⟩
        verifier := ⟨"secret"⟩
        pepperKeyVersion := none
        correlationId := "c" }) rfl
  | 2 => .startPasswordLogin { address := "o@a.b", password := "secret" }
  | 3 => .beginTotpEnrollment (sampleHeaders
      [(loginTransactionCookie, 7), (loginBindingCookie, 6),
        (loginCsrfCookie, 9)] 9)
  | 4 => .confirmTotpEnrollment
      (sampleHeaders
        [(loginTransactionCookie, 19), (loginBindingCookie, 6),
          (loginCsrfCookie, 21)] 21)
      { code := "1" }
  | 5 => .beginRoleChangeStepUp
      (sampleHeaders
        [(accessCookieName, 32), (sessionCsrfCookieName, 34)] 34)
      "\x01" { code := "22", role := .admin, grant := true }
  | 6 => .changeAccountRole
      (sampleHeaders
        [(accessCookieName, 32), (sessionCsrfCookieName, 34),
          (stepUpCookieName, 51)] 34)
      "\x01" { role := .admin, grant := true }
  | 7 => .startPasswordLogin { address := "o@a.b", password := "secret" }
  | _ => .completeTotpLogin
      (sampleHeaders
        [(loginTransactionCookie, 50), (loginBindingCookie, 48),
          (loginCsrfCookie, 54)] 54)
      { code := "333" }

/-- The turns of the sample requests; the last four overlap in pairs. -/
def sampleTurns : List Nat :=
  [0, 1] ++ .replicate 8 2 ++ .replicate 12 3 ++ .replicate 13 4 ++
    (List.replicate 10 [5, 7]).flatten ++ (List.replicate 4 [6, 8]).flatten ++
    .replicate 9 8

/-- The run of the sample requests. -/
def sampleRun : Log × (Nat → Action Response) × Store :=
  serve sampleEnvironment sampleState sampleRequests (turns sampleTurns)

theorem serves_sampleRun :
    Serves sampleEnvironment sampleState sampleRequests sampleRun.1
      sampleRun.2.1 sampleRun.2.2 :=
  serves_serve _ _ _ _

/-- What the sample requests have done. -/
theorem sampleRun_facts :
    sampleRun.2.2.sessionFamilies.rows.length = 2 ∧
    (sampleRun.1.filterMap storeEvent).filterMap
        (Store.successful (acceptedOn (sampleBytes 16 112))) =
      [.activated 1, .consumed 2, .consumed 3] ∧
    (sampleRun.1.filter commitsRoleChange).length = 1 ∧
    (sampleRun.2.2.accountRoles.any fun row => row.role = .admin) = true := by
  decide +kernel

end Transport
end Fabric
end Fcp
