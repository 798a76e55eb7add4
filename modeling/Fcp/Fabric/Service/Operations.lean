import Fcp.Reactive.Program
import Fcp.Fabric.Totp
import Fcp.Fabric.Store.Calls

/-!
# What the service asks of its surroundings

A request handler is a program of operations: calls of the store, readings of
the clock, random draws, and the verifications of external libraries.  Other
requests run between any two of them.
-/

namespace Fcp
namespace Fabric

open Rust
open Reactive

/-- Key provider failure. -/
inductive TotpKeyResolutionError
  | unavailable
  | providerFailure
  deriving DecidableEq

/-- The key selected for a new factor. -/
structure ActiveTotpEncryptionKey where
  reference : TotpKeyReference
  key : TotpDataEncryptionKey

/-! ## The passkey library -/

/-- A registered credential of the library. -/
structure Passkey where
  value : Json

/-- The identifier of a credential. -/
structure CredentialId where
  value : Json

/-- Server state between the start and the end of a registration. -/
structure PasskeyRegistration where
  value : Json

/-- Server state between the start and the end of an authentication. -/
structure PasskeyAuthentication where
  value : Json

/-- What a browser answers to a registration challenge. -/
structure RegisterPublicKeyCredential where
  value : Json

/-- What a browser answers to an authentication challenge. -/
structure PublicKeyCredential where
  value : Json

/-- A registration challenge for the browser. -/
structure CreationChallengeResponse where
  value : Json

/-- An authentication challenge for the browser. -/
structure RequestChallengeResponse where
  value : Json

/-- A verified authentication. -/
structure AuthenticationResult where
  value : Json

/-- A failure inside the library. -/
structure WebauthnError where
  text : String

/-- The functions of the library that neither draw nor read anything. -/
structure Webauthn where
  finishPasskeyRegistration : RegisterPublicKeyCredential →
    PasskeyRegistration → Except WebauthnError Passkey
  finishPasskeyAuthentication : PublicKeyCredential →
    PasskeyAuthentication → Except WebauthnError AuthenticationResult
  credId : Passkey → CredentialId
  verifiedCredId : AuthenticationResult → CredentialId
  updateCredential : Passkey → AuthenticationResult → Passkey
  /-- Serialisation to JSON and back, `none` for its errors. -/
  credentialIdToValue : CredentialId → Option Json
  passkeyToValue : Passkey → Option Json
  passkeyFromValue : Json → Option Passkey
  registrationToValue : PasskeyRegistration → Option Json
  registrationFromValue : Json → Option PasskeyRegistration
  authenticationToValue : PasskeyAuthentication → Option Json
  authenticationFromValue : Json → Option PasskeyAuthentication

/-! ## Operations -/

/-- The functions of libraries that the service relies on. -/
structure Environment where
  unicode : Unicode
  primitives : Primitives
  /-- `Uuid::parse_str`. -/
  parseUuid : String → Option Uuid
  /-- A point in time in the format of RFC 3339. -/
  rfc3339 : OffsetDateTime → Option String
  /-- Whether a password within a length limit matches a verifier. -/
  verifyPassword : String → PasswordVerifierString → Nat → Bool
  verifyTotp : TotpAttempt → Except TotpError Int
  webauthn : Webauthn

/-- One step of a request handler that other requests may precede. -/
inductive Operation
  | store (call : Call)
  | now
  | newUuid
  | randomBytes
  | randomNonce
  | verifyPassword
      (password : String)
      (verifier : PasswordVerifierString)
      (maximumBytes : Nat)
  | resolveKey (reference : TotpKeyReference)
  | activeKey
  | verifyTotp (attempt : TotpAttempt)
  | startPasskeyRegistration
      (user : Uuid)
      (name displayName : String)
      (exclusions : List CredentialId)
  | finishPasskeyRegistration
      (response : RegisterPublicKeyCredential)
      (state : PasskeyRegistration)
  | startPasskeyAuthentication (passkeys : List Passkey)
  | finishPasskeyAuthentication
      (response : PublicKeyCredential)
      (state : PasskeyAuthentication)

namespace Operation

/-- What an operation answers. -/
abbrev Reply : Operation → Type
  | store call => call.Reply
  | now => OffsetDateTime
  | newUuid => Uuid
  | randomBytes => Vector UInt8 32
  | randomNonce => Vector UInt8 12
  | verifyPassword _ _ _ => Bool
  | resolveKey _ => Except TotpKeyResolutionError TotpDataEncryptionKey
  | activeKey => Except TotpKeyResolutionError ActiveTotpEncryptionKey
  | verifyTotp _ => Except TotpError Int
  | startPasskeyRegistration _ _ _ _ =>
      Except WebauthnError (CreationChallengeResponse × PasskeyRegistration)
  | finishPasskeyRegistration _ _ => Except WebauthnError Passkey
  | startPasskeyAuthentication _ =>
      Except WebauthnError (RequestChallengeResponse × PasskeyAuthentication)
  | finishPasskeyAuthentication _ _ =>
      Except WebauthnError AuthenticationResult

/-- The answers of the surroundings other than the store.  Verifications are
functions of their arguments; the clock, random draws and the key provider may
answer anything. -/
def Answers (environment : Environment) :
    (operation : Operation) → operation.Reply → Prop
  | store _, _ => False
  | verifyPassword password verifier maximumBytes, reply =>
      reply = environment.verifyPassword password verifier maximumBytes
  | verifyTotp attempt, reply => reply = environment.verifyTotp attempt
  | finishPasskeyRegistration response state, reply =>
      reply = environment.webauthn.finishPasskeyRegistration response state
  | finishPasskeyAuthentication response state, reply =>
      reply = environment.webauthn.finishPasskeyAuthentication response state
  | _, _ => True

/-- One operation on the shared database. -/
inductive Step (environment : Environment) (state : Store) :
    (operation : Operation) → operation.Reply → Store → Prop
  | stored
      {call : Call}
      {reply : call.Reply}
      {later : Store}
      (taken : Store.Step environment.unicode state call reply later) :
      Step environment state (.store call) reply later
  | elsewhere
      {operation : Operation}
      {reply : operation.Reply}
      (answers : operation.Answers environment reply) :
      Step environment state operation reply state

end Operation

/-! ## Handlers and services -/

/-- A program of operations. -/
abbrev Action (α : Type) : Type :=
  Program Operation Operation.Reply α

/-- A program of operations that may fail. -/
abbrev Service (ε α : Type) : Type :=
  ExceptT ε (Program Operation Operation.Reply) α

namespace Service

/-- Perform an operation inside a fallible program. -/
def perform (operation : Operation) : Service ε operation.Reply :=
  ExceptT.lift (Program.call operation)

/-- Call the store and pass its errors on. -/
def ask (wrap : StoreError → ε) (call : Call) : Service ε call.Result :=
  ExceptT.mk (Except.mapError wrap <$> Program.call (Operation.store call))

/-- Pass an error on. -/
def rethrow (wrap : δ → ε) (result : Except δ α) : Service ε α :=
  ExceptT.mk (pure (result.mapError wrap))

/-- The end of a lifetime; the addition panics when it is out of range. -/
def deadline (now : OffsetDateTime) (lifetime : Duration) :
    Service ε OffsetDateTime :=
  match now.checkedAdd lifetime with
  | some time => pure time
  | none => ExceptT.lift .crash

/-- Draw an opaque token. -/
def issueToken (environment : Environment) (key : TokenDigestKey) :
    Service ε IssuedOpaqueToken := do
  return issueOpaqueToken environment.primitives key (← perform .randomBytes)

/-! ## Rules -/

section Rules

open Program (Yields yields_bind yields_lift yields_pure)

variable {answers : (operation : Operation) → operation.Reply → Prop}
variable {guarantee : List (Event Operation Operation.Reply) → Operation → Prop}
variable {ensures : List (Event Operation Operation.Reply) → α → Prop}
variable {history : List (Event Operation Operation.Reply)}

theorem yields_ask
    {wrap : StoreError → ε}
    {call : Call}
    {ensures : List (Event Operation Operation.Reply) → call.Result → Prop}
    (guaranteed : guarantee history (.store call))
    (answered : ∀ result, answers (.store call) (.ok result) →
      ensures (history ++ [⟨.store call, .ok result⟩]) result) :
    Yields answers guarantee ensures (ask wrap call) history := by
  refine ⟨guaranteed, fun reply admitted value mapped => ?_⟩
  cases reply with
  | error error => cases mapped
  | ok _ =>
      cases mapped
      exact answered value admitted

theorem yields_ask_bind
    {wrap : StoreError → ε}
    {call : Call}
    {next : call.Result → Service ε α}
    (guaranteed : guarantee history (.store call))
    (answered : ∀ result, answers (.store call) (.ok result) →
      Yields answers guarantee ensures (next result)
        (history ++ [⟨.store call, .ok result⟩])) :
    Yields answers guarantee ensures (ask wrap call >>= next) history :=
  yields_bind.mpr (yields_ask guaranteed answered)

theorem yields_perform_bind
    {operation : Operation}
    {next : operation.Reply → Service ε α}
    (guaranteed : guarantee history operation)
    (answered : ∀ reply, answers operation reply →
      Yields answers guarantee ensures (next reply)
        (history ++ [⟨operation, reply⟩])) :
    Yields answers guarantee ensures (perform operation >>= next) history :=
  yields_bind.mpr (yields_lift.mpr ⟨guaranteed, answered⟩)

theorem yields_rethrow_bind
    {wrap : δ → ε}
    {result : Except δ β}
    {next : β → Service ε α}
    (succeeded : ∀ value, result = .ok value →
      Yields answers guarantee ensures (next value) history) :
    Yields answers guarantee ensures (rethrow wrap result >>= next)
      history := by
  refine yields_bind.mpr ?_
  cases result with
  | error error => exact nofun
  | ok value =>
      rintro _ ⟨⟩
      exact succeeded value rfl

theorem yields_deadline_bind
    {now : OffsetDateTime}
    {lifetime : Duration}
    {next : OffsetDateTime → Service ε α}
    (reached : ∀ time, now.checkedAdd lifetime = some time →
      Yields answers guarantee ensures (next time) history) :
    Yields answers guarantee ensures (deadline now lifetime >>= next)
      history := by
  refine yields_bind.mpr ?_
  unfold deadline
  split
  case h_1 time added => exact yields_pure.mpr (reached time added)
  case h_2 => trivial

theorem yields_issueToken_bind
    {environment : Environment}
    {key : TokenDigestKey}
    {next : IssuedOpaqueToken → Service ε α}
    (guaranteed : guarantee history .randomBytes)
    (issued : ∀ bytes token, Yields answers guarantee ensures (next token)
      (history ++ [⟨.randomBytes, bytes⟩])) :
    Yields answers guarantee ensures (issueToken environment key >>= next)
      history := by
  refine yields_bind.mpr (yields_perform_bind guaranteed ?_)
  exact fun bytes _ => yields_pure.mpr (issued bytes _)

theorem yields_adapt
    {wrap : δ → ε}
    {service : Service δ α}
    (yields : Yields answers guarantee ensures service history) :
    Yields answers guarantee ensures (service.adapt wrap) history := by
  refine Program.satisfies_map.mpr
    (Program.Satisfies.mono yields fun later result holds => ?_)
  intro value mapped
  cases result with
  | error error => cases mapped
  | ok _ =>
      cases mapped
      exact holds value rfl

variable {allowed : Operation → Prop}

theorem performs_ask
    {wrap : StoreError → ε}
    {call : Call}
    (permitted : allowed (.store call)) :
    (ask wrap call).run.Performs allowed :=
  ⟨permitted, fun _ => trivial⟩

theorem performs_ask_bind
    {wrap : StoreError → ε}
    {call : Call}
    {next : call.Result → Service ε α}
    (permitted : allowed (.store call))
    (rest : ∀ result, (next result).run.Performs allowed) :
    (ask wrap call >>= next).run.Performs allowed :=
  (performs_ask permitted).run_bind rest

theorem performs_perform_bind
    {operation : Operation}
    {next : operation.Reply → Service ε α}
    (permitted : allowed operation)
    (rest : ∀ reply, (next reply).run.Performs allowed) :
    (perform operation >>= next).run.Performs allowed :=
  ⟨permitted, rest⟩

theorem performs_rethrow_bind
    {wrap : δ → ε}
    {result : Except δ β}
    {next : β → Service ε α}
    (rest : ∀ value, (next value).run.Performs allowed) :
    (rethrow wrap result >>= next).run.Performs allowed := by
  cases result with
  | error error => trivial
  | ok value => exact rest value

theorem performs_deadline_bind
    {now : OffsetDateTime}
    {lifetime : Duration}
    {next : OffsetDateTime → Service ε α}
    (rest : ∀ time, (next time).run.Performs allowed) :
    (deadline now lifetime >>= next).run.Performs allowed := by
  unfold deadline
  split
  · exact rest _
  · trivial

theorem performs_issueToken_bind
    {environment : Environment}
    {key : TokenDigestKey}
    {next : IssuedOpaqueToken → Service ε α}
    (permitted : allowed .randomBytes)
    (rest : ∀ token, (next token).run.Performs allowed) :
    (issueToken environment key >>= next).run.Performs allowed :=
  ⟨permitted, fun _ => rest _⟩

end Rules

end Service

end Fabric
end Fcp
