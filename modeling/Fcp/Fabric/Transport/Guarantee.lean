import Fcp.Fabric.Store.Spending
import Fcp.Fabric.Transport.Requests

/-!
# What requests guarantee

At each operation, a request can point to earlier operations of its own that
justify it.  What the others do in between does not matter for that.
-/

namespace Fcp
namespace Fabric
namespace Transport

open Rust
open Reactive
open Service

/-- The own events of a request. -/
abbrev History : Type :=
  List (Event Operation Operation.Reply)

/-- The replies that an operation can have. -/
def Answered
    (environment : Environment)
    (operation : Operation)
    (reply : operation.Reply) : Prop :=
  ∃ store later, operation.Step environment store reply later

/-! ## Operations that a request performs once -/

/-- The kinds of operations that no request repeats. -/
inductive Singular
  | session
  | transaction
  | codeCheck
  | grant
  | roleChange
  deriving DecidableEq

def Singular.of : Operation → Option Singular
  | .store (.createRefreshSession _) => some .session
  | .store (.createLoginTransaction _) => some .transaction
  | .verifyTotp _ => some .codeCheck
  | .store (.createStepUpGrant _) => some .grant
  | .store (.changeRole _) => some .roleChange
  | _ => none

/-- The kinds of the operations of a history. -/
def Singular.all (history : History) : List Singular :=
  history.filterMap fun event => Singular.of event.call

@[simp] theorem Singular.all_nil : Singular.all [] = [] :=
  rfl

@[simp] theorem Singular.all_cons
    (operation : Operation)
    (reply : operation.Reply)
    (history : History) :
    Singular.all (⟨operation, reply⟩ :: history) =
      (Singular.of operation).toList ++ Singular.all history := by
  unfold Singular.all
  rw [List.filterMap_cons]
  cases Singular.of operation <;> rfl

@[simp] theorem Singular.all_append (first second : History) :
    Singular.all (first ++ second) = Singular.all first ++ Singular.all second :=
  List.filterMap_append

/-- No operation of a kind was performed. -/
def Unused (kind : Singular) (history : History) : Prop :=
  kind ∉ Singular.all history

/-- A history continues another and has used only some kinds in between. -/
structure Continues (used : List Singular) (history later : History) :
    Prop where
  kept : ∀ event ∈ history, event ∈ later
  unused : ∀ kind, kind ∉ used → Unused kind history → Unused kind later

namespace Continues

variable {used more : List Singular}
variable {history middle later : History}

theorem trans
    (first : Continues used history middle)
    (second : Continues more middle later)
    (subset : ∀ kind ∈ used, kind ∈ more) :
    Continues more history later where
  kept event mem := second.kept event (first.kept event mem)
  unused kind not_more unused :=
    second.unused kind not_more
      (first.unused kind (fun mem => not_more (subset kind mem)) unused)

/-- More operations, of no kind or of one of the used ones. -/
@[simp] theorem append
    {added : History}
    (kinds_used : Singular.all added ⊆ used) :
    Continues used history (history ++ added) where
  kept _ mem := List.mem_append_left _ mem
  unused kind not_used unused := by
    unfold Unused at unused ⊢
    rw [Singular.all_append, List.mem_append]
    exact not_or.mpr ⟨unused, fun mem => not_used (kinds_used mem)⟩

end Continues

/-! ## Justifications -/

/-- What shows a second factor. -/
inductive Evidence
  | totp (transaction factor : Uuid) (step : Int)
  | enrollment (transaction factor : Uuid)
  | passkey (tokenDigest : OpaqueTokenDigest)
  deriving DecidableEq

/-- The values that are used up for a piece of evidence. -/
def Evidence.items : Evidence → List Item
  | totp transaction factor step =>
      [.loginTransaction transaction, .totpStep factor step]
  | enrollment transaction factor =>
      [.loginTransaction transaction, .activation factor]
  | passkey tokenDigest => [.ceremony tokenDigest]

/-- A login transaction was consumed. -/
def Consumed (history : History) (record : LoginTransactionRecord) : Prop :=
  ∃ consume : ConsumeLoginTransaction,
    ⟨.store (.consumeLoginTransaction consume), .ok record⟩ ∈ history

/-- A password was verified. -/
def Verified (history : History) : Prop :=
  ∃ password verifier maximum,
    ⟨.verifyPassword password verifier maximum, true⟩ ∈ history

section

variable (history : History) (tenant : TenantId) (account : AccountId)

/-- A login transaction was consumed for the account. -/
def ConsumedTransaction (record : LoginTransactionRecord) : Prop :=
  record.tenantId = tenant ∧ record.accountId = account ∧
    Consumed history record

/-- The account was read as a login account and the password was verified. -/
def PasswordVerified : Prop :=
  ∃ (address : UserAddress) (login : LoginAccount),
    ⟨.store (.loginAccount address), .ok (some login)⟩ ∈ history ∧
    login.tenantId = tenant ∧ login.accountId = account ∧ Verified history

/-- A time step was recorded on a factor of the account. -/
def RecordedStep (request : ConsumeTotpStep) : Prop :=
  ⟨.store (.consumeTotpStep request), .ok ()⟩ ∈ history ∧
    request.tenantId = tenant ∧ request.accountId = account

/-- A code of a factor was checked and gave a time step. -/
def CheckedCode (factor : Uuid) (step : Int) : Prop :=
  ∃ attempt : TotpAttempt, ⟨.verifyTotp attempt, .ok step⟩ ∈ history ∧
    attempt.binding = ⟨tenant, account, factor⟩

/-- A second factor of the account was shown. -/
inductive SecondFactor (environment : Environment) : Evidence → Prop
  | totp
      {record : LoginTransactionRecord}
      {step : ConsumeTotpStep}
      (consumed : ConsumedTransaction history tenant account record)
      (stage : record.stage = .mfaChallenge)
      (recorded : RecordedStep history tenant account step) :
      SecondFactor environment
        (.totp record.transactionId step.factorId step.acceptedStep)
  | enrollment
      {record : LoginTransactionRecord}
      {request : ActivateTotpFactor}
      (consumed : ConsumedTransaction history tenant account record)
      (stage : record.stage = .mfaEnrollment)
      (bound : record.factorId = some request.factorId)
      (activated : ⟨.store (.activateTotpFactor request), .ok ()⟩ ∈ history)
      (tenant_eq : request.tenantId = tenant)
      (account_eq : request.accountId = account) :
      SecondFactor environment
        (.enrollment record.transactionId request.factorId)
  | passkey
      {request : ConsumeWebauthnCeremony}
      {record : WebauthnCeremonyRecord}
      {response : PublicKeyCredential}
      {state : PasskeyAuthentication}
      {verification : AuthenticationResult}
      (consumed : ⟨.store (.consumeWebauthnCeremony request), .ok record⟩ ∈
        history)
      (kind : record.kind = .authentication)
      (tenant_eq : record.tenantId = tenant)
      (account_eq : record.accountId = account)
      (restored :
        environment.webauthn.authenticationFromValue record.state = some state)
      (verified :
        ⟨.finishPasskeyAuthentication response state, .ok verification⟩ ∈
          history) :
      SecondFactor environment (.passkey request.tokenDigest)

/-- What entitles to a session: a second factor, or a transaction for a login
without one. -/
def Entitled (environment : Environment) : Prop :=
  (∃ evidence, SecondFactor history tenant account environment evidence) ∨
    ∃ record, ConsumedTransaction history tenant account record ∧
      record.stage = .sessionIssuance

end

section

variable {history later : History} {tenant : TenantId} {account : AccountId}
variable {environment : Environment}

/-- A consumption stays in longer histories. -/
theorem ConsumedTransaction.mono
    {record : LoginTransactionRecord}
    (consumed : ConsumedTransaction history tenant account record)
    (kept : ∀ event ∈ history, event ∈ later) :
    ConsumedTransaction later tenant account record := by
  obtain ⟨tenant_eq, account_eq, request, mem⟩ := consumed
  exact ⟨tenant_eq, account_eq, request, kept _ mem⟩

/-- More operations take no evidence away. -/
theorem SecondFactor.mono
    {evidence : Evidence}
    (shown : SecondFactor history tenant account environment evidence)
    (kept : ∀ event ∈ history, event ∈ later) :
    SecondFactor later tenant account environment evidence := by
  cases shown with
  | totp consumed stage recorded =>
      exact .totp (consumed.mono kept) stage ⟨kept _ recorded.1, recorded.2⟩
  | enrollment consumed stage bound activated tenant_eq account_eq =>
      exact .enrollment (consumed.mono kept) stage bound (kept _ activated)
        tenant_eq account_eq
  | passkey consumed kind tenant_eq account_eq restored verified =>
      exact .passkey (kept _ consumed) kind tenant_eq account_eq restored
        (kept _ verified)

theorem Entitled.mono
    (entitled : Entitled history tenant account environment)
    (kept : ∀ event ∈ history, event ∈ later) :
    Entitled later tenant account environment := by
  rcases entitled with ⟨evidence, shown⟩ | ⟨record, consumed, stage⟩
  · exact .inl ⟨evidence, shown.mono kept⟩
  · exact .inr ⟨record, consumed.mono kept, stage⟩

end

/-- The access session that authenticated a request. -/
def AuthenticatedBy
    (history : History)
    (authorization : AccessSessionAuthorization) : Prop :=
  ∃ digest, ⟨.store (.accessSessionAuthorizationContext digest),
    .ok (some authorization)⟩ ∈ history

/-- The role change that a request names. -/
def Request.target (environment : Environment) :
    Request → Option RoleChangeTarget
  | beginRoleChangeStepUp _ accountId request => do
      let account ← environment.parseUuid accountId
      return { accountId := ⟨account⟩, role := request.role, grant := request.grant }
  | changeAccountRole _ accountId request => do
      let account ← environment.parseUuid accountId
      return { accountId := ⟨account⟩, role := request.role, grant := request.grant }
  | _ => none

/-- Whether a request completes a login with a code. -/
def Request.completesLogin : Request → Bool
  | completeTotpLogin _ _ => true
  | _ => false

/-- What justifies an operation of a request. -/
def Justified
    (environment : Environment)
    (request : Request)
    (history : History) : Operation → Prop
  | .store (.createRefreshSession session) =>
      Entitled history session.tenantId session.accountId environment
  | .store (.createLoginTransaction transaction) =>
      match transaction.stage with
      | .mfaEnrollment => True
      | .mfaChallenge =>
          PasswordVerified history transaction.tenantId transaction.accountId
      | .sessionIssuance =>
          ⟨.store (.hasActiveTotpFactor transaction.tenantId
            transaction.accountId), .ok false⟩ ∈ history
  | .store (.hasActiveTotpFactor tenant account) =>
      ∃ (address : UserAddress) (login : LoginAccount),
        ⟨.store (.loginAccount address), .ok (some login)⟩ ∈ history ∧
        login.tenantId = tenant ∧ login.accountId = account ∧
        login.state = .active
  | .verifyTotp attempt =>
      request.completesLogin = true → ∃ record,
        ConsumedTransaction history attempt.binding.tenantId
          attempt.binding.accountId record ∧ record.stage = .mfaChallenge
  | .store (.consumeTotpStep step) =>
      CheckedCode history step.tenantId step.accountId step.factorId
        step.acceptedStep
  | .store (.activateTotpFactor activation) =>
      CheckedCode history activation.tenantId activation.accountId
        activation.factorId activation.acceptedStep
  | .store (.inviteAccount command) =>
      ∃ authorization, AuthenticatedBy history authorization ∧
        command.tenantId = authorization.context.tenantId ∧
        command.actor = administrationActor
          ⟨authorization.context, authorization.familyId⟩ false
  | .store (.createStepUpGrant grant) =>
      (∃ authorization, AuthenticatedBy history authorization ∧
        grant.tenantId = authorization.context.tenantId ∧
        grant.accountId = authorization.context.accountId ∧
        grant.familyId = authorization.familyId) ∧
      (∃ step, RecordedStep history grant.tenantId grant.accountId step) ∧
      ∃ target, request.target environment = some target ∧
        grant.targetDigest =
          roleChangeTargetDigest environment.primitives target
  | .store (.changeRole command) =>
      ∃ authorization, AuthenticatedBy history authorization ∧
        command.tenantId = authorization.context.tenantId ∧
        command.actor = administrationActor
          ⟨authorization.context, authorization.familyId⟩ true ∧
        request.target environment = some
          ⟨command.targetAccountId, command.role, command.grant⟩ ∧
        ∃ grant : ConsumeStepUpGrant,
          ⟨.store (.consumeStepUpGrant grant), .ok true⟩ ∈ history ∧
          grant.tenantId = authorization.context.tenantId ∧
          grant.accountId = authorization.context.accountId ∧
          grant.familyId = authorization.familyId ∧
          grant.targetDigest = roleChangeTargetDigest environment.primitives
            ⟨command.targetAccountId, command.role, command.grant⟩
  | _ => True

/-- Every operation is justified, and those that happen once are new. -/
def Guarantee
    (environment : Environment)
    (request : Request)
    (history : History)
    (operation : Operation) : Prop :=
  (∀ kind, Singular.of operation = some kind → Unused kind history) ∧
    Justified environment request history operation

section Specifications

variable {environment : Environment} {request : Request} {history : History}

/-- A service keeps the guarantee of a request. -/
abbrev Keeps
    (environment : Environment)
    (request : Request)
    (ensures : History → α → Prop)
    (service : Service ε α)
    (history : History) : Prop :=
  Program.Yields (Answered environment) (Guarantee environment request) ensures
    service history

/-- A handler keeps the guarantee of a request. -/
abbrev HandlerKeeps
    (environment : Environment)
    (request : Request)
    (ensures : History → α → Prop)
    (handler : Action α)
    (history : History) : Prop :=
  handler.Satisfies (Answered environment) (Guarantee environment request)
    ensures history

/-! ## Rules -/

theorem keeps_ask
    {wrap : StoreError → ε}
    {call : Call}
    {ensures : History → call.Result → Prop}
    (guaranteed : Guarantee environment request history (.store call))
    (answered : ∀ result, Answered environment (.store call) (.ok result) →
      ensures (history ++ [⟨.store call, .ok result⟩]) result) :
    Keeps environment request ensures (ask wrap call) history :=
  yields_ask guaranteed answered

theorem keeps_ask_bind
    {wrap : StoreError → ε}
    {call : Call}
    {next : call.Result → Service ε α}
    {ensures : History → α → Prop}
    (guaranteed : Guarantee environment request history (.store call))
    (answered : ∀ result, Answered environment (.store call) (.ok result) →
      Keeps environment request ensures (next result)
        (history ++ [⟨.store call, .ok result⟩])) :
    Keeps environment request ensures (ask wrap call >>= next) history :=
  yields_ask_bind guaranteed answered

theorem keeps_perform_bind
    {operation : Operation}
    {next : operation.Reply → Service ε α}
    {ensures : History → α → Prop}
    (guaranteed : Guarantee environment request history operation)
    (answered : ∀ reply, Answered environment operation reply →
      Keeps environment request ensures (next reply)
        (history ++ [⟨operation, reply⟩])) :
    Keeps environment request ensures (perform operation >>= next) history :=
  yields_perform_bind guaranteed answered

theorem keeps_rethrow_bind
    {wrap : δ → ε}
    {result : Except δ β}
    {next : β → Service ε α}
    {ensures : History → α → Prop}
    (succeeded : ∀ value, result = .ok value →
      Keeps environment request ensures (next value) history) :
    Keeps environment request ensures (rethrow wrap result >>= next) history :=
  yields_rethrow_bind succeeded

theorem keeps_deadline_bind
    {now : OffsetDateTime}
    {lifetime : Duration}
    {next : OffsetDateTime → Service ε α}
    {ensures : History → α → Prop}
    (reached : ∀ time, Keeps environment request ensures (next time) history) :
    Keeps environment request ensures (deadline now lifetime >>= next) history :=
  yields_deadline_bind fun time _ => reached time

theorem keeps_issueToken_bind
    {key : TokenDigestKey}
    {next : IssuedOpaqueToken → Service ε α}
    {ensures : History → α → Prop}
    (issued : ∀ bytes token, Keeps environment request ensures (next token)
      (history ++ [⟨.randomBytes, bytes⟩])) :
    Keeps environment request ensures (issueToken environment key >>= next)
      history :=
  yields_issueToken_bind ⟨nofun, trivial⟩ issued

theorem keeps_adapt
    {wrap : δ → ε}
    {service : Service δ α}
    {ensures : History → α → Prop}
    (keeps : Keeps environment request ensures service history) :
    Keeps environment request ensures (service.adapt wrap) history :=
  yields_adapt keeps

theorem keeps_call_bind
    {operation : Operation}
    {next : operation.Reply → Action α}
    {ensures : History → α → Prop}
    (guaranteed : Guarantee environment request history operation)
    (answered : ∀ reply, Answered environment operation reply →
      HandlerKeeps environment request ensures (next reply)
        (history ++ [⟨operation, reply⟩])) :
    HandlerKeeps environment request ensures (Program.call operation >>= next)
      history :=
  ⟨guaranteed, answered⟩

end Specifications

end Transport
end Fabric
end Fcp
