import Fcp.Fabric.Transport.Services

/-!
# Login transactions in the handlers

Which request creates and consumes login transactions and pending factors, and
what it has done before.
-/

namespace Fcp
namespace Fabric
namespace Transport

open Rust
open Reactive
open Service
open Program (yields_pure yields_throw)

/-- The operations on login transactions and pending factors. -/
def handlesLogin : Operation → Bool
  | .store (.createLoginTransaction _) => true
  | .store (.consumeLoginTransaction _) => true
  | .store (.createPendingTotpFactor _) => true
  | _ => false

/-- The other operations. -/
abbrev Aside (operation : Operation) : Prop :=
  handlesLogin operation = false

variable {environment : Environment}

/-! ## Services without login transactions -/

theorem issue_performs
    (issuer : SessionIssuer)
    (context : AuthorizationContext)
    (correlationId : String)
    (now : OffsetDateTime) :
    (issuer.issue environment context correlationId now).run.Performs Aside :=
  performs_issueToken_bind rfl fun _ => performs_issueToken_bind rfl fun _ =>
    performs_deadline_bind fun _ => performs_deadline_bind fun _ =>
      performs_ask_bind rfl fun _ => trivial

theorem rotate_performs
    (rotator : SessionRotator)
    (token correlationId : String)
    (now : OffsetDateTime) :
    (rotator.rotate environment token correlationId now).run.Performs Aside := by
  refine performs_issueToken_bind rfl fun _ =>
    performs_issueToken_bind rfl fun _ => performs_deadline_bind fun _ =>
      performs_deadline_bind fun _ => performs_ask_bind rfl fun rotation => ?_
  cases rotation <;> trivial

theorem complete_performs
    (tenant : TenantId)
    (account : AccountId)
    (code : String)
    (now : OffsetDateTime) :
    (TotpLoginService.complete tenant account code now).run.Performs Aside := by
  refine performs_ask_bind rfl fun factor => ?_
  cases factor with
  | none => trivial
  | some factor =>
      refine performs_perform_bind rfl fun _ => performs_rethrow_bind fun _ =>
        performs_perform_bind rfl fun verified => ?_
      split
      · trivial
      · trivial
      · trivial
      refine performs_perform_bind rfl fun recorded => ?_
      split
      · trivial
      · trivial
      refine performs_ask_bind rfl fun context => ?_
      cases context <;> trivial

theorem confirm_performs
    (tenant : TenantId)
    (account : AccountId)
    (factor : Uuid)
    (code correlationId : String)
    (now : OffsetDateTime) :
    (TotpEnrollmentService.confirm tenant account factor code correlationId
      now).run.Performs Aside := by
  refine performs_ask_bind rfl fun pending => ?_
  cases pending with
  | none => trivial
  | some pending =>
      refine performs_perform_bind rfl fun _ => performs_rethrow_bind fun _ =>
        performs_perform_bind rfl fun verified => ?_
      split
      · trivial
      · trivial
      · trivial
      refine performs_perform_bind rfl fun activated => ?_
      split
      · trivial
      · trivial
      refine performs_ask_bind rfl fun context => ?_
      cases context <;> trivial

theorem issueRoleChange_performs
    (service : StepUpService)
    (request : IssueRoleChangeStepUp) :
    (service.issueRoleChange environment request).run.Performs Aside := by
  refine Program.Performs.run_bind ?_ fun outcome => ?_
  · exact (complete_performs _ _ _ _).bind fun _ => trivial
  cases outcome with
  | denied => trivial
  | authenticated context =>
      dsimp only
      split
      · trivial
      exact performs_issueToken_bind rfl fun _ =>
        performs_deadline_bind fun _ => performs_ask_bind rfl fun _ => trivial

theorem deserializeActivePasskeys_performs
    (tenant : TenantId)
    (account : AccountId) :
    (WebauthnService.deserializeActivePasskeys environment tenant
      account).run.Performs Aside :=
  performs_ask_bind rfl fun _ => trivial

theorem persistCeremony_performs
    (service : WebauthnService)
    (tenant : TenantId)
    (account : AccountId)
    (kind : WebauthnCeremonyKind)
    (state : Json)
    (correlationId : String)
    (now : OffsetDateTime) :
    (service.persistCeremony environment tenant account kind state correlationId
      now).run.Performs Aside :=
  performs_issueToken_bind rfl fun _ => performs_issueToken_bind rfl fun _ =>
    performs_deadline_bind fun _ => performs_ask_bind rfl fun _ => trivial

theorem beginRegistration_performs
    (service : WebauthnService)
    (tenant : TenantId)
    (account : AccountId)
    (label : Option String)
    (correlationId : String)
    (now : OffsetDateTime) :
    (service.beginRegistration environment tenant account label correlationId
      now).run.Performs Aside := by
  refine performs_ask_bind rfl fun address => ?_
  cases address with
  | none => trivial
  | some address =>
      dsimp only
      split
      · trivial
      exact (deserializeActivePasskeys_performs _ _).run_bind fun _ =>
        performs_perform_bind rfl fun _ => performs_rethrow_bind fun _ =>
          performs_rethrow_bind fun _ =>
            (persistCeremony_performs _ _ _ _ _ _ _).run_bind fun _ => trivial

theorem finishRegistration_performs
    (service : WebauthnService)
    (tenant : TenantId)
    (account : AccountId)
    (token binding : String)
    (response : RegisterPublicKeyCredential)
    (correlationId : String) :
    (service.finishRegistration environment tenant account token binding
      response correlationId).run.Performs Aside := by
  refine performs_ask_bind rfl fun ceremony => ?_
  split
  · trivial
  exact performs_rethrow_bind fun _ => performs_perform_bind rfl fun _ =>
    performs_rethrow_bind fun _ => performs_rethrow_bind fun _ =>
      performs_rethrow_bind fun _ => performs_ask_bind rfl fun _ => trivial

theorem beginAuthentication_performs
    (service : WebauthnService)
    (address : UserAddress)
    (correlationId : String)
    (now : OffsetDateTime) :
    (service.beginAuthentication environment address correlationId
      now).run.Performs Aside := by
  unfold WebauthnService.beginAuthentication
  split
  · trivial
  refine performs_ask_bind rfl fun login => ?_
  cases login with
  | none => trivial
  | some login =>
      dsimp only
      split
      · trivial
      refine (deserializeActivePasskeys_performs _ _).run_bind fun _ => ?_
      split
      · trivial
      exact performs_perform_bind rfl fun _ => performs_rethrow_bind fun _ =>
        performs_rethrow_bind fun _ =>
          (persistCeremony_performs _ _ _ _ _ _ _).run_bind fun _ => trivial

theorem finishAuthentication_performs
    (service : WebauthnService)
    (token binding : String)
    (response : PublicKeyCredential)
    (correlationId : String) :
    (service.finishAuthentication environment token binding response
      correlationId).run.Performs Aside := by
  refine performs_ask_bind rfl fun ceremony => ?_
  split
  · trivial
  refine performs_rethrow_bind fun _ => performs_perform_bind rfl fun _ =>
    performs_rethrow_bind fun _ => performs_rethrow_bind fun _ =>
      performs_rethrow_bind fun _ =>
        (deserializeActivePasskeys_performs _ _).run_bind fun _ => ?_
  split
  case h_2 => trivial
  refine performs_rethrow_bind fun _ => performs_perform_bind rfl fun _ => ?_
  split
  · trivial
  · trivial
  refine performs_ask_bind rfl fun context => ?_
  cases context <;> trivial

/-! ## Handlers without login transactions -/

theorem newCorrelationId_bind_performs
    {label : String}
    {next : String → Action α}
    (rest : ∀ text, (next text).Performs Aside) :
    (newCorrelationId label >>= next).Performs Aside :=
  ⟨rfl, fun _ => rest _⟩

theorem issueBrowserCsrfToken_bind_performs
    {next : String → Action α}
    (rest : ∀ text, (next text).Performs Aside) :
    (issueBrowserCsrfToken environment.primitives >>= next).Performs Aside :=
  ⟨rfl, fun _ => rest _⟩

theorem call_bind_performs
    {operation : Operation}
    {next : operation.Reply → Action α}
    (aside : Aside operation)
    (rest : ∀ reply, (next reply).Performs Aside) :
    (Program.call operation >>= next).Performs Aside :=
  ⟨aside, rest⟩

theorem browserSessionResponse_performs (session : IssuedRefreshSession) :
    (browserSessionResponse environment session).Performs Aside := by
  unfold browserSessionResponse
  split
  · refine issueBrowserCsrfToken_bind_performs fun _ => ?_
    split <;> trivial
  · trivial

theorem issueBrowserSession_performs
    (issuer : SessionIssuer)
    (context : AuthorizationContext)
    (correlationId : String) :
    (issueBrowserSession environment issuer context correlationId).Performs
      Aside := by
  refine call_bind_performs rfl fun now =>
    (issue_performs _ _ _ _).bind fun issued => ?_
  cases issued with
  | error error => trivial
  | ok session =>
      exact (browserSessionResponse_performs session).bind fun _ => trivial

theorem authenticateAccess_performs
    (services : FabricMfaSessionServices)
    (headers : HeaderMap) :
    (authenticateAccess environment services headers).Performs Aside := by
  unfold authenticateAccess
  split
  · trivial
  split
  case h_2 => trivial
  refine Program.Performs.bind (performs_ask_bind rfl fun _ => trivial)
    fun authenticated => ?_
  split <;> trivial

theorem authenticateAdmin_performs
    (services : FabricMfaSessionServices)
    (headers : HeaderMap)
    (permission : Permission) :
    (authenticateAdmin environment services headers permission).Performs
      Aside := by
  refine (authenticateAccess_performs services headers).bind fun result => ?_
  cases result with
  | error response => trivial
  | ok session =>
      dsimp only
      split <;> trivial

theorem passkeyChallengeResponse_performs
    (ceremony : IssuedWebauthnCeremony)
    (challenge : Json) :
    (passkeyChallengeResponse environment ceremony challenge).Performs Aside := by
  refine issueBrowserCsrfToken_bind_performs fun _ => ?_
  split <;> trivial

theorem beginPasskeyLogin_performs
    (state : FabricHttpState)
    (body : PasskeyLoginBeginRequest) :
    (beginPasskeyLogin environment state body).Performs Aside := by
  unfold beginPasskeyLogin
  split
  case h_2 => trivial
  split
  case h_2 => trivial
  refine newCorrelationId_bind_performs fun _ => call_bind_performs rfl fun _ =>
    (beginAuthentication_performs _ _ _ _).bind fun outcome => ?_
  split
  · trivial
  · exact passkeyChallengeResponse_performs _ _
  · trivial

theorem finishPasskeyLogin_performs
    (state : FabricHttpState)
    (headers : HeaderMap)
    (body : PasskeyFinishRequest PublicKeyCredential) :
    (finishPasskeyLogin environment state headers body).Performs Aside := by
  unfold finishPasskeyLogin
  split
  case h_2 => trivial
  split
  · trivial
  split
  case h_2 => trivial
  refine newCorrelationId_bind_performs fun _ =>
    (finishAuthentication_performs _ _ _ _ _).bind fun outcome => ?_
  split
  · exact (issueBrowserSession_performs _ _ _).bind fun _ => trivial
  · trivial
  · trivial
  · trivial

theorem beginPasskeyRegistration_performs
    (state : FabricHttpState)
    (headers : HeaderMap)
    (body : PasskeyRegistrationBeginRequest) :
    (beginPasskeyRegistration environment state headers body).Performs
      Aside := by
  unfold beginPasskeyRegistration
  split
  case h_2 => trivial
  refine (authenticateAccess_performs _ headers).bind fun result => ?_
  cases result with
  | error response => trivial
  | ok session =>
      refine newCorrelationId_bind_performs fun _ =>
        call_bind_performs rfl fun _ =>
          (beginRegistration_performs _ _ _ _ _ _).bind fun outcome => ?_
      split
      · trivial
      · exact passkeyChallengeResponse_performs _ _
      · trivial

theorem finishPasskeyRegistration_performs
    (state : FabricHttpState)
    (headers : HeaderMap)
    (body : PasskeyFinishRequest RegisterPublicKeyCredential) :
    (finishPasskeyRegistration environment state headers body).Performs
      Aside := by
  unfold finishPasskeyRegistration
  split
  case h_2 => trivial
  refine (authenticateAccess_performs _ headers).bind fun result => ?_
  cases result with
  | error response => trivial
  | ok session =>
      dsimp only
      split
      · trivial
      split
      case h_2 => trivial
      refine newCorrelationId_bind_performs fun _ =>
        (finishRegistration_performs _ _ _ _ _ _ _).bind fun outcome => ?_
      split <;> trivial

theorem refreshSession_performs
    (state : FabricHttpState)
    (headers : HeaderMap) :
    (refreshSession environment state headers).Performs Aside := by
  unfold refreshSession
  split
  case h_2 => trivial
  split
  case h_2 => trivial
  split
  · trivial
  refine newCorrelationId_bind_performs fun _ => call_bind_performs rfl fun _ =>
    (rotate_performs _ _ _ _).bind fun outcome => ?_
  split
  · exact browserSessionResponse_performs _
  · trivial
  · trivial
  · trivial

theorem inviteAccount_performs
    (state : FabricHttpState)
    (headers : HeaderMap)
    (body : InviteAccountRequest) :
    (inviteAccount environment state headers body).Performs Aside := by
  unfold inviteAccount
  split
  case h_2 => trivial
  refine (authenticateAdmin_performs _ headers _).bind fun result => ?_
  cases result with
  | error response => trivial
  | ok session =>
      dsimp only
      split
      case h_2 => trivial
      refine newCorrelationId_bind_performs fun _ =>
        call_bind_performs rfl fun _ => ?_
      split <;> trivial

theorem beginRoleChangeStepUp_performs
    (state : FabricHttpState)
    (headers : HeaderMap)
    (accountId : String)
    (body : StepUpRequest) :
    (beginRoleChangeStepUp environment state headers accountId body).Performs
      Aside := by
  unfold beginRoleChangeStepUp
  split
  case h_2 => trivial
  refine (authenticateAdmin_performs _ headers _).bind fun result => ?_
  cases result with
  | error response => trivial
  | ok session =>
      dsimp only
      split
      case h_2 => trivial
      refine newCorrelationId_bind_performs fun _ =>
        call_bind_performs rfl fun _ =>
          (issueRoleChange_performs _ _).bind fun outcome => ?_
      split
      · split <;> trivial
      · trivial
      · trivial

theorem changeAccountRole_performs
    (state : FabricHttpState)
    (headers : HeaderMap)
    (accountId : String)
    (body : ChangeRoleRequest) :
    (changeAccountRole environment state headers accountId body).Performs
      Aside := by
  unfold changeAccountRole
  split
  case h_2 => trivial
  refine (authenticateAdmin_performs _ headers _).bind fun result => ?_
  cases result with
  | error response => trivial
  | ok session =>
      dsimp only
      split
      case h_2 => trivial
      refine newCorrelationId_bind_performs fun _ => ?_
      split
      case h_2 => trivial
      split
      case h_2 => trivial
      refine Program.Performs.bind (performs_ask rfl) fun consumed => ?_
      split
      · trivial
      · trivial
      · refine call_bind_performs rfl fun _ => ?_
        split <;> trivial

/-! ## Steps of a login -/

/-- The stage of the transactions that a request consumes. -/
def Request.consumedStage : Request → Option LoginTransactionStage
  | beginTotpEnrollment _ => some .mfaEnrollment
  | confirmTotpEnrollment _ _ => some .mfaEnrollment
  | completeTotpLogin _ _ => some .mfaChallenge
  | completePasswordOnlyLogin _ => some .sessionIssuance
  | _ => none

/-- Whether a request verifies a password. -/
def Request.startsLogin : Request → Bool
  | startPasswordLogin _ => true
  | _ => false

/-- Whether a request starts an enrollment. -/
def Request.beginsEnrollment : Request → Bool
  | beginTotpEnrollment _ => true
  | _ => false

/-- Whether a request confirms an enrollment. -/
def Request.confirmsEnrollment : Request → Bool
  | confirmTotpEnrollment _ _ => true
  | _ => false

def isConsumption : Operation → Bool
  | .store (.consumeLoginTransaction _) => true
  | _ => false

def isFactorCreation : Operation → Bool
  | .store (.createPendingTotpFactor _) => true
  | _ => false

/-- A transaction expires one lifetime after a reading of the clock. -/
def Expires
    (state : FabricHttpState)
    (history : History)
    (create : CreateLoginTransaction) : Prop :=
  ∃ flow now, state.loginFlow = some flow ∧ ⟨.now, now⟩ ∈ history ∧
    now.checkedAdd flow.transactionService.policy.lifetime =
      some create.expiresAt

/-- A transaction without a factor follows on a password, one with a factor on
the consumption of another transaction. -/
def Issues
    (state : FabricHttpState)
    (request : Request)
    (history : History)
    (create : CreateLoginTransaction) : Prop :=
  Expires state history create ∧
    (create.factorId = none ∧ request.startsLogin = true ∧ Verified history ∨
      create.factorId ≠ none ∧ create.stage = .mfaEnrollment ∧
        request.beginsEnrollment = true)

/-- A confirmation does nothing after the consumption of a transaction without a
factor. -/
def Confirming (request : Request) (history : History) : Prop :=
  request.confirmsEnrollment = true →
    ∀ record, Consumed history record → record.factorId ≠ none

/-- What precedes the operations on login transactions and pending factors. -/
def LoginGuarantee
    (state : FabricHttpState)
    (request : Request)
    (history : History)
    (operation : Operation) : Prop :=
  Confirming request history ∧
    match operation with
    | .store (.consumeLoginTransaction consume) =>
        request.consumedStage = some consume.expectedStage ∧
          ∀ event ∈ history, isConsumption event.call = false
    | .store (.createPendingTotpFactor _) =>
        request.beginsEnrollment = true ∧
          (∃ record, Consumed history record) ∧
          ∀ event ∈ history, isFactorCreation event.call = false
    | .store (.createLoginTransaction create) =>
        Issues state request history create
    | _ => True

/-- A confirmation that has consumed a transaction without a factor denies. -/
def LoginEnsures
    (request : Request)
    (history : History)
    (response : Response) : Prop :=
  request.confirmsEnrollment = true →
    ∀ record, Consumed history record → record.factorId = none →
      response = loginFlowDenial

section Steps

variable {answers : (operation : Operation) → operation.Reply → Prop}
variable {state : FabricHttpState} {request : Request}
variable {history later : History} {operation : Operation}

theorem not_consumed_nil (record : LoginTransactionRecord) :
    ¬Consumed [] record := by
  rintro ⟨consume, mem⟩
  cases mem

theorem consumed_append_aside_iff
    {reply : operation.Reply}
    {record : LoginTransactionRecord}
    (aside : Aside operation) :
    Consumed (history ++ [⟨operation, reply⟩]) record ↔
      Consumed history record := by
  constructor
  · rintro ⟨consume, mem⟩
    rcases List.mem_append.mp mem with mem | mem
    · exact ⟨consume, mem⟩
    · cases List.mem_singleton.mp mem
      cases aside
  · rintro ⟨consume, mem⟩
    exact ⟨consume, List.mem_append_left _ mem⟩

theorem Confirming.append_aside
    {reply : operation.Reply}
    (confirming : Confirming request history)
    (aside : Aside operation) :
    Confirming request (history ++ [⟨operation, reply⟩]) := by
  intro confirms record consumed
  exact confirming confirms record ((consumed_append_aside_iff aside).mp consumed)

theorem LoginGuarantee.of_aside
    (confirming : Confirming request history)
    (aside : Aside operation) :
    LoginGuarantee state request history operation := by
  refine ⟨confirming, ?_⟩
  split
  · cases aside
  · cases aside
  · cases aside
  · trivial

/-- Programs without operations on login transactions keep the guarantee. -/
theorem satisfies_of_performs
    {program : Action Response}
    (performs : program.Performs Aside)
    (confirming : Confirming request history) :
    program.Satisfies answers (LoginGuarantee state request)
      (LoginEnsures request) history := by
  have holds : program.Satisfies answers (LoginGuarantee state request)
      (fun later _ => Confirming request later) history := by
    refine performs.satisfies ?_ ?_ confirming
    · exact fun later operation aside confirming => .of_aside confirming aside
    · exact fun later operation reply aside confirming =>
        confirming.append_aside aside
  refine holds.mono fun later response confirming => ?_
  intro confirms record consumed unbound
  exact absurd unbound (confirming confirms record consumed)

/-- Requests other than confirmations go on after every consumption. -/
theorem Confirming.of_other (other : request.confirmsEnrollment = false) :
    Confirming request history := by
  intro confirms
  rw [other] at confirms
  cases confirms

/-! ## The password stage -/

/-- A password that is not denied was verified. -/
theorem authenticate_yields
    (service : PasswordLoginService)
    (address : UserAddress)
    (password : String)
    (other : request.confirmsEnrollment = false) :
    Program.Yields answers (LoginGuarantee state request)
      (fun later outcome => (∀ event ∈ history, event ∈ later) ∧
        (outcome ≠ .denied → Verified later))
      (service.authenticate address password) history := by
  have aside (later : History) {operation : Operation}
      (aside : Aside operation) :
      LoginGuarantee state request later operation :=
    .of_aside (.of_other other) aside
  unfold PasswordLoginService.authenticate
  refine yields_ask_bind (aside _ rfl) fun login _ => ?_
  cases login with
  | none =>
      refine yields_perform_bind (aside _ rfl) fun _ _ => yields_pure.mpr ?_
      exact ⟨by simp +contextual, fun refused => absurd rfl refused⟩
  | some login =>
      refine yields_perform_bind (aside _ rfl) fun verified _ => ?_
      split
      · exact yields_pure.mpr ⟨by simp +contextual, by simp⟩
      rename_i accepted
      rw [Bool.not_eq_false] at accepted
      subst accepted
      split
      · split
        · exact yields_pure.mpr
            ⟨by simp +contextual, fun _ => ⟨_, _, _, List.mem_concat_self⟩⟩
        · exact yields_pure.mpr ⟨by simp +contextual, by simp⟩
      refine yields_ask_bind (aside _ rfl) fun roles _ =>
        yields_ask_bind (aside _ rfl) fun hasTotp _ => ?_
      have shown : Verified (history ++
          [⟨.store (.loginAccount address), .ok (some login)⟩] ++
          [⟨.verifyPassword password
            (login.verifier.getD service.dummyVerifier)
            service.maximumPasswordBytes, true⟩] ++
          [⟨.store (.rolesForAccount login.tenantId login.accountId),
            .ok roles⟩] ++
          [⟨.store (.hasActiveTotpFactor login.tenantId login.accountId),
            .ok hasTotp⟩]) :=
        ⟨_, _, _, List.mem_append_left _
          (List.mem_append_left _ List.mem_concat_self)⟩
      split
      · split
        · exact yields_pure.mpr ⟨by simp +contextual, by simp⟩
        · exact yields_pure.mpr ⟨by simp +contextual, fun _ => shown⟩
      · exact yields_pure.mpr ⟨by simp +contextual, fun _ => shown⟩

theorem begin_yields
    {outcome : PasswordLoginOutcome}
    {flow : FabricLoginFlow}
    {now : OffsetDateTime}
    (bindingDigest : Vector UInt8 32)
    (correlationId : String)
    (installed : state.loginFlow = some flow)
    (read : ⟨.now, now⟩ ∈ history)
    (starts : request.startsLogin = true)
    (other : request.confirmsEnrollment = false)
    (verified : Verified history) :
    Program.Yields answers (LoginGuarantee state request) (fun _ _ => True)
      (flow.transactionService.begin environment outcome bindingDigest
        correlationId now) history := by
  unfold LoginTransactionService.begin
  split
  case h_2 => exact yields_pure.mpr trivial
  refine yields_issueToken_bind (.of_aside (.of_other other) rfl)
    fun bytes issued => yields_deadline_bind fun expiresAt expires =>
      yields_ask_bind ⟨.of_other other, ?_⟩ fun _ _ => yields_pure.mpr trivial
  obtain ⟨password, verifier, maximum, mem⟩ := verified
  exact ⟨⟨flow, now, installed, List.mem_append_left _ read, expires⟩,
    .inl ⟨rfl, starts, password, verifier, maximum, List.mem_append_left _ mem⟩⟩

theorem startPasswordLogin_yields
    {flow : FabricLoginFlow}
    {now : OffsetDateTime}
    (address : UserAddress)
    (password correlationId : String)
    (installed : state.loginFlow = some flow)
    (read : ⟨.now, now⟩ ∈ history)
    (starts : request.startsLogin = true)
    (other : request.confirmsEnrollment = false) :
    Program.Yields answers (LoginGuarantee state request) (fun _ _ => True)
      (flow.startPasswordLogin environment address password correlationId now)
      history := by
  unfold FabricLoginFlow.startPasswordLogin
  refine (yields_adapt (authenticate_yields flow.passwordService _ _
    other)).bind fun later outcome ⟨kept, verified⟩ => ?_
  split
  · exact yields_pure.mpr trivial
  rename_i accepted
  obtain ⟨secret, verifier, maximum, mem⟩ := verified accepted
  refine yields_issueToken_bind (.of_aside (.of_other other) rfl)
    fun bytes binding => ?_
  refine (yields_adapt (begin_yields _ _ installed
    (List.mem_append_left _ (kept _ read)) starts other
    ⟨secret, verifier, maximum, List.mem_append_left _ mem⟩)).bind
      fun _ started _ => ?_
  cases started <;> exact yields_pure.mpr trivial

theorem startPasswordLogin_satisfies (body : PasswordLoginRequest) :
    (startPasswordLogin environment state body).Satisfies answers
      (LoginGuarantee state (.startPasswordLogin body))
      (LoginEnsures (.startPasswordLogin body)) [] := by
  have ensured (later : History) (response : Response) :
      LoginEnsures (.startPasswordLogin body) later response := nofun
  have aside (later : History) {operation : Operation}
      (aside : Aside operation) :
      LoginGuarantee state (.startPasswordLogin body) later operation :=
    .of_aside (.of_other rfl) aside
  unfold startPasswordLogin
  split
  case h_2 => exact ensured _ _
  rename_i flow installed
  split
  case h_2 => exact ensured _ _
  refine ⟨aside _ rfl, fun uuid _ => ⟨aside _ rfl, fun now _ => ?_⟩⟩
  refine (startPasswordLogin_yields _ _ _ installed List.mem_concat_self rfl
    rfl).run_bind (fun later _ => ensured later _) fun later started _ => ?_
  cases started with
  | denied => exact ensured _ _
  | pending challenge =>
      refine satisfies_of_performs ?_ (.of_other rfl)
      refine issueBrowserCsrfToken_bind_performs fun _ => ?_
      split <;> trivial

/-! ## The later stages -/

/-- The step that follows the consumption of a transaction. -/
theorem consumeLoginStep_satisfies
    {label : String}
    {stage : LoginTransactionStage}
    {next : FabricLoginFlow → FabricMfaSessionServices → String → String →
      LoginTransactionRecord → Action Response}
    (headers : HeaderMap)
    (stage_eq : request.consumedStage = some stage)
    (followed : ∀ flow services binding correlationId record consume uuid,
      state.loginFlow = some flow →
      (next flow services binding correlationId record).Satisfies answers
        (LoginGuarantee state request) (LoginEnsures request)
        [⟨.newUuid, uuid⟩,
          ⟨.store (.consumeLoginTransaction consume), .ok record⟩]) :
    (consumeLoginStep environment state headers label stage next).Satisfies
      answers (LoginGuarantee state request) (LoginEnsures request) [] := by
  have none_consumed : Confirming request [] :=
    fun _ record consumed => absurd consumed (not_consumed_nil record)
  have ensured (response : Response) : LoginEnsures request [] response :=
    fun _ record consumed => absurd consumed (not_consumed_nil record)
  unfold consumeLoginStep
  split
  case h_2 => exact ensured _
  rename_i flow services installed
  split
  case h_2 => exact ensured _
  split
  case h_2 => exact ensured _
  split
  · exact ensured _
  refine ⟨.of_aside none_consumed rfl, fun uuid _ => ⟨⟨?_, stage_eq, ?_⟩,
    fun reply _ => ?_⟩⟩
  · exact none_consumed.append_aside rfl
  · intro event mem
    cases List.mem_singleton.mp mem
    rfl
  cases reply with
  | error error =>
      rintro - record ⟨consume, mem⟩
      simp at mem
  | ok record =>
      exact followed flow services _ _ record _ uuid (Prod.mk.inj installed).1

/-- An enrollment creates one pending factor. -/
theorem beginEnrollment_yields
    (service : TotpEnrollmentService)
    (tenant : TenantId)
    (account : AccountId)
    (correlationId : String)
    (begins : request.beginsEnrollment = true)
    (other : request.confirmsEnrollment = false)
    (consumed : ∃ record, Consumed history record)
    (first : ∀ event ∈ history, isFactorCreation event.call = false) :
    Program.Yields answers (LoginGuarantee state request) (fun _ _ => True)
      (service.begin environment tenant account correlationId) history := by
  have aside (later : History) {operation : Operation}
      (aside : Aside operation) :
      LoginGuarantee state request later operation :=
    .of_aside (.of_other other) aside
  unfold TotpEnrollmentService.begin
  refine yields_ask_bind (aside _ rfl) fun address _ => ?_
  cases address with
  | none => exact yields_throw
  | some address =>
      refine yields_perform_bind (aside _ rfl) fun _ _ =>
        yields_rethrow_bind fun activeKey _ =>
          yields_perform_bind (aside _ rfl) fun factor _ =>
            yields_perform_bind (aside _ rfl) fun seed _ =>
              yields_perform_bind (aside _ rfl) fun nonce _ => ?_
      split
      · exact yields_throw
      refine yields_ask_bind ⟨.of_other other, begins, ?_, ?_⟩ fun _ _ =>
        yields_pure.mpr trivial
      · obtain ⟨record, consume, mem⟩ := consumed
        exact ⟨record, consume, by simp [mem]⟩
      · intro event mem
        simp only [List.append_assoc, List.mem_append, List.mem_singleton] at mem
        rcases mem with mem | rfl | rfl | rfl | rfl | rfl
        · exact first event mem
        all_goals rfl

theorem beginTotpEnrollmentConfirmation_yields
    {flow : FabricLoginFlow}
    {now : OffsetDateTime}
    (tenant : TenantId)
    (account : AccountId)
    (factor : Uuid)
    (bindingToken correlationId : String)
    (installed : state.loginFlow = some flow)
    (read : ⟨.now, now⟩ ∈ history)
    (begins : request.beginsEnrollment = true)
    (other : request.confirmsEnrollment = false) :
    Program.Yields answers (LoginGuarantee state request) (fun _ _ => True)
      (flow.beginTotpEnrollmentConfirmation environment tenant account factor
        bindingToken correlationId now) history := by
  refine yields_adapt (yields_issueToken_bind (.of_aside (.of_other other) rfl)
    fun bytes issued => yields_deadline_bind fun expiresAt expires =>
      yields_ask_bind ⟨.of_other other, ?_⟩ fun _ _ => yields_pure.mpr trivial)
  exact ⟨⟨flow, now, installed, List.mem_append_left _ read, expires⟩,
    .inr ⟨Option.some_ne_none _, rfl, begins⟩⟩

theorem beginTotpEnrollment_satisfies (headers : HeaderMap) :
    (beginTotpEnrollment environment state headers).Satisfies answers
      (LoginGuarantee state (.beginTotpEnrollment headers))
      (LoginEnsures (.beginTotpEnrollment headers)) [] := by
  have ensured (later : History) (response : Response) :
      LoginEnsures (.beginTotpEnrollment headers) later response := nofun
  refine consumeLoginStep_satisfies headers rfl
    fun flow services binding correlationId record consume uuid installed => ?_
  refine (beginEnrollment_yields services.totpEnrollment _ _ correlationId rfl
    rfl ⟨record, consume, by simp⟩ ?_).run_bind
      (fun later _ => ensured later _) fun later enrollment _ => ?_
  · intro event mem
    rcases List.mem_cons.mp mem with rfl | mem
    · rfl
    · cases List.mem_singleton.mp mem
      rfl
  refine ⟨.of_aside (.of_other rfl) rfl, fun now _ => ?_⟩
  refine (beginTotpEnrollmentConfirmation_yields _ _ _ binding correlationId
    installed List.mem_concat_self rfl rfl).run_bind
      (fun later _ => ensured later _) fun later confirmation _ => ?_
  refine satisfies_of_performs ?_ (.of_other rfl)
  refine issueBrowserCsrfToken_bind_performs fun _ => ?_
  split <;> trivial

theorem confirmTotpEnrollment_satisfies
    (headers : HeaderMap)
    (body : TotpLoginRequest) :
    (confirmTotpEnrollment environment state headers body).Satisfies answers
      (LoginGuarantee state (.confirmTotpEnrollment headers body))
      (LoginEnsures (.confirmTotpEnrollment headers body)) [] := by
  refine consumeLoginStep_satisfies headers rfl
    fun flow services binding correlationId record consume uuid installed => ?_
  split
  case h_2 => exact fun _ _ _ _ => rfl
  rename_i factor bound
  refine satisfies_of_performs ?_ ?_
  · refine call_bind_performs rfl fun now =>
      (confirm_performs _ _ _ _ _ _).bind fun outcome => ?_
    split
    · trivial
    · trivial
    · exact issueBrowserSession_performs _ _ _
  · rintro - other ⟨again, mem⟩
    simp only [List.mem_cons, List.not_mem_nil, or_false] at mem
    rcases mem with impossible | same
    · cases impossible
    · cases same
      rw [bound]
      exact Option.some_ne_none factor

theorem completeTotpLogin_satisfies
    (headers : HeaderMap)
    (body : TotpLoginRequest) :
    (completeTotpLogin environment state headers body).Satisfies answers
      (LoginGuarantee state (.completeTotpLogin headers body))
      (LoginEnsures (.completeTotpLogin headers body)) [] := by
  refine consumeLoginStep_satisfies headers rfl
    fun flow services binding correlationId record consume uuid installed => ?_
  refine satisfies_of_performs ?_ (.of_other rfl)
  refine call_bind_performs rfl fun now =>
    (complete_performs _ _ _ _).bind fun outcome => ?_
  split
  · trivial
  · trivial
  · exact issueBrowserSession_performs _ _ _

theorem completePasswordOnlyLogin_satisfies (headers : HeaderMap) :
    (completePasswordOnlyLogin environment state headers).Satisfies answers
      (LoginGuarantee state (.completePasswordOnlyLogin headers))
      (LoginEnsures (.completePasswordOnlyLogin headers)) [] := by
  refine consumeLoginStep_satisfies headers rfl
    fun flow services binding correlationId record consume uuid installed => ?_
  refine satisfies_of_performs ?_ (.of_other rfl)
  refine call_bind_performs rfl fun context => ?_
  split
  · trivial
  · trivial
  · exact issueBrowserSession_performs _ _ _

/-! ## All requests -/

/-- Operational calls are no steps of a login. -/
theorem aside_of_operational
    {call : Call}
    (operational : isOperational call = true) :
    Aside (.store call) := by
  cases call <;> first | rfl | cases operational

/-- Every request keeps the guarantee. -/
theorem Request.handler_satisfies
    (environment : Environment)
    (state : FabricHttpState)
    (request : Request) :
    (request.handler environment state).Satisfies answers
      (LoginGuarantee state request) (LoginEnsures request) [] := by
  have none_consumed : Confirming request [] :=
    fun _ record consumed => absurd consumed (not_consumed_nil record)
  cases request with
  | startPasswordLogin body => exact startPasswordLogin_satisfies body
  | beginTotpEnrollment headers => exact beginTotpEnrollment_satisfies headers
  | confirmTotpEnrollment headers body =>
      exact confirmTotpEnrollment_satisfies headers body
  | completeTotpLogin headers body =>
      exact completeTotpLogin_satisfies headers body
  | completePasswordOnlyLogin headers =>
      exact completePasswordOnlyLogin_satisfies headers
  | beginPasskeyLogin body =>
      exact satisfies_of_performs (beginPasskeyLogin_performs state body)
        none_consumed
  | finishPasskeyLogin headers body =>
      exact satisfies_of_performs
        (finishPasskeyLogin_performs state headers body) none_consumed
  | beginPasskeyRegistration headers body =>
      exact satisfies_of_performs
        (beginPasskeyRegistration_performs state headers body) none_consumed
  | finishPasskeyRegistration headers body =>
      exact satisfies_of_performs
        (finishPasskeyRegistration_performs state headers body) none_consumed
  | refreshSession headers =>
      exact satisfies_of_performs (refreshSession_performs state headers)
        none_consumed
  | inviteAccount headers body =>
      exact satisfies_of_performs (inviteAccount_performs state headers body)
        none_consumed
  | beginRoleChangeStepUp headers accountId body =>
      exact satisfies_of_performs
        (beginRoleChangeStepUp_performs state headers accountId body)
        none_consumed
  | changeAccountRole headers accountId body =>
      exact satisfies_of_performs
        (changeAccountRole_performs state headers accountId body) none_consumed
  | operator call operational =>
      exact satisfies_of_performs
        (call_bind_performs (aside_of_operational operational)
          fun _ => trivial) none_consumed

end Steps

end Transport
end Fabric
end Fcp
