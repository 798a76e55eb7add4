import Fcp.Fabric.Transport.Guarantee

/-!
# The services keep the guarantee

One statement for each service function: the operations it performs are
justified, and its result says what its operations have established.
-/

namespace Fcp
namespace Fabric
namespace Transport

open Rust
open Reactive
open Service
open Program (yields_pure yields_throw)

variable {environment : Environment} {request : Request} {history : History}

/-! ## Replies of the store -/

/-- The effect behind a successful reply. -/
theorem exists_effect
    {call : Call}
    {result : call.Result}
    (answered : Answered environment (.store call) (.ok result)) :
    ∃ store later,
      Store.Effect environment.unicode store call result later := by
  obtain ⟨store, later, step⟩ := answered
  cases step with
  | stored taken => exact ⟨store, later, taken.effect⟩
  | elsewhere answers => exact answers.elim

/-- The verdict of a password verification. -/
theorem verdict_of_answered
    {password : String}
    {verifier : PasswordVerifierString}
    {maximum : Nat}
    {verdict : Bool}
    (answered : Answered environment (.verifyPassword password verifier maximum)
      verdict) :
    verdict = environment.verifyPassword password verifier maximum := by
  obtain ⟨store, later, step⟩ := answered
  cases step with
  | elsewhere answers => exact answers

/-- A consumed transaction was of the expected stage. -/
theorem stage_of_consumed
    {consume : ConsumeLoginTransaction}
    {record : LoginTransactionRecord}
    (answered : Answered environment (.store (.consumeLoginTransaction consume))
      (.ok record)) :
    record.stage = consume.expectedStage := by
  obtain ⟨store, later, effect⟩ := exists_effect answered
  cases effect
  rfl

/-- An authorization context is of the account that was asked for. -/
theorem context_of_answered
    {tenant : TenantId}
    {account : AccountId}
    {context : AuthorizationContext}
    (answered : Answered environment
      (.store (.sessionAuthorizationContext tenant account))
      (.ok (some context))) :
    context.tenantId = tenant ∧ context.accountId = account := by
  obtain ⟨store, later, effect⟩ := exists_effect answered
  generalize result_eq : some context = result at effect
  cases effect
  have found := result_eq.symm
  simp only [Store.sessionAuthorizationContext, Option.bind_eq_bind,
    Option.bind_eq_some_iff] at found
  obtain ⟨row, -, _, -, returned⟩ := found
  cases returned
  exact ⟨rfl, rfl⟩

/-- A pending factor has the identifier that was asked for. -/
theorem factor_of_answered
    {tenant : TenantId}
    {account : AccountId}
    {factorId : Uuid}
    {factor : PersistedTotpFactor}
    (answered : Answered environment
      (.store (.pendingTotpFactor tenant account factorId))
      (.ok (some factor))) :
    factor.factorId = factorId := by
  obtain ⟨store, later, effect⟩ := exists_effect answered
  cases effect with
  | pendingFactorFound found =>
      unfold Store.pendingTotpFactor at found
      cases row_eq : store.mfaTotpFactors.find? _ with
      | none =>
          rw [row_eq] at found
          cases found
      | some row =>
          rw [row_eq, Option.mapM_some] at found
          obtain ⟨read, parsed, same⟩ := map_eq_ok_iff.mp found
          cases same
          obtain ⟨-, selected⟩ := Sql.Table.find?_eq_some row_eq
          obtain ⟨row_id, -⟩ := of_decide_eq_true selected
          rw [PersistedTotpFactor.factorId_of_tryFromRow parsed, row_id]

/-! ## Login -/

/-- What the outcome of a password check relies on. -/
def Supports (history : History) : PasswordLoginOutcome → Prop
  | .totpChallenge tenant account => PasswordVerified history tenant account
  | .authenticated context =>
      ⟨.store (.hasActiveTotpFactor context.tenantId context.accountId),
        .ok false⟩ ∈ history
  | _ => True

theorem Supports.mono
    {later : History}
    {outcome : PasswordLoginOutcome}
    (supports : Supports history outcome)
    (kept : ∀ event ∈ history, event ∈ later) :
    Supports later outcome := by
  cases outcome with
  | totpChallenge tenant account =>
      obtain ⟨address, login, read, tenant_eq, account_eq, verification⟩ :=
        supports
      obtain ⟨password, verifier, maximum, verified⟩ := verification
      exact ⟨address, login, kept _ read, tenant_eq, account_eq, password,
        verifier, maximum, kept _ verified⟩
  | authenticated context => exact kept _ supports
  | _ => trivial

/-- A login account gets past the password check: the verifier in use accepts the
password, and the account is active or waits for its enrollment. -/
def Passes
    (environment : Environment)
    (service : PasswordLoginService)
    (password : String)
    (login : LoginAccount) : Prop :=
  environment.verifyPassword password
      (login.verifier.getD service.dummyVerifier)
      service.maximumPasswordBytes = true ∧
    (login.state = .mfaEnrollmentRequired ∨ login.state = .active)

/-- A password check denies exactly the accounts that do not pass, unless it has
found an active account without a factor. -/
def Decides
    (environment : Environment)
    (service : PasswordLoginService)
    (address : UserAddress)
    (password : String)
    (history : History)
    (outcome : PasswordLoginOutcome) : Prop :=
  ∃ found, ⟨.store (.loginAccount address), .ok found⟩ ∈ history ∧
    ((outcome ≠ .denied ↔
        ∃ login, found = some login ∧
          Passes environment service password login) ∨
      ∃ login, found = some login ∧ login.state = .active ∧
        ⟨.store (.hasActiveTotpFactor login.tenantId login.accountId),
          .ok false⟩ ∈ history)

section Deciding

variable {service : PasswordLoginService}
variable {address : UserAddress}
variable {password : String}
variable {outcome : PasswordLoginOutcome}
variable {login : LoginAccount}

theorem Decides.deny
    (login : LoginAccount)
    (read : ⟨.store (.loginAccount address), .ok (some login)⟩ ∈ history)
    (fails : ¬Passes environment service password login) :
    Decides environment service address password history .denied := by
  refine ⟨some login, read, .inl ⟨fun differs => absurd rfl differs, ?_⟩⟩
  rintro ⟨_, ⟨⟩, passes⟩
  exact absurd passes fails

theorem Decides.open
    (read : ⟨.store (.loginAccount address), .ok (some login)⟩ ∈ history)
    (passes : Passes environment service password login)
    (opened : outcome ≠ .denied) :
    Decides environment service address password history outcome :=
  ⟨some login, read, .inl ⟨fun _ => ⟨login, rfl, passes⟩, fun _ => opened⟩⟩

end Deciding

theorem authenticate_keeps
    (service : PasswordLoginService)
    (address : UserAddress)
    (password : String) :
    Keeps environment request
      (fun later outcome => Continues [] history later ∧
        Supports later outcome ∧
          Decides environment service address password later outcome)
      (service.authenticate address password) history := by
  unfold PasswordLoginService.authenticate
  refine keeps_ask_bind ⟨nofun, trivial⟩ fun login _ => ?_
  cases login with
  | none =>
      refine keeps_perform_bind ⟨nofun, trivial⟩ fun _ _ => ?_
      exact yields_pure.mpr ⟨by simp [Singular.of], trivial, none, by simp,
        by simp⟩
  | some login =>
      refine keeps_perform_bind ⟨nofun, trivial⟩ fun verified answered => ?_
      have verified_eq := verdict_of_answered answered
      split
      · rename_i refused
        refine yields_pure.mpr ⟨by simp [Singular.of], trivial,
          .deny login (by simp) fun passes => ?_⟩
        rw [Passes, ← verified_eq, refused] at passes
        exact absurd passes.1 Bool.false_ne_true
      rename_i accepted
      rw [Bool.not_eq_false] at accepted
      rw [accepted] at verified_eq
      split
      · rename_i forbidden
        split
        · rename_i awaits
          exact yields_pure.mpr ⟨by simp [Singular.of], trivial,
            .open (by simp) ⟨verified_eq.symm, .inl awaits⟩ nofun⟩
        · rename_i other
          refine yields_pure.mpr ⟨by simp [Singular.of], trivial,
            .deny login (by simp) fun passes => ?_⟩
          rcases passes.2 with awaits | active
          · exact other awaits
          · rw [active] at forbidden
            cases forbidden
      rename_i permitted
      rw [Bool.not_eq_false] at permitted
      have active := AccountState.permitsSession_eq_true_iff.mp permitted
      have passes : Passes environment service password login :=
        ⟨verified_eq.symm, .inr active⟩
      refine keeps_ask_bind ⟨nofun, trivial⟩ fun roles _ => ?_
      refine keeps_ask_bind ⟨nofun, ?_⟩ fun hasTotp _ => ?_
      · exact ⟨address, login, by simp, rfl, rfl, active⟩
      split
      · split
        · rename_i absent
          subst absent
          exact yields_pure.mpr ⟨by simp [Singular.of], trivial, some login,
            by simp, .inr ⟨login, rfl, active, by simp⟩⟩
        · refine yields_pure.mpr ⟨by simp [Singular.of], ?_,
            .open (by simp) passes nofun⟩
          subst accepted
          exact ⟨address, login, by simp, rfl, rfl, password,
            login.verifier.getD service.dummyVerifier,
            service.maximumPasswordBytes, by simp⟩
      · rename_i unprotected
        have absent : hasTotp = false :=
          Bool.eq_false_iff.mpr fun held => unprotected (.inr held)
        subst absent
        exact yields_pure.mpr ⟨by simp [Singular.of], by simp [Supports],
          .open (by simp) passes nofun⟩

theorem begin_keeps
    {outcome : PasswordLoginOutcome}
    (service : LoginTransactionService)
    (bindingDigest : Vector UInt8 32)
    (correlationId : String)
    (now : OffsetDateTime)
    (unused : Unused .transaction history)
    (supports : Supports history outcome) :
    Keeps environment request (fun _ _ => True)
      (service.begin environment outcome bindingDigest correlationId now)
      history := by
  unfold LoginTransactionService.begin
  cases outcome with
  | denied => exact yields_pure.mpr trivial
  | _ =>
      refine keeps_issueToken_bind fun bytes issued =>
        keeps_deadline_bind fun expiresAt =>
          keeps_ask_bind ⟨?_, ?_⟩ fun _ _ => yields_pure.mpr trivial
      · rintro _ ⟨⟩
        simpa [Unused, Singular.of] using unused
      · first
        | trivial
        | exact supports.mono fun _ => List.mem_append_left _

theorem startPasswordLogin_keeps
    (flow : FabricLoginFlow)
    (address : UserAddress)
    (password correlationId : String)
    (now : OffsetDateTime)
    (unused : Unused .transaction history) :
    Keeps environment request (fun _ _ => True)
      (flow.startPasswordLogin environment address password correlationId now)
      history := by
  unfold FabricLoginFlow.startPasswordLogin
  refine (keeps_adapt (authenticate_keeps flow.passwordService address
    password)).bind fun later outcome ⟨continues, supports, _⟩ => ?_
  split
  · exact yields_pure.mpr trivial
  refine keeps_issueToken_bind fun bytes binding => ?_
  refine (keeps_adapt (begin_keeps flow.transactionService _ correlationId now
    ?_ (supports.mono fun _ => List.mem_append_left _))).bind
      fun _ started _ => ?_
  · have still := continues.unused _ (by simp) unused
    simpa [Unused, Singular.of] using still
  · cases started <;> exact yields_pure.mpr trivial

theorem beginTotpEnrollmentConfirmation_keeps
    (flow : FabricLoginFlow)
    (tenant : TenantId)
    (account : AccountId)
    (factor : Uuid)
    (bindingToken correlationId : String)
    (now : OffsetDateTime)
    (unused : Unused .transaction history) :
    Keeps environment request (fun _ _ => True)
      (flow.beginTotpEnrollmentConfirmation environment tenant account factor
        bindingToken correlationId now) history := by
  refine keeps_adapt (keeps_issueToken_bind fun bytes issued =>
    keeps_deadline_bind fun expiresAt =>
      keeps_ask_bind ⟨?_, trivial⟩ fun _ _ => yields_pure.mpr trivial)
  rintro _ ⟨⟩
  simpa [Unused, Singular.of] using unused

theorem consumeNextStep_keeps
    (flow : FabricLoginFlow)
    (transactionToken bindingToken : String)
    (stage : LoginTransactionStage)
    (correlationId : String) :
    Keeps environment request
      (fun later record => Continues [] history later ∧ record.stage = stage ∧
        ConsumedTransaction later record.tenantId record.accountId record)
      (flow.consumeNextStep environment transactionToken bindingToken stage
        correlationId) history := by
  refine keeps_adapt (keeps_ask ⟨nofun, trivial⟩ fun record answered => ?_)
  exact ⟨by simp [Singular.of], stage_of_consumed answered, rfl, rfl, _,
    List.mem_concat_self⟩

/-! ## Codes -/

theorem complete_keeps
    {tenant : TenantId}
    {account : AccountId}
    (code : String)
    (now : OffsetDateTime)
    (unchecked : Unused .codeCheck history)
    (challenged : request.completesLogin = true → ∃ record,
      ConsumedTransaction history tenant account record ∧
        record.stage = .mfaChallenge) :
    Keeps environment request
      (fun later outcome => Continues [.codeCheck] history later ∧
        ∀ context, outcome = .authenticated context →
          context.tenantId = tenant ∧ context.accountId = account ∧
            ∃ step, RecordedStep later tenant account step)
      (TotpLoginService.complete tenant account code now) history := by
  unfold TotpLoginService.complete
  refine keeps_ask_bind ⟨nofun, trivial⟩ fun factor _ => ?_
  cases factor with
  | none => exact yields_pure.mpr ⟨by simp [Singular.of], nofun⟩
  | some factor =>
      refine keeps_perform_bind ⟨nofun, trivial⟩ fun resolved _ =>
        keeps_rethrow_bind fun key _ =>
          keeps_perform_bind ⟨?_, fun completes => ?_⟩ fun checked _ => ?_
      · rintro _ ⟨⟩
        simpa [Unused, Singular.of] using unchecked
      · obtain ⟨record, ⟨tenant_eq, account_eq, consume, consumed⟩, stage⟩ :=
          challenged completes
        exact ⟨record, ⟨tenant_eq, account_eq, consume, by simp [consumed]⟩,
          stage⟩
      split
      · exact yields_pure.mpr ⟨by simp [Singular.of], nofun⟩
      · exact yields_pure.mpr ⟨by simp [Singular.of], nofun⟩
      · exact yields_throw
      refine keeps_perform_bind ⟨nofun, ?_⟩ fun consumed _ => ?_
      · exact ⟨_, List.mem_concat_self, rfl⟩
      split
      · exact yields_pure.mpr ⟨by simp [Singular.of], nofun⟩
      · exact yields_throw
      refine keeps_ask_bind ⟨nofun, trivial⟩ fun context answered => ?_
      cases context with
      | none => exact yields_pure.mpr ⟨by simp [Singular.of], nofun⟩
      | some context =>
          refine yields_pure.mpr ⟨by simp [Singular.of], ?_⟩
          rintro _ ⟨⟩
          obtain ⟨tenant_eq, account_eq⟩ := context_of_answered answered
          exact ⟨tenant_eq, account_eq, _,
            List.mem_append_left _ List.mem_concat_self, rfl, rfl⟩

/-- Confirmation activates the factor that it was asked to confirm. -/
theorem confirm_keeps
    {tenant : TenantId}
    {account : AccountId}
    {factorId : Uuid}
    (code correlationId : String)
    (now : OffsetDateTime)
    (unchecked : Unused .codeCheck history)
    (confirms : request.completesLogin = false) :
    Keeps environment request
      (fun later outcome => Continues [.codeCheck] history later ∧
        ∀ context, outcome = .authenticated context →
          context.tenantId = tenant ∧ context.accountId = account ∧
            ∃ activation : ActivateTotpFactor,
              ⟨.store (.activateTotpFactor activation), .ok ()⟩ ∈ later ∧
              activation.factorId = factorId ∧
              activation.tenantId = tenant ∧ activation.accountId = account)
      (TotpEnrollmentService.confirm tenant account factorId code correlationId
        now) history := by
  unfold TotpEnrollmentService.confirm
  refine keeps_ask_bind ⟨nofun, trivial⟩ fun factor found => ?_
  cases factor with
  | none => exact yields_pure.mpr ⟨by simp [Singular.of], nofun⟩
  | some factor =>
      refine keeps_perform_bind ⟨nofun, trivial⟩ fun resolved _ =>
        keeps_rethrow_bind fun key _ =>
          keeps_perform_bind ⟨?_, fun completes => ?_⟩ fun checked _ => ?_
      · rintro _ ⟨⟩
        simpa [Unused, Singular.of] using unchecked
      · exact absurd completes (by simp [confirms])
      split
      · exact yields_pure.mpr ⟨by simp [Singular.of], nofun⟩
      · exact yields_pure.mpr ⟨by simp [Singular.of], nofun⟩
      · exact yields_throw
      refine keeps_perform_bind ⟨nofun, ?_⟩ fun activated _ => ?_
      · exact ⟨_, List.mem_concat_self, rfl⟩
      split
      · exact yields_pure.mpr ⟨by simp [Singular.of], nofun⟩
      · exact yields_throw
      refine keeps_ask_bind ⟨nofun, trivial⟩ fun context answered => ?_
      cases context with
      | none => exact yields_pure.mpr ⟨by simp [Singular.of], nofun⟩
      | some context =>
          refine yields_pure.mpr ⟨by simp [Singular.of], ?_⟩
          rintro _ ⟨⟩
          obtain ⟨tenant_eq, account_eq⟩ := context_of_answered answered
          exact ⟨tenant_eq, account_eq, _,
            List.mem_append_left _ List.mem_concat_self,
            factor_of_answered found, rfl, rfl⟩

theorem beginEnrollment_keeps
    (service : TotpEnrollmentService)
    (tenant : TenantId)
    (account : AccountId)
    (correlationId : String) :
    Keeps environment request (fun later _ => Continues [] history later)
      (service.begin environment tenant account correlationId) history := by
  unfold TotpEnrollmentService.begin
  refine keeps_ask_bind ⟨nofun, trivial⟩ fun address _ => ?_
  cases address with
  | none => exact yields_throw
  | some address =>
      refine keeps_perform_bind ⟨nofun, trivial⟩ fun active _ =>
        keeps_rethrow_bind fun key _ =>
          keeps_perform_bind ⟨nofun, trivial⟩ fun factorId _ =>
            keeps_perform_bind ⟨nofun, trivial⟩ fun seed _ =>
              keeps_perform_bind ⟨nofun, trivial⟩ fun nonce _ => ?_
      split
      · exact yields_throw
      refine keeps_ask_bind ⟨nofun, trivial⟩ fun _ _ => ?_
      exact yields_pure.mpr (by simp [Singular.of])

/-! ## Sessions -/

theorem issue_keeps
    {context : AuthorizationContext}
    (issuer : SessionIssuer)
    (correlationId : String)
    (now : OffsetDateTime)
    (unused : Unused .session history)
    (entitled : Entitled history context.tenantId context.accountId
      environment) :
    Keeps environment request (fun _ _ => True)
      (issuer.issue environment context correlationId now) history := by
  refine keeps_issueToken_bind fun _ issued =>
    keeps_issueToken_bind fun _ access =>
      keeps_deadline_bind fun expiresAt =>
        keeps_deadline_bind fun accessExpiresAt =>
          keeps_ask_bind ⟨?_, ?_⟩ fun _ _ => yields_pure.mpr trivial
  · rintro _ ⟨⟩
    simpa [Unused, Singular.of] using unused
  · exact entitled.mono (by simp +contextual)

theorem rotate_keeps
    (rotator : SessionRotator)
    (presentedToken correlationId : String)
    (now : OffsetDateTime) :
    Keeps environment request (fun _ _ => True)
      (rotator.rotate environment presentedToken correlationId now)
      history := by
  refine keeps_issueToken_bind fun _ successor =>
    keeps_issueToken_bind fun _ access =>
      keeps_deadline_bind fun expiresAt =>
        keeps_deadline_bind fun accessExpiresAt =>
          keeps_ask_bind ⟨nofun, trivial⟩ fun rotated _ => ?_
  cases rotated <;> exact yields_pure.mpr trivial

theorem authenticateSession_keeps
    (authenticator : AccessSessionAuthenticator)
    (rawAccessToken : String) :
    Keeps environment request
      (fun later authenticated => Continues [] history later ∧
        ∀ session, authenticated = some session →
          AuthenticatedBy later ⟨session.context, session.familyId⟩)
      (authenticator.authenticate environment rawAccessToken) history := by
  refine keeps_ask_bind ⟨nofun, trivial⟩ fun authorization _ => ?_
  refine yields_pure.mpr ⟨by simp [Singular.of], fun session found => ?_⟩
  obtain ⟨authorization, rfl, rfl⟩ := Option.map_eq_some_iff.mp found
  exact ⟨_, List.mem_concat_self⟩

/-! ## Step-up -/

/-- A grant for the role change that the request names, after a code of the
account that the request was authenticated by. -/
theorem issueRoleChange_keeps
    {issue : IssueRoleChangeStepUp}
    (authorization : AccessSessionAuthorization)
    (service : StepUpService)
    (unchecked : Unused .codeCheck history)
    (ungranted : Unused .grant history)
    (not_login : request.completesLogin = false)
    (authenticated : AuthenticatedBy history authorization)
    (tenant_eq : issue.tenantId = authorization.context.tenantId)
    (account_eq : issue.accountId = authorization.context.accountId)
    (family_eq : issue.familyId = authorization.familyId)
    (target_eq : request.target environment = some issue.target) :
    Keeps environment request (fun _ _ => True)
      (service.issueRoleChange environment issue) history := by
  unfold StepUpService.issueRoleChange
  refine (keeps_adapt (complete_keeps issue.code issue.now unchecked
    fun completes => absurd completes (by simp [not_login]))).bind
      fun later outcome ⟨continues, completed⟩ => ?_
  cases outcome with
  | denied => exact yields_pure.mpr trivial
  | authenticated context =>
      obtain ⟨-, -, step, recorded, step_tenant, step_account⟩ :=
        completed context rfl
      dsimp only
      split
      · exact yields_pure.mpr trivial
      refine keeps_issueToken_bind fun bytes issued =>
        keeps_deadline_bind fun expiresAt =>
          keeps_ask_bind ⟨?_, ?_, ?_, ?_⟩ fun _ _ => yields_pure.mpr trivial
      · rintro _ ⟨⟩
        have still := continues.unused _ (by simp) ungranted
        simpa [Unused, Singular.of] using still
      · obtain ⟨digest, read⟩ := authenticated
        exact ⟨authorization, ⟨digest, List.mem_append_left _
          (continues.kept _ read)⟩, tenant_eq, account_eq, family_eq⟩
      · exact ⟨step, List.mem_append_left _ recorded, step_tenant,
          step_account⟩
      · exact ⟨issue.target, target_eq, rfl⟩

theorem consumeRoleChange_keeps
    (service : StepUpService)
    (tenant : TenantId)
    (account : AccountId)
    (family : Uuid)
    (target : RoleChangeTarget)
    (rawToken correlationId : String) :
    Keeps environment request
      (fun later consumed => Continues [] history later ∧
        (consumed = true → ∃ grant : ConsumeStepUpGrant,
          ⟨.store (.consumeStepUpGrant grant), .ok true⟩ ∈ later ∧
          grant.tenantId = tenant ∧ grant.accountId = account ∧
          grant.familyId = family ∧ grant.targetDigest =
            roleChangeTargetDigest environment.primitives target))
      (service.consumeRoleChange environment tenant account family target
        rawToken correlationId) history := by
  refine keeps_ask ⟨nofun, trivial⟩ fun consumed _ => ?_
  refine ⟨by simp [Singular.of], ?_⟩
  rintro rfl
  exact ⟨_, List.mem_concat_self, rfl, rfl, rfl, rfl⟩

/-! ## Passkeys -/

theorem persistCeremony_keeps
    (service : WebauthnService)
    (tenant : TenantId)
    (account : AccountId)
    (kind : WebauthnCeremonyKind)
    (state : Json)
    (correlationId : String)
    (now : OffsetDateTime) :
    Keeps environment request (fun _ _ => True)
      (service.persistCeremony environment tenant account kind state
        correlationId now) history :=
  keeps_issueToken_bind fun _ _ => keeps_issueToken_bind fun _ _ =>
    keeps_deadline_bind fun _ => keeps_ask_bind ⟨nofun, trivial⟩ fun _ _ =>
      yields_pure.mpr trivial

theorem deserializeActivePasskeys_keeps
    (tenant : TenantId)
    (account : AccountId) :
    Keeps environment request (fun later _ => Continues [] history later)
      (WebauthnService.deserializeActivePasskeys environment tenant account)
      history := by
  refine keeps_ask_bind ⟨nofun, trivial⟩ fun records _ => ?_
  exact fun _ _ => by simp [Singular.of]

theorem beginRegistration_keeps
    (service : WebauthnService)
    (tenant : TenantId)
    (account : AccountId)
    (label : Option String)
    (correlationId : String)
    (now : OffsetDateTime) :
    Keeps environment request (fun _ _ => True)
      (service.beginRegistration environment tenant account label correlationId
        now) history := by
  unfold WebauthnService.beginRegistration
  refine keeps_ask_bind ⟨nofun, trivial⟩ fun address _ => ?_
  cases address with
  | none => exact yields_pure.mpr trivial
  | some address =>
      dsimp only
      split
      · exact yields_pure.mpr trivial
      refine (deserializeActivePasskeys_keeps tenant account).bind
        fun _ existing _ => keeps_perform_bind ⟨nofun, trivial⟩ fun _ _ =>
          keeps_rethrow_bind fun started _ => keeps_rethrow_bind fun _ _ =>
            (persistCeremony_keeps service tenant account _ _ correlationId
              now).bind fun _ _ _ => yields_pure.mpr trivial

theorem finishRegistration_keeps
    (service : WebauthnService)
    (expectedTenant : TenantId)
    (expectedAccount : AccountId)
    (token binding : String)
    (response : RegisterPublicKeyCredential)
    (correlationId : String) :
    Keeps environment request (fun _ _ => True)
      (service.finishRegistration environment expectedTenant expectedAccount
        token binding response correlationId) history := by
  unfold WebauthnService.finishRegistration
  refine keeps_ask_bind ⟨nofun, trivial⟩ fun ceremony _ => ?_
  split
  · exact yields_pure.mpr trivial
  exact keeps_rethrow_bind fun _ _ =>
    keeps_perform_bind ⟨nofun, trivial⟩ fun _ _ =>
      keeps_rethrow_bind fun _ _ => keeps_rethrow_bind fun _ _ =>
        keeps_rethrow_bind fun _ _ =>
          keeps_ask_bind ⟨nofun, trivial⟩ fun _ _ => yields_pure.mpr trivial

theorem beginAuthentication_keeps
    (service : WebauthnService)
    (address : UserAddress)
    (correlationId : String)
    (now : OffsetDateTime) :
    Keeps environment request (fun _ _ => True)
      (service.beginAuthentication environment address correlationId now)
      history := by
  unfold WebauthnService.beginAuthentication
  split
  · exact yields_pure.mpr trivial
  refine keeps_ask_bind ⟨nofun, trivial⟩ fun login _ => ?_
  cases login with
  | none => exact yields_pure.mpr trivial
  | some login =>
      dsimp only
      split
      · exact yields_pure.mpr trivial
      refine (deserializeActivePasskeys_keeps login.tenantId
        login.accountId).bind fun _ passkeys _ => ?_
      split
      · exact yields_pure.mpr trivial
      exact keeps_perform_bind ⟨nofun, trivial⟩ fun _ _ =>
        keeps_rethrow_bind fun started _ => keeps_rethrow_bind fun _ _ =>
          (persistCeremony_keeps service _ _ _ _ correlationId now).bind
            fun _ _ _ => yields_pure.mpr trivial

/-- A finished authentication shows a second factor. -/
theorem finishAuthentication_keeps
    (service : WebauthnService)
    (token binding : String)
    (response : PublicKeyCredential)
    (correlationId : String) :
    Keeps environment request
      (fun later outcome => Continues [] history later ∧
        ∀ context, outcome = .authenticated context →
          Entitled later context.tenantId context.accountId environment)
      (service.finishAuthentication environment token binding response
        correlationId) history := by
  unfold WebauthnService.finishAuthentication
  refine keeps_ask_bind ⟨nofun, trivial⟩ fun ceremony _ => ?_
  split
  · exact yields_pure.mpr ⟨by simp [Singular.of], nofun⟩
  rename_i kind
  refine keeps_rethrow_bind fun state restored =>
    keeps_perform_bind ⟨nofun, trivial⟩ fun verified _ =>
      keeps_rethrow_bind fun verification verified_eq =>
        keeps_rethrow_bind fun _ _ => keeps_rethrow_bind fun credentialId _ =>
          (deserializeActivePasskeys_keeps _ _).bind
            fun later passkeys continues => ?_
  subst verified_eq
  have shown : SecondFactor later ceremony.tenantId ceremony.accountId
      environment _ :=
    .passkey
      (continues.kept _ (List.mem_append_left _ List.mem_concat_self))
      (not_not.mp kind) rfl rfl (okOr_eq_ok_iff.mp restored)
      (continues.kept _ List.mem_concat_self)
  rw [List.append_assoc] at continues
  have started : Continues [] history later :=
    (Continues.append (by simp [Singular.of])).trans continues fun _ mem => mem
  split
  case h_2 => exact yields_pure.mpr ⟨started, nofun⟩
  refine keeps_rethrow_bind fun _ _ =>
    keeps_perform_bind ⟨nofun, trivial⟩ fun updated _ => ?_
  split
  · exact yields_pure.mpr ⟨started.trans (by simp [Singular.of]) (by simp),
      nofun⟩
  · exact yields_throw
  refine keeps_ask_bind ⟨nofun, trivial⟩ fun context answered => ?_
  cases context with
  | none => exact yields_throw
  | some context =>
      refine yields_pure.mpr
        ⟨started.trans (by simp [Singular.of]) (by simp), ?_⟩
      rintro _ ⟨⟩
      obtain ⟨tenant_eq, account_eq⟩ := context_of_answered answered
      rw [tenant_eq, account_eq]
      exact .inl ⟨_, shown.mono (by simp +contextual)⟩

end Transport
end Fabric
end Fcp
