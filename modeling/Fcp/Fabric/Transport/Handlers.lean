import Fcp.Fabric.Transport.Services

/-!
# The handlers keep the guarantee

Whatever the other requests do, every operation of a handler is justified by
earlier operations of the same handler.
-/

namespace Fcp
namespace Fabric
namespace Transport

open Rust
open Reactive
open Service

variable {environment : Environment} {request : Request} {history : History}

/-! ## Shared parts -/

theorem newCorrelationId_bind_keeps
    {label : String}
    {next : String → Action α}
    {ensures : History → α → Prop}
    (drawn : ∀ uuid text, HandlerKeeps environment request ensures (next text)
      (history ++ [⟨.newUuid, uuid⟩])) :
    HandlerKeeps environment request ensures (newCorrelationId label >>= next)
      history :=
  keeps_call_bind ⟨nofun, trivial⟩ fun uuid _ => drawn uuid _

theorem issueBrowserCsrfToken_bind_keeps
    {next : String → Action α}
    (drawn : ∀ later text,
      HandlerKeeps environment request (fun _ _ => True) (next text) later) :
    HandlerKeeps environment request (fun _ _ => True)
      (issueBrowserCsrfToken environment.primitives >>= next) history :=
  keeps_call_bind ⟨nofun, trivial⟩ fun _ _ => drawn _ _

theorem browserSessionResponse_keeps (session : IssuedRefreshSession) :
    HandlerKeeps environment request (fun _ _ => True)
      (browserSessionResponse environment session) history := by
  unfold browserSessionResponse
  split
  · refine issueBrowserCsrfToken_bind_keeps fun _ _ => ?_
    split <;> trivial
  · trivial

theorem issueBrowserSession_keeps
    {context : AuthorizationContext}
    (issuer : SessionIssuer)
    (correlationId : String)
    (unused : Unused .session history)
    (entitled : Entitled history context.tenantId context.accountId
      environment) :
    HandlerKeeps environment request (fun _ _ => True)
      (issueBrowserSession environment issuer context correlationId)
      history := by
  refine keeps_call_bind ⟨nofun, trivial⟩ fun now _ => ?_
  refine (issue_keeps issuer correlationId now ?_
    (entitled.mono (by simp +contextual))).run_bind
      (fun _ _ => trivial) fun _ session _ => ?_
  · simpa [Unused, Singular.of] using unused
  · exact (browserSessionResponse_keeps session).bind fun _ _ _ => trivial

/-- What a request has established once it is authenticated. -/
def Authenticated
    (history later : History)
    (result : Except Response AuthenticatedAccessSession) : Prop :=
  ∀ session, result = .ok session → Continues [] history later ∧
    AuthenticatedBy later ⟨session.context, session.familyId⟩

theorem authenticateAccess_keeps
    (services : FabricMfaSessionServices)
    (headers : HeaderMap) :
    HandlerKeeps environment request (Authenticated history)
      (authenticateAccess environment services headers) history := by
  unfold authenticateAccess
  split
  · exact nofun
  split
  case h_2 => exact nofun
  refine (authenticateSession_keeps services.accessAuthenticator _).run_bind
    (fun _ _ => nofun) fun later session ⟨continues, authenticated⟩ => ?_
  cases session with
  | none => exact nofun
  | some session =>
      rintro _ ⟨⟩
      exact ⟨continues, authenticated session rfl⟩

theorem authenticateAdmin_keeps
    (services : FabricMfaSessionServices)
    (headers : HeaderMap)
    (permission : Permission) :
    HandlerKeeps environment request (Authenticated history)
      (authenticateAdmin environment services headers permission) history := by
  refine (authenticateAccess_keeps services headers).bind
    fun later result authenticated => ?_
  cases result with
  | error response => exact nofun
  | ok session =>
      dsimp only
      split
      · exact nofun
      · exact authenticated

/-! ## Login -/

theorem startPasswordLogin_handler_keeps
    (state : FabricHttpState)
    (body : PasswordLoginRequest) :
    HandlerKeeps environment request (fun _ _ => True)
      (startPasswordLogin environment state body) [] := by
  unfold startPasswordLogin
  split
  case h_2 => trivial
  split
  case h_2 => trivial
  refine newCorrelationId_bind_keeps fun _ correlationId =>
    keeps_call_bind ⟨nofun, trivial⟩ fun now _ =>
      (startPasswordLogin_keeps _ _ _ correlationId now
        (by simp [Unused, Singular.of])).run_bind (fun _ _ => trivial)
          fun _ started _ => ?_
  cases started with
  | denied => trivial
  | pending challenge =>
      refine issueBrowserCsrfToken_bind_keeps fun _ _ => ?_
      split <;> trivial

/-- The step that follows the consumption of a transaction. -/
theorem consumeLoginStep_keeps
    {label : String}
    {stage : LoginTransactionStage}
    {next : FabricLoginFlow → FabricMfaSessionServices → String → String →
      LoginTransactionRecord → Action Response}
    (state : FabricHttpState)
    (headers : HeaderMap)
    (followed : ∀ flow services binding correlationId record later,
      (∀ kind, Unused kind later) → record.stage = stage →
      ConsumedTransaction later record.tenantId record.accountId record →
      HandlerKeeps environment request (fun _ _ => True)
        (next flow services binding correlationId record) later) :
    HandlerKeeps environment request (fun _ _ => True)
      (consumeLoginStep environment state headers label stage next) [] := by
  unfold consumeLoginStep
  split
  case h_2 => trivial
  split
  case h_2 => trivial
  split
  case h_2 => trivial
  split
  · trivial
  refine newCorrelationId_bind_keeps fun _ correlationId =>
    (consumeNextStep_keeps _ _ _ stage correlationId).run_bind
      (fun _ _ => trivial) fun later record ⟨continues, at_stage, consumed⟩ => ?_
  refine followed _ _ _ _ record later (fun kind => ?_) at_stage consumed
  exact continues.unused kind (by simp) (by simp [Unused, Singular.of])

theorem beginTotpEnrollment_keeps
    (state : FabricHttpState)
    (headers : HeaderMap) :
    HandlerKeeps environment request (fun _ _ => True)
      (beginTotpEnrollment environment state headers) [] := by
  refine consumeLoginStep_keeps state headers
    fun flow services binding correlationId record later unused _ _ => ?_
  refine (beginEnrollment_keeps services.totpEnrollment _ _
    correlationId).run_bind (fun _ _ => trivial)
      fun _ enrollment continues => keeps_call_bind ⟨nofun, trivial⟩
        fun now _ => ?_
  refine (beginTotpEnrollmentConfirmation_keeps flow _ _ _ binding
    correlationId now ?_).run_bind (fun _ _ => trivial)
      fun _ confirmation _ => issueBrowserCsrfToken_bind_keeps fun _ _ => ?_
  · have still := continues.unused _ (by simp) (unused .transaction)
    simpa [Unused, Singular.of] using still
  · split <;> trivial

theorem confirmTotpEnrollment_keeps
    (state : FabricHttpState)
    (headers : HeaderMap)
    (body : TotpLoginRequest)
    (confirms : request.completesLogin = false) :
    HandlerKeeps environment request (fun _ _ => True)
      (confirmTotpEnrollment environment state headers body) [] := by
  refine consumeLoginStep_keeps state headers
    fun _ services _ correlationId record later unused stage consumed => ?_
  split
  case h_2 => trivial
  rename_i factorId bound
  refine keeps_call_bind ⟨nofun, trivial⟩ fun now _ =>
    (confirm_keeps body.code correlationId now ?_ confirms).run_bind
      (fun _ _ => trivial) fun final outcome ⟨continues, confirmed⟩ => ?_
  · have still := unused .codeCheck
    simpa [Unused, Singular.of] using still
  cases outcome with
  | denied => trivial
  | authenticated context =>
      obtain ⟨tenant_eq, account_eq, activation, activated, factor_eq,
        activation_tenant, activation_account⟩ := confirmed context rfl
      refine issueBrowserSession_keeps services.sessionIssuer correlationId
        (continues.unused _ (by simp) ?_) ?_
      · have still := unused .session
        simpa [Unused, Singular.of] using still
      · rw [tenant_eq, account_eq]
        exact .inl ⟨_, .enrollment
          (consumed.mono fun event mem =>
            continues.kept event (List.mem_append_left _ mem))
          stage (factor_eq ▸ bound) activated activation_tenant
          activation_account⟩

theorem completeTotpLogin_keeps
    (state : FabricHttpState)
    (headers : HeaderMap)
    (body : TotpLoginRequest) :
    HandlerKeeps environment request (fun _ _ => True)
      (completeTotpLogin environment state headers body) [] := by
  refine consumeLoginStep_keeps state headers
    fun _ services _ correlationId record later unused stage consumed => ?_
  refine keeps_call_bind ⟨nofun, trivial⟩ fun now _ =>
    (complete_keeps body.code now ?_ fun _ => ?_).run_bind
      (fun _ _ => trivial) fun final outcome ⟨continues, completed⟩ => ?_
  · have still := unused .codeCheck
    simpa [Unused, Singular.of] using still
  · exact ⟨record, consumed.mono fun _ => List.mem_append_left _, stage⟩
  cases outcome with
  | denied => trivial
  | authenticated context =>
      obtain ⟨tenant_eq, account_eq, step, recorded⟩ := completed context rfl
      refine issueBrowserSession_keeps services.sessionIssuer correlationId
        (continues.unused _ (by simp) ?_) ?_
      · have still := unused .session
        simpa [Unused, Singular.of] using still
      · rw [tenant_eq, account_eq]
        exact .inl ⟨_, .totp
          (consumed.mono fun event mem =>
            continues.kept event (List.mem_append_left _ mem))
          stage recorded⟩

theorem completePasswordOnlyLogin_keeps
    (state : FabricHttpState)
    (headers : HeaderMap) :
    HandlerKeeps environment request (fun _ _ => True)
      (completePasswordOnlyLogin environment state headers) [] := by
  refine consumeLoginStep_keeps state headers
    fun _ services _ correlationId record later unused stage consumed =>
      keeps_call_bind ⟨nofun, trivial⟩ fun reply answered => ?_
  split
  · trivial
  · trivial
  rename_i context
  obtain ⟨tenant_eq, account_eq⟩ := context_of_answered answered
  refine issueBrowserSession_keeps services.sessionIssuer correlationId ?_ ?_
  · have still := unused .session
    simpa [Unused, Singular.of] using still
  · rw [tenant_eq, account_eq]
    exact .inr
      ⟨record, consumed.mono fun _ => List.mem_append_left _, stage⟩

theorem refreshSession_keeps
    (state : FabricHttpState)
    (headers : HeaderMap) :
    HandlerKeeps environment request (fun _ _ => True)
      (refreshSession environment state headers) [] := by
  unfold refreshSession
  split
  case h_2 => trivial
  split
  case h_2 => trivial
  split
  · trivial
  refine newCorrelationId_bind_keeps fun _ correlationId =>
    keeps_call_bind ⟨nofun, trivial⟩ fun now _ =>
      (rotate_keeps _ _ correlationId now).run_bind (fun _ _ => trivial)
        fun _ rotated _ => ?_
  cases rotated with
  | rotated session => exact browserSessionResponse_keeps session
  | reuseDetected => trivial
  | denied => trivial

/-! ## Administration -/

theorem inviteAccount_keeps
    (state : FabricHttpState)
    (headers : HeaderMap)
    (body : InviteAccountRequest) :
    HandlerKeeps environment request (fun _ _ => True)
      (inviteAccount environment state headers body) [] := by
  unfold inviteAccount
  split
  case h_2 => trivial
  refine (authenticateAdmin_keeps _ headers _).bind
    fun later result authenticated => ?_
  cases result with
  | error response => trivial
  | ok session =>
      obtain ⟨-, digest, read⟩ := authenticated session rfl
      dsimp only
      split
      case h_2 => trivial
      refine newCorrelationId_bind_keeps fun _ correlationId =>
        keeps_call_bind ⟨nofun, ?_⟩ fun _ _ => ?_
      · exact ⟨_, ⟨digest, List.mem_append_left _ read⟩, rfl, rfl⟩
      split <;> trivial

theorem beginRoleChangeStepUp_keeps
    (state : FabricHttpState)
    (headers : HeaderMap)
    (accountId : String)
    (body : StepUpRequest) :
    HandlerKeeps environment
      (.beginRoleChangeStepUp headers accountId body) (fun _ _ => True)
      (beginRoleChangeStepUp environment state headers accountId body) [] := by
  unfold beginRoleChangeStepUp
  split
  case h_2 => trivial
  refine (authenticateAdmin_keeps _ headers _).bind
    fun later result authenticated => ?_
  cases result with
  | error response => trivial
  | ok session =>
      obtain ⟨continues, digest, read⟩ := authenticated session rfl
      have unused (kind : Singular) : Unused kind later :=
        continues.unused kind (by simp) (by simp [Unused])
      dsimp only
      split
      case h_2 => trivial
      rename_i target parsed
      refine newCorrelationId_bind_keeps fun _ correlationId =>
        keeps_call_bind ⟨by rintro _ ⟨⟩, trivial⟩ fun now _ =>
          (issueRoleChange_keeps ⟨session.context, session.familyId⟩ _ ?_ ?_
            rfl ⟨digest, ?_⟩ rfl rfl rfl ?_).run_bind (fun _ _ => trivial)
              fun _ outcome _ => ?_
      · simpa [Unused, Singular.of] using unused .codeCheck
      · simpa [Unused, Singular.of] using unused .grant
      · exact List.mem_append_left _ (List.mem_append_left _ read)
      · simp [Request.target, parsed]
      cases outcome with
      | denied => trivial
      | granted grant =>
          dsimp only
          split <;> trivial

theorem changeAccountRole_keeps
    (state : FabricHttpState)
    (headers : HeaderMap)
    (accountId : String)
    (body : ChangeRoleRequest) :
    HandlerKeeps environment
      (.changeAccountRole headers accountId body) (fun _ _ => True)
      (changeAccountRole environment state headers accountId body) [] := by
  unfold changeAccountRole
  split
  case h_2 => trivial
  refine (authenticateAdmin_keeps _ headers _).bind
    fun later result authenticated => ?_
  cases result with
  | error response => trivial
  | ok session =>
      obtain ⟨continues, digest, read⟩ := authenticated session rfl
      have unused (kind : Singular) : Unused kind later :=
        continues.unused kind (by simp) (by simp [Unused])
      dsimp only
      split
      case h_2 => trivial
      rename_i target parsed
      refine newCorrelationId_bind_keeps fun _ correlationId => ?_
      split
      case h_2 => trivial
      split
      case h_2 => trivial
      refine (consumeRoleChange_keeps _ _ _ _ _ _ correlationId).run_bind
        (fun _ _ => trivial) ?_
      rintro final consumed ⟨continued, granted⟩
      cases consumed with
      | false => trivial
      | true =>
          obtain ⟨grant, spent, bound⟩ := granted rfl
          refine keeps_call_bind ⟨?_, ?_⟩ fun _ _ => ?_
          · rintro _ ⟨⟩
            refine continued.unused _ (by simp) ?_
            simpa [Unused, Singular.of] using unused .roleChange
          · exact ⟨_, ⟨digest, continued.kept _ (List.mem_append_left _ read)⟩,
              rfl, rfl, by simp [Request.target, parsed], grant, spent, bound⟩
          · split <;> trivial

/-! ## Passkeys -/

theorem passkeyChallengeResponse_keeps
    (ceremony : IssuedWebauthnCeremony)
    (challenge : Json) :
    HandlerKeeps environment request (fun _ _ => True)
      (passkeyChallengeResponse environment ceremony challenge) history := by
  refine issueBrowserCsrfToken_bind_keeps fun _ _ => ?_
  split <;> trivial

theorem beginPasskeyLogin_keeps
    (state : FabricHttpState)
    (body : PasskeyLoginBeginRequest) :
    HandlerKeeps environment request (fun _ _ => True)
      (beginPasskeyLogin environment state body) [] := by
  unfold beginPasskeyLogin
  split
  case h_2 => trivial
  split
  case h_2 => trivial
  refine newCorrelationId_bind_keeps fun _ correlationId =>
    keeps_call_bind ⟨nofun, trivial⟩ fun now _ =>
      (beginAuthentication_keeps _ _ correlationId now).run_bind
        (fun _ _ => trivial) fun _ outcome _ => ?_
  cases outcome with
  | denied => trivial
  | challenge ceremony challenge label =>
      exact passkeyChallengeResponse_keeps ceremony _

theorem finishPasskeyLogin_keeps
    (state : FabricHttpState)
    (headers : HeaderMap)
    (body : PasskeyFinishRequest PublicKeyCredential) :
    HandlerKeeps environment request (fun _ _ => True)
      (finishPasskeyLogin environment state headers body) [] := by
  unfold finishPasskeyLogin
  split
  case h_2 => trivial
  split
  · trivial
  split
  case h_2 => trivial
  refine newCorrelationId_bind_keeps fun _ correlationId =>
    (finishAuthentication_keeps _ _ _ body.response correlationId).run_bind
      (fun _ _ => trivial) fun later outcome ⟨continues, finished⟩ => ?_
  cases outcome with
  | denied => trivial
  | registered => trivial
  | authenticated context =>
      refine (issueBrowserSession_keeps _ correlationId
        (continues.unused _ (by simp) ?_) (finished context rfl)).bind
          fun _ _ _ => trivial
      simp [Unused, Singular.of]

theorem beginPasskeyRegistration_keeps
    (state : FabricHttpState)
    (headers : HeaderMap)
    (body : PasskeyRegistrationBeginRequest) :
    HandlerKeeps environment request (fun _ _ => True)
      (beginPasskeyRegistration environment state headers body) [] := by
  unfold beginPasskeyRegistration
  split
  case h_2 => trivial
  refine (authenticateAccess_keeps _ headers).bind fun _ result _ => ?_
  cases result with
  | error response => trivial
  | ok session =>
      refine newCorrelationId_bind_keeps fun _ correlationId =>
        keeps_call_bind ⟨nofun, trivial⟩ fun now _ =>
          (beginRegistration_keeps _ _ _ _ correlationId now).run_bind
            (fun _ _ => trivial) fun _ outcome _ => ?_
      cases outcome with
      | denied => trivial
      | challenge ceremony challenge label =>
          exact passkeyChallengeResponse_keeps ceremony _

theorem finishPasskeyRegistration_keeps
    (state : FabricHttpState)
    (headers : HeaderMap)
    (body : PasskeyFinishRequest RegisterPublicKeyCredential) :
    HandlerKeeps environment request (fun _ _ => True)
      (finishPasskeyRegistration environment state headers body) [] := by
  unfold finishPasskeyRegistration
  split
  case h_2 => trivial
  refine (authenticateAccess_keeps _ headers).bind fun _ result _ => ?_
  cases result with
  | error response => trivial
  | ok session =>
      dsimp only
      split
      · trivial
      split
      case h_2 => trivial
      refine newCorrelationId_bind_keeps fun _ correlationId =>
        (finishRegistration_keeps _ _ _ _ _ _ correlationId).run_bind
          (fun _ _ => trivial) fun _ outcome _ => ?_
      cases outcome <;> trivial

/-! ## All requests -/

/-- Operational calls need no justification. -/
theorem guarantee_of_operational
    {call : Call}
    (operational : isOperational call = true) :
    Guarantee environment request history (.store call) := by
  cases call <;> cases operational <;> exact ⟨nofun, trivial⟩

/-- Every request keeps its guarantee. -/
theorem Request.handler_keeps
    (environment : Environment)
    (state : FabricHttpState)
    (request : Request) :
    HandlerKeeps environment request (fun _ _ => True)
      (request.handler environment state) [] := by
  cases request with
  | startPasswordLogin body => exact startPasswordLogin_handler_keeps state body
  | beginTotpEnrollment headers => exact beginTotpEnrollment_keeps state headers
  | confirmTotpEnrollment headers body =>
      exact confirmTotpEnrollment_keeps state headers body rfl
  | completeTotpLogin headers body =>
      exact completeTotpLogin_keeps state headers body
  | completePasswordOnlyLogin headers =>
      exact completePasswordOnlyLogin_keeps state headers
  | beginPasskeyLogin body => exact beginPasskeyLogin_keeps state body
  | finishPasskeyLogin headers body =>
      exact finishPasskeyLogin_keeps state headers body
  | beginPasskeyRegistration headers body =>
      exact beginPasskeyRegistration_keeps state headers body
  | finishPasskeyRegistration headers body =>
      exact finishPasskeyRegistration_keeps state headers body
  | refreshSession headers => exact refreshSession_keeps state headers
  | inviteAccount headers body => exact inviteAccount_keeps state headers body
  | beginRoleChangeStepUp headers accountId body =>
      exact beginRoleChangeStepUp_keeps state headers accountId body
  | changeAccountRole headers accountId body =>
      exact changeAccountRole_keeps state headers accountId body
  | operator call operational =>
      exact keeps_call_bind (guarantee_of_operational operational)
        fun _ _ => trivial

end Transport
end Fabric
end Fcp
