import Fcp.Fabric.Transport.Admin
import Fcp.Fabric.Transport.Auth
import Fcp.Fabric.Transport.Passkeys

/-!
# Concurrent requests

Requests of any number of clients run at the same time and meet in the store.
Operators set tenants, passwords and keys up, and revoke families, by calls that
no browser route makes.
-/

namespace Fcp
namespace Fabric
namespace Transport

open Reactive

/-- The store calls of operators and of services without browser routes. -/
def isOperational : Call → Bool
  | .bootstrapTenant _ => true
  | .storePasswordVerifier _ => true
  | .createTotpDataKeyEnvelope _ => true
  | .totpDataKeyEnvelope _ => true
  | .replaceRecoveryCodeSet _ => true
  | .consumeRecoveryCode _ => true
  | .revokeRefreshSessionFamily _ => true
  | .federationPeerMaterial _ _ => true
  | .recordFederationReplay _ => true
  | _ => false

/-- A request to one of the routes, or an operational call. -/
inductive Request
  | startPasswordLogin (request : PasswordLoginRequest)
  | beginTotpEnrollment (headers : HeaderMap)
  | confirmTotpEnrollment (headers : HeaderMap) (request : TotpLoginRequest)
  | completeTotpLogin (headers : HeaderMap) (request : TotpLoginRequest)
  | completePasswordOnlyLogin (headers : HeaderMap)
  | beginPasskeyLogin (request : PasskeyLoginBeginRequest)
  | finishPasskeyLogin
      (headers : HeaderMap)
      (request : PasskeyFinishRequest PublicKeyCredential)
  | beginPasskeyRegistration
      (headers : HeaderMap)
      (request : PasskeyRegistrationBeginRequest)
  | finishPasskeyRegistration
      (headers : HeaderMap)
      (request : PasskeyFinishRequest RegisterPublicKeyCredential)
  | refreshSession (headers : HeaderMap)
  | inviteAccount (headers : HeaderMap) (request : InviteAccountRequest)
  | beginRoleChangeStepUp
      (headers : HeaderMap)
      (accountId : String)
      (request : StepUpRequest)
  | changeAccountRole
      (headers : HeaderMap)
      (accountId : String)
      (request : ChangeRoleRequest)
  | operator (call : Call) (operational : isOperational call = true)

/-- The program that serves a request. -/
def Request.handler (environment : Environment) (state : FabricHttpState) :
    Request → Action Response
  | startPasswordLogin request =>
      Transport.startPasswordLogin environment state request
  | beginTotpEnrollment headers =>
      Transport.beginTotpEnrollment environment state headers
  | confirmTotpEnrollment headers request =>
      Transport.confirmTotpEnrollment environment state headers request
  | completeTotpLogin headers request =>
      Transport.completeTotpLogin environment state headers request
  | completePasswordOnlyLogin headers =>
      Transport.completePasswordOnlyLogin environment state headers
  | beginPasskeyLogin request =>
      Transport.beginPasskeyLogin environment state request
  | finishPasskeyLogin headers request =>
      Transport.finishPasskeyLogin environment state headers request
  | beginPasskeyRegistration headers request =>
      Transport.beginPasskeyRegistration environment state headers request
  | finishPasskeyRegistration headers request =>
      Transport.finishPasskeyRegistration environment state headers request
  | refreshSession headers =>
      Transport.refreshSession environment state headers
  | inviteAccount headers request =>
      Transport.inviteAccount environment state headers request
  | beginRoleChangeStepUp headers accountId request =>
      Transport.beginRoleChangeStepUp environment state headers accountId
        request
  | changeAccountRole headers accountId request =>
      Transport.changeAccountRole environment state headers accountId request
  | operator call _ => do
      let _ ← Program.call (Operation.store call)
      return StatusCode.noContent.intoResponse

/-- The log of a pool of requests. -/
abbrev Log : Type :=
  List (PoolEvent Nat Operation Operation.Reply)

/-- A run of requests from the empty database.  Every request may have any
number of its operations done, in any order among the others. -/
abbrev Serves
    (environment : Environment)
    (state : FabricHttpState)
    (requests : Nat → Request)
    (log : Log)
    (pool : Nat → Action Response)
    (store : Store) : Prop :=
  Run (Operation.Step environment)
    (fun caller => (requests caller).handler environment state) Store.empty log
    pool store

/-! ## What the store sees -/

/-- The store call of an event. -/
def storeEvent : PoolEvent ι Operation Operation.Reply →
    Option (Event Call Call.Reply)
  | ⟨(_, .store call), reply⟩ => some ⟨call, reply⟩
  | _ => none

theorem storeEvent_eq_some
    {event : PoolEvent ι Operation Operation.Reply}
    {seen : Event Call Call.Reply}
    (visible : storeEvent event = some seen) :
    ∃ caller, event = ⟨(caller, .store seen.call), seen.reply⟩ := by
  obtain ⟨⟨caller, operation⟩, reply⟩ := event
  cases operation <;> cases visible
  exact ⟨caller, rfl⟩

/-- Whether an event is a committed role change. -/
def commitsRoleChange : PoolEvent ι Operation Operation.Reply → Bool
  | ⟨(_, .store (.changeRole _)), .ok _⟩ => true
  | _ => false

/-- The store calls of a run of any programs are a run of the store. -/
theorem trace_of_run
    {ι α : Type}
    [DecidableEq ι]
    {environment : Environment}
    {log : List (PoolEvent ι Operation Operation.Reply)}
    {start final : (ι → Action α) × Store}
    (run : Trace (PoolStep (Operation.Step environment)) start log final) :
    Trace (Store.Step environment.unicode) start.2 (log.filterMap storeEvent)
      final.2 := by
  refine run.filterMap ?_ ?_
  · rintro _ _ event seen moved visible
    obtain ⟨caller, rfl⟩ := storeEvent_eq_some visible
    cases moved with
    | answered waits taken =>
        cases taken with
        | stored taken => exact taken
        | elsewhere answers => exact answers.elim
  · rintro _ _ ⟨⟨caller, operation⟩, reply⟩ moved hidden
    cases moved with
    | answered waits taken =>
        cases taken with
        | stored taken => cases hidden
        | elsewhere answers => rfl

end Transport
end Fabric
end Fcp
