import Fcp.Fabric.Store.Passkeys
import Fcp.Fabric.Service.Webauthn
import Fcp.Fabric.Transport.Schedules

/-!
# Runs of the passkey service

Ceremonies overlap with each other and with all other calls of the store.  An
authentication consumes its ceremony, verifies the response, reads the passkeys
of the account and writes one of them back, each in a step of its own.
-/

namespace Fcp
namespace Fabric

open Rust
open Reactive
open Service
open Program (Yields yields_pure yields_throw yields_bind)

/-- The canonical identifier of a verified credential. -/
def verifiedCredentialId
    (environment : Environment)
    (verification : AuthenticationResult) :
    Except WebauthnServiceError String := do
  let value ← serialized (environment.webauthn.credentialIdToValue
    (environment.webauthn.verifiedCredId verification))
  jsonString value

namespace WebauthnService

/-- What precedes the write of an authentication. -/
def WritesBack
    (environment : Environment)
    (history : List (Event Operation Operation.Reply))
    (request : UpdateWebauthnPasskey) : Prop :=
  ∃ consumption ceremony response state verification records passkey,
    history =
      [⟨.store (.consumeWebauthnCeremony consumption), .ok ceremony⟩,
        ⟨.finishPasskeyAuthentication response state, .ok verification⟩,
        ⟨.store (.activeWebauthnPasskeys ceremony.tenantId
          ceremony.accountId), .ok records⟩] ∧
    (∃ record ∈ records,
      environment.webauthn.passkeyFromValue record.passkey = some passkey) ∧
    canonicalCredentialId environment passkey = .ok request.credentialId ∧
    verifiedCredentialId environment verification =
      .ok request.credentialId ∧
    environment.webauthn.passkeyToValue
      (environment.webauthn.updateCredential passkey verification) =
        some request.passkey

/-- A task verifies one response before its write. -/
theorem WritesBack.eq_of_verified
    {environment : Environment}
    {history : List (Event Operation Operation.Reply)}
    {request : UpdateWebauthnPasskey}
    {response otherResponse : PublicKeyCredential}
    {state otherState : PasskeyAuthentication}
    {verification other : AuthenticationResult}
    (prepared : WritesBack environment history request)
    (mem : ⟨.finishPasskeyAuthentication response state,
      .ok verification⟩ ∈ history)
    (other_mem : ⟨.finishPasskeyAuthentication otherResponse otherState,
      .ok other⟩ ∈ history) :
    verification = other := by
  obtain ⟨_, _, _, _, _, _, _, rfl, -⟩ := prepared
  rcases List.mem_cons.mp mem with consumed | rest
  · cases consumed
  rcases List.mem_cons.mp rest with verified | last
  · rcases List.mem_cons.mp other_mem with consumed | rest
    · cases consumed
    rcases List.mem_cons.mp rest with again | last
    · cases verified
      cases again
      rfl
    · cases List.mem_singleton.mp last
  · cases List.mem_singleton.mp last

/-- What precedes the writes of passkeys. -/
def Guarantee
    (environment : Environment)
    (history : List (Event Operation Operation.Reply)) : Operation → Prop
  | .store (.registerWebauthnPasskey request) => ∃ passkey,
      canonicalCredentialId environment passkey = .ok request.credentialId ∧
        environment.webauthn.passkeyToValue passkey = some request.passkey
  | .store (.updateWebauthnPasskey request) =>
      WritesBack environment history request
  | _ => True

/-- The operations of a successful authentication. -/
def Authenticates
    (environment : Environment)
    (history : List (Event Operation Operation.Reply)) : Prop :=
  ∃ before request tenant account reply,
    WritesBack environment before request ∧
    history = before ++
      [⟨.store (.updateWebauthnPasskey request), .ok ()⟩,
        ⟨.store (.sessionAuthorizationContext tenant account), reply⟩]

section Specifications

variable {environment : Environment}
variable {answers : (operation : Operation) → operation.Reply → Prop}
variable {history : List (Event Operation Operation.Reply)}

/-- Passkeys are read in one call, and each is one of its records. -/
theorem deserializeActivePasskeys_yields
    (tenant : TenantId)
    (account : AccountId) :
    Yields answers (Guarantee environment)
      (fun later passkeys => ∃ records,
        later = history ++
          [⟨.store (.activeWebauthnPasskeys tenant account), .ok records⟩] ∧
        ∀ passkey ∈ passkeys, ∃ record ∈ records,
          environment.webauthn.passkeyFromValue record.passkey = some passkey)
      (deserializeActivePasskeys environment tenant account) history := by
  refine yields_ask_bind trivial fun records _ => ?_
  intro passkeys parsed
  refine ⟨records, rfl, fun passkey mem => ?_⟩
  obtain ⟨record, record_mem, decoded⟩ :=
    exists_mem_of_mapM_eq_ok (mapError_eq_ok_iff.mp parsed) mem
  exact ⟨record, record_mem, okOr_eq_ok_iff.mp decoded⟩

theorem finishRegistration_yields
    (service : WebauthnService)
    (expectedTenant : TenantId)
    (expectedAccount : AccountId)
    (token binding : String)
    (response : RegisterPublicKeyCredential)
    (correlationId : String) :
    Yields answers (Guarantee environment)
      (fun _ outcome => ∀ context, outcome ≠ .authenticated context)
      (service.finishRegistration environment expectedTenant expectedAccount
        token binding response correlationId) history := by
  unfold finishRegistration
  refine yields_ask_bind trivial fun ceremony _ => ?_
  split
  · exact yields_pure.mpr nofun
  refine yields_rethrow_bind fun state _ =>
    yields_perform_bind trivial fun _ _ => yields_rethrow_bind fun passkey _ =>
      yields_rethrow_bind fun credentialId canonical =>
        yields_rethrow_bind fun value written => ?_
  refine yields_ask_bind ?_ fun _ _ => yields_pure.mpr nofun
  exact ⟨passkey, canonical, okOr_eq_ok_iff.mp written⟩

/-- An authentication writes back what it makes of the passkey that it has
read. -/
theorem finishAuthentication_yields
    (service : WebauthnService)
    (token binding : String)
    (response : PublicKeyCredential)
    (correlationId : String) :
    Yields answers (Guarantee environment)
      (fun later outcome => ∀ context, outcome = .authenticated context →
        Authenticates environment later)
      (service.finishAuthentication environment token binding response
        correlationId) [] := by
  unfold finishAuthentication
  refine yields_ask_bind trivial fun ceremony _ => ?_
  split
  · exact yields_pure.mpr nofun
  refine yields_rethrow_bind fun state _ =>
    yields_perform_bind trivial fun verified _ =>
      yields_rethrow_bind fun verification verified_eq =>
        yields_rethrow_bind fun value value_eq =>
          yields_rethrow_bind fun credentialId id_eq =>
            (deserializeActivePasskeys_yields _ _).bind ?_
  subst verified_eq
  rintro _ passkeys ⟨records, rfl, decoded⟩
  split
  case h_2 => exact yields_pure.mpr nofun
  case h_1 passkey found =>
    have canonical : canonicalCredentialId environment passkey =
        .ok credentialId := by
      have selected := List.find?_some found
      split at selected
      case h_1 id id_eq => rw [id_eq, of_decide_eq_true selected]
      case h_2 => cases selected
    refine yields_rethrow_bind fun stored stored_eq => ?_
    let request : UpdateWebauthnPasskey :=
      { tenantId := ceremony.tenantId
        accountId := ceremony.accountId
        credentialId := credentialId
        passkey := stored }
    have prepared : WritesBack environment _ request :=
      ⟨_, ceremony, response, state, verification, records, passkey, rfl,
        decoded passkey (List.mem_of_find?_eq_some found), canonical,
        bind_eq_ok_iff.mpr ⟨value, value_eq, id_eq⟩,
        okOr_eq_ok_iff.mp stored_eq⟩
    refine yields_perform_bind prepared fun updated _ => ?_
    split
    · exact yields_pure.mpr nofun
    · exact yields_throw
    refine yields_ask_bind trivial fun context _ => ?_
    cases context with
    | none => exact yields_throw
    | some context =>
        exact yields_pure.mpr fun _ _ => ⟨_, request, ceremony.tenantId,
          ceremony.accountId, .ok (some context), prepared, rfl⟩

end Specifications

end WebauthnService

/-! ## Tasks -/

/-- The end of a ceremony, or another call of the store. -/
inductive PasskeyTask
  | finishRegistration
      (expectedTenant : TenantId)
      (expectedAccount : AccountId)
      (token binding : String)
      (response : RegisterPublicKeyCredential)
      (correlationId : String)
  | finishAuthentication
      (token binding : String)
      (response : PublicKeyCredential)
      (correlationId : String)
  | other (call : Call) (unrelated : Store.writesPasskeys call = false)

/-- What a task returns. -/
inductive PasskeyOutcome
  | finished (result : Except WebauthnServiceError WebauthnFinishOutcome)
  | answered

namespace PasskeyTask

open WebauthnService

/-- The program of a task. -/
def program (environment : Environment) (service : WebauthnService) :
    PasskeyTask → Action PasskeyOutcome
  | finishRegistration expectedTenant expectedAccount token binding response
      correlationId =>
      .finished <$> (service.finishRegistration environment expectedTenant
        expectedAccount token binding response correlationId).run
  | finishAuthentication token binding response correlationId =>
      .finished <$> (service.finishAuthentication environment token binding
        response correlationId).run
  | other call _ => do
      let _ ← Program.call (Operation.store call)
      return .answered

/-- A task that says that it has authenticated has done so. -/
def Ensures
    (environment : Environment)
    (history : List (Event Operation Operation.Reply))
    (outcome : PasskeyOutcome) : Prop :=
  ∀ context, outcome = .finished (.ok (.authenticated context)) →
    Authenticates environment history

theorem program_satisfies
    {environment : Environment}
    {service : WebauthnService}
    (task : PasskeyTask) :
    (task.program environment service).Satisfies (fun _ _ => True)
      (Guarantee environment) (Ensures environment) [] := by
  cases task with
  | finishRegistration expectedTenant expectedAccount token binding response
      correlationId =>
      have yields := @finishRegistration_yields environment (fun _ _ => True) []
        service expectedTenant expectedAccount token binding response
        correlationId
      refine Program.satisfies_map.mpr
        (Program.Satisfies.mono yields fun history result holds => ?_)
      rintro context ⟨⟩
      exact absurd rfl (holds _ rfl context)
  | finishAuthentication token binding response correlationId =>
      have yields := @finishAuthentication_yields environment
        (fun _ _ => True) service token binding response correlationId
      refine Program.satisfies_map.mpr
        (Program.Satisfies.mono yields fun history result holds => ?_)
      rintro context ⟨⟩
      exact holds _ rfl context rfl
  | other call unrelated =>
      refine ⟨?_, fun _ _ => nofun⟩
      cases call with
      | registerWebauthnPasskey | updateWebauthnPasskey => cases unrelated
      | _ => trivial

/-! ## Runs -/

section Runs

variable {environment : Environment}
variable {service : WebauthnService}
variable {ι : Type} [DecidableEq ι]
variable {tasks : ι → PasskeyTask}
variable {log before after : List (PoolEvent ι Operation Operation.Reply)}
variable {pool : ι → Action PasskeyOutcome}
variable {store : Store}
variable {caller : ι}

/-- Any number of tasks take turns from an empty database on. -/
abbrev Serves
    (environment : Environment)
    (service : WebauthnService)
    (tasks : ι → PasskeyTask)
    (log : List (PoolEvent ι Operation Operation.Reply))
    (pool : ι → Action PasskeyOutcome)
    (store : Store) : Prop :=
  Run (Operation.Step environment)
    (fun caller => (tasks caller).program environment service) .empty log pool
    store

/-- The passkey that an event writes, under its credential. -/
def logEntry (event : PoolEvent ι Operation Operation.Reply) :
    Option (String × Json) :=
  (Transport.storeEvent event).bind (Store.successful Store.passkeyEntry)

/-- The database holds what was last written in the log. -/
theorem lastWritten_of_run
    (run : Serves environment service tasks log pool store) :
    Store.LastWritten (log.filterMap logEntry) store := by
  have last := Store.lastWritten_of_trace (Transport.trace_of_run run)
  rw [List.filterMap_filterMap] at last
  exact last

/-- Every call meets the guarantee of its task. -/
theorem guarantee_of_call
    {event : PoolEvent ι Operation Operation.Reply}
    (run : Serves environment service tasks (before ++ event :: after) pool
      store) :
    Guarantee environment (own event.call.1 before) event.call.2 := by
  have admitted : ∀ state later operation reply,
      Operation.Step environment state operation reply later → True :=
    fun _ _ _ _ _ => trivial
  exact Run.guarantee_of_call admitted (program_satisfies (tasks event.call.1))
    run

/-- A task that says that it has authenticated has done so in every
interleaving. -/
theorem authenticates_of_done
    {context : AuthorizationContext}
    (run : Serves environment service tasks log pool store)
    (finished : pool caller = .done (.finished (.ok (.authenticated context)))) :
    Authenticates environment (own caller log) := by
  have ensured : Ensures environment (own caller log)
      (.finished (.ok (.authenticated context))) := by
    have admitted : ∀ state later operation reply,
        Operation.Step environment state operation reply later → True :=
      fun _ _ _ _ _ => trivial
    exact Run.ensures_of_done admitted (program_satisfies (tasks caller)) run
      finished
  exact ensured context rfl

/-- What a task reads is what the database holds at that time. -/
theorem holds_of_read
    {tenant : TenantId}
    {account : AccountId}
    {records : List StoredWebauthnPasskey}
    (run : Serves environment service tasks log pool store)
    (mem : ⟨(caller, .store (.activeWebauthnPasskeys tenant account)),
      .ok records⟩ ∈ log) :
    ∃ before after pool store,
      log = before ++ ⟨(caller, .store (.activeWebauthnPasskeys tenant
        account)), .ok records⟩ :: after ∧
      Serves environment service tasks before pool store ∧
      ∀ record ∈ records,
        store.HoldsPasskey record.credentialId record.passkey := by
  obtain ⟨before, after, rfl⟩ := List.append_of_mem mem
  obtain ⟨⟨poolBefore, read⟩, _, first, moved, -⟩ := run.exists_of_cons
  refine ⟨before, after, poolBefore, read, rfl, first, ?_⟩
  cases moved with
  | answered waits taken =>
      cases taken with
      | elsewhere answers => exact answers.elim
      | stored step =>
          have effect := step.effect
          cases effect
          exact fun record => Store.holds_of_mem_activeWebauthnPasskeys

end Runs

end PasskeyTask

end Fabric
end Fcp
