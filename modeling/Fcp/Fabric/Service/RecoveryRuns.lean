import Fcp.Fabric.Store.RecoveryCodes
import Fcp.Fabric.Service.FederationIngress
import Fcp.Fabric.Service.Recovery
import Fcp.Fabric.Transport.Schedules

/-!
# Runs of the recovery-code service

Replacements and consumptions of recovery codes overlap with each other and with
all other calls of the store.  Each makes one store call, and the ledger of these
calls says which codes are accepted.
-/

namespace Fcp
namespace Fabric

open Rust
open Reactive
open Service

namespace RecoveryCodeService

/-- The verifier of a raw code. -/
def codeVerifier
    (environment : Environment)
    (service : RecoveryCodeService)
    (raw : String) : String :=
  verifier environment.primitives
    (deriveOpaqueTokenDigest environment.primitives service.digestKey raw)

/-- The code that an event draws. -/
def drawnCode (primitives : Primitives) :
    Event Operation Operation.Reply → Option String
  | ⟨.randomBytes, bytes⟩ => some (primitives.base64Url.encode bytes.toList)
  | _ => none

/-- Events that only draw codes. -/
def Draws (history : List (Event Operation Operation.Reply)) : Prop :=
  ∀ event ∈ history, event.call = .randomBytes

/-- The store call of a replacement. -/
def replacement
    (environment : Environment)
    (service : RecoveryCodeService)
    (tenant : TenantId)
    (account : AccountId)
    (correlation : String)
    (codes : List String) : ReplaceRecoveryCodeSet where
  tenantId := tenant
  accountId := account
  verifiers := codes.map (codeVerifier environment service)
  correlationId := correlation

/-- The store call of a consumption. -/
def consumption
    (environment : Environment)
    (service : RecoveryCodeService)
    (tenant : TenantId)
    (account : AccountId)
    (raw correlation : String) : ConsumeRecoveryCode where
  tenantId := tenant
  accountId := account
  verifier := codeVerifier environment service raw
  correlationId := correlation

/-- What a replacement returns. -/
def inventory (codes : List String) :
    Except StoreError RecoveryCodeSetRecord →
      Except RecoveryCodeError IssuedRecoveryCodes
  | .ok record => .ok ⟨codes, record.codeCount⟩
  | .error error => .error (.store error)

variable {environment : Environment}
variable {service : RecoveryCodeService}
variable {answers : (operation : Operation) → operation.Reply → Prop}
variable {history : List (Event Operation Operation.Reply)}

theorem run_issueCodes_succ (count : Nat) :
    (issueCodes environment service (count + 1)).run =
      .perform .randomBytes fun bytes => do
        match ← (issueCodes environment service count).run with
        | .ok rest =>
            let raw := environment.primitives.base64Url.encode bytes.toList
            return .ok ((raw, codeVerifier environment service raw) :: rest)
        | .error error => return .error error := by
  refine congrArg (Program.perform _) (funext fun bytes => ?_)
  let raw := environment.primitives.base64Url.encode bytes.toList
  change (issueCodes environment service count >>= fun rest =>
    pure ((raw, codeVerifier environment service raw) :: rest)).run = _
  rw [ExceptT.run_bind]
  refine congrArg (_ >>= ·) (funext fun result => ?_)
  cases result <;> rfl

/-- Codes are drawn one after the other and returned with their verifiers. -/
theorem satisfies_issueCodes
    {guarantee : List (Event Operation Operation.Reply) → Operation → Prop}
    (draws : ∀ drawn, Draws drawn →
      guarantee (history ++ drawn) .randomBytes)
    (count : Nat) :
    (issueCodes environment service count).run.Satisfies answers guarantee
      (fun later result => ∃ drawn, Draws drawn ∧ later = history ++ drawn ∧
        result = .ok ((drawn.filterMap (drawnCode environment.primitives)).map fun raw =>
          (raw, codeVerifier environment service raw)))
      history := by
  induction count generalizing history with
  | zero =>
      exact ⟨[], fun _ mem => absurd mem List.not_mem_nil,
        (List.append_nil _).symm, rfl⟩
  | succ count inductionHypothesis =>
      rw [run_issueCodes_succ]
      refine ⟨?_, fun bytes _ => ?_⟩
      · have first := draws [] fun _ mem => absurd mem List.not_mem_nil
        rw [List.append_nil] at first
        exact first
      · refine (inductionHypothesis fun drawn drawn_draws => ?_).bind ?_
        · rw [List.append_assoc]
          refine draws _ fun event mem => ?_
          rcases List.mem_cons.mp mem with rfl | mem
          · rfl
          · exact drawn_draws event mem
        · rintro later _ ⟨drawn, drawn_draws, rfl, rfl⟩
          refine ⟨⟨.randomBytes, bytes⟩ :: drawn, fun event mem => ?_,
            List.append_assoc .., rfl⟩
          rcases List.mem_cons.mp mem with rfl | mem
          · rfl
          · exact drawn_draws event mem

end RecoveryCodeService

/-! ## Tasks -/

/-- A call of the service, or another call of the store. -/
inductive RecoveryTask
  | replace (tenant : TenantId) (account : AccountId) (correlation : String)
  | consume
      (tenant : TenantId)
      (account : AccountId)
      (raw correlation : String)
  | other (call : Call) (unrelated : Store.handlesCodes call = false)

/-- What a task returns. -/
inductive RecoveryOutcome
  | replaced (result : Except RecoveryCodeError IssuedRecoveryCodes)
  | consumed (result : Except RecoveryCodeError Bool)
  | answered

namespace RecoveryTask

open RecoveryCodeService

/-- The program of a task. -/
def program (environment : Environment) (service : RecoveryCodeService) :
    RecoveryTask → Action RecoveryOutcome
  | replace tenant account correlation =>
      .replaced <$>
        (service.replace environment tenant account correlation).run
  | consume tenant account raw correlation =>
      .consumed <$>
        (service.consume environment tenant account raw correlation).run
  | other call _ => do
      let _ ← Program.call (Operation.store call)
      return .answered

/-- What a task has done when it has a result. -/
def Ensures
    (environment : Environment)
    (service : RecoveryCodeService)
    (history : List (Event Operation Operation.Reply))
    (outcome : RecoveryOutcome) : RecoveryTask → Prop
  | replace tenant account correlation => ∃ drawn reply, Draws drawn ∧
      history = drawn ++ [⟨.store (.replaceRecoveryCodeSet
        (replacement environment service tenant account correlation
          (drawn.filterMap (drawnCode environment.primitives)))), reply⟩] ∧
      outcome = .replaced (inventory (drawn.filterMap (drawnCode environment.primitives)) reply)
  | consume tenant account raw correlation => ∃ reply,
      history = [⟨.store (.consumeRecoveryCode
        (consumption environment service tenant account raw correlation)),
          reply⟩] ∧
      outcome = .consumed (reply.mapError .store)
  | other call _ => ∃ reply,
      history = [⟨.store call, reply⟩] ∧ outcome = .answered

variable {environment : Environment}
variable {service : RecoveryCodeService}

/-- Every task makes one store call, after which it is done. -/
theorem program_satisfies (task : RecoveryTask) :
    (task.program environment service).Satisfies (fun _ _ => True)
      (fun history _ => Draws history)
      (fun history outcome =>
        task.Ensures environment service history outcome)
      [] := by
  have none_drawn : Draws [] := fun _ mem => absurd mem List.not_mem_nil
  cases task with
  | replace tenant account correlation =>
      refine Program.satisfies_map.mpr ?_
      rw [RecoveryCodeService.replace, ExceptT.run_bind]
      refine (satisfies_issueCodes (fun drawn draws => draws) _).bind ?_
      rintro drawn _ ⟨_, draws, rfl, rfl⟩
      let codes := drawn.filterMap (drawnCode environment.primitives)
      have verifiers_eq : (codes.map fun raw =>
          (raw, codeVerifier environment service raw)).map Prod.snd =
          codes.map (codeVerifier environment service) := List.map_map
      have codes_eq : (codes.map fun raw =>
          (raw, codeVerifier environment service raw)).map Prod.fst = codes :=
        List.map_map.trans (List.map_id codes)
      dsimp only
      rw [verifiers_eq, codes_eq, run_ask_bind]
      refine ⟨draws, fun reply _ => ?_⟩
      cases reply with
      | error error => exact ⟨drawn, .error error, draws, rfl, rfl⟩
      | ok record => exact ⟨drawn, .ok record, draws, rfl, rfl⟩
  | consume tenant account raw correlation =>
      refine Program.satisfies_map.mpr ⟨none_drawn, fun reply _ => ?_⟩
      exact ⟨reply, rfl, rfl⟩
  | other call unrelated => exact ⟨none_drawn, fun reply _ => ⟨reply, rfl, rfl⟩⟩

theorem issueCodes_returns (count : Nat) :
    (issueCodes environment service count).run.Returns := by
  induction count with
  | zero => trivial
  | succ count inductionHypothesis =>
      rw [run_issueCodes_succ]
      intro bytes
      refine inductionHypothesis.bind fun result => ?_
      cases result <;> trivial

/-- No task stops without a result. -/
theorem program_returns (task : RecoveryTask) :
    (task.program environment service).Returns := by
  cases task with
  | replace tenant account correlation =>
      rw [program, RecoveryCodeService.replace, ExceptT.run_bind]
      refine Program.Returns.bind ?_ fun _ => trivial
      refine (issueCodes_returns _).bind fun issued => ?_
      cases issued with
      | error error => trivial
      | ok issued =>
          dsimp only
          rw [run_ask_bind]
          intro reply
          cases reply <;> trivial
  | consume => exact fun _ => trivial
  | other => exact fun _ => trivial

/-! ## Runs -/

section Runs

variable {ι : Type} [DecidableEq ι]
variable {tasks : ι → RecoveryTask}
variable {log before after : List (PoolEvent ι Operation Operation.Reply)}
variable {pool : ι → Action RecoveryOutcome}
variable {store : Store}
variable {caller : ι}

/-- Any number of tasks take turns from an empty database on. -/
abbrev Serves
    (environment : Environment)
    (service : RecoveryCodeService)
    (tasks : ι → RecoveryTask)
    (log : List (PoolEvent ι Operation Operation.Reply))
    (pool : ι → Action RecoveryOutcome)
    (store : Store) : Prop :=
  Run (Operation.Step environment)
    (fun caller => (tasks caller).program environment service) .empty log pool
    store

/-- The codes that a task has drawn. -/
def codesOf
    (primitives : Primitives)
    (caller : ι)
    (log : List (PoolEvent ι Operation Operation.Reply)) : List String :=
  (own caller log).filterMap (drawnCode primitives)

/-- What an event does to recovery codes. -/
def logEntry (event : PoolEvent ι Operation Operation.Reply) :
    Option (OneTime.Entry (TenantId × AccountId) String) :=
  (Transport.storeEvent event).bind (Store.successful Store.codeEntry)

/-- Tasks keep in every interleaving what they satisfy by themselves. -/
theorem satisfies_of_run
    (run : Serves environment service tasks log pool store) :
    (pool caller).Satisfies (fun _ _ => True) (fun history _ => Draws history)
      (fun history outcome =>
        (tasks caller).Ensures environment service history outcome)
      (own caller log) := by
  refine Run.satisfies ?_ ?_ run
  · exact fun _ _ _ _ _ => trivial
  · exact program_satisfies (tasks caller)

/-- A task that is done has had its store call answered. -/
theorem ensures_of_done
    {outcome : RecoveryOutcome}
    (run : Serves environment service tasks log pool store)
    (finished : pool caller = .done outcome) :
    (tasks caller).Ensures environment service (own caller log) outcome := by
  have satisfied := @satisfies_of_run _ _ _ _ _ _ _ _ caller run
  rw [finished] at satisfied
  exact satisfied

/-- A task whose store call has been answered is done. -/
theorem settled
    {call : Call}
    {reply : call.Reply}
    (run : Serves environment service tasks log pool store)
    (mem : ⟨(caller, .store call), reply⟩ ∈ log) :
    ∃ outcome, pool caller = .done outcome ∧
      (tasks caller).Ensures environment service (own caller log) outcome := by
  have satisfied := @satisfies_of_run _ _ _ _ _ _ _ _ caller run
  have returns : (pool caller).Returns := by
    refine Run.returns ?_ run
    exact program_returns (tasks caller)
  cases at_call : pool caller with
  | done outcome =>
      rw [at_call] at satisfied
      exact ⟨outcome, rfl, satisfied⟩
  | crash =>
      rw [at_call] at returns
      exact returns.elim
  | perform operation resume =>
      rw [at_call] at satisfied
      cases satisfied.1 ⟨.store call, reply⟩ (mem_own_iff.mpr mem)

/-- An answered replacement is one of its task, with the codes that the task has
drawn. -/
theorem of_replaced
    {request : ReplaceRecoveryCodeSet}
    {reply : Except StoreError RecoveryCodeSetRecord}
    (run : Serves environment service tasks log pool store)
    (mem : ⟨(caller, .store (.replaceRecoveryCodeSet request)), reply⟩ ∈ log) :
    ∃ tenant account correlation,
      tasks caller = .replace tenant account correlation ∧
      request = replacement environment service tenant account correlation
        (codesOf environment.primitives caller log) ∧
      pool caller = .done (.replaced (inventory (codesOf environment.primitives caller log) reply)) := by
  obtain ⟨outcome, finished, ensured⟩ := settled run mem
  have own_mem : ⟨.store (.replaceRecoveryCodeSet request), reply⟩ ∈
      own caller log := mem_own_iff.mpr mem
  cases task_eq : tasks caller with
  | replace tenant account correlation =>
      rw [task_eq] at ensured
      obtain ⟨drawn, answer, draws, own_eq, rfl⟩ := ensured
      have codes_eq : codesOf environment.primitives caller log =
          drawn.filterMap (drawnCode environment.primitives) := by
        rw [codesOf, own_eq, List.filterMap_append]
        exact List.append_nil _
      rw [own_eq] at own_mem
      rcases List.mem_append.mp own_mem with drawn_mem | last_mem
      · cases draws _ drawn_mem
      · cases List.mem_singleton.mp last_mem
        rw [codes_eq]
        exact ⟨tenant, account, correlation, rfl, rfl, finished⟩
  | consume tenant account raw correlation =>
      rw [task_eq] at ensured
      obtain ⟨answer, own_eq, -⟩ := ensured
      rw [own_eq] at own_mem
      cases List.mem_singleton.mp own_mem
  | other call unrelated =>
      rw [task_eq] at ensured
      obtain ⟨answer, own_eq, -⟩ := ensured
      rw [own_eq] at own_mem
      cases List.mem_singleton.mp own_mem
      cases unrelated

/-- An answered consumption is one of its task. -/
theorem of_consumed
    {request : ConsumeRecoveryCode}
    {reply : Except StoreError Bool}
    (run : Serves environment service tasks log pool store)
    (mem : ⟨(caller, .store (.consumeRecoveryCode request)), reply⟩ ∈ log) :
    ∃ tenant account raw correlation,
      tasks caller = .consume tenant account raw correlation ∧
      request = consumption environment service tenant account raw
        correlation ∧
      pool caller = .done (.consumed (reply.mapError .store)) := by
  obtain ⟨outcome, finished, ensured⟩ := settled run mem
  have own_mem : ⟨.store (.consumeRecoveryCode request), reply⟩ ∈
      own caller log := mem_own_iff.mpr mem
  cases task_eq : tasks caller with
  | replace tenant account correlation =>
      rw [task_eq] at ensured
      obtain ⟨drawn, answer, draws, own_eq, -⟩ := ensured
      rw [own_eq] at own_mem
      rcases List.mem_append.mp own_mem with drawn_mem | last_mem
      · cases draws _ drawn_mem
      · cases List.mem_singleton.mp last_mem
  | consume tenant account raw correlation =>
      rw [task_eq] at ensured
      obtain ⟨answer, own_eq, rfl⟩ := ensured
      rw [own_eq] at own_mem
      cases List.mem_singleton.mp own_mem
      exact ⟨tenant, account, raw, correlation, rfl, rfl, finished⟩
  | other call unrelated =>
      rw [task_eq] at ensured
      obtain ⟨answer, own_eq, -⟩ := ensured
      rw [own_eq] at own_mem
      cases List.mem_singleton.mp own_mem
      cases unrelated

/-- A task that has returned an answer has had it from the store. -/
theorem consumed_mem
    {tenant : TenantId}
    {account : AccountId}
    {raw correlation : String}
    {accepted : Bool}
    (run : Serves environment service tasks log pool store)
    (task_eq : tasks caller = .consume tenant account raw correlation)
    (finished : pool caller = .done (.consumed (.ok accepted))) :
    ⟨(caller, .store (.consumeRecoveryCode (consumption environment service
      tenant account raw correlation))), .ok accepted⟩ ∈ log := by
  have ensured := ensures_of_done run finished
  rw [task_eq] at ensured
  obtain ⟨reply, own_eq, outcome_eq⟩ := ensured
  cases reply with
  | error error => cases outcome_eq
  | ok answer =>
      cases outcome_eq
      rw [← List.nil_append [_]] at own_eq
      obtain ⟨earlier, later, rfl, -⟩ := exists_of_own_eq own_eq
      exact List.mem_append_right _ List.mem_cons_self

omit [DecidableEq ι] in
theorem logEntry_eq_replaced
    {event : PoolEvent ι Operation Operation.Reply}
    {owner : TenantId × AccountId}
    {verifiers : List String}
    (entry : logEntry event = some (.replaced owner verifiers)) :
    ∃ caller request record,
      event = ⟨(caller, .store (.replaceRecoveryCodeSet request)),
        .ok record⟩ ∧
      (request.tenantId, request.accountId) = owner ∧
      request.verifiers = verifiers := by
  obtain ⟨⟨call, reply⟩, visible, succeeded⟩ := Option.bind_eq_some_iff.mp entry
  obtain ⟨caller, rfl⟩ := Transport.storeEvent_eq_some visible
  cases reply with
  | error error => cases succeeded
  | ok result =>
      cases call with
      | replaceRecoveryCodeSet request =>
          cases succeeded
          exact ⟨caller, request, result, rfl, rfl, rfl⟩
      | consumeRecoveryCode request => cases result <;> cases succeeded
      | _ => cases succeeded

omit [DecidableEq ι] in
theorem logEntry_eq_accepted
    {event : PoolEvent ι Operation Operation.Reply}
    {owner : TenantId × AccountId}
    {verifier : String}
    (entry : logEntry event = some (.accepted owner verifier)) :
    ∃ caller request,
      event = ⟨(caller, .store (.consumeRecoveryCode request)), .ok true⟩ ∧
      (request.tenantId, request.accountId) = owner ∧
      request.verifier = verifier := by
  obtain ⟨⟨call, reply⟩, visible, succeeded⟩ := Option.bind_eq_some_iff.mp entry
  obtain ⟨caller, rfl⟩ := Transport.storeEvent_eq_some visible
  cases reply with
  | error error => cases succeeded
  | ok result =>
      cases call with
      | replaceRecoveryCodeSet request => cases succeeded
      | consumeRecoveryCode request =>
          cases result <;> cases succeeded
          exact ⟨caller, request, rfl, rfl, rfl⟩
      | _ => cases succeeded

/-- The database stands for the ledger of the log. -/
theorem codes_of_run
    (run : Serves environment service tasks log pool store) :
    Store.Codes (log.filterMap logEntry) store := by
  have codes := Store.codes_of_trace (Transport.trace_of_run run)
  rw [List.filterMap_filterMap] at codes
  exact codes

/-- Codes that a task has drawn are drawn in the log. -/
theorem exists_of_mem_codesOf
    {raw : String}
    (mem : raw ∈ codesOf environment.primitives caller log) :
    ∃ event : Event Operation Operation.Reply,
      ⟨(caller, event.call), event.reply⟩ ∈ log ∧
        drawnCode environment.primitives event = some raw := by
  obtain ⟨event, own_mem, drawn⟩ := List.mem_filterMap.mp mem
  exact ⟨event, mem_own_iff.mp own_mem, drawn⟩

/-- The codes of a run: those that are drawn and those that are presented. -/
def Occurs
    (primitives : Primitives)
    (tasks : ι → RecoveryTask)
    (log : List (PoolEvent ι Operation Operation.Reply))
    (raw : String) : Prop :=
  (∃ caller, raw ∈ codesOf primitives caller log) ∨
    ∃ caller tenant account correlation,
      tasks caller = .consume tenant account raw correlation

/-- The keyed digest tells the codes of a run apart. -/
abbrev InjectiveDigest
    (environment : Environment)
    (service : RecoveryCodeService)
    (tasks : ι → RecoveryTask)
    (log : List (PoolEvent ι Operation Operation.Reply)) : Prop :=
  Set.InjOn
    (deriveOpaqueTokenDigest environment.primitives service.digestKey)
    {raw | Occurs environment.primitives tasks log raw}

/-- Verifiers stand for one code each. -/
theorem eq_of_codeVerifier_eq
    {first second : String}
    (injective : InjectiveDigest environment service tasks log)
    (first_occurs : Occurs environment.primitives tasks log first)
    (second_occurs : Occurs environment.primitives tasks log second)
    (same : codeVerifier environment service first =
      codeVerifier environment service second) :
    first = second := by
  have bytes_eq := environment.primitives.base64Url.encode_injective same
  exact injective first_occurs second_occurs
    (OpaqueTokenDigest.mk.injEq .. ▸ Vector.toList_inj.mp bytes_eq)

/-- A task makes one store call. -/
theorem not_two_replaced
    {first second : ReplaceRecoveryCodeSet}
    {one other : Except StoreError RecoveryCodeSetRecord}
    (run : Serves environment service tasks log pool store) :
    ¬[⟨(caller, .store (.replaceRecoveryCodeSet first)), one⟩,
      ⟨(caller, .store (.replaceRecoveryCodeSet second)), other⟩].Sublist
        log := by
  intro sublist
  obtain ⟨tenant, account, correlation, task_eq, -, finished⟩ :=
    of_replaced run (sublist.subset List.mem_cons_self)
  have ensured := ensures_of_done run finished
  rw [task_eq] at ensured
  obtain ⟨drawn, reply, draws, own_eq, -⟩ := ensured
  have none_stored : drawn.countP (fun event =>
      (drawnCode environment.primitives event).isNone) = 0 := by
    refine List.countP_eq_zero.mpr fun event mem => ?_
    obtain ⟨call, reply⟩ := event
    cases draws _ mem
    exact Bool.false_ne_true
  have fewer := (own_sublist caller sublist).countP_le (p := fun event =>
    (drawnCode environment.primitives event).isNone)
  rw [own_eq, List.countP_append, none_stored, ← List.singleton_append,
    own_append, own_singleton, own_singleton, if_pos rfl, if_pos rfl] at fewer
  change 2 ≤ 0 + 1 at fewer
  omega

/-- Generated codes that are pairwise distinct make the sets of the ledger
disjoint. -/
theorem ledger_apart
    (run : Serves environment service tasks log pool store)
    (distinct : (log.filterMap fun event =>
      drawnCode environment.primitives ⟨event.call.2, event.reply⟩).Nodup)
    (injective : InjectiveDigest environment service tasks log) :
    (log.filterMap logEntry).Pairwise OneTime.Entry.Apart := by
  rw [List.pairwise_filterMap, List.pairwise_iff_forall_sublist]
  intro first second sublist entry entry_eq another another_eq
  cases entry with
  | accepted => trivial
  | replaced owner verifiers =>
      cases another with
      | accepted => trivial
      | replaced otherOwner others =>
          obtain ⟨issuer, request, record, rfl, -, rfl⟩ :=
            logEntry_eq_replaced entry_eq
          obtain ⟨otherIssuer, otherRequest, otherRecord, rfl, -, rfl⟩ :=
            logEntry_eq_replaced another_eq
          have mem := sublist.subset List.mem_cons_self
          have other_mem := sublist.subset
            (List.mem_cons_of_mem _ List.mem_cons_self)
          obtain ⟨_, _, _, -, rfl, -⟩ := of_replaced run mem
          obtain ⟨_, _, _, -, rfl, -⟩ := of_replaced run other_mem
          intro verifier verifier_mem other_verifier_mem
          obtain ⟨raw, raw_mem, raw_eq⟩ := List.mem_map.mp verifier_mem
          obtain ⟨other, raw_mem', other_eq⟩ :=
            List.mem_map.mp other_verifier_mem
          obtain rfl := eq_of_codeVerifier_eq injective (.inl ⟨_, raw_mem⟩)
            (.inl ⟨_, raw_mem'⟩) (raw_eq.trans other_eq.symm)
          obtain ⟨drawn, drawn_mem, drawn_eq⟩ := exists_of_mem_codesOf raw_mem
          obtain ⟨again, again_mem, again_eq⟩ := exists_of_mem_codesOf raw_mem'
          have same := eq_of_nodup_filterMap distinct drawn_mem again_mem
            drawn_eq again_eq
          obtain rfl : issuer = otherIssuer :=
            congrArg (fun event => event.call.1) same
          exact not_two_replaced run sublist

/-! ## Acceptance -/

/-- The event is a successful replacement of the account's codes. -/
def Replaces
    (tenant : TenantId)
    (account : AccountId)
    (event : PoolEvent ι Operation Operation.Reply) : Prop :=
  ∃ caller request record,
    event = ⟨(caller, .store (.replaceRecoveryCodeSet request)),
      .ok record⟩ ∧
    request.tenantId = tenant ∧ request.accountId = account

/-- The task is the last one so far that has replaced the account's codes. -/
def Latest
    (log : List (PoolEvent ι Operation Operation.Reply))
    (tenant : TenantId)
    (account : AccountId)
    (issuer : ι) : Prop :=
  ∃ before replaced after, log = before ++ replaced :: after ∧
    replaced.call.1 = issuer ∧ Replaces tenant account replaced ∧
    ∀ event ∈ after, ¬Replaces tenant account event

omit [DecidableEq ι] in
/-- The ledger at an acceptance. -/
theorem ledger_eq_of_accepted
    {request : ConsumeRecoveryCode}
    (log_eq : log = before ++
      ⟨(caller, .store (.consumeRecoveryCode request)), .ok true⟩ :: after) :
    log.filterMap logEntry = before.filterMap logEntry ++
      .accepted (request.tenantId, request.accountId) request.verifier ::
        after.filterMap logEntry := by
  rw [log_eq, List.filterMap_append]
  rfl

/-- No code is accepted twice, for whichever account. -/
theorem eq_of_accepted
    {first second : ι}
    {firstTenant secondTenant : TenantId}
    {firstAccount secondAccount : AccountId}
    {raw firstCorrelation secondCorrelation : String}
    (run : Serves environment service tasks log pool store)
    (distinct : (log.filterMap fun event =>
      drawnCode environment.primitives ⟨event.call.2, event.reply⟩).Nodup)
    (injective : InjectiveDigest environment service tasks log)
    (first_task : tasks first =
      .consume firstTenant firstAccount raw firstCorrelation)
    (second_task : tasks second =
      .consume secondTenant secondAccount raw secondCorrelation)
    (first_accepted : pool first = .done (.consumed (.ok true)))
    (second_accepted : pool second = .done (.consumed (.ok true))) :
    first = second := by
  have sound := (codes_of_run run).sound
  have apart := ledger_apart run distinct injective
  obtain ⟨before, after, log_eq⟩ :=
    List.append_of_mem (consumed_mem run first_task first_accepted)
  have second_mem := consumed_mem run second_task second_accepted
  rw [log_eq] at second_mem
  rcases List.mem_append.mp second_mem with earlier | later
  · rw [ledger_eq_of_accepted log_eq] at sound apart
    exact (sound.not_accepted_again apart
      (List.mem_filterMap.mpr ⟨_, earlier, rfl⟩)).elim
  · rcases List.mem_cons.mp later with same | later
    · exact (congrArg (fun event => event.call.1) same).symm
    · obtain ⟨between, rest, rfl⟩ := List.append_of_mem later
      rw [← List.cons_append, ← List.append_assoc] at log_eq
      rw [ledger_eq_of_accepted log_eq] at sound apart
      exact (sound.not_accepted_again apart (List.mem_filterMap.mpr
        ⟨_, List.mem_append_right _ List.mem_cons_self, rfl⟩)).elim

/-- An accepted code belongs to the latest set of its account at that time. -/
theorem exists_issuer_of_accepted
    {tenant : TenantId}
    {account : AccountId}
    {raw correlation : String}
    (run : Serves environment service tasks log pool store)
    (injective : InjectiveDigest environment service tasks log)
    (task_eq : tasks caller = .consume tenant account raw correlation)
    (accepted : pool caller = .done (.consumed (.ok true))) :
    ∃ before after issuer issuerCorrelation issued,
      log = before ++ ⟨(caller, .store (.consumeRecoveryCode (consumption
        environment service tenant account raw correlation))), .ok true⟩ ::
          after ∧
      Latest before tenant account issuer ∧
      tasks issuer = .replace tenant account issuerCorrelation ∧
      pool issuer = .done (.replaced (.ok issued)) ∧ raw ∈ issued.codes := by
  have sound := (codes_of_run run).sound
  obtain ⟨front, after, log_eq⟩ :=
    List.append_of_mem (consumed_mem run task_eq accepted)
  rw [ledger_eq_of_accepted log_eq] at sound
  obtain ⟨_, verifiers, _, ledger_eq, verifier_mem, latest, -⟩ :=
    sound _ _ _ _ rfl
  obtain ⟨before, rest, rfl, rfl, rest_eq⟩ :=
    List.filterMap_eq_append_iff.mp ledger_eq
  obtain ⟨skipped, replaced, between, rfl, skips, entry, rfl⟩ :=
    List.filterMap_eq_cons_iff.mp rest_eq
  obtain ⟨issuer, request, record, rfl, owner_eq, rfl⟩ :=
    logEntry_eq_replaced entry
  obtain ⟨tenant_eq, account_eq⟩ := Prod.mk.inj owner_eq
  have replaced_mem : ⟨(issuer, .store (.replaceRecoveryCodeSet request)),
      .ok record⟩ ∈ log := by
    rw [log_eq]
    simp
  obtain ⟨issuerTenant, issuerAccount, issuerCorrelation, issuer_task,
    request_eq, issuer_done⟩ := of_replaced run replaced_mem
  subst request_eq
  obtain ⟨other, other_mem, other_eq⟩ := List.mem_map.mp verifier_mem
  obtain rfl := eq_of_codeVerifier_eq injective (.inl ⟨_, other_mem⟩)
    (.inr ⟨_, _, _, _, task_eq⟩) other_eq
  cases tenant_eq
  cases account_eq
  refine ⟨_, after, issuer, issuerCorrelation, _, log_eq, ?_, issuer_task,
    issuer_done, other_mem⟩
  refine ⟨before ++ skipped, _, between, (List.append_assoc ..).symm, rfl,
    ⟨issuer, _, record, rfl, rfl, rfl⟩, ?_⟩
  rintro event event_mem ⟨another, otherRequest, otherRecord, rfl, rfl, rfl⟩
  exact latest otherRequest.verifiers
    (List.mem_filterMap.mpr ⟨_, event_mem, rfl⟩)

/-- The verifier of a code is one that the store accepts. -/
theorem codeVerifier_bounds (raw : String) :
    codeVerifier environment service raw ≠ "" ∧
      (asBytes (codeVerifier environment service raw)).length ≤ 128 := by
  have length_eq : (asBytes (codeVerifier environment service raw)).length =
      43 := by
    have ascii := environment.primitives.base64Url.ascii_encode
      (deriveOpaqueTokenDigest environment.primitives service.digestKey
        raw).asBytes.toList
    have length_eq := length_asBytes_of_ascii ascii
    rw [String.ofList_toList, Base64Url.length_encode,
      Vector.length_toList] at length_eq
    exact length_eq
  refine ⟨fun empty => ?_, ?_⟩
  · rw [empty] at length_eq
    cases length_eq
  · omega

/-- A code of the latest set of an account that has not been accepted is
usable. -/
theorem usableCode_of_latest
    {issuer : ι}
    {tenant : TenantId}
    {account : AccountId}
    {raw : String}
    {issued : IssuedRecoveryCodes}
    (run : Serves environment service tasks log pool store)
    (injective : InjectiveDigest environment service tasks log)
    (latest : Latest log tenant account issuer)
    (issuer_done : pool issuer = .done (.replaced (.ok issued)))
    (raw_mem : raw ∈ issued.codes)
    (unused : ∀ consumer otherTenant otherAccount correlation,
      tasks consumer = .consume otherTenant otherAccount raw correlation →
        pool consumer ≠ .done (.consumed (.ok true))) :
    store.UsableCode (tenant, account)
      (codeVerifier environment service raw) := by
  obtain ⟨before, _, after, log_eq, rfl, ⟨issuer, request, record, rfl, rfl,
    rfl⟩, last⟩ := latest
  have replaced_mem : ⟨(issuer, .store (.replaceRecoveryCodeSet request)),
      .ok record⟩ ∈ log := by
    rw [log_eq]
    exact List.mem_append_right _ List.mem_cons_self
  obtain ⟨_, _, _, issuer_task, request_eq, same_done⟩ :=
    of_replaced run replaced_mem
  cases issuer_done.symm.trans same_done
  refine ((codes_of_run run).usable _ _).mpr ⟨before.filterMap logEntry,
    request.verifiers, after.filterMap logEntry, ?_, ?_, ?_, ?_⟩
  · rw [log_eq, List.filterMap_append]
    rfl
  · rw [request_eq]
    exact List.mem_map_of_mem raw_mem
  · intro others mem
    obtain ⟨event, event_mem, entry⟩ := List.mem_filterMap.mp mem
    obtain ⟨caller, other, record, rfl, owner_eq, -⟩ :=
      logEntry_eq_replaced entry
    obtain ⟨tenant_eq, account_eq⟩ := Prod.mk.inj owner_eq
    exact last _ event_mem
      ⟨caller, other, record, rfl, tenant_eq, account_eq⟩
  · intro mem
    obtain ⟨event, event_mem, entry⟩ := List.mem_filterMap.mp mem
    obtain ⟨consumer, consuming, rfl, -, verifier_eq⟩ :=
      logEntry_eq_accepted entry
    have consumed_mem : ⟨(consumer, .store (.consumeRecoveryCode consuming)),
        .ok true⟩ ∈ log := by
      rw [log_eq]
      exact List.mem_append_right _ (List.mem_cons_of_mem _ event_mem)
    obtain ⟨otherTenant, otherAccount, otherRaw, correlation, consumer_task,
      rfl, consumer_done⟩ := of_consumed run consumed_mem
    obtain rfl := eq_of_codeVerifier_eq injective
      (.inr ⟨_, _, _, _, consumer_task⟩) (.inl ⟨_, raw_mem⟩) verifier_eq
    exact unused consumer otherTenant otherAccount correlation consumer_task
      consumer_done

/-- A usable code is accepted under a valid correlation identifier. -/
theorem result_consume
    {tenant : TenantId}
    {account : AccountId}
    {raw correlation : String}
    {draw : Transport.Draw}
    (run : Serves environment service tasks log pool store)
    (usable : store.UsableCode (tenant, account)
      (codeVerifier environment service raw))
    (valid : ¬UnsafeText 128 correlation)
    (fresh : ∀ event ∈ store.auditEvents.rows,
      event.id ≠ draw.generated.uuid 0) :
    (Transport.alone environment draw
      (service.consume environment tenant account raw correlation).run
      store).result = some (.ok true) := by
  let request := consumption environment service tenant account raw correlation
  obtain ⟨filled, bounded⟩ := @codeVerifier_bounds environment service raw
  obtain ⟨later, ran⟩ := @Store.exists_consumed store request draw.generated
    (Store.tenancy_of_trace (Transport.trace_of_run run)) usable filled bounded
    valid fresh
  have answered : Transport.respond environment store draw
      (.store (.consumeRecoveryCode request)) = (.ok true, later) :=
    Sql.Transaction.commit_eq_ok_iff.mpr ran
  have program_eq : (service.consume environment tenant account raw
      correlation).run = .perform (.store (.consumeRecoveryCode request))
        fun reply => .done (reply.mapError .store) := rfl
  rw [Transport.alone, program_eq,
    Program.execute_perform (congrArg some answered), Program.execute_done]
  rfl

/-- An account has one set that is not invalidated. -/
theorem eq_of_current
    {first second : RecoveryCodeSetRow}
    (run : Serves environment service tasks log pool store)
    (first_mem : first ∈ store.recoveryCodeSets.rows)
    (second_mem : second ∈ store.recoveryCodeSets.rows)
    (same : first.accountId = second.accountId)
    (first_current : first.invalidatedAt = none)
    (second_current : second.invalidatedAt = none) :
    first = second := by
  have tenancy := Store.tenancy_of_trace (Transport.trace_of_run run)
  have first_owned := tenancy.recoverySets first first_mem
  have second_owned := tenancy.recoverySets second second_mem
  rw [← same] at second_owned
  have tenant_eq := Store.tenant_eq_of_hasAccount first_owned second_owned
  refine Sql.Table.eq_of_not_apart first_mem second_mem ?_ ?_
  · exact fun apart =>
      apart.2 ⟨first_current, second_current, tenant_eq, same⟩
  · exact fun apart =>
      apart.2 ⟨second_current, first_current, tenant_eq.symm, same.symm⟩

/-- A replacement that has returned an error has changed nothing. -/
theorem unchanged_of_error
    {error : RecoveryCodeError}
    (run : Serves environment service tasks log pool store)
    (failed : pool caller = .done (.replaced (.error error))) :
    ∃ before request failure after poolBefore poolAfter between,
      log = before ++
        ⟨(caller, .store (.replaceRecoveryCodeSet request)),
          .error failure⟩ :: after ∧
      Serves environment service tasks before poolBefore between ∧
      Serves environment service tasks
        (before ++ [⟨(caller, .store (.replaceRecoveryCodeSet request)),
          .error failure⟩]) poolAfter between := by
  have ensured := ensures_of_done run failed
  cases task_eq : tasks caller with
  | consume tenant account raw correlation =>
      rw [task_eq] at ensured
      obtain ⟨_, _, outcome_eq⟩ := ensured
      cases outcome_eq
  | other call unrelated =>
      rw [task_eq] at ensured
      obtain ⟨_, _, outcome_eq⟩ := ensured
      cases outcome_eq
  | replace tenant account correlation =>
      rw [task_eq] at ensured
      obtain ⟨drawn, reply, draws, own_eq, outcome_eq⟩ := ensured
      cases reply with
      | ok record => cases outcome_eq
      | error failure =>
          obtain ⟨before, after, rfl, -⟩ := exists_of_own_eq own_eq
          obtain ⟨⟨poolBefore, between⟩, ⟨poolAfter, later⟩, first, moved, -⟩ :=
            run.exists_of_cons
          refine ⟨before, _, failure, after, poolBefore, poolAfter, between, rfl,
            first, ?_⟩
          have unchanged : later = between := by
            cases moved with
            | answered waits taken =>
                cases taken with
                | stored step => exact step.eq_of_error
                | elsewhere answers => rfl
          subst unchanged
          exact first.next moved

/-- Accounts have one current set of codes.  Codes are accepted once, for the
account and tenant that they were issued to, and while their set is the latest.
Codes of the latest set that have not been accepted are accepted, and failed
replacements change nothing. -/
theorem recovery_codes_are_one_time
    (run : Serves environment service tasks log pool store)
    (distinct : (log.filterMap fun event =>
      drawnCode environment.primitives ⟨event.call.2, event.reply⟩).Nodup)
    (injective : InjectiveDigest environment service tasks log) :
    (∀ first ∈ store.recoveryCodeSets.rows,
      ∀ second ∈ store.recoveryCodeSets.rows,
        first.accountId = second.accountId → first.invalidatedAt = none →
          second.invalidatedAt = none → first = second) ∧
    (∀ first firstTenant firstAccount firstCorrelation second secondTenant
        secondAccount secondCorrelation raw,
      tasks first = .consume firstTenant firstAccount raw firstCorrelation →
      tasks second = .consume secondTenant secondAccount raw
        secondCorrelation →
      pool first = .done (.consumed (.ok true)) →
      pool second = .done (.consumed (.ok true)) → first = second) ∧
    (∀ caller tenant account raw correlation,
      tasks caller = .consume tenant account raw correlation →
      pool caller = .done (.consumed (.ok true)) →
      ∃ before after issuer issuerCorrelation issued,
        log = before ++ ⟨(caller, .store (.consumeRecoveryCode (consumption
          environment service tenant account raw correlation))), .ok true⟩ ::
            after ∧
        Latest before tenant account issuer ∧
        tasks issuer = .replace tenant account issuerCorrelation ∧
        pool issuer = .done (.replaced (.ok issued)) ∧ raw ∈ issued.codes) ∧
    (∀ issuer tenant account issued raw,
      Latest log tenant account issuer →
      pool issuer = .done (.replaced (.ok issued)) → raw ∈ issued.codes →
      (∀ consumer otherTenant otherAccount correlation,
        tasks consumer = .consume otherTenant otherAccount raw correlation →
          pool consumer ≠ .done (.consumed (.ok true))) →
      ∀ correlation draw, ¬UnsafeText 128 correlation →
        (∀ event ∈ store.auditEvents.rows,
          event.id ≠ draw.generated.uuid 0) →
        (Transport.alone environment draw
          (service.consume environment tenant account raw correlation).run
          store).result = some (.ok true)) ∧
    ∀ caller error, pool caller = .done (.replaced (.error error)) →
      ∃ before request failure after poolBefore poolAfter between,
        log = before ++
          ⟨(caller, .store (.replaceRecoveryCodeSet request)),
            .error failure⟩ :: after ∧
        Serves environment service tasks before poolBefore between ∧
        Serves environment service tasks
          (before ++ [⟨(caller, .store (.replaceRecoveryCodeSet request)),
            .error failure⟩]) poolAfter between := by
  refine ⟨?_, ?_, ?_, ?_, ?_⟩
  · exact fun first first_mem second second_mem =>
      eq_of_current run first_mem second_mem
  · exact fun first _ _ _ second _ _ _ raw =>
      eq_of_accepted run distinct injective
  · exact fun caller tenant account raw correlation =>
      exists_issuer_of_accepted run injective
  · intro issuer tenant account issued raw latest issuer_done raw_mem unused
      correlation draw
    exact result_consume run
      (usableCode_of_latest run injective latest issuer_done raw_mem unused)
  · exact fun caller error => unchanged_of_error run

end Runs

/-! ## Sample run -/

/-- The code that is drawn in a turn. -/
def sampleCode (turn : Nat) : String :=
  .ofList (base64Url (Transport.sampleBytes 32 turn).toList)

def sampleService : RecoveryCodeService where
  digestKey := ⟨Transport.sampleBytes 32 0⟩
  policy := ⟨8, by decide, by decide⟩

/-- An owner replaces their codes and presents two of them. -/
def sampleTasks : Fin 4 → RecoveryTask
  | 0 => .other (.bootstrapTenant
      { domain := ⟨"a.b"⟩, ownerLocalpart := ⟨"o"⟩, correlationId := "c" }) rfl
  | 1 => .replace ⟨Transport.sampleBytes 16 0⟩ ⟨Transport.sampleBytes 16 1⟩ "c"
  | 2 => .consume ⟨Transport.sampleBytes 16 0⟩ ⟨Transport.sampleBytes 16 1⟩
      (sampleCode 1) "c"
  | 3 => .consume ⟨Transport.sampleBytes 16 0⟩ ⟨Transport.sampleBytes 16 1⟩
      (sampleCode 2) "c"

/-- The turns of the sample tasks, without those of the last one. -/
def sampleTurns : List (Fin 4) :=
  0 :: List.replicate 9 1 ++ [2]

/-- The run of the sample tasks. -/
def sampleRun : List (PoolEvent (Fin 4) Operation Operation.Reply) ×
    (Fin 4 → Action RecoveryOutcome) × Store :=
  Transport.scheduled Transport.sampleEnvironment
    (fun caller => (sampleTasks caller).program Transport.sampleEnvironment
      sampleService)
    (sampleTurns.zipIdx.map fun (caller, turn) => (caller, .sample turn))

theorem serves_sampleRun :
    Serves Transport.sampleEnvironment sampleService sampleTasks sampleRun.1
      sampleRun.2.1 sampleRun.2.2 :=
  Transport.run_scheduled _ _ _

/-- The task has had its code accepted. -/
def accepts : Action RecoveryOutcome → Bool
  | .done (.consumed (.ok true)) => true
  | _ => false

theorem eq_of_accepts
    {program : Action RecoveryOutcome}
    (accepted : accepts program = true) :
    program = .done (.consumed (.ok true)) := by
  unfold accepts at accepted
  split at accepted
  · rfl
  · cases accepted

theorem sampleRun_accepts : accepts (sampleRun.2.1 2) = true := by
  decide +kernel

theorem sampleRun_distinct :
    (sampleRun.1.filterMap fun event =>
      drawnCode Transport.sampleEnvironment.primitives
        ⟨event.call.2, event.reply⟩).Nodup := by
  decide +kernel

/-- The sample digest tells the sample codes apart. -/
theorem sampleRun_injective :
    InjectiveDigest Transport.sampleEnvironment sampleService sampleTasks
      sampleRun.1 := by
  let codes := (List.range 9).map sampleCode
  have apart : (codes.map (deriveOpaqueTokenDigest
      Transport.sampleEnvironment.primitives
      sampleService.digestKey)).Nodup := by
    decide +kernel
  have drawn : ∀ caller,
      ∀ raw ∈ codesOf Transport.sampleEnvironment.primitives caller sampleRun.1,
        raw ∈ codes := by
    decide +kernel
  have occurring : ∀ raw,
      Occurs Transport.sampleEnvironment.primitives sampleTasks sampleRun.1 raw →
        raw ∈ codes := by
    rintro raw (⟨caller, mem⟩ | ⟨caller, tenant, account, correlation, task_eq⟩)
    · exact drawn caller raw mem
    · match caller with
      | 0 | 1 => cases task_eq
      | 2 | 3 =>
          cases task_eq
          exact List.mem_map_of_mem (by decide)
  intro first first_occurs second second_occurs
  exact List.inj_on_of_nodup_map apart (occurring first first_occurs)
    (occurring second second_occurs)

/-- A code that is accepted is one of the latest set. -/
theorem recovery_codes_are_one_time_sample :
    ∃ before after issuer issuerCorrelation issued,
      sampleRun.1 = before ++ ⟨(2, .store (.consumeRecoveryCode (consumption
        Transport.sampleEnvironment sampleService
        ⟨Transport.sampleBytes 16 0⟩ ⟨Transport.sampleBytes 16 1⟩
        (sampleCode 1) "c"))), .ok true⟩ :: after ∧
      Latest before ⟨Transport.sampleBytes 16 0⟩ ⟨Transport.sampleBytes 16 1⟩
        issuer ∧
      sampleTasks issuer = .replace ⟨Transport.sampleBytes 16 0⟩
        ⟨Transport.sampleBytes 16 1⟩ issuerCorrelation ∧
      sampleRun.2.1 issuer = .done (.replaced (.ok issued)) ∧
      sampleCode 1 ∈ issued.codes :=
  (recovery_codes_are_one_time serves_sampleRun sampleRun_distinct
    sampleRun_injective).2.2.1 2 _ _ _ _ rfl (eq_of_accepts sampleRun_accepts)

end RecoveryTask

end Fabric
end Fcp
