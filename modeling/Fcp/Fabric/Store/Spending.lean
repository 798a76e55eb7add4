import Fcp.Fabric.Store.Factors

/-!
# One-use values

Login transactions, time steps, activations, ceremonies and grants are used up
by the call that accepts them.  No run uses one twice, and what it uses up was
created by an earlier call.
-/

namespace Fcp
namespace Fabric

open Rust
open Sql
open Reactive

variable {unicode : Unicode}

/-- A value that can be used once. -/
inductive Item
  | loginTransaction (id : Uuid)
  | totpStep (factor : Uuid) (step : Int)
  | activation (factor : Uuid)
  | ceremony (tokenDigest : OpaqueTokenDigest)
  | stepUpGrant (tokenDigest : OpaqueTokenDigest)
  deriving DecidableEq

/-- The value that a successful call uses up. -/
def spends : (call : Call) → call.Result → Option Item
  | .consumeLoginTransaction _, record =>
      some (.loginTransaction record.transactionId)
  | .consumeTotpStep request, _ =>
      some (.totpStep request.factorId request.acceptedStep)
  | .activateTotpFactor request, _ => some (.activation request.factorId)
  | .consumeWebauthnCeremony request, _ => some (.ceremony request.tokenDigest)
  | .consumeStepUpGrant request, true => some (.stepUpGrant request.tokenDigest)
  | _, _ => none

namespace Store

variable {store later : Store}
variable {call : Call}
variable {result : call.Result}
variable {item : Item}
variable {events before after : List (Event Call Call.Reply)}

/-- A factor accepted a time step or a later one. -/
def PastStep (step : Int) (row : TotpFactorRow) : Prop :=
  row.status = .active ∧ ∃ last ∈ row.lastAcceptedTimeStep, step ≤ last

/-- A value is used up. -/
def Spent (store : Store) : Item → Prop
  | .loginTransaction id => ∃ row ∈ store.loginTransactions.rows,
      row.id = id ∧ row.consumedAt.isSome = true
  | .totpStep factor step => ∃ row ∈ store.mfaTotpFactors.rows,
      row.id = factor ∧ PastStep step row
  | .activation factor => ∃ row ∈ store.mfaTotpFactors.rows,
      row.id = factor ∧ row.status = .active
  | .ceremony digest => ∃ row ∈ store.webauthnCeremonies.rows,
      row.tokenDigest = digest.asBytes ∧ row.consumedAt.isSome = true
  | .stepUpGrant digest => ∃ row ∈ store.stepUpGrants.rows,
      row.tokenDigest = digest.asBytes ∧ row.consumedAt.isSome = true

/-- Factors never go back to an earlier step. -/
theorem Effect.pastSteps
    (step : Int)
    (effect : Effect unicode store call result later) :
    Evolves TotpFactorRow.identity (PastStep step) store.mfaTotpFactors.rows
      later.mfaTotpFactors.rows := by
  cases effect with
  | pendingFactorCreated generated _ factors_rows => exact .insert factors_rows
  | factorActivated generated _ _ factors_rows =>
      refine .update factors_rows (fun _ => rfl) fun row selected past => ?_
      obtain ⟨-, -, -, pending⟩ := of_decide_eq_true selected
      rw [PastStep, pending] at past
      exact absurd past.1 (by decide)
  | stepConsumed _ _ factors_rows =>
      refine .update factors_rows (fun _ => rfl) fun row selected past => ?_
      obtain ⟨active, last, is_last, past⟩ := past
      obtain ⟨-, -, -, -, above⟩ := of_decide_eq_true selected
      exact ⟨active, _, rfl, past.trans (above last is_last).le⟩
  | _ => exact .refl _

/-- What is used up stays used up. -/
theorem Effect.spent
    (effect : Effect unicode store call result later)
    (spent : store.Spent item) :
    later.Spent item := by
  have progress := effect.progress
  cases item with
  | loginTransaction id =>
      obtain ⟨row, row_mem, row_id, consumed⟩ := spent
      obtain ⟨next, next_mem, identity, settled⟩ :=
        progress.transactions row row_mem
      exact ⟨next, next_mem, (congrArg Prod.fst identity).trans row_id,
        settled consumed⟩
  | totpStep factor step =>
      obtain ⟨row, row_mem, row_id, past⟩ := spent
      obtain ⟨next, next_mem, identity, settled⟩ :=
        effect.pastSteps step row row_mem
      exact ⟨next, next_mem, (congrArg Prod.fst identity).trans row_id,
        settled past⟩
  | activation factor =>
      obtain ⟨row, row_mem, row_id, active⟩ := spent
      obtain ⟨next, next_mem, identity, settled⟩ :=
        progress.factors row row_mem
      exact ⟨next, next_mem, (congrArg Prod.fst identity).trans row_id,
        settled active⟩
  | ceremony digest =>
      obtain ⟨row, row_mem, row_digest, consumed⟩ := spent
      obtain ⟨next, next_mem, identity, settled⟩ :=
        progress.ceremonies row row_mem
      exact ⟨next, next_mem,
        (congrArg (·.2.2.2.2) identity).trans row_digest, settled consumed⟩
  | stepUpGrant digest =>
      obtain ⟨row, row_mem, row_digest, consumed⟩ := spent
      obtain ⟨next, next_mem, identity, settled⟩ := progress.grants row row_mem
      exact ⟨next, next_mem,
        (congrArg (·.2.2.2.2.2) identity).trans row_digest, settled consumed⟩

/-- A call uses up what nothing has used up before. -/
theorem Effect.spends
    (effect : Effect unicode store call result later)
    (spends_eq : spends call result = some item) :
    ¬store.Spent item ∧ later.Spent item := by
  cases effect with
  | loginTransactionConsumed generated found rows_eq =>
      cases spends_eq
      obtain ⟨row_mem, selected⟩ := Table.find?_eq_some found
      obtain ⟨-, -, -, unused, -⟩ := of_decide_eq_true selected
      exact settle (fun apart => apart.1) row_mem selected rfl (by simp [unused])
        rfl rfl rows_eq
  | stepConsumed _ factor_active rows_eq =>
      cases spends_eq
      obtain ⟨row, row_mem, selected⟩ :=
        Table.exists_of_count_eq_one factor_active
      obtain ⟨row_id, -, -, active, above⟩ := of_decide_eq_true selected
      refine settle (fun apart => apart.1) row_mem selected row_id ?_
        ⟨active, _, rfl, le_rfl⟩ rfl rows_eq
      rintro ⟨-, last, is_last, past⟩
      exact absurd (above last is_last) past.not_gt
  | factorActivated generated factor_pending _ rows_eq =>
      cases spends_eq
      obtain ⟨row, row_mem, selected⟩ :=
        Table.exists_of_count_eq_one factor_pending
      obtain ⟨row_id, -, -, pending⟩ := of_decide_eq_true selected
      exact settle (fun apart => apart.1) row_mem selected row_id
        (by simp [pending]) rfl rfl rows_eq
  | ceremonyConsumed generated found rows_eq =>
      cases spends_eq
      obtain ⟨row_mem, selected⟩ := Table.find?_eq_some found
      obtain ⟨digest, -, unused, -⟩ := of_decide_eq_true selected
      exact settle (fun apart => apart.2) row_mem selected digest
        (by simp [unused]) rfl rfl rows_eq
  | grantConsumed generated found _ rows_eq =>
      cases spends_eq
      obtain ⟨row_mem, selected⟩ := Table.find?_eq_some found
      obtain ⟨digest, -, -, -, -, -, unused, -⟩ := of_decide_eq_true selected
      exact settle (fun apart => apart.2) row_mem selected digest
        (by simp [unused]) rfl rfl rows_eq
  | _ => cases spends_eq

/-- No run uses a value twice. -/
theorem nodup_spent (trace : Trace (Step unicode) store events later) :
    (events.filterMap (successful spends)).Nodup := by
  refine (trace.pairwise_of_settles Spent ?_ ?_ ?_).1
  · intro _ _ _ reply _ step spent
    cases reply with
    | error error => exact step.eq_of_error ▸ spent
    | ok result => exact step.effect.spent spent
  · rintro _ _ ⟨call, reply⟩ _ step spends_eq
    cases reply with
    | error error => cases spends_eq
    | ok result => exact (step.effect.spends spends_eq).2
  · rintro _ _ ⟨call, reply⟩ _ _ step spends_eq spent rfl
    cases reply with
    | error error => cases spends_eq
    | ok result => exact (step.effect.spends spends_eq).1 spent

/-- The login transaction that a successful call creates. -/
def issues : (call : Call) → call.Result → Option Uuid
  | .createLoginTransaction _, record => some record.transactionId
  | _, _ => none

/-- No run creates two login transactions under one identifier. -/
theorem nodup_issued (trace : Trace (Step unicode) store events later) :
    (events.filterMap (successful issues)).Nodup := by
  refine (trace.pairwise_of_settles (fun store id =>
    ∃ row ∈ store.loginTransactions.rows, row.id = id) ?_ ?_ ?_).1
  · rintro _ _ _ reply _ step ⟨row, row_mem, rfl⟩
    cases reply with
    | error error => exact step.eq_of_error ▸ ⟨row, row_mem, rfl⟩
    | ok result =>
        obtain ⟨next, next_mem, identity, -⟩ :=
          step.effect.progress.transactions row row_mem
        exact ⟨next, next_mem, congrArg Prod.fst identity⟩
  · rintro _ _ ⟨call, reply⟩ _ step issued
    cases reply with
    | error error => cases issued
    | ok result =>
        cases step.effect with
        | @loginTransactionCreated request generated _ _ _ rows_eq =>
            cases issued
            refine ⟨request.transaction generated, ?_, rfl⟩
            rw [rows_eq]
            exact List.mem_concat_self
        | _ => cases issued
  · rintro _ _ ⟨call, reply⟩ _ _ step issued ⟨row, row_mem, rfl⟩ same
    cases reply with
    | error error => cases issued
    | ok result =>
        cases step.effect with
        | @loginTransactionCreated request generated transactions _ _ rows_eq =>
            cases issued
            have apart := transactions.apart
            rw [rows_eq] at apart
            exact ((List.pairwise_append.mp apart).2.2 row row_mem _
              List.mem_cons_self).1 same
        | _ => cases issued

/-! ## Origins -/

/-- Every family, grant and login transaction was created by a call. -/
structure Originates
    (events : List (Event Call Call.Reply))
    (families : SessionFamilies)
    (grants : StepUpGrants)
    (transactions : LoginTransactions) : Prop where
  family : ∀ row ∈ families.rows,
    ∃ (request : CreateRefreshSession) (record : RefreshSessionRecord),
      ⟨.createRefreshSession request, .ok record⟩ ∈ events ∧
      record.familyId = row.id ∧ request.tenantId = row.tenantId ∧
      request.accountId = row.accountId
  grant : ∀ row ∈ grants.rows,
    ∃ (request : CreateStepUpGrant) (record : StepUpGrantRecord),
      ⟨.createStepUpGrant request, .ok record⟩ ∈ events ∧
      request.tokenDigest.asBytes = row.tokenDigest ∧
      request.tenantId = row.tenantId ∧ request.accountId = row.accountId ∧
      request.familyId = row.familyId ∧ request.targetDigest = row.targetDigest
  transaction : ∀ row ∈ transactions.rows,
    ∃ (request : CreateLoginTransaction) (record : LoginTransactionRecord),
      ⟨.createLoginTransaction request, .ok record⟩ ∈ events ∧
      record.transactionId = row.id ∧ request.tenantId = row.tenantId ∧
      request.accountId = row.accountId ∧ request.factorId = row.factorId ∧
      ∀ stage, row.stage = .awaits stage → request.stage = stage

namespace Originates

variable {families laterFamilies : SessionFamilies}
variable {grants laterGrants : StepUpGrants}
variable {transactions laterTransactions : LoginTransactions}

theorem mono
    {more : List (Event Call Call.Reply)}
    (originates : Originates events families grants transactions)
    (subset : ∀ event ∈ events, event ∈ more) :
    Originates more families grants transactions where
  family row row_mem := by
    obtain ⟨request, record, mem, created⟩ := originates.family row row_mem
    exact ⟨request, record, subset _ mem, created⟩
  grant row row_mem := by
    obtain ⟨request, record, mem, created⟩ := originates.grant row row_mem
    exact ⟨request, record, subset _ mem, created⟩
  transaction row row_mem := by
    obtain ⟨request, record, mem, created⟩ := originates.transaction row row_mem
    exact ⟨request, record, subset _ mem, created⟩

end Originates

/-- The origins of a store. -/
abbrev OriginatesFrom
    (store : Store)
    (events : List (Event Call Call.Reply)) : Prop :=
  Originates events store.sessionFamilies store.stepUpGrants
    store.loginTransactions

/-- A successful call is the origin of what it creates. -/
theorem Effect.originates
    (originates : store.OriginatesFrom events)
    (called : ⟨call, .ok result⟩ ∈ events)
    (effect : Effect unicode store call result later) :
    later.OriginatesFrom events := by
  cases effect with
  | sessionCreated generated _ families_rows =>
      exact { originates with
        family := forall_mem_concat families_rows originates.family
          ⟨_, _, called, rfl, rfl, rfl⟩ }
  | grantCreated generated _ _ grants_rows =>
      exact { originates with
        grant := forall_mem_concat grants_rows originates.grant
          ⟨_, _, called, rfl, rfl, rfl, rfl, rfl⟩ }
  | loginTransactionCreated generated _ transactions_rows =>
      exact { originates with
        transaction := forall_mem_concat transactions_rows
          originates.transaction
          ⟨_, _, called, rfl, rfl, rfl, rfl, fun _ => StageColumn.awaits.inj⟩ }
  | reuseRevoked generated _ _ _ _ _ families_rows =>
      exact { originates with
        family := forall_mem_modify families_rows originates.family
          (fun _ _ created => created) }
  | familyRevoked generated _ families_rows =>
      exact { originates with
        family := forall_mem_modify families_rows originates.family
          (fun _ _ created => created) }
  | grantConsumed generated _ _ grants_rows =>
      exact { originates with
        grant := forall_mem_modify grants_rows originates.grant
          (fun _ _ created => created) }
  | loginTransactionConsumed generated _ transactions_rows =>
      refine { originates with
        transaction := forall_mem_modify transactions_rows
          originates.transaction ?_ }
      rintro row - ⟨request, record, mem, id, tenant, account, factor, -⟩
      exact ⟨request, record, mem, id, tenant, account, factor, nofun⟩
  | _ => exact originates

/-- Every row of a run has its origin in the run. -/
theorem originates_of_trace (trace : Trace (Step unicode) .empty events store) :
    store.OriginatesFrom events := by
  induction trace with
  | start =>
      constructor <;> exact fun row row_mem => absurd row_mem List.not_mem_nil
  | @next events _ _ call reply _ taken inductionHypothesis =>
      have earlier := inductionHypothesis.mono
        (fun event mem => List.mem_append_left [⟨call, reply⟩] mem)
      cases reply with
      | error error =>
          rw [taken.eq_of_error]
          exact earlier
      | ok result =>
          exact taken.effect.originates earlier
            (List.mem_append_right _ List.mem_cons_self)

end Store

end Fabric
end Fcp
