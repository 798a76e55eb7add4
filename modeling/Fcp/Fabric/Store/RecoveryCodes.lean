import Fcp.Reactive.OneTime
import Fcp.Fabric.Store.Tenancy

/-!
# Recovery codes

The two tables of recovery codes implement a ledger of one-time codes: a verifier
is usable in the database exactly if the ledger says so.
-/

namespace Fcp
namespace Fabric

open Rust
open Sql
open Sql.Transaction
open Reactive

variable {unicode : Unicode}

namespace ReplaceRecoveryCodeSet

theorem mem_verifierRows
    {generated : Generated}
    {index : Nat}
    {verifiers : List String}
    {row : RecoveryCodeVerifierRow}
    (row_mem : row ∈ verifierRows generated index verifiers) :
    row.verifier ∈ verifiers ∧ row.setId = generated.uuid 0 := by
  refine ⟨?_, setId_of_mem_verifierRows row_mem⟩
  induction verifiers generalizing index with
  | nil => cases row_mem
  | cons verifier verifiers inductionHypothesis =>
      rcases List.mem_cons.mp row_mem with rfl | row_mem
      · exact List.mem_cons_self
      · exact List.mem_cons_of_mem _ (inductionHypothesis row_mem)

/-- Every verifier of a new set has an unused row. -/
theorem exists_mem_verifierRows
    {generated : Generated}
    {index : Nat}
    {verifiers : List String}
    {verifier : String}
    (mem : verifier ∈ verifiers) :
    ∃ row ∈ verifierRows generated index verifiers,
      row.verifier = verifier ∧ row.consumedAt = none ∧
        row.setId = generated.uuid 0 := by
  induction verifiers generalizing index with
  | nil => cases mem
  | cons first rest inductionHypothesis =>
      rcases List.mem_cons.mp mem with rfl | mem
      · exact ⟨_, List.mem_cons_self, rfl, rfl, rfl⟩
      · obtain ⟨row, row_mem, holds⟩ := @inductionHypothesis (index + 1) mem
        exact ⟨row, List.mem_cons_of_mem _ row_mem, holds⟩

end ReplaceRecoveryCodeSet

namespace Store

variable {store later : Store}
variable {call : Call}
variable {result : call.Result}
variable {events : List (Event Call Call.Reply)}
variable {ledger : List (OneTime.Entry (TenantId × AccountId) String)}

/-- What a successful call does to recovery codes. -/
def codeEntry : (call : Call) → call.Result →
    Option (OneTime.Entry (TenantId × AccountId) String)
  | .replaceRecoveryCodeSet request, _ =>
      some (.replaced (request.tenantId, request.accountId) request.verifiers)
  | .consumeRecoveryCode request, accepted =>
      if accepted then
        some (.accepted (request.tenantId, request.accountId) request.verifier)
      else
        none
  | _, _ => none

/-- The calls that replace or consume recovery codes. -/
def handlesCodes : Call → Bool
  | .replaceRecoveryCodeSet _ | .consumeRecoveryCode _ => true
  | _ => false

/-- An unused verifier in a set of the account that is not invalidated. -/
def UsableCode
    (store : Store)
    (owner : TenantId × AccountId)
    (verifier : String) : Prop :=
  ∃ row ∈ store.recoveryCodeVerifiers.rows, row.verifier = verifier ∧
    row.consumedAt = none ∧ ∃ set ∈ store.recoveryCodeSets.rows,
      row.setId = set.id ∧ (set.tenantId, set.accountId) = owner ∧
        set.invalidatedAt = none

theorem selects_eq_true_iff
    {request : ConsumeRecoveryCode}
    {row : RecoveryCodeVerifierRow} :
    request.selects store row = true ↔ row.verifier = request.verifier ∧
      row.consumedAt = none ∧ ∃ set ∈ store.recoveryCodeSets.rows,
        row.setId = set.id ∧ (set.tenantId, set.accountId) =
          (request.tenantId, request.accountId) ∧ set.invalidatedAt = none := by
  simp only [ConsumeRecoveryCode.selects, Bool.and_eq_true, decide_eq_true_eq,
    Table.any, List.any_eq_true, Prod.mk.injEq, and_assoc]

/-- The tables stand for a ledger. -/
structure Codes
    (ledger : List (OneTime.Entry (TenantId × AccountId) String))
    (store : Store) : Prop where
  usable : ∀ owner verifier, store.UsableCode owner verifier ↔
    OneTime.Usable ledger owner verifier
  sound : OneTime.Sound ledger

/-- A replacement makes the verifiers of the new set usable and those of the
account's other sets unusable. -/
theorem usableCode_replaced_iff
    {request : ReplaceRecoveryCodeSet}
    {generated : Generated}
    {owner : TenantId × AccountId}
    {verifier : String}
    (tenancy : store.Tenancy)
    (sets_rows : later.recoveryCodeSets.rows =
      store.recoveryCodeSets.rows.map (modify request.selects
        (ReplaceRecoveryCodeSet.invalidates generated)) ++
          [request.set generated])
    (verifiers_rows : later.recoveryCodeVerifiers.rows =
      store.recoveryCodeVerifiers.rows ++
        ReplaceRecoveryCodeSet.verifierRows generated 1 request.verifiers) :
    later.UsableCode owner verifier ↔
      (request.tenantId, request.accountId) = owner ∧
          verifier ∈ request.verifiers ∨
        (request.tenantId, request.accountId) ≠ owner ∧
          store.UsableCode owner verifier := by
  have apart := later.recoveryCodeSets.apart
  rw [sets_rows] at apart
  have id_kept (set : RecoveryCodeSetRow) :
      (modify request.selects (ReplaceRecoveryCodeSet.invalidates generated)
        set).id = set.id :=
    @modify_column _ _ RecoveryCodeSetRow.id request.selects
      (ReplaceRecoveryCodeSet.invalidates generated) (fun _ => rfl) set
  have fresh : ∀ set ∈ store.recoveryCodeSets.rows,
      set.id ≠ generated.uuid 0 := by
    intro set set_mem same
    have changed := (List.pairwise_append.mp apart).2.2 _
      (List.mem_map_of_mem set_mem) _ List.mem_cons_self
    rw [RecoveryCodeSetRow.Apart, id_kept] at changed
    exact changed.1 same
  rw [UsableCode, UsableCode, verifiers_rows, sets_rows]
  constructor
  · rintro ⟨row, row_mem, rfl, unused, set, set_mem, set_id, rfl, current⟩
    rcases List.mem_append.mp row_mem with row_mem | row_mem
    · rcases List.mem_append.mp set_mem with set_mem | set_mem
      · obtain ⟨old, old_mem, rfl⟩ := List.mem_map.mp set_mem
        cases selected : request.selects old with
        | true =>
            rw [modify_of_selects selected] at current
            cases current
        | false =>
            rw [modify_of_not_selects selected] at set_id current ⊢
            refine .inr ⟨fun same => ?_, row, row_mem, rfl, unused, old, old_mem,
              set_id, rfl, current⟩
            obtain ⟨tenant_eq, account_eq⟩ := Prod.mk.inj same
            have selects : request.selects old = true :=
              decide_eq_true ⟨tenant_eq.symm, account_eq.symm, current⟩
            rw [selected] at selects
            cases selects
      · obtain ⟨old, old_mem, old_id⟩ := tenancy.recoveryCodes row row_mem
        rw [List.mem_singleton.mp set_mem] at set_id
        exact absurd (old_id.trans set_id) (fresh old old_mem)
    · obtain ⟨verifier_mem, row_set⟩ :=
        ReplaceRecoveryCodeSet.mem_verifierRows row_mem
      rcases List.mem_append.mp set_mem with set_mem | set_mem
      · obtain ⟨old, old_mem, rfl⟩ := List.mem_map.mp set_mem
        rw [id_kept] at set_id
        exact absurd (set_id.symm.trans row_set) (fresh old old_mem)
      · rw [List.mem_singleton.mp set_mem]
        exact .inl ⟨rfl, verifier_mem⟩
  · rintro (⟨rfl, verifier_mem⟩ | ⟨different, row, row_mem, rfl, unused, set,
      set_mem, set_id, rfl, current⟩)
    · obtain ⟨row, row_mem, row_verifier, unused, row_set⟩ :=
        ReplaceRecoveryCodeSet.exists_mem_verifierRows verifier_mem
      exact ⟨row, List.mem_append_right _ row_mem, row_verifier, unused,
        request.set generated, List.mem_concat_self, row_set, rfl, rfl⟩
    · have other : request.selects set = false :=
        decide_eq_false fun selected =>
          different (Prod.ext selected.1.symm selected.2.1.symm)
      refine ⟨row, List.mem_append_left _ row_mem, rfl, unused, set, ?_, set_id,
        rfl, current⟩
      exact List.mem_append_left _
        (List.mem_map.mpr ⟨set, set_mem, modify_of_not_selects other⟩)

/-- An acceptance makes the verifier unusable for its account. -/
theorem usableCode_consumed_iff
    {request : ConsumeRecoveryCode}
    {generated : Generated}
    {owner : TenantId × AccountId}
    {verifier : String}
    (sets_eq : later.recoveryCodeSets = store.recoveryCodeSets)
    (verifiers_rows : later.recoveryCodeVerifiers.rows =
      store.recoveryCodeVerifiers.rows.map (modify (request.selects store)
        (ConsumeRecoveryCode.consumes generated))) :
    later.UsableCode owner verifier ↔ store.UsableCode owner verifier ∧
      ¬((request.tenantId, request.accountId) = owner ∧
        request.verifier = verifier) := by
  rw [UsableCode, UsableCode, verifiers_rows, sets_eq]
  constructor
  · rintro ⟨_, changed_mem, rfl, unused, set, set_mem, set_id, rfl, current⟩
    obtain ⟨row, row_mem, rfl⟩ := List.mem_map.mp changed_mem
    cases selected : request.selects store row with
    | true =>
        rw [modify_of_selects selected] at unused
        cases unused
    | false =>
        rw [modify_of_not_selects selected] at set_id unused ⊢
        refine ⟨⟨row, row_mem, rfl, unused, set, set_mem, set_id, rfl, current⟩,
          fun ⟨owner_eq, verifier_eq⟩ => ?_⟩
        rw [selects_eq_true_iff.mpr ⟨verifier_eq.symm, unused, set, set_mem,
          set_id, owner_eq.symm, current⟩] at selected
        cases selected
  · rintro ⟨⟨row, row_mem, rfl, unused, set, set_mem, set_id, rfl, current⟩,
      different⟩
    have other : request.selects store row = false := by
      by_contra selected
      obtain ⟨verifier_eq, -, other, other_mem, other_id, other_owner, -⟩ :=
        selects_eq_true_iff.mp (Bool.of_not_eq_false selected)
      have same : other = set := Table.eq_of_key (fun apart => apart.1) other_mem
        set_mem (other_id.symm.trans set_id)
      rw [same] at other_owner
      exact different ⟨other_owner.symm, verifier_eq.symm⟩
    refine ⟨row, ?_, rfl, unused, set, set_mem, set_id, rfl, current⟩
    exact List.mem_map.mpr ⟨row, row_mem, modify_of_not_selects other⟩

/-- Every call keeps the tables in step with the ledger. -/
theorem Effect.codes
    (tenancy : store.Tenancy)
    (codes : Codes ledger store)
    (effect : Effect unicode store call result later) :
    Codes (ledger ++ (codeEntry call result).toList) later := by
  cases effect with
  | @recoverySetReplaced request generated sets verifiers audits _ _ sets_rows
      verifiers_rows =>
      refine ⟨fun owner verifier => ?_, codes.sound.concat nofun⟩
      refine (usableCode_replaced_iff tenancy sets_rows verifiers_rows).trans ?_
      rw [codes.usable]
      exact OneTime.usable_replaced_iff.symm
  | @recoveryCodeConsumed request generated row verifiers audits found
      verifiers_rows =>
      refine ⟨fun owner verifier => ?_, codes.sound.concat ?_⟩
      · let consumed : Store :=
          { store with
            recoveryCodeVerifiers := verifiers
            auditEvents := audits }
        refine (@usableCode_consumed_iff store consumed request generated owner
          verifier rfl verifiers_rows).trans ?_
        rw [codes.usable]
        exact OneTime.usable_accepted_iff.symm
      · rintro _ _ ⟨⟩
        obtain ⟨row_mem, selected⟩ := Table.find?_eq_some found
        obtain ⟨verifier_eq, unused, set, set_mem, set_id, owner_eq, current⟩ :=
          selects_eq_true_iff.mp selected
        exact (codes.usable _ _).mp ⟨row, row_mem, verifier_eq, unused, set,
          set_mem, set_id, owner_eq, current⟩
  | _ => exact (List.append_nil ledger).symm ▸ ⟨codes.usable, codes.sound⟩

/-- The ledger of a run stands for the database that it reaches. -/
theorem codes_of_trace
    (trace : Trace (Step unicode) .empty events store) :
    Codes (events.filterMap (successful codeEntry)) store := by
  refine (@invariant_of_successful _ _ _ _ codeEntry
    (fun ledger store => store.Tenancy ∧ Codes ledger store) ?_ _ trace
    ⟨.empty, ?_, .nil⟩).2
  · intro ledger store later call result ⟨tenancy, codes⟩ effect
    exact ⟨effect.tenancy tenancy, effect.codes tenancy codes⟩
  · intro owner verifier
    refine iff_of_false ?_ OneTime.not_usable_nil
    rintro ⟨row, row_mem, -⟩
    cases row_mem

/-- A usable verifier is accepted under a valid correlation identifier. -/
theorem exists_consumed
    {request : ConsumeRecoveryCode}
    {generated : Generated}
    (tenancy : store.Tenancy)
    (usable : store.UsableCode (request.tenantId, request.accountId)
      request.verifier)
    (filled : request.verifier ≠ "")
    (bounded : (asBytes request.verifier).length ≤ 128)
    (correlation : ¬UnsafeText 128 request.correlationId)
    (fresh : ∀ event ∈ store.auditEvents.rows, event.id ≠ generated.uuid 0) :
    ∃ later, (consumeRecoveryCode generated request).run store =
      .ok (true, later) := by
  obtain ⟨row, row_mem, row_verifier, unused, set, set_mem, set_id, owner_eq,
    current⟩ := usable
  have owned := tenancy.recoverySets set set_mem
  obtain ⟨tenant_eq, account_eq⟩ := Prod.mk.inj owner_eq
  rw [tenant_eq, account_eq] at owned
  obtain ⟨account, account_mem, account_id, account_tenant⟩ :=
    hasAccount_eq_true_iff.mp owned
  have tenant_exists : store.hasTenant request.tenantId = true := by
    rw [← account_tenant]
    exact tenancy.accounts account account_mem
  have account_exists : store.hasAccountId request.accountId = true :=
    List.any_eq_true.mpr ⟨account, account_mem, decide_eq_true account_id⟩
  have selected : request.selects store row = true :=
    selects_eq_true_iff.mpr ⟨row_verifier, unused, set, set_mem, set_id,
      owner_eq, current⟩
  obtain ⟨found, found_eq⟩ : ∃ found,
      store.recoveryCodeVerifiers.find? (request.selects store) = some found :=
    Option.isSome_iff_exists.mp
      (List.find?_isSome.mpr ⟨row, row_mem, selected⟩)
  obtain ⟨verifiers, verifiers_rows⟩ :=
    store.recoveryCodeVerifiers.exists_map_modify (request.selects store)
      (ConsumeRecoveryCode.consumes generated) <| by
        intro first second apart
        unfold Sql.modify
        split <;> split <;> exact apart
  obtain ⟨later, audited⟩ : ∃ later, (insertAudit (request.audit generated)).run
      { store with recoveryCodeVerifiers := verifiers } = .ok ((), later) :=
    exists_insertAudit tenant_exists account_exists correlation fresh
  refine ⟨later, ?_⟩
  simp only [consumeRecoveryCode, run_lift_bind_eq_ok_iff]
  refine ⟨(), validateCorrelationId_eq_ok_iff.mpr correlation, ?_⟩
  rw [if_neg (not_or.mpr ⟨filled, Nat.not_lt.mpr bounded⟩)]
  simp only [run_get_bind, run_updateReturning_bind_eq_ok_iff]
  refine .inr ⟨found, found_eq, verifiers, verifiers_rows, ?_⟩
  exact run_bind_eq_ok_iff.mpr ⟨(), later, audited, rfl⟩

end Store

end Fabric
end Fcp
