import Fcp.Reactive.Trace
import Fcp.Fabric.Store.Effects

/-!
# Effects of the calls

Each call's transaction is followed statement by statement to the one effect it
has.  Every invariant of the database is proved over the effects alone.
-/

namespace Fcp
namespace Fabric

open Rust
open Sql
open Sql.Transaction
open Reactive

namespace Store

variable {unicode : Unicode}
variable {generated : Generated}
variable {store later : Store}

/-! ## Accounts -/

theorem bootstrapTenant_effect
    {command : BootstrapTenant}
    {result : BootstrapResult}
    (ran : (bootstrapTenant generated command).run store =
      .ok (result, later)) :
    Effect unicode store (.bootstrapTenant command) result later := by
  simp only [bootstrapTenant, insertAudit, run_lift_bind_eq_ok_iff,
    mapError_eq_ok_iff, run_insert_bind_eq_ok_iff, run_pure, Except.ok.injEq,
    Prod.mk.injEq] at ran
  obtain ⟨_, valid, -, _, tenants_rows, -, _, accounts_rows, -, _, roles_rows,
    -, _, audit_rows, rfl, rfl⟩ := ran
  exact .tenantBootstrapped generated valid tenants_rows accounts_rows
    roles_rows audit_rows

theorem inviteAccount_effect
    {command : InviteAccount}
    {result : AccountId}
    (ran : (inviteAccount generated command).run store =
      .ok (result, later)) :
    Effect unicode store (.inviteAccount command) result later := by
  simp only [inviteAccount, insertAudit, run_lift_bind_eq_ok_iff,
    mapError_eq_ok_iff, run_insert_bind_eq_ok_iff, run_pure, Except.ok.injEq,
    Prod.mk.injEq] at ran
  obtain ⟨_, valid, tenant_exists, _, accounts_rows, -, _, roles_rows, -, _,
    audit_rows, rfl, rfl⟩ := ran
  exact .accountInvited generated valid tenant_exists accounts_rows roles_rows
    audit_rows

theorem changeRole_effect
    {command : ChangeRole}
    {result : Unit}
    (ran : (changeRole generated command).run store = .ok (result, later)) :
    Effect unicode store (.changeRole command) result later := by
  cases grant : command.grant with
  | false =>
      simp only [changeRole, writeRole, grant, Bool.false_eq_true, if_false,
        insertAudit, run_bind_eq_ok_iff, run_lift_eq_ok_iff,
        mapError_eq_ok_iff, run_delete_eq_ok_iff, rejectIf_eq_ok_iff,
        Decidable.not_not, run_insert_eq_ok_iff] at ran
      obtain ⟨_, _, ⟨valid, rfl⟩, _, _, ⟨rfl, rfl⟩, _, _, ⟨held, rfl⟩, -, _,
        audit_rows, rfl⟩ := ran
      exact .roleRevoked generated valid grant held audit_rows
  | true =>
      simp only [changeRole, writeRole, grant, if_true, insertAudit,
        run_lift_bind_eq_ok_iff, mapError_eq_ok_iff,
        run_insertWhere_bind_eq_ok_iff, run_insert_bind_eq_ok_iff,
        run_insert_eq_ok_iff, Bool.and_eq_true] at ran
      obtain ⟨_, valid, ⟨target_exists, -⟩, -, _, roles_rows, -, _, audit_rows,
        rfl⟩ := ran
      exact .roleGranted generated valid grant target_exists roles_rows
        audit_rows

theorem storePasswordVerifier_effect
    {request : StorePasswordVerifier}
    {result : Unit}
    (ran : (storePasswordVerifier generated request).run store =
      .ok (result, later)) :
    Effect unicode store (.storePasswordVerifier request) result later := by
  simp only [storePasswordVerifier, insertAudit, run_lift_bind_eq_ok_iff,
    run_upsertWhere_bind_eq_ok_iff, run_update_bind_eq_ok_iff,
    run_insert_bind_eq_ok_iff, run_insert_eq_ok_iff] at ran
  obtain ⟨_, -, account_exists, ran⟩ := ran
  split at ran
  case isTrue =>
    obtain ⟨-, _, passwords_rows, -, _, audit_rows, rfl⟩ := ran
    exact .passwordReplaced generated account_exists passwords_rows audit_rows
  case isFalse =>
    obtain ⟨-, _, passwords_rows, -, _, audit_rows, rfl⟩ := ran
    exact .passwordCreated generated account_exists passwords_rows audit_rows

/-! ## Factors and recovery codes -/

theorem createTotpDataKeyEnvelope_effect
    {request : CreateTotpDataKeyEnvelope}
    {result : Unit}
    (ran : (createTotpDataKeyEnvelope request).run store =
      .ok (result, later)) :
    Effect unicode store (.createTotpDataKeyEnvelope request) result later := by
  simp only [createTotpDataKeyEnvelope, run_bind_eq_ok_iff, run_lift_eq_ok_iff,
    rejectIf_eq_ok_iff, run_insertWhere_eq_ok_iff, Decidable.not_not,
    run_insert_eq_ok_iff] at ran
  obtain ⟨_, _, ⟨bounded, rfl⟩, _, _,
    ⟨-, rfl, -⟩ | ⟨-, -, -, _, envelopes_rows, rfl⟩, single, rfl⟩ := ran
  · exact absurd single (by decide)
  · exact .envelopeCreated bounded envelopes_rows

theorem createPendingTotpFactor_effect
    {request : CreatePendingTotpFactor}
    {result : Unit}
    (ran : (createPendingTotpFactor generated request).run store =
      .ok (result, later)) :
    Effect unicode store (.createPendingTotpFactor request) result later := by
  simp only [createPendingTotpFactor, insertAudit, run_lift_bind_eq_ok_iff,
    run_insertWhere_bind_eq_ok_iff, run_insert_bind_eq_ok_iff,
    run_insert_eq_ok_iff] at ran
  obtain ⟨_, -, _, -, _, -, account_exists, -, _, factors_rows, -, _,
    audit_rows, rfl⟩ := ran
  exact .pendingFactorCreated generated account_exists factors_rows audit_rows

theorem activateTotpFactor_effect
    {request : ActivateTotpFactor}
    {result : Unit}
    (ran : (activateTotpFactor generated request).run store =
      .ok (result, later)) :
    Effect unicode store (.activateTotpFactor request) result later := by
  simp only [activateTotpFactor, insertAudit, run_lift_bind_eq_ok_iff,
    run_get_bind, run_update_bind_eq_ok_iff, run_insert_eq_ok_iff] at ran
  obtain ⟨_, -, factor_pending, _, factors_rows, account_awaits, _,
    accounts_rows, -, _, audit_rows, rfl⟩ := ran
  have awaits := Table.count_and_eq_one factor_pending
  simp only [awaits, Bool.and_true] at factor_pending factors_rows
  exact .factorActivated generated factor_pending account_awaits factors_rows
    accounts_rows audit_rows

theorem consumeTotpStep_effect
    {request : ConsumeTotpStep}
    {result : Unit}
    (ran : (consumeTotpStep request).run store = .ok (result, later)) :
    Effect unicode store (.consumeTotpStep request) result later := by
  simp only [consumeTotpStep, run_get_bind, run_bind_eq_ok_iff,
    run_update_eq_ok_iff, run_lift_eq_ok_iff, rejectIf_eq_ok_iff,
    Decidable.not_not] at ran
  obtain ⟨_, _, ⟨rfl, _, factors_rows, rfl⟩, factor_active, rfl⟩ := ran
  have account_active := Table.count_and_eq_one factor_active
  simp only [account_active, Bool.and_true] at factor_active factors_rows
  exact .stepConsumed account_active factor_active factors_rows

theorem run_insertVerifiers
    {rows : List RecoveryCodeVerifierRow}
    {result : Unit}
    (ran : (insertVerifiers rows).run store = .ok (result, later)) :
    ∃ verifiers, verifiers.rows = store.recoveryCodeVerifiers.rows ++ rows ∧
      later = { store with recoveryCodeVerifiers := verifiers } := by
  induction rows generalizing store with
  | nil =>
      obtain ⟨-, rfl⟩ := Prod.mk.inj (Except.ok.inj ran)
      exact ⟨_, (List.append_nil _).symm, rfl⟩
  | cons row rows inductionHypothesis =>
      simp only [insertVerifiers, run_insert_bind_eq_ok_iff] at ran
      obtain ⟨-, table, rows_eq, ran⟩ := ran
      obtain ⟨verifiers, verifiers_rows, rfl⟩ := inductionHypothesis ran
      refine ⟨verifiers, ?_, rfl⟩
      rw [verifiers_rows]
      change table.rows ++ rows = _
      rw [rows_eq, List.append_assoc]
      rfl

theorem replaceRecoveryCodeSet_effect
    {request : ReplaceRecoveryCodeSet}
    {result : RecoveryCodeSetRecord}
    (ran : (replaceRecoveryCodeSet generated request).run store =
      .ok (result, later)) :
    Effect unicode store (.replaceRecoveryCodeSet request) result later := by
  simp only [replaceRecoveryCodeSet, insertAudit, run_lift_bind_eq_ok_iff,
    rejectIf_eq_ok_iff] at ran
  obtain ⟨_, -, _, bounded, ran⟩ := ran
  rw [run_bind_eq_ok_iff] at ran
  simp only [run_update_eq_ok_iff, run_insertWhere_bind_eq_ok_iff,
    run_insert_bind_eq_ok_iff] at ran
  obtain ⟨_, _, ⟨-, sets, invalidated, rfl⟩, account_exists, -, _, sets_rows,
    ran⟩ := ran
  obtain ⟨_, _, written, ran⟩ := run_bind_eq_ok_iff.mp ran
  obtain ⟨_, verifiers_rows, rfl⟩ := run_insertVerifiers written
  simp only [run_insert_bind_eq_ok_iff, run_pure, Except.ok.injEq,
    Prod.mk.injEq] at ran
  obtain ⟨-, _, audit_rows, rfl, rfl⟩ := ran
  have sets_rows := sets_rows.trans
    (congrArg (· ++ [request.set generated]) invalidated)
  exact .recoverySetReplaced generated bounded account_exists sets_rows
    verifiers_rows audit_rows

theorem consumeRecoveryCode_effect
    {request : ConsumeRecoveryCode}
    {result : Bool}
    (ran : (consumeRecoveryCode generated request).run store =
      .ok (result, later)) :
    Effect unicode store (.consumeRecoveryCode request) result later := by
  simp only [consumeRecoveryCode, insertAudit, run_lift_bind_eq_ok_iff] at ran
  obtain ⟨_, -, ran⟩ := ran
  split at ran
  case isTrue =>
    obtain ⟨rfl, rfl⟩ := Prod.mk.inj (Except.ok.inj ran)
    exact .recoveryCodeDenied request
  case isFalse =>
    simp only [run_get_bind, run_updateReturning_bind_eq_ok_iff] at ran
    obtain ⟨-, ran⟩ | ⟨verifier, found, _, verifiers_rows, ran⟩ := ran
    · obtain ⟨rfl, rfl⟩ := Prod.mk.inj (Except.ok.inj ran)
      exact .recoveryCodeDenied request
    · simp only [Option.isNone_some, Bool.false_eq_true, if_false,
        run_insert_bind_eq_ok_iff, run_pure, Except.ok.injEq,
        Prod.mk.injEq] at ran
      obtain ⟨-, _, audit_rows, rfl, rfl⟩ := ran
      exact .recoveryCodeConsumed generated found verifiers_rows audit_rows

/-! ## Sessions -/

theorem createRefreshSession_effect
    {request : CreateRefreshSession}
    {result : RefreshSessionRecord}
    (ran : (createRefreshSession generated request).run store =
      .ok (result, later)) :
    Effect unicode store (.createRefreshSession request) result later := by
  simp only [createRefreshSession, insertAudit, run_lift_bind_eq_ok_iff,
    run_insertWhere_bind_eq_ok_iff, run_insert_bind_eq_ok_iff, run_pure,
    Except.ok.injEq, Prod.mk.injEq] at ran
  obtain ⟨_, -, _, -, account_active, -, _, families_rows, -, _,
    credentials_rows, -, _, access_rows, -, _, audit_rows, rfl, rfl⟩ := ran
  exact .sessionCreated generated account_active families_rows credentials_rows
    access_rows audit_rows

/-- An unused credential is the one that its rotation consumes. -/
theorem count_selects_eq_one
    {credential : RefreshCredentialRow}
    (credential_mem : credential ∈ store.refreshCredentials.rows)
    (unused : credential.consumedAt = none) :
    store.refreshCredentials.count
      (RotateRefreshCredential.selects credential) = 1 := by
  apply Table.count_eq_one _ credential_mem
  · exact decide_eq_true ⟨rfl, unused⟩
  · intro first second first_selected second_selected apart
    apply apart.1
    rw [(of_decide_eq_true first_selected).1,
      (of_decide_eq_true second_selected).1]

/-- A credential that is still unused is rotated. -/
theorem run_rotateLockedRefreshCredential
    {request : RotateRefreshCredential}
    {credential : RefreshCredentialRow}
    {result : RefreshRotation}
    (credential_mem : credential ∈ store.refreshCredentials.rows)
    (unused : credential.consumedAt = none)
    (ran : (rotateLockedRefreshCredential generated request credential).run
      store = .ok (result, later)) :
    ∃ refreshCredentials accessSessions auditEvents,
      refreshCredentials.rows =
          store.refreshCredentials.rows.map
              (modify (RotateRefreshCredential.selects credential)
                (RotateRefreshCredential.consumes generated)) ++
            [request.successor generated credential] ∧
        accessSessions.rows =
          store.accessSessions.rows.map
              (modify (selectsAccess credential.familyId)
                (revokesAccess generated)) ++
            [request.successorAccess generated credential] ∧
        auditEvents.rows =
          store.auditEvents.rows ++ [request.audit generated credential] ∧
        result = .rotated (request.record generated credential) ∧
        later =
          { store with
            refreshCredentials := refreshCredentials
            accessSessions := accessSessions
            auditEvents := auditEvents } := by
  have single : (refreshCredentialsRelation.table store).count
      (RotateRefreshCredential.selects credential) = 1 :=
    count_selects_eq_one credential_mem unused
  unfold rotateLockedRefreshCredential at ran
  rw [run_bind_eq_ok_iff] at ran
  simp only [run_update_eq_ok_iff] at ran
  obtain ⟨_, _, ⟨rfl, _, consumed, rfl⟩, ran⟩ := ran
  rw [if_neg (not_not.mpr single), run_insert_bind_eq_ok_iff] at ran
  obtain ⟨-, _, credentials_rows, ran⟩ := ran
  rw [run_bind_eq_ok_iff] at ran
  simp only [run_update_eq_ok_iff, insertAudit, run_insert_bind_eq_ok_iff,
    run_pure, Except.ok.injEq, Prod.mk.injEq] at ran
  obtain ⟨_, _, ⟨-, _, revoked, rfl⟩, -, _, access_rows, -, _, audit_rows, rfl,
    rfl⟩ := ran
  refine ⟨_, _, _, ?_, ?_, audit_rows, rfl, rfl⟩
  · exact credentials_rows.trans (congrArg (· ++ _) consumed)
  · exact access_rows.trans (congrArg (· ++ _) revoked)

/-- A revocation takes effect on the one live family that it names, or finds
none. -/
theorem run_revokeSessionFamily
    {request : RevokeRefreshSessionFamily}
    {reason : String}
    {result : Bool}
    (ran : (revokeSessionFamily generated request reason).run store =
      .ok (result, later)) :
    (result = false ∧ store.sessionFamilies.count request.selects = 0 ∧
        later = store) ∨
      (result = true ∧ store.sessionFamilies.count request.selects = 1 ∧
        ∃ sessionFamilies accessSessions auditEvents,
          sessionFamilies.rows =
              store.sessionFamilies.rows.map
                (modify request.selects
                  (RevokeRefreshSessionFamily.revokes generated reason)) ∧
            accessSessions.rows =
              store.accessSessions.rows.map
                (modify (selectsAccess request.familyId)
                  (revokesAccess generated)) ∧
            auditEvents.rows =
              store.auditEvents.rows ++ [request.audit generated reason] ∧
            later =
              { store with
                sessionFamilies := sessionFamilies
                accessSessions := accessSessions
                auditEvents := auditEvents }) := by
  have bounded :
      (sessionFamiliesRelation.table store).count request.selects ≤ 1 := by
    apply Table.count_le_one
    intro first second first_selected second_selected apart
    apply apart
    rw [(of_decide_eq_true first_selected).1,
      (of_decide_eq_true second_selected).1]
  unfold revokeSessionFamily at ran
  rw [run_bind_eq_ok_iff] at ran
  simp only [run_update_eq_ok_iff] at ran
  obtain ⟨_, _, ⟨rfl, _, families_rows, rfl⟩, ran⟩ := ran
  by_cases single :
      (sessionFamiliesRelation.table store).count request.selects = 1
  · rw [if_pos single, run_bind_eq_ok_iff] at ran
    simp only [run_update_eq_ok_iff, insertAudit, run_insert_bind_eq_ok_iff,
      run_pure, Except.ok.injEq, Prod.mk.injEq] at ran
    obtain ⟨_, _, ⟨-, _, access_rows, rfl⟩, -, _, audit_rows, rfl, rfl⟩ := ran
    exact .inr ⟨decide_eq_true single, single, _, _, _, families_rows,
      access_rows, audit_rows, rfl⟩
  · have none :
        (sessionFamiliesRelation.table store).count request.selects = 0 := by
      omega
    rw [if_neg single] at ran
    simp only [run_pure, Except.ok.injEq, Prod.mk.injEq] at ran
    obtain ⟨rfl, rfl⟩ := ran
    refine .inl ⟨decide_eq_false single, none, ?_⟩
    rw [Table.eq_of_not_selects (Table.not_selects_of_count_eq_zero none)
      families_rows]
    exact sessionFamiliesRelation.replace_table store

/-- The presented credential with the rows it was joined with. -/
theorem of_presentedCredential
    {digest : OpaqueTokenDigest}
    {credential : RefreshCredentialRow}
    {family : SessionFamilyRow}
    {account : AccountRow}
    (presented : store.presentedCredential digest =
      some (credential, family, account)) :
    (credential ∈ store.refreshCredentials.rows ∧
        credential.tokenDigest = digest.asBytes) ∧
      (family ∈ store.sessionFamilies.rows ∧
        family.id = credential.familyId) ∧
      account ∈ store.accounts.rows ∧
        account.tenantId = credential.tenantId ∧
          account.id = credential.accountId := by
  simp only [presentedCredential, Option.bind_eq_bind, Option.bind_eq_some_iff,
    Option.pure_def, Option.some.injEq, Prod.mk.injEq] at presented
  obtain ⟨_, credential_found, _, family_found, _, account_found, rfl, rfl,
    rfl⟩ := presented
  have credential_found := Table.find?_eq_some credential_found
  have family_found := Table.find?_eq_some family_found
  have account_found := Table.find?_eq_some account_found
  exact ⟨⟨credential_found.1, of_decide_eq_true credential_found.2⟩,
    ⟨family_found.1, of_decide_eq_true family_found.2⟩, account_found.1,
    of_decide_eq_true account_found.2⟩

theorem rotateRefreshCredential_effect
    {request : RotateRefreshCredential}
    {result : RefreshRotation}
    (ran : (rotateRefreshCredential generated request).run store =
      .ok (result, later)) :
    Effect unicode store (.rotateRefreshCredential request) result later := by
  simp only [rotateRefreshCredential, run_lift_bind_eq_ok_iff,
    run_get_bind] at ran
  obtain ⟨_, -, _, -, ran⟩ := ran
  cases presented : store.presentedCredential request.presentedDigest with
  | none =>
      rw [presented] at ran
      obtain ⟨rfl, rfl⟩ := Prod.mk.inj (Except.ok.inj ran)
      refine .rotationDenied generated ?_
      intro _ _ _ other
      rw [presented] at other
      cases other
  | some found =>
      obtain ⟨credential, family, account⟩ := found
      obtain ⟨⟨credential_mem, -⟩, ⟨family_mem, family_id⟩, -⟩ :=
        of_presentedCredential presented
      have denied
          (unavailable : family.revokedAt.isSome = true ∨
            credential.consumedAt = none ∧
              (credential.expiresAt ≤ generated.now ∨
                account.state ≠ .active)) :
          Effect unicode store (.rotateRefreshCredential request) .denied
            store := by
        refine .rotationDenied generated ?_
        intro _ _ _ other
        rw [presented] at other
        obtain ⟨rfl, rfl, rfl⟩ := other
        exact unavailable
      rw [presented] at ran
      simp only at ran
      split at ran
      case isTrue used =>
        split at ran
        case isTrue live =>
          rw [run_bind_eq_ok_iff] at ran
          obtain ⟨_, _, revoked, ran⟩ := ran
          obtain ⟨rfl, rfl⟩ := Prod.mk.inj (Except.ok.inj ran)
          have live := Option.isNone_iff_eq_none.mp live
          obtain ⟨-, none, rfl⟩ | ⟨-, selected, _, _, _, families_rows,
            access_rows, audit_rows, rfl⟩ := run_revokeSessionFamily revoked
          · refine .reuseUnscoped presented live ?_
            have other := Table.not_selects_of_count_eq_zero none family_mem
            by_contra same
            push Not at same
            exact of_decide_eq_false other
              ⟨family_id, same.1, same.2, live⟩
          · exact .reuseRevoked generated presented used live rfl selected
              families_rows access_rows audit_rows
        case isFalse revoked =>
          obtain ⟨rfl, rfl⟩ := Prod.mk.inj (Except.ok.inj ran)
          exact denied
            (.inl (Option.isSome_iff_ne_none.mpr (by simpa using revoked)))
      case isFalse unused =>
        have unused : credential.consumedAt = none := by simpa using unused
        split at ran
        case isTrue unavailable =>
          obtain ⟨rfl, rfl⟩ := Prod.mk.inj (Except.ok.inj ran)
          apply denied
          rcases unavailable with revoked | expired | inactive
          · exact .inl revoked
          · exact .inr ⟨unused, .inl expired⟩
          · refine .inr ⟨unused, .inr ?_⟩
            intro active
            rw [active] at inactive
            exact absurd inactive (by decide)
        case isFalse available =>
          push Not at available
          obtain ⟨live, unexpired, active⟩ := available
          obtain ⟨_, _, _, credentials_rows, access_rows, audit_rows, rfl,
            rfl⟩ := run_rotateLockedRefreshCredential credential_mem unused ran
          refine .credentialRotated generated presented unused ?_ ?_ ?_
            credentials_rows access_rows audit_rows
          · simpa using live
          · exact OffsetDateTime.not_le.mp unexpired
          · apply AccountState.permitsSession_eq_true_iff.mp
            simpa using active

theorem revokeRefreshSessionFamily_effect
    {request : RevokeRefreshSessionFamily}
    {result : Bool}
    (ran : (revokeRefreshSessionFamily generated request).run store =
      .ok (result, later)) :
    Effect unicode store (.revokeRefreshSessionFamily request) result
      later := by
  rw [revokeRefreshSessionFamily, run_lift_bind_eq_ok_iff] at ran
  obtain ⟨_, -, ran⟩ := ran
  obtain ⟨rfl, -, rfl⟩ | ⟨rfl, selected, _, _, _, families_rows, access_rows,
    audit_rows, rfl⟩ := run_revokeSessionFamily ran
  · exact .revocationDenied request
  · exact .familyRevoked generated selected families_rows access_rows audit_rows

/-! ## One-use tokens -/

theorem createStepUpGrant_effect
    {request : CreateStepUpGrant}
    {result : StepUpGrantRecord}
    (ran : (createStepUpGrant generated request).run store =
      .ok (result, later)) :
    Effect unicode store (.createStepUpGrant request) result later := by
  simp only [createStepUpGrant, insertAudit, run_lift_bind_eq_ok_iff,
    rejectIf_eq_ok_iff, OffsetDateTime.not_le, run_insertWhere_bind_eq_ok_iff,
    run_insert_bind_eq_ok_iff, run_pure, Except.ok.injEq,
    Prod.mk.injEq] at ran
  obtain ⟨_, -, _, unexpired, family_live, -, _, grants_rows, -, _, audit_rows,
    rfl, rfl⟩ := ran
  exact .grantCreated generated unexpired family_live grants_rows audit_rows

theorem consumeStepUpGrant_effect
    {request : ConsumeStepUpGrant}
    {result : Bool}
    (ran : (consumeStepUpGrant generated request).run store =
      .ok (result, later)) :
    Effect unicode store (.consumeStepUpGrant request) result later := by
  simp only [consumeStepUpGrant, run_lift_bind_eq_ok_iff, run_get_bind,
    run_updateReturning_bind_eq_ok_iff] at ran
  obtain ⟨_, -, ⟨-, ran⟩ | ⟨grant, found, _, grants_rows, ran⟩⟩ := ran
  · obtain ⟨rfl, rfl⟩ := Prod.mk.inj (Except.ok.inj ran)
    exact .grantDenied request
  · have family_live := (Bool.and_eq_true _ _ ▸ (Table.find?_eq_some found).2).2
    simp only [family_live, Bool.and_true] at found grants_rows
    simp only [insertAudit, run_insert_bind_eq_ok_iff, run_pure,
      Except.ok.injEq, Prod.mk.injEq] at ran
    obtain ⟨-, _, audit_rows, rfl, rfl⟩ := ran
    exact .grantConsumed generated found family_live grants_rows audit_rows

theorem createLoginTransaction_effect
    {request : CreateLoginTransaction}
    {result : LoginTransactionRecord}
    (ran : (createLoginTransaction generated request).run store =
      .ok (result, later)) :
    Effect unicode store (.createLoginTransaction request) result later := by
  simp only [createLoginTransaction, insertAudit, run_lift_bind_eq_ok_iff,
    run_insertWhere_bind_eq_ok_iff, run_insert_bind_eq_ok_iff, run_pure,
    Except.ok.injEq, Prod.mk.injEq] at ran
  obtain ⟨_, -, _, -, account_exists, -, _, transactions_rows, -, _, audit_rows,
    rfl, rfl⟩ := ran
  exact .loginTransactionCreated generated account_exists transactions_rows
    audit_rows

theorem consumeLoginTransaction_effect
    {request : ConsumeLoginTransaction}
    {result : LoginTransactionRecord}
    (ran : (consumeLoginTransaction generated request).run store =
      .ok (result, later)) :
    Effect unicode store (.consumeLoginTransaction request) result later := by
  simp only [consumeLoginTransaction, run_lift_bind_eq_ok_iff,
    run_updateReturning_bind_eq_ok_iff] at ran
  obtain ⟨_, -, ⟨-, ran⟩ | ⟨transaction, found, _, transactions_rows, ran⟩⟩ :=
    ran
  · exact absurd ran nofun
  · simp only [insertAudit, run_insert_bind_eq_ok_iff, run_pure,
      Except.ok.injEq, Prod.mk.injEq] at ran
    obtain ⟨-, _, audit_rows, rfl, rfl⟩ := ran
    change Effect unicode store (.consumeLoginTransaction request)
      (request.record transaction) _
    exact .loginTransactionConsumed generated found transactions_rows audit_rows

/-! ## Passkeys and federation -/

theorem createWebauthnCeremony_effect
    {request : CreateWebauthnCeremony}
    {result : Unit}
    (ran : (createWebauthnCeremony generated request).run store =
      .ok (result, later)) :
    Effect unicode store (.createWebauthnCeremony request) result later := by
  simp only [createWebauthnCeremony, insertAudit, run_lift_bind_eq_ok_iff,
    run_insertWhere_bind_eq_ok_iff, run_insert_bind_eq_ok_iff,
    run_insert_eq_ok_iff] at ran
  obtain ⟨_, -, _, -, account_usable, -, _, ceremonies_rows, -, _, audit_rows,
    rfl⟩ := ran
  exact .ceremonyCreated generated account_usable ceremonies_rows audit_rows

theorem consumeWebauthnCeremony_effect
    {request : ConsumeWebauthnCeremony}
    {result : WebauthnCeremonyRecord}
    (ran : (consumeWebauthnCeremony generated request).run store =
      .ok (result, later)) :
    Effect unicode store (.consumeWebauthnCeremony request) result later := by
  simp only [consumeWebauthnCeremony, run_lift_bind_eq_ok_iff,
    run_updateReturning_bind_eq_ok_iff] at ran
  obtain ⟨_, -, ⟨-, ran⟩ | ⟨ceremony, found, _, ceremonies_rows, ran⟩⟩ := ran
  · exact absurd ran nofun
  · simp only [insertAudit, run_insert_bind_eq_ok_iff, run_pure,
      Except.ok.injEq, Prod.mk.injEq] at ran
    obtain ⟨-, _, audit_rows, rfl, rfl⟩ := ran
    change Effect unicode store (.consumeWebauthnCeremony request)
      (ConsumeWebauthnCeremony.record ceremony) _
    exact .ceremonyConsumed generated found ceremonies_rows audit_rows

theorem registerWebauthnPasskey_effect
    {request : RegisterWebauthnPasskey}
    {result : Unit}
    (ran : (registerWebauthnPasskey generated request).run store =
      .ok (result, later)) :
    Effect unicode store (.registerWebauthnPasskey request) result later := by
  simp only [registerWebauthnPasskey, insertAudit, run_lift_bind_eq_ok_iff,
    run_insertWhere_bind_eq_ok_iff, run_insert_bind_eq_ok_iff,
    run_insert_eq_ok_iff] at ran
  obtain ⟨_, -, _, -, _, -, account_active, -, _, passkeys_rows, -, _,
    audit_rows, rfl⟩ := ran
  exact .passkeyRegistered generated account_active passkeys_rows audit_rows

theorem updateWebauthnPasskey_effect
    {request : UpdateWebauthnPasskey}
    {result : Unit}
    (ran : (updateWebauthnPasskey generated request).run store =
      .ok (result, later)) :
    Effect unicode store (.updateWebauthnPasskey request) result later := by
  simp only [updateWebauthnPasskey, run_get_bind, run_bind_eq_ok_iff,
    run_update_eq_ok_iff, run_lift_eq_ok_iff, rejectIf_eq_ok_iff,
    Decidable.not_not] at ran
  obtain ⟨_, _, ⟨rfl, _, passkeys_rows, rfl⟩, selected, rfl⟩ := ran
  have account_active := Table.count_and_eq_one selected
  simp only [account_active, Bool.and_true] at selected passkeys_rows
  exact .passkeyUpdated generated account_active selected passkeys_rows

theorem recordFederationReplay_effect
    {request : RecordFederationReplay}
    {result : Bool}
    (ran : (recordFederationReplay generated request).run store =
      .ok (result, later)) :
    Effect unicode store (.recordFederationReplay request) result later := by
  simp only [recordFederationReplay, run_lift_bind_eq_ok_iff,
    rejectIf_eq_ok_iff, OffsetDateTime.not_le] at ran
  obtain ⟨_, -, _, unexpired, ran⟩ := ran
  rw [run_bind_eq_ok_iff] at ran
  simp only [run_insertWhere_eq_ok_iff, run_insert_eq_ok_iff] at ran
  obtain ⟨_, _, ⟨recorded, rfl, rfl⟩ | ⟨-, rfl, admitted, _, replays_rows,
    rfl⟩, ran⟩ := ran
  · obtain ⟨rfl, rfl⟩ := Prod.mk.inj (Except.ok.inj ran)
    exact .replayRefused (Bool.not_eq_false' _ ▸ recorded)
  · simp only [ne_eq, not_true_eq_false, if_false, insertAudit,
      run_insert_bind_eq_ok_iff, run_pure, Except.ok.injEq,
      Prod.mk.injEq] at ran
    obtain ⟨-, _, audit_rows, rfl, rfl⟩ := ran
    have peer_exists := (Bool.and_eq_true _ _ ▸
      (Bool.and_eq_true _ _ ▸ admitted).1).2
    exact .replayRecorded generated unexpired peer_exists replays_rows
      audit_rows

/-! ## Every call -/

/-- A read returns what it reads and changes nothing. -/
theorem run_read
    {value result : α}
    (ran : (pure value : StoreTransaction α).run store = .ok (result, later)) :
    result = value ∧ later = store := by
  obtain ⟨rfl, rfl⟩ := Prod.mk.inj (Except.ok.inj ran)
  exact ⟨rfl, rfl⟩

/-- A call whose transaction succeeds has one of the effects. -/
theorem effect_of_run
    {call : Call}
    {result : call.Result}
    (ran : (call.run unicode generated).run store = .ok (result, later)) :
    Effect unicode store call result later := by
  cases call with
  | bootstrapTenant command => exact bootstrapTenant_effect ran
  | inviteAccount command => exact inviteAccount_effect ran
  | changeRole command => exact changeRole_effect ran
  | storePasswordVerifier request => exact storePasswordVerifier_effect ran
  | loginAccount address =>
      obtain ⟨rfl, rfl⟩ := run_read ran
      exact .accountFound address
  | userAddressForAccount tenant account =>
      obtain ⟨found, rfl⟩ := run_lift_eq_ok_iff.mp ran
      exact .addressFound found
  | rolesForAccount tenant account =>
      obtain ⟨rfl, rfl⟩ := run_read ran
      exact .rolesFound tenant account
  | sessionAuthorizationContext tenant account =>
      obtain ⟨rfl, rfl⟩ := run_read ran
      exact .contextFound tenant account
  | hasActiveTotpFactor tenant account =>
      obtain ⟨rfl, rfl⟩ := run_read ran
      exact .factorChecked tenant account
  | createTotpDataKeyEnvelope request =>
      exact createTotpDataKeyEnvelope_effect ran
  | totpDataKeyEnvelope reference =>
      obtain ⟨found, rfl⟩ := run_lift_eq_ok_iff.mp ran
      exact .envelopeFound found
  | createPendingTotpFactor request => exact createPendingTotpFactor_effect ran
  | activeTotpFactor tenant account =>
      obtain ⟨found, rfl⟩ := run_lift_eq_ok_iff.mp ran
      exact .activeFactorFound found
  | pendingTotpFactor tenant account factor =>
      obtain ⟨found, rfl⟩ := run_lift_eq_ok_iff.mp ran
      exact .pendingFactorFound found
  | activateTotpFactor request => exact activateTotpFactor_effect ran
  | consumeTotpStep request => exact consumeTotpStep_effect ran
  | replaceRecoveryCodeSet request => exact replaceRecoveryCodeSet_effect ran
  | consumeRecoveryCode request => exact consumeRecoveryCode_effect ran
  | accessSessionAuthorizationContext digest =>
      obtain ⟨rfl, rfl⟩ := run_read ran
      exact .accessChecked generated digest
  | createRefreshSession request => exact createRefreshSession_effect ran
  | rotateRefreshCredential request => exact rotateRefreshCredential_effect ran
  | revokeRefreshSessionFamily request =>
      exact revokeRefreshSessionFamily_effect ran
  | createStepUpGrant request => exact createStepUpGrant_effect ran
  | consumeStepUpGrant request => exact consumeStepUpGrant_effect ran
  | createLoginTransaction request => exact createLoginTransaction_effect ran
  | consumeLoginTransaction request => exact consumeLoginTransaction_effect ran
  | createWebauthnCeremony request => exact createWebauthnCeremony_effect ran
  | consumeWebauthnCeremony request => exact consumeWebauthnCeremony_effect ran
  | activeWebauthnPasskeys tenant account =>
      obtain ⟨rfl, rfl⟩ := run_read ran
      exact .passkeysFound tenant account
  | registerWebauthnPasskey request => exact registerWebauthnPasskey_effect ran
  | updateWebauthnPasskey request => exact updateWebauthnPasskey_effect ran
  | federationPeerMaterial localDomain remoteDomain =>
      obtain ⟨rfl, rfl⟩ := run_read ran
      exact .peerFound generated localDomain remoteDomain
  | recordFederationReplay request => exact recordFederationReplay_effect ran

/-- A call that answers with a result has one of the effects. -/
theorem Step.effect
    {call : Call}
    {result : call.Result}
    (step : Step unicode store call (.ok result) later) :
    Effect unicode store call result later := by
  cases step with
  | answers generated answered =>
      exact effect_of_run (commit_eq_ok_iff.mp answered)

/-- A call that answers with an error changes nothing. -/
theorem Step.eq_of_error
    {call : Call}
    {error : StoreError}
    (step : Step unicode store call (.error error) later) :
    later = store := by
  cases step with
  | answers generated answered => exact eq_of_commit_eq_error answered
  | fails => rfl

/-- What every effect preserves is preserved by every call. -/
theorem Step.preserves
    {Invariant : Store → Prop}
    (preserved : ∀ {call : Call} {result : call.Result},
      Effect unicode store call result later → Invariant later)
    (invariant : Invariant store)
    {call : Call}
    {reply : call.Reply}
    (step : Step unicode store call reply later) :
    Invariant later := by
  cases reply with
  | error error =>
      rw [step.eq_of_error]
      exact invariant
  | ok result => exact preserved step.effect

/-- What a successful call amounts to, as a function of its event. -/
def successful (amounts : (call : Call) → call.Result → Option χ) :
    Event Call Call.Reply → Option χ
  | ⟨call, .ok result⟩ => amounts call result
  | ⟨_, .error _⟩ => none

/-- What every effect keeps about the successful calls so far holds for every
run. -/
theorem invariant_of_successful
    {χ : Type}
    {amounts : (call : Call) → call.Result → Option χ}
    (Invariant : List χ → Store → Prop)
    (preserved : ∀ {amounted : List χ} {store later : Store} {call : Call}
        {result : call.Result},
      Invariant amounted store → Effect unicode store call result later →
        Invariant (amounted ++ (amounts call result).toList) later)
    {events : List (Event Call Call.Reply)}
    (trace : Trace (Step unicode) store events later)
    (invariant : Invariant [] store) :
    Invariant (events.filterMap (successful amounts)) later := by
  induction trace with
  | start => exact invariant
  | @next events state later call reply _ taken inductionHypothesis =>
      rw [List.filterMap_append, List.filterMap_cons, List.filterMap_nil]
      cases reply with
      | error error =>
          rw [taken.eq_of_error]
          dsimp only [successful]
          rw [List.append_nil]
          exact inductionHypothesis
      | ok result =>
          have kept := preserved inductionHypothesis taken.effect
          dsimp only [successful]
          cases amounts_eq : amounts call result <;>
            rw [amounts_eq] at kept <;> exact kept

/-- What every effect preserves is preserved by every run. -/
theorem invariant_of_trace
    {Invariant : Store → Prop}
    (preserved : ∀ {store later : Store} {call : Call} {result : call.Result},
      Invariant store → Effect unicode store call result later →
        Invariant later)
    {events : List (Event Call Call.Reply)}
    (trace : Trace (Step unicode) store events later)
    (invariant : Invariant store) :
    Invariant later := by
  refine trace.invariant ?_ invariant
  intro _ _ _ _ invariant step
  exact step.preserves (preserved invariant) invariant

/-! ## Audit events -/

/-- An audit event of an existing actor under an unused identifier is
written. -/
theorem exists_insertAudit
    {event : AuditEventRow}
    (tenant_exists : store.hasTenant event.tenantId = true)
    (actor_exists : event.actorId.all store.hasAccountId = true)
    (correlation : ¬UnsafeText 128 event.correlationId)
    (fresh : ∀ other ∈ store.auditEvents.rows, other.id ≠ event.id) :
    ∃ later, (insertAudit event).run store = .ok ((), later) := by
  have nonempty : 1 ≤ event.correlationId.length := by
    rw [Nat.one_le_iff_ne_zero, ← String.length_toList, ne_eq,
      List.length_eq_zero_iff, String.toList_eq_nil_iff]
    exact fun empty => correlation (.inl empty)
  have bounded : event.correlationId.length ≤ 128 := by
    apply (length_le_length_asBytes event.correlationId).trans
    exact Nat.le_of_not_lt fun long => correlation (.inr (.inl long))
  refine ⟨{ store with auditEvents := ⟨_, Table.pairwise_concat _ fresh⟩ },
    run_insert_eq_ok_iff.mpr ⟨?_, _, rfl, rfl⟩⟩
  change (store.hasTenant _ && event.actorId.all store.hasAccountId &&
    decide _) = true
  rw [tenant_exists, actor_exists, decide_eq_true ⟨nonempty, bounded⟩]
  rfl

/-! ## Scripted runs -/

/-- The database after a list of calls, each with the values that it drew. -/
def replay
    (unicode : Unicode)
    (store : Store)
    (script : List (Generated × Call)) : Store :=
  script.foldl
    (fun store (generated, call) =>
      ((call.run unicode generated).commit store).2)
    store

/-- A script is a run. -/
theorem exists_trace_replay (store : Store) (script : List (Generated × Call)) :
    ∃ events, Trace (Step unicode) store events
      (replay unicode store script) := by
  induction script generalizing store with
  | nil => exact ⟨[], .start⟩
  | cons entry script inductionHypothesis =>
      obtain ⟨generated, call⟩ := entry
      obtain ⟨events, trace⟩ := inductionHypothesis
        ((call.run unicode generated).commit store).2
      exact ⟨_, (Trace.single (.answers generated rfl)).append trace⟩

end Store

end Fabric
end Fcp
