import Fcp.Fabric.Store.Tenancy

/-!
# Reuse and revocation

A refresh credential that is presented again after its rotation ends its family,
and nothing of an ended family is usable afterwards.
-/

namespace Fcp
namespace Fabric

open Rust
open Sql
open Sql.Transaction
open Reactive

namespace Store

variable {unicode : Unicode}
variable {store later : Store}

/-! ## Ended families -/

/-- A family has been revoked. -/
def Revoked (store : Store) (family : Uuid) : Prop :=
  ∃ row ∈ store.sessionFamilies.rows, row.id = family ∧
    row.revokedAt.isSome = true

/-- A refresh credential of a family has been used. -/
def Exchanged
    (store : Store)
    (family : Uuid)
    (digest : OpaqueTokenDigest) : Prop :=
  ∃ row ∈ store.refreshCredentials.rows, row.familyId = family ∧
    row.tokenDigest = digest.asBytes ∧ row.consumedAt.isSome = true

/-- An access token was issued in a family. -/
def Issued (store : Store) (family : Uuid) (digest : OpaqueTokenDigest) : Prop :=
  ∃ row ∈ store.accessSessions.rows, row.familyId = family ∧
    row.tokenDigest = digest.asBytes

/-- An access token has been revoked. -/
def AccessRevoked (store : Store) (digest : OpaqueTokenDigest) : Prop :=
  ∃ row ∈ store.accessSessions.rows, row.tokenDigest = digest.asBytes ∧
    row.revokedAt.isSome = true

theorem Progress.revoked
    {family : Uuid}
    (progress : Progress store later)
    (revoked : store.Revoked family) :
    later.Revoked family := by
  obtain ⟨row, row_mem, rfl, row_revoked⟩ := revoked
  obtain ⟨next, next_mem, same, kept⟩ := progress.families row row_mem
  exact ⟨next, next_mem, congrArg Prod.fst same, kept row_revoked⟩

theorem Progress.exchanged
    {family : Uuid}
    {digest : OpaqueTokenDigest}
    (progress : Progress store later)
    (exchanged : store.Exchanged family digest) :
    later.Exchanged family digest := by
  obtain ⟨row, row_mem, rfl, row_digest, row_exchanged⟩ := exchanged
  obtain ⟨next, next_mem, same, kept⟩ := progress.credentials row row_mem
  exact ⟨next, next_mem, congrArg (·.2.2.2.1) same,
    (congrArg (·.2.2.2.2) same).trans row_digest, kept row_exchanged⟩

theorem Progress.issued
    {family : Uuid}
    {digest : OpaqueTokenDigest}
    (progress : Progress store later)
    (issued : store.Issued family digest) :
    later.Issued family digest := by
  obtain ⟨row, row_mem, rfl, row_digest⟩ := issued
  obtain ⟨next, next_mem, same, -⟩ := progress.accesses row row_mem
  exact ⟨next, next_mem, congrArg (·.2.2.2.1) same,
    (congrArg (·.2.2.2.2) same).trans row_digest⟩

theorem Progress.accessRevoked
    {digest : OpaqueTokenDigest}
    (progress : Progress store later)
    (revoked : store.AccessRevoked digest) :
    later.AccessRevoked digest := by
  obtain ⟨row, row_mem, row_digest, row_revoked⟩ := revoked
  obtain ⟨next, next_mem, same, kept⟩ := progress.accesses row row_mem
  exact ⟨next, next_mem, (congrArg (·.2.2.2.2) same).trans row_digest,
    kept row_revoked⟩

/-- No family row of a revoked family is live. -/
theorem Revoked.ne_none
    {family : SessionFamilyRow}
    (revoked : store.Revoked family.id)
    (family_mem : family ∈ store.sessionFamilies.rows) :
    family.revokedAt ≠ none := by
  obtain ⟨row, row_mem, same, row_revoked⟩ := revoked
  have current : row = family :=
    Table.eq_of_key (fun apart => apart) row_mem family_mem same
  exact Option.isSome_iff_ne_none.mp (current ▸ row_revoked)

/-- What an authenticated access session needs. -/
theorem of_accessSessionAuthorizationContext
    {now : OffsetDateTime}
    {digest : OpaqueTokenDigest}
    {authorization : AccessSessionAuthorization}
    (authenticated : store.accessSessionAuthorizationContext now digest =
      some authorization) :
    ∃ access ∈ store.accessSessions.rows, ∃ family ∈ store.sessionFamilies.rows,
      access.tokenDigest = digest.asBytes ∧ access.revokedAt = none ∧
        family.id = access.familyId ∧ family.revokedAt = none ∧
        authorization.familyId = access.familyId ∧
        authorization.context.tenantId = access.tenantId ∧
        authorization.context.accountId = access.accountId ∧
        authorization.context.roles =
          store.rolesForAccount access.tenantId access.accountId := by
  simp only [accessSessionAuthorizationContext, Option.bind_eq_bind,
    Option.bind_eq_some_iff, Option.pure_def, Option.some.injEq,
    Option.guard_eq_some'] at authenticated
  obtain ⟨access, access_found, family, family_found, _, live, account, -, _, -,
    rfl⟩ := authenticated
  obtain ⟨access_mem, access_selected⟩ := Table.find?_eq_some access_found
  obtain ⟨family_mem, family_selected⟩ := Table.find?_eq_some family_found
  obtain ⟨access_digest, access_live, -⟩ := of_decide_eq_true access_selected
  exact ⟨access, access_mem, family, family_mem, access_digest, access_live,
    of_decide_eq_true family_selected, Option.isNone_iff_eq_none.mp live, rfl,
    rfl, rfl, rfl⟩

/-! ## Steps of an ended family -/

/-- Nothing of a family is usable. -/
structure Ended (store : Store) (unicode : Unicode) (family : Uuid) : Prop where
  not_rotated : ∀ {credential : RefreshCredentialRow}
    {request : RotateRefreshCredential} {record : RefreshRotationRecord}
    {later : Store},
    credential ∈ store.refreshCredentials.rows →
      credential.familyId = family →
      credential.tokenDigest = request.presentedDigest.asBytes →
        ¬Step unicode store (.rotateRefreshCredential request)
          (.ok (.rotated record)) later
  not_authenticated : ∀ {digest : OpaqueTokenDigest}
    {authorization : AccessSessionAuthorization} {later : Store},
    store.Issued family digest →
      ¬Step unicode store (.accessSessionAuthorizationContext digest)
        (.ok (some authorization)) later
  not_granted : ∀ {request : CreateStepUpGrant} {record : StepUpGrantRecord}
    {later : Store},
    request.familyId = family →
      ¬Step unicode store (.createStepUpGrant request) (.ok record) later
  not_consumed : ∀ {request : ConsumeStepUpGrant} {later : Store},
    request.familyId = family →
      ¬Step unicode store (.consumeStepUpGrant request) (.ok true) later

/-- No credential of a revoked family is rotated. -/
theorem Revoked.not_rotated
    {family : Uuid}
    {credential : RefreshCredentialRow}
    {request : RotateRefreshCredential}
    {record : RefreshRotationRecord}
    (revoked : store.Revoked family)
    (credential_mem : credential ∈ store.refreshCredentials.rows)
    (credential_family : credential.familyId = family)
    (credential_digest : credential.tokenDigest =
      request.presentedDigest.asBytes) :
    ¬Step unicode store (.rotateRefreshCredential request)
      (.ok (.rotated record)) later := by
  intro step
  cases step.effect with
  | credentialRotated generated presented _ live =>
      obtain ⟨⟨other_mem, other_digest⟩, ⟨family_mem, family_id⟩, -⟩ :=
        of_presentedCredential presented
      have same := Table.eq_of_key (fun apart => apart.2.1) other_mem
        credential_mem (other_digest.trans credential_digest.symm)
      have family_eq := family_id.trans
        ((congrArg RefreshCredentialRow.familyId same).trans credential_family)
      exact Revoked.ne_none (family_eq ▸ revoked) family_mem live

/-- No access token issued in a revoked family authenticates. -/
theorem Revoked.not_authenticated
    {family : Uuid}
    {digest : OpaqueTokenDigest}
    {authorization : AccessSessionAuthorization}
    (revoked : store.Revoked family)
    (issued : store.Issued family digest) :
    ¬Step unicode store (.accessSessionAuthorizationContext digest)
      (.ok (some authorization)) later := by
  intro step
  generalize result_eq : some authorization = result at step
  cases step.effect with
  | accessChecked generated =>
      obtain ⟨access, access_mem, row, row_mem, access_digest, -, row_id, live,
        -⟩ := of_accessSessionAuthorizationContext result_eq.symm
      obtain ⟨other, other_mem, rfl, other_digest⟩ := issued
      have same : access = other :=
        Table.eq_of_key And.right access_mem other_mem
          (access_digest.trans other_digest.symm)
      exact Revoked.ne_none (row_id ▸ same ▸ revoked) row_mem live

/-- No grant of a revoked family is created. -/
theorem Revoked.not_granted
    {family : Uuid}
    {request : CreateStepUpGrant}
    {record : StepUpGrantRecord}
    (revoked : store.Revoked family)
    (request_family : request.familyId = family) :
    ¬Step unicode store (.createStepUpGrant request) (.ok record) later := by
  intro step
  subst request_family
  cases step.effect with
  | grantCreated generated _ family_live =>
      obtain ⟨row, row_mem, found⟩ :=
        List.any_eq_true.mp (Bool.and_eq_true _ _ ▸ family_live).1
      obtain ⟨row_id, -, -, live⟩ := of_decide_eq_true found
      exact Revoked.ne_none (row_id ▸ revoked) row_mem live

/-- No grant of a revoked family is consumed. -/
theorem Revoked.not_consumed
    {family : Uuid}
    {request : ConsumeStepUpGrant}
    (revoked : store.Revoked family)
    (request_family : request.familyId = family) :
    ¬Step unicode store (.consumeStepUpGrant request) (.ok true) later := by
  intro step
  subst request_family
  cases step.effect with
  | grantConsumed generated _ family_live =>
      obtain ⟨row, row_mem, found⟩ := List.any_eq_true.mp family_live
      obtain ⟨row_id, live⟩ := of_decide_eq_true found
      exact Revoked.ne_none (row_id ▸ revoked) row_mem live

theorem Revoked.ended
    {family : Uuid}
    (revoked : store.Revoked family) :
    store.Ended unicode family where
  not_rotated := revoked.not_rotated
  not_authenticated := revoked.not_authenticated
  not_granted := revoked.not_granted
  not_consumed := revoked.not_consumed

/-! ## Rotation -/

/-- A rotation spends the presented credential. -/
theorem exchanged_of_rotated
    {request : RotateRefreshCredential}
    {record : RefreshRotationRecord}
    (step : Step unicode store (.rotateRefreshCredential request)
      (.ok (.rotated record)) later) :
    later.Exchanged record.familyId request.presentedDigest := by
  cases step.effect with
  | @credentialRotated _ generated credential _ _ _ _ _ presented unused _ _ _
      credentials_rows =>
      obtain ⟨⟨credential_mem, credential_digest⟩, -⟩ :=
        of_presentedCredential presented
      have selected :
          RotateRefreshCredential.selects credential credential = true :=
        decide_eq_true ⟨rfl, unused⟩
      refine ⟨RotateRefreshCredential.consumes generated credential, ?_, rfl,
        credential_digest, rfl⟩
      rw [credentials_rows]
      apply List.mem_append_left
      exact List.mem_map.mpr
        ⟨credential, credential_mem, modify_of_selects selected⟩

/-- A rotation revokes every access token that its family has. -/
theorem accessRevoked_of_rotated
    {request : RotateRefreshCredential}
    {record : RefreshRotationRecord}
    {digest : OpaqueTokenDigest}
    (issued : store.Issued record.familyId digest)
    (step : Step unicode store (.rotateRefreshCredential request)
      (.ok (.rotated record)) later) :
    later.AccessRevoked digest := by
  obtain ⟨access, access_mem, access_family, access_digest⟩ := issued
  cases step.effect with
  | @credentialRotated _ generated credential _ _ _ _ _ _ _ _ _ _ _
      access_rows =>
      refine ⟨modify (selectsAccess credential.familyId)
        (revokesAccess generated) access, ?_, ?_, ?_⟩
      · rw [access_rows]
        exact List.mem_append_left _ (List.mem_map_of_mem access_mem)
      · rw [modify_column AccessSessionRow.tokenDigest]
        · exact access_digest
        · exact fun _ => rfl
      · unfold Sql.modify
        split
        case isTrue => rfl
        case isFalse other =>
          by_contra live
          exact other (decide_eq_true ⟨access_family, by simpa using live⟩)

/-- A revoked access token does not authenticate. -/
theorem AccessRevoked.not_authenticated
    {digest : OpaqueTokenDigest}
    {authorization : AccessSessionAuthorization}
    (revoked : store.AccessRevoked digest) :
    ¬Step unicode store (.accessSessionAuthorizationContext digest)
      (.ok (some authorization)) later := by
  intro step
  generalize result_eq : some authorization = result at step
  cases step.effect with
  | accessChecked generated =>
      obtain ⟨access, access_mem, _, _, access_digest, live, -⟩ :=
        of_accessSessionAuthorizationContext result_eq.symm
      obtain ⟨other, other_mem, other_digest, other_revoked⟩ := revoked
      have same : access = other :=
        Table.eq_of_key And.right access_mem other_mem
          (access_digest.trans other_digest.symm)
      exact Option.isSome_iff_ne_none.mp other_revoked (same ▸ live)

/-! ## Reuse -/

/-- A presented credential is found with its family and the account that owns
both. -/
theorem presentedCredential_of_mem
    {credential : RefreshCredentialRow}
    {row : SessionFamilyRow}
    {account : AccountRow}
    {digest : OpaqueTokenDigest}
    (credential_mem : credential ∈ store.refreshCredentials.rows)
    (credential_digest : credential.tokenDigest = digest.asBytes)
    (row_mem : row ∈ store.sessionFamilies.rows)
    (row_id : row.id = credential.familyId)
    (account_mem : account ∈ store.accounts.rows)
    (account_tenant : account.tenantId = credential.tenantId)
    (account_id : account.id = credential.accountId) :
    store.presentedCredential digest = some (credential, row, account) := by
  have credential_found : store.refreshCredentials.find?
      (fun row => row.tokenDigest = digest.asBytes) = some credential := by
    apply Table.find?_of_mem _ credential_mem (decide_eq_true credential_digest)
    intro first second first_selected second_selected
    exact Table.not_apart_of_key (fun apart => apart.2.1)
      (of_decide_eq_true first_selected) (of_decide_eq_true second_selected)
  have row_found : store.sessionFamilies.find?
      (fun other => other.id = credential.familyId) = some row := by
    apply Table.find?_of_mem _ row_mem (decide_eq_true row_id)
    intro first second first_selected second_selected
    exact Table.not_apart_of_key (fun apart => apart)
      (of_decide_eq_true first_selected) (of_decide_eq_true second_selected)
  have account_found :=
    account_of_mem account_mem account_tenant account_id
  simp only [presentedCredential, credential_found, row_found, account_found,
    Option.bind_eq_bind, Option.bind_some, Option.pure_def]

/-- An exchanged credential is found with its family. -/
theorem Exchanged.exists_presented
    {family : Uuid}
    {digest : OpaqueTokenDigest}
    (families : store.FamilyInvariant)
    (owners : store.Tenancy)
    (exchanged : store.Exchanged family digest) :
    ∃ credential row account,
      store.presentedCredential digest = some (credential, row, account) ∧
        credential.consumedAt.isSome = true ∧ credential.familyId = family ∧
        row ∈ store.sessionFamilies.rows ∧ row.id = family ∧
        row.tenantId = credential.tenantId ∧
        row.accountId = credential.accountId := by
  obtain ⟨credential, credential_mem, rfl, credential_digest, used⟩ := exchanged
  obtain ⟨row, row_mem, row_id, row_tenant, row_account⟩ :=
    families.credential_belongs credential credential_mem
  obtain ⟨account, account_mem, account_id, account_tenant⟩ :=
    hasAccount_eq_true_iff.mp (owners.families row row_mem)
  exact ⟨credential, row, account,
    presentedCredential_of_mem credential_mem credential_digest row_mem row_id
      account_mem (account_tenant.trans row_tenant)
      (account_id.trans row_account),
    used, rfl, row_mem, row_id, row_tenant, row_account⟩

/-- An exchanged credential that is presented again is not rotated, and its
family is revoked afterwards. -/
theorem Exchanged.revoked
    {family : Uuid}
    {request : RotateRefreshCredential}
    {result : RefreshRotation}
    (families : store.FamilyInvariant)
    (owners : store.Tenancy)
    (exchanged : store.Exchanged family request.presentedDigest)
    (step : Step unicode store (.rotateRefreshCredential request) (.ok result)
      later) :
    later.Revoked family ∧ ∀ record, result ≠ .rotated record := by
  obtain ⟨credential, row, account, presented, used, rfl, row_mem, row_id,
    row_tenant, row_account⟩ := exchanged.exists_presented families owners
  have used_ne : credential.consumedAt ≠ none :=
    Option.isSome_iff_ne_none.mp used
  cases step.effect with
  | credentialRotated _ other unused =>
      rw [presented] at other
      obtain ⟨rfl, rfl, rfl⟩ := other
      exact absurd unused used_ne
  | reuseRevoked generated other _ live revocation_eq _ families_rows =>
      rw [presented] at other
      obtain ⟨rfl, rfl, rfl⟩ := other
      subst revocation_eq
      refine ⟨⟨RevokeRefreshSessionFamily.revokes generated
        "refresh_token_reuse" row, ?_, row_id, rfl⟩, by simp⟩
      rw [families_rows]
      exact List.mem_map.mpr ⟨row, row_mem, modify_of_selects
        (decide_eq_true ⟨row_id, row_tenant, row_account, live⟩)⟩
  | reuseUnscoped other _ foreign =>
      rw [presented] at other
      obtain ⟨rfl, rfl, rfl⟩ := other
      rcases foreign with foreign | foreign
      · exact absurd row_tenant foreign
      · exact absurd row_account foreign
  | rotationDenied generated unavailable =>
      refine ⟨?_, by simp⟩
      rcases unavailable _ _ _ presented with revoked | ⟨unused, -⟩
      · exact ⟨row, row_mem, row_id, revoked⟩
      · exact absurd unused used_ne

/-- A revocation by an existing actor is answered. -/
theorem exists_revokeSessionFamily
    {request : RevokeRefreshSessionFamily}
    {generated : Generated}
    {reason : String}
    (tenant_exists : store.hasTenant request.tenantId = true)
    (account_exists : store.hasAccountId request.accountId = true)
    (correlation : ¬UnsafeText 128 request.correlationId)
    (fresh : ∀ event ∈ store.auditEvents.rows, event.id ≠ generated.uuid 0) :
    ∃ result later, (revokeSessionFamily generated request reason).run store =
      .ok (result, later) := by
  obtain ⟨families, families_rows⟩ := store.sessionFamilies.exists_map_modify
    request.selects (RevokeRefreshSessionFamily.revokes generated reason) <| by
      intro first second apart
      unfold SessionFamilyRow.Apart
      rw [modify_column SessionFamilyRow.id, modify_column SessionFamilyRow.id]
      · exact apart
      · exact fun _ => rfl
      · exact fun _ => rfl
  obtain ⟨accesses, access_rows⟩ := store.accessSessions.exists_map_modify
    (selectsAccess request.familyId) (revokesAccess generated) <| by
      intro first second apart
      unfold Sql.modify
      split <;> split <;> exact apart
  unfold revokeSessionFamily
  by_cases single :
      (sessionFamiliesRelation.table store).count request.selects = 1
  · obtain ⟨later, audited⟩ :
        ∃ later, (insertAudit (request.audit generated reason)).run
          { store with sessionFamilies := families, accessSessions := accesses } =
            .ok ((), later) :=
      exists_insertAudit tenant_exists account_exists correlation fresh
    refine ⟨true, later, run_bind_eq_ok_iff.mpr ⟨_, _,
      run_update_eq_ok_iff.mpr ⟨rfl, families, families_rows, rfl⟩, ?_⟩⟩
    rw [if_pos single]
    refine run_bind_eq_ok_iff.mpr ⟨_, _,
      run_update_eq_ok_iff.mpr ⟨rfl, accesses, access_rows, rfl⟩, ?_⟩
    refine run_bind_eq_ok_iff.mpr ⟨_, _, audited, ?_⟩
    rw [decide_eq_true single, run_pure]
  · refine ⟨false, { store with sessionFamilies := families },
      run_bind_eq_ok_iff.mpr ⟨_, _,
        run_update_eq_ok_iff.mpr ⟨rfl, families, families_rows, rfl⟩, ?_⟩⟩
    rw [if_neg single, decide_eq_false single, run_pure]
    rfl

/-- An exchanged credential that is presented again under a valid correlation
identifier and valid expiries is answered. -/
theorem Exchanged.exists_answer
    {family : Uuid}
    {request : RotateRefreshCredential}
    {generated : Generated}
    (families : store.FamilyInvariant)
    (owners : store.Tenancy)
    (exchanged : store.Exchanged family request.presentedDigest)
    (correlation : ¬UnsafeText 128 request.correlationId)
    (refresh_later : generated.now < request.successorExpiresAt)
    (access_later : generated.now < request.successorAccessExpiresAt)
    (fresh : ∀ event ∈ store.auditEvents.rows, event.id ≠ generated.uuid 0) :
    ∃ result later, (Call.run unicode generated
      (.rotateRefreshCredential request)).commit store =
        (.ok result, later) := by
  obtain ⟨credential, row, account, presented, used, rfl, row_mem, row_id,
    row_tenant, row_account⟩ := exchanged.exists_presented families owners
  have unexpired : ¬(request.successorExpiresAt ≤ generated.now ∨
      request.successorAccessExpiresAt ≤ generated.now) := by
    rw [not_or, OffsetDateTime.not_le, OffsetDateTime.not_le]
    exact ⟨refresh_later, access_later⟩
  simp only [commit_eq_ok_iff]
  change ∃ result later, (rotateRefreshCredential generated request).run store =
    .ok (result, later)
  simp only [rotateRefreshCredential, validateCorrelationId,
    run_lift_bind_eq_ok_iff, validateCorrelationId_eq_ok_iff, run_get_bind,
    rejectIf_eq_ok_iff, presented, used, if_true]
  cases live : row.revokedAt with
  | some revokedAt =>
      exact ⟨.denied, store, (), correlation, (), unexpired, rfl⟩
  | none =>
      obtain ⟨owner, owner_mem, owner_id, owner_tenant⟩ :=
        hasAccount_eq_true_iff.mp (owners.families row row_mem)
      have tenant_exists := owners.accounts owner owner_mem
      rw [owner_tenant, row_tenant] at tenant_exists
      have account_exists : store.hasAccountId credential.accountId = true := by
        refine List.any_eq_true.mpr ⟨owner, owner_mem, decide_eq_true ?_⟩
        rw [owner_id, row_account]
      obtain ⟨_, later, revoked⟩ :
          ∃ result later, (revokeSessionFamily generated
            { tenantId := credential.tenantId
              accountId := credential.accountId
              familyId := credential.familyId
              correlationId := request.correlationId }
            "refresh_token_reuse").run store = .ok (result, later) :=
        exists_revokeSessionFamily tenant_exists account_exists correlation
          fresh
      refine ⟨.reuseDetected, later, (), correlation, (), unexpired, ?_⟩
      exact run_bind_eq_ok_iff.mpr ⟨_, _, revoked, rfl⟩

/-! ## Runs -/

/-- Presenting a credential again after its rotation revokes the family, a
revoked family stays unusable, and a rotation ends every older access token. -/
theorem refresh_reuse_and_revocation
    {unicode : Unicode}
    {events : List (Event Call Call.Reply)}
    {store : Store}
    (trace : Trace (Step unicode) Store.empty events store) :
    (∀ {first second : RotateRefreshCredential} {record : RefreshRotationRecord}
        {rotated presented : Store} {between : List (Event Call Call.Reply)},
      Step unicode store (.rotateRefreshCredential first)
          (.ok (.rotated record)) rotated →
        Trace (Step unicode) rotated between presented →
        second.presentedDigest = first.presentedDigest →
          (∀ {result : RefreshRotation} {later : Store},
            Step unicode presented (.rotateRefreshCredential second)
                (.ok result) later →
              later.Revoked record.familyId ∧
                ∀ other, result ≠ .rotated other) ∧
            ∀ {generated : Generated},
              ¬UnsafeText 128 second.correlationId →
              generated.now < second.successorExpiresAt →
              generated.now < second.successorAccessExpiresAt →
              (∀ event ∈ presented.auditEvents.rows,
                event.id ≠ generated.uuid 0) →
                ∃ result later, (Call.run unicode generated
                  (.rotateRefreshCredential second)).commit presented =
                    (.ok result, later)) ∧
      (∀ {family : Uuid} {after : List (Event Call Call.Reply)} {later : Store},
        store.Revoked family → Trace (Step unicode) store after later →
          later.Revoked family ∧ later.Ended unicode family) ∧
      (∀ {family : Uuid} {digest : OpaqueTokenDigest}
          {after : List (Event Call Call.Reply)} {later : Store},
        store.Issued family digest → Trace (Step unicode) store after later →
          later.Issued family digest) ∧
      ∀ {request : RotateRefreshCredential} {record : RefreshRotationRecord}
          {rotated later last : Store} {after : List (Event Call Call.Reply)}
          {digest : OpaqueTokenDigest}
          {authorization : AccessSessionAuthorization},
        Step unicode store (.rotateRefreshCredential request)
            (.ok (.rotated record)) rotated →
          store.Issued record.familyId digest →
          Trace (Step unicode) rotated after later →
            ¬Step unicode later (.accessSessionAuthorizationContext digest)
              (.ok (some authorization)) last := by
  refine ⟨?_, ?_, ?_, ?_⟩
  · intro first second record rotated presented between rotation run same
    have reached := (trace.next rotation).append run
    have families := familyInvariant_of_trace reached
    have owners := tenancy_of_trace reached
    have exchanged : presented.Exchanged record.familyId second.presentedDigest :=
      same ▸ (progress_of_trace run).exchanged (exchanged_of_rotated rotation)
    exact ⟨exchanged.revoked families owners, exchanged.exists_answer families owners⟩
  · intro family after later revoked run
    have revoked_later := (progress_of_trace run).revoked revoked
    exact ⟨revoked_later, revoked_later.ended⟩
  · intro family digest after later issued run
    exact (progress_of_trace run).issued issued
  · intro request record rotated later last after digest authorization rotation
      issued run
    have revoked := accessRevoked_of_rotated issued rotation
    exact ((progress_of_trace run).accessRevoked revoked).not_authenticated

/-! ## A concrete run -/

/-- Whether a presentation rotated its credential. -/
def isRotated : Except StoreError RefreshRotation → Bool
  | .ok (.rotated _) => true
  | _ => false

theorem exists_of_isRotated
    {reply : Except StoreError RefreshRotation}
    (rotated : isRotated reply = true) :
    ∃ record, reply = .ok (.rotated record) := by
  unfold isRotated at rotated
  split at rotated
  · exact ⟨_, rfl⟩
  · contradiction

/-- A credential is rotated and then presented once more. -/
theorem refresh_reuse_and_revocation_twice :
    ∃ (store rotated later : Store) (record : RefreshRotationRecord)
      (result : RefreshRotation),
      Step .sample store (.rotateRefreshCredential (presentation 1 3))
          (.ok (.rotated record)) rotated ∧
        Step .sample rotated (.rotateRefreshCredential (presentation 1 5))
          (.ok result) later ∧
        later.Revoked record.familyId := by
  obtain ⟨events, trace⟩ : ∃ events, Trace (Step .sample) Store.empty events
      (replay .sample .empty signedIn) :=
    exists_trace_replay .empty signedIn
  let rotation := (Call.run .sample (.sample 30)
    (.rotateRefreshCredential (presentation 1 3))).commit
      (replay .sample .empty signedIn)
  obtain ⟨record, answered⟩ : ∃ record, rotation.1 = .ok (.rotated record) :=
    exists_of_isRotated (by decide +kernel)
  have first : Step .sample (replay .sample .empty signedIn)
      (.rotateRefreshCredential (presentation 1 3)) (.ok (.rotated record))
      rotation.2 :=
    .answers (.sample 30) (Prod.ext answered rfl)
  have fresh : (rotation.2.auditEvents.rows.all fun event =>
      event.id ≠ (Generated.sample 40).uuid 0) = true := by
    decide +kernel
  obtain ⟨revoked, answers⟩ :=
    (refresh_reuse_and_revocation trace).1 first .start
      (show (presentation 1 5).presentedDigest = _ from rfl)
  obtain ⟨result, later, second⟩ := answers (by decide) (by decide) (by decide)
    fun event event_mem =>
      of_decide_eq_true (List.all_eq_true.mp fresh event event_mem)
  have second := Step.answers _ second
  exact ⟨_, _, later, record, result, first, second, (revoked second).1⟩

end Store

end Fabric
end Fcp
