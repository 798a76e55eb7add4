import Fcp.Fabric.Store.Revocation

/-!
# Sessions after a credential change

A password write and the revocation of a role leave the session tables as they
are.  What an account could do with its sessions before, it can do afterwards.
-/

namespace Fcp
namespace Fabric

open Rust
open Sql
open Sql.Transaction
open Reactive

namespace Store

variable {unicode : Unicode}
variable {store later : Store}
variable {call : Call}
variable {result : call.Result}
variable {events : List (Event Call Call.Reply)}

/-! ## Owners of sessions -/

/-- The account of a session family may hold sessions. -/
def ActiveOwners (store : Store) : Prop :=
  ∀ family ∈ store.sessionFamilies.rows, ∃ account ∈ store.accounts.rows,
    account.id = family.accountId ∧ account.tenantId = family.tenantId ∧
      account.state = .active

/-- An active account keeps existing and stays active. -/
theorem Progress.activeAccount
    {tenant : TenantId}
    {account : AccountId}
    (progress : Progress store later)
    (owner : ∃ row ∈ store.accounts.rows, row.id = account ∧
      row.tenantId = tenant ∧ row.state = .active) :
    ∃ row ∈ later.accounts.rows, row.id = account ∧ row.tenantId = tenant ∧
      row.state = .active := by
  obtain ⟨row, row_mem, rfl, rfl, active⟩ := owner
  obtain ⟨next, next_mem, same, kept⟩ := progress.accounts row row_mem
  obtain ⟨next_id, next_tenant, -⟩ := AccountRow.identity_eq_iff.mp same
  exact ⟨next, next_mem, next_id, next_tenant, kept active⟩

theorem exists_of_hasAccountIn
    {tenant : TenantId}
    {account : AccountId}
    {state : AccountState}
    (found : store.hasAccountIn tenant account state = true) :
    ∃ row ∈ store.accounts.rows, row.id = account ∧ row.tenantId = tenant ∧
      row.state = state := by
  obtain ⟨row, row_mem, same⟩ := List.any_eq_true.mp found
  exact ⟨row, row_mem, of_decide_eq_true same⟩

theorem Effect.activeOwners
    (owners : store.ActiveOwners)
    (effect : Effect unicode store call result later) :
    later.ActiveOwners := by
  have kept : ∀ family ∈ store.sessionFamilies.rows,
      ∃ account ∈ later.accounts.rows, account.id = family.accountId ∧
        account.tenantId = family.tenantId ∧ account.state = .active :=
    fun family family_mem =>
      effect.progress.activeAccount (owners family family_mem)
  cases effect with
  | sessionCreated _ account_active families_rows =>
      exact forall_mem_concat families_rows kept
        (exists_of_hasAccountIn account_active)
  | reuseRevoked _ _ _ _ _ _ families_rows =>
      exact forall_mem_modify families_rows kept fun _ _ owned => owned
  | familyRevoked _ _ families_rows =>
      exact forall_mem_modify families_rows kept fun _ _ owned => owned
  | _ => exact kept

/-- In every reachable database the accounts of session families are active. -/
theorem activeOwners_of_trace
    (trace : Trace (Step unicode) .empty events store) :
    store.ActiveOwners :=
  invariant_of_trace Effect.activeOwners trace
    fun _ row_mem => absurd row_mem List.not_mem_nil

/-! ## Use of a session -/

/-- A live access session of a live family authenticates. -/
theorem exists_authenticated
    {now : OffsetDateTime}
    {access : AccessSessionRow}
    {family : SessionFamilyRow}
    (families : store.FamilyInvariant)
    (owners : store.ActiveOwners)
    (family_mem : family ∈ store.sessionFamilies.rows)
    (family_live : family.revokedAt = none)
    (access_mem : access ∈ store.accessSessions.rows)
    (access_family : access.familyId = family.id)
    (access_live : access.revokedAt = none)
    (unexpired : now.timestamptz < access.expiresAt) :
    ∃ authorization, store.accessSessionAuthorizationContext now
      ⟨access.tokenDigest⟩ = some authorization := by
  obtain ⟨account, account_mem, account_id, account_tenant, active⟩ :=
    owners family family_mem
  obtain ⟨family_tenant, family_account⟩ := owner_of_belongs
    (families.access_belongs access access_mem) family_mem access_family
  have access_found : store.accessSessions.find? (fun row =>
      row.tokenDigest = access.tokenDigest ∧ row.revokedAt = none ∧
        now.timestamptz < row.expiresAt) = some access := by
    apply Table.find?_of_mem _ access_mem
      (decide_eq_true ⟨rfl, access_live, unexpired⟩)
    intro first second first_selected second_selected
    exact Table.not_apart_of_key And.right
      (of_decide_eq_true first_selected).1 (of_decide_eq_true second_selected).1
  have family_found : store.sessionFamilies.find?
      (fun row => row.id = access.familyId) = some family := by
    apply Table.find?_of_mem _ family_mem (decide_eq_true access_family.symm)
    intro first second first_selected second_selected
    exact Table.not_apart_of_key (fun apart => apart)
      (of_decide_eq_true first_selected) (of_decide_eq_true second_selected)
  have account_found := account_of_mem account_mem
    (account_tenant.trans family_tenant.symm)
    (account_id.trans family_account.symm)
  simp only [accessSessionAuthorizationContext, Option.bind_eq_bind,
    Option.bind_eq_some_iff, Option.guard_eq_some', Option.pure_def]
  exact ⟨_, access, access_found, family, family_found, (),
    Option.isNone_iff_eq_none.mpr family_live, account, account_found, (),
    AccountState.permitsSession_eq_true_iff.mpr active, rfl⟩

/-- A presentation with lifetimes in the future whose identifiers and digests no
row uses. -/
structure Fresh
    (store : Store)
    (drawn : Generated)
    (request : RotateRefreshCredential) : Prop where
  correlation : ¬UnsafeText 128 request.correlationId
  refresh_later : drawn.now < request.successorExpiresAt
  access_later : drawn.now < request.successorAccessExpiresAt
  stored_later :
    drawn.now.timestamptz < request.successorExpiresAt.timestamptz
  credentials : ∀ row ∈ store.refreshCredentials.rows,
    row.id ≠ drawn.uuid 0 ∧
      row.tokenDigest ≠ request.successorDigest.asBytes ∧
      row.replacedBy ≠ some (drawn.uuid 0)
  accesses : ∀ row ∈ store.accessSessions.rows,
    row.id ≠ drawn.uuid 1 ∧
      row.tokenDigest ≠ request.successorAccessDigest.asBytes
  audits : ∀ row ∈ store.auditEvents.rows, row.id ≠ drawn.uuid 2

/-- A credential that is consumed for a fresh successor leaves the table
consistent. -/
theorem Fresh.exists_consumed
    {drawn : Generated}
    {request : RotateRefreshCredential}
    (fresh : store.Fresh drawn request)
    (credential : RefreshCredentialRow) :
    ∃ credentials : RefreshCredentials,
      credentials.rows = store.refreshCredentials.rows.map
        (modify (RotateRefreshCredential.selects credential)
          (RotateRefreshCredential.consumes drawn)) := by
  refine ⟨⟨_, List.pairwise_map.mpr ?_⟩, rfl⟩
  refine store.refreshCredentials.apart.imp_of_mem ?_
  intro first second first_mem second_mem apart
  have first_unused := (fresh.credentials first first_mem).2.2
  have second_unused := (fresh.credentials second second_mem).2.2
  unfold Sql.modify
  split
  case isTrue first_selected =>
    split
    case isTrue second_selected =>
      -- One row alone has the identifier of the credential.
      refine absurd ?_ apart.1
      rw [(of_decide_eq_true first_selected).1,
        (of_decide_eq_true second_selected).1]
    case isFalse => exact ⟨apart.1, apart.2.1, .inr (Ne.symm second_unused)⟩
  case isFalse =>
    split
    case isTrue => exact ⟨apart.1, apart.2.1, .inr first_unused⟩
    case isFalse => exact apart

/-- A live credential under a fresh presentation is exchanged for its
successor. -/
theorem Fresh.exists_exchanged
    {drawn : Generated}
    {request : RotateRefreshCredential}
    {credential : RefreshCredentialRow}
    (fresh : store.Fresh drawn request)
    (owned : store.owns credential.tenantId credential.accountId = true)
    (known : store.hasFamily credential.familyId = true)
    (credential_mem : credential ∈ store.refreshCredentials.rows)
    (unused : credential.consumedAt = none) :
    ∃ later, (rotateLockedRefreshCredential drawn request credential).run
      store = .ok (.rotated (request.record drawn credential), later) := by
  have single : (refreshCredentialsRelation.table store).count
      (RotateRefreshCredential.selects credential) = 1 :=
    count_selects_eq_one credential_mem unused
  obtain ⟨credentials, consumed⟩ := fresh.exists_consumed credential
  have apart : ∀ other ∈ credentials.rows,
      RefreshCredentialRow.Apart other (request.successor drawn credential) := by
    refine forall_mem_modify consumed (fun row row_mem => ?_)
      (fun row _ apart => ⟨apart.1, apart.2.1, .inr (by simp [
        RotateRefreshCredential.consumes, RotateRefreshCredential.successor])⟩)
    obtain ⟨id_ne, digest_ne, -⟩ := fresh.credentials row row_mem
    refine ⟨id_ne, digest_ne, ?_⟩
    cases row.replacedBy with
    | none => exact .inl rfl
    | some successor => exact .inr (Option.some_ne_none successor)
  obtain ⟨accesses, revoked⟩ := store.accessSessions.exists_map_modify
    (selectsAccess credential.familyId) (revokesAccess drawn) <| by
      intro first second apart
      unfold Sql.modify
      split <;> split <;> exact apart
  have access_apart : ∀ other ∈ accesses.rows,
      AccessSessionRow.Apart other (request.successorAccess drawn credential) :=
    forall_mem_modify revoked fresh.accesses fun _ _ apart => apart
  obtain ⟨tenant_exists, account_exists⟩ := Bool.and_eq_true_iff.mp owned
  have actor_exists : store.hasAccountId credential.accountId = true := by
    obtain ⟨row, row_mem, selected⟩ := List.any_eq_true.mp account_exists
    exact List.any_eq_true.mpr ⟨row, row_mem,
      decide_eq_true (of_decide_eq_true selected).1⟩
  obtain ⟨later, audited⟩ : ∃ later,
      (insertAudit (request.audit drawn credential)).run
        { store with
          refreshCredentials := ⟨_, Table.pairwise_concat credentials apart⟩
          accessSessions := ⟨_, Table.pairwise_concat accesses access_apart⟩ } =
        .ok ((), later) :=
    exists_insertAudit tenant_exists actor_exists fresh.correlation fresh.audits
  refine ⟨later, ?_⟩
  unfold rotateLockedRefreshCredential
  refine run_bind_eq_ok_iff.mpr ⟨_, _,
    run_update_eq_ok_iff.mpr ⟨rfl, credentials, consumed, rfl⟩, ?_⟩
  rw [if_neg (not_not.mpr single)]
  refine run_insert_bind_eq_ok_iff.mpr
    ⟨?_, ⟨_, Table.pairwise_concat credentials apart⟩, rfl, ?_⟩
  · change (store.owns credential.tenantId credential.accountId &&
      store.hasFamily credential.familyId && decide _) = true
    rw [owned, known]
    exact decide_eq_true fresh.stored_later
  · refine run_bind_eq_ok_iff.mpr ⟨_, _,
      run_update_eq_ok_iff.mpr ⟨rfl, accesses, revoked, rfl⟩, ?_⟩
    refine run_insert_bind_eq_ok_iff.mpr
      ⟨?_, ⟨_, Table.pairwise_concat accesses access_apart⟩, rfl, ?_⟩
    · change (store.owns credential.tenantId credential.accountId &&
        store.hasFamily credential.familyId) = true
      rw [owned, known]
      rfl
    · exact run_bind_eq_ok_iff.mpr ⟨_, _, audited, rfl⟩

/-- A live credential of a live family is rotated on a fresh presentation. -/
theorem Fresh.exists_rotated
    {drawn : Generated}
    {request : RotateRefreshCredential}
    {credential : RefreshCredentialRow}
    {family : SessionFamilyRow}
    (fresh : store.Fresh drawn request)
    (families : store.FamilyInvariant)
    (tenants : store.Tenancy)
    (owners : store.ActiveOwners)
    (family_mem : family ∈ store.sessionFamilies.rows)
    (family_live : family.revokedAt = none)
    (credential_mem : credential ∈ store.refreshCredentials.rows)
    (credential_family : credential.familyId = family.id)
    (presented : credential.tokenDigest = request.presentedDigest.asBytes)
    (unused : credential.consumedAt = none)
    (unexpired : drawn.now < credential.expiresAt) :
    ∃ record later, (rotateRefreshCredential drawn request).run store =
      .ok (.rotated record, later) := by
  obtain ⟨account, account_mem, account_id, account_tenant, active⟩ :=
    owners family family_mem
  obtain ⟨family_tenant, family_account⟩ := owner_of_belongs
    (families.credential_belongs credential credential_mem) family_mem
    credential_family
  have found := presentedCredential_of_mem credential_mem presented family_mem
    credential_family.symm account_mem
    (account_tenant.trans family_tenant.symm)
    (account_id.trans family_account.symm)
  have owned : store.owns credential.tenantId credential.accountId = true := by
    rw [family_tenant, family_account]
    rw [← account_tenant]
    exact Bool.and_eq_true_iff.mpr ⟨tenants.accounts account account_mem,
      List.any_eq_true.mpr ⟨account, account_mem,
        decide_eq_true ⟨account_id, rfl⟩⟩⟩
  have known : store.hasFamily credential.familyId = true :=
    List.any_eq_true.mpr ⟨family, family_mem,
      decide_eq_true credential_family.symm⟩
  obtain ⟨later, exchanged⟩ :=
    fresh.exists_exchanged owned known credential_mem unused
  have in_future : ¬(request.successorExpiresAt ≤ drawn.now ∨
      request.successorAccessExpiresAt ≤ drawn.now) := by
    rw [not_or, OffsetDateTime.not_le, OffsetDateTime.not_le]
    exact ⟨fresh.refresh_later, fresh.access_later⟩
  have available : ¬(family.revokedAt.isSome = true ∨
      credential.expiresAt ≤ drawn.now ∨
      account.state.permitsSession = false) := by
    rw [family_live, not_or, not_or, OffsetDateTime.not_le, active]
    exact ⟨Bool.false_ne_true, unexpired, Bool.noConfusion⟩
  refine ⟨request.record drawn credential, later, ?_⟩
  simp only [rotateRefreshCredential, validateCorrelationId,
    run_lift_bind_eq_ok_iff, validateCorrelationId_eq_ok_iff, run_get_bind,
    rejectIf_eq_ok_iff, found, unused, Option.isSome_none, Bool.false_eq_true,
    if_false, if_neg available]
  exact ⟨(), fresh.correlation, (), in_future, exchanged⟩

/-! ## Credential changes -/

/-- The account whose password a call writes or one of whose roles it
revokes. -/
def changesCredentials : Call → Option AccountId
  | .storePasswordVerifier request => some request.accountId
  | .changeRole command =>
      if command.grant then none else some command.targetAccountId
  | _ => none

/-- A credential change leaves the sessions as they are. -/
theorem Effect.sessions_eq
    {account : AccountId}
    (effect : Effect unicode store call result later)
    (changes : changesCredentials call = some account) :
    later.sessionFamilies = store.sessionFamilies ∧
      later.refreshCredentials = store.refreshCredentials ∧
      later.accessSessions = store.accessSessions := by
  revert changes
  cases effect with
  | roleGranted _ _ grants =>
      intro changes
      rw [changesCredentials, if_pos grants] at changes
      contradiction
  | roleRevoked | passwordCreated | passwordReplaced =>
      exact fun _ => ⟨rfl, rfl, rfl⟩
  | _ => exact fun changes => absurd changes.symm (Option.some_ne_none account)

/-- A call that is answered no earlier than a point in time. -/
inductive StepFrom (unicode : Unicode) (since : OffsetDateTime) (store : Store) :
    (call : Call) → call.Reply → Store → Prop
  | answers (drawn : Generated) {call reply later}
      (no_earlier : since ≤ drawn.now)
      (answered : (call.run unicode drawn).commit store = (reply, later)) :
      StepFrom unicode since store call reply later
  | fails (call : Call) :
      StepFrom unicode since store call (.error .database) store

/-- From some time on, no credential that the first database holds for an
account is rotated and no access token authenticates. -/
structure EndsSessions
    (unicode : Unicode)
    (since : OffsetDateTime)
    (account : AccountId)
    (store later : Store) : Prop where
  not_rotated : ∀ {after : List (Event Call Call.Reply)} {final last : Store}
    {credential : RefreshCredentialRow} {request : RotateRefreshCredential}
    {record : RefreshRotationRecord},
    Trace (StepFrom unicode since) later after final →
      credential ∈ store.refreshCredentials.rows →
      credential.accountId = account →
      credential.tokenDigest = request.presentedDigest.asBytes →
        ¬StepFrom unicode since final (.rotateRefreshCredential request)
          (.ok (.rotated record)) last
  not_authenticated : ∀ {after : List (Event Call Call.Reply)}
    {final last : Store} {access : AccessSessionRow}
    {authorization : AccessSessionAuthorization},
    Trace (StepFrom unicode since) later after final →
      access ∈ store.accessSessions.rows →
      access.accountId = account →
        ¬StepFrom unicode since final
          (.accessSessionAuthorizationContext ⟨access.tokenDigest⟩)
          (.ok (some authorization)) last

/-- An account has an unrevoked family with an unexpired access session, or with
an unexpired unused credential for which a later database has a successor. -/
def HasLiveSession
    (store later : Store)
    (now : OffsetDateTime)
    (account : AccountId) : Prop :=
  ∃ family ∈ store.sessionFamilies.rows,
    family.accountId = account ∧ family.revokedAt = none ∧
      ((∃ access ∈ store.accessSessions.rows, access.familyId = family.id ∧
          access.revokedAt = none ∧ now.timestamptz < access.expiresAt) ∨
        ∃ credential ∈ store.refreshCredentials.rows,
          credential.familyId = family.id ∧ credential.consumedAt = none ∧
            now < credential.expiresAt ∧
            ∃ (drawn : Generated) (request : RotateRefreshCredential),
              drawn.now = now ∧ later.Fresh drawn request ∧
                credential.tokenDigest = request.presentedDigest.asBytes)

/-- No password write and no revocation of a role ends the live sessions of its
account. -/
theorem sessions_outlive_credential_changes
    {unicode : Unicode}
    {events : List (Event Call Call.Reply)}
    {store later : Store}
    {generated : Generated}
    {call : Call}
    {result : call.Result}
    {account : AccountId}
    (reachable : Trace (Step unicode) .empty events store)
    (changes : changesCredentials call = some account)
    (answered : (call.run unicode generated).commit store = (.ok result, later))
    (live : store.HasLiveSession later generated.now account) :
    ¬EndsSessions unicode generated.now account store later := by
  have step : Step unicode store call (.ok result) later :=
    .answers generated answered
  have reached := reachable.next step
  have families := familyInvariant_of_trace reached
  have tenants := tenancy_of_trace reached
  have owners := activeOwners_of_trace reached
  obtain ⟨families_eq, credentials_eq, accesses_eq⟩ :=
    step.effect.sessions_eq changes
  intro ends
  obtain ⟨family, family_mem, owned, family_live, usable⟩ := live
  have later_mem : family ∈ later.sessionFamilies.rows := families_eq ▸ family_mem
  rcases usable with ⟨access, access_mem, access_family, access_live, unexpired⟩ |
    ⟨credential, credential_mem, credential_family, unused, unexpired, drawn,
      request, now_eq, fresh, presented⟩
  · have access_later : access ∈ later.accessSessions.rows :=
      accesses_eq ▸ access_mem
    have access_account := (owner_of_belongs
      (families.access_belongs access access_later) later_mem access_family).2
    obtain ⟨authorization, authenticated⟩ := exists_authenticated families owners
      later_mem family_live access_later access_family access_live unexpired
    have answers : StepFrom unicode generated.now later
        (.accessSessionAuthorizationContext ⟨access.tokenDigest⟩)
        (.ok (some authorization)) later :=
      .answers generated (Int.le_refl _) (commit_eq_ok_iff.mpr
        (congrArg (fun found => Except.ok (found, later)) authenticated))
    exact ends.not_authenticated .start access_mem
      (access_account.trans owned) answers
  · have credential_later : credential ∈ later.refreshCredentials.rows :=
      credentials_eq ▸ credential_mem
    have credential_account := (owner_of_belongs
      (families.credential_belongs credential credential_later) later_mem
      credential_family).2
    obtain ⟨record, last, rotated⟩ := fresh.exists_rotated families tenants owners
      later_mem family_live credential_later credential_family presented unused
      (now_eq ▸ unexpired)
    refine ends.not_rotated .start credential_mem
      (credential_account.trans owned) presented
      (.answers drawn ?_ (commit_eq_ok_iff.mpr rotated))
    rw [now_eq]
    exact Int.le_refl _

/-! ## Concrete runs -/

/-- The owner, who may change roles. -/
def ownerActor : AdministrationActor where
  tenantId := ⟨.sample 1⟩
  accountId := ⟨.sample 2⟩
  roles := [.owner]
  stepUpVerified := true
  accountState := .active

/-- The grant of a second role to the owner, or its revocation. -/
def secondRole (grant : Bool) : ChangeRole where
  tenantId := ⟨.sample 1⟩
  targetAccountId := ⟨.sample 2⟩
  role := .operator
  grant := grant
  actor := ownerActor
  correlationId := "c"

/-- The owner's session with a second role. -/
def promoted : List (Generated × Call) :=
  signedIn ++ [(.sample 40, .changeRole (secondRole true))]

/-- A revoked role leaves the session of its account usable. -/
theorem sessions_outlive_credential_changes_demoted :
    ∃ (events : List (Event Call Call.Reply)) (store later : Store),
      Trace (Step .sample) .empty events store ∧
      Step .sample store (.changeRole (secondRole false)) (.ok ()) later ∧
      ¬EndsSessions .sample (.sample 0) ⟨.sample 2⟩ store later := by
  obtain ⟨events, trace⟩ : ∃ events, Trace (Step .sample) Store.empty events
      (replay .sample .empty promoted) :=
    exists_trace_replay .empty promoted
  have answered : (Call.run .sample (.sample 50)
      (.changeRole (secondRole false))).commit
        (replay .sample .empty promoted) = (.ok (), _) :=
    Prod.ext (by decide +kernel) rfl
  refine ⟨events, _, _, trace, .answers _ answered,
    sessions_outlive_credential_changes trace rfl answered ?_⟩
  have found : ((replay .sample .empty promoted).sessionFamilies.any fun family =>
      family.accountId = ⟨.sample 2⟩ ∧ family.revokedAt = none ∧
        ((replay .sample .empty promoted).accessSessions.any fun access =>
          access.familyId = family.id ∧ access.revokedAt = none ∧
            (OffsetDateTime.sample 0).timestamptz < access.expiresAt) = true) =
      true := by
    decide +kernel
  obtain ⟨family, family_mem, selected⟩ := List.any_eq_true.mp found
  obtain ⟨owned, live, usable⟩ := of_decide_eq_true selected
  obtain ⟨access, access_mem, access_selected⟩ := List.any_eq_true.mp usable
  exact ⟨family, family_mem, owned, live,
    .inl ⟨access, access_mem, of_decide_eq_true access_selected⟩⟩

/-- A password write after which the refresh credential of an earlier session is
rotated. -/
theorem password_change_keeps_sessions :
    ¬∀ (events : List (Event Call Call.Reply)) (store later : Store)
      (generated : Generated) (request : StorePasswordVerifier),
      Trace (Step .sample) .empty events store →
      (Call.run .sample generated (.storePasswordVerifier request)).commit
          store = (.ok (), later) →
      (∃ family ∈ store.sessionFamilies.rows,
        family.accountId = request.accountId ∧ family.revokedAt = none) →
        EndsSessions .sample generated.now request.accountId store later := by
  intro claimed
  obtain ⟨events, trace⟩ : ∃ events, Trace (Step .sample) Store.empty events
      (replay .sample .empty signedIn) :=
    exists_trace_replay .empty signedIn
  let request : StorePasswordVerifier :=
    { tenantId := ⟨.sample 1⟩
      accountId := ⟨.sample 2⟩
      verifier := ⟨"v"⟩
      pepperKeyVersion := none
      correlationId := "c" }
  let change := (Call.run .sample (.sample 40)
    (.storePasswordVerifier request)).commit (replay .sample .empty signedIn)
  have answered : (Call.run .sample (.sample 40)
      (.storePasswordVerifier request)).commit
        (replay .sample .empty signedIn) = (.ok (), change.2) :=
    Prod.ext (by decide +kernel) rfl
  have live : ((replay .sample .empty signedIn).sessionFamilies.any fun family =>
      family.accountId = ⟨.sample 2⟩ ∧ family.revokedAt = none) = true := by
    decide +kernel
  obtain ⟨family, family_mem, selected⟩ := List.any_eq_true.mp live
  have ends := claimed events _ _ _ request trace answered
    ⟨family, family_mem, of_decide_eq_true selected⟩
  have issued : ((replay .sample .empty signedIn).refreshCredentials.any
      fun credential => credential.accountId = ⟨.sample 2⟩ ∧
        credential.tokenDigest = (presentation 1 3).presentedDigest.asBytes) =
      true := by
    decide +kernel
  obtain ⟨credential, credential_mem, presented⟩ := List.any_eq_true.mp issued
  obtain ⟨owned, presented⟩ := of_decide_eq_true presented
  obtain ⟨record, rotated⟩ : ∃ record, ((Call.run .sample (.sample 50)
      (.rotateRefreshCredential (presentation 1 3))).commit change.2).1 =
        .ok (.rotated record) :=
    exists_of_isRotated (by decide +kernel)
  exact ends.not_rotated .start credential_mem owned presented
    (.answers (.sample 50) (Int.le_refl _) (Prod.ext rotated rfl))

end Store

end Fabric
end Fcp
