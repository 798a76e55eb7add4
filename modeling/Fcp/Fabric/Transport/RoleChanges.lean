import Fcp.Fabric.Store.Roles
import Fcp.Fabric.Transport.SessionEvidence

/-!
# Role changes

Every committed role change used up a grant of its own, which was issued after a
time step of its own, both by requests of the tenant's owner in the same session
family and for exactly this change.
-/

namespace Fcp
namespace Fabric
namespace Transport

open Rust
open Reactive
open Service

variable {environment : Environment}
variable {state : FabricHttpState}
variable {requests : Nat → Request}
variable {log before after : Log}
variable {pool : Nat → Action Response}
variable {store : Store}

/-! ## Owners -/

/-- The roles of an authenticated request are those that the account had when
the request was authenticated. -/
theorem exists_roles_of_authenticated
    {caller : Nat}
    {authorization : AccessSessionAuthorization}
    (serves : Serves environment state requests log pool store)
    (authenticated : AuthenticatedBy (own caller log) authorization) :
    ∃ before after seenPool seen,
      log = before ++ after ∧
      Serves environment state requests before seenPool seen ∧
      authorization.context.roles = seen.rolesForAccount
        authorization.context.tenantId authorization.context.accountId := by
  obtain ⟨digest, mem⟩ := authenticated
  obtain ⟨before, after, rfl⟩ := List.append_of_mem (mem_own_iff.mp mem)
  obtain ⟨seenPool, seen, _, _, seeing, effect, -⟩ := exists_effect_of_run serves
  refine ⟨before, _, seenPool, seen, rfl, seeing, ?_⟩
  generalize result_eq : some authorization = result at effect
  cases effect with
  | accessChecked generated =>
      have found := result_eq.symm
      simp only [Store.accessSessionAuthorizationContext, Option.bind_eq_bind,
        Option.bind_eq_some_iff] at found
      obtain ⟨access, -, family, -, _, -, account, -, _, -, returned⟩ := found
      cases returned
      rfl

/-- The actor of a committed role change is the account of the bootstrap of its
tenant. -/
theorem exists_bootstrap_of_roleChange
    {caller : Nat}
    {command : ChangeRole}
    (serves : Serves environment state requests
      (before ++ ⟨(caller, .store (.changeRole command)), .ok ()⟩ :: after) pool
      store) :
    ∃ (creator : Nat) (bootstrap : BootstrapTenant) (created : BootstrapResult),
      ⟨(creator, .store (.bootstrapTenant bootstrap)), .ok created⟩ ∈ before ∧
      created.tenantId = command.tenantId ∧
      created.ownerId = command.actor.accountId := by
  obtain ⟨-, authorization, authenticated, tenant_eq, actor_eq, -⟩ :=
    serves.guarantee
  obtain ⟨_, earlier, _, _, run, effect, -⟩ := exists_effect_of_run serves
  have valid : command.validate = .ok () := by
    cases effect with
    | roleGranted generated valid => exact valid
    | roleRevoked generated valid => exact valid
  obtain ⟨-, is_owner, -⟩ := ChangeRole.of_validate valid
  obtain ⟨first, rest, _, seen, rfl, seeing, roles_eq⟩ :=
    exists_roles_of_authenticated run authenticated
  rw [actor_eq] at is_owner
  change Role.owner ∈ authorization.context.roles at is_owner
  rw [roles_eq] at is_owner
  have trace := trace_of_run seeing
  obtain ⟨bootstrap, created, mem, created_tenant, created_owner⟩ :=
    (Store.governed_of_trace trace).owner_of_role
      (Store.tenancy_of_trace trace) is_owner
  obtain ⟨creator, mem⟩ := exists_caller mem
  refine ⟨creator, bootstrap, created, ?_, created_tenant.trans tenant_eq.symm,
    ?_⟩
  · exact List.mem_append_left _ mem
  · rw [created_owner, actor_eq]
    rfl

/-- Every tenant has exactly one owner at any time, the account of its
bootstrap.  Administrators were granted the role by that owner. -/
theorem no_privilege_escalation
    (serves : Serves environment state requests log pool store) :
    (∀ tenant ∈ store.tenants.rows, ∃ caller command created,
      ⟨(caller, .store (.bootstrapTenant command)), .ok created⟩ ∈ log ∧
      created.tenantId = tenant.id) ∧
    (∀ caller command created,
      ⟨(caller, .store (.bootstrapTenant command)), .ok created⟩ ∈ log →
        store.holders created.tenantId .owner = [created.ownerId]) ∧
    ∀ row ∈ store.accountRoles.rows, row.role = .admin →
      ∃ (caller : Nat) (command : ChangeRole) (creator : Nat)
        (bootstrap : BootstrapTenant) (created : BootstrapResult),
        ⟨(caller, .store (.changeRole command)), .ok ()⟩ ∈ log ∧
        command.grant = true ∧ command.role = .admin ∧
        command.tenantId = row.tenantId ∧
        command.targetAccountId = row.accountId ∧
        ⟨(creator, .store (.bootstrapTenant bootstrap)), .ok created⟩ ∈ log ∧
        created.tenantId = row.tenantId ∧
        created.ownerId = command.actor.accountId := by
  have governed := Store.governed_of_trace (trace_of_run serves)
  refine ⟨fun tenant tenant_mem => ?_, fun caller command created mem => ?_,
    fun row row_mem is_admin => ?_⟩
  · obtain ⟨command, created, mem, id_eq⟩ :=
      governed.bootstrapped tenant tenant_mem
    obtain ⟨caller, mem⟩ := exists_caller mem
    exact ⟨caller, command, created, mem, id_eq⟩
  · exact governed.owned command created
      (List.mem_filterMap.mpr ⟨_, mem, rfl⟩)
  · obtain ⟨command, mem, grants, is_role, tenant_eq, account_eq⟩ :=
      governed.granted row row_mem is_admin
    obtain ⟨caller, mem⟩ := exists_caller mem
    obtain ⟨before, after, rfl⟩ := List.append_of_mem mem
    obtain ⟨creator, bootstrap, created, created_mem, created_tenant,
      created_owner⟩ := exists_bootstrap_of_roleChange serves
    exact ⟨caller, command, creator, bootstrap, created, mem, grants, is_role,
      tenant_eq, account_eq, List.mem_append_left _ created_mem,
      created_tenant.trans tenant_eq, created_owner⟩

/-- The administrator in a tenant with its one owner. -/
theorem no_privilege_escalation_sample :
    ∃ log pool store,
      Serves sampleEnvironment sampleState sampleRequests log pool store ∧
      ∃ row ∈ store.accountRoles.rows, row.role = .admin ∧
        ∃ (creator : Nat) (bootstrap : BootstrapTenant)
          (created : BootstrapResult),
          ⟨(creator, .store (.bootstrapTenant bootstrap)), .ok created⟩ ∈
            log ∧
          created.tenantId = row.tenantId ∧
          store.holders created.tenantId .owner = [created.ownerId] := by
  obtain ⟨-, owned, granted⟩ := no_privilege_escalation serves_sampleRun
  obtain ⟨row, row_mem, selected⟩ := List.any_eq_true.mp sampleRun_facts.2.2.2
  have is_admin := of_decide_eq_true selected
  obtain ⟨_, _, creator, bootstrap, created, -, -, -, -, -, created_mem,
    created_tenant, -⟩ := granted row row_mem is_admin
  exact ⟨_, _, _, serves_sampleRun, row, row_mem, is_admin, creator, bootstrap,
    created, created_mem, created_tenant, owned _ _ _ created_mem⟩

/-! ## Step-up grants -/

theorem exists_of_commitsRoleChange
    {event : PoolEvent ι Operation Operation.Reply}
    (committed : commitsRoleChange event = true) :
    ∃ caller command,
      event = ⟨(caller, .store (.changeRole command)), .ok ()⟩ := by
  unfold commitsRoleChange at committed
  split at committed
  · exact ⟨_, _, rfl⟩
  · contradiction

/-- A time step, the grant that was issued after it and its consumption. -/
structure StepUp where
  issuer : Nat
  step : ConsumeTotpStep
  grant : CreateStepUpGrant
  record : StepUpGrantRecord
  consumption : ConsumeStepUpGrant

/-- A role change by an account in a session family was allowed by a step-up. -/
structure StepUp.Allows
    (environment : Environment)
    (state : FabricHttpState)
    (requests : Nat → Request)
    (log : Log)
    (store : Store)
    (caller : Nat)
    (command : ChangeRole)
    (family : Uuid)
    (proof : StepUp) : Prop where
  /-- The step, the grant, its consumption and the change, in this order. -/
  ordered : List.Sublist
    [⟨(proof.issuer, .store (.consumeTotpStep proof.step)), .ok ()⟩,
      ⟨(proof.issuer, .store (.createStepUpGrant proof.grant)),
        .ok proof.record⟩,
      ⟨(caller, .store (.consumeStepUpGrant proof.consumption)), .ok true⟩,
      ⟨(caller, .store (.changeRole command)), .ok ()⟩] log
  actor : ∃ authorization, AuthenticatedBy (own caller log) authorization ∧
    command.tenantId = authorization.context.tenantId ∧
    command.actor.accountId = authorization.context.accountId ∧
    family = authorization.familyId
  recipient : proof.grant.tenantId = command.tenantId ∧
    proof.grant.accountId = command.actor.accountId ∧
    proof.grant.familyId = family
  target : (requests proof.issuer).target environment =
    some ⟨command.targetAccountId, command.role, command.grant⟩
  factor : proof.step.tenantId = command.tenantId ∧
    proof.step.accountId = command.actor.accountId ∧
    store.activeFactors command.tenantId command.actor.accountId =
      [proof.step.factorId]
  consumed : proof.consumption.tokenDigest = proof.grant.tokenDigest
  /-- The grant was unexpired and the family unrevoked at the consumption. -/
  live : ∃ before after seenPool seen laterPool later,
    log = before ++ ⟨(caller, .store (.consumeStepUpGrant proof.consumption)),
      .ok true⟩ :: after ∧
    Serves environment state requests before seenPool seen ∧
    Serves environment state requests (before ++
      [⟨(caller, .store (.consumeStepUpGrant proof.consumption)), .ok true⟩])
      laterPool later ∧
    (∃ row ∈ seen.sessionFamilies.rows, row.id = family ∧
      row.revokedAt = none) ∧
    ∃ row ∈ later.stepUpGrants.rows,
      row.tokenDigest = proof.grant.tokenDigest.asBytes ∧
      ∃ time, row.consumedAt = some time ∧ time < row.expiresAt
  /-- The actor was an owner when the change was committed. -/
  owner : ∃ before after seenPool seen,
    log = before ++ ⟨(caller, .store (.changeRole command)), .ok ()⟩ :: after ∧
    Serves environment state requests before seenPool seen ∧
    Role.owner ∈ seen.rolesForAccount command.tenantId command.actor.accountId

/-- An event of a run is allowed by a step-up. -/
def StepUp.Backs
    (environment : Environment)
    (state : FabricHttpState)
    (requests : Nat → Request)
    (log : Log)
    (store : Store)
    (change : PoolEvent Nat Operation Operation.Reply)
    (proof : StepUp) : Prop :=
  ∃ caller command family,
    change = ⟨(caller, .store (.changeRole command)), .ok ()⟩ ∧
    proof.Allows environment state requests log store caller command family

/-- A consumed grant was issued before, to the same account and family and for
the same target. -/
theorem exists_issue_of_consumed
    {caller : Nat}
    {consumption : ConsumeStepUpGrant}
    (serves : Serves environment state requests
      (before ++ ⟨(caller, .store (.consumeStepUpGrant consumption)),
        .ok true⟩ :: after) pool store) :
    ∃ (issuer : Nat) (grant : CreateStepUpGrant) (record : StepUpGrantRecord),
      ⟨(issuer, .store (.createStepUpGrant grant)), .ok record⟩ ∈ before ∧
      consumption.tokenDigest = grant.tokenDigest ∧
      grant.tenantId = consumption.tenantId ∧
      grant.accountId = consumption.accountId ∧
      grant.familyId = consumption.familyId ∧
      grant.targetDigest = consumption.targetDigest := by
  obtain ⟨_, earlier, _, _, run, effect, -⟩ := exists_effect_of_run serves
  cases effect with
  | @grantConsumed _ generated row _ _ found =>
      obtain ⟨row_mem, selected⟩ := Sql.Table.find?_eq_some found
      obtain ⟨row_digest, row_tenant, row_account, row_family, -, row_target,
        -⟩ := of_decide_eq_true selected
      obtain ⟨grant, record, called, digest, tenant, account, family, target⟩ :=
        (Store.originates_of_trace (trace_of_run run)).grant row row_mem
      obtain ⟨issuer, called⟩ := exists_caller called
      refine ⟨issuer, grant, record, called, ?_, tenant.trans row_tenant,
        account.trans row_account, family.trans row_family,
        target.trans row_target⟩
      exact congrArg OpaqueTokenDigest.mk (row_digest.symm.trans digest.symm)

/-- A grant is consumed before it expires and while its family is live. -/
theorem live_of_consumed
    {caller : Nat}
    {consumption : ConsumeStepUpGrant}
    (serves : Serves environment state requests
      (before ++ ⟨(caller, .store (.consumeStepUpGrant consumption)),
        .ok true⟩ :: after) pool store) :
    ∃ seenPool seen laterPool later,
      Serves environment state requests before seenPool seen ∧
      Serves environment state requests (before ++
        [⟨(caller, .store (.consumeStepUpGrant consumption)), .ok true⟩])
        laterPool later ∧
      (∃ row ∈ seen.sessionFamilies.rows, row.id = consumption.familyId ∧
        row.revokedAt = none) ∧
      ∃ row ∈ later.stepUpGrants.rows,
        row.tokenDigest = consumption.tokenDigest.asBytes ∧
        ∃ time, row.consumedAt = some time ∧ time < row.expiresAt := by
  rw [List.append_cons] at serves
  obtain ⟨⟨laterPool, later⟩, consumed, -⟩ := serves.exists_of_append
  obtain ⟨seenPool, seen, _, _, seeing, effect, rest⟩ :=
    exists_effect_of_run consumed
  obtain ⟨rfl, rfl⟩ := Prod.mk.inj rest.eq_of_nil
  refine ⟨seenPool, seen, laterPool, _, seeing, consumed, ?_⟩
  cases effect with
  | @grantConsumed _ generated row _ _ found family_live grants_rows =>
      obtain ⟨row_mem, selected⟩ := Sql.Table.find?_eq_some found
      have described := of_decide_eq_true selected
      obtain ⟨family, family_mem, chosen⟩ := List.any_eq_true.mp family_live
      refine ⟨⟨family, family_mem, of_decide_eq_true chosen⟩,
        ConsumeStepUpGrant.consumes generated row, ?_, described.1, _, rfl,
        described.2.2.2.2.2.2.2⟩
      rw [grants_rows]
      exact List.mem_map.mpr ⟨row, row_mem, Sql.modify_of_selects selected⟩

/-- Events in order before an event are in order with it. -/
theorem sublist_of_split
    {α : Type}
    {events before after : List α}
    {event : α}
    (earlier : List.Sublist events before) :
    List.Sublist (events ++ [event]) (before ++ event :: after) :=
  earlier.append (List.singleton_sublist.mpr List.mem_cons_self)

/-- A step-up allowed a committed role change. -/
theorem exists_stepUp
    {caller : Nat}
    {command : ChangeRole}
    (serves : Serves environment state requests log pool store)
    (injective : ∀ first second index other,
      (requests index).target environment = some first →
      (requests other).target environment = some second →
      roleChangeTargetDigest environment.primitives first =
        roleChangeTargetDigest environment.primitives second →
      first.preimage = second.preimage)
    (changed : ⟨(caller, .store (.changeRole command)), .ok ()⟩ ∈ log) :
    ∃ family proof, StepUp.Allows environment state requests log store caller
      command family proof := by
  obtain ⟨before, after, rfl⟩ := List.append_of_mem changed
  obtain ⟨-, authorization, authenticated, tenant_eq, actor_eq, asked,
    consumption, consumed, consumption_tenant, consumption_account,
    consumption_family, consumption_target⟩ := serves.guarantee
  obtain ⟨seenPool, seen, _, _, run, -, -⟩ := exists_effect_of_run serves
  obtain ⟨creator, bootstrap, created, created_mem, created_tenant,
    created_owner⟩ := exists_bootstrap_of_roleChange serves
  have governed := Store.governed_of_trace (trace_of_run run)
  have is_owner := governed.owner_mem_roles
    (List.mem_filterMap.mpr ⟨_, created_mem, rfl⟩)
  rw [created_tenant, created_owner] at is_owner
  have actor_account : command.actor.accountId =
      authorization.context.accountId := by
    rw [actor_eq]
    rfl
  obtain ⟨between, late, rfl⟩ := List.append_of_mem (mem_own_iff.mp consumed)
  obtain ⟨issuer, grant, record, issued, digest_eq, grant_tenant, grant_account,
    grant_family, grant_target⟩ := exists_issue_of_consumed run
  obtain ⟨_, _, _, later, seeing, consuming, family_live, unexpired⟩ :=
    live_of_consumed run
  obtain ⟨early, middle, rfl⟩ := List.append_of_mem issued
  have issuing := run
  rw [List.append_assoc, List.cons_append] at issuing
  obtain ⟨-, -, ⟨step, recorded, step_tenant, step_account⟩, target, target_eq,
    target_digest⟩ := Serves.guarantee issuing
  have stepped := mem_own_iff.mp recorded
  have digests_eq : roleChangeTargetDigest environment.primitives target =
      roleChangeTargetDigest environment.primitives
        ⟨command.targetAccountId, command.role, command.grant⟩ := by
    rw [← target_digest, grant_target, consumption_target]
  have same_target := RoleChangeTarget.preimage_injective
    (injective _ _ _ _ target_eq asked digests_eq)
  have recipient_tenant : grant.tenantId = command.tenantId :=
    grant_tenant.trans (consumption_tenant.trans tenant_eq.symm)
  have recipient_account : grant.accountId = command.actor.accountId :=
    grant_account.trans (consumption_account.trans actor_account.symm)
  refine ⟨authorization.familyId, ⟨issuer, step, grant, record, consumption⟩,
    ?_⟩
  constructor
  case ordered =>
    exact sublist_of_split (sublist_of_split (sublist_of_split
      (List.singleton_sublist.mpr stepped)))
  case actor =>
    obtain ⟨digest, authenticated⟩ := authenticated
    exact ⟨authorization, ⟨digest, mem_own_iff.mpr
      (List.mem_append_left _ (mem_own_iff.mp authenticated))⟩, tenant_eq,
      actor_account, rfl⟩
  case recipient =>
    exact ⟨recipient_tenant, recipient_account,
      grant_family.trans consumption_family⟩
  case target => rw [target_eq, same_target]
  case factor =>
    have recorded : ⟨(issuer, .store (.consumeTotpStep step)), .ok ()⟩ ∈
        early ++ ⟨(issuer, .store (.createStepUpGrant grant)), .ok record⟩ ::
          middle ++ ⟨(caller, .store (.consumeStepUpGrant consumption)),
            .ok true⟩ :: late ++
          ⟨(caller, .store (.changeRole command)), .ok ()⟩ :: after := by
      simp [stepped]
    have active := activeFactors_of_recorded serves recorded
    rw [step_tenant, step_account, recipient_tenant, recipient_account] at active
    exact ⟨step_tenant.trans recipient_tenant,
      step_account.trans recipient_account, active⟩
  case consumed => exact digest_eq
  case live =>
    rw [consumption_family] at family_live
    rw [digest_eq] at unexpired
    exact ⟨_, late ++ ⟨(caller, .store (.changeRole command)), .ok ()⟩ :: after,
      _, _, _, later, by rw [List.append_assoc, List.cons_append], seeing,
      consuming, family_live, unexpired⟩
  case owner => exact ⟨_, after, seenPool, seen, rfl, run, is_owner⟩

section Distinct

variable {caller otherCaller : Nat}
variable {command otherCommand : ChangeRole}
variable {family otherFamily : Uuid}
variable {proof other : StepUp}

/-- No grant allows changes of two requests. -/
theorem StepUp.Allows.caller_eq
    (serves : Serves environment state requests log pool store)
    (allows : proof.Allows environment state requests log store caller command
      family)
    (otherAllows : other.Allows environment state requests log store otherCaller
      otherCommand otherFamily)
    (same : proof.grant.tokenDigest = other.grant.tokenDigest) :
    caller = otherCaller := by
  have mem : ⟨(caller, .store (.consumeStepUpGrant proof.consumption)),
      .ok true⟩ ∈ log :=
    allows.ordered.subset (by simp)
  have other_mem : ⟨(otherCaller, .store (.consumeStepUpGrant
      other.consumption)), .ok true⟩ ∈ log :=
    otherAllows.ordered.subset (by simp)
  have digests_eq : other.consumption.tokenDigest =
      proof.consumption.tokenDigest := by
    rw [otherAllows.consumed, allows.consumed, same]
  have same_event := eq_of_spentBy serves mem other_mem rfl
    (congrArg (fun digest => some (Item.stepUpGrant digest)) digests_eq)
  exact congrArg (fun event => event.call.1) same_event

/-- No time step leads to two grants. -/
theorem StepUp.Allows.digest_eq
    (serves : Serves environment state requests log pool store)
    (allows : proof.Allows environment state requests log store caller command
      family)
    (otherAllows : other.Allows environment state requests log store otherCaller
      otherCommand otherFamily)
    (same_factor : other.step.factorId = proof.step.factorId)
    (same_step : other.step.acceptedStep = proof.step.acceptedStep) :
    proof.grant.tokenDigest = other.grant.tokenDigest := by
  have step_mem : ⟨(proof.issuer, .store (.consumeTotpStep proof.step)),
      .ok ()⟩ ∈ log :=
    allows.ordered.subset (by simp)
  have other_step_mem : ⟨(other.issuer, .store (.consumeTotpStep other.step)),
      .ok ()⟩ ∈ log :=
    otherAllows.ordered.subset (by simp)
  have same_event := eq_of_spentBy serves step_mem other_step_mem rfl
    (congrArg₂ (fun factor step => some (Item.totpStep factor step)) same_factor
      same_step)
  have same_issuer : proof.issuer = other.issuer :=
    congrArg (fun event => event.call.1) same_event
  have mem : ⟨(proof.issuer, .store (.createStepUpGrant proof.grant)),
      .ok proof.record⟩ ∈ log :=
    allows.ordered.subset (by simp)
  have other_mem : ⟨(other.issuer, .store (.createStepUpGrant other.grant)),
      .ok other.record⟩ ∈ log :=
    otherAllows.ordered.subset (by simp)
  have same_grant := congrArg (fun event => event.call.2)
    (serves.eq_of_caller mem other_mem rfl rfl same_issuer)
  injection same_grant with same_call
  injection same_call with same_grant
  rw [same_grant]

end Distinct

/-- Committed role changes are by different requests. -/
theorem pairwise_roleChanges
    (serves : Serves environment state requests log pool store) :
    (log.filter commitsRoleChange).Pairwise fun first second =>
      first.call.1 ≠ second.call.1 := by
  have nodup := serves.nodup_callers .roleChange
  rw [List.Nodup, List.pairwise_map] at nodup
  refine nodup.sublist (List.monotone_filter_right log fun event committed => ?_)
  obtain ⟨caller, command, rfl⟩ := exists_of_commitsRoleChange committed
  exact decide_eq_true rfl

/-- Every committed role change is backed by a step-up of its own: no two share a
grant or a time step.  The digests of the role changes that requests name are
assumed not to collide. -/
theorem role_changes_have_step_ups
    (serves : Serves environment state requests log pool store)
    (injective : ∀ first second index other,
      (requests index).target environment = some first →
      (requests other).target environment = some second →
      roleChangeTargetDigest environment.primitives first =
        roleChangeTargetDigest environment.primitives second →
      first.preimage = second.preimage) :
    ∃ proofs : List StepUp,
      List.Forall₂ (StepUp.Backs environment state requests log store)
        (log.filter commitsRoleChange) proofs ∧
      proofs.Pairwise fun first second =>
        first.grant.tokenDigest ≠ second.grant.tokenDigest ∧
          (first.step.factorId, first.step.acceptedStep) ≠
            (second.step.factorId, second.step.acceptedStep) := by
  refine exists_forall₂_pairwise (fun change change_mem => ?_)
    (pairwise_roleChanges serves) ?_
  · obtain ⟨change_mem, committed⟩ := List.mem_filter.mp change_mem
    obtain ⟨caller, command, rfl⟩ := exists_of_commitsRoleChange committed
    obtain ⟨family, proof, allows⟩ := exists_stepUp serves injective change_mem
    exact ⟨proof, caller, command, family, rfl, allows⟩
  · rintro _ _ proof other ⟨_, _, _, rfl, allows⟩ ⟨_, _, _, rfl, otherAllows⟩
      different
    refine ⟨fun same => different (allows.caller_eq serves otherAllows same),
      fun same => ?_⟩
    obtain ⟨same_factor, same_step⟩ := Prod.mk.inj same
    exact different (allows.caller_eq serves otherAllows
      (allows.digest_eq serves otherAllows same_factor.symm same_step.symm))

/-- The sample requests name one role change. -/
theorem target_of_sampleRequests
    {index : Nat}
    {target : RoleChangeTarget}
    (named : (sampleRequests index).target sampleEnvironment = some target) :
    target = ⟨⟨sampleBytes 16 1⟩, .admin, true⟩ := by
  unfold sampleRequests at named
  split at named
  case h_6 | h_7 =>
    have parsed : sampleEnvironment.parseUuid "\x01" =
        some (sampleBytes 16 1) := by
      decide +kernel
    simp only [Request.target, parsed] at named
    cases named
    rfl
  all_goals cases named

/-- An owner steps up and makes an account an administrator. -/
theorem role_changes_have_step_ups_sample :
    ∃ log pool store,
      Serves sampleEnvironment sampleState sampleRequests log pool store ∧
      (log.filter commitsRoleChange).length = 1 ∧
      ∃ proofs : List StepUp, proofs.length = 1 ∧
        List.Forall₂ (StepUp.Backs sampleEnvironment sampleState sampleRequests
          log store) (log.filter commitsRoleChange) proofs := by
  obtain ⟨proofs, backs, -⟩ := role_changes_have_step_ups serves_sampleRun
    fun first second index other named otherNamed _ => by
      rw [target_of_sampleRequests named, target_of_sampleRequests otherNamed]
  have one := sampleRun_facts.2.2.1
  exact ⟨_, _, _, serves_sampleRun, one, proofs, backs.length_eq.symm.trans one,
    backs⟩

end Transport
end Fabric
end Fcp
