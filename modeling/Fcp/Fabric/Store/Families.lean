import Fcp.Sql.Succession
import Fcp.Fabric.Store.Progress

/-!
# Session families

A family starts with one refresh credential and one access session.  A rotation
replaces both, and a revocation ends the family with its access session.  In
every reachable database the credentials of a family form one succession from
the first to the only unused one.
-/

namespace Fcp
namespace Fabric

open Rust
open Sql
open Reactive

variable {unicode : Unicode}
variable {generated : Generated}

/-- A family belongs to a tenant and account. -/
def SessionFamilies.Belongs
    (families : SessionFamilies)
    (family : Uuid)
    (tenant : TenantId)
    (account : AccountId) : Prop :=
  ∃ row ∈ families.rows, row.id = family ∧ row.tenantId = tenant ∧
    row.accountId = account

/-- The credentials of a family, oldest first. -/
def ofFamily (family : Uuid) (rows : List RefreshCredentialRow) :
    List RefreshCredentialRow :=
  rows.filter fun row => row.familyId = family

/-- The number of access sessions of a family that are not revoked. -/
def liveAccess (family : Uuid) (rows : List AccessSessionRow) : Nat :=
  rows.countP (selectsAccess family)

theorem ofFamily_concat
    (family : Uuid)
    (rows : List RefreshCredentialRow)
    (row : RefreshCredentialRow) :
    ofFamily family (rows ++ [row]) =
      if row.familyId = family then ofFamily family rows ++ [row]
      else ofFamily family rows := by
  unfold ofFamily
  split
  case isTrue same => simp [same]
  case isFalse other => simp [other]

theorem ofFamily_map
    {change : RefreshCredentialRow → RefreshCredentialRow}
    (kept : ∀ row, (change row).familyId = row.familyId)
    (family : Uuid)
    (rows : List RefreshCredentialRow) :
    ofFamily family (rows.map change) = (ofFamily family rows).map change := by
  unfold ofFamily
  rw [List.filter_map]
  congr 2
  funext row
  simp [kept]

theorem liveAccess_concat
    (family : Uuid)
    (rows : List AccessSessionRow)
    {row : AccessSessionRow}
    (unrevoked : row.revokedAt = none) :
    liveAccess family (rows ++ [row]) =
      if row.familyId = family then liveAccess family rows + 1
      else liveAccess family rows := by
  unfold liveAccess
  split
  case isTrue same => simp [selectsAccess, same, unrevoked]
  case isFalse other => simp [selectsAccess, other]

/-- A revocation leaves no live access session of its family and those of other
families alone. -/
theorem liveAccess_revoked
    (family other : Uuid)
    (rows : List AccessSessionRow) :
    liveAccess other
        (rows.map (modify (selectsAccess family) (revokesAccess generated))) =
      if other = family then 0 else liveAccess other rows := by
  unfold liveAccess
  split
  case isTrue same =>
    subst same
    rw [List.countP_eq_zero]
    intro row row_mem selected
    obtain ⟨before, -, rfl⟩ := List.mem_map.mp row_mem
    unfold Sql.modify at selected
    split at selected
    · exact absurd (of_decide_eq_true selected).2 nofun
    · contradiction
  case isFalse different =>
    rw [List.countP_map]
    apply List.countP_congr
    intro row _
    change selectsAccess other (Sql.modify _ _ row) = true ↔ _
    unfold Sql.modify
    split
    case isTrue selected =>
      have here := (of_decide_eq_true selected).1
      simp [selectsAccess, revokesAccess, here, Ne.symm different]
    case isFalse => rfl

/-- What holds of the families of every reachable database. -/
structure FamilyInvariant
    (families : SessionFamilies)
    (credentials : RefreshCredentials)
    (accesses : AccessSessions)
    (grants : StepUpGrants) : Prop where
  credential_belongs : ∀ row ∈ credentials.rows,
    families.Belongs row.familyId row.tenantId row.accountId
  access_belongs : ∀ row ∈ accesses.rows,
    families.Belongs row.familyId row.tenantId row.accountId
  grant_belongs : ∀ row ∈ grants.rows,
    families.Belongs row.familyId row.tenantId row.accountId
  unused_iff : ∀ row ∈ credentials.rows,
    row.consumedAt = none ↔ row.replacedBy = none
  succession : ∀ family ∈ families.rows,
    Succession RefreshCredentialRow.id RefreshCredentialRow.replacedBy
      (ofFamily family.id credentials.rows)
  live : ∀ family ∈ families.rows,
    liveAccess family.id accesses.rows =
      if family.revokedAt = none then 1 else 0

theorem SessionFamilies.Belongs.append
    {families laterFamilies : SessionFamilies}
    {added : List SessionFamilyRow}
    {family : Uuid}
    {tenant : TenantId}
    {account : AccountId}
    (rows_eq : laterFamilies.rows = families.rows ++ added)
    (belongs : families.Belongs family tenant account) :
    laterFamilies.Belongs family tenant account := by
  obtain ⟨row, row_mem, owner⟩ := belongs
  refine ⟨row, ?_, owner⟩
  rw [rows_eq]
  exact List.mem_append_left _ row_mem

namespace FamilyInvariant

variable {families laterFamilies : SessionFamilies}
variable {credentials laterCredentials : RefreshCredentials}
variable {accesses laterAccesses : AccessSessions}
variable {grants laterGrants : StepUpGrants}

theorem empty : FamilyInvariant .empty .empty .empty .empty where
  credential_belongs _ row_mem := absurd row_mem List.not_mem_nil
  access_belongs _ row_mem := absurd row_mem List.not_mem_nil
  grant_belongs _ row_mem := absurd row_mem List.not_mem_nil
  unused_iff _ row_mem := absurd row_mem List.not_mem_nil
  succession _ row_mem := absurd row_mem List.not_mem_nil
  live _ row_mem := absurd row_mem List.not_mem_nil

/-- A new family starts with one credential and one access session. -/
theorem create
    {request : CreateRefreshSession}
    (invariant : FamilyInvariant families credentials accesses grants)
    (families_rows : laterFamilies.rows =
      families.rows ++ [request.family generated])
    (credentials_rows : laterCredentials.rows =
      credentials.rows ++ [request.credential generated])
    (access_rows : laterAccesses.rows =
      accesses.rows ++ [request.access generated]) :
    FamilyInvariant laterFamilies laterCredentials laterAccesses grants := by
  have fresh : ∀ family ∈ families.rows, generated.uuid 0 ≠ family.id := by
    have apart := laterFamilies.apart
    rw [families_rows] at apart
    intro family family_mem
    exact Ne.symm ((List.pairwise_append.mp apart).2.2 family family_mem _
      List.mem_cons_self)
  have unowned {tenant : TenantId} {account : AccountId} :
      ¬families.Belongs (generated.uuid 0) tenant account := by
    rintro ⟨family, family_mem, same, -⟩
    exact fresh family family_mem same.symm
  have owner : laterFamilies.Belongs (generated.uuid 0) request.tenantId
      request.accountId :=
    ⟨request.family generated, by simp [families_rows], rfl, rfl, rfl⟩
  constructor
  case credential_belongs =>
    intro row row_mem
    rw [credentials_rows, List.mem_append, List.mem_singleton] at row_mem
    rcases row_mem with row_mem | rfl
    · exact (invariant.credential_belongs row row_mem).append families_rows
    · exact owner
  case access_belongs =>
    intro row row_mem
    rw [access_rows, List.mem_append, List.mem_singleton] at row_mem
    rcases row_mem with row_mem | rfl
    · exact (invariant.access_belongs row row_mem).append families_rows
    · exact owner
  case grant_belongs =>
    intro row row_mem
    exact (invariant.grant_belongs row row_mem).append families_rows
  case unused_iff =>
    intro row row_mem
    rw [credentials_rows, List.mem_append, List.mem_singleton] at row_mem
    rcases row_mem with row_mem | rfl
    · exact invariant.unused_iff row row_mem
    · exact iff_of_true rfl rfl
  case succession =>
    intro family family_mem
    rw [families_rows, List.mem_append, List.mem_singleton] at family_mem
    rw [credentials_rows, ofFamily_concat]
    rcases family_mem with family_mem | rfl
    · have other : (request.credential generated).familyId ≠ family.id :=
        fresh family family_mem
      rw [if_neg other]
      exact invariant.succession family family_mem
    · have none : ofFamily (generated.uuid 0) credentials.rows = [] := by
        rw [ofFamily, List.filter_eq_nil_iff]
        intro row row_mem same
        exact unowned (of_decide_eq_true same ▸
          invariant.credential_belongs row row_mem)
      have same : (request.credential generated).familyId =
        (request.family generated).id := rfl
      rw [if_pos same]
      change Succession _ _ (ofFamily (generated.uuid 0) credentials.rows ++ _)
      rw [none]
      exact .last rfl
  case live =>
    intro family family_mem
    rw [families_rows, List.mem_append, List.mem_singleton] at family_mem
    rw [access_rows, liveAccess_concat _ _ rfl]
    rcases family_mem with family_mem | rfl
    · have other : (request.access generated).familyId ≠ family.id :=
        fresh family family_mem
      rw [if_neg other]
      exact invariant.live family family_mem
    · have none : liveAccess (generated.uuid 0) accesses.rows = 0 := by
        rw [liveAccess, List.countP_eq_zero]
        intro row row_mem selected
        exact unowned ((of_decide_eq_true selected).1 ▸
          invariant.access_belongs row row_mem)
      have same : (request.access generated).familyId =
        (request.family generated).id := rfl
      rw [if_pos same]
      change liveAccess (generated.uuid 0) accesses.rows + 1 = 1
      rw [none]

/-- A rotation replaces the one unused credential and access session of a live
family. -/
theorem rotate
    {request : RotateRefreshCredential}
    {credential : RefreshCredentialRow}
    {family : SessionFamilyRow}
    (invariant : FamilyInvariant families credentials accesses grants)
    (credential_mem : credential ∈ credentials.rows)
    (unused : credential.consumedAt = none)
    (family_mem : family ∈ families.rows)
    (family_id : family.id = credential.familyId)
    (unrevoked : family.revokedAt = none)
    (credentials_rows : laterCredentials.rows =
      credentials.rows.map
          (modify (RotateRefreshCredential.selects credential)
            (RotateRefreshCredential.consumes generated)) ++
        [request.successor generated credential])
    (access_rows : laterAccesses.rows =
      accesses.rows.map
          (modify (selectsAccess credential.familyId)
            (revokesAccess generated)) ++
        [request.successorAccess generated credential]) :
    FamilyInvariant families laterCredentials laterAccesses grants := by
  have owner := invariant.credential_belongs credential credential_mem
  constructor
  case credential_belongs =>
    intro row row_mem
    rw [credentials_rows, List.mem_append, List.mem_singleton] at row_mem
    rcases row_mem with row_mem | rfl
    · obtain ⟨before, before_mem, rfl⟩ := List.mem_map.mp row_mem
      have owner := invariant.credential_belongs before before_mem
      unfold Sql.modify
      split <;> exact owner
    · exact owner
  case access_belongs =>
    intro row row_mem
    rw [access_rows, List.mem_append, List.mem_singleton] at row_mem
    rcases row_mem with row_mem | rfl
    · obtain ⟨before, before_mem, rfl⟩ := List.mem_map.mp row_mem
      have owner := invariant.access_belongs before before_mem
      unfold Sql.modify
      split <;> exact owner
    · exact owner
  case grant_belongs => exact invariant.grant_belongs
  case unused_iff =>
    intro row row_mem
    rw [credentials_rows, List.mem_append, List.mem_singleton] at row_mem
    rcases row_mem with row_mem | rfl
    · obtain ⟨before, before_mem, rfl⟩ := List.mem_map.mp row_mem
      unfold Sql.modify
      split
      · exact iff_of_false nofun nofun
      · exact invariant.unused_iff before before_mem
    · exact iff_of_true rfl rfl
  case succession =>
    intro other other_mem
    have before := invariant.succession other other_mem
    have kept (row : RefreshCredentialRow) :
        (Sql.modify (RotateRefreshCredential.selects credential)
          (RotateRefreshCredential.consumes generated) row).familyId =
            row.familyId :=
      modify_column RefreshCredentialRow.familyId (by exact fun _ => rfl) row
    rw [credentials_rows, ofFamily_concat, ofFamily_map kept]
    split
    case isTrue same =>
      refine before.replace ?_ (fun _ => rfl) (fun _ => rfl) rfl
      intro row row_mem
      have row_unused := invariant.unused_iff row (List.mem_filter.mp row_mem).1
      constructor
      · intro selected
        exact row_unused.mp (of_decide_eq_true selected).2
      · intro unreplaced
        have current : row = credential := by
          apply before.eq_of_unreplaced row_mem unreplaced
          · exact List.mem_filter.mpr ⟨credential_mem, decide_eq_true same⟩
          · exact (invariant.unused_iff credential credential_mem).mp unused
        exact decide_eq_true ⟨congrArg _ current, row_unused.mpr unreplaced⟩
    case isFalse different =>
      rw [map_modify_of_not_selects]
      · exact before
      · intro row row_mem
        obtain ⟨row_mem, here⟩ := List.mem_filter.mp row_mem
        rw [RotateRefreshCredential.selects, decide_eq_false_iff_not]
        rintro ⟨same, -⟩
        have current : row = credential :=
          Table.eq_of_key And.left row_mem credential_mem same
        exact different (current ▸ of_decide_eq_true here)
  case live =>
    intro other other_mem
    have before := invariant.live other other_mem
    rw [access_rows, liveAccess_concat _ _ rfl, liveAccess_revoked]
    by_cases same : other.id = credential.familyId
    · have here : (request.successorAccess generated credential).familyId =
        other.id := same.symm
      have current : other = family :=
        Table.eq_of_key id other_mem family_mem (same.trans family_id.symm)
      have live : other.revokedAt = none := current ▸ unrevoked
      rw [if_pos here, if_pos same, if_pos live]
    · have elsewhere :
          (request.successorAccess generated credential).familyId ≠ other.id :=
        Ne.symm same
      rw [if_neg elsewhere, if_neg same]
      exact before

/-- A revocation ends a live family with its access sessions. -/
theorem revoke
    {request : RevokeRefreshSessionFamily}
    {reason : String}
    (invariant : FamilyInvariant families credentials accesses grants)
    (selected : families.count request.selects = 1)
    (families_rows : laterFamilies.rows =
      families.rows.map
        (modify request.selects
          (RevokeRefreshSessionFamily.revokes generated reason)))
    (access_rows : laterAccesses.rows =
      accesses.rows.map
        (modify (selectsAccess request.familyId) (revokesAccess generated))) :
    FamilyInvariant laterFamilies credentials laterAccesses grants := by
  have belongs {family tenant account}
      (belongs : families.Belongs family tenant account) :
      laterFamilies.Belongs family tenant account := by
    obtain ⟨row, row_mem, owner⟩ := belongs
    refine ⟨_, families_rows ▸ List.mem_map_of_mem row_mem, ?_⟩
    unfold Sql.modify
    split <;> exact owner
  constructor
  case credential_belongs =>
    intro row row_mem
    exact belongs (invariant.credential_belongs row row_mem)
  case access_belongs =>
    intro row row_mem
    rw [access_rows] at row_mem
    obtain ⟨before, before_mem, rfl⟩ := List.mem_map.mp row_mem
    have owner := belongs (invariant.access_belongs before before_mem)
    unfold Sql.modify
    split <;> exact owner
  case grant_belongs =>
    intro row row_mem
    exact belongs (invariant.grant_belongs row row_mem)
  case unused_iff => exact invariant.unused_iff
  case succession =>
    intro family family_mem
    rw [families_rows] at family_mem
    obtain ⟨before, before_mem, rfl⟩ := List.mem_map.mp family_mem
    rw [modify_column SessionFamilyRow.id]
    · exact invariant.succession before before_mem
    · exact fun _ => rfl
  case live =>
    intro family family_mem
    rw [families_rows] at family_mem
    obtain ⟨before, before_mem, rfl⟩ := List.mem_map.mp family_mem
    obtain ⟨target, target_mem, target_selected⟩ :=
      Table.exists_of_count_eq_one selected
    by_cases same : before.id = request.familyId
    · have current : before = target :=
        Table.eq_of_key id before_mem target_mem
          (same.trans (of_decide_eq_true target_selected).1.symm)
      rw [modify_of_selects (current ▸ target_selected), access_rows,
        liveAccess_revoked]
      exact if_pos same
    · have other : request.selects before = false :=
        decide_eq_false fun selected => same selected.1
      rw [modify_of_not_selects other, access_rows, liveAccess_revoked,
        if_neg same]
      exact invariant.live before before_mem

end FamilyInvariant

namespace Store

variable {store later : Store}

/-- The structure of the families of a database. -/
abbrev FamilyInvariant (store : Store) : Prop :=
  Fabric.FamilyInvariant store.sessionFamilies store.refreshCredentials
    store.accessSessions store.stepUpGrants

/-- Every call preserves the structure of the families. -/
theorem Effect.familyInvariant
    {call : Call}
    {result : call.Result}
    (invariant : store.FamilyInvariant)
    (effect : Effect unicode store call result later) :
    later.FamilyInvariant := by
  cases effect with
  | sessionCreated generated _ families_rows credentials_rows access_rows =>
      exact invariant.create families_rows credentials_rows access_rows
  | credentialRotated generated presented unused live _ _ credentials_rows
      access_rows =>
      obtain ⟨⟨credential_mem, -⟩, ⟨family_mem, family_id⟩, -⟩ :=
        of_presentedCredential presented
      exact invariant.rotate credential_mem unused family_mem family_id live
        credentials_rows access_rows
  | reuseRevoked generated _ _ _ _ selected families_rows access_rows =>
      exact invariant.revoke selected families_rows access_rows
  | familyRevoked generated selected families_rows access_rows =>
      exact invariant.revoke selected families_rows access_rows
  | grantCreated generated _ family_live grants_rows =>
      refine { invariant with grant_belongs := ?_ }
      intro row row_mem
      rw [grants_rows, List.mem_append, List.mem_singleton] at row_mem
      rcases row_mem with row_mem | rfl
      · exact invariant.grant_belongs row row_mem
      · obtain ⟨family, family_mem, found⟩ :=
          List.any_eq_true.mp (Bool.and_eq_true _ _ ▸ family_live).1
        obtain ⟨id_eq, tenant_eq, account_eq, -⟩ := of_decide_eq_true found
        exact ⟨family, family_mem, id_eq, tenant_eq, account_eq⟩
  | grantConsumed generated _ _ grants_rows =>
      refine { invariant with grant_belongs := ?_ }
      intro row row_mem
      rw [grants_rows] at row_mem
      obtain ⟨before, before_mem, rfl⟩ := List.mem_map.mp row_mem
      have owner := invariant.grant_belongs before before_mem
      unfold Sql.modify
      split <;> exact owner
  | _ => exact invariant

/-- Every reachable database has well-structured families. -/
theorem familyInvariant_of_trace
    {events : List (Event Call Call.Reply)}
    (trace : Trace (Step unicode) Store.empty events store) :
    store.FamilyInvariant :=
  invariant_of_trace Effect.familyInvariant trace .empty

/-! ## One family -/

/-- The credential of an identifier. -/
def refreshCredential (store : Store) (id : Uuid) :
    Option RefreshCredentialRow :=
  store.refreshCredentials.find? fun row => row.id = id

/-- The credentials visited from one by following `replaced_by`. -/
def successors (store : Store) (fuel : Nat) (first : RefreshCredentialRow) :
    List RefreshCredentialRow :=
  follow store.refreshCredential RefreshCredentialRow.replacedBy fuel first

/-- One family with its credentials, access sessions and grants. -/
structure FamilyStructure (store : Store) (family : SessionFamilyRow) :
    Prop where
  unused : (ofFamily family.id store.refreshCredentials.rows).countP
    (fun row => row.consumedAt.isNone) = 1
  nodup : (ofFamily family.id store.refreshCredentials.rows).Nodup
  /-- From the credential that replaces no other, in any number of steps that
  is large enough, every credential is visited and the unused one last. -/
  visits : ∃ first last,
    (∀ row ∈ store.refreshCredentials.rows,
        row.replacedBy ≠ some first.id) ∧
      last.consumedAt = none ∧
      ∀ fuel, (ofFamily family.id store.refreshCredentials.rows).length ≤ fuel →
        store.successors fuel first =
            ofFamily family.id store.refreshCredentials.rows ∧
          (store.successors fuel first).getLast? = some last
  live : (store.accessSessions.rows.filter
      fun row => row.familyId = family.id).countP
        (fun row => row.revokedAt.isNone) =
    if family.revokedAt = none then 1 else 0
  credential_owner : ∀ row ∈ store.refreshCredentials.rows,
    row.familyId = family.id →
      row.tenantId = family.tenantId ∧ row.accountId = family.accountId
  access_owner : ∀ row ∈ store.accessSessions.rows,
    row.familyId = family.id →
      row.tenantId = family.tenantId ∧ row.accountId = family.accountId
  grant_owner : ∀ row ∈ store.stepUpGrants.rows,
    row.familyId = family.id →
      row.tenantId = family.tenantId ∧ row.accountId = family.accountId

theorem refreshCredential_eq_some
    {row : RefreshCredentialRow}
    (row_mem : row ∈ store.refreshCredentials.rows) :
    store.refreshCredential row.id = some row := by
  apply Table.find?_of_mem _ row_mem (decide_eq_true rfl)
  intro first second first_selected second_selected
  exact Table.not_apart_of_key And.left (of_decide_eq_true first_selected)
    (of_decide_eq_true second_selected)

/-- A row of a family has the owner of the family. -/
theorem owner_of_belongs
    {family : SessionFamilyRow}
    {tenant : TenantId}
    {account : AccountId}
    {id : Uuid}
    (belongs : SessionFamilies.Belongs store.sessionFamilies id tenant account)
    (family_mem : family ∈ store.sessionFamilies.rows)
    (same : id = family.id) :
    tenant = family.tenantId ∧ account = family.accountId := by
  obtain ⟨row, row_mem, row_id, rfl, rfl⟩ := belongs
  rw [Table.eq_of_key (fun apart => apart) row_mem family_mem
    (row_id.trans same)]
  exact ⟨rfl, rfl⟩

/-- No credential is replaced by the first of a family. -/
theorem FamilyInvariant.replacedBy_ne_first
    {family : SessionFamilyRow}
    {first row : RefreshCredentialRow}
    {rest : List RefreshCredentialRow}
    (invariant : store.FamilyInvariant)
    (rows_eq : ofFamily family.id store.refreshCredentials.rows = first :: rest)
    (row_mem : row ∈ store.refreshCredentials.rows) :
    row.replacedBy ≠ some first.id := by
  intro named
  have first_mem : first ∈ ofFamily family.id store.refreshCredentials.rows :=
    rows_eq ▸ List.mem_cons_self
  obtain ⟨first_mem, first_family⟩ := List.mem_filter.mp first_mem
  obtain ⟨other, other_mem, other_id, -⟩ :=
    invariant.credential_belongs row row_mem
  have succession := invariant.succession other other_mem
  have row_mem : row ∈ ofFamily other.id store.refreshCredentials.rows :=
    List.mem_filter.mpr ⟨row_mem, decide_eq_true other_id.symm⟩
  cases others_eq : ofFamily other.id store.refreshCredentials.rows with
  | nil =>
      rw [others_eq] at row_mem
      exact absurd row_mem List.not_mem_nil
  | cons head tail =>
      rw [others_eq] at succession row_mem
      obtain ⟨next, next_mem, next_id⟩ :=
        succession.named_mem_tail row_mem named
      have next_found : next ∈ ofFamily other.id store.refreshCredentials.rows :=
        others_eq ▸ List.mem_cons_of_mem head next_mem
      obtain ⟨next_found, next_family⟩ := List.mem_filter.mp next_found
      have same : next = first :=
        Table.eq_of_key And.left next_found first_mem next_id.symm
      have families_eq : other.id = family.id := by
        rw [← of_decide_eq_true next_family, same, of_decide_eq_true first_family]
      rw [families_eq, rows_eq] at others_eq
      obtain ⟨rfl, rfl⟩ := List.cons.inj others_eq
      have apart : (first :: rest).Pairwise RefreshCredentialRow.Apart :=
        rows_eq ▸ store.refreshCredentials.apart.filter _
      exact ((List.pairwise_cons.mp apart).1 next next_mem).1
        (congrArg _ same.symm)

theorem FamilyInvariant.familyStructure
    {family : SessionFamilyRow}
    (invariant : store.FamilyInvariant)
    (family_mem : family ∈ store.sessionFamilies.rows) :
    store.FamilyStructure family := by
  have succession := invariant.succession family family_mem
  have apart := store.refreshCredentials.apart.filter fun row =>
    row.familyId = family.id
  have mem_table {row : RefreshCredentialRow}
      (row_mem : row ∈ ofFamily family.id store.refreshCredentials.rows) :
      row ∈ store.refreshCredentials.rows :=
    (List.mem_filter.mp row_mem).1
  constructor
  case unused =>
    rw [← succession.countP_eq_one]
    apply List.countP_congr
    intro row row_mem
    simp only [Option.isNone_iff_eq_none]
    exact invariant.unused_iff row (mem_table row_mem)
  case nodup =>
    refine apart.imp ?_
    rintro first second apart rfl
    exact apart.1 rfl
  case visits =>
    obtain ⟨last, last_eq, unreplaced⟩ := succession.exists_last
    have last_mem := mem_table (List.mem_of_getLast? last_eq)
    generalize rows_eq : ofFamily family.id store.refreshCredentials.rows =
      rows at *
    cases rows with
    | nil => exact absurd last_eq nofun
    | cons first rest =>
        refine ⟨first, last, ?_, (invariant.unused_iff last last_mem).mpr
          unreplaced, ?_⟩
        · intro row row_mem
          exact invariant.replacedBy_ne_first rows_eq row_mem
        · intro fuel enough
          have visited : store.successors fuel first = first :: rest :=
            succession.follow_eq
              (fun row row_mem => refreshCredential_eq_some (mem_table row_mem))
              enough
          exact ⟨visited, by rw [visited, last_eq]⟩
  case live =>
    rw [← invariant.live family family_mem, liveAccess, List.countP_filter]
    apply List.countP_congr
    intro row _
    simp [selectsAccess, and_comm]
  case credential_owner =>
    intro row row_mem same
    exact owner_of_belongs (invariant.credential_belongs row row_mem)
      family_mem same
  case access_owner =>
    intro row row_mem same
    exact owner_of_belongs (invariant.access_belongs row row_mem)
      family_mem same
  case grant_owner =>
    intro row row_mem same
    exact owner_of_belongs (invariant.grant_belongs row row_mem)
      family_mem same

/-- Every session family of every reachable database has exactly one unused
credential at the end of its succession, one live access session unless it is
revoked, and only rows of its own tenant and account. -/
theorem session_family_structure
    {unicode : Unicode}
    {events : List (Event Call Call.Reply)}
    {store : Store}
    {family : SessionFamilyRow}
    (trace : Trace (Step unicode) Store.empty events store)
    (family_mem : family ∈ store.sessionFamilies.rows) :
    store.FamilyStructure family :=
  FamilyInvariant.familyStructure (familyInvariant_of_trace trace) family_mem

/-! ## A concrete run -/

/-- A bootstrapped owner who has activated a factor. -/
def enrolled : List (Generated × Call) :=
  [(.sample 1, .bootstrapTenant ⟨⟨"a.b"⟩, ⟨"o"⟩, "c"⟩),
    (.sample 4, .createPendingTotpFactor
      { tenantId := ⟨.sample 1⟩
        accountId := ⟨.sample 2⟩
        factorId := .sample 9
        encrypted := ⟨[], Vector.replicate 12 0, ⟨"k", by decide⟩, 6, 30⟩
        correlationId := "c" }),
    (.sample 5, .activateTotpFactor
      { tenantId := ⟨.sample 1⟩
        accountId := ⟨.sample 2⟩
        factorId := .sample 9
        acceptedStep := 7
        correlationId := "c" })]

/-- The presentation of one refresh token for the next. -/
def presentation (presented successor : UInt8) : RotateRefreshCredential where
  presentedDigest := .sample presented
  successorDigest := .sample successor
  successorAccessDigest := .sample (successor + 1)
  successorExpiresAt := .sample 1
  successorAccessExpiresAt := .sample 1
  correlationId := "c"

/-- The owner with a session. -/
def signedIn : List (Generated × Call) :=
  enrolled ++
    [(.sample 20, .createRefreshSession
      { tenantId := ⟨.sample 1⟩
        accountId := ⟨.sample 2⟩
        refreshDigest := .sample 1
        accessDigest := .sample 2
        refreshExpiresAt := .sample 1
        accessExpiresAt := .sample 1
        correlationId := "c" })]

/-- The owner's session after one rotation. -/
def rotated : List (Generated × Call) :=
  signedIn ++ [(.sample 30, .rotateRefreshCredential (presentation 1 3))]

/-- A family whose credential was rotated once. -/
theorem session_family_structure_rotated :
    ∃ (store : Store) (family : SessionFamilyRow),
      family ∈ store.sessionFamilies.rows ∧
      (ofFamily family.id store.refreshCredentials.rows).length = 2 ∧
      store.FamilyStructure family := by
  obtain ⟨events, trace⟩ : ∃ events, Trace (Step .sample) Store.empty events
      (replay .sample .empty rotated) :=
    exists_trace_replay .empty rotated
  have found : ((replay .sample .empty rotated).sessionFamilies.any fun family =>
      (ofFamily family.id
        (replay .sample .empty rotated).refreshCredentials.rows).length = 2) =
          true := by
    decide +kernel
  obtain ⟨family, family_mem, length_eq⟩ := List.any_eq_true.mp found
  exact ⟨_, family, family_mem, of_decide_eq_true length_eq,
    session_family_structure trace family_mem⟩

end Store

end Fabric
end Fcp
