import Fcp.Fabric.Store.Tenancy

/-!
# The audit log

Every call that changes a row appends one event of its tenant in the same
transaction.  The events of a tenant in the order of their commits say which
roles its accounts hold.
-/

namespace Fcp
namespace Fabric

open Rust
open Sql
open Reactive

/-! ## Reading a document -/

namespace Uuid

/-- The value of a hexadecimal digit. -/
def ofDigit (digit : Char) : Option Nat :=
  (List.range 16).find? fun value => Nat.digitChar value = digit

/-- The bytes of pairs of hexadecimal digits. -/
def ofDigits : List Char → Option (List UInt8)
  | [] => some []
  | [_] => none
  | high :: low :: digits => do
      let upper ← ofDigit high
      let lower ← ofDigit low
      let bytes ← ofDigits digits
      return .ofNat (16 * upper + lower) :: bytes

/-- The identifier that a text stands for. -/
def ofText (text : String) : Option Uuid := do
  let bytes ← ofDigits (text.toList.filter (· != '-'))
  tryInto 16 bytes

theorem ofDigit_digitChar
    {value : Nat}
    (bound : value < 16) :
    ofDigit (Nat.digitChar value) = some value := by
  have all : ∀ value : Fin 16, ofDigit (Nat.digitChar value) = some value.val := by
    decide
  exact all ⟨value, bound⟩

theorem digitChar_ne_hyphen
    {value : Nat}
    (bound : value < 16) :
    Nat.digitChar value ≠ '-' := by
  have all : ∀ value : Fin 16, Nat.digitChar value ≠ '-' := by
    decide
  exact all ⟨value, bound⟩

theorem ofDigits_hexBytes (bytes : List UInt8) :
    ofDigits (bytes.flatMap hexByte) = some bytes := by
  induction bytes with
  | nil => rfl
  | cons byte bytes inductionHypothesis =>
      have upper : byte.toNat / 16 < 16 := by
        have := byte.toNat_lt
        omega
      have lower : byte.toNat % 16 < 16 := Nat.mod_lt _ (by decide)
      have value :
          UInt8.ofNat (16 * (byte.toNat / 16) + byte.toNat % 16) = byte := by
        rw [Nat.div_add_mod, UInt8.ofNat_toNat]
      rw [List.flatMap_cons, hexByte, List.cons_append, List.cons_append,
        List.nil_append, ofDigits, ofDigit_digitChar upper,
        ofDigit_digitChar lower, inductionHypothesis]
      exact congrArg (fun first => some (first :: bytes)) value

/-- No digit of a byte is a hyphen. -/
theorem ne_hyphen_of_mem_hexBytes
    {bytes : List UInt8}
    {char : Char}
    (char_mem : char ∈ bytes.flatMap hexByte) :
    char ≠ '-' := by
  obtain ⟨byte, -, digit_mem⟩ := List.mem_flatMap.mp char_mem
  have upper : byte.toNat / 16 < 16 := by
    have := byte.toNat_lt
    omega
  rcases List.mem_pair.mp digit_mem with rfl | rfl
  · exact digitChar_ne_hyphen upper
  · exact digitChar_ne_hyphen (Nat.mod_lt _ (by decide))

/-- Without its hyphens, the text of an identifier is its digits. -/
theorem filter_toText (uuid : Uuid) :
    uuid.toText.toList.filter (· != '-') = uuid.toList.flatMap hexByte := by
  have digits : ∀ char ∈ uuid.toList.flatMap hexByte, char ≠ '-' :=
    fun _ char_mem => ne_hyphen_of_mem_hexBytes char_mem
  rw [toText, String.toList_ofList]
  generalize uuid.toList.flatMap hexByte = all at digits
  have kept (part : List Char) (within : part ⊆ all) :
      part.filter (· != '-') = part :=
    List.filter_eq_self.mpr fun char char_mem =>
      bne_iff_ne.mpr (digits char (within char_mem))
  simp only [List.filter_append, List.filter_cons, bne_self_eq_false,
    Bool.false_eq_true, if_false]
  have group (start : Nat) : (all.drop start).take 4 ⊆ all :=
    List.Subset.trans (List.take_subset 4 _) (List.drop_subset start all)
  rw [kept _ (List.take_subset 8 all), kept _ (group 8), kept _ (group 12),
    kept _ (group 16), kept _ (List.drop_subset 20 all)]
  have split (start length : Nat) :
      (all.drop start).take length ++ all.drop (start + length) =
        all.drop start := by
    rw [← List.drop_drop, List.take_append_drop]
  rw [List.append_assoc, List.append_assoc, List.append_assoc, split 16 4,
    split 12 4, split 8 4, List.take_append_drop]

/-- The text of an identifier can be read back. -/
theorem ofText_toText (uuid : Uuid) : ofText uuid.toText = some uuid := by
  rw [ofText, filter_toText, ofDigits_hexBytes]
  exact tryInto_toList uuid

end Uuid

/-- The role that a text stands for. -/
def Role.ofText (text : String) : Option Role :=
  [.owner, .admin, .operator, .auditor, .member].find? fun role =>
    role.text = text

theorem Role.ofText_text (role : Role) : ofText role.text = some role := by
  cases role <;> decide

namespace Json

/-- The member of an object. -/
def member (name : String) : Json → Option Json
  | .object members => members.lookup name
  | _ => none

def asUuid : Json → Option Uuid
  | .string text => Uuid.ofText text
  | _ => none

def asRole : Json → Option Role
  | .string text => Role.ofText text
  | _ => none

def asBool : Json → Option Bool
  | .bool value => some value
  | _ => none

@[simp] theorem asUuid_uuid (value : Uuid) : (uuid value).asUuid = some value :=
  value.ofText_toText

@[simp] theorem asRole_text (role : Role) :
    (string role.text).asRole = some role :=
  role.ofText_text

end Json

/-! ## The roles that a log describes -/

/-- What an audit event says of the roles of a tenant. -/
inductive RoleEvent
  | granted (account : AccountId) (role : Role) (grantor : Option AccountId)
  | revoked (account : AccountId) (role : Role)

namespace AuditEventRow

/-- The bootstrap of a tenant makes its actor an owner.  An invitation and a
role change name the account and the role in their metadata. -/
def roleEvent (event : AuditEventRow) : Option RoleEvent :=
  match event.action with
  | .tenantBootstrapped => do
      let owner ← event.actorId
      return .granted owner .owner none
  | .accountCreated => do
      let account ← event.metadata.member "account_id" >>= Json.asUuid
      let role ← event.metadata.member "initial_role" >>= Json.asRole
      return .granted ⟨account⟩ role event.actorId
  | .roleChanged => do
      let account ← event.metadata.member "target_account_id" >>= Json.asUuid
      let role ← event.metadata.member "role" >>= Json.asRole
      let grant ← event.metadata.member "grant" >>= Json.asBool
      return if grant then
          .granted ⟨account⟩ role event.actorId
        else
          .revoked ⟨account⟩ role
  | _ => none

/-- The role table after an event. -/
def applyRoles (roles : List AccountRoleRow) (event : AuditEventRow) :
    List AccountRoleRow :=
  match event.roleEvent with
  | some (.granted account role grantor) =>
      roles ++
        [{ tenantId := event.tenantId
           accountId := account
           role := role
           grantedByAccountId := grantor
           grantedAt := event.occurredAt }]
  | some (.revoked account role) =>
      roles.filter fun row =>
        !decide (row.tenantId = event.tenantId ∧ row.accountId = account ∧
          row.role = role)
  | none => roles

/-- An event of another tenant leaves the roles of a tenant as they are, and an
event of the tenant itself needs its roles alone. -/
theorem filter_applyRoles
    (tenant : TenantId)
    (roles : List AccountRoleRow)
    (event : AuditEventRow) :
    (applyRoles roles event).filter (fun row => row.tenantId = tenant) =
      if event.tenantId = tenant then
        applyRoles (roles.filter fun row => row.tenantId = tenant) event
      else
        roles.filter fun row => row.tenantId = tenant := by
  unfold applyRoles
  cases event.roleEvent with
  | none => simp
  | some entry =>
      cases entry with
      | granted account role grantor =>
          by_cases same : event.tenantId = tenant
          · simp [same]
          · simp [same]
      | revoked account role =>
          by_cases same : event.tenantId = tenant
          · rw [if_pos same]
            exact List.filter_comm ..
          · rw [if_neg same]
            refine List.filter_filter.trans (List.filter_congr fun row _ => ?_)
            by_cases inside : row.tenantId = tenant
            · simp [inside, Ne.symm same]
            · simp [inside]

end AuditEventRow

theorem BootstrapTenant.roleEvent_audit
    (command : BootstrapTenant)
    (generated : Generated) :
    (command.audit generated).roleEvent =
      some (.granted ⟨generated.uuid 1⟩ .owner none) :=
  rfl

theorem InviteAccount.roleEvent_audit
    (command : InviteAccount)
    (generated : Generated) :
    (command.audit generated).roleEvent =
      some (.granted ⟨generated.uuid 0⟩ command.initialRole
        (some command.actor.accountId)) := by
  simp [AuditEventRow.roleEvent, audit, Json.member, List.lookup_cons]

theorem ChangeRole.roleEvent_audit
    (command : ChangeRole)
    (generated : Generated) :
    (command.audit generated).roleEvent =
      some (if command.grant then
          .granted command.targetAccountId command.role
            (some command.actor.accountId)
        else
          .revoked command.targetAccountId command.role) := by
  simp [AuditEventRow.roleEvent, audit, Json.member, List.lookup_cons, Json.asBool]

namespace Store

variable {unicode : Unicode}
variable {store later : Store}
variable {call : Call}
variable {result : call.Result}
variable {events : List (Event Call Call.Reply)}

/-! ## The event of a call -/

/-- The calls that write to the audit log. -/
def isAudited : Call → Bool
  | .bootstrapTenant _
  | .inviteAccount _
  | .changeRole _
  | .storePasswordVerifier _
  | .createPendingTotpFactor _
  | .activateTotpFactor _
  | .replaceRecoveryCodeSet _
  | .consumeRecoveryCode _
  | .createRefreshSession _
  | .rotateRefreshCredential _
  | .revokeRefreshSessionFamily _
  | .createStepUpGrant _
  | .consumeStepUpGrant _
  | .createLoginTransaction _
  | .consumeLoginTransaction _
  | .createWebauthnCeremony _
  | .consumeWebauthnCeremony _
  | .registerWebauthnPasskey _
  | .recordFederationReplay _ => true
  | _ => false

/-- A denial that is not the detection of a reuse. -/
def isDenial : (call : Call) → call.Result → Bool
  | .consumeRecoveryCode _, consumed => !consumed
  | .rotateRefreshCredential _, .denied => true
  | .revokeRefreshSessionFamily _, revoked => !revoked
  | .consumeStepUpGrant _, consumed => !consumed
  | .recordFederationReplay _, recorded => !recorded
  | _, _ => false

/-- The log has one more event, of the tenant of the call, and the roles are
those that the event describes. -/
def Logged
    (store : Store)
    (call : Call)
    (result : call.Result)
    (later : Store) : Prop :=
  ∃ event : AuditEventRow,
    later.auditEvents.rows = store.auditEvents.rows ++ [event] ∧
    store.scope call result = some event.tenantId ∧
    later.accountRoles.rows = event.applyRoles store.accountRoles.rows

/-- A call writes one event, or writes neither events nor roles. -/
theorem Effect.logged (effect : Effect unicode store call result later) :
    Logged store call result later ∨
      later.auditEvents = store.auditEvents ∧
      later.accountRoles = store.accountRoles ∧
      (isAudited call = true → later = store) := by
  cases effect with
  | @tenantBootstrapped command generated _ _ _ _ _ _ _ roles_rows audit_rows =>
      refine .inl ⟨_, audit_rows, rfl, ?_⟩
      rw [AuditEventRow.applyRoles, command.roleEvent_audit]
      exact roles_rows
  | @accountInvited command generated _ _ _ _ _ _ roles_rows audit_rows =>
      refine .inl ⟨_, audit_rows, rfl, ?_⟩
      rw [AuditEventRow.applyRoles, command.roleEvent_audit]
      exact roles_rows
  | @roleGranted command generated _ _ _ grants _ roles_rows audit_rows =>
      refine .inl ⟨_, audit_rows, rfl, ?_⟩
      rw [AuditEventRow.applyRoles, command.roleEvent_audit, if_pos grants]
      exact roles_rows
  | @roleRevoked command generated _ _ revokes _ audit_rows =>
      refine .inl ⟨_, audit_rows, rfl, ?_⟩
      rw [AuditEventRow.applyRoles, command.roleEvent_audit, revokes]
      rfl
  | passwordCreated _ _ _ audit_rows
  | passwordReplaced _ _ _ audit_rows
  | pendingFactorCreated _ _ _ audit_rows
  | factorActivated _ _ _ _ _ audit_rows
  | recoverySetReplaced _ _ _ _ _ audit_rows
  | recoveryCodeConsumed _ _ _ audit_rows
  | sessionCreated _ _ _ _ _ audit_rows
  | familyRevoked _ _ _ _ audit_rows
  | grantCreated _ _ _ _ audit_rows
  | grantConsumed _ _ _ _ audit_rows
  | loginTransactionCreated _ _ _ audit_rows
  | ceremonyCreated _ _ _ audit_rows
  | passkeyRegistered _ _ _ audit_rows
  | replayRecorded _ _ _ _ audit_rows =>
      exact .inl ⟨_, audit_rows, rfl, rfl⟩
  | credentialRotated _ presented _ _ _ _ _ _ audit_rows =>
      exact .inl ⟨_, audit_rows, scope_of_presented presented _, rfl⟩
  | reuseRevoked _ presented _ _ revocation_eq _ _ _ audit_rows =>
      subst revocation_eq
      exact .inl ⟨_, audit_rows, scope_of_presented presented _, rfl⟩
  | loginTransactionConsumed _ found _ audit_rows =>
      exact .inl ⟨_, audit_rows, scope_of_transaction found _, rfl⟩
  | ceremonyConsumed _ found _ audit_rows =>
      exact .inl ⟨_, audit_rows, scope_of_ceremony found _, rfl⟩
  | envelopeCreated | stepConsumed | passkeyUpdated =>
      exact .inr ⟨rfl, rfl, fun audited => absurd audited Bool.false_ne_true⟩
  | _ => exact .inr ⟨rfl, rfl, fun _ => rfl⟩

/-- A denial changes nothing. -/
theorem Effect.eq_of_denial
    (effect : Effect unicode store call result later)
    (denied : isDenial call result = true) :
    later = store := by
  revert denied
  cases effect with
  | recoveryCodeDenied | rotationDenied | revocationDenied | grantDenied
  | replayRefused => exact fun _ => rfl
  | _ => exact fun denied => absurd denied Bool.false_ne_true

/-! ## The log of a run -/

/-- The roles of every tenant are those that its events describe. -/
def Recorded (store : Store) : Prop :=
  ∀ tenant : TenantId,
    (store.auditEvents.rows.filter fun event => event.tenantId = tenant).foldl
        AuditEventRow.applyRoles [] =
      store.accountRoles.rows.filter fun row => row.tenantId = tenant

theorem Effect.recorded
    (recorded : store.Recorded)
    (effect : Effect unicode store call result later) :
    later.Recorded := by
  intro tenant
  rcases effect.logged with ⟨event, audit_rows, -, roles_rows⟩ | ⟨audit_eq, roles_eq, -⟩
  · rw [audit_rows, roles_rows, List.filter_append, List.foldl_append,
      recorded tenant, AuditEventRow.filter_applyRoles]
    split
    case isTrue same => simp [same]
    case isFalse other => simp [other]
  · rw [audit_eq, roles_eq]
    exact recorded tenant

/-- An audited call that changes a row appends one event of its tenant, an error
and a denial change nothing, and after every run the events of a tenant describe
its roles exactly. -/
theorem audit_completeness (unicode : Unicode) :
    (∀ (store : Store) (call : Call) (reply : call.Reply) (later : Store),
      Step unicode store call reply later → isAudited call = true →
        later ≠ store →
          ∃ (result : call.Result) (event : AuditEventRow),
            reply = .ok result ∧
            later.auditEvents.rows = store.auditEvents.rows ++ [event] ∧
            store.scope call result = some event.tenantId) ∧
    (∀ (store : Store) (call : Call) (error : StoreError) (later : Store),
      Step unicode store call (.error error) later → later = store) ∧
    (∀ (store : Store) (call : Call) (result : call.Result) (later : Store),
      Step unicode store call (.ok result) later →
        isDenial call result = true → later = store) ∧
    (∀ (events : List (Event Call Call.Reply)) (store : Store)
      (tenant : TenantId),
      Trace (Step unicode) .empty events store →
        (store.auditEvents.rows.filter fun event =>
            event.tenantId = tenant).foldl AuditEventRow.applyRoles [] =
          store.accountRoles.rows.filter fun row => row.tenantId = tenant) := by
  refine ⟨fun store call reply later step audited changed => ?_,
    fun store call error later step => step.eq_of_error,
    fun store call result later step denied => step.effect.eq_of_denial denied,
    fun events store tenant trace => ?_⟩
  · cases reply with
    | error error => exact absurd step.eq_of_error changed
    | ok result =>
        rcases step.effect.logged with ⟨event, audit_rows, scope_eq, -⟩ |
          ⟨-, -, unchanged⟩
        · exact ⟨result, event, rfl, audit_rows, scope_eq⟩
        · exact absurd (unchanged audited) changed
  · exact invariant_of_trace Effect.recorded trace (fun _ => rfl) tenant

end Store

end Fabric
end Fcp
