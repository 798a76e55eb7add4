import Fcp.Fabric.Policy

/-!
# Administration commands

Typed commands and the policy checks that precede their persistence.
-/

namespace Fcp
namespace Fabric

open Rust

/-- Domain validation failure of an administration command. -/
inductive AdministrationError
  | crossTenantMutation
  | actorUnavailable
  | permissionDenied
  | stepUpRequired
  | invalidCorrelationId
  | privilegedRoleRequiresDedicatedWorkflow
  | ownerRoleRequiresDedicatedWorkflow
  deriving DecidableEq

/-- Text that is empty, too long or holds a control character. -/
def UnsafeText (maximum : Nat) (value : String) : Prop :=
  value = "" ∨ (asBytes value).length > maximum ∨
    value.toList.any isControl = true

instance (maximum : Nat) (value : String) :
    Decidable (UnsafeText maximum value) :=
  inferInstanceAs (Decidable (_ ∨ _))

/-- Bound the correlation identifier of an audit event. -/
def validateCorrelationId (invalid : ε) (value : String) : Except ε Unit :=
  rejectIf (UnsafeText 128 value) invalid

theorem validateCorrelationId_eq_ok_iff
    {invalid : ε}
    {value : String}
    {result : Unit} :
    validateCorrelationId invalid value = .ok result ↔
      ¬UnsafeText 128 value :=
  rejectIf_eq_ok_iff

/-- Create the first owner account of a new tenant. -/
structure BootstrapTenant where
  domain : DomainName
  ownerLocalpart : Localpart
  correlationId : String

/-- Check a bootstrap command before persistence. -/
def BootstrapTenant.validate (command : BootstrapTenant) :
    Except AdministrationError Unit :=
  validateCorrelationId .invalidCorrelationId command.correlationId

/-- A request-local actor proven by an authenticated service boundary. -/
structure AdministrationActor where
  tenantId : TenantId
  accountId : AccountId
  roles : List Role
  stepUpVerified : Bool
  accountState : AccountState
  deriving DecidableEq

namespace AdministrationActor

/-- Require an action inside the actor's own tenant. -/
def requireSameTenant (actor : AdministrationActor) (target : TenantId) :
    Except AdministrationError Unit :=
  rejectIf (actor.tenantId ≠ target) .crossTenantMutation

/-- Require a permission granted by at least one current actor role. -/
def require (actor : AdministrationActor) (permission : Permission) :
    Except AdministrationError Unit := do
  rejectIf (actor.accountState.permitsSession = false) .actorUnavailable
  rejectIf (actor.roles.any (·.grants permission) = false) .permissionDenied

/-- Require step-up verification for a privileged action. -/
def requireStepUp (actor : AdministrationActor) :
    Except AdministrationError Unit :=
  rejectIf (actor.stepUpVerified = false) .stepUpRequired

theorem require_eq_ok_iff
    {actor : AdministrationActor}
    {permission : Permission}
    {result : Unit} :
    actor.require permission = .ok result ↔
      actor.accountState = .active ∧ ∃ role ∈ actor.roles,
        role.grants permission = true := by
  simp only [require, bind_eq_ok_iff, rejectIf_eq_ok_iff, Bool.not_eq_false,
    AccountState.permitsSession_eq_true_iff, List.any_eq_true, exists_and_left,
    exists_const]

end AdministrationActor

/-- Create an invite-only tenant account. -/
structure InviteAccount where
  tenantId : TenantId
  localpart : Localpart
  initialRole : Role
  actor : AdministrationActor
  correlationId : String

/-- Check the tenant boundary and the role policy of an invitation. -/
def InviteAccount.validate (command : InviteAccount) :
    Except AdministrationError Unit := do
  command.actor.requireSameTenant command.tenantId
  command.actor.require .manageAccounts
  rejectIf (command.initialRole = .owner ∨ command.initialRole = .admin)
    .privilegedRoleRequiresDedicatedWorkflow
  validateCorrelationId .invalidCorrelationId command.correlationId

/-- An invitation never creates a privileged account. -/
theorem InviteAccount.initialRole_of_validate
    {command : InviteAccount}
    (valid : command.validate = .ok ()) :
    command.initialRole ≠ .owner ∧ command.initialRole ≠ .admin := by
  simp only [validate, bind_eq_ok_iff, rejectIf_eq_ok_iff] at valid
  obtain ⟨_, _, _, _, _, unprivileged, _⟩ := valid
  exact not_or.mp unprivileged

/-- Alter a tenant-local role assignment. -/
structure ChangeRole where
  tenantId : TenantId
  targetAccountId : AccountId
  role : Role
  grant : Bool
  actor : AdministrationActor
  correlationId : String

/-- Check the boundary of a role change. -/
def ChangeRole.validate (command : ChangeRole) :
    Except AdministrationError Unit := do
  command.actor.requireSameTenant command.tenantId
  command.actor.require .manageRoles
  command.actor.requireStepUp
  rejectIf (command.role = .owner) .ownerRoleRequiresDedicatedWorkflow
  validateCorrelationId .invalidCorrelationId command.correlationId

/-- A valid role change comes from an owner of the tenant, after step-up, and is
not about ownership. -/
theorem ChangeRole.of_validate
    {command : ChangeRole}
    (valid : command.validate = .ok ()) :
    command.actor.tenantId = command.tenantId ∧
      Role.owner ∈ command.actor.roles ∧
      command.actor.stepUpVerified = true ∧
      command.role ≠ .owner := by
  simp only [validate, AdministrationActor.requireSameTenant,
    AdministrationActor.requireStepUp, bind_eq_ok_iff, rejectIf_eq_ok_iff,
    AdministrationActor.require_eq_ok_iff, Role.grants_manageRoles_iff,
    not_not, Bool.not_eq_false] at valid
  obtain ⟨_, same, _, ⟨_, role, held, rfl⟩, _, verified, _, notOwner, _⟩ := valid
  exact ⟨same, held, verified, notOwner⟩

end Fabric
end Fcp
