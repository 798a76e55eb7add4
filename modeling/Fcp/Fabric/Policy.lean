import Fcp.Fabric.Address

/-!
# Identifiers, roles and authorization

Tenant-local account states and roles, and the attributes of an authenticated
actor that one policy decision needs.
-/

namespace Fcp
namespace Fabric

open Rust

/-- A universally unique identifier. -/
abbrev Uuid : Type :=
  Vector UInt8 16

namespace Uuid

/-- A byte in two lower-case hexadecimal digits. -/
def hexByte (byte : UInt8) : List Char :=
  [Nat.digitChar (byte.toNat / 16), Nat.digitChar (byte.toNat % 16)]

/-- Groups of four, two, two, two and six bytes with hyphens between them. -/
def toText (uuid : Uuid) : String :=
  let digits := uuid.toList.flatMap hexByte
  .ofList
    (digits.take 8 ++ '-' :: (digits.drop 8).take 4 ++
      '-' :: (digits.drop 12).take 4 ++ '-' :: (digits.drop 16).take 4 ++
      '-' :: digits.drop 20)

end Uuid

/-- A stable tenant identifier. -/
structure TenantId where
  asUuid : Uuid
  deriving DecidableEq

/-- A stable account identifier. -/
structure AccountId where
  asUuid : Uuid
  deriving DecidableEq

/-- An account lifecycle state. -/
inductive AccountState
  | active
  | mfaEnrollmentRequired
  | suspended
  | deactivated
  deriving DecidableEq

/-- Whether a state permits a normal authenticated session. -/
def AccountState.permitsSession : AccountState → Bool
  | .active => true
  | _ => false

theorem AccountState.permitsSession_eq_true_iff {state : AccountState} :
    state.permitsSession = true ↔ state = .active := by
  cases state <;> decide

/-- A tenant-local authority role. -/
inductive Role
  | owner
  | admin
  | operator
  | auditor
  | member
  deriving DecidableEq

/-- A typed operation subject to authorization. -/
inductive Permission
  | manageTenant
  | manageRoles
  | manageAccounts
  | publishConfiguration
  | manageFederation
  | readAudit
  | manageOwnSecurity
  | useApplication
  deriving DecidableEq

namespace Role

/-- Whether a role grants a permission inside its own tenant. -/
def grants : Role → Permission → Bool
  | .owner, _ => true
  | .admin, permission => permission ∈
      [.manageAccounts, .publishConfiguration, .readAudit, .manageOwnSecurity,
        .useApplication]
  | .operator, permission => permission ∈
      [.publishConfiguration, .readAudit, .manageOwnSecurity, .useApplication]
  | .auditor, permission => permission ∈
      [.readAudit, .manageOwnSecurity, .useApplication]
  | .member, permission => permission ∈ [.manageOwnSecurity, .useApplication]

/-- Roles are managed by owners alone. -/
theorem grants_manageRoles_iff {role : Role} :
    role.grants .manageRoles = true ↔ role = .owner := by
  cases role <;> decide

/-- The text of a role in the database, in audit metadata and in digests. -/
def text : Role → String
  | .owner => "owner"
  | .admin => "admin"
  | .operator => "operator"
  | .auditor => "auditor"
  | .member => "member"

theorem text_injective : Function.Injective text := by
  intro first second same
  cases first <;> cases second <;> first | rfl | exact absurd same (by decide)

end Role

/-- A federation peer's locally governed trust state. -/
inductive FederationTrustState
  | pending
  | active
  | suspended
  | revoked
  deriving DecidableEq

/-- Whether a peer may submit new federation requests. -/
def FederationTrustState.acceptsRequests : FederationTrustState → Bool
  | .active => true
  | _ => false

theorem FederationTrustState.acceptsRequests_eq_true_iff
    {state : FederationTrustState} :
    state.acceptsRequests = true ↔ state = .active := by
  cases state <;> decide

/-- Tenant-local authorization failed. -/
inductive AuthorizationError
  | accountUnavailable
  | permissionDenied
  | stepUpRequired
  deriving DecidableEq

/-- Authenticated actor attributes needed for a single policy decision. -/
structure AuthorizationContext where
  tenantId : TenantId
  accountId : AccountId
  state : AccountState
  roles : List Role
  stepUpVerified : Bool
  deriving DecidableEq

namespace AuthorizationContext

/-- Require an active account and a permission granted by one of its roles. -/
def require (context : AuthorizationContext) (permission : Permission) :
    Except AuthorizationError Unit := do
  rejectIf (context.state.permitsSession = false) .accountUnavailable
  rejectIf (context.roles.any (·.grants permission) = false) .permissionDenied

end AuthorizationContext

end Fabric
end Fcp
