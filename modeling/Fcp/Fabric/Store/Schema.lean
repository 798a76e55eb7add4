import Fcp.Sql.Transaction
import Fcp.Fabric.Clock
import Fcp.Fabric.Administration

/-!
# The authority schema

The tables of the authority database with their keys, foreign keys and checks.
Text columns with a closed set of values are enumerations.  The migrations give
every account-scoped table a foreign key on tenant and account together.
-/

namespace Fcp
namespace Fabric

open Rust
open Sql

/-! ## Values of columns -/

/-- A JSON document. -/
inductive Json
  | null
  | bool (value : Bool)
  | number (value : Int)
  | string (value : String)
  | array (items : List Json)
  | object (members : List (String × Json))

/-- An identifier in a JSON document. -/
def Json.uuid (value : Uuid) : Json :=
  .string value.toText

/-- A keyed digest that may be stored in the session database. -/
structure OpaqueTokenDigest where
  asBytes : Vector UInt8 32
  deriving DecidableEq

/-- A serialised PHC password verifier. -/
structure PasswordVerifierString where
  asStr : String
  deriving DecidableEq

/-- A reference to the externally managed key that encrypts a TOTP seed. -/
structure TotpKeyReference where
  asStr : String
  bounded : ¬UnsafeText 256 asStr
  deriving DecidableEq

/-- Lifecycle of a TOTP factor. -/
inductive TotpFactorStatus
  | pending
  | active
  | disabled
  deriving DecidableEq

/-- Next step of a login transaction. -/
inductive LoginTransactionStage
  | mfaEnrollment
  | mfaChallenge
  | sessionIssuance
  deriving DecidableEq

/-- The stage column of a login transaction. -/
inductive StageColumn
  | awaits (stage : LoginTransactionStage)
  | consumed
  | revoked
  deriving DecidableEq

/-- The text of a stage in the database and in audit metadata. -/
def LoginTransactionStage.databaseValue : LoginTransactionStage → String
  | .mfaEnrollment => "mfa_enrollment"
  | .mfaChallenge => "mfa_challenge"
  | .sessionIssuance => "session_issuance"

/-- Purpose of a server-side ceremony. -/
inductive WebauthnCeremonyKind
  | registration
  | authentication
  deriving DecidableEq

/-- The text of a ceremony kind in the database and in audit metadata. -/
def WebauthnCeremonyKind.databaseValue : WebauthnCeremonyKind → String
  | .registration => "registration"
  | .authentication => "authentication"

/-- Action protected by one action-bound step-up grant. -/
inductive StepUpAction
  | changeAccountRole
  deriving DecidableEq

/-- The text of an action in the database and in audit metadata. -/
def StepUpAction.databaseValue : StepUpAction → String
  | .changeAccountRole => "change_account_role"

/-- A redacted audit action category. -/
inductive AuditAction
  | tenantBootstrapped
  | accountCreated
  | roleChanged
  | passwordChanged
  | mfaChanged
  | loginTransactionIssued
  | loginTransactionConsumed
  | sessionIssued
  | sessionRevoked
  | stepUpGranted
  | stepUpConsumed
  | webauthnCeremonyIssued
  | webauthnCeremonyConsumed
  | passkeyChanged
  | federationTrustChanged
  | federationRequestEvaluated
  deriving DecidableEq

/-! ## Rows -/

structure TenantRow where
  id : TenantId
  canonicalDomain : DomainName
  policyVersion : Nat
  createdAt : OffsetDateTime
  updatedAt : OffsetDateTime

structure AccountRow where
  id : AccountId
  tenantId : TenantId
  normalizedLocalpart : Localpart
  state : AccountState
  createdAt : OffsetDateTime
  updatedAt : OffsetDateTime

structure AccountRoleRow where
  tenantId : TenantId
  accountId : AccountId
  role : Role
  grantedByAccountId : Option AccountId
  grantedAt : OffsetDateTime

structure PasswordCredentialRow where
  accountId : AccountId
  tenantId : TenantId
  phcVerifier : PasswordVerifierString
  pepperKeyVersion : Option String
  changedAt : OffsetDateTime

structure TotpFactorRow where
  id : Uuid
  tenantId : TenantId
  accountId : AccountId
  status : TotpFactorStatus
  seedCiphertext : List UInt8
  seedNonce : Vector UInt8 12
  keyReference : TotpKeyReference
  digits : Int
  periodSeconds : Int
  lastAcceptedTimeStep : Option Int
  createdAt : OffsetDateTime
  activatedAt : Option OffsetDateTime

structure RecoveryCodeSetRow where
  id : Uuid
  tenantId : TenantId
  accountId : AccountId
  createdAt : OffsetDateTime
  invalidatedAt : Option OffsetDateTime

structure RecoveryCodeVerifierRow where
  id : Uuid
  setId : Uuid
  verifier : String
  consumedAt : Option OffsetDateTime

structure SessionFamilyRow where
  id : Uuid
  tenantId : TenantId
  accountId : AccountId
  createdAt : OffsetDateTime
  revokedAt : Option OffsetDateTime
  revokeReason : Option String

structure RefreshCredentialRow where
  id : Uuid
  tenantId : TenantId
  accountId : AccountId
  familyId : Uuid
  tokenDigest : Vector UInt8 32
  issuedAt : OffsetDateTime
  expiresAt : OffsetDateTime
  consumedAt : Option OffsetDateTime
  replacedBy : Option Uuid

structure AccessSessionRow where
  id : Uuid
  tenantId : TenantId
  accountId : AccountId
  familyId : Uuid
  tokenDigest : Vector UInt8 32
  issuedAt : OffsetDateTime
  expiresAt : OffsetDateTime
  revokedAt : Option OffsetDateTime

structure StepUpGrantRow where
  id : Uuid
  tenantId : TenantId
  accountId : AccountId
  familyId : Uuid
  action : StepUpAction
  targetDigest : Vector UInt8 32
  tokenDigest : Vector UInt8 32
  issuedAt : OffsetDateTime
  expiresAt : OffsetDateTime
  consumedAt : Option OffsetDateTime

structure LoginTransactionRow where
  id : Uuid
  tenantId : TenantId
  accountId : AccountId
  tokenDigest : Vector UInt8 32
  stage : StageColumn
  bindingDigest : Vector UInt8 32
  factorId : Option Uuid
  issuedAt : OffsetDateTime
  expiresAt : OffsetDateTime
  consumedAt : Option OffsetDateTime

structure WebauthnCredentialRow where
  id : Uuid
  tenantId : TenantId
  accountId : AccountId
  credentialId : String
  passkey : Json
  label : Option String
  createdAt : OffsetDateTime
  lastUsedAt : Option OffsetDateTime
  disabledAt : Option OffsetDateTime

structure WebauthnCeremonyRow where
  id : Uuid
  tenantId : TenantId
  accountId : AccountId
  kind : WebauthnCeremonyKind
  state : Json
  tokenDigest : Vector UInt8 32
  bindingDigest : Vector UInt8 32
  createdAt : OffsetDateTime
  expiresAt : OffsetDateTime
  consumedAt : Option OffsetDateTime

structure TotpDataKeyEnvelopeRow where
  keyReference : TotpKeyReference
  provider : String
  wrappingKeyReference : String
  encryptedDataKey : List UInt8
  createdAt : OffsetDateTime

structure FederationPeerRow where
  id : Uuid
  tenantId : TenantId
  remoteDomain : DomainName
  trustState : FederationTrustState
  expectedKeyFingerprint : List UInt8

structure FederationKeyRow where
  peerId : Uuid
  keyId : String
  publicKeyDocument : Json
  validUntil : OffsetDateTime
  retiredAt : Option OffsetDateTime
  firstSeenAt : OffsetDateTime

structure FederationReplayRow where
  tenantId : TenantId
  peerId : Uuid
  requestId : Uuid
  bodyDigest : Vector UInt8 32
  acceptedAt : OffsetDateTime
  expiresAt : OffsetDateTime

structure AuditEventRow where
  id : Uuid
  tenantId : TenantId
  actorId : Option AccountId
  action : AuditAction
  correlationId : String
  metadata : Json
  occurredAt : OffsetDateTime

/-! ## Primary keys and unique indexes -/

/-- Values of a nullable unique column, of which any number may be null. -/
def NullableApart (first second : Option α) : Prop :=
  first = none ∨ first ≠ second

instance [DecidableEq α] : DecidableRel (NullableApart (α := α)) :=
  fun _ _ => inferInstanceAs (Decidable (_ ∨ _))

def TenantRow.Apart (first second : TenantRow) : Prop :=
  first.id ≠ second.id ∧ first.canonicalDomain ≠ second.canonicalDomain

def AccountRow.Apart (first second : AccountRow) : Prop :=
  first.id ≠ second.id ∧
    (first.tenantId, first.normalizedLocalpart) ≠
      (second.tenantId, second.normalizedLocalpart)

def AccountRoleRow.Apart (first second : AccountRoleRow) : Prop :=
  (first.tenantId, first.accountId, first.role) ≠
    (second.tenantId, second.accountId, second.role)

def PasswordCredentialRow.Apart (first second : PasswordCredentialRow) : Prop :=
  first.accountId ≠ second.accountId

/-- An account has at most one active factor. -/
def TotpFactorRow.Apart (first second : TotpFactorRow) : Prop :=
  first.id ≠ second.id ∧
    ¬(first.status = .active ∧ second.status = .active ∧
      first.tenantId = second.tenantId ∧ first.accountId = second.accountId)

/-- An account has at most one usable recovery code set. -/
def RecoveryCodeSetRow.Apart (first second : RecoveryCodeSetRow) : Prop :=
  first.id ≠ second.id ∧
    ¬(first.invalidatedAt = none ∧ second.invalidatedAt = none ∧
      first.tenantId = second.tenantId ∧ first.accountId = second.accountId)

def RecoveryCodeVerifierRow.Apart (first second : RecoveryCodeVerifierRow) :
    Prop :=
  first.id ≠ second.id ∧
    (first.setId, first.verifier) ≠ (second.setId, second.verifier)

def SessionFamilyRow.Apart (first second : SessionFamilyRow) : Prop :=
  first.id ≠ second.id

def RefreshCredentialRow.Apart (first second : RefreshCredentialRow) : Prop :=
  first.id ≠ second.id ∧ first.tokenDigest ≠ second.tokenDigest ∧
    NullableApart first.replacedBy second.replacedBy

def AccessSessionRow.Apart (first second : AccessSessionRow) : Prop :=
  first.id ≠ second.id ∧ first.tokenDigest ≠ second.tokenDigest

def StepUpGrantRow.Apart (first second : StepUpGrantRow) : Prop :=
  first.id ≠ second.id ∧ first.tokenDigest ≠ second.tokenDigest

def LoginTransactionRow.Apart (first second : LoginTransactionRow) : Prop :=
  first.id ≠ second.id ∧ first.tokenDigest ≠ second.tokenDigest

def WebauthnCredentialRow.Apart (first second : WebauthnCredentialRow) : Prop :=
  first.id ≠ second.id ∧ first.credentialId ≠ second.credentialId

def WebauthnCeremonyRow.Apart (first second : WebauthnCeremonyRow) : Prop :=
  first.id ≠ second.id ∧ first.tokenDigest ≠ second.tokenDigest

def TotpDataKeyEnvelopeRow.Apart (first second : TotpDataKeyEnvelopeRow) :
    Prop :=
  first.keyReference ≠ second.keyReference

def FederationPeerRow.Apart (first second : FederationPeerRow) : Prop :=
  first.id ≠ second.id ∧
    (first.tenantId, first.remoteDomain) ≠ (second.tenantId, second.remoteDomain)

def FederationKeyRow.Apart (first second : FederationKeyRow) : Prop :=
  (first.peerId, first.keyId) ≠ (second.peerId, second.keyId)

def FederationReplayRow.Apart (first second : FederationReplayRow) : Prop :=
  (first.tenantId, first.peerId, first.requestId) ≠
    (second.tenantId, second.peerId, second.requestId)

def AuditEventRow.Apart (first second : AuditEventRow) : Prop :=
  first.id ≠ second.id

instance : DecidableRel TenantRow.Apart :=
  fun _ _ => inferInstanceAs (Decidable (_ ∧ _))

instance : DecidableRel AccountRow.Apart :=
  fun _ _ => inferInstanceAs (Decidable (_ ∧ _))

instance : DecidableRel AccountRoleRow.Apart :=
  fun _ _ => inferInstanceAs (Decidable (_ ≠ _))

instance : DecidableRel PasswordCredentialRow.Apart :=
  fun _ _ => inferInstanceAs (Decidable (_ ≠ _))

instance : DecidableRel TotpFactorRow.Apart :=
  fun _ _ => inferInstanceAs (Decidable (_ ∧ _))

instance : DecidableRel RecoveryCodeSetRow.Apart :=
  fun _ _ => inferInstanceAs (Decidable (_ ∧ _))

instance : DecidableRel RecoveryCodeVerifierRow.Apart :=
  fun _ _ => inferInstanceAs (Decidable (_ ∧ _))

instance : DecidableRel SessionFamilyRow.Apart :=
  fun _ _ => inferInstanceAs (Decidable (_ ≠ _))

instance : DecidableRel RefreshCredentialRow.Apart :=
  fun _ _ => inferInstanceAs (Decidable (_ ∧ _))

instance : DecidableRel AccessSessionRow.Apart :=
  fun _ _ => inferInstanceAs (Decidable (_ ∧ _))

instance : DecidableRel StepUpGrantRow.Apart :=
  fun _ _ => inferInstanceAs (Decidable (_ ∧ _))

instance : DecidableRel LoginTransactionRow.Apart :=
  fun _ _ => inferInstanceAs (Decidable (_ ∧ _))

instance : DecidableRel WebauthnCredentialRow.Apart :=
  fun _ _ => inferInstanceAs (Decidable (_ ∧ _))

instance : DecidableRel WebauthnCeremonyRow.Apart :=
  fun _ _ => inferInstanceAs (Decidable (_ ∧ _))

instance : DecidableRel TotpDataKeyEnvelopeRow.Apart :=
  fun _ _ => inferInstanceAs (Decidable (_ ≠ _))

instance : DecidableRel FederationReplayRow.Apart :=
  fun _ _ => inferInstanceAs (Decidable (_ ≠ _))

instance : DecidableRel AuditEventRow.Apart :=
  fun _ _ => inferInstanceAs (Decidable (_ ≠ _))

/-! ## The database -/

abbrev Accounts : Type := Table AccountRow AccountRow.Apart

abbrev TotpFactors : Type := Table TotpFactorRow TotpFactorRow.Apart

abbrev SessionFamilies : Type := Table SessionFamilyRow SessionFamilyRow.Apart

abbrev RefreshCredentials : Type :=
  Table RefreshCredentialRow RefreshCredentialRow.Apart

abbrev AccessSessions : Type := Table AccessSessionRow AccessSessionRow.Apart

abbrev StepUpGrants : Type := Table StepUpGrantRow StepUpGrantRow.Apart

abbrev LoginTransactions : Type :=
  Table LoginTransactionRow LoginTransactionRow.Apart

/-- The contents of the authority database. -/
structure Store where
  tenants : Table TenantRow TenantRow.Apart
  accounts : Accounts
  accountRoles : Table AccountRoleRow AccountRoleRow.Apart
  passwordCredentials :
    Table PasswordCredentialRow PasswordCredentialRow.Apart
  mfaTotpFactors : TotpFactors
  recoveryCodeSets : Table RecoveryCodeSetRow RecoveryCodeSetRow.Apart
  recoveryCodeVerifiers :
    Table RecoveryCodeVerifierRow RecoveryCodeVerifierRow.Apart
  sessionFamilies : SessionFamilies
  refreshCredentials : RefreshCredentials
  accessSessions : AccessSessions
  stepUpGrants : StepUpGrants
  loginTransactions : LoginTransactions
  webauthnCredentials :
    Table WebauthnCredentialRow WebauthnCredentialRow.Apart
  webauthnCeremonies : Table WebauthnCeremonyRow WebauthnCeremonyRow.Apart
  totpDataKeyEnvelopes :
    Table TotpDataKeyEnvelopeRow TotpDataKeyEnvelopeRow.Apart
  federationPeers : Table FederationPeerRow FederationPeerRow.Apart
  federationKeys : Table FederationKeyRow FederationKeyRow.Apart
  federationReplays : Table FederationReplayRow FederationReplayRow.Apart
  auditEvents : Table AuditEventRow AuditEventRow.Apart

namespace Store

/-- The database after its migrations. -/
def empty : Store where
  tenants := .empty
  accounts := .empty
  accountRoles := .empty
  passwordCredentials := .empty
  mfaTotpFactors := .empty
  recoveryCodeSets := .empty
  recoveryCodeVerifiers := .empty
  sessionFamilies := .empty
  refreshCredentials := .empty
  accessSessions := .empty
  stepUpGrants := .empty
  loginTransactions := .empty
  webauthnCredentials := .empty
  webauthnCeremonies := .empty
  totpDataKeyEnvelopes := .empty
  federationPeers := .empty
  federationKeys := .empty
  federationReplays := .empty
  auditEvents := .empty

/-- A tenant exists. -/
def hasTenant (store : Store) (tenant : TenantId) : Bool :=
  store.tenants.any fun row => row.id = tenant

/-- An account exists in some tenant. -/
def hasAccountId (store : Store) (account : AccountId) : Bool :=
  store.accounts.any fun row => row.id = account

/-- An account exists in a tenant. -/
def hasAccount (store : Store) (tenant : TenantId) (account : AccountId) :
    Bool :=
  store.accounts.any fun row => row.id = account ∧ row.tenantId = tenant

/-- An account exists in a tenant and is in a given state. -/
def hasAccountIn
    (store : Store)
    (tenant : TenantId)
    (account : AccountId)
    (state : AccountState) : Bool :=
  store.accounts.any fun row =>
    row.id = account ∧ row.tenantId = tenant ∧ row.state = state

/-- A session family exists. -/
def hasFamily (store : Store) (family : Uuid) : Bool :=
  store.sessionFamilies.any fun row => row.id = family

/-! ## Foreign keys and checks -/

/-- The foreign keys of an account-scoped row. -/
def owns (store : Store) (tenant : TenantId) (account : AccountId) : Bool :=
  store.hasTenant tenant && store.hasAccount tenant account

def tenantsRelation : Relation Store TenantRow TenantRow.Apart where
  table := tenants
  replace store table := { store with tenants := table }
  admits _ row :=
    1 ≤ row.policyVersion ∧
      toAsciiLowercase row.canonicalDomain.asStr = row.canonicalDomain.asStr

def accountsRelation : Relation Store AccountRow AccountRow.Apart where
  table := accounts
  replace store table := { store with accounts := table }
  admits store row := store.hasTenant row.tenantId

def accountRolesRelation :
    Relation Store AccountRoleRow AccountRoleRow.Apart where
  table := accountRoles
  replace store table := { store with accountRoles := table }
  admits store row :=
    store.owns row.tenantId row.accountId &&
      row.grantedByAccountId.all store.hasAccountId

def passwordCredentialsRelation :
    Relation Store PasswordCredentialRow PasswordCredentialRow.Apart where
  table := passwordCredentials
  replace store table := { store with passwordCredentials := table }
  admits store row := store.owns row.tenantId row.accountId

def mfaTotpFactorsRelation :
    Relation Store TotpFactorRow TotpFactorRow.Apart where
  table := mfaTotpFactors
  replace store table := { store with mfaTotpFactors := table }
  admits store row :=
    store.owns row.tenantId row.accountId &&
      decide ((row.digits = 6 ∨ row.digits = 8) ∧ row.periodSeconds = 30)

def recoveryCodeSetsRelation :
    Relation Store RecoveryCodeSetRow RecoveryCodeSetRow.Apart where
  table := recoveryCodeSets
  replace store table := { store with recoveryCodeSets := table }
  admits store row := store.owns row.tenantId row.accountId

def recoveryCodeVerifiersRelation :
    Relation Store RecoveryCodeVerifierRow RecoveryCodeVerifierRow.Apart where
  table := recoveryCodeVerifiers
  replace store table := { store with recoveryCodeVerifiers := table }
  admits store row := store.recoveryCodeSets.any fun set => set.id = row.setId

def sessionFamiliesRelation :
    Relation Store SessionFamilyRow SessionFamilyRow.Apart where
  table := sessionFamilies
  replace store table := { store with sessionFamilies := table }
  admits store row := store.owns row.tenantId row.accountId

def refreshCredentialsRelation :
    Relation Store RefreshCredentialRow RefreshCredentialRow.Apart where
  table := refreshCredentials
  replace store table := { store with refreshCredentials := table }
  admits store row :=
    store.owns row.tenantId row.accountId && store.hasFamily row.familyId &&
      decide (row.issuedAt < row.expiresAt)

def accessSessionsRelation :
    Relation Store AccessSessionRow AccessSessionRow.Apart where
  table := accessSessions
  replace store table := { store with accessSessions := table }
  admits store row :=
    store.owns row.tenantId row.accountId && store.hasFamily row.familyId

def stepUpGrantsRelation :
    Relation Store StepUpGrantRow StepUpGrantRow.Apart where
  table := stepUpGrants
  replace store table := { store with stepUpGrants := table }
  admits store row :=
    store.owns row.tenantId row.accountId && store.hasFamily row.familyId

def loginTransactionsRelation :
    Relation Store LoginTransactionRow LoginTransactionRow.Apart where
  table := loginTransactions
  replace store table := { store with loginTransactions := table }
  admits store row :=
    store.owns row.tenantId row.accountId &&
      decide (row.issuedAt < row.expiresAt)

def webauthnCredentialsRelation :
    Relation Store WebauthnCredentialRow WebauthnCredentialRow.Apart where
  table := webauthnCredentials
  replace store table := { store with webauthnCredentials := table }
  admits store row :=
    store.owns row.tenantId row.accountId &&
      decide (1 ≤ row.credentialId.length ∧ row.credentialId.length ≤ 2048) &&
      row.label.all fun label => 1 ≤ label.length ∧ label.length ≤ 96

def webauthnCeremoniesRelation :
    Relation Store WebauthnCeremonyRow WebauthnCeremonyRow.Apart where
  table := webauthnCeremonies
  replace store table := { store with webauthnCeremonies := table }
  admits store row :=
    store.owns row.tenantId row.accountId &&
      decide (row.createdAt < row.expiresAt)

def totpDataKeyEnvelopesRelation :
    Relation Store TotpDataKeyEnvelopeRow TotpDataKeyEnvelopeRow.Apart where
  table := totpDataKeyEnvelopes
  replace store table := { store with totpDataKeyEnvelopes := table }
  admits _ row :=
    row.provider = "aws_kms" ∧ row.keyReference.asStr.length ≤ 256 ∧
      row.wrappingKeyReference.length ≤ 2048 ∧
      1 ≤ row.encryptedDataKey.length ∧ row.encryptedDataKey.length ≤ 6144

def federationReplaysRelation :
    Relation Store FederationReplayRow FederationReplayRow.Apart where
  table := federationReplays
  replace store table := { store with federationReplays := table }
  admits store row :=
    store.hasTenant row.tenantId &&
      (store.federationPeers.any fun peer => peer.id = row.peerId) &&
      decide (row.acceptedAt < row.expiresAt)

def auditEventsRelation : Relation Store AuditEventRow AuditEventRow.Apart where
  table := auditEvents
  replace store table := { store with auditEvents := table }
  admits store row :=
    store.hasTenant row.tenantId && row.actorId.all store.hasAccountId &&
      decide (1 ≤ row.correlationId.length ∧ row.correlationId.length ≤ 128)

end Store

end Fabric
end Fcp
