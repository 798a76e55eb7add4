import Fcp.Fabric.Store.Helpers

/-!
# Authenticator-app factors, data-key envelopes and recovery codes
-/

namespace Fcp
namespace Fabric

open Rust
open Sql
open Sql.Transaction

/-- A persisted encrypted TOTP seed and non-secret metadata. -/
structure EncryptedTotpSeed where
  ciphertext : List UInt8
  nonce : Vector UInt8 12
  keyReference : TotpKeyReference
  digits : Nat
  periodSeconds : Int

/-- An encrypted TOTP factor retrieved from the store. -/
structure PersistedTotpFactor where
  factorId : Uuid
  encryptedSeed : EncryptedTotpSeed
  lastAcceptedStep : Option Int

/-- Read a factor row under the strict TOTP profile. -/
def PersistedTotpFactor.tryFromRow (row : TotpFactorRow) :
    Except StoreError PersistedTotpFactor := do
  rejectIf (row.digits ≠ 6 ∨ row.periodSeconds ≠ 30)
    StoreError.invalidStoredTotp
  return {
    factorId := row.id
    encryptedSeed :=
      { ciphertext := row.seedCiphertext
        nonce := row.seedNonce
        keyReference := row.keyReference
        digits := row.digits.toNat
        periodSeconds := row.periodSeconds }
    lastAcceptedStep := row.lastAcceptedTimeStep }

theorem PersistedTotpFactor.factorId_of_tryFromRow
    {row : TotpFactorRow}
    {factor : PersistedTotpFactor}
    (parsed : tryFromRow row = .ok factor) :
    factor.factorId = row.id := by
  obtain ⟨_, -, read⟩ := bind_eq_ok_iff.mp parsed
  cases read
  rfl

/-- Non-secret key envelope persisted for one TOTP data key. -/
structure StoredTotpDataKeyEnvelope where
  keyReference : TotpKeyReference
  provider : String
  wrappingKeyReference : String
  encryptedDataKey : List UInt8

/-- Store a newly generated wrapped data key. -/
structure CreateTotpDataKeyEnvelope where
  keyReference : TotpKeyReference
  provider : String
  wrappingKeyReference : String
  encryptedDataKey : List UInt8
  createdAt : OffsetDateTime

/-- Envelope metadata outside the bounded provider contract. -/
def BadEnvelope
    (provider wrappingKeyReference : String)
    (encryptedDataKey : List UInt8) : Prop :=
  provider ≠ "aws_kms" ∨ UnsafeText 2048 wrappingKeyReference ∨
    encryptedDataKey = [] ∨ encryptedDataKey.length > 6144

instance (provider wrappingKeyReference : String)
    (encryptedDataKey : List UInt8) :
    Decidable (BadEnvelope provider wrappingKeyReference encryptedDataKey) :=
  inferInstanceAs (Decidable (_ ∨ _))

/-- One current recovery-code set. -/
structure RecoveryCodeSetRecord where
  setId : Uuid
  codeCount : Nat
  createdAt : OffsetDateTime

/-! ## Rows written -/

def CreateTotpDataKeyEnvelope.envelope (request : CreateTotpDataKeyEnvelope) :
    TotpDataKeyEnvelopeRow where
  keyReference := request.keyReference
  provider := request.provider
  wrappingKeyReference := request.wrappingKeyReference
  encryptedDataKey := request.encryptedDataKey
  createdAt := request.createdAt.timestamptz

/-- Arguments of a pending factor. -/
structure CreatePendingTotpFactor where
  tenantId : TenantId
  accountId : AccountId
  factorId : Uuid
  encrypted : EncryptedTotpSeed
  correlationId : String

namespace CreatePendingTotpFactor

def factor (request : CreatePendingTotpFactor) (generated : Generated) :
    TotpFactorRow where
  id := request.factorId
  tenantId := request.tenantId
  accountId := request.accountId
  status := .pending
  seedCiphertext := request.encrypted.ciphertext
  seedNonce := request.encrypted.nonce
  keyReference := request.encrypted.keyReference
  digits := request.encrypted.digits
  periodSeconds := request.encrypted.periodSeconds
  lastAcceptedTimeStep := none
  createdAt := generated.now.timestamptz
  activatedAt := none

def audit (request : CreatePendingTotpFactor) (generated : Generated) :
    AuditEventRow where
  id := generated.uuid 0
  tenantId := request.tenantId
  actorId := some request.accountId
  action := .mfaChanged
  correlationId := request.correlationId
  metadata := .object
    [("factor_id", .uuid request.factorId),
      ("operation", .string "pending_created")]
  occurredAt := generated.now.timestamptz

end CreatePendingTotpFactor

/-- Arguments of a factor activation. -/
structure ActivateTotpFactor where
  tenantId : TenantId
  accountId : AccountId
  factorId : Uuid
  acceptedStep : Int
  correlationId : String

namespace ActivateTotpFactor

/-- The pending factor that an activation names. -/
def selects (request : ActivateTotpFactor) (row : TotpFactorRow) : Bool :=
  row.id = request.factorId ∧ row.tenantId = request.tenantId ∧
    row.accountId = request.accountId ∧ row.status = .pending

/-- The factor after its activation. -/
def activates
    (request : ActivateTotpFactor)
    (generated : Generated)
    (row : TotpFactorRow) : TotpFactorRow :=
  { row with
    status := .active
    activatedAt := some generated.now.timestamptz
    lastAcceptedTimeStep := some request.acceptedStep }

/-- The account that awaits its first factor. -/
def selectsAccount (request : ActivateTotpFactor) (row : AccountRow) : Bool :=
  row.id = request.accountId ∧ row.tenantId = request.tenantId ∧
    row.state = .mfaEnrollmentRequired

/-- The account after its first factor. -/
def releases (generated : Generated) (row : AccountRow) : AccountRow :=
  { row with state := .active, updatedAt := generated.now.timestamptz }

def audit (request : ActivateTotpFactor) (generated : Generated) :
    AuditEventRow where
  id := generated.uuid 0
  tenantId := request.tenantId
  actorId := some request.accountId
  action := .mfaChanged
  correlationId := request.correlationId
  metadata := .object
    [("factor_id", .uuid request.factorId), ("operation", .string "activated")]
  occurredAt := generated.now.timestamptz

end ActivateTotpFactor

/-- Arguments of the consumption of a verified time step. -/
structure ConsumeTotpStep where
  tenantId : TenantId
  accountId : AccountId
  factorId : Uuid
  acceptedStep : Int

namespace ConsumeTotpStep

/-- The active factor that has not yet accepted the step or a later one. -/
def selects (request : ConsumeTotpStep) (row : TotpFactorRow) : Bool :=
  row.id = request.factorId ∧ row.tenantId = request.tenantId ∧
    row.accountId = request.accountId ∧ row.status = .active ∧
    ∀ last ∈ row.lastAcceptedTimeStep, last < request.acceptedStep

/-- The factor after it accepted the step. -/
def records (request : ConsumeTotpStep) (row : TotpFactorRow) : TotpFactorRow :=
  { row with lastAcceptedTimeStep := some request.acceptedStep }

end ConsumeTotpStep

/-- Arguments of a replacement of all recovery codes. -/
structure ReplaceRecoveryCodeSet where
  tenantId : TenantId
  accountId : AccountId
  verifiers : List String
  correlationId : String

namespace ReplaceRecoveryCodeSet

/-- A verifier set of the wrong size or with an unsafe member. -/
def Unsafe (request : ReplaceRecoveryCodeSet) : Prop :=
  request.verifiers.length < 8 ∨ request.verifiers.length > 16 ∨
    ∃ verifier ∈ request.verifiers,
      verifier = "" ∨ (asBytes verifier).length > 128

instance (request : ReplaceRecoveryCodeSet) : Decidable request.Unsafe :=
  inferInstanceAs (Decidable (_ ∨ _))

/-- The sets of the account that are still usable. -/
def selects (request : ReplaceRecoveryCodeSet) (row : RecoveryCodeSetRow) :
    Bool :=
  row.tenantId = request.tenantId ∧ row.accountId = request.accountId ∧
    row.invalidatedAt = none

/-- A set after its replacement. -/
def invalidates (generated : Generated) (row : RecoveryCodeSetRow) :
    RecoveryCodeSetRow :=
  { row with invalidatedAt := some generated.now.timestamptz }

def set (request : ReplaceRecoveryCodeSet) (generated : Generated) :
    RecoveryCodeSetRow where
  id := generated.uuid 0
  tenantId := request.tenantId
  accountId := request.accountId
  createdAt := generated.now.timestamptz
  invalidatedAt := none

/-- The verifier rows of the new set, identified from an index on. -/
def verifierRows (generated : Generated) (index : Nat) :
    List String → List RecoveryCodeVerifierRow
  | [] => []
  | verifier :: verifiers =>
      { id := generated.uuid index
        setId := generated.uuid 0
        verifier := verifier
        consumedAt := none } :: verifierRows generated (index + 1) verifiers

/-- The verifiers of a new set belong to it. -/
theorem setId_of_mem_verifierRows
    {generated : Generated}
    {index : Nat}
    {verifiers : List String}
    {row : RecoveryCodeVerifierRow}
    (row_mem : row ∈ verifierRows generated index verifiers) :
    row.setId = generated.uuid 0 := by
  induction verifiers generalizing index with
  | nil => cases row_mem
  | cons verifier verifiers inductionHypothesis =>
      rcases List.mem_cons.mp row_mem with rfl | row_mem
      · rfl
      · exact inductionHypothesis row_mem

def audit (request : ReplaceRecoveryCodeSet) (generated : Generated) :
    AuditEventRow where
  id := generated.uuid (request.verifiers.length + 1)
  tenantId := request.tenantId
  actorId := some request.accountId
  action := .mfaChanged
  correlationId := request.correlationId
  metadata := .object
    [("operation", .string "recovery_set_replaced"),
      ("count", .number request.verifiers.length)]
  occurredAt := generated.now.timestamptz

def record (request : ReplaceRecoveryCodeSet) (generated : Generated) :
    RecoveryCodeSetRecord where
  setId := generated.uuid 0
  codeCount := request.verifiers.length
  createdAt := generated.now

end ReplaceRecoveryCodeSet

/-- Arguments of the consumption of one recovery code. -/
structure ConsumeRecoveryCode where
  tenantId : TenantId
  accountId : AccountId
  verifier : String
  correlationId : String

namespace ConsumeRecoveryCode

/-- The unused verifier in a usable set of the account. -/
def selects
    (request : ConsumeRecoveryCode)
    (store : Store)
    (row : RecoveryCodeVerifierRow) : Bool :=
  decide (row.verifier = request.verifier ∧ row.consumedAt = none) &&
    store.recoveryCodeSets.any fun set =>
      row.setId = set.id ∧ set.tenantId = request.tenantId ∧
        set.accountId = request.accountId ∧ set.invalidatedAt = none

/-- A verifier after its use. -/
def consumes (generated : Generated) (row : RecoveryCodeVerifierRow) :
    RecoveryCodeVerifierRow :=
  { row with consumedAt := some generated.now.timestamptz }

def audit (request : ConsumeRecoveryCode) (generated : Generated) :
    AuditEventRow where
  id := generated.uuid 0
  tenantId := request.tenantId
  actorId := some request.accountId
  action := .mfaChanged
  correlationId := request.correlationId
  metadata := .object [("operation", .string "recovery_code_consumed")]
  occurredAt := generated.now.timestamptz

end ConsumeRecoveryCode

namespace Store

/-! ## Writes -/

/-- Persist one ciphertext envelope for a future TOTP data-encryption key. -/
def createTotpDataKeyEnvelope (request : CreateTotpDataKeyEnvelope) :
    StoreTransaction Unit := do
  rejectIf
    (BadEnvelope request.provider request.wrappingKeyReference
      request.encryptedDataKey)
    StoreError.invalidTotpDataKeyEnvelope
  let inserted ← insertWhere totpDataKeyEnvelopesRelation .database
    (fun store =>
      !store.totpDataKeyEnvelopes.any fun row =>
        row.keyReference = request.keyReference)
    request.envelope
  rejectIf (inserted ≠ 1) StoreError.targetNotFoundOrUnchanged

/-- Persist one pending encrypted TOTP factor. -/
def createPendingTotpFactor
    (generated : Generated)
    (request : CreatePendingTotpFactor) : StoreTransaction Unit := do
  validateCorrelationId request.correlationId
  rejectIf (¬request.encrypted.digits < 2 ^ 15) StoreError.invalidStoredTotp
  rejectIf
    (¬(-(2 ^ 15) ≤ request.encrypted.periodSeconds ∧
      request.encrypted.periodSeconds < 2 ^ 15))
    StoreError.invalidStoredTotp
  let affected ← insertWhere mfaTotpFactorsRelation .database
    (fun store => store.hasAccount request.tenantId request.accountId)
    (request.factor generated)
  rejectIf (affected ≠ 1) StoreError.targetNotFoundOrUnchanged
  insertAudit (request.audit generated)

/-- Activate a confirmed pending TOTP factor and release the account. -/
def activateTotpFactor
    (generated : Generated)
    (request : ActivateTotpFactor) : StoreTransaction Unit := do
  validateCorrelationId request.correlationId
  let store ← get
  let activated ← update mfaTotpFactorsRelation .database
    (fun row => request.selects row &&
      store.hasAccountIn request.tenantId request.accountId
        .mfaEnrollmentRequired)
    (request.activates generated)
  rejectIf (activated ≠ 1) StoreError.targetNotFoundOrUnchanged
  let accountActivated ← update accountsRelation .database
    request.selectsAccount (ActivateTotpFactor.releases generated)
  rejectIf (accountActivated ≠ 1) StoreError.targetNotFoundOrUnchanged
  insertAudit (request.audit generated)

/-- Consume one verified time step of an active factor. -/
def consumeTotpStep (request : ConsumeTotpStep) : StoreTransaction Unit := do
  let store ← get
  let affected ← update mfaTotpFactorsRelation .database
    (fun row => request.selects row &&
      store.hasAccountIn request.tenantId request.accountId .active)
    request.records
  rejectIf (affected ≠ 1) StoreError.targetNotFoundOrUnchanged

/-- Write the verifiers of a new recovery code set one by one. -/
def insertVerifiers : List RecoveryCodeVerifierRow → StoreTransaction Unit
  | [] => pure ()
  | row :: rows => do
      insert recoveryCodeVerifiersRelation .database row
      insertVerifiers rows

/-- Replace every usable recovery code of an account. -/
def replaceRecoveryCodeSet
    (generated : Generated)
    (request : ReplaceRecoveryCodeSet) :
    StoreTransaction RecoveryCodeSetRecord := do
  validateCorrelationId request.correlationId
  rejectIf request.Unsafe StoreError.invalidRecoveryCodeSet
  let _ ← update recoveryCodeSetsRelation .database request.selects
    (ReplaceRecoveryCodeSet.invalidates generated)
  let created ← insertWhere recoveryCodeSetsRelation .database
    (fun store => store.hasAccount request.tenantId request.accountId)
    (request.set generated)
  rejectIf (created ≠ 1) StoreError.targetNotFoundOrUnchanged
  insertVerifiers
    (ReplaceRecoveryCodeSet.verifierRows generated 1 request.verifiers)
  insertAudit (request.audit generated)
  return request.record generated

/-- Consume one current recovery-code verifier in its tenant scope. -/
def consumeRecoveryCode
    (generated : Generated)
    (request : ConsumeRecoveryCode) : StoreTransaction Bool := do
  validateCorrelationId request.correlationId
  if request.verifier = "" ∨ (asBytes request.verifier).length > 128 then
    return false
  let store ← get
  let consumed ← updateReturning recoveryCodeVerifiersRelation .database
    (request.selects store) (ConsumeRecoveryCode.consumes generated)
  if consumed.isNone then
    return false
  insertAudit (request.audit generated)
  return true

/-! ## Reads -/

/-- Whether an account owns an active TOTP factor in its tenant. -/
def hasActiveTotpFactor
    (store : Store)
    (tenant : TenantId)
    (account : AccountId) : Bool :=
  store.mfaTotpFactors.any fun row =>
    row.tenantId = tenant ∧ row.accountId = account ∧ row.status = .active

/-- The envelope metadata of one factor key reference. -/
def totpDataKeyEnvelope (store : Store) (reference : TotpKeyReference) :
    Except StoreError (Option StoredTotpDataKeyEnvelope) :=
  match store.totpDataKeyEnvelopes.find? fun row =>
      row.keyReference = reference with
  | none => .ok none
  | some row => do
      rejectIf
        (BadEnvelope row.provider row.wrappingKeyReference row.encryptedDataKey)
        StoreError.invalidTotpDataKeyEnvelope
      return some
        { keyReference := reference
          provider := row.provider
          wrappingKeyReference := row.wrappingKeyReference
          encryptedDataKey := row.encryptedDataKey }

/-- The active encrypted TOTP factor of an account in its tenant. -/
def activeTotpFactor
    (store : Store)
    (tenant : TenantId)
    (account : AccountId) : Except StoreError (Option PersistedTotpFactor) :=
  (store.mfaTotpFactors.find? fun row =>
    row.tenantId = tenant ∧ row.accountId = account ∧
      row.status = .active).mapM PersistedTotpFactor.tryFromRow

/-- One specific pending encrypted TOTP factor. -/
def pendingTotpFactor
    (store : Store)
    (tenant : TenantId)
    (account : AccountId)
    (factor : Uuid) : Except StoreError (Option PersistedTotpFactor) :=
  (store.mfaTotpFactors.find? fun row =>
    row.id = factor ∧ row.tenantId = tenant ∧ row.accountId = account ∧
      row.status = .pending).mapM PersistedTotpFactor.tryFromRow

end Store

end Fabric
end Fcp
