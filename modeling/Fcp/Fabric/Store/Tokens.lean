import Fcp.Fabric.Store.Helpers

/-!
# One-use tokens

Step-up grants and login transactions: opaque credentials that the server binds
to an account and consumes once.
-/

namespace Fcp
namespace Fabric

open Rust
open Sql
open Sql.Transaction

/-- Create one action-bound step-up grant. -/
structure CreateStepUpGrant where
  tenantId : TenantId
  accountId : AccountId
  familyId : Uuid
  action : StepUpAction
  targetDigest : Vector UInt8 32
  tokenDigest : OpaqueTokenDigest
  expiresAt : OffsetDateTime
  correlationId : String

/-- Consume one action-bound step-up grant. -/
structure ConsumeStepUpGrant where
  tenantId : TenantId
  accountId : AccountId
  familyId : Uuid
  action : StepUpAction
  targetDigest : Vector UInt8 32
  tokenDigest : OpaqueTokenDigest
  correlationId : String

/-- Result of a newly issued grant. -/
structure StepUpGrantRecord where
  grantId : Uuid
  expiresAt : OffsetDateTime

/-- Create one opaque login transaction. -/
structure CreateLoginTransaction where
  tenantId : TenantId
  accountId : AccountId
  tokenDigest : OpaqueTokenDigest
  stage : LoginTransactionStage
  bindingDigest : Vector UInt8 32
  factorId : Option Uuid
  expiresAt : OffsetDateTime
  correlationId : String

/-- Consume one login transaction for its expected step. -/
structure ConsumeLoginTransaction where
  tokenDigest : OpaqueTokenDigest
  expectedStage : LoginTransactionStage
  bindingDigest : Vector UInt8 32
  correlationId : String

/-- Durable transaction between two local authentication steps. -/
structure LoginTransactionRecord where
  transactionId : Uuid
  tenantId : TenantId
  accountId : AccountId
  stage : LoginTransactionStage
  expiresAt : OffsetDateTime
  factorId : Option Uuid

/-! ## Rows written -/

namespace CreateStepUpGrant

def grant (request : CreateStepUpGrant) (generated : Generated) :
    StepUpGrantRow where
  id := generated.uuid 0
  tenantId := request.tenantId
  accountId := request.accountId
  familyId := request.familyId
  action := request.action
  targetDigest := request.targetDigest
  tokenDigest := request.tokenDigest.asBytes
  issuedAt := generated.now.timestamptz
  expiresAt := request.expiresAt.timestamptz
  consumedAt := none

def audit (request : CreateStepUpGrant) (generated : Generated) :
    AuditEventRow where
  id := generated.uuid 1
  tenantId := request.tenantId
  actorId := some request.accountId
  action := .stepUpGranted
  correlationId := request.correlationId
  metadata := .object
    [("grant_id", .uuid (generated.uuid 0)),
      ("action", .string request.action.databaseValue)]
  occurredAt := generated.now.timestamptz

def record (request : CreateStepUpGrant) (generated : Generated) :
    StepUpGrantRecord where
  grantId := generated.uuid 0
  expiresAt := request.expiresAt

end CreateStepUpGrant

namespace ConsumeStepUpGrant

/-- The unused grant for exactly the actor, family, action and target. -/
def selects
    (request : ConsumeStepUpGrant)
    (now : OffsetDateTime)
    (row : StepUpGrantRow) : Bool :=
  row.tokenDigest = request.tokenDigest.asBytes ∧
    row.tenantId = request.tenantId ∧ row.accountId = request.accountId ∧
    row.familyId = request.familyId ∧ row.action = request.action ∧
    row.targetDigest = request.targetDigest ∧ row.consumedAt = none ∧
    now.timestamptz < row.expiresAt

/-- A grant after its use. -/
def consumes (generated : Generated) (row : StepUpGrantRow) : StepUpGrantRow :=
  { row with consumedAt := some generated.now.timestamptz }

def audit
    (request : ConsumeStepUpGrant)
    (generated : Generated)
    (grant : StepUpGrantRow) : AuditEventRow where
  id := generated.uuid 0
  tenantId := request.tenantId
  actorId := some request.accountId
  action := .stepUpConsumed
  correlationId := request.correlationId
  metadata := .object
    [("grant_id", .uuid grant.id),
      ("action", .string request.action.databaseValue)]
  occurredAt := generated.now.timestamptz

end ConsumeStepUpGrant

namespace CreateLoginTransaction

def transaction (request : CreateLoginTransaction) (generated : Generated) :
    LoginTransactionRow where
  id := generated.uuid 0
  tenantId := request.tenantId
  accountId := request.accountId
  tokenDigest := request.tokenDigest.asBytes
  stage := .awaits request.stage
  bindingDigest := request.bindingDigest
  factorId := request.factorId
  issuedAt := generated.now.timestamptz
  expiresAt := request.expiresAt.timestamptz
  consumedAt := none

def audit (request : CreateLoginTransaction) (generated : Generated) :
    AuditEventRow where
  id := generated.uuid 1
  tenantId := request.tenantId
  actorId := some request.accountId
  action := .loginTransactionIssued
  correlationId := request.correlationId
  metadata := .object
    [("transaction_id", .uuid (generated.uuid 0)),
      ("stage", .string request.stage.databaseValue)]
  occurredAt := generated.now.timestamptz

def record (request : CreateLoginTransaction) (generated : Generated) :
    LoginTransactionRecord where
  transactionId := generated.uuid 0
  tenantId := request.tenantId
  accountId := request.accountId
  stage := request.stage
  expiresAt := request.expiresAt
  factorId := request.factorId

end CreateLoginTransaction

namespace ConsumeLoginTransaction

/-- The unused transaction of the expected stage and binding. -/
def selects
    (request : ConsumeLoginTransaction)
    (now : OffsetDateTime)
    (row : LoginTransactionRow) : Bool :=
  row.tokenDigest = request.tokenDigest.asBytes ∧
    row.bindingDigest = request.bindingDigest ∧
    row.stage = .awaits request.expectedStage ∧ row.consumedAt = none ∧
    now.timestamptz < row.expiresAt

/-- A transaction after its use. -/
def consumes (generated : Generated) (row : LoginTransactionRow) :
    LoginTransactionRow :=
  { row with
    stage := .consumed
    consumedAt := some generated.now.timestamptz }

def audit
    (request : ConsumeLoginTransaction)
    (generated : Generated)
    (transaction : LoginTransactionRow) : AuditEventRow where
  id := generated.uuid 0
  tenantId := transaction.tenantId
  actorId := some transaction.accountId
  action := .loginTransactionConsumed
  correlationId := request.correlationId
  metadata := .object
    [("transaction_id", .uuid transaction.id),
      ("stage", .string request.expectedStage.databaseValue)]
  occurredAt := generated.now.timestamptz

def record
    (request : ConsumeLoginTransaction)
    (transaction : LoginTransactionRow) : LoginTransactionRecord where
  transactionId := transaction.id
  tenantId := transaction.tenantId
  accountId := transaction.accountId
  stage := request.expectedStage
  expiresAt := transaction.expiresAt
  factorId := transaction.factorId

end ConsumeLoginTransaction

namespace Store

/-! ## Step-up grants -/

/-- A live family of an active account. -/
def hasLiveFamily
    (store : Store)
    (tenant : TenantId)
    (account : AccountId)
    (family : Uuid) : Bool :=
  (store.sessionFamilies.any fun row =>
    row.id = family ∧ row.tenantId = tenant ∧ row.accountId = account ∧
      row.revokedAt = none) &&
    store.hasAccountIn tenant account .active

/-- Create one action-bound, short-lived step-up grant. -/
def createStepUpGrant
    (generated : Generated)
    (request : CreateStepUpGrant) : StoreTransaction StepUpGrantRecord := do
  validateCorrelationId request.correlationId
  rejectIf (request.expiresAt ≤ generated.now)
    StoreError.invalidStepUpGrantExpiry
  let created ← insertWhere stepUpGrantsRelation .database
    (fun store =>
      store.hasLiveFamily request.tenantId request.accountId request.familyId)
    (request.grant generated)
  rejectIf (created ≠ 1) StoreError.targetNotFoundOrUnchanged
  insertAudit (request.audit generated)
  return request.record generated

/-- Consume one action-bound step-up grant.  The statement calls its table
`grant`, a reserved word; where the server refuses that, the call fails as in an
outage and changes nothing. -/
def consumeStepUpGrant
    (generated : Generated)
    (request : ConsumeStepUpGrant) : StoreTransaction Bool := do
  validateCorrelationId request.correlationId
  let store ← get
  let consumed ← updateReturning stepUpGrantsRelation .database
    (fun row => request.selects generated.now row &&
      store.sessionFamilies.any fun family =>
        family.id = request.familyId ∧ family.revokedAt = none)
    (ConsumeStepUpGrant.consumes generated)
  match consumed with
  | none => return false
  | some grant =>
      insertAudit (request.audit generated grant)
      return true

/-! ## Login transactions -/

/-- Create a login transaction after a valid password stage. -/
def createLoginTransaction
    (generated : Generated)
    (request : CreateLoginTransaction) :
    StoreTransaction LoginTransactionRecord := do
  validateCorrelationId request.correlationId
  rejectIf (request.expiresAt ≤ generated.now)
    StoreError.invalidLoginTransactionExpiry
  let created ← insertWhere loginTransactionsRelation .database
    (fun store => store.hasAccount request.tenantId request.accountId)
    (request.transaction generated)
  rejectIf (created ≠ 1) StoreError.targetNotFoundOrUnchanged
  insertAudit (request.audit generated)
  return request.record generated

/-- Consume a login transaction for exactly its expected step. -/
def consumeLoginTransaction
    (generated : Generated)
    (request : ConsumeLoginTransaction) :
    StoreTransaction LoginTransactionRecord := do
  validateCorrelationId request.correlationId
  let consumed ← updateReturning loginTransactionsRelation .database
    (request.selects generated.now) (ConsumeLoginTransaction.consumes generated)
  match consumed with
  | none => throw .invalidOrExpiredLoginTransaction
  | some transaction =>
      insertAudit (request.audit generated transaction)
      return request.record transaction

end Store

end Fabric
end Fcp
