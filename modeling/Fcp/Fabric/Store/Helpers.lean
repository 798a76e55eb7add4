import Fcp.Fabric.Store.Schema

/-!
# Store calls

What every store call shares: the failures it may report, the clock reading and
identifiers it draws, and the audit event it writes in its own transaction.
-/

namespace Fcp
namespace Fabric

open Rust
open Sql

/-- Failure of a store call. -/
inductive StoreError
  | database
  | administration (error : AdministrationError)
  | invalidStoredTotp
  | invalidTotpDataKeyEnvelope
  | invalidCorrelationId
  | invalidStoredAddress
  | targetNotFoundOrUnchanged
  | invalidLoginTransactionExpiry
  | invalidRecoveryCodeSet
  | invalidStepUpGrantExpiry
  | invalidFederationReplayExpiry
  | invalidWebauthnCeremonyExpiry
  | invalidOrExpiredWebauthnCeremony
  | invalidWebauthnCredentialId
  | invalidWebauthnPasskeyLabel
  | invalidOrExpiredLoginTransaction
  | invalidSessionExpiry
  deriving DecidableEq

/-- The clock reading and the identifiers that one call draws. -/
structure Generated where
  now : OffsetDateTime
  uuid : Nat → Uuid

/-- Statements of one database transaction of the store. -/
abbrev StoreTransaction (α : Type) : Type :=
  Transaction Store StoreError α

namespace Store

/-- Write an audit event in the transaction of the change it records. -/
def insertAudit (event : AuditEventRow) : StoreTransaction Unit :=
  .insert auditEventsRelation .database event

/-- Bound the correlation identifier of a call. -/
def validateCorrelationId (value : String) : Except StoreError Unit :=
  Fabric.validateCorrelationId .invalidCorrelationId value

end Store

/-! ## Sample values -/

/-- An identifier of one repeated byte. -/
def Uuid.sample (byte : UInt8) : Uuid :=
  Vector.replicate 16 byte

/-- A token digest of one repeated byte. -/
def OpaqueTokenDigest.sample (byte : UInt8) : OpaqueTokenDigest :=
  ⟨Vector.replicate 32 byte⟩

/-- A few seconds after the Unix epoch. -/
def OffsetDateTime.sample (seconds : UInt8) : OffsetDateTime where
  unixTimestamp := seconds.toNat
  nanosecond := 0
  lower := by omega
  upper := by
    have bounded := seconds.toNat_lt
    omega

/-- The values of one call with consecutive identifiers. -/
def Generated.sample (first : UInt8) : Generated where
  now := .sample 0
  uuid index := .sample (first + .ofNat index)

/-- Canonicalisation that changes nothing. -/
def Unicode.sample : Unicode where
  domainToAscii := some
  nfc := id

end Fabric
end Fcp
