import Fcp.Parsing.BigEndian
import Fcp.Core.Types
import Fcp.Fabric.Address

/-!
# Federation deliveries

A source authority signs a delivery for a destination authority.  The transcript
it signs spells every field with a fixed width or behind its length.
-/

namespace Fcp
namespace Fabric

open Rust
open Parsing

/-- The tag at the head of every delivery transcript. -/
def domainTag : List UInt8 := asBytes "fcp-fabric/federation/delivery/v1"

/-- Maximum payload bytes of one delivery. -/
def maxPayloadBytes : Nat := 65536

/-- Maximum seconds between issuance and expiry. -/
def maxDeliveryLifetimeSeconds : Int := 300

/-- A point in time, as whole seconds since the Unix epoch and the nanoseconds
after them.  The years that the time library represents keep the seconds far
inside 64 bits, so their differences do not overflow. -/
structure OffsetDateTime where
  unixTimestamp : Int
  nanosecond : Fin 1000000000
  lower : -(2 ^ 62) ≤ unixTimestamp
  upper : unixTimestamp < 2 ^ 62
  deriving DecidableEq

/-- Rust's `i64::to_be_bytes`. -/
def i64Bytes (value : Int) : List UInt8 :=
  toBigEndian 8 (value % 2 ^ 64).toNat

/-- Federation delivery validation or signature admission failure. -/
inductive FederationError
  | senderDomainMismatch
  | recipientDomainMismatch
  | payloadTooLarge
  | invalidLifetime
  | invalidCanonicalField
  | peerNotActive
  | wrongDestination
  | wrongSource
  | expiredOrNotYetValid
  | unexpectedAuthorityIdentity
  | core (error : Core.Error)
  deriving DecidableEq

/-- A source-authority assertion that may carry one bounded payload. -/
structure FederationDelivery where
  sourceDomain : DomainName
  destinationDomain : DomainName
  sender : UserAddress
  recipient : UserAddress
  requestId : Vector UInt8 16
  issuedAt : OffsetDateTime
  expiresAt : OffsetDateTime
  payload : List UInt8
  deriving DecidableEq

/-- Write a field behind its length in a number of bytes. -/
def writeBytes (width : Nat) (bytes value : List UInt8) :
    Except FederationError (List UInt8) := do
  rejectIf (¬value.length < 256 ^ width) .invalidCanonicalField
  let bytes := bytes ++ toBigEndian width value.length
  return bytes ++ value

/-- Write a field behind a one-byte length. -/
def writeU8Bytes : (bytes value : List UInt8) →
    Except FederationError (List UInt8) :=
  writeBytes 1

/-- Write a field behind a two-byte length. -/
def writeU16Bytes : (bytes value : List UInt8) →
    Except FederationError (List UInt8) :=
  writeBytes 2

namespace FederationDelivery

/-- Check the domain bindings, the size and the lifetime. -/
def validate (delivery : FederationDelivery) : Except FederationError Unit := do
  rejectIf (delivery.sender.domain ≠ delivery.sourceDomain)
    .senderDomainMismatch
  rejectIf (delivery.recipient.domain ≠ delivery.destinationDomain)
    .recipientDomainMismatch
  rejectIf (delivery.payload.length > maxPayloadBytes) .payloadTooLarge
  let issued := delivery.issuedAt.unixTimestamp
  let expires := delivery.expiresAt.unixTimestamp
  rejectIf (expires ≤ issued ∨ expires - issued > maxDeliveryLifetimeSeconds)
    .invalidLifetime

/-- The transcript covered by both signatures. -/
def transcript (delivery : FederationDelivery) :
    Except FederationError (List UInt8) := do
  delivery.validate
  let bytes := domainTag
  let bytes ← writeU8Bytes bytes (asBytes delivery.sourceDomain.asStr)
  let bytes ← writeU8Bytes bytes (asBytes delivery.destinationDomain.asStr)
  let bytes ← writeU16Bytes bytes (asBytes delivery.sender.toText)
  let bytes ← writeU16Bytes bytes (asBytes delivery.recipient.toText)
  let bytes := bytes ++ delivery.requestId.toList
  let bytes := bytes ++ i64Bytes delivery.issuedAt.unixTimestamp
  let bytes := bytes ++ i64Bytes delivery.expiresAt.unixTimestamp
  rejectIf (¬delivery.payload.length < 2 ^ 32) .payloadTooLarge
  let bytes := bytes ++ toBigEndian 4 delivery.payload.length
  return bytes ++ delivery.payload

end FederationDelivery

/-! ## Spelling of the transcript -/

theorem writeBytes_eq_ok_iff
    {width : Nat}
    {bytes value result : List UInt8} :
    writeBytes width bytes value = .ok result ↔
      value.length < 256 ^ width ∧ result = bytes ++ counted width value := by
  simp only [writeBytes, bind_eq_ok_iff, rejectIf_eq_ok_iff, Decidable.not_not,
    pure, Except.pure, Except.ok.injEq, counted, List.append_assoc]
  constructor
  · rintro ⟨_, small, rfl⟩
    exact ⟨small, rfl⟩
  · rintro ⟨small, rfl⟩
    exact ⟨(), small, rfl⟩

@[simp] theorem length_i64Bytes (value : Int) : (i64Bytes value).length = 8 := by
  simp [i64Bytes]

/-- Timestamps are told apart by their spelling. -/
theorem i64Bytes_injective
    {left right : OffsetDateTime}
    (equal : i64Bytes left.unixTimestamp = i64Bytes right.unixTimestamp) :
    left.unixTimestamp = right.unixTimestamp := by
  have leftLower := left.lower
  have leftUpper := left.upper
  have rightLower := right.lower
  have rightUpper := right.upper
  have residues := toBigEndian_injective (by omega) (by omega) equal
  omega

namespace FederationDelivery

/-- Everything that validation checks. -/
structure Valid (delivery : FederationDelivery) : Prop where
  sender_eq : delivery.sender.domain = delivery.sourceDomain
  recipient_eq : delivery.recipient.domain = delivery.destinationDomain
  bounded : delivery.payload.length ≤ maxPayloadBytes
  positive : delivery.issuedAt.unixTimestamp < delivery.expiresAt.unixTimestamp
  limited : delivery.expiresAt.unixTimestamp - delivery.issuedAt.unixTimestamp ≤
    maxDeliveryLifetimeSeconds

theorem validate_eq_ok_iff {delivery : FederationDelivery} {result : Unit} :
    delivery.validate = .ok result ↔ delivery.Valid := by
  simp only [validate, bind_eq_ok_iff, rejectIf_eq_ok_iff, Decidable.not_not,
    not_or, Int.not_le, Int.not_lt, Nat.not_lt]
  constructor
  · rintro ⟨_, sender_eq, _, recipient_eq, _, bounded, positive, limited⟩
    exact ⟨sender_eq, recipient_eq, bounded, positive, limited⟩
  · rintro ⟨sender_eq, recipient_eq, bounded, positive, limited⟩
    exact ⟨(), sender_eq, (), recipient_eq, (), bounded, positive, limited⟩

/-- The domains and addresses fit behind their lengths. -/
structure Fits (delivery : FederationDelivery) : Prop where
  source : (asBytes delivery.sourceDomain.asStr).length < 256 ^ 1
  destination : (asBytes delivery.destinationDomain.asStr).length < 256 ^ 1
  sender : (asBytes delivery.sender.toText).length < 256 ^ 2
  recipient : (asBytes delivery.recipient.toText).length < 256 ^ 2

/-- The spelling of a delivery. -/
def spelling (delivery : FederationDelivery) : List UInt8 :=
  domainTag ++ (counted 1 (asBytes delivery.sourceDomain.asStr) ++
    (counted 1 (asBytes delivery.destinationDomain.asStr) ++
    (counted 2 (asBytes delivery.sender.toText) ++
    (counted 2 (asBytes delivery.recipient.toText) ++
    (delivery.requestId.toList ++
    (i64Bytes delivery.issuedAt.unixTimestamp ++
    (i64Bytes delivery.expiresAt.unixTimestamp ++
    counted 4 delivery.payload)))))))

theorem transcript_eq_ok_iff
    {delivery : FederationDelivery}
    {bytes : List UInt8} :
    delivery.transcript = .ok bytes ↔
      delivery.Valid ∧ delivery.Fits ∧ delivery.spelling = bytes := by
  simp only [transcript, writeU8Bytes, writeU16Bytes, bind_eq_ok_iff,
    validate_eq_ok_iff, writeBytes_eq_ok_iff, rejectIf_eq_ok_iff,
    Decidable.not_not, pure, Except.pure, Except.ok.injEq]
  constructor
  · rintro ⟨_, valid, _, ⟨source, rfl⟩, _, ⟨destination, rfl⟩, _,
      ⟨sender, rfl⟩, _, ⟨recipient, rfl⟩, _, -, rfl⟩
    refine ⟨valid, ⟨source, destination, sender, recipient⟩, ?_⟩
    simp only [spelling, counted, List.append_assoc]
  · rintro ⟨valid, fits, rfl⟩
    have small : delivery.payload.length < 2 ^ 32 :=
      Nat.lt_of_le_of_lt valid.bounded (by decide)
    refine ⟨(), valid, _, ⟨fits.source, rfl⟩, _, ⟨fits.destination, rfl⟩, _,
      ⟨fits.sender, rfl⟩, _, ⟨fits.recipient, rfl⟩, (), small, ?_⟩
    simp only [spelling, counted, List.append_assoc]

/-- Two valid deliveries agree in everything but fractions of a second. -/
structure SameToTheSecond (left right : FederationDelivery) : Prop where
  sourceDomain_eq : left.sourceDomain = right.sourceDomain
  destinationDomain_eq : left.destinationDomain = right.destinationDomain
  sender_eq : left.sender = right.sender
  recipient_eq : left.recipient = right.recipient
  requestId_eq : left.requestId = right.requestId
  issuedAt_eq : left.issuedAt.unixTimestamp = right.issuedAt.unixTimestamp
  expiresAt_eq : left.expiresAt.unixTimestamp = right.expiresAt.unixTimestamp
  payload_eq : left.payload = right.payload

/-- A transcript determines its delivery to the second. -/
theorem sameToTheSecond_of_transcript_eq
    {left right : FederationDelivery}
    {bytes : List UInt8}
    (leftMade : left.transcript = .ok bytes)
    (rightMade : right.transcript = .ok bytes) :
    left.SameToTheSecond right := by
  obtain ⟨leftValid, leftFits, leftSpelled⟩ := transcript_eq_ok_iff.mp leftMade
  obtain ⟨rightValid, rightFits, rightSpelled⟩ :=
    transcript_eq_ok_iff.mp rightMade
  have equal : left.spelling = right.spelling :=
    leftSpelled.trans rightSpelled.symm
  have small : ∀ {delivery : FederationDelivery}, delivery.Valid →
      delivery.payload.length < 256 ^ 4 := by
    intro delivery valid
    exact Nat.lt_of_le_of_lt valid.bounded (by decide)
  simp only [spelling] at equal
  replace equal := List.append_cancel_left equal
  obtain ⟨source, equal⟩ :=
    counted_append_inj leftFits.source rightFits.source equal
  obtain ⟨destination, equal⟩ :=
    counted_append_inj leftFits.destination rightFits.destination equal
  obtain ⟨sender, equal⟩ :=
    counted_append_inj leftFits.sender rightFits.sender equal
  obtain ⟨recipient, equal⟩ :=
    counted_append_inj leftFits.recipient rightFits.recipient equal
  obtain ⟨requestId, equal⟩ := List.append_inj equal (by simp)
  obtain ⟨issuedAt, equal⟩ := List.append_inj equal (by simp)
  obtain ⟨expiresAt, equal⟩ := List.append_inj equal (by simp)
  rw [← List.append_nil (counted 4 left.payload),
    ← List.append_nil (counted 4 right.payload)] at equal
  obtain ⟨payload, -⟩ :=
    counted_append_inj (small leftValid) (small rightValid) equal
  have sourceDomain_eq := DomainName.eq_of_asBytes_eq source
  have destinationDomain_eq := DomainName.eq_of_asBytes_eq destination
  constructor
  case sourceDomain_eq => exact sourceDomain_eq
  case destinationDomain_eq => exact destinationDomain_eq
  case sender_eq =>
    apply UserAddress.eq_of_toText_eq _ sender
    rw [leftValid.sender_eq, rightValid.sender_eq, sourceDomain_eq]
  case recipient_eq =>
    apply UserAddress.eq_of_toText_eq _ recipient
    rw [leftValid.recipient_eq, rightValid.recipient_eq, destinationDomain_eq]
  case requestId_eq => exact Vector.toList_inj.mp requestId
  case issuedAt_eq => exact i64Bytes_injective issuedAt
  case expiresAt_eq => exact i64Bytes_injective expiresAt
  case payload_eq => exact payload

/-- The domains and addresses of a delivery come from their parsers. -/
structure Parsed (unicode : Unicode) (delivery : FederationDelivery) : Prop where
  source : delivery.sourceDomain.Parsed unicode
  destination : delivery.destinationDomain.Parsed unicode
  sender : delivery.sender.Parsed unicode
  recipient : delivery.recipient.Parsed unicode

theorem Parsed.fits
    {unicode : Unicode}
    {delivery : FederationDelivery}
    (parsed : delivery.Parsed unicode) :
    delivery.Fits where
  source := Nat.lt_of_le_of_lt parsed.source.length_le (by decide)
  destination := Nat.lt_of_le_of_lt parsed.destination.length_le (by decide)
  sender := Nat.lt_of_le_of_lt parsed.sender.length_le (by decide)
  recipient := Nat.lt_of_le_of_lt parsed.recipient.length_le (by decide)

theorem validate_ne_invalidCanonicalField (delivery : FederationDelivery) :
    delivery.validate ≠ .error .invalidCanonicalField := by
  intro failed
  simp [validate, bind_eq_error_iff, rejectIf_eq_error_iff] at failed

/-- Whatever else is wrong with it, a delivery that fits never fails for a
field that does not. -/
theorem Fits.transcript_ne_invalidCanonicalField
    {delivery : FederationDelivery}
    (fits : delivery.Fits) :
    delivery.transcript ≠ .error .invalidCanonicalField := by
  intro failed
  cases validated : delivery.validate with
  | ok result =>
      have made := transcript_eq_ok_iff.mpr
        ⟨validate_eq_ok_iff.mp validated, fits, rfl⟩
      rw [made] at failed
      cases failed
  | error error =>
      rw [transcript, validated] at failed
      cases failed
      exact delivery.validate_ne_invalidCanonicalField validated

end FederationDelivery

end Fabric
end Fcp
