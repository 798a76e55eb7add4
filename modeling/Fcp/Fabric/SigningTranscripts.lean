import Fcp.Core.EnvelopeCanonical
import Fcp.Core.ConfigurationCanonical
import Fcp.Fabric.FederationDelivery

/-!
# The signed records of one identity

Envelopes, configurations and deliveries are signed with the same kind of
identity.  Their transcripts never coincide across the three kinds, and within a
kind they determine the signed content.
-/

namespace Fcp

namespace Core

/-- A transcript determines everything of its envelope but the signatures. -/
theorem Envelope.content_eq_of_signedBytes_eq
    {left right : Envelope}
    {bytes : List UInt8}
    (leftMade : left.signedBytes = .ok bytes)
    (rightMade : right.signedBytes = .ok bytes) :
    { left with
      classicalSignature := right.classicalSignature
      postQuantumSignature := right.postQuantumSignature } = right := by
  obtain ⟨leftBounded, leftSpelled⟩ := signedBytes_eq_ok_iff.mp leftMade
  obtain ⟨rightBounded, rightSpelled⟩ := signedBytes_eq_ok_iff.mp rightMade
  let stripped : Envelope := { left with
    classicalSignature := right.classicalSignature
    postQuantumSignature := right.postQuantumSignature }
  have spelled : stripped.transcript = right.transcript :=
    leftSpelled.trans rightSpelled.symm
  exact eq_of_transcript_eq leftBounded rightBounded spelled rfl

/-- A transcript determines its configuration. -/
theorem FederationConfiguration.eq_of_signedBytes_eq
    {left right : FederationConfiguration}
    {bytes : List UInt8}
    (leftMade : left.signedBytes = .ok bytes)
    (rightMade : right.signedBytes = .ok bytes) :
    left = right := by
  obtain ⟨leftWellFormed, leftSpelled⟩ := signedBytes_eq_ok_iff.mp leftMade
  obtain ⟨rightWellFormed, rightSpelled⟩ := signedBytes_eq_ok_iff.mp rightMade
  let sign : FederationConfiguration → SignedFederationConfiguration :=
    fun configuration =>
      ⟨configuration, Vector.replicate 64 0, Vector.replicate _ 0⟩
  have decoded : ∀ configuration : FederationConfiguration,
      configuration.WellFormed → configuration.transcript = bytes →
        SignedFederationConfiguration.decodeVerified .sample
          (bytes ++ (sign left).signatures) = .ok (sign configuration) := by
    intro configuration wellFormed spelled
    apply (SignedFederationConfiguration.decodeVerified_eq_ok_iff _ _ _).mpr
    constructor
    · apply SignedFederationConfiguration.encode_eq_ok_iff.mpr
      exact ⟨wellFormed, by rw [← spelled]; rfl⟩
    · apply SignedFederationConfiguration.verify_eq_ok_iff.mpr
      exact ⟨wellFormed, rfl, rfl⟩
  have signed_eq := (decoded left leftWellFormed leftSpelled).symm.trans
    (decoded right rightWellFormed rightSpelled)
  rw [Except.ok.injEq] at signed_eq
  exact congrArg SignedFederationConfiguration.configuration signed_eq

end Core

namespace Fabric

open Fcp.Core

/-- A record that an identity signs. -/
inductive SignedRecord
  | envelope (envelope : Envelope)
  | configuration (configuration : FederationConfiguration)
  | delivery (delivery : FederationDelivery)

namespace SignedRecord

/-- A byte string is the transcript of a record. -/
def HasTranscript (bytes : List UInt8) : SignedRecord → Prop
  | .envelope record => record.signedBytes = .ok bytes
  | .configuration record => record.signedBytes = .ok bytes
  | .delivery record => record.transcript = .ok bytes

/-- Two records are of one kind and have the same signed content. -/
def SameContent : SignedRecord → SignedRecord → Prop
  | .envelope left, .envelope right =>
      left.federation = right.federation ∧ left.attempt = right.attempt ∧
        left.sender = right.sender ∧ left.recipient = right.recipient ∧
        left.body = right.body
  | .configuration left, .configuration right =>
      left.federation = right.federation ∧ left.authority = right.authority ∧
        left.epoch = right.epoch ∧ left.members = right.members
  | .delivery left, .delivery right => left.SameToTheSecond right
  | _, _ => False

/-- The bytes that tell the kinds of records apart. -/
def marker : SignedRecord → UInt8 × UInt8
  | .envelope _ => (70, 80)
  | .configuration _ => (70, 70)
  | .delivery _ => (102, 112)

/-- The first and the third byte of a transcript are the marker of its kind. -/
theorem HasTranscript.marker_eq
    {record : SignedRecord}
    {bytes : List UInt8}
    (made : record.HasTranscript bytes) :
    bytes[0]? = some record.marker.1 ∧ bytes[2]? = some record.marker.2 := by
  cases record with
  | envelope envelope =>
      obtain ⟨-, rfl⟩ := Envelope.signedBytes_eq_ok_iff.mp made
      exact ⟨rfl, rfl⟩
  | configuration configuration =>
      obtain ⟨-, rfl⟩ := FederationConfiguration.signedBytes_eq_ok_iff.mp made
      exact ⟨rfl, rfl⟩
  | delivery delivery =>
      obtain ⟨-, -, rfl⟩ := FederationDelivery.transcript_eq_ok_iff.mp made
      have tag : domainTag[0]? = some 102 ∧ domainTag[2]? = some 112 ∧
        2 < domainTag.length := by decide
      obtain ⟨first, third, long⟩ := tag
      rw [FederationDelivery.spelling,
        List.getElem?_append_left (Nat.lt_trans (by decide) long),
        List.getElem?_append_left long]
      exact ⟨first, third⟩

/-- Transcripts of records are injective and separated by kind, and deliveries
between parsed addresses always have one. -/
theorem transcripts_separated (unicode : Unicode) :
    (∀ (left right : SignedRecord) (bytes : List UInt8),
      left.HasTranscript bytes → right.HasTranscript bytes →
        left.SameContent right) ∧
    (∀ delivery : FederationDelivery, delivery.Parsed unicode →
      delivery.transcript ≠ .error .invalidCanonicalField) := by
  constructor
  · intro left right bytes leftMade rightMade
    have markers : left.marker = right.marker := by
      obtain ⟨leftFirst, leftThird⟩ := leftMade.marker_eq
      obtain ⟨rightFirst, rightThird⟩ := rightMade.marker_eq
      rw [leftFirst, Option.some.injEq] at rightFirst
      rw [leftThird, Option.some.injEq] at rightThird
      exact Prod.ext rightFirst rightThird
    cases left with
    | envelope left =>
        cases right with
        | envelope right =>
            have equal :=
              Envelope.content_eq_of_signedBytes_eq leftMade rightMade
            rw [← equal]
            exact ⟨rfl, rfl, rfl, rfl, rfl⟩
        | configuration right => simp [marker] at markers
        | delivery right => simp [marker] at markers
    | configuration left =>
        cases right with
        | configuration right =>
            have equal :=
              FederationConfiguration.eq_of_signedBytes_eq leftMade rightMade
            rw [equal]
            exact ⟨rfl, rfl, rfl, rfl⟩
        | envelope right => simp [marker] at markers
        | delivery right => simp [marker] at markers
    | delivery left =>
        cases right with
        | delivery right =>
            exact FederationDelivery.sameToTheSecond_of_transcript_eq leftMade
              rightMade
        | envelope right => simp [marker] at markers
        | configuration right => simp [marker] at markers
  · intro delivery parsed
    exact parsed.fits.transcript_ne_invalidCanonicalField

end SignedRecord

end Fabric
end Fcp
