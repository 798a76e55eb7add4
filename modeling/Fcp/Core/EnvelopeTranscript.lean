import Fcp.Core.Envelope

/-!
# The canonical transcript

The explicit spelling of an envelope, and the proof that the writer produces
exactly this spelling whenever the variable field respects its bound.
-/

namespace Fcp
namespace Core

open Rust
open Parsing

theorem validateLen_eq_ok_iff {length maximum : Nat} {result : Unit} :
    validateLen length maximum = .ok result ↔
      length ≤ maximum ∧ length < 2 ^ 32 := by
  rw [validateLen, rejectIf_eq_ok_iff]
  omega

/-- Below the 32-bit limit only the given maximum decides. -/
theorem validateLen_eq {length maximum : Nat} (small : maximum < 2 ^ 32) :
    validateLen length maximum =
      if length ≤ maximum then .ok () else .error .fieldTooLarge := by
  unfold validateLen rejectIf
  by_cases bounded : length ≤ maximum
  · rw [if_pos bounded, if_neg (by omega)]
  · rw [if_neg bounded, if_pos (by omega)]

/-! ## Spellings of the composed fields -/

namespace Body

/-- The kind-specific fields of a body as they stand on the wire. -/
def fields : Body → List UInt8
  | .offer binding description =>
      binding.bytes.toList ++ counted 4 description
  | .answer offerId binding description =>
      offerId.bytes.toList ++ binding.bytes.toList ++ counted 4 description
  | .candidate parentId sequence fragment =>
      parentId.bytes.toList ++ toBigEndian 4 sequence.toNat ++
        counted 4 fragment
  | .close reason => toBigEndian 2 reason.value.toNat
  | .cfrControl payload => counted 4 payload

/-- The variable field of a body respects its kind-specific bound. -/
def WithinBounds : Body → Prop
  | .offer _ description => description.length ≤ maxDescriptionBytes
  | .answer _ _ description => description.length ≤ maxDescriptionBytes
  | .candidate _ _ fragment => fragment.length ≤ maxCandidateBytes
  | .close _ => True
  | .cfrControl payload => payload.length ≤ maxCfrControlBytes

instance : (body : Body) → Decidable body.WithinBounds
  | .offer _ description =>
      inferInstanceAs (Decidable (description.length ≤ maxDescriptionBytes))
  | .answer _ _ description =>
      inferInstanceAs (Decidable (description.length ≤ maxDescriptionBytes))
  | .candidate _ _ fragment =>
      inferInstanceAs (Decidable (fragment.length ≤ maxCandidateBytes))
  | .close _ => inferInstanceAs (Decidable True)
  | .cfrControl payload =>
      inferInstanceAs (Decidable (payload.length ≤ maxCfrControlBytes))

/-- Validation checks exactly the kind-specific bound. -/
theorem validate_eq (body : Body) :
    body.validate =
      if body.WithinBounds then .ok () else .error .fieldTooLarge := by
  cases body with
  | offer _ description => exact validateLen_eq (by decide)
  | answer _ _ description => exact validateLen_eq (by decide)
  | candidate _ _ fragment => exact validateLen_eq (by decide)
  | close reason => rfl
  | cfrControl payload => exact validateLen_eq (by decide)

theorem validate_eq_ok_iff {body : Body} {result : Unit} :
    body.validate = .ok result ↔ body.WithinBounds := by
  rw [validate_eq]
  split <;> simp_all

end Body

namespace Envelope

/-- The bytes covered by both signatures. -/
def transcript (envelope : Envelope) : List UInt8 :=
  fcpWireMarker ++ [fcpWireVersion] ++ [envelope.kind.toU8] ++
    envelope.federation.bytes.toList ++ envelope.attempt.bytes.toList ++
    identityBytes envelope.sender ++ identityBytes envelope.recipient ++
    envelope.body.fields

/-- Both signatures as they follow the transcript. -/
def signatures (envelope : Envelope) : List UInt8 :=
  envelope.classicalSignature.toList ++ envelope.postQuantumSignature.toList

end Envelope

/-! ## The writer -/

namespace Writer

/-- A writer that succeeds from every state and appends the same bytes. -/
def Appends (writer : Writer Unit) (tokens : List UInt8) : Prop :=
  ∀ written, writer written = .ok ((), written ++ tokens)

theorem appends_fixed (value : List UInt8) : (fixed value).Appends value := by
  intro written
  rfl

theorem appends_u8 (value : UInt8) : (u8 value).Appends [value] := by
  intro written
  rfl

theorem appends_bytes
    {value : List UInt8}
    (bounded : value.length ≤ maxCfrControlBytes) :
    (bytes value).Appends (counted 4 value) := by
  intro written
  have small : value.length < 2 ^ 32 :=
    Nat.lt_of_le_of_lt bounded (by decide)
  have length_eq : (UInt32.ofNat value.length).toNat = value.length :=
    UInt32.toNat_ofNat_of_lt' small
  have accepted : validateLen value.length maxCfrControlBytes = .ok () :=
    validateLen_eq_ok_iff.mpr ⟨bounded, small⟩
  have converted : rejectIf (¬value.length < 2 ^ 32) Error.fieldTooLarge =
      .ok () := rejectIf_eq_ok_iff.mpr (not_not.mpr small)
  unfold bytes
  rw [accepted, converted]
  change Except.ok ((), written ++ toBigEndian 4 (UInt32.ofNat value.length).toNat ++
    value) = _
  rw [length_eq, counted, List.append_assoc]

theorem Appends.andThen
    {first second : Writer Unit}
    {left right : List UInt8}
    (firstAppends : first.Appends left)
    (secondAppends : second.Appends right) :
    (do
      first
      second).Appends (left ++ right) := by
  intro written
  have unfolded : (do
      first
      second : Writer Unit) written =
        (first written >>= fun result => second result.2) := rfl
  rw [unfolded, firstAppends written, ← List.append_assoc]
  exact secondAppends (written ++ left)

theorem Appends.finish
    {writer : Writer Unit}
    {tokens : List UInt8}
    (appends : writer.Appends tokens) :
    writer.finish = .ok tokens := by
  unfold Writer.finish StateT.run
  rw [appends []]
  rfl

end Writer

theorem writeIdentity_appends (identity : EndpointIdentity) :
    (writeIdentity identity).Appends (identityBytes identity) :=
  (Writer.appends_fixed _).andThen (Writer.appends_fixed _)

namespace Envelope

theorem writeBody_appends
    {body : Body}
    (bounded : body.WithinBounds) :
    (writeBody body).Appends body.fields := by
  cases body with
  | offer binding description =>
      exact (Writer.appends_fixed _).andThen
        (Writer.appends_bytes (Nat.le_trans bounded (by decide)))
  | answer offerId binding description =>
      rw [Body.fields, List.append_assoc]
      exact (Writer.appends_fixed _).andThen ((Writer.appends_fixed _).andThen
        (Writer.appends_bytes (Nat.le_trans bounded (by decide))))
  | candidate parentId sequence fragment =>
      rw [Body.fields, List.append_assoc]
      exact (Writer.appends_fixed _).andThen ((Writer.appends_fixed _).andThen
        (Writer.appends_bytes (Nat.le_trans bounded (by decide))))
  | close reason => exact Writer.appends_fixed _
  | cfrControl payload => exact Writer.appends_bytes bounded

/-- The writer produces the transcript of every bounded envelope and rejects
every other body. -/
theorem signedBytes_eq (envelope : Envelope) :
    envelope.signedBytes =
      if envelope.body.WithinBounds then .ok envelope.transcript
      else .error .fieldTooLarge := by
  unfold signedBytes
  rw [Body.validate_eq]
  split
  case isFalse unbounded => rfl
  case isTrue bounded =>
    have written :=
      (Writer.appends_fixed fcpWireMarker).andThen
      ((Writer.appends_u8 fcpWireVersion).andThen
      ((Writer.appends_u8 envelope.kind.toU8).andThen
      ((Writer.appends_fixed envelope.federation.bytes.toList).andThen
      ((Writer.appends_fixed envelope.attempt.bytes.toList).andThen
      ((writeIdentity_appends envelope.sender).andThen
      ((writeIdentity_appends envelope.recipient).andThen
        (writeBody_appends bounded)))))))
    have finished := written.finish
    simp only [← List.append_assoc] at finished
    exact finished

theorem signedBytes_eq_ok_iff {envelope : Envelope} {bytes : List UInt8} :
    envelope.signedBytes = .ok bytes ↔
      envelope.body.WithinBounds ∧ envelope.transcript = bytes := by
  rw [signedBytes_eq]
  split <;> simp_all

end Envelope

end Core
end Fcp
