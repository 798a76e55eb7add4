import Fcp.Core.EnvelopeReader

/-!
# Canonicity of the envelope wire format

Every envelope has at most one wire, every accepted wire is the encoding of the
envelope it decodes to, and the borrowed verification path accepts exactly the
wires whose decoded envelope verifies.
-/

namespace Fcp
namespace Core

open Rust
open Parsing

/-! ## Lengths -/

/-- Every wire within the envelope bound can be addressed. -/
theorem addressable_of_length_le
    {wire : List UInt8}
    (fits : wire.length ≤ maxEnvelopeBytes) :
    Addressable wire :=
  Nat.lt_of_le_of_lt fits (by decide)

/-- A bounded body never takes more room than a maximal CFR payload. -/
theorem Body.WithinBounds.length_fields_le
    {body : Body}
    (bounded : body.WithinBounds) :
    body.fields.length ≤ 4 + maxCfrControlBytes := by
  cases body <;>
    simp only [WithinBounds, fields, List.length_append, length_counted,
      Vector.length_toList, length_toBigEndian, maxDescriptionBytes,
      maxCandidateBytes, maxCfrControlBytes] at bounded ⊢ <;>
    omega

namespace Envelope

theorem length_transcript (envelope : Envelope) :
    envelope.transcript.length = 4021 + envelope.body.fields.length := by
  simp only [transcript, List.length_append, length_identityBytes,
    Vector.length_toList, fcpWireMarker, mlDsa65PublicKeyBytes,
    List.length_cons, List.length_nil]

@[simp] theorem length_signatures (envelope : Envelope) :
    envelope.signatures.length = 64 + mlDsa65SignatureBytes := by
  simp [signatures]

/-- The complete wire of a bounded envelope respects the envelope bound. -/
theorem length_wire_le
    {envelope : Envelope}
    (bounded : envelope.body.WithinBounds) :
    (envelope.transcript ++ envelope.signatures).length ≤ maxEnvelopeBytes := by
  have fieldsBound := bounded.length_fields_le
  rw [List.length_append, length_transcript, length_signatures]
  unfold maxEnvelopeBytes mlDsa65SignatureBytes
  omega

/-! ## Encoding and decoding -/

/-- Encoding succeeds exactly on bounded bodies; the total-size check is
redundant. -/
theorem encode_eq (envelope : Envelope) :
    envelope.encode =
      if envelope.body.WithinBounds then
        .ok (envelope.transcript ++ envelope.signatures)
      else .error .fieldTooLarge := by
  unfold encode
  rw [signedBytes_eq]
  split
  case isFalse unbounded => rfl
  case isTrue bounded =>
    have fits := length_wire_le bounded
    rw [signatures, ← List.append_assoc] at fits ⊢
    have accepted : rejectIf ((envelope.transcript ++
        envelope.classicalSignature.toList ++
        envelope.postQuantumSignature.toList).length > maxEnvelopeBytes)
        Error.tooLarge = .ok () :=
      rejectIf_eq_ok_iff.mpr (Nat.not_lt.mpr fits)
    simp only [bind, Except.bind, accepted]
    rfl

theorem encode_eq_ok_iff {envelope : Envelope} {wire : List UInt8} :
    envelope.encode = .ok wire ↔
      envelope.body.WithinBounds ∧
        envelope.transcript ++ envelope.signatures = wire := by
  rw [encode_eq]
  split <;> simp_all

/-- Decoding accepts exactly the spelling of a bounded envelope. -/
theorem decode_eq_ok_iff {wire : List UInt8} {envelope : Envelope} :
    decode wire = .ok envelope ↔
      envelope.body.WithinBounds ∧
        envelope.transcript ++ envelope.signatures = wire := by
  unfold decode StateT.run
  simp only [bind_eq_ok_iff, rejectIf_eq_ok_iff, Prod.exists]
  constructor
  · rintro ⟨_, small, result, reader, read, _, finished, _, -, _, -, returned⟩
    have addressable := addressable_of_length_le (Nat.not_lt.mp small)
    obtain ⟨tokens, ⟨bounded, rfl⟩, advances⟩ :=
      (readFields_recognises _ _ _ addressable).mp read
    have atEnd : reader.offset = reader.wire.length :=
      Decidable.not_not.mp (rejectIf_eq_ok_iff.mp finished)
    have whole := (Cursor.exists_advances_start_at_end_iff _ _).mp
      ⟨reader, advances, atEnd⟩
    simp only [pure, Except.pure, Except.ok.injEq] at returned
    subst returned
    exact ⟨bounded, whole.symm⟩
  · rintro ⟨bounded, rfl⟩
    have fits := length_wire_le bounded
    have addressable := addressable_of_length_le fits
    obtain ⟨reader, advances, atEnd⟩ :=
      (Cursor.exists_advances_start_at_end_iff
        (envelope.transcript ++ envelope.signatures) _).mpr rfl
    have read := (readFields_recognises _ _ _ addressable).mpr
      ⟨_, ⟨bounded, rfl⟩, advances⟩
    have encoded := encode_eq_ok_iff.mpr ⟨bounded, rfl⟩
    exact ⟨(), Nat.not_lt.mpr fits, envelope, reader, read, (),
      rejectIf_eq_ok_iff.mpr (not_not.mpr atEnd), _, encoded, (),
      not_not.mpr rfl, rfl⟩

end Envelope

/-! ## The documented grammar -/

/-- Kind-specific bodies: fixed fields, then at most one length-prefixed field
within its documented bound. -/
inductive BodyGrammar : UInt8 → List UInt8 → Prop
  | offer (binding description : List UInt8) :
      binding.length = 32 →
      description.length ≤ 98304 →
      BodyGrammar 1
        (binding ++ (toBigEndian 4 description.length ++ description))
  | answer (offerId binding description : List UInt8) :
      offerId.length = 32 →
      binding.length = 32 →
      description.length ≤ 98304 →
      BodyGrammar 2
        (offerId ++ binding ++
          (toBigEndian 4 description.length ++ description))
  | candidate (parentId sequence fragment : List UInt8) :
      parentId.length = 32 →
      sequence.length = 4 →
      fragment.length ≤ 4096 →
      BodyGrammar 3
        (parentId ++ sequence ++ (toBigEndian 4 fragment.length ++ fragment))
  | close (reason : List UInt8) :
      reason.length = 2 →
      BodyGrammar 4 reason
  | cfrControl (payload : List UInt8) :
      payload.length ≤ 4194304 →
      BodyGrammar 5 (toBigEndian 4 payload.length ++ payload)

/-- Header, body and both signatures, field by field. -/
structure WireGrammar (wire : List UInt8) where
  kind : UInt8
  federation : List UInt8
  attempt : List UInt8
  sender : List UInt8
  recipient : List UInt8
  body : List UInt8
  classicalSignature : List UInt8
  postQuantumSignature : List UInt8
  length_federation : federation.length = 32
  length_attempt : attempt.length = 16
  length_sender : sender.length = 1984
  length_recipient : recipient.length = 1984
  body_grammar : BodyGrammar kind body
  length_classicalSignature : classicalSignature.length = 64
  length_postQuantumSignature : postQuantumSignature.length = 3309
  wire_eq : wire = [70, 67, 80] ++ [1] ++ [kind] ++ federation ++ attempt ++
    sender ++ recipient ++ body ++ (classicalSignature ++ postQuantumSignature)

theorem exists_identity
    {bytes : List UInt8}
    (length : bytes.length = 1984) :
    ∃ identity, identityBytes identity = bytes := by
  have classicalLength : (bytes.take 32).length = 32 := by
    simp [length]
  have postQuantumLength :
      (bytes.drop 32).length = mlDsa65PublicKeyBytes := by
    simp [length, mlDsa65PublicKeyBytes]
  obtain ⟨classical, classical_eq⟩ := exists_array classicalLength
  obtain ⟨postQuantum, postQuantum_eq⟩ := exists_array postQuantumLength
  refine ⟨⟨⟨classical⟩, postQuantum⟩, ?_⟩
  rw [identityBytes, classical_eq, postQuantum_eq, List.take_append_drop]

/-- The bodies of the grammar are the spellings of bounded bodies. -/
theorem bodyGrammar_iff {kind : UInt8} {bytes : List UInt8} :
    BodyGrammar kind bytes ↔
      ∃ body : Body, body.WithinBounds ∧ kind = body.kind.toU8 ∧
        bytes = body.fields := by
  constructor
  · intro grammar
    cases grammar with
    | offer binding description bindingLength bounded =>
        obtain ⟨binding, rfl⟩ := exists_array bindingLength
        exact ⟨.offer ⟨binding⟩ description, bounded, rfl, rfl⟩
    | answer offerId binding description offerLength bindingLength bounded =>
        obtain ⟨offerId, rfl⟩ := exists_array offerLength
        obtain ⟨binding, rfl⟩ := exists_array bindingLength
        exact ⟨.answer ⟨offerId⟩ ⟨binding⟩ description, bounded, rfl, rfl⟩
    | candidate parentId sequence fragment parentLength sequenceLength bounded =>
        obtain ⟨parentId, rfl⟩ := exists_array parentLength
        have value := toBigEndian_ofBigEndian sequence
        have small := ofBigEndian_lt sequence
        rw [sequenceLength] at value small
        refine ⟨.candidate ⟨parentId⟩ (UInt32.ofNat (ofBigEndian sequence))
          fragment, bounded, rfl, ?_⟩
        rw [Body.fields, UInt32.toNat_ofNat_of_lt' small, value]
        rfl
    | close reason reasonLength =>
        have value := toBigEndian_ofBigEndian bytes
        have small := ofBigEndian_lt bytes
        rw [reasonLength] at value small
        refine ⟨.close ⟨UInt16.ofNat (ofBigEndian bytes)⟩, trivial, rfl, ?_⟩
        rw [Body.fields, UInt16.toNat_ofNat_of_lt' small, value]
    | cfrControl payload bounded =>
        exact ⟨.cfrControl payload, bounded, rfl, rfl⟩
  · rintro ⟨body, bounded, rfl, rfl⟩
    cases body with
    | offer binding description =>
        exact .offer _ description binding.bytes.length_toList bounded
    | answer offerId binding description =>
        exact .answer _ _ description offerId.bytes.length_toList
          binding.bytes.length_toList bounded
    | candidate parentId sequence fragment =>
        exact .candidate _ _ fragment parentId.bytes.length_toList
          (length_toBigEndian 4 _) bounded
    | close reason => exact .close _ (length_toBigEndian 2 _)
    | cfrControl payload => exact .cfrControl payload bounded

namespace Envelope

/-- Decoding accepts exactly the documented grammar. -/
theorem exists_decode_eq_ok_iff (wire : List UInt8) :
    (∃ envelope, decode wire = .ok envelope) ↔ Nonempty (WireGrammar wire) := by
  simp only [decode_eq_ok_iff]
  constructor
  · rintro ⟨envelope, bounded, rfl⟩
    exact ⟨
      { kind := envelope.kind.toU8
        federation := envelope.federation.bytes.toList
        attempt := envelope.attempt.bytes.toList
        sender := identityBytes envelope.sender
        recipient := identityBytes envelope.recipient
        body := envelope.body.fields
        classicalSignature := envelope.classicalSignature.toList
        postQuantumSignature := envelope.postQuantumSignature.toList
        length_federation := envelope.federation.bytes.length_toList
        length_attempt := envelope.attempt.bytes.length_toList
        length_sender := length_identityBytes envelope.sender
        length_recipient := length_identityBytes envelope.recipient
        body_grammar := bodyGrammar_iff.mpr ⟨envelope.body, bounded, rfl, rfl⟩
        length_classicalSignature := envelope.classicalSignature.length_toList
        length_postQuantumSignature :=
          envelope.postQuantumSignature.length_toList
        wire_eq := rfl }⟩
  · rintro ⟨grammar⟩
    obtain ⟨federation, federation_eq⟩ := exists_array grammar.length_federation
    obtain ⟨attempt, attempt_eq⟩ := exists_array grammar.length_attempt
    obtain ⟨sender, sender_eq⟩ := exists_identity grammar.length_sender
    obtain ⟨recipient, recipient_eq⟩ := exists_identity grammar.length_recipient
    obtain ⟨body, bounded, kind_eq, body_eq⟩ :=
      bodyGrammar_iff.mp grammar.body_grammar
    obtain ⟨classicalSignature, classical_eq⟩ :=
      exists_array grammar.length_classicalSignature
    obtain ⟨postQuantumSignature, postQuantum_eq⟩ :
        ∃ signature : Vector UInt8 mlDsa65SignatureBytes,
          signature.toList = grammar.postQuantumSignature :=
      exists_array grammar.length_postQuantumSignature
    refine ⟨⟨⟨federation⟩, ⟨attempt⟩, sender, recipient, body,
      classicalSignature, postQuantumSignature⟩, bounded, ?_⟩
    rw [grammar.wire_eq, transcript, signatures, federation_eq, attempt_eq,
      sender_eq, recipient_eq, classical_eq, postQuantum_eq, kind_eq, body_eq]
    rfl

end Envelope

/-! ## Parse failures -/

theorem rejectIf_ne_error
    {condition : Prop} [Decidable condition]
    {reported error : Error}
    (different : reported ≠ error) :
    rejectIf condition reported ≠ .error error := by
  unfold rejectIf
  split <;> simp [different]

namespace Reader

theorem okOr_ne_nonCanonical (value : Option α) :
    okOr value Error.truncated ≠ .error .nonCanonical := by
  cases value <;> simp [okOr]

theorem fixed_neverFails (width : Nat) :
    NeverFailsWith (fixed width) .nonCanonical := by
  intro reader failed
  unfold fixed at failed
  simp only [bind_eq_error_iff, okOr_ne_nonCanonical, false_or, pure,
    Except.pure, reduceCtorEq, and_false, exists_false] at failed

theorem u8_neverFails : NeverFailsWith u8 .nonCanonical :=
  (fixed_neverFails 1).bind fun _ => .pure _ _

theorem u16_neverFails : NeverFailsWith u16 .nonCanonical :=
  (fixed_neverFails 2).bind fun _ => .pure _ _

theorem u32_neverFails : NeverFailsWith u32 .nonCanonical :=
  (fixed_neverFails 4).bind fun _ => .pure _ _

theorem bytesRef_neverFails (maximum : Nat) :
    NeverFailsWith (bytesRef maximum) .nonCanonical := by
  refine u32_neverFails.bind fun length =>
    (NeverFailsWith.lift (rejectIf_ne_error (by decide))).bind fun _ => ?_
  intro reader failed
  simp only [bind_eq_error_iff, okOr_ne_nonCanonical, and_false, exists_false,
    or_self] at failed

end Reader

theorem readIdentity_neverFails : NeverFailsWith readIdentity .nonCanonical :=
  (Reader.fixed_neverFails _).bind fun _ =>
    (Reader.fixed_neverFails _).bind fun _ => .pure _ _

theorem Kind.tryFrom_ne_nonCanonical (value : UInt8) :
    Kind.tryFrom value ≠ .error .nonCanonical := by
  unfold Kind.tryFrom
  repeat' split
  all_goals simp

theorem readKind_neverFails : NeverFailsWith readKind .nonCanonical :=
  (Reader.fixed_neverFails _).bind fun _ =>
    (NeverFailsWith.lift (rejectIf_ne_error (by decide))).bind fun _ =>
    Reader.u8_neverFails.bind fun _ =>
    (NeverFailsWith.lift (rejectIf_ne_error (by decide))).bind fun _ =>
    Reader.u8_neverFails.bind fun _ =>
      NeverFailsWith.lift (Kind.tryFrom_ne_nonCanonical _)

namespace Envelope

theorem readBody_neverFails (kind : Kind) :
    NeverFailsWith (readBody kind) .nonCanonical := by
  cases kind with
  | offer =>
      exact (Reader.fixed_neverFails _).bind fun _ =>
        (Reader.bytesRef_neverFails _).bind fun _ => .pure _ _
  | answer =>
      exact (Reader.fixed_neverFails _).bind fun _ =>
        (Reader.fixed_neverFails _).bind fun _ =>
        (Reader.bytesRef_neverFails _).bind fun _ => .pure _ _
  | candidate =>
      exact (Reader.fixed_neverFails _).bind fun _ =>
        Reader.u32_neverFails.bind fun _ =>
        (Reader.bytesRef_neverFails _).bind fun _ => .pure _ _
  | close => exact Reader.u16_neverFails.bind fun _ => .pure _ _
  | cfrControl =>
      exact (Reader.bytesRef_neverFails _).bind fun _ => .pure _ _

theorem validate_ne_nonCanonical (body : Body) :
    body.validate ≠ .error .nonCanonical := by
  rw [Body.validate_eq]
  split <;> simp

theorem readFields_neverFails : NeverFailsWith readFields .nonCanonical :=
  readKind_neverFails.bind fun kind =>
    (Reader.fixed_neverFails _).bind fun _ =>
    (Reader.fixed_neverFails _).bind fun _ =>
    readIdentity_neverFails.bind fun _ =>
    readIdentity_neverFails.bind fun _ =>
    (readBody_neverFails kind).bind fun body =>
    (NeverFailsWith.lift (validate_ne_nonCanonical body)).bind fun _ =>
    (Reader.fixed_neverFails _).bind fun _ =>
    (Reader.fixed_neverFails _).bind fun _ => .pure _ _

/-- The re-encoding check of the parser never fires. -/
theorem decode_ne_nonCanonical (wire : List UInt8) :
    decode wire ≠ .error .nonCanonical := by
  intro failed
  unfold decode StateT.run at failed
  simp only [bind_eq_error_iff, rejectIf_eq_ok_iff, rejectIf_eq_error_iff,
    Reader.finish, readFields_neverFails _, reduceCtorEq, and_false, false_or,
    Prod.exists, and_true] at failed
  obtain ⟨_, small, envelope, reader, read, _, finished, failed⟩ := failed
  have addressable := addressable_of_length_le (Nat.not_lt.mp small)
  obtain ⟨tokens, ⟨bounded, rfl⟩, advances⟩ :=
    (readFields_recognises _ _ _ addressable).mp read
  have whole := (Cursor.exists_advances_start_at_end_iff _ _).mp
    ⟨reader, advances, Decidable.not_not.mp finished⟩
  have encoded := encode_eq_ok_iff.mpr ⟨bounded, rfl⟩
  rw [encoded] at failed
  rcases failed with failed | ⟨canonical, sameBytes, failed⟩
  · simp at failed
  · simp only [Except.ok.injEq] at sameBytes
    subst sameBytes
    simp [whole, pure, Except.pure] at failed

/-- The wire format is canonical: decoding and encoding are inverse partial
functions, decoding accepts the documented grammar and never reports a
non-canonical input, and encoding rejects only an oversized variable field. -/
theorem wire_format_canonical :
    (∀ wire envelope,
      decode wire = .ok envelope ↔ envelope.encode = .ok wire) ∧
    (∀ left right envelope,
      decode left = .ok envelope → decode right = .ok envelope →
        left = right) ∧
    (∀ wire,
      (∃ envelope, decode wire = .ok envelope) ↔
        Nonempty (WireGrammar wire)) ∧
    (∀ wire, decode wire ≠ .error .nonCanonical) ∧
    (∀ (envelope : Envelope) error,
      envelope.encode = .error error →
        error = .fieldTooLarge ∧ ¬envelope.body.WithinBounds) ∧
    ∀ envelope : Envelope,
      envelope.body.validate = .ok () → ∃ wire, envelope.encode = .ok wire := by
  refine ⟨?_, ?_, exists_decode_eq_ok_iff, decode_ne_nonCanonical, ?_, ?_⟩
  · intro wire envelope
    rw [decode_eq_ok_iff, encode_eq_ok_iff]
  · intro left right envelope leftDecoded rightDecoded
    rw [decode_eq_ok_iff] at leftDecoded rightDecoded
    exact leftDecoded.2.symm.trans rightDecoded.2
  · intro envelope error failed
    rw [encode_eq] at failed
    split at failed
    case isTrue bounded => simp at failed
    case isFalse unbounded =>
      simp only [Except.error.injEq] at failed
      exact ⟨failed.symm, unbounded⟩
  · intro envelope validated
    have bounded := Body.validate_eq_ok_iff.mp validated
    exact ⟨_, encode_eq_ok_iff.mpr ⟨bounded, rfl⟩⟩

/-! ## The borrowed verification path -/

theorem verify_eq_ok_iff {primitives : Primitives} {envelope : Envelope} :
    envelope.verify primitives = .ok () ↔
      envelope.body.WithinBounds ∧
        envelope.sender.Authenticates primitives envelope.transcript
          envelope.classicalSignature envelope.postQuantumSignature := by
  unfold verify EndpointIdentity.Authenticates
  simp only [bind_eq_ok_iff, signedBytes_eq_ok_iff]
  constructor
  · rintro ⟨_, ⟨bounded, rfl⟩, _, classical, postQuantum⟩
    exact ⟨bounded, classical, postQuantum⟩
  · rintro ⟨bounded, classical, postQuantum⟩
    exact ⟨_, ⟨bounded, rfl⟩, (), classical, postQuantum⟩

/-- On a wire that decodes, the borrowed parser stops exactly behind the
transcript and returns the decoded sender. -/
theorem skipSigned_of_decode
    {wire : List UInt8}
    {envelope : Envelope}
    (decoded : decode wire = .ok envelope) :
    ∃ reader, skipSigned (Cursor.start wire) = .ok (envelope.sender, reader) ∧
      (Cursor.start wire).Advances envelope.transcript reader ∧
      reader.offset = envelope.transcript.length ∧
      wire.take reader.offset = envelope.transcript := by
  obtain ⟨bounded, rfl⟩ := decode_eq_ok_iff.mp decoded
  have addressable := addressable_of_length_le (length_wire_le bounded)
  obtain ⟨last, advances, -⟩ := (Cursor.exists_advances_start_at_end_iff
    (envelope.transcript ++ envelope.signatures) _).mpr rfl
  obtain ⟨reader, transcriptRead, -⟩ := advances.split
  have stop := ((Cursor.advances_start_iff _ _ _).mp transcriptRead).2.1
  refine ⟨reader, ?_, transcriptRead, stop, ?_⟩
  · exact (skipSigned_recognises _ _ _ addressable).mpr
      ⟨_, ⟨envelope, bounded, rfl, rfl⟩, transcriptRead⟩
  · rw [stop, List.take_left]

/-- The borrowed path accepts a wire exactly when it decodes to an envelope
that verifies. -/
theorem verifyWire_eq_ok_iff (primitives : Primitives) (wire : List UInt8) :
    verifyWire primitives wire = .ok () ↔
      ∃ envelope, decode wire = .ok envelope ∧
        envelope.verify primitives = .ok () := by
  unfold verifyWire StateT.run
  simp only [bind_eq_ok_iff, rejectIf_eq_ok_iff, Prod.exists]
  constructor
  · rintro ⟨_, small, sender, middle, skipped, classicalSignature,
      postQuantumSignature, last, signaturesRead, _, finished, _, classical,
      postQuantum⟩
    have addressable := addressable_of_length_le (Nat.not_lt.mp small)
    obtain ⟨_, ⟨signed, bounded, rfl, rfl⟩, transcriptRead⟩ :=
      (skipSigned_recognises _ _ _ addressable).mp skipped
    obtain ⟨sameWire, stop, -⟩ :=
      (Cursor.advances_start_iff _ _ _).mp transcriptRead
    obtain ⟨_, rfl, signaturesAdvance⟩ :=
      (readSignatures_recognises _ _ _ (sameWire ▸ addressable)).mp
        signaturesRead
    have whole := (Cursor.exists_advances_start_at_end_iff _ _).mp
      ⟨last, transcriptRead.trans signaturesAdvance,
        Decidable.not_not.mp (rejectIf_eq_ok_iff.mp finished)⟩
    let envelope : Envelope := { signed with
      classicalSignature := classicalSignature
      postQuantumSignature := postQuantumSignature }
    have wire_eq : envelope.transcript ++ envelope.signatures = wire :=
      whole.symm
    have slice_eq : wire.take middle.offset = envelope.transcript := by
      rw [← wire_eq, stop]
      exact List.take_left
    rw [slice_eq] at classical postQuantum
    exact ⟨envelope, decode_eq_ok_iff.mpr ⟨bounded, wire_eq⟩,
      verify_eq_ok_iff.mpr ⟨bounded, classical, postQuantum⟩⟩
  · rintro ⟨envelope, decoded, verified⟩
    obtain ⟨middle, skipped, transcriptRead, -, slice_eq⟩ :=
      skipSigned_of_decode decoded
    obtain ⟨bounded, classical, postQuantum⟩ := verify_eq_ok_iff.mp verified
    obtain ⟨-, rfl⟩ := decode_eq_ok_iff.mp decoded
    have fits := length_wire_le bounded
    have addressable := addressable_of_length_le fits
    obtain ⟨sameWire, stop, rest_eq⟩ :=
      (Cursor.advances_start_iff _ _ _).mp transcriptRead
    have remaining : middle.rest = envelope.signatures :=
      (List.append_cancel_left rest_eq).symm
    obtain ⟨last, advances, atEnd⟩ := (Cursor.exists_advances_start_at_end_iff
      (envelope.transcript ++ envelope.signatures) _).mpr rfl
    have signaturesRead : middle.Advances envelope.signatures last := by
      obtain ⟨lastWire, lastOffset, -⟩ :=
        (Cursor.advances_start_iff _ _ _).mp advances
      refine ⟨lastWire.trans sameWire.symm, ?_, ?_⟩
      · rw [lastOffset, stop, List.length_append]
      · rw [remaining, Cursor.rest, atEnd, List.drop_length, List.append_nil]
    refine ⟨(), Nat.not_lt.mpr fits, envelope.sender, middle, skipped,
      envelope.classicalSignature, envelope.postQuantumSignature, last, ?_,
      (), ?_, (), ?_, ?_⟩
    · exact (readSignatures_recognises _ _ _ (sameWire ▸ addressable)).mpr
        ⟨_, rfl, signaturesRead⟩
    · exact rejectIf_eq_ok_iff.mpr (not_not.mpr atEnd)
    · rw [slice_eq]
      exact classical
    · rw [slice_eq]
      exact postQuantum

theorem decodeVerified_eq_ok_iff
    {primitives : Primitives}
    {wire : List UInt8}
    {envelope : Envelope} :
    decodeVerified primitives wire = .ok envelope ↔
      decode wire = .ok envelope ∧ envelope.verify primitives = .ok () := by
  simp only [decodeVerified, bind_eq_ok_iff]
  constructor
  · rintro ⟨_, accepted, decoded⟩
    obtain ⟨verifiedEnvelope, sameWire, verified⟩ :=
      (verifyWire_eq_ok_iff primitives wire).mp accepted
    rw [decoded, Except.ok.injEq] at sameWire
    subst sameWire
    exact ⟨decoded, verified⟩
  · rintro ⟨decoded, verified⟩
    exact ⟨(), (verifyWire_eq_ok_iff primitives wire).mpr
      ⟨envelope, decoded, verified⟩, decoded⟩

/-- Verified decoding is decoding followed by verification, and the slice whose
signatures it checks is the transcript of the decoded envelope. -/
theorem verified_decoding_exact
    (primitives : Primitives)
    (wire : List UInt8) :
    (∀ envelope,
      decodeVerified primitives wire = .ok envelope ↔
        decode wire = .ok envelope ∧ envelope.verify primitives = .ok ()) ∧
    (verifyWire primitives wire = .ok () ↔
      ∃ envelope, decode wire = .ok envelope ∧
        envelope.verify primitives = .ok ()) ∧
    ∀ envelope, decode wire = .ok envelope →
      ∃ reader transcript,
        skipSigned.run (Cursor.start wire) = .ok (envelope.sender, reader) ∧
        envelope.signedBytes = .ok transcript ∧
        reader.offset = transcript.length ∧
        wire.take reader.offset = transcript := by
  refine ⟨fun _ => decodeVerified_eq_ok_iff,
    verifyWire_eq_ok_iff primitives wire, ?_⟩
  intro envelope decoded
  obtain ⟨reader, skipped, -, stop, slice_eq⟩ := skipSigned_of_decode decoded
  have bounded := (decode_eq_ok_iff.mp decoded).1
  exact ⟨reader, envelope.transcript, skipped,
    signedBytes_eq_ok_iff.mpr ⟨bounded, rfl⟩, stop, slice_eq⟩

/-! ## Injectivity of the transcript -/

/-- Bounded envelopes with the same transcript and the same signatures are
equal. -/
theorem eq_of_transcript_eq
    {left right : Envelope}
    (leftBounded : left.body.WithinBounds)
    (rightBounded : right.body.WithinBounds)
    (sameTranscript : left.transcript = right.transcript)
    (sameSignatures : left.signatures = right.signatures) :
    left = right := by
  have leftDecoded : decode (left.transcript ++ left.signatures) = .ok left :=
    decode_eq_ok_iff.mpr ⟨leftBounded, rfl⟩
  have rightDecoded : decode (left.transcript ++ left.signatures) = .ok right :=
    decode_eq_ok_iff.mpr
      ⟨rightBounded, by rw [sameTranscript, sameSignatures]⟩
  rw [leftDecoded, Except.ok.injEq] at rightDecoded
  exact rightDecoded

end Envelope

end Core
end Fcp
