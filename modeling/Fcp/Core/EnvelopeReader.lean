import Fcp.Core.EnvelopeTranscript

/-!
# Grammars of the wire readers

Each reading step recognises the spelling of the field it returns, and the
composed readers recognise the spelling of a complete envelope.
-/

namespace Fcp
namespace Core

open Rust
open Parsing

/-- Byte strings that fit into a machine word's address range. -/
def Addressable (wire : List UInt8) : Prop :=
  wire.length < 2 ^ 64

namespace Reader

/-- A bounded read to a checked position takes exactly the requested bytes. -/
theorem readTo?_checkedAdd_iff
    {reader later : Reader}
    {count : Nat}
    {bytes : List UInt8}
    (addressable : Addressable reader.wire) :
    (∃ stop, checkedAdd reader.offset count = some stop ∧
      reader.readTo? stop = some (bytes, later)) ↔
      bytes.length = count ∧ reader.Advances bytes later := by
  rw [← Cursor.readTo?_eq_some_iff]
  unfold checkedAdd
  split
  case isTrue bounded => simp
  case isFalse overflow =>
    simp only [reduceCtorEq, false_and, exists_false, false_iff]
    intro read
    unfold Cursor.readTo? at read
    unfold Addressable at addressable
    rw [dif_neg (by omega)] at read
    simp at read

theorem fixed_recognises (width : Nat) :
    Recognises Addressable (fixed width)
      (fun array tokens => tokens = array.toList) := by
  intro reader array later addressable
  simp only [fixed, bind_eq_ok_iff, okOr_eq_ok_iff, Prod.exists,
    exists_eq_left]
  constructor
  · rintro ⟨stop, inRange, bytes, reader', read, array', converted, result⟩
    simp only [pure, Except.pure, Except.ok.injEq, Prod.mk.injEq] at result
    obtain ⟨rfl, rfl⟩ := result
    obtain ⟨-, advances⟩ :=
      (readTo?_checkedAdd_iff addressable).mp ⟨stop, inRange, read⟩
    exact tryInto_eq_some_iff.mp converted ▸ advances
  · intro advances
    obtain ⟨stop, inRange, read⟩ := (readTo?_checkedAdd_iff addressable).mpr
      ⟨array.length_toList, advances⟩
    exact ⟨stop, inRange, array.toList, later, read, array,
      tryInto_toList array, rfl⟩

theorem u8_recognises :
    Recognises Addressable u8 (fun byte tokens => tokens = [byte]) := by
  refine ((fixed_recognises 1).bind fun array =>
    Recognises.pure array[0]).congr ?_
  intro byte tokens
  simp only [Grammar.andThen, Grammar.silent]
  constructor
  · rintro ⟨array, left, right, rfl, ⟨rfl, rfl⟩, rfl⟩
    rw [List.append_nil]
    apply List.ext_getElem
    · simp
    · intro position bound _
      obtain rfl : position = 0 := by simpa using bound
      simp
  · rintro rfl
    exact ⟨#v[byte], [byte], [], rfl, ⟨rfl, rfl⟩, rfl⟩

/-- A fixed-width big-endian integer is read from exactly its spelling. -/
theorem integer_recognises
    (width : Nat)
    (ofNat : Nat → α)
    (toNat : α → Nat)
    (toNat_lt : ∀ value, toNat value < 256 ^ width)
    (ofNat_toNat : ∀ value, ofNat (toNat value) = value)
    (toNat_ofNat : ∀ number, number < 256 ^ width → toNat (ofNat number) = number) :
    Recognises Addressable
      (do
        let array ← fixed width
        return ofNat (ofBigEndian array.toList))
      (fun value tokens => tokens = toBigEndian width (toNat value)) := by
  refine ((fixed_recognises width).bind fun array =>
    Recognises.pure (ofNat (ofBigEndian array.toList))).congr ?_
  intro value tokens
  simp only [Grammar.andThen, Grammar.silent]
  constructor
  · rintro ⟨array, left, right, rfl, ⟨rfl, rfl⟩, rfl⟩
    have spelled := toBigEndian_ofBigEndian array.toList
    have bound := ofBigEndian_lt array.toList
    rw [array.length_toList] at spelled bound
    rw [List.append_nil, toNat_ofNat _ bound, spelled]
  · rintro rfl
    obtain ⟨array, converted⟩ : ∃ array : Vector UInt8 width,
        toBigEndian width (toNat value) = array.toList :=
      ⟨⟨(toBigEndian width (toNat value)).toArray, by simp⟩, by simp⟩
    refine ⟨array, array.toList, [], rfl, ⟨?_, rfl⟩, ?_⟩
    · rw [← converted, ofBigEndian_toBigEndian,
        Nat.mod_eq_of_lt (toNat_lt value), ofNat_toNat]
    · rw [converted, List.append_nil]

theorem u16_recognises :
    Recognises Addressable u16
      (fun value tokens => tokens = toBigEndian 2 value.toNat) :=
  integer_recognises 2 UInt16.ofNat UInt16.toNat UInt16.toNat_lt
    (fun _ => UInt16.ofNat_toNat)
    (fun _ bound => UInt16.toNat_ofNat_of_lt' bound)

theorem u32_recognises :
    Recognises Addressable u32
      (fun value tokens => tokens = toBigEndian 4 value.toNat) :=
  integer_recognises 4 UInt32.ofNat UInt32.toNat UInt32.toNat_lt
    (fun _ => UInt32.ofNat_toNat)
    (fun _ bound => UInt32.toNat_ofNat_of_lt' bound)

theorem bytesRef_recognises (maximum : Nat) :
    Recognises Addressable (bytesRef maximum)
      (fun bytes tokens => bytes.length ≤ maximum ∧ bytes.length < 2 ^ 32 ∧
        tokens = counted 4 bytes) := by
  have payload (length : UInt32) : Recognises Addressable
      (fun reader : Reader => do
        let stop ← okOr (checkedAdd reader.offset length.toNat) Error.truncated
        okOr (reader.readTo? stop) .truncated)
      (fun bytes tokens => bytes.length = length.toNat ∧ tokens = bytes) := by
    intro reader bytes later addressable
    simp only [bind_eq_ok_iff, okOr_eq_ok_iff]
    rw [readTo?_checkedAdd_iff addressable]
    constructor
    · rintro ⟨bytesLength, advances⟩
      exact ⟨bytes, ⟨bytesLength, rfl⟩, advances⟩
    · rintro ⟨tokens, ⟨bytesLength, rfl⟩, advances⟩
      exact ⟨bytesLength, advances⟩
  refine (u32_recognises.bind fun length =>
    (Recognises.lift (validateLen length.toNat maximum)).bind fun _ =>
      payload length).congr ?_
  intro bytes tokens
  simp only [Grammar.andThen, Grammar.silent, validateLen_eq_ok_iff]
  constructor
  · rintro ⟨length, prefixBytes, remaining, rfl, ⟨_, none, field,
      ⟨⟨bounded, small⟩, rfl⟩, ⟨fieldLength, rfl⟩, rfl⟩, rfl⟩
    refine ⟨fieldLength ▸ bounded, fieldLength ▸ small, ?_⟩
    rw [counted, fieldLength]
  · rintro ⟨bounded, small, rfl⟩
    have length_eq : (UInt32.ofNat bytes.length).toNat = bytes.length :=
      UInt32.toNat_ofNat_of_lt' small
    refine ⟨UInt32.ofNat bytes.length, toBigEndian 4 bytes.length, bytes, ?_,
      ⟨(), [], bytes, ⟨?_, rfl⟩, ⟨length_eq.symm, rfl⟩, rfl⟩, rfl⟩
    · rw [length_eq]
    · rw [length_eq]
      exact ⟨bounded, small⟩

end Reader

/-! ## Readers of the composed fields -/

theorem readIdentity_recognises :
    Recognises Addressable readIdentity
      (fun identity tokens => tokens = identityBytes identity) := by
  refine ((Reader.fixed_recognises 32).bind fun classical =>
    (Reader.fixed_recognises mlDsa65PublicKeyBytes).bind fun postQuantum =>
      Recognises.pure (EndpointIdentity.mk ⟨classical⟩ postQuantum)).congr ?_
  intro identity tokens
  simp only [Grammar.andThen, Grammar.silent]
  constructor
  · rintro ⟨classical, left, right, rfl, ⟨postQuantum, middle, last, rfl,
      ⟨rfl, rfl⟩, rfl⟩, rfl⟩
    rw [List.append_nil]
    rfl
  · rintro rfl
    refine ⟨identity.classical.bytes, _, _, rfl, ⟨identity.postQuantum, _, _,
      rfl, ⟨rfl, rfl⟩, rfl⟩, ?_⟩
    rw [List.append_nil]
    rfl

namespace Kind

theorem tryFrom_eq_ok_iff {value : UInt8} {kind : Kind} :
    tryFrom value = .ok kind ↔ value = kind.toU8 := by
  constructor
  · intro parsed
    unfold tryFrom at parsed
    repeat' split at parsed
    all_goals simp_all [toU8]
    all_goals subst parsed
    all_goals rfl
  · rintro rfl
    cases kind <;> rfl

end Kind

theorem readKind_recognises :
    Recognises Addressable readKind
      (fun kind tokens =>
        tokens = fcpWireMarker ++ [fcpWireVersion] ++ [kind.toU8]) := by
  refine ((Reader.fixed_recognises 3).bind fun marker =>
    (Recognises.lift (rejectIf (marker.toList ≠ fcpWireMarker)
      Error.badMarker)).bind fun _ =>
    Reader.u8_recognises.bind fun version =>
    (Recognises.lift (rejectIf (version ≠ fcpWireVersion)
      Error.unsupportedVersion)).bind fun _ =>
    Reader.u8_recognises.bind fun kind =>
      Recognises.lift (Kind.tryFrom kind)).congr ?_
  intro kind tokens
  simp only [Grammar.andThen, Grammar.silent, rejectIf_eq_ok_iff,
    Kind.tryFrom_eq_ok_iff, Decidable.not_not]
  constructor
  · rintro ⟨marker, _, _, rfl, ⟨_, _, _, ⟨isMarker, rfl⟩, ⟨version, _, _, rfl,
      ⟨_, _, _, ⟨rfl, rfl⟩, ⟨value, _, _, rfl, ⟨rfl, rfl⟩, rfl⟩, rfl⟩, rfl⟩,
      rfl⟩, rfl⟩
    rw [isMarker]
    rfl
  · rintro rfl
    exact ⟨#v[70, 67, 80], _, _, rfl, ⟨(), _, _, ⟨rfl, rfl⟩,
      ⟨fcpWireVersion, _, _, rfl, ⟨(), _, _, ⟨rfl, rfl⟩,
        ⟨kind.toU8, _, _, rfl, ⟨rfl, rfl⟩, rfl⟩, rfl⟩, rfl⟩, rfl⟩, rfl⟩

namespace Envelope

/-- A body reader recognises exactly the bounded bodies of its kind. -/
theorem readBody_recognises (kind : Kind) :
    Recognises Addressable (readBody kind)
      (fun body tokens => body.kind = kind ∧ body.WithinBounds ∧
        tokens = body.fields) := by
  cases kind with
  | offer =>
      refine ((Reader.fixed_recognises 32).bind fun binding =>
        (Reader.bytesRef_recognises maxDescriptionBytes).bind fun description =>
          Recognises.pure (Body.offer ⟨binding⟩ description)).congr ?_
      intro body tokens
      simp only [Grammar.andThen, Grammar.silent]
      constructor
      · rintro ⟨binding, _, _, rfl, ⟨description, _, _, ⟨bounded, -, rfl⟩,
          ⟨rfl, rfl⟩, rfl⟩, rfl⟩
        rw [List.append_nil]
        exact ⟨rfl, bounded, rfl⟩
      · rintro ⟨sameKind, bounded, rfl⟩
        cases body with
        | offer binding description =>
            refine ⟨binding.bytes, _, _, rfl, ⟨description, _, _,
              ⟨bounded, Nat.lt_of_le_of_lt bounded (by decide), rfl⟩,
              ⟨rfl, rfl⟩, rfl⟩, ?_⟩
            rw [List.append_nil]
            rfl
        | answer | candidate | close | cfrControl => simp [Body.kind] at sameKind
  | answer =>
      refine ((Reader.fixed_recognises 32).bind fun offerId =>
        (Reader.fixed_recognises 32).bind fun binding =>
        (Reader.bytesRef_recognises maxDescriptionBytes).bind fun description =>
          Recognises.pure
            (Body.answer ⟨offerId⟩ ⟨binding⟩ description)).congr ?_
      intro body tokens
      simp only [Grammar.andThen, Grammar.silent]
      constructor
      · rintro ⟨offerId, _, _, rfl, ⟨binding, _, _, rfl, ⟨description, _, _,
          ⟨bounded, -, rfl⟩, ⟨rfl, rfl⟩, rfl⟩, rfl⟩, rfl⟩
        rw [List.append_nil, ← List.append_assoc]
        exact ⟨rfl, bounded, rfl⟩
      · rintro ⟨sameKind, bounded, rfl⟩
        cases body with
        | answer offerId binding description =>
            refine ⟨offerId.bytes, _, _, rfl, ⟨binding.bytes, _, _, rfl,
              ⟨description, _, _,
                ⟨bounded, Nat.lt_of_le_of_lt bounded (by decide), rfl⟩,
                ⟨rfl, rfl⟩, rfl⟩, rfl⟩, ?_⟩
            rw [List.append_nil, ← List.append_assoc]
            rfl
        | offer | candidate | close | cfrControl => simp [Body.kind] at sameKind
  | candidate =>
      refine ((Reader.fixed_recognises 32).bind fun parentId =>
        Reader.u32_recognises.bind fun sequence =>
        (Reader.bytesRef_recognises maxCandidateBytes).bind fun fragment =>
          Recognises.pure
            (Body.candidate ⟨parentId⟩ sequence fragment)).congr ?_
      intro body tokens
      simp only [Grammar.andThen, Grammar.silent]
      constructor
      · rintro ⟨parentId, _, _, rfl, ⟨sequence, _, _, rfl, ⟨fragment, _, _,
          ⟨bounded, -, rfl⟩, ⟨rfl, rfl⟩, rfl⟩, rfl⟩, rfl⟩
        rw [List.append_nil, ← List.append_assoc]
        exact ⟨rfl, bounded, rfl⟩
      · rintro ⟨sameKind, bounded, rfl⟩
        cases body with
        | candidate parentId sequence fragment =>
            refine ⟨parentId.bytes, _, _, rfl, ⟨sequence, _, _, rfl,
              ⟨fragment, _, _,
                ⟨bounded, Nat.lt_of_le_of_lt bounded (by decide), rfl⟩,
                ⟨rfl, rfl⟩, rfl⟩, rfl⟩, ?_⟩
            rw [List.append_nil, ← List.append_assoc]
            rfl
        | offer | answer | close | cfrControl => simp [Body.kind] at sameKind
  | close =>
      refine (Reader.u16_recognises.bind fun reason =>
        Recognises.pure (Body.close ⟨reason⟩)).congr ?_
      intro body tokens
      simp only [Grammar.andThen, Grammar.silent]
      constructor
      · rintro ⟨reason, _, _, rfl, ⟨rfl, rfl⟩, rfl⟩
        rw [List.append_nil]
        exact ⟨rfl, trivial, rfl⟩
      · rintro ⟨sameKind, -, rfl⟩
        cases body with
        | close reason =>
            refine ⟨reason.value, _, _, rfl, ⟨rfl, rfl⟩, ?_⟩
            rw [List.append_nil]
            rfl
        | offer | answer | candidate | cfrControl =>
            simp [Body.kind] at sameKind
  | cfrControl =>
      refine ((Reader.bytesRef_recognises maxCfrControlBytes).bind fun payload =>
        Recognises.pure (Body.cfrControl payload)).congr ?_
      intro body tokens
      simp only [Grammar.andThen, Grammar.silent]
      constructor
      · rintro ⟨payload, _, _, ⟨bounded, -, rfl⟩, ⟨rfl, rfl⟩, rfl⟩
        rw [List.append_nil]
        exact ⟨rfl, bounded, rfl⟩
      · rintro ⟨sameKind, bounded, rfl⟩
        cases body with
        | cfrControl payload =>
            refine ⟨payload, _, _,
              ⟨bounded, Nat.lt_of_le_of_lt bounded (by decide), rfl⟩,
              ⟨rfl, rfl⟩, ?_⟩
            rw [List.append_nil]
            rfl
        | offer | answer | candidate | close => simp [Body.kind] at sameKind

/-- Skipping a body reads the same bytes as building it. -/
theorem skipBody_eq (kind : Kind) :
    skipBody kind = (do
      let _body ← readBody kind
      return ()) := by
  cases kind <;> simp [skipBody, readBody, Reader.bytes]

/-- The owning parser reads exactly the spellings of bounded envelopes. -/
theorem readFields_recognises :
    Recognises Addressable readFields
      (fun envelope tokens => envelope.body.WithinBounds ∧
        tokens = envelope.transcript ++ envelope.signatures) := by
  refine (readKind_recognises.bind fun kind =>
    (Reader.fixed_recognises 32).bind fun federation =>
    (Reader.fixed_recognises 16).bind fun attempt =>
    readIdentity_recognises.bind fun sender =>
    readIdentity_recognises.bind fun recipient =>
    (readBody_recognises kind).bind fun body =>
    (Recognises.lift body.validate).bind fun _ =>
    (Reader.fixed_recognises 64).bind fun classicalSignature =>
    (Reader.fixed_recognises mlDsa65SignatureBytes).bind
      fun postQuantumSignature =>
      Recognises.pure (Envelope.mk ⟨federation⟩ ⟨attempt⟩ sender recipient body
        classicalSignature postQuantumSignature)).congr ?_
  intro envelope tokens
  simp only [Grammar.andThen, Grammar.silent, Body.validate_eq_ok_iff]
  constructor
  · rintro ⟨kind, _, _, rfl, ⟨federation, _, _, rfl, ⟨attempt, _, _, rfl,
      ⟨sender, _, _, rfl, ⟨recipient, _, _, rfl, ⟨body, _, _,
      ⟨rfl, bounded, rfl⟩, ⟨_, _, _, ⟨-, rfl⟩, ⟨classicalSignature, _, _, rfl,
      ⟨postQuantumSignature, _, _, rfl, ⟨rfl, rfl⟩, rfl⟩, rfl⟩, rfl⟩, rfl⟩,
      rfl⟩, rfl⟩, rfl⟩, rfl⟩, rfl⟩
    refine ⟨bounded, ?_⟩
    simp only [transcript, signatures, kind, List.append_assoc,
      List.append_nil, List.nil_append]
  · rintro ⟨bounded, rfl⟩
    refine ⟨envelope.kind, _, _, rfl, ⟨envelope.federation.bytes, _, _, rfl,
      ⟨envelope.attempt.bytes, _, _, rfl, ⟨envelope.sender, _, _, rfl,
      ⟨envelope.recipient, _, _, rfl, ⟨envelope.body, _, _,
      ⟨rfl, bounded, rfl⟩, ⟨(), _, _, ⟨bounded, rfl⟩,
      ⟨envelope.classicalSignature, _, _, rfl,
      ⟨envelope.postQuantumSignature, _, _, rfl, ⟨rfl, rfl⟩, rfl⟩, rfl⟩, rfl⟩,
      rfl⟩, rfl⟩, rfl⟩, rfl⟩, rfl⟩, ?_⟩
    simp only [transcript, signatures, List.append_assoc, List.append_nil,
      List.nil_append]

/-- The borrowed parser reads exactly the transcripts of bounded envelopes and
returns their sender. -/
theorem skipSigned_recognises :
    Recognises Addressable skipSigned
      (fun sender tokens => ∃ envelope : Envelope,
        envelope.body.WithinBounds ∧ envelope.sender = sender ∧
          tokens = envelope.transcript) := by
  unfold skipSigned
  simp only [skipBody_eq, bind_assoc, pure_bind]
  refine (readKind_recognises.bind fun kind =>
    (Reader.fixed_recognises 32).bind fun federation =>
    (Reader.fixed_recognises 16).bind fun attempt =>
    readIdentity_recognises.bind fun sender =>
    readIdentity_recognises.bind fun recipient =>
    (readBody_recognises kind).bind fun body =>
      Recognises.pure sender).congr ?_
  intro sender tokens
  simp only [Grammar.andThen, Grammar.silent]
  constructor
  · rintro ⟨kind, _, _, rfl, ⟨federation, _, _, rfl, ⟨attempt, _, _, rfl,
      ⟨sender, _, _, rfl, ⟨recipient, _, _, rfl, ⟨body, _, _,
      ⟨rfl, bounded, rfl⟩, ⟨rfl, rfl⟩, rfl⟩, rfl⟩, rfl⟩, rfl⟩, rfl⟩, rfl⟩
    refine ⟨⟨⟨federation⟩, ⟨attempt⟩, sender, recipient, body,
      Vector.replicate 64 0, Vector.replicate mlDsa65SignatureBytes 0⟩,
      bounded, rfl, ?_⟩
    simp only [transcript, kind, List.append_assoc, List.append_nil]
  · rintro ⟨envelope, bounded, rfl, rfl⟩
    refine ⟨envelope.kind, _, _, rfl, ⟨envelope.federation.bytes, _, _, rfl,
      ⟨envelope.attempt.bytes, _, _, rfl, ⟨envelope.sender, _, _, rfl,
      ⟨envelope.recipient, _, _, rfl, ⟨envelope.body, _, _,
      ⟨rfl, bounded, rfl⟩, ⟨rfl, rfl⟩, rfl⟩, rfl⟩, rfl⟩, rfl⟩, rfl⟩, ?_⟩
    simp only [transcript, List.append_assoc, List.append_nil]

theorem readSignatures_recognises :
    Recognises Addressable readSignatures
      (fun signatures tokens =>
        tokens = signatures.1.toList ++ signatures.2.toList) := by
  refine ((Reader.fixed_recognises 64).bind fun classicalSignature =>
    (Reader.fixed_recognises mlDsa65SignatureBytes).bind
      fun postQuantumSignature =>
      Recognises.pure (classicalSignature, postQuantumSignature)).congr ?_
  intro signatures tokens
  simp only [Grammar.andThen, Grammar.silent]
  constructor
  · rintro ⟨classicalSignature, _, _, rfl, ⟨postQuantumSignature, _, _, rfl,
      ⟨rfl, rfl⟩, rfl⟩, rfl⟩
    rw [List.append_nil]
  · rintro rfl
    refine ⟨signatures.1, _, _, rfl, ⟨signatures.2, _, _, rfl, ⟨rfl, rfl⟩,
      rfl⟩, ?_⟩
    rw [List.append_nil]

end Envelope

end Core
end Fcp
