import Fcp.Core.Configuration

/-!
# Canonicity of the configuration wire format

The decoder's offset arithmetic cuts a wire exactly at the borders of the
fields the encoder wrote, so verified decoding is the inverse of encoding on
the snapshots that verify, and no slice lies outside the wire.
-/

namespace Fcp
namespace Core

open Rust
open Parsing

/-! ## Spellings -/

/-- The spelling of one member record. -/
def memberBytes (member : FederationMember) : List UInt8 :=
  member.cfrIdentity.toList ++ identityBytes member.endpoint

@[simp] theorem length_memberBytes (member : FederationMember) :
    (memberBytes member).length = memberWidth := by
  simp [memberBytes, memberWidth, identityWidth]

namespace FederationConfiguration

/-- Everything before the member records. -/
def header
    (federation : FederationId)
    (authority : EndpointIdentity)
    (epoch : UInt64)
    (count : Nat) : List UInt8 :=
  federationConfigMarker ++ [federationConfigVersion] ++
    federation.bytes.toList ++ identityBytes authority ++
    toBigEndian 8 epoch.toNat ++ toBigEndian 2 count

@[simp] theorem length_header
    (federation : FederationId)
    (authority : EndpointIdentity)
    (epoch : UInt64)
    (count : Nat) :
    (header federation authority epoch count).length = fixedHeaderBytes := by
  simp [header, federationConfigMarker, fixedHeaderBytes, identityWidth]
  omega

/-- The bytes covered by both signatures. -/
def transcript (configuration : FederationConfiguration) : List UInt8 :=
  header configuration.federation configuration.authority configuration.epoch
    configuration.members.length ++
  configuration.members.flatMap memberBytes

/-- The member bound and the uniqueness of both member keys. -/
structure WellFormed (configuration : FederationConfiguration) : Prop where
  bounded : configuration.members.length ≤ maxFederationMembers
  identities_nodup : (configuration.members.map (·.cfrIdentity)).Nodup
  endpoints_nodup : (configuration.members.map (·.endpoint)).Nodup

/-- Two members with different identities and endpoints are well formed. -/
theorem wellFormed_of_two
    {configuration : FederationConfiguration}
    {first second : FederationMember}
    (members_eq : configuration.members = [first, second])
    (identity_ne : first.cfrIdentity ≠ second.cfrIdentity)
    (endpoint_ne : first.endpoint ≠ second.endpoint) :
    configuration.WellFormed := by
  constructor
  case bounded => simp [members_eq, maxFederationMembers]
  case identities_nodup => simpa [members_eq] using identity_ne
  case endpoints_nodup => simpa [members_eq] using endpoint_ne

end FederationConfiguration

/-- Insertion succeeds exactly when no key is repeated or already known. -/
theorem insertMembers_eq_ok_iff
    {identities : List (Vector UInt8 32)}
    {endpoints : List EndpointIdentity}
    {members : List FederationMember}
    {result : Unit} :
    insertMembers identities endpoints members = .ok result ↔
      (members.map (·.cfrIdentity)).Nodup ∧
      (members.map (·.endpoint)).Nodup ∧
      ∀ member ∈ members,
        member.cfrIdentity ∉ identities ∧ member.endpoint ∉ endpoints := by
  induction members generalizing identities endpoints with
  | nil => simp [insertMembers]
  | cons member members inductionHypothesis =>
      simp only [insertMembers, bind_eq_ok_iff, rejectIf_eq_ok_iff,
        inductionHypothesis, List.map_cons, List.nodup_cons, List.mem_cons,
        List.mem_map, not_or, not_exists, not_and, forall_eq_or_imp]
      constructor
      · rintro ⟨_, ⟨freshIdentity, freshEndpoint⟩, identities_nodup,
          endpoints_nodup, fresh⟩
        refine ⟨⟨fun other present equal => (fresh other present).1.1 equal,
          identities_nodup⟩,
          ⟨fun other present equal => (fresh other present).2.1 equal,
          endpoints_nodup⟩, ⟨freshIdentity, freshEndpoint⟩, ?_⟩
        intro other present
        exact ⟨(fresh other present).1.2, (fresh other present).2.2⟩
      · rintro ⟨⟨newIdentity, identities_nodup⟩, ⟨newEndpoint, endpoints_nodup⟩,
          fresh, restFresh⟩
        refine ⟨(), fresh, identities_nodup, endpoints_nodup, ?_⟩
        intro other present
        exact ⟨⟨newIdentity other present, (restFresh other present).1⟩,
          ⟨newEndpoint other present, (restFresh other present).2⟩⟩

namespace FederationConfiguration

theorem validate_eq_ok_iff
    {configuration : FederationConfiguration}
    {result : Unit} :
    configuration.validate = .ok result ↔ configuration.WellFormed := by
  simp only [validate, bind_eq_ok_iff, rejectIf_eq_ok_iff, Nat.not_lt,
    insertMembers_eq_ok_iff, List.not_mem_nil, not_false_eq_true, and_self,
    implies_true, and_true]
  constructor
  · rintro ⟨_, bounded, identities_nodup, endpoints_nodup⟩
    exact ⟨bounded, identities_nodup, endpoints_nodup⟩
  · rintro ⟨bounded, identities_nodup, endpoints_nodup⟩
    exact ⟨(), bounded, identities_nodup, endpoints_nodup⟩

theorem new_eq_ok_iff
    {federation : FederationId}
    {authority : EndpointIdentity}
    {epoch : UInt64}
    {members : List FederationMember}
    {configuration : FederationConfiguration} :
    new federation authority epoch members = .ok configuration ↔
      configuration = ⟨federation, authority, epoch, members⟩ ∧
        configuration.WellFormed := by
  simp only [new, bind_eq_ok_iff, validate_eq_ok_iff, pure, Except.pure,
    Except.ok.injEq]
  constructor
  · rintro ⟨_, wellFormed, rfl⟩
    exact ⟨rfl, wellFormed⟩
  · rintro ⟨rfl, wellFormed⟩
    exact ⟨(), wellFormed, rfl⟩

/-- The member loop of the encoder appends the member records in order. -/
theorem foldl_members (members : List FederationMember) (bytes : List UInt8) :
    members.foldl
      (fun bytes member =>
        Configuration.writeIdentity (bytes ++ member.cfrIdentity.toList)
          member.endpoint)
      bytes =
    bytes ++ members.flatMap memberBytes := by
  induction members generalizing bytes with
  | nil => simp
  | cons member members inductionHypothesis =>
      rw [List.foldl_cons, inductionHypothesis, List.flatMap_cons]
      simp only [Configuration.writeIdentity, memberBytes, identityBytes,
        List.append_assoc]

theorem signedBytes_eq_ok_iff
    {configuration : FederationConfiguration}
    {bytes : List UInt8} :
    configuration.signedBytes = .ok bytes ↔
      configuration.WellFormed ∧ configuration.transcript = bytes := by
  simp only [signedBytes, bind_eq_ok_iff, rejectIf_eq_ok_iff,
    validate_eq_ok_iff, Decidable.not_not, pure, Except.pure, Except.ok.injEq,
    foldl_members]
  have same : federationConfigMarker ++ [federationConfigVersion] ++
      configuration.federation.bytes.toList ++
      identityBytes configuration.authority ++
      toBigEndian 8 configuration.epoch.toNat ++
      toBigEndian 2 configuration.members.length ++
      configuration.members.flatMap memberBytes = configuration.transcript := rfl
  constructor
  · rintro ⟨_, wellFormed, _, -, rfl⟩
    refine ⟨wellFormed, ?_⟩
    rw [← same]
    simp only [Configuration.writeIdentity, identityBytes, List.append_assoc]
  · rintro ⟨wellFormed, rfl⟩
    have small : configuration.members.length < 2 ^ 16 :=
      Nat.lt_of_le_of_lt wellFormed.bounded (by decide)
    refine ⟨(), wellFormed, (), small, ?_⟩
    rw [← same]
    simp only [Configuration.writeIdentity, identityBytes, List.append_assoc]

end FederationConfiguration

/-! ## Identities and members -/

namespace Configuration

theorem readIdentity_eq_ok_iff
    {bytes : List UInt8}
    {identity : EndpointIdentity} :
    readIdentity bytes = .ok identity ↔ bytes = identityBytes identity := by
  simp only [readIdentity, bind_eq_ok_iff, rejectIf_eq_ok_iff, okOr_eq_ok_iff,
    slice_eq_ok_iff, tryInto_eq_some_iff, Decidable.not_not, pure, Except.pure,
    Except.ok.injEq]
  constructor
  · rintro ⟨_, length, _, ⟨-, -, rfl⟩, classical, classical_eq, _,
      ⟨inside, -, rfl⟩, postQuantum, postQuantum_eq, rfl⟩
    rw [identityBytes, ← classical_eq, ← postQuantum_eq,
      extract_append_extract bytes (Nat.zero_le 32) inside,
      extract_zero_length]
  · rintro rfl
    have length := length_identityBytes identity
    refine ⟨(), length, _, ⟨by decide, by omega, rfl⟩, identity.classical.bytes,
      ?_, _, ⟨by omega, Nat.le_refl _, rfl⟩, identity.postQuantum, ?_, rfl⟩
    · exact extract_first rfl (by simp)
    · exact extract_last rfl (by simp) (by simp [identityBytes])

theorem readIdentity_ne_panic (bytes : List UInt8) :
    readIdentity bytes ≠ .error .panic := by
  intro failed
  simp only [readIdentity, bind_eq_error_iff, rejectIf_eq_error_iff,
    rejectIf_eq_ok_iff, Decidable.not_not, reduceCtorEq, and_false,
    false_or] at failed
  obtain ⟨_, length, failed⟩ := failed
  rw [slice_of_bounds (by decide) (by rw [length]; decide),
    slice_of_bounds (by rw [length]; decide) (Nat.le_refl _)] at failed
  simp [okOr_eq_error_iff, pure, Except.pure] at failed

theorem parseMember_eq_ok_iff
    {bytes : List UInt8}
    {member : FederationMember} :
    parseMember bytes = .ok member ↔ bytes = memberBytes member := by
  simp only [parseMember, bind_eq_ok_iff, rejectIf_eq_ok_iff, okOr_eq_ok_iff,
    slice_eq_ok_iff, tryInto_eq_some_iff, readIdentity_eq_ok_iff,
    Decidable.not_not, pure, Except.pure, Except.ok.injEq]
  constructor
  · rintro ⟨_, length, _, ⟨-, -, rfl⟩, cfrIdentity, cfrIdentity_eq, _,
      ⟨inside, -, rfl⟩, endpoint, endpoint_eq, rfl⟩
    rw [memberBytes, ← cfrIdentity_eq, ← endpoint_eq,
      extract_append_extract bytes (Nat.zero_le 32) inside,
      extract_zero_length]
  · rintro rfl
    have length := length_memberBytes member
    have wide : 32 ≤ memberWidth := by decide
    refine ⟨(), length, _, ⟨by decide, by omega, rfl⟩, member.cfrIdentity,
      ?_, _, ⟨by omega, Nat.le_refl _, rfl⟩, member.endpoint, ?_, rfl⟩
    · exact extract_first rfl (by simp)
    · exact extract_last rfl (by simp) (by simp [memberBytes])

theorem parseMember_ne_panic (bytes : List UInt8) :
    parseMember bytes ≠ .error .panic := by
  intro failed
  simp only [parseMember, bind_eq_error_iff, rejectIf_eq_error_iff,
    rejectIf_eq_ok_iff, Decidable.not_not, reduceCtorEq, and_false,
    false_or] at failed
  obtain ⟨_, length, failed⟩ := failed
  rw [slice_of_bounds (by decide) (by rw [length]; decide),
    slice_of_bounds (by rw [length]; decide) (Nat.le_refl _)] at failed
  simp [okOr_eq_error_iff, readIdentity_ne_panic, pure, Except.pure] at failed

/-- Splitting a member block and parsing each record recovers exactly the
members that spell it. -/
theorem mapM_parseMember_eq_ok_iff
    {count : Nat}
    {bytes : List UInt8}
    {members : List FederationMember}
    (length : bytes.length = count * memberWidth) :
    (chunksExact memberWidth bytes).mapM parseMember = .ok members ↔
      members.length = count ∧ bytes = members.flatMap memberBytes := by
  induction count generalizing bytes members with
  | zero =>
      rw [Nat.zero_mul] at length
      obtain rfl := List.length_eq_zero_iff.mp length
      rw [chunksExact_nil, List.mapM_nil]
      constructor
      · intro returned
        obtain rfl : [] = members := by
          simpa [pure, Except.pure] using returned
        exact ⟨rfl, rfl⟩
      · rintro ⟨empty, -⟩
        rw [List.length_eq_zero_iff.mp empty]
        rfl
  | succ count inductionHypothesis =>
      have blockLength : (bytes.take memberWidth).length = memberWidth := by
        rw [List.length_take, length, Nat.succ_mul]
        omega
      have restLength : (bytes.drop memberWidth).length = count * memberWidth := by
        rw [List.length_drop, length, Nat.succ_mul]
        omega
      have chunks := chunksExact_append (by decide : 0 < memberWidth)
        blockLength (bytes.drop memberWidth)
      rw [List.take_append_drop] at chunks
      rw [chunks, List.mapM_cons]
      simp only [bind_eq_ok_iff, parseMember_eq_ok_iff,
        inductionHypothesis restLength, pure, Except.pure, Except.ok.injEq]
      constructor
      · rintro ⟨member, member_eq, others, ⟨othersLength, others_eq⟩, rfl⟩
        refine ⟨by rw [List.length_cons, othersLength], ?_⟩
        rw [List.flatMap_cons, ← member_eq, ← others_eq,
          List.take_append_drop]
      · rintro ⟨membersLength, rfl⟩
        cases members with
        | nil => simp at membersLength
        | cons member others =>
            have width := length_memberBytes member
            rw [List.flatMap_cons]
            exact ⟨member, List.take_left' width, others,
              ⟨by simpa using membersLength, List.drop_left' width⟩, rfl⟩

theorem mapM_parseMember_ne_panic (blocks : List (List UInt8)) :
    blocks.mapM parseMember ≠ .error .panic := by
  induction blocks with
  | nil => simp [pure, Except.pure]
  | cons block blocks inductionHypothesis =>
      intro failed
      rw [List.mapM_cons] at failed
      simp [bind_eq_error_iff, parseMember_ne_panic, inductionHypothesis, pure,
        Except.pure] at failed

/-! ## The header -/

theorem fixedHeaderBytes_eq :
    37 + identityWidth + 8 + 2 = fixedHeaderBytes := by
  unfold fixedHeaderBytes
  omega

/-- The six header slices of a wire spell the header exactly when each of them
spells its own field. -/
theorem headerSlices_iff
    {wire : List UInt8}
    (federation : FederationId)
    (authority : EndpointIdentity)
    (epoch : UInt64)
    (count : Nat) :
    wire.extract 0 fixedHeaderBytes =
        FederationConfiguration.header federation authority epoch count ↔
      wire.extract 0 4 = federationConfigMarker ∧
      wire.extract 4 (4 + 1) = [federationConfigVersion] ∧
      wire.extract 5 37 = federation.bytes.toList ∧
      wire.extract 37 (37 + identityWidth) = identityBytes authority ∧
      wire.extract (37 + identityWidth) (37 + identityWidth + 8) =
        toBigEndian 8 epoch.toNat ∧
      wire.extract (37 + identityWidth + 8) (37 + identityWidth + 8 + 2) =
        toBigEndian 2 count := by
  have joined := extract_append_extract wire
    (Nat.zero_le (37 + identityWidth + 8)) (Nat.le_add_right _ 2)
  rw [← extract_append_extract wire (Nat.zero_le (37 + identityWidth))
      (Nat.le_add_right _ 8),
    ← extract_append_extract wire (Nat.zero_le 37) (Nat.le_add_right 37 _),
    ← extract_append_extract wire (Nat.zero_le 5) (by decide : 5 ≤ 37),
    ← extract_append_extract wire (Nat.zero_le 4) (by decide : 4 ≤ 4 + 1),
    fixedHeaderBytes_eq] at joined
  constructor
  · intro header_eq
    have long : fixedHeaderBytes ≤ wire.length := by
      have length := congrArg List.length header_eq
      rw [FederationConfiguration.length_header,
        List.extract_eq_take_drop, List.length_take, List.length_drop] at length
      omega
    rw [← fixedHeaderBytes_eq] at long
    rw [header_eq, FederationConfiguration.header,
      ← fixedHeaderBytes_eq] at joined
    obtain ⟨joined, count_eq⟩ := List.append_inj' joined (by
      rw [length_extract_of_le long, length_toBigEndian]
      omega)
    obtain ⟨joined, epoch_eq⟩ := List.append_inj' joined (by
      rw [length_extract_of_le (by omega), length_toBigEndian]
      omega)
    obtain ⟨joined, authority_eq⟩ := List.append_inj' joined (by
      rw [length_extract_of_le (by omega), length_identityBytes,
        Nat.add_sub_cancel_left, identityWidth])
    obtain ⟨joined, federation_eq⟩ := List.append_inj' joined (by
      rw [length_extract_of_le (by omega), Vector.length_toList])
    obtain ⟨marker_eq, version_eq⟩ := List.append_inj' joined (by
      rw [length_extract_of_le (by omega)]
      rfl)
    exact ⟨marker_eq, version_eq, federation_eq, authority_eq, epoch_eq,
      count_eq⟩
  · rintro ⟨marker_eq, version_eq, federation_eq, authority_eq, epoch_eq,
      count_eq⟩
    rw [← joined, marker_eq, version_eq, federation_eq, authority_eq, epoch_eq,
      ← fixedHeaderBytes_eq, count_eq]
    rfl

/-- The layout that the header parser accepts. -/
structure Layout (wire : List UInt8) (parsed : ParsedConfiguration) where
  count : Nat
  count_le : count ≤ maxFederationMembers
  length_wire : wire.length =
    fixedHeaderBytes + count * memberWidth + signatureBytes
  header_eq : wire.extract 0 fixedHeaderBytes =
    FederationConfiguration.header parsed.federation parsed.authority
      parsed.epoch count
  offset_eq : parsed.signatureOffset = fixedHeaderBytes + count * memberWidth
  members_eq : wire.extract fixedHeaderBytes parsed.signatureOffset =
    parsed.memberBytes

/-- The header parser accepts exactly the wires with the expected layout. -/
theorem parseWire_eq_ok_iff
    {wire : List UInt8}
    {parsed : ParsedConfiguration} :
    parseWire wire = .ok parsed ↔ Nonempty (Layout wire parsed) := by
  simp only [parseWire, bind_eq_ok_iff, rejectIf_eq_ok_iff, okOr_eq_ok_iff,
    slice_eq_ok_iff, index_eq_ok_iff, tryInto_eq_some_iff,
    readIdentity_eq_ok_iff, checkedAdd_eq_some_iff, checkedMul_eq_some_iff,
    Decidable.not_not, Nat.not_lt, pure, Except.pure, Except.ok.injEq]
  constructor
  · rintro ⟨_, -, _, ⟨-, -, rfl⟩, _, marker_eq, version, versionByte, _,
      rfl, _, ⟨-, -, rfl⟩, federation, federation_eq, _, ⟨-, -, rfl⟩,
      authority, authority_eq, _, ⟨-, -, rfl⟩, epoch, epoch_eq, _,
      ⟨-, -, rfl⟩, count, count_eq, _, count_le, _, ⟨-, rfl⟩, _, ⟨-, rfl⟩, _,
      ⟨-, rfl⟩, _, notShorter, _, notLonger, _, ⟨-, -, rfl⟩, rfl⟩
    have epochSpelled := toBigEndian_ofBigEndian epoch.toList
    have epochBound := ofBigEndian_lt epoch.toList
    have countSpelled := toBigEndian_ofBigEndian count.toList
    rw [epoch.length_toList] at epochSpelled epochBound
    rw [count.length_toList] at countSpelled
    refine ⟨
      { count := ofBigEndian count.toList
        count_le := count_le
        length_wire := Nat.le_antisymm notLonger notShorter
        header_eq := ?_
        offset_eq := rfl
        members_eq := by dsimp only }⟩
    rw [headerSlices_iff]
    refine ⟨marker_eq, versionByte, federation_eq, authority_eq, ?_, ?_⟩
    · rw [epoch_eq, UInt64.toNat_ofNat_of_lt' epochBound, epochSpelled]
    · rw [count_eq, countSpelled]
  · rintro ⟨layout⟩
    obtain ⟨federation, authority, epoch, members, signatureOffset⟩ := parsed
    obtain ⟨count, count_le, length_wire, header_eq, offset_eq, members_eq⟩ :=
      layout
    dsimp only at header_eq offset_eq members_eq
    subst offset_eq members_eq
    obtain ⟨marker_eq, version_eq, federation_eq, authority_eq, epoch_eq,
      count_eq⟩ := (headerSlices_iff _ _ _ _).mp header_eq
    obtain ⟨epochArray, epochArray_eq⟩ :=
      exists_array (length_toBigEndian 8 epoch.toNat)
    obtain ⟨countArray, countArray_eq⟩ :=
      exists_array (length_toBigEndian 2 count)
    have epochValue : UInt64.ofNat (ofBigEndian epochArray.toList) = epoch := by
      rw [epochArray_eq, ofBigEndian_toBigEndian]
      have bound : epoch.toNat < 256 ^ 8 := epoch.toNat_lt
      rw [Nat.mod_eq_of_lt bound, UInt64.ofNat_toNat]
    have countValue : ofBigEndian countArray.toList = count := by
      rw [countArray_eq, ofBigEndian_toBigEndian]
      exact Nat.mod_eq_of_lt (Nat.lt_of_le_of_lt count_le (by decide))
    have scaled : count * memberWidth ≤ maxFederationMembers * memberWidth :=
      Nat.mul_le_mul_right memberWidth count_le
    have limit : fixedHeaderBytes + maxFederationMembers * memberWidth +
        signatureBytes < 2 ^ 64 := by decide
    have headerEnd := fixedHeaderBytes_eq
    refine ⟨(), by omega, _, ⟨by decide, by omega, rfl⟩, (), marker_eq,
      federationConfigVersion, version_eq, (), rfl, _,
      ⟨by decide, by omega, rfl⟩, federation.bytes, federation_eq, _,
      ⟨by omega, by omega, rfl⟩, authority, authority_eq, _,
      ⟨by omega, by omega, rfl⟩, epochArray, epoch_eq.trans epochArray_eq.symm,
      _, ⟨by omega, by omega, rfl⟩, countArray,
      count_eq.trans countArray_eq.symm, ?_⟩
    rw [countValue, epochValue]
    exact ⟨(), count_le, _, ⟨by omega, rfl⟩, _, ⟨by omega, rfl⟩, _,
      ⟨by omega, rfl⟩, (), by omega, (), by omega, _,
      ⟨by omega, by omega, rfl⟩, rfl⟩

/-- The header parser never slices outside the wire. -/
theorem parseWire_ne_panic (wire : List UInt8) :
    parseWire wire ≠ .error .panic := by
  intro failed
  simp only [parseWire, bind_eq_error_iff, rejectIf_eq_error_iff,
    okOr_eq_error_iff, readIdentity_ne_panic, reduceCtorEq, and_false,
    false_or, rejectIf_eq_ok_iff, Nat.not_lt, pure, Except.pure, exists_false,
    or_false, slice_eq_error_iff, and_true] at failed
  obtain ⟨_, long, failed⟩ := failed
  have headerEnd := fixedHeaderBytes_eq
  have positive : 0 < signatureBytes := by decide
  rcases failed with outside | ⟨_, -, _, -, failed⟩
  · omega
  rcases failed with outside | ⟨_, -, _, -, failed⟩
  · exact index_ne_panic (by omega) outside
  rcases failed with outside | ⟨_, -, _, -, failed⟩
  · omega
  rcases failed with outside | ⟨_, -, _, -, failed⟩
  · omega
  rcases failed with outside | ⟨_, -, _, -, failed⟩
  · omega
  rcases failed with outside | ⟨_, -, _, -, failed⟩
  · omega
  obtain ⟨_, -, members, -, offset, offset_eq, expected, expected_eq, _,
    notShorter, _, -, outside⟩ := failed
  rw [okOr_eq_ok_iff, checkedAdd_eq_some_iff] at offset_eq expected_eq
  omega

end Configuration

namespace SignedFederationConfiguration

open Fcp.Core.Configuration

/-- Both signatures as they follow the transcript. -/
def signatures (signed : SignedFederationConfiguration) : List UInt8 :=
  signed.classicalSignature.toList ++ signed.postQuantumSignature.toList

theorem encode_eq_ok_iff
    {signed : SignedFederationConfiguration}
    {wire : List UInt8} :
    signed.encode = .ok wire ↔
      signed.configuration.WellFormed ∧
        signed.configuration.transcript ++ signed.signatures = wire := by
  simp only [encode, bind_eq_ok_iff,
    FederationConfiguration.signedBytes_eq_ok_iff, pure, Except.pure,
    Except.ok.injEq, List.append_assoc]
  constructor
  · rintro ⟨_, ⟨wellFormed, rfl⟩, rfl⟩
    exact ⟨wellFormed, rfl⟩
  · rintro ⟨wellFormed, rfl⟩
    exact ⟨_, ⟨wellFormed, rfl⟩, rfl⟩

theorem verify_eq_ok_iff
    {primitives : Primitives}
    {signed : SignedFederationConfiguration} :
    signed.verify primitives = .ok () ↔
      signed.configuration.WellFormed ∧
        signed.configuration.authority.Authenticates primitives
          signed.configuration.transcript signed.classicalSignature
          signed.postQuantumSignature := by
  simp only [verify, bind_eq_ok_iff,
    FederationConfiguration.signedBytes_eq_ok_iff, mapError_eq_ok_iff,
    EndpointIdentity.Authenticates]
  constructor
  · rintro ⟨_, ⟨wellFormed, rfl⟩, _, classical, postQuantum⟩
    exact ⟨wellFormed, classical, postQuantum⟩
  · rintro ⟨wellFormed, classical, postQuantum⟩
    exact ⟨_, ⟨wellFormed, rfl⟩, (), classical, postQuantum⟩

theorem sign_eq_ok_iff
    {configuration : FederationConfiguration}
    {signer : EndpointSigner}
    {signed : SignedFederationConfiguration} :
    sign configuration signer = .ok signed ↔
      configuration.WellFormed ∧ configuration.authority = signer.endpoint ∧
        signed = {
          configuration := configuration
          classicalSignature := signer.signClassical configuration.transcript
          postQuantumSignature :=
            signer.signPostQuantum configuration.transcript } := by
  simp only [sign, bind_eq_ok_iff, rejectIf_eq_ok_iff, Decidable.not_not,
    FederationConfiguration.signedBytes_eq_ok_iff, pure, Except.pure,
    Except.ok.injEq]
  constructor
  · rintro ⟨_, authority_eq, _, ⟨wellFormed, rfl⟩, rfl⟩
    exact ⟨wellFormed, authority_eq, rfl⟩
  · rintro ⟨wellFormed, authority_eq, rfl⟩
    exact ⟨(), authority_eq, _, ⟨wellFormed, rfl⟩, rfl⟩

/-- A snapshot signed by an honest authority verifies. -/
theorem verify_of_sign_eq_ok
    {primitives : Primitives}
    {configuration : FederationConfiguration}
    {signer : EndpointSigner}
    {signed : SignedFederationConfiguration}
    (honest : signer.Honest primitives)
    (made : sign configuration signer = .ok signed) :
    signed.verify primitives = .ok () := by
  obtain ⟨wellFormed, authority_eq, rfl⟩ := sign_eq_ok_iff.mp made
  apply verify_eq_ok_iff.mpr
  refine ⟨wellFormed, ?_⟩
  change configuration.authority.Authenticates primitives _ _ _
  rw [authority_eq]
  exact honest configuration.transcript

/-- The header fields and the member block of an encoded snapshot. -/
def parsedOf (signed : SignedFederationConfiguration) : ParsedConfiguration where
  federation := signed.configuration.federation
  authority := signed.configuration.authority
  epoch := signed.configuration.epoch
  memberBytes := signed.configuration.members.flatMap memberBytes
  signatureOffset := signed.configuration.transcript.length

theorem length_flatMap_memberBytes (members : List FederationMember) :
    (members.flatMap memberBytes).length = members.length * memberWidth := by
  induction members with
  | nil => simp
  | cons member members inductionHypothesis =>
      rw [List.flatMap_cons, List.length_append, inductionHypothesis,
        length_memberBytes, List.length_cons, Nat.succ_mul, Nat.add_comm]

theorem length_transcript (configuration : FederationConfiguration) :
    configuration.transcript.length =
      fixedHeaderBytes + configuration.members.length * memberWidth := by
  rw [FederationConfiguration.transcript, List.length_append,
    FederationConfiguration.length_header, length_flatMap_memberBytes]

theorem length_signatures (signed : SignedFederationConfiguration) :
    signed.signatures.length = signatureBytes := by
  simp [signatures, signatureBytes]

/-- The header parser finds the fields of every encoded snapshot. -/
theorem parseWire_of_encode
    {signed : SignedFederationConfiguration}
    {wire : List UInt8}
    (encoded : signed.encode = .ok wire) :
    parseWire wire = .ok signed.parsedOf := by
  obtain ⟨wellFormed, rfl⟩ := encode_eq_ok_iff.mp encoded
  have transcriptLength := length_transcript signed.configuration
  refine parseWire_eq_ok_iff.mpr ⟨
    { count := signed.configuration.members.length
      count_le := wellFormed.bounded
      length_wire := ?_
      header_eq := ?_
      offset_eq := transcriptLength
      members_eq := ?_ }⟩
  · rw [List.length_append, transcriptLength, length_signatures]
  · exact extract_first (by
      rw [FederationConfiguration.transcript, List.append_assoc]
      rfl) (by simp [parsedOf])
  · exact extract_middle (by
      rw [FederationConfiguration.transcript, List.append_assoc]
      rfl) (by simp) (by
        rw [parsedOf, transcriptLength, length_flatMap_memberBytes])

/-- Verified decoding inverts encoding on exactly the snapshots that verify. -/
theorem decodeVerified_eq_ok_iff
    (primitives : Primitives)
    (wire : List UInt8)
    (signed : SignedFederationConfiguration) :
    decodeVerified primitives wire = .ok signed ↔
      signed.encode = .ok wire ∧ signed.verify primitives = .ok () := by
  rw [verify_eq_ok_iff]
  simp only [decodeVerified, bind_eq_ok_iff, okOr_eq_ok_iff, slice_eq_ok_iff,
    tryInto_eq_some_iff, orFault_eq_ok_iff, mapError_eq_ok_iff,
    FederationConfiguration.new_eq_ok_iff, pure, Except.pure, Except.ok.injEq]
  constructor
  · rintro ⟨parsed, header, _, ⟨-, classicalInside, rfl⟩, classicalSignature,
      classical_eq, _, ⟨-, -, rfl⟩, postQuantumSignature, postQuantum_eq, _,
      ⟨-, inside, rfl⟩, _, classical, _, ⟨-, -, rfl⟩, _, postQuantum, members,
      parsedMembers, _, ⟨rfl, wellFormed⟩, rfl⟩
    obtain ⟨layout⟩ := parseWire_eq_ok_iff.mp header
    have blockLength : parsed.memberBytes.length =
        layout.count * memberWidth := by
      rw [← layout.members_eq, length_extract_of_le inside, layout.offset_eq,
        Nat.add_sub_cancel_left]
    obtain ⟨count_eq, block_eq⟩ :=
      (mapM_parseMember_eq_ok_iff blockLength).mp parsedMembers
    have headerInside : fixedHeaderBytes ≤ parsed.signatureOffset := by
      rw [layout.offset_eq]
      exact Nat.le_add_right _ _
    have transcript_eq : wire.extract 0 parsed.signatureOffset =
        FederationConfiguration.transcript
          ⟨parsed.federation, parsed.authority, parsed.epoch, members⟩ := by
      rw [← extract_append_extract wire (Nat.zero_le fixedHeaderBytes)
        headerInside, layout.header_eq, layout.members_eq, block_eq, ← count_eq]
      rfl
    rw [transcript_eq] at classical postQuantum
    refine ⟨encode_eq_ok_iff.mpr ⟨wellFormed, ?_⟩, wellFormed, classical,
      postQuantum⟩
    rw [signatures, ← transcript_eq, ← classical_eq, ← postQuantum_eq,
      extract_append_extract wire (Nat.le_add_right _ 64) classicalInside,
      extract_append_extract wire (Nat.zero_le _) inside, extract_zero_length]
  · rintro ⟨encoded, wellFormed, classical, postQuantum⟩
    have header := parseWire_of_encode encoded
    obtain ⟨-, rfl⟩ := encode_eq_ok_iff.mp encoded
    have signaturesLength := length_signatures signed
    have wireLength : (signed.configuration.transcript ++
        signed.signatures).length =
          signed.configuration.transcript.length + signatureBytes := by
      rw [List.length_append, signaturesLength]
    have wide : 64 ≤ signatureBytes := by decide
    have transcript_eq : (signed.configuration.transcript ++
        signed.signatures).extract 0 signed.configuration.transcript.length =
          signed.configuration.transcript :=
      extract_first rfl rfl
    have offset_eq : signed.parsedOf.signatureOffset =
        signed.configuration.transcript.length := rfl
    refine ⟨signed.parsedOf, header, _, ⟨Nat.le_add_right _ 64, by omega, rfl⟩,
      signed.classicalSignature, ?_, _, ⟨by omega, Nat.le_refl _, rfl⟩,
      signed.postQuantumSignature, ?_, _, ⟨Nat.zero_le _, by omega, rfl⟩, (),
      ?_, _, ⟨Nat.zero_le _, by omega, rfl⟩, (), ?_,
      signed.configuration.members, ?_, _, ⟨rfl, wellFormed⟩, rfl⟩
    · exact extract_middle rfl rfl (by simp [offset_eq])
    · exact extract_last (List.append_assoc _ _ _).symm (by simp [offset_eq])
        (by rw [offset_eq, wireLength]; simp [signatureBytes]; omega)
    · rw [offset_eq, transcript_eq]
      exact classical
    · rw [offset_eq, transcript_eq]
      exact postQuantum
    · exact (mapM_parseMember_eq_ok_iff
        (length_flatMap_memberBytes signed.configuration.members)).mpr
          ⟨rfl, rfl⟩

/-- Verified decoding never slices outside the wire. -/
theorem decodeVerified_ne_panic (primitives : Primitives) (wire : List UInt8) :
    decodeVerified primitives wire ≠ .error .panic := by
  intro failed
  simp only [decodeVerified, bind_eq_error_iff, okOr_eq_error_iff,
    slice_eq_error_iff, parseWire_ne_panic, orFault_ne_panic,
    mapM_parseMember_ne_panic, reduceCtorEq, and_false, false_or, and_true,
    pure, Except.pure, exists_false, or_false] at failed
  obtain ⟨parsed, header, failed⟩ := failed
  obtain ⟨layout⟩ := parseWire_eq_ok_iff.mp header
  have length_wire := layout.length_wire
  have offset_eq := layout.offset_eq
  have wide : 64 ≤ signatureBytes := by decide
  rcases failed with outside | ⟨_, -, _, -, failed⟩
  · omega
  rcases failed with outside | ⟨_, -, _, -, failed⟩
  · omega
  rcases failed with outside | ⟨_, -, _, -, outside⟩
  · omega
  · omega

/-- Verified decoding accepts exactly the encodings of snapshots that verify.
Accepted snapshots respect the member bound with distinct identities and
distinct endpoints, re-encode to the accepted wire, and no wire makes the
decoder index outside it. -/
theorem verified_snapshot_canonical
    (primitives : Primitives)
    (wire : List UInt8) :
    (∀ signed,
      decodeVerified primitives wire = .ok signed ↔
        signed.encode = .ok wire ∧ signed.verify primitives = .ok ()) ∧
    (∀ signed, decodeVerified primitives wire = .ok signed →
      signed.configuration.members.length ≤ 1024 ∧
      (signed.configuration.members.map (·.cfrIdentity)).Nodup ∧
      (signed.configuration.members.map (·.endpoint)).Nodup ∧
      signed.encode = .ok wire) ∧
    decodeVerified primitives wire ≠ .error .panic := by
  refine ⟨decodeVerified_eq_ok_iff primitives wire, ?_,
    decodeVerified_ne_panic primitives wire⟩
  intro signed decoded
  obtain ⟨encoded, verified⟩ :=
    (decodeVerified_eq_ok_iff primitives wire signed).mp decoded
  obtain ⟨wellFormed, -⟩ := verify_eq_ok_iff.mp verified
  exact ⟨wellFormed.bounded, wellFormed.identities_nodup,
    wellFormed.endpoints_nodup, encoded⟩

end SignedFederationConfiguration

end Core
end Fcp
