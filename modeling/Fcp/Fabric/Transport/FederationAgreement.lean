import Fcp.Fabric.Transport.FederationAdmission

/-!
# What an admission decides

The policy of a peer is found through the oldest key document that can be read,
and the freshness of a delivery is decided twice: by the policy, which allows
for the skew of clocks, and by the ledger of requests, which does not.
-/

namespace Fcp
namespace Fabric
namespace Transport

open Rust
open Sql
open Sql.Transaction
open Reactive
open Core (EndpointIdentity)

/-! ## Pinned identities -/

/-- The identity of the oldest current document that can be read. -/
def oldestIdentity
    (libraries : FederationLibraries)
    (store : Store)
    (now : OffsetDateTime)
    (peer : FederationPeerRow) : Option EndpointIdentity :=
  (store.oldestFirst now peer).findSome? fun row =>
    libraries.parsePinnedIdentity row.material

section Resolution

variable {environment : Environment}
variable {libraries : FederationLibraries}
variable {draw : Draw}
variable {store : Store}
variable {tenant : TenantRow}
variable {peer : FederationPeerRow}
variable {pinned : Vector UInt8 32}

/-- The documents of the peer that describe an identity. -/
def Describes
    (libraries : FederationLibraries)
    (row : FederationKeyRow)
    (identity : EndpointIdentity) : Prop :=
  libraries.parsePinnedIdentity row.material = some identity

/-- A current document describes an identity of the pinned fingerprint. -/
def HasPinned
    (libraries : FederationLibraries)
    (keys : List FederationKeyRow)
    (pinned : Vector UInt8 32) : Prop :=
  ∃ row ∈ keys, ∃ identity, Describes libraries row identity ∧
    libraries.identityFingerprint identity = pinned

/-- The material of a stored peer. -/
theorem federationPeerMaterial_eq
    {now : OffsetDateTime}
    (tenant_mem : tenant ∈ store.tenants.rows)
    (peer_mem : peer ∈ store.federationPeers.rows)
    (peer_tenant : peer.tenantId = tenant.id) :
    store.federationPeerMaterial now tenant.canonicalDomain peer.remoteDomain =
      some
        { tenantId := peer.tenantId
          peerId := peer.id
          trustState := peer.trustState
          expectedKeyFingerprint := peer.expectedKeyFingerprint
          keys := (store.oldestFirst now peer).map FederationKeyRow.material } := by
  have peer_found :
      (store.federationPeers.find? fun row =>
        row.tenantId = tenant.id ∧ row.remoteDomain = peer.remoteDomain) =
          some peer := by
    refine Table.find?_of_mem ?_ peer_mem (decide_eq_true ⟨peer_tenant, rfl⟩)
    intro first second first_selected second_selected
    obtain ⟨first_tenant, first_domain⟩ := of_decide_eq_true first_selected
    obtain ⟨second_tenant, second_domain⟩ := of_decide_eq_true second_selected
    exact fun apart => apart.2 (Prod.ext
      (first_tenant.trans second_tenant.symm)
      (first_domain.trans second_domain.symm))
  simp only [Store.federationPeerMaterial, Store.find?_canonicalDomain tenant_mem, peer_found,
    Option.bind_eq_bind, Option.bind_some]
  rfl

/-- The resolver answers with what it makes of the material that it reads. -/
theorem result_resolve
    {localDomain remoteDomain : DomainName} :
    (alone environment draw
      (PostgresFederationPeerPolicyResolver.resolve libraries localDomain
        remoteDomain).run store).result =
      some (Admission.resolved libraries localDomain remoteDomain
        (store.federationPeerMaterial draw.generated.now localDomain
          remoteDomain)) := by
  have read : respond environment store draw
      (.store (.federationPeerMaterial localDomain remoteDomain)) =
      (.ok (store.federationPeerMaterial draw.generated.now localDomain
        remoteDomain), store) := rfl
  rw [alone, Admission.resolve_eq,
    Program.execute_perform (congrArg some read)]
  rfl

/-- The resolver looks at the oldest identity alone. -/
theorem result_resolve_peer
    (tenant_mem : tenant ∈ store.tenants.rows)
    (peer_mem : peer ∈ store.federationPeers.rows)
    (peer_tenant : peer.tenantId = tenant.id)
    (pin : peer.expectedKeyFingerprint = pinned.toList) :
    (alone environment draw
      (PostgresFederationPeerPolicyResolver.resolve libraries
        tenant.canonicalDomain peer.remoteDomain).run store).result =
      some (.ok
        (((oldestIdentity libraries store draw.generated.now peer).filter
          fun identity =>
            libraries.identityFingerprint identity = pinned).map fun identity =>
          { tenantId := peer.tenantId
            peerId := peer.id
            policy :=
              { localDomain := tenant.canonicalDomain
                remoteDomain := peer.remoteDomain
                trustState := peer.trustState
                activeAuthorityIdentity := identity } })) := by
  have pin_read : tryInto 32 peer.expectedKeyFingerprint = some pinned :=
    tryInto_eq_some_iff.mpr pin
  rw [result_resolve, federationPeerMaterial_eq tenant_mem peer_mem peer_tenant]
  simp only [Admission.resolved, ResolvedFederationPeer.fromMaterial, pin_read,
    okOr, bind, Except.bind, List.findSome?_map]
  have composed : (store.oldestFirst draw.generated.now peer).findSome?
      (libraries.parsePinnedIdentity ∘ FederationKeyRow.material) =
        oldestIdentity libraries store draw.generated.now peer :=
    rfl
  rw [composed]
  cases (oldestIdentity libraries store draw.generated.now peer).filter
      fun identity => libraries.identityFingerprint identity = pinned with
  | none => rfl
  | some identity => rfl

/-- The resolver returns a policy exactly if a current document describes the
pinned identity, and then the policy is for that identity. -/
def ResolvesExactly
    (environment : Environment)
    (libraries : FederationLibraries)
    (draw : Draw)
    (store : Store)
    (tenant : TenantRow)
    (peer : FederationPeerRow)
    (pinned : Vector UInt8 32) : Prop :=
  let keys := store.currentKeys draw.generated.now peer
  ∃ result, (alone environment draw
      (PostgresFederationPeerPolicyResolver.resolve libraries
        tenant.canonicalDomain peer.remoteDomain).run store).result =
        some (.ok result) ∧
    (result.isSome = true ↔ HasPinned libraries keys pinned) ∧
    ∀ found, result = some found → ∀ row ∈ keys, ∀ identity,
      Describes libraries row identity →
        libraries.identityFingerprint identity = pinned →
          found.policy.activeAuthorityIdentity = identity

/-- If any current document describes the pinned identity, then the oldest one
that can be read does. -/
def OldestPinned
    (libraries : FederationLibraries)
    (draw : Draw)
    (store : Store)
    (peer : FederationPeerRow)
    (pinned : Vector UInt8 32) : Prop :=
  HasPinned libraries (store.currentKeys draw.generated.now peer) pinned →
    ∀ identity,
      oldestIdentity libraries store draw.generated.now peer = some identity →
        libraries.identityFingerprint identity = pinned

/-- The resolver finds the pinned identity exactly if no other identity has been
seen before it. -/
theorem resolves_exactly_iff
    (tenant_mem : tenant ∈ store.tenants.rows)
    (peer_mem : peer ∈ store.federationPeers.rows)
    (peer_tenant : peer.tenantId = tenant.id)
    (pin : peer.expectedKeyFingerprint = pinned.toList)
    (injective : ∀ first second : EndpointIdentity,
      (∃ row ∈ store.currentKeys draw.generated.now peer,
        Describes libraries row first) →
      (∃ row ∈ store.currentKeys draw.generated.now peer,
        Describes libraries row second) →
      libraries.identityFingerprint first =
        libraries.identityFingerprint second → first = second) :
    ResolvesExactly environment libraries draw store tenant peer pinned ↔
      OldestPinned libraries draw store peer pinned := by
  have resolved := @result_resolve_peer environment libraries draw _ _ _ _
    tenant_mem peer_mem peer_tenant pin
  have found_mem {identity : EndpointIdentity}
      (found : oldestIdentity libraries store draw.generated.now peer =
        some identity) :
      ∃ row ∈ store.currentKeys draw.generated.now peer,
        Describes libraries row identity := by
    obtain ⟨row, row_mem, described⟩ := List.exists_of_findSome?_eq_some found
    exact ⟨row, List.mem_mergeSort.mp row_mem, described⟩
  constructor
  · rintro ⟨result, returned, exact_iff, -⟩ pinned_exists identity found
    rw [resolved, Option.some.injEq, Except.ok.injEq] at returned
    rw [← returned, found, Option.isSome_map] at exact_iff
    obtain ⟨kept, kept_eq⟩ :=
      Option.isSome_iff_exists.mp (exact_iff.mpr pinned_exists)
    obtain ⟨same, kept_pinned⟩ := Option.filter_eq_some_iff.mp kept_eq
    rw [Option.some.inj same]
    exact of_decide_eq_true kept_pinned
  · intro oldest
    refine ⟨_, resolved, ?_, ?_⟩
    · rw [Option.isSome_map]
      constructor
      · intro kept
        obtain ⟨identity, kept_eq⟩ := Option.isSome_iff_exists.mp kept
        obtain ⟨found, pinned_eq⟩ := Option.filter_eq_some_iff.mp kept_eq
        obtain ⟨row, row_mem, described⟩ := found_mem found
        exact ⟨row, row_mem, identity, described, of_decide_eq_true pinned_eq⟩
      · intro pinned_exists
        obtain ⟨row, row_mem, other, described, -⟩ := id pinned_exists
        obtain ⟨identity, found⟩ : ∃ identity, oldestIdentity libraries store
            draw.generated.now peer = some identity := by
          refine Option.isSome_iff_exists.mp (List.findSome?_isSome_iff.mpr
            ⟨row, List.mem_mergeSort.mpr row_mem, ?_⟩)
          rw [described]
          rfl
        rw [found, Option.filter_some,
          if_pos (decide_eq_true (oldest pinned_exists identity found))]
        rfl
    · intro peer found row row_mem identity described pinned_eq
      obtain ⟨kept, kept_eq, rfl⟩ := Option.map_eq_some_iff.mp found
      obtain ⟨kept_found, kept_pinned⟩ := Option.filter_eq_some_iff.mp kept_eq
      exact injective _ _ (found_mem kept_found) ⟨row, row_mem, described⟩
        ((of_decide_eq_true kept_pinned).trans pinned_eq.symm)

end Resolution

/-- Libraries that tell identities apart by their last byte. -/
def rotationLibraries : FederationLibraries where
  primitives := .sample
  sha256 bytes := Vector.replicate 32 (bytes.getLast?.getD 0)
  decodeBase64Url text :=
    some (if text = "c" then List.replicate 32 1
      else if text = "p" then List.replicate Core.mlDsa65PublicKeyBytes 1
      else List.replicate Core.mlDsa65PublicKeyBytes 2)

/-- The identity that follows the one of the sample peer. -/
def rotatedIdentity : EndpointIdentity where
  classical := ⟨Vector.replicate 32 1⟩
  postQuantum := Vector.replicate Core.mlDsa65PublicKeyBytes 2

/-- The peer with one of the two identities pinned. -/
def rotatedPeer (byte : UInt8) : FederationPeerRow :=
  { samplePeer with expectedKeyFingerprint := List.replicate 32 byte }

/-- The key document of the new identity. -/
def rotatedKey : FederationKeyRow :=
  { sampleKey with
    keyId := "l"
    publicKeyDocument := .object [("classical_public_key", .string "c"),
      ("post_quantum_public_key", .string "q")]
    firstSeenAt := .sample 1 }

/-- Old and new documents of the peer side by side. -/
def rotatedFederation (byte : UInt8) : Store :=
  { sampleFederation with
    federationPeers := ⟨[rotatedPeer byte], List.pairwise_singleton _ _⟩
    federationKeys := ⟨[sampleKey, rotatedKey], List.pairwise_pair.mpr
      fun same => absurd (congrArg Prod.snd same) (by decide)⟩ }

theorem identityFingerprint_rotation
    {classical : Vector UInt8 32}
    {byte : UInt8} :
    rotationLibraries.identityFingerprint
        ⟨⟨classical⟩, Vector.replicate Core.mlDsa65PublicKeyBytes byte⟩ =
      Vector.replicate 32 byte := by
  have last : (asBytes "fcp-fabric/federation/identity-fingerprint/v1\x00" ++
      Core.identityBytes
        ⟨⟨classical⟩, Vector.replicate Core.mlDsa65PublicKeyBytes byte⟩).getLast? =
      some byte := by
    rw [Core.identityBytes, Vector.toList_replicate, ← List.append_assoc,
      List.getLast?_append, List.getLast?_replicate, if_neg (by decide)]
    rfl
  change Vector.replicate 32 (Option.getD _ 0) = _
  rw [last]
  rfl

theorem rotatedKey_described :
    Describes rotationLibraries rotatedKey rotatedIdentity :=
  parsePinnedIdentity_eq rfl (congrArg some (if_pos rfl))
    (congrArg some ((if_neg (by decide)).trans (if_neg (by decide))))

theorem sampleKey_described :
    Describes rotationLibraries sampleKey (.sample 1) :=
  parsePinnedIdentity_eq rfl (congrArg some (if_pos rfl))
    (congrArg some ((if_neg (by decide)).trans (if_pos rfl)))

section Rotation

variable {byte : UInt8}

theorem currentKeys_rotated :
    (rotatedFederation byte).currentKeys (Draw.sample 0).generated.now
      (rotatedPeer byte) = [sampleKey, rotatedKey] := rfl

theorem oldestIdentity_rotated :
    oldestIdentity rotationLibraries (rotatedFederation byte)
      (Draw.sample 0).generated.now (rotatedPeer byte) = some (.sample 1) := by
  have ordered : (rotatedFederation byte).oldestFirst
      (Draw.sample 0).generated.now (rotatedPeer byte) =
        [sampleKey, rotatedKey] := by
    rw [Store.oldestFirst, currentKeys_rotated]
    exact List.mergeSort_of_pairwise (List.pairwise_pair.mpr (by decide))
  have described : rotationLibraries.parsePinnedIdentity sampleKey.material =
      some (.sample 1) := sampleKey_described
  rw [oldestIdentity, ordered, List.findSome?_cons, described]

/-- The fingerprints of the two identities differ. -/
theorem fingerprints_ne :
    rotationLibraries.identityFingerprint (.sample 1) ≠
      rotationLibraries.identityFingerprint rotatedIdentity := by
  have first : rotationLibraries.identityFingerprint (.sample 1) =
      Vector.replicate 32 1 := identityFingerprint_rotation
  have second : rotationLibraries.identityFingerprint rotatedIdentity =
      Vector.replicate 32 2 := identityFingerprint_rotation
  rw [first, second]
  decide

/-- Fingerprints tell the described identities apart. -/
theorem fingerprint_injective_rotated
    {first second : EndpointIdentity}
    (first_described : ∃ row ∈ (rotatedFederation byte).currentKeys
      (Draw.sample 0).generated.now (rotatedPeer byte),
      Describes rotationLibraries row first)
    (second_described : ∃ row ∈ (rotatedFederation byte).currentKeys
      (Draw.sample 0).generated.now (rotatedPeer byte),
      Describes rotationLibraries row second)
    (same : rotationLibraries.identityFingerprint first =
      rotationLibraries.identityFingerprint second) :
    first = second := by
  have described {identity : EndpointIdentity}
      (exists_row : ∃ row ∈ (rotatedFederation byte).currentKeys
        (Draw.sample 0).generated.now (rotatedPeer byte),
        Describes rotationLibraries row identity) :
      identity = .sample 1 ∨ identity = rotatedIdentity := by
    obtain ⟨row, row_mem, describes⟩ := exists_row
    rw [currentKeys_rotated, List.mem_pair] at row_mem
    rcases row_mem with rfl | rfl
    · exact .inl (Option.some.inj (describes.symm.trans sampleKey_described))
    · exact .inr (Option.some.inj (describes.symm.trans rotatedKey_described))
  rcases described first_described with rfl | rfl <;>
    rcases described second_described with rfl | rfl
  · rfl
  · exact absurd same fingerprints_ne
  · exact absurd same.symm fingerprints_ne
  · rfl

end Rotation

/-- The resolver finds the older of two identities while that one is pinned. -/
theorem resolves_exactly_oldest :
    HasPinned rotationLibraries
      ((rotatedFederation 1).currentKeys (Draw.sample 0).generated.now
        (rotatedPeer 1)) (Vector.replicate 32 1) ∧
    ResolvesExactly sampleEnvironment rotationLibraries (.sample 0)
      (rotatedFederation 1) sampleTenant (rotatedPeer 1)
      (Vector.replicate 32 1) := by
  have pinned : rotationLibraries.identityFingerprint (.sample 1) =
      Vector.replicate 32 1 := identityFingerprint_rotation
  refine ⟨⟨sampleKey, List.mem_cons_self, .sample 1, sampleKey_described, pinned⟩,
    (resolves_exactly_iff List.mem_cons_self List.mem_cons_self rfl
      Vector.toList_replicate.symm
      fun _ _ => fingerprint_injective_rotated).mpr ?_⟩
  intro _ identity oldest
  rw [oldestIdentity_rotated] at oldest
  cases oldest
  exact pinned

/-- The document of the pinned identity is current and can be read, but an older
document of the peer can be read too. -/
theorem rotated_identity_is_not_found :
    sampleTenant ∈ (rotatedFederation 2).tenants.rows ∧
    rotatedPeer 2 ∈ (rotatedFederation 2).federationPeers.rows ∧
    (rotatedPeer 2).tenantId = sampleTenant.id ∧
    (rotatedPeer 2).expectedKeyFingerprint =
      (Vector.replicate 32 (2 : UInt8)).toList ∧
    (∀ first second : EndpointIdentity,
      (∃ row ∈ (rotatedFederation 2).currentKeys (Draw.sample 0).generated.now
        (rotatedPeer 2), Describes rotationLibraries row first) →
      (∃ row ∈ (rotatedFederation 2).currentKeys (Draw.sample 0).generated.now
        (rotatedPeer 2), Describes rotationLibraries row second) →
      rotationLibraries.identityFingerprint first =
        rotationLibraries.identityFingerprint second → first = second) ∧
    ¬ResolvesExactly sampleEnvironment rotationLibraries (.sample 0)
      (rotatedFederation 2) sampleTenant (rotatedPeer 2)
      (Vector.replicate 32 2) := by
  refine ⟨List.mem_cons_self, List.mem_cons_self, rfl,
    Vector.toList_replicate.symm, fun _ _ => fingerprint_injective_rotated, ?_⟩
  rintro ⟨result, returned, exact_iff, -⟩
  have pinned : HasPinned rotationLibraries
      ((rotatedFederation 2).currentKeys (Draw.sample 0).generated.now
        (rotatedPeer 2)) (Vector.replicate 32 2) :=
    ⟨rotatedKey, List.mem_cons_of_mem _ List.mem_cons_self, rotatedIdentity,
      rotatedKey_described, identityFingerprint_rotation⟩
  have resolved := @result_resolve_peer sampleEnvironment rotationLibraries
    (.sample 0) (rotatedFederation 2) sampleTenant (rotatedPeer 2)
    (Vector.replicate 32 2) List.mem_cons_self List.mem_cons_self rfl
    Vector.toList_replicate.symm
  have other : rotationLibraries.identityFingerprint (.sample 1) ≠
      Vector.replicate 32 2 := fun same =>
    fingerprints_ne (same.trans identityFingerprint_rotation.symm)
  rw [oldestIdentity_rotated, Option.filter_some,
    if_neg (by simpa using other)] at resolved
  rw [returned, Option.some.injEq, Except.ok.injEq] at resolved
  rw [resolved] at exact_iff
  exact absurd (exact_iff.mpr pinned) Bool.false_ne_true

/-! ## Freshness -/

section Freshness

variable {environment : Environment}
variable {libraries : FederationLibraries}
variable {draw : Draw}
variable {generated : Generated}
variable {store later : Store}
variable {admission : Admission}
variable {request : RecordFederationReplay}

/-- A request that is recorded expires in a later microsecond. -/
theorem timestamptz_lt_of_recorded
    (recorded : (Store.recordFederationReplay generated request).run store =
      .ok (true, later)) :
    generated.now.timestamptz < request.expiresAt.timestamptz := by
  simp only [Store.recordFederationReplay, run_lift_bind_eq_ok_iff] at recorded
  obtain ⟨_, -, _, -, ran⟩ := recorded
  rw [run_bind_eq_ok_iff] at ran
  simp only [run_insertWhere_eq_ok_iff, run_insert_eq_ok_iff] at ran
  obtain ⟨_, _, ⟨-, rfl, rfl⟩ | ⟨-, -, admitted, -⟩, ran⟩ := ran
  · exact absurd (Prod.mk.inj (Except.ok.inj ran)).1 Bool.false_ne_true
  · exact of_decide_eq_true (Bool.and_eq_true _ _ ▸ admitted).2

/-- A new request of a stored peer that expires in a later microsecond is
recorded. -/
theorem exists_recorded
    (tenant_exists : store.hasTenant request.tenantId = true)
    (peer_exists : (store.federationPeers.any fun peer =>
      peer.id = request.peerId) = true)
    (correlation : ¬UnsafeText 128 request.correlationId)
    (unrecorded : store.federationReplays.any request.conflicts = false)
    (fresh : ∀ event ∈ store.auditEvents.rows, event.id ≠ generated.uuid 0)
    (unexpired : generated.now.timestamptz < request.expiresAt.timestamptz) :
    ∃ later, (Store.recordFederationReplay generated request).run store =
        .ok (true, later) ∧
      request.replay generated ∈ later.federationReplays.rows := by
  have apart : ∀ other ∈ store.federationReplays.rows,
      FederationReplayRow.Apart other (request.replay generated) := by
    intro other other_mem same
    rw [Prod.mk.injEq, Prod.mk.injEq] at same
    have conflicts : request.conflicts other = true := decide_eq_true same
    exact List.any_eq_false.mp unrecorded other other_mem conflicts
  let replays : Table FederationReplayRow FederationReplayRow.Apart :=
    ⟨_, Table.pairwise_concat store.federationReplays apart⟩
  have admitted : Store.federationReplaysRelation.admits store
      (request.replay generated) = true := by
    change (store.hasTenant request.tenantId &&
      (store.federationPeers.any fun peer => peer.id = request.peerId) &&
      decide (generated.now.timestamptz < request.expiresAt.timestamptz)) = true
    rw [tenant_exists, peer_exists, decide_eq_true unexpired]
    rfl
  have inserted : (insert Store.federationReplaysRelation StoreError.database
      (request.replay generated)).run store =
      .ok ((), { store with federationReplays := replays }) :=
    run_insert_eq_ok_iff.mpr ⟨admitted, replays, rfl, rfl⟩
  obtain ⟨later, audited⟩ : ∃ later,
      (Store.insertAudit (request.audit generated)).run
        { store with federationReplays := replays } = .ok ((), later) :=
    Store.exists_insertAudit tenant_exists rfl correlation fresh
  refine ⟨later, run_lift_bind_eq_ok_iff.mpr ⟨(),
    validateCorrelationId_eq_ok_iff.mpr correlation,
    run_lift_bind_eq_ok_iff.mpr ⟨(), rejectIf_eq_ok_iff.mpr
      (OffsetDateTime.not_le.mpr
        (OffsetDateTime.lt_of_timestamptz_lt unexpired)),
      run_bind_eq_ok_iff.mpr ⟨1, _, run_insertWhere_eq_ok_iff.mpr
        (.inr ⟨by rw [unrecorded]; rfl, rfl, inserted⟩), ?_⟩⟩⟩, ?_⟩
  · rw [if_neg (by decide)]
    exact run_bind_eq_ok_iff.mpr ⟨(), later, audited, rfl⟩
  · obtain ⟨-, _, -, rfl⟩ := run_insert_eq_ok_iff.mp audited
    exact List.mem_concat_self

/-- What the first call of an admission reads. -/
def readMaterial
    (draw : Draw)
    (store : Store)
    (admission : Admission) : Option StoredFederationPeerMaterial :=
  store.federationPeerMaterial draw.generated.now
    admission.signed.delivery.destinationDomain
    admission.signed.delivery.sourceDomain

/-- An admission that passes the policy ends as its request is recorded. -/
theorem alone_admitDelivery
    (judged : admission.judge libraries (readMaterial draw store admission) =
      .ok request) :
    let execution := alone environment draw
      (FederationIngressService.admitDelivery libraries admission).run store
    let recorded :=
      (Store.recordFederationReplay draw.generated request).commit store
    execution.result = some (Admission.conclude recorded.1) ∧
      execution.state = recorded.2 := by
  have first : respond environment store draw (.store admission.resolution) =
      (.ok (readMaterial draw store admission), store) := rfl
  have second : respond environment store draw
      (.store (.recordFederationReplay request)) =
      (Store.recordFederationReplay draw.generated request).commit store := rfl
  rw [alone, Admission.admit_eq, Program.execute_perform (congrArg some first)]
  simp only [judged]
  rw [Program.execute_perform (congrArg some second), Program.execute_done]
  exact ⟨rfl, rfl⟩

/-- The service accepts a delivery and records its request. -/
def Accepts
    (environment : Environment)
    (libraries : FederationLibraries)
    (draw : Draw)
    (store : Store)
    (admission : Admission)
    (peer : ResolvedFederationPeer) : Prop :=
  let execution := alone environment draw
    (FederationIngressService.admitDelivery libraries admission).run store
  execution.result = some (.ok .accepted) ∧
    ∃ row ∈ execution.state.federationReplays.rows,
      row.tenantId = peer.tenantId ∧ row.peerId = peer.peerId ∧
        row.requestId = admission.signed.delivery.requestId

/-- Policy and ledger agree on a delivery exactly if it expires in a later
microsecond than the current one, although the policy admits deliveries for
another minute. -/
theorem accepts_admitted_iff
    {peer : ResolvedFederationPeer}
    (now_eq : admission.now = draw.generated.now)
    (resolved : (alone environment draw
      (PostgresFederationPeerPolicyResolver.resolve libraries
        admission.signed.delivery.destinationDomain
        admission.signed.delivery.sourceDomain).run store).result =
      some (.ok (some peer)))
    (admits : peer.policy.admitSigned libraries.primitives admission.now
      admission.signed = .ok ())
    (correlation : ¬UnsafeText 128 admission.correlationId)
    (unrecorded : ∀ row ∈ store.federationReplays.rows,
      ¬(row.tenantId = peer.tenantId ∧ row.peerId = peer.peerId ∧
        row.requestId = admission.signed.delivery.requestId))
    (fresh : ∀ event ∈ store.auditEvents.rows,
      event.id ≠ draw.generated.uuid 0) :
    Accepts environment libraries draw store admission peer ↔
      admission.now.timestamptz <
        admission.signed.delivery.expiresAt.timestamptz := by
  rw [result_resolve] at resolved
  obtain ⟨transcript, made, -⟩ :=
    (RemotePeerPolicy.admit_eq_ok_iff.mp admits).authenticated
  let request : RecordFederationReplay :=
    { tenantId := peer.tenantId
      peerId := peer.peerId
      requestId := admission.signed.delivery.requestId
      bodyDigest := libraries.sha256 transcript
      expiresAt := admission.signed.delivery.expiresAt
      correlationId := admission.correlationId }
  have judged : admission.judge libraries (readMaterial draw store admission) =
      .ok request := by
    simp only [Admission.judge, bind_eq_ok_iff, okOr_eq_ok_iff,
      mapError_eq_ok_iff, SignedFederationDelivery.canonicalBodyDigest]
    exact ⟨_, Option.some.inj resolved, _, rfl, (), admits, _,
      ⟨_, made, rfl⟩, rfl⟩
  obtain ⟨result_eq, state_eq⟩ :=
    @alone_admitDelivery environment libraries draw store admission request judged
  rw [Accepts, result_eq, state_eq, now_eq]
  constructor
  · rintro ⟨accepted, -⟩
    generalize committed :
      (Store.recordFederationReplay draw.generated request).commit store =
        recorded at accepted
    obtain ⟨reply, later⟩ := recorded
    rcases reply with error | _ | _
    · exact absurd accepted (by simp [Admission.conclude])
    · exact absurd accepted (by simp [Admission.conclude])
    · exact timestamptz_lt_of_recorded (commit_eq_ok_iff.mp committed)
  · intro unexpired
    obtain ⟨material, found, tenant_eq, peer_eq, -⟩ :=
      Admission.of_judge_eq_ok judged
    obtain ⟨tenantRow, tenant_mem, peerRow, peer_mem, -, -, -, material_tenant,
      material_peer, -⟩ := Store.of_federationPeerMaterial found
    have tenant_exists : store.hasTenant request.tenantId = true :=
      List.any_eq_true.mpr ⟨tenantRow, tenant_mem,
        decide_eq_true (tenant_eq.trans material_tenant).symm⟩
    have peer_exists : (store.federationPeers.any fun peer =>
        peer.id = request.peerId) = true :=
      List.any_eq_true.mpr ⟨peerRow, peer_mem,
        decide_eq_true (peer_eq.trans material_peer).symm⟩
    have new : store.federationReplays.any request.conflicts = false :=
      List.any_eq_false.mpr fun row row_mem conflicts =>
        unrecorded row row_mem (of_decide_eq_true conflicts)
    obtain ⟨later, ran, recorded⟩ := exists_recorded tenant_exists peer_exists
      correlation new fresh unexpired
    rw [commit_eq_ok_iff.mpr ran]
    exact ⟨rfl, _, recorded, rfl, rfl, rfl⟩

end Freshness

/-- The policy that the sample tenant has for its peer. -/
def sampleResolved : ResolvedFederationPeer where
  tenantId := ⟨.sample 1⟩
  peerId := .sample 2
  policy := ⟨⟨"a.b"⟩, ⟨"c.d"⟩, .active, .sample 1⟩

/-- The peer is resolved while its key is valid. -/
theorem result_resolve_sample
    {draw : Draw}
    (valid : draw.generated.now.timestamptz < sampleKey.validUntil) :
    (alone sampleEnvironment draw
      (PostgresFederationPeerPolicyResolver.resolve sampleLibraries
        sampleTenant.canonicalDomain samplePeer.remoteDomain).run
      sampleFederation).result = some (.ok (some sampleResolved)) := by
  have current : sampleFederation.currentKeys draw.generated.now samplePeer =
      [sampleKey] :=
    List.filter_cons_of_pos (decide_eq_true ⟨rfl, rfl, valid⟩)
  have identity : oldestIdentity sampleLibraries sampleFederation
      draw.generated.now samplePeer = some (.sample 1) := by
    rw [oldestIdentity, Store.oldestFirst, current, List.mergeSort_singleton,
      List.findSome?_singleton]
    exact sampleDocument_parsed
  have pinned : sampleLibraries.identityFingerprint (.sample 1) =
      Vector.replicate 32 0 := rfl
  rw [@result_resolve_peer _ _ _ _ sampleTenant samplePeer
    (Vector.replicate 32 0) List.mem_cons_self List.mem_cons_self rfl
    Vector.toList_replicate.symm, identity, Option.filter_some,
    if_pos (decide_eq_true pinned)]
  rfl

/-- The policy admits a well-formed delivery of the peer within the skew. -/
theorem sampleResolved_admits
    {admission : Admission}
    (authority : admission.signed.authorityIdentity = .sample 1)
    (destination : admission.signed.delivery.destinationDomain = ⟨"a.b"⟩)
    (source : admission.signed.delivery.sourceDomain = ⟨"c.d"⟩)
    (issued : admission.signed.delivery.issuedAt.unixTimestamp ≤
      admission.now.unixTimestamp + maxClockSkewSeconds)
    (unexpired : admission.now.unixTimestamp - maxClockSkewSeconds ≤
      admission.signed.delivery.expiresAt.unixTimestamp)
    (valid : ∃ transcript,
      admission.signed.delivery.transcript = .ok transcript) :
    sampleResolved.policy.admitSigned sampleLibraries.primitives admission.now
      admission.signed = .ok () := by
  obtain ⟨transcript, made⟩ := valid
  exact RemotePeerPolicy.admit_eq_ok_iff.mpr ⟨rfl, destination, source, issued,
    unexpired, authority, transcript, made, rfl, rfl⟩

/-- The delivery of the sample peer is accepted. -/
theorem accepts_admitted_sample :
    Accepts sampleEnvironment sampleLibraries (.sample 0) sampleFederation
      sampleAdmission sampleResolved := by
  have admits : sampleResolved.policy.admitSigned sampleLibraries.primitives
      sampleAdmission.now sampleAdmission.signed = .ok () := by
    refine sampleResolved_admits rfl rfl rfl (by decide) (by decide) ⟨_,
      FederationDelivery.transcript_eq_ok_iff.mpr ⟨?_, ?_, rfl⟩⟩
    · constructor <;> decide
    · constructor <;> decide
  refine (accepts_admitted_iff rfl (result_resolve_sample (by decide)) admits
    (by decide) ?_ ?_).mpr (by decide)
  · exact fun _ mem => absurd mem List.not_mem_nil
  · exact fun _ mem => absurd mem List.not_mem_nil

/-- A delivery that expired a second ago. -/
def lateAdmission : Admission :=
  { sampleAdmission with
    signed.delivery.expiresAt := .sample 5
    now := .sample 6 }

/-- The draws of its admission. -/
def lateDraw : Draw :=
  { Draw.sample 0 with generated.now := .sample 6 }

/-- The policy admits a delivery that expired a second ago, and the ledger turns
it into a failure of the store. -/
theorem late_delivery_fails_in_the_store :
    lateAdmission.now = lateDraw.generated.now ∧
    (alone sampleEnvironment lateDraw
      (PostgresFederationPeerPolicyResolver.resolve sampleLibraries
        lateAdmission.signed.delivery.destinationDomain
        lateAdmission.signed.delivery.sourceDomain).run
      sampleFederation).result = some (.ok (some sampleResolved)) ∧
    sampleResolved.policy.admitSigned sampleLibraries.primitives lateAdmission.now
      lateAdmission.signed = .ok () ∧
    ¬UnsafeText 128 lateAdmission.correlationId ∧
    sampleFederation.federationReplays.rows = [] ∧
    sampleFederation.auditEvents.rows = [] ∧
    (alone sampleEnvironment lateDraw
      (FederationIngressService.admitDelivery sampleLibraries lateAdmission).run
      sampleFederation).result =
        some (.error (.store .invalidFederationReplayExpiry)) ∧
    ¬Accepts sampleEnvironment sampleLibraries lateDraw sampleFederation
      lateAdmission sampleResolved := by
  have made : lateAdmission.signed.delivery.transcript =
      .ok lateAdmission.signed.delivery.spelling := by
    refine FederationDelivery.transcript_eq_ok_iff.mpr ⟨?_, ?_, rfl⟩
    · constructor <;> decide
    · constructor <;> decide
  have resolved := result_resolve_sample
    (show lateDraw.generated.now.timestamptz < _ by decide)
  have admits : sampleResolved.policy.admitSigned sampleLibraries.primitives
      lateAdmission.now lateAdmission.signed = .ok () :=
    sampleResolved_admits rfl rfl rfl (by decide) (by decide) ⟨_, made⟩
  have judged : lateAdmission.judge sampleLibraries
      (readMaterial lateDraw sampleFederation lateAdmission) =
      .ok { sampleRecording with expiresAt := .sample 5 } := by
    have read := resolved
    rw [result_resolve] at read
    simp only [Admission.judge, bind_eq_ok_iff, okOr_eq_ok_iff,
      mapError_eq_ok_iff, SignedFederationDelivery.canonicalBodyDigest]
    exact ⟨_, Option.some.inj read, _, rfl, (), admits, _,
      ⟨_, made, rfl⟩, rfl⟩
  have failed : (alone sampleEnvironment lateDraw
      (FederationIngressService.admitDelivery sampleLibraries lateAdmission).run
      sampleFederation).result =
        some (.error (.store .invalidFederationReplayExpiry)) := by
    rw [(alone_admitDelivery judged).1]
    rfl
  refine ⟨rfl, resolved, admits, by decide, rfl, rfl, failed, ?_⟩
  rintro ⟨accepted, -⟩
  rw [failed] at accepted
  exact absurd accepted (by simp)

end Transport
end Fabric
end Fcp
