import Fcp.Fabric.Store.Helpers

/-!
# Federation trust and replays

Explicitly pinned remote peers and the request identifiers of admitted
deliveries.
-/

namespace Fcp
namespace Fabric

open Rust
open Sql
open Sql.Transaction

/-- Record one admitted inbound federation request. -/
structure RecordFederationReplay where
  tenantId : TenantId
  peerId : Uuid
  requestId : Uuid
  bodyDigest : Vector UInt8 32
  expiresAt : OffsetDateTime
  correlationId : String

/-- One current remote federation public key document. -/
structure StoredFederationKeyMaterial where
  keyId : String
  publicKeyDocument : Json
  validUntil : OffsetDateTime

/-- Persisted remote peer policy and its current key documents. -/
structure StoredFederationPeerMaterial where
  tenantId : TenantId
  peerId : Uuid
  trustState : FederationTrustState
  expectedKeyFingerprint : List UInt8
  keys : List StoredFederationKeyMaterial

/-- What a key document is read as. -/
def FederationKeyRow.material (row : FederationKeyRow) :
    StoredFederationKeyMaterial where
  keyId := row.keyId
  publicKeyDocument := row.publicKeyDocument
  validUntil := row.validUntil

namespace RecordFederationReplay

def replay (request : RecordFederationReplay) (generated : Generated) :
    FederationReplayRow where
  tenantId := request.tenantId
  peerId := request.peerId
  requestId := request.requestId
  bodyDigest := request.bodyDigest
  acceptedAt := generated.now.timestamptz
  expiresAt := request.expiresAt.timestamptz

/-- The replay row of the same tenant, peer and request. -/
def conflicts (request : RecordFederationReplay) (row : FederationReplayRow) :
    Bool :=
  row.tenantId = request.tenantId ∧ row.peerId = request.peerId ∧
    row.requestId = request.requestId

def audit (request : RecordFederationReplay) (generated : Generated) :
    AuditEventRow where
  id := generated.uuid 0
  tenantId := request.tenantId
  actorId := none
  action := .federationRequestEvaluated
  correlationId := request.correlationId
  metadata := .object
    [("peer_id", .uuid request.peerId), ("request_id", .uuid request.requestId),
      ("outcome", .string "accepted")]
  occurredAt := generated.now.timestamptz

end RecordFederationReplay

namespace Store

/-- The keys of a peer that are neither retired nor expired. -/
def currentKeys
    (store : Store)
    (now : OffsetDateTime)
    (peer : FederationPeerRow) : List FederationKeyRow :=
  store.federationKeys.rows.filter fun row =>
    row.peerId = peer.id ∧ row.retiredAt = none ∧
      now.timestamptz < row.validUntil

/-- The current keys in the order in which they were first seen. -/
def oldestFirst
    (store : Store)
    (now : OffsetDateTime)
    (peer : FederationPeerRow) : List FederationKeyRow :=
  (store.currentKeys now peer).mergeSort fun first second =>
    first.firstSeenAt ≤ second.firstSeenAt

/-- Resolve explicit federation trust and currently valid key documents. -/
def federationPeerMaterial
    (store : Store)
    (now : OffsetDateTime)
    (localDomain remoteDomain : DomainName) :
    Option StoredFederationPeerMaterial := do
  let tenant ← store.tenants.find? fun row => row.canonicalDomain = localDomain
  let peer ← store.federationPeers.find? fun row =>
    row.tenantId = tenant.id ∧ row.remoteDomain = remoteDomain
  return {
    tenantId := peer.tenantId
    peerId := peer.id
    trustState := peer.trustState
    expectedKeyFingerprint := peer.expectedKeyFingerprint
    keys := (store.oldestFirst now peer).map FederationKeyRow.material }

/-- The rows that the material of a peer comes from. -/
theorem of_federationPeerMaterial
    {store : Store}
    {now : OffsetDateTime}
    {localDomain remoteDomain : DomainName}
    {material : StoredFederationPeerMaterial}
    (found : store.federationPeerMaterial now localDomain remoteDomain =
      some material) :
    ∃ tenant ∈ store.tenants.rows, ∃ peer ∈ store.federationPeers.rows,
      tenant.canonicalDomain = localDomain ∧
      peer.tenantId = tenant.id ∧ peer.remoteDomain = remoteDomain ∧
      material.tenantId = tenant.id ∧ material.peerId = peer.id ∧
      material.trustState = peer.trustState ∧
      material.expectedKeyFingerprint = peer.expectedKeyFingerprint ∧
      ∀ key ∈ material.keys, ∃ row ∈ store.federationKeys.rows,
        row.peerId = peer.id ∧ row.retiredAt = none ∧
        now.timestamptz < row.validUntil ∧
        row.publicKeyDocument = key.publicKeyDocument := by
  simp only [federationPeerMaterial, Option.bind_eq_bind,
    Option.bind_eq_some_iff, Option.pure_def, Option.some.injEq] at found
  obtain ⟨tenant, tenant_found, peer, peer_found, rfl⟩ := found
  obtain ⟨tenant_mem, tenant_selected⟩ := Table.find?_eq_some tenant_found
  obtain ⟨peer_mem, peer_selected⟩ := Table.find?_eq_some peer_found
  obtain ⟨peer_tenant, peer_domain⟩ := of_decide_eq_true peer_selected
  refine ⟨tenant, tenant_mem, peer, peer_mem, of_decide_eq_true tenant_selected,
    peer_tenant, peer_domain, peer_tenant, rfl, rfl, rfl, ?_⟩
  intro key key_mem
  obtain ⟨row, row_mem, rfl⟩ := List.mem_map.mp key_mem
  obtain ⟨row_mem, selected⟩ := List.mem_filter.mp (List.mem_mergeSort.mp row_mem)
  obtain ⟨row_peer, current, valid⟩ := of_decide_eq_true selected
  exact ⟨row, row_mem, row_peer, current, valid, rfl⟩

/-- Record one admitted inbound federation request identifier. -/
def recordFederationReplay
    (generated : Generated)
    (request : RecordFederationReplay) : StoreTransaction Bool := do
  validateCorrelationId request.correlationId
  rejectIf (request.expiresAt ≤ generated.now)
    StoreError.invalidFederationReplayExpiry
  let inserted ← insertWhere federationReplaysRelation .database
    (fun store => !store.federationReplays.any request.conflicts)
    (request.replay generated)
  if inserted ≠ 1 then
    return false
  insertAudit (request.audit generated)
  return true

end Store

end Fabric
end Fcp
