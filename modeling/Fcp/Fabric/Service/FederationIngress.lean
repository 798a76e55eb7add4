import Fcp.Fabric.RemotePeerPolicy
import Fcp.Fabric.Service.Operations

/-!
# Admission of federation deliveries

A signed delivery is admitted in two calls of the store: the policy of the peer
is read, and the request identifier is recorded.  Other requests run between
the two.
-/

namespace Fcp
namespace Fabric

open Rust
open Reactive
open Service
open Core (EndpointIdentity)

/-- The functions of libraries that the admission relies on. -/
structure FederationLibraries where
  primitives : Core.Primitives
  sha256 : List UInt8 → Vector UInt8 32
  /-- `URL_SAFE_NO_PAD.decode`, `none` for its error. -/
  decodeBase64Url : String → Option (List UInt8)

/-- Federation ingress failure. -/
inductive FederationIngressError
  | resolver
  | rejected
  | policy (error : FederationError)
  | store (error : StoreError)
  deriving DecidableEq

/-- Durable admission result. -/
inductive FederationIngressOutcome
  | accepted
  | replay
  deriving DecidableEq

/-! ## Pinned identities -/

/-- A stored public key document. -/
structure StoredEndpointIdentityDocument where
  classicalPublicKey : String
  postQuantumPublicKey : String

/-- The derived deserialisation, which denies unknown fields and also takes the
fields of a structure from an array. -/
def StoredEndpointIdentityDocument.fromValue :
    Json → Option StoredEndpointIdentityDocument
  | .array [.string classical, .string postQuantum] =>
      some ⟨classical, postQuantum⟩
  | .object [(first, .string firstValue), (second, .string secondValue)] =>
      if first = "classical_public_key" ∧
          second = "post_quantum_public_key" then
        some ⟨firstValue, secondValue⟩
      else if first = "post_quantum_public_key" ∧
          second = "classical_public_key" then
        some ⟨secondValue, firstValue⟩
      else
        none
  | _ => none

namespace FederationLibraries

/-- Decode a value of fixed length. -/
def decodeFixed
    (libraries : FederationLibraries)
    (width : Nat)
    (encoded : String) : Option (Vector UInt8 width) := do
  tryInto width (← libraries.decodeBase64Url encoded)

/-- The identity of a stored key document. -/
def parsePinnedIdentity
    (libraries : FederationLibraries)
    (key : StoredFederationKeyMaterial) : Option EndpointIdentity := do
  let document ←
    StoredEndpointIdentityDocument.fromValue key.publicKeyDocument
  let classical ← libraries.decodeFixed 32 document.classicalPublicKey
  let postQuantum ← libraries.decodeFixed Core.mlDsa65PublicKeyBytes
    document.postQuantumPublicKey
  return { classical := ⟨classical⟩, postQuantum := postQuantum }

/-- The fingerprint that a tenant owner pins. -/
def identityFingerprint
    (libraries : FederationLibraries)
    (identity : EndpointIdentity) : Vector UInt8 32 :=
  libraries.sha256
    (asBytes "fcp-fabric/federation/identity-fingerprint/v1\x00" ++
      Core.identityBytes identity)

end FederationLibraries

/-! ## Admission -/

/-- Independently resolved remote peer policy. -/
structure ResolvedFederationPeer where
  tenantId : TenantId
  peerId : Uuid
  policy : RemotePeerPolicy

/-- The peer policy that stored material describes. -/
def ResolvedFederationPeer.fromMaterial
    (libraries : FederationLibraries)
    (localDomain remoteDomain : DomainName)
    (material : StoredFederationPeerMaterial) :
    Except FederationIngressError (Option ResolvedFederationPeer) := do
  let expectedFingerprint ← okOr (tryInto 32 material.expectedKeyFingerprint)
    .resolver
  let some identity :=
      (material.keys.findSome? libraries.parsePinnedIdentity).filter
        fun identity =>
          libraries.identityFingerprint identity = expectedFingerprint
    | return none
  return some
    { tenantId := material.tenantId
      peerId := material.peerId
      policy :=
        { localDomain := localDomain
          remoteDomain := remoteDomain
          trustState := material.trustState
          activeAuthorityIdentity := identity } }

/-- The peer policy of a destination and a source domain. -/
def PostgresFederationPeerPolicyResolver.resolve
    (libraries : FederationLibraries)
    (localDomain remoteDomain : DomainName) :
    Service FederationIngressError (Option ResolvedFederationPeer) := do
  let some material ←
      ask .store (.federationPeerMaterial localDomain remoteDomain)
    | return none
  ExceptT.mk (pure (ResolvedFederationPeer.fromMaterial libraries localDomain
    remoteDomain material))

/-- Arguments of one admission. -/
structure Admission where
  signed : SignedFederationDelivery
  correlationId : String
  now : OffsetDateTime

/-- Verify, admit and record one inbound delivery. -/
def FederationIngressService.admitDelivery
    (libraries : FederationLibraries)
    (admission : Admission) :
    Service FederationIngressError FederationIngressOutcome := do
  let signed := admission.signed
  let delivery := signed.delivery
  let some peer ← PostgresFederationPeerPolicyResolver.resolve libraries
      delivery.destinationDomain delivery.sourceDomain
    | throw .rejected
  rethrow .policy
    (peer.policy.admitSigned libraries.primitives admission.now signed)
  let bodyDigest ← rethrow .policy (signed.canonicalBodyDigest libraries.sha256)
  let inserted ← ask .store (.recordFederationReplay
    { tenantId := peer.tenantId
      peerId := peer.peerId
      requestId := delivery.requestId
      bodyDigest := bodyDigest
      expiresAt := delivery.expiresAt
      correlationId := admission.correlationId })
  return if inserted then .accepted else .replay

/-! ## The two calls -/

section Programs

variable {ε δ α β : Type}

/-- A store call before the rest of a service. -/
theorem run_ask_bind
    (wrap : StoreError → ε)
    (call : Call)
    (next : call.Result → Service ε α) :
    (ask wrap call >>= next).run =
      .perform (.store call) fun reply =>
        match reply with
        | .ok result => (next result).run
        | .error error => .done (.error (wrap error)) := by
  refine congrArg (Program.perform _) (funext fun reply => ?_)
  cases reply <;> rfl

/-- A check before the rest of a service. -/
theorem run_rethrow_bind
    (wrap : δ → ε)
    (result : Except δ β)
    (next : β → Service ε α) :
    (rethrow wrap result >>= next).run =
      match result with
      | .ok value => (next value).run
      | .error error => .done (.error (wrap error)) := by
  cases result <;> rfl

end Programs

namespace Admission

/-- The first call of an admission. -/
def resolution (admission : Admission) : Call :=
  .federationPeerMaterial admission.signed.delivery.destinationDomain
    admission.signed.delivery.sourceDomain

/-- What the resolver makes of the answer of the store. -/
def resolved
    (libraries : FederationLibraries)
    (localDomain remoteDomain : DomainName)
    (found : Option StoredFederationPeerMaterial) :
    Except FederationIngressError (Option ResolvedFederationPeer) :=
  match found with
  | none => .ok none
  | some material =>
      ResolvedFederationPeer.fromMaterial libraries localDomain remoteDomain
        material

/-- The request that an admission records on the material of a peer. -/
def judge
    (libraries : FederationLibraries)
    (admission : Admission)
    (found : Option StoredFederationPeerMaterial) :
    Except FederationIngressError RecordFederationReplay := do
  let peer ← resolved libraries admission.signed.delivery.destinationDomain
    admission.signed.delivery.sourceDomain found
  let peer ← okOr peer .rejected
  (peer.policy.admitSigned libraries.primitives admission.now
    admission.signed).mapError .policy
  let bodyDigest ←
    (admission.signed.canonicalBodyDigest libraries.sha256).mapError .policy
  return {
    tenantId := peer.tenantId
    peerId := peer.peerId
    requestId := admission.signed.delivery.requestId
    bodyDigest := bodyDigest
    expiresAt := admission.signed.delivery.expiresAt
    correlationId := admission.correlationId }

/-- The result of an admission on the answer of its second call. -/
def conclude (reply : Except StoreError Bool) :
    Except FederationIngressError FederationIngressOutcome :=
  match reply with
  | .ok true => .ok .accepted
  | .ok false => .ok .replay
  | .error error => .error (.store error)

theorem resolve_eq
    (libraries : FederationLibraries)
    (localDomain remoteDomain : DomainName) :
    (PostgresFederationPeerPolicyResolver.resolve libraries localDomain
        remoteDomain).run =
      .perform (.store (.federationPeerMaterial localDomain remoteDomain))
        fun reply =>
          match reply with
          | .ok found =>
              .done (resolved libraries localDomain remoteDomain found)
          | .error error => .done (.error (.store error)) := by
  rw [PostgresFederationPeerPolicyResolver.resolve, run_ask_bind]
  refine congrArg (Program.perform _) (funext fun reply => ?_)
  rcases reply with error | _ | material <;> rfl

/-- An admission asks for the peer, judges the delivery and records its
request. -/
theorem admit_eq (libraries : FederationLibraries) (admission : Admission) :
    (FederationIngressService.admitDelivery libraries admission).run =
      .perform (.store admission.resolution) fun reply =>
        match reply with
        | .error error => .done (.error (.store error))
        | .ok found =>
            match admission.judge libraries found with
            | .error error => .done (.error error)
            | .ok request =>
                .perform (.store (.recordFederationReplay request))
                  fun reply => .done (conclude reply) := by
  rw [FederationIngressService.admitDelivery, ExceptT.run_bind, resolve_eq]
  refine congrArg (Program.perform _) (funext fun reply => ?_)
  cases reply with
  | error error => rfl
  | ok found =>
      dsimp only [judge]
      cases resolved libraries admission.signed.delivery.destinationDomain
          admission.signed.delivery.sourceDomain found with
      | error error => rfl
      | ok peer =>
          cases peer with
          | none => rfl
          | some peer =>
              change (rethrow FederationIngressError.policy _ >>= _).run = _
              rw [run_rethrow_bind]
              dsimp only [okOr, bind, Except.bind]
              cases peer.policy.admitSigned libraries.primitives admission.now
                  admission.signed with
              | error error => rfl
              | ok =>
                  cases admission.signed.canonicalBodyDigest
                      libraries.sha256 with
                  | error error => rfl
                  | ok bodyDigest =>
                      refine congrArg (Program.perform _)
                        (funext fun reply => ?_)
                      rcases reply with error | _ | _ <;> rfl

/-- What an admission that records its request has checked. -/
theorem of_judge_eq_ok
    {libraries : FederationLibraries}
    {admission : Admission}
    {found : Option StoredFederationPeerMaterial}
    {request : RecordFederationReplay}
    (judged : admission.judge libraries found = .ok request) :
    ∃ material, found = some material ∧
      request.tenantId = material.tenantId ∧
      request.peerId = material.peerId ∧
      request.requestId = admission.signed.delivery.requestId ∧
      ∃ identity,
        (∃ key ∈ material.keys,
          libraries.parsePinnedIdentity key = some identity) ∧
        (libraries.identityFingerprint identity).toList =
          material.expectedKeyFingerprint ∧
        RemotePeerPolicy.Admits libraries.primitives
          { localDomain := admission.signed.delivery.destinationDomain
            remoteDomain := admission.signed.delivery.sourceDomain
            trustState := material.trustState
            activeAuthorityIdentity := identity }
          admission.now admission.signed := by
  simp only [judge, bind_eq_ok_iff, okOr_eq_ok_iff, mapError_eq_ok_iff,
    RemotePeerPolicy.admit_eq_ok_iff, pure, Except.pure, Except.ok.injEq]
    at judged
  obtain ⟨_, resolved_eq, peer, rfl, _, admits, _, -, rfl⟩ := judged
  cases found with
  | none => cases resolved_eq
  | some material =>
      simp only [resolved, ResolvedFederationPeer.fromMaterial, bind_eq_ok_iff,
        okOr_eq_ok_iff] at resolved_eq
      obtain ⟨expectedFingerprint, fingerprint_eq, resolved_eq⟩ := resolved_eq
      split at resolved_eq
      case h_1 identity pinned =>
        cases resolved_eq
        obtain ⟨identity_found, matches_pin⟩ := Option.filter_eq_some_iff.mp pinned
        obtain ⟨key, key_mem, parsed⟩ := List.exists_of_findSome?_eq_some identity_found
        refine ⟨material, rfl, rfl, rfl, rfl, identity, ⟨key, key_mem, parsed⟩,
          ?_, admits⟩
        rw [of_decide_eq_true matches_pin]
        exact (tryInto_eq_some_iff.mp fingerprint_eq).symm
      case h_2 => cases resolved_eq

end Admission

end Fabric
end Fcp
