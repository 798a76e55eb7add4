import Fcp.Core.ConnectionNetwork
import Fcp.Client.Acceptance

/-!
# Exact fan-out of CFR messages

The bindings of a client are the remote members of the snapshot it accepted
last, and each connection of its directory is pinned to the endpoint it is filed
under.  A message to everyone therefore becomes one control envelope for each
remote member, or an error.
-/

namespace Fcp
namespace Client

open Fcp.Core
open Reactive
open Rust

variable {SigPublic : Type} [Ord SigPublic] [Std.TransOrd SigPublic]
variable {signer : EndpointSigner}

/-! ## One recipient -/

/-- An established connection to an endpoint is on file. -/
def PeerConnections.Reaches
    (connections : PeerConnections)
    (endpoint : EndpointIdentity) : Prop :=
  ∃ connection, connections.get endpoint = some connection ∧
    connection.phase = .established

/-- The signer is the local endpoint and the payload is within the bound. -/
structure Sends
    (localEndpoint : EndpointIdentity)
    (signer : EndpointSigner)
    (payload : List UInt8) : Prop where
  signer_eq : signer.endpoint = localEndpoint
  bounded : payload.length ≤ maxCfrControlBytes

/-- A control envelope that carries a payload to a recipient. -/
structure Carries
    (federation : FederationId)
    (payload : List UInt8)
    (recipient : EndpointIdentity)
    (envelope : Envelope) : Prop where
  federation_eq : envelope.federation = federation
  recipient_eq : envelope.recipient = recipient
  body_eq : envelope.body = .cfrControl payload

/-- One recipient is served exactly when it is bound and reached, by one control
envelope. -/
theorem routeOne_eq_ok_iff
    {message : Message SigPublic}
    {bindings : CfrEndpointBindings SigPublic}
    {connections : PeerConnections}
    {identity : SigPublic}
    {actions : List Action} :
    routeOne message signer bindings connections identity = .ok actions ↔
      Sends connections.localEndpoint signer message.payload ∧
        ∃ endpoint connection, bindings.endpoint identity = some endpoint ∧
          connections.get endpoint = some connection ∧
          connection.phase = .established ∧
          actions = [.send (connection.control signer message.payload)] := by
  unfold routeOne
  simp only [bind_eq_ok_iff, okOr_eq_ok_iff, mapError_eq_ok_iff,
    Connection.cfrControl_eq_ok_iff, pure, Except.pure, Except.ok.injEq]
  constructor
  · rintro ⟨endpoint, bound, connection, filed, _,
      ⟨signer_eq, established, bounded, rfl⟩, rfl⟩
    have pins := connections.pinned endpoint connection filed
    refine ⟨⟨signer_eq.trans pins.local_eq, bounded⟩, ?_⟩
    exact ⟨endpoint, connection, bound, filed, established, rfl⟩
  · rintro ⟨⟨signer_eq, bounded⟩, endpoint, connection, bound, filed,
      established, rfl⟩
    have pins := connections.pinned endpoint connection filed
    refine ⟨endpoint, bound, connection, filed, _, ⟨?_, established, bounded,
      rfl⟩, rfl⟩
    exact signer_eq.trans pins.local_eq.symm

/-- The envelope made by a filed connection carries the payload to the endpoint
it is filed under. -/
theorem carries_control
    {connections : PeerConnections}
    {endpoint : EndpointIdentity}
    {connection : Connection}
    (filed : connections.get endpoint = some connection)
    (payload : List UInt8) :
    Carries connections.federation payload endpoint
      (connection.control signer payload) := by
  have pins := connections.pinned endpoint connection filed
  exact ⟨pins.federation_eq, pins.remote_eq, rfl⟩

/-- A message to one peer. -/
theorem routeOne_exact
    (message : Message SigPublic)
    (signer : EndpointSigner)
    (bindings : CfrEndpointBindings SigPublic)
    (connections : PeerConnections)
    (identity : SigPublic) :
    (∀ endpoint, bindings.endpoint identity = some endpoint →
      connections.Reaches endpoint →
      Sends connections.localEndpoint signer message.payload →
        ∃ envelope,
          routeOne message signer bindings connections identity =
            .ok [.send envelope] ∧
          Carries connections.federation message.payload endpoint envelope) ∧
    (¬(Sends connections.localEndpoint signer message.payload ∧
        ∃ endpoint, bindings.endpoint identity = some endpoint ∧
          connections.Reaches endpoint) →
      ∃ error,
        routeOne message signer bindings connections identity =
          .error error) := by
  constructor
  · rintro endpoint bound ⟨connection, filed, established⟩ sends
    refine ⟨connection.control signer message.payload, ?_,
      carries_control filed _⟩
    exact routeOne_eq_ok_iff.mpr
      ⟨sends, endpoint, connection, bound, filed, established, rfl⟩
  · intro unreachable
    apply exists_error_of_forall_ne_ok
    intro actions routed
    obtain ⟨sends, endpoint, connection, bound, filed, established, -⟩ :=
      routeOne_eq_ok_iff.mp routed
    exact unreachable ⟨sends, endpoint, bound, connection, filed, established⟩

/-! ## Every recipient -/

/-- Every bound endpoint is reached, and whoever has a recipient can send. -/
structure Broadcasts
    (bindings : CfrEndpointBindings SigPublic)
    (connections : PeerConnections)
    (localEndpoint : EndpointIdentity)
    (signer : EndpointSigner)
    (payload : List UInt8) : Prop where
  reaches : ∀ identity endpoint, bindings.endpoint identity = some endpoint →
    connections.Reaches endpoint
  sends : (∃ identity endpoint, bindings.endpoint identity = some endpoint) →
    Sends localEndpoint signer payload

variable {payload : List UInt8}
variable {bindings : CfrEndpointBindings SigPublic}
variable {connections : PeerConnections}
variable {identities : List SigPublic}

/-- A loop over bound identities emits one carrying envelope for each of them,
in order. -/
theorem exists_envelopes
    (ready : Broadcasts bindings connections connections.localEndpoint signer
      payload)
    (bound : ∀ identity ∈ identities,
      ∃ endpoint, bindings.endpoint identity = some endpoint) :
    ∃ envelopes : List Envelope,
      List.Forall₂
        (fun identity actions =>
          routeOne ⟨.everyone, payload⟩ signer bindings connections identity =
            .ok actions)
        identities (envelopes.map fun envelope => [.send envelope]) ∧
      List.Forall₂
        (fun identity envelope => ∃ endpoint,
          bindings.endpoint identity = some endpoint ∧
            Carries connections.federation payload endpoint envelope)
        identities envelopes := by
  induction identities with
  | nil => exact ⟨[], .nil, .nil⟩
  | cons identity identities inductionHypothesis =>
      obtain ⟨envelopes, routed, carried⟩ := inductionHypothesis
        fun other member => bound other (List.mem_cons_of_mem _ member)
      obtain ⟨endpoint, endpoint_eq⟩ := bound identity List.mem_cons_self
      obtain ⟨envelope, served, carries⟩ :=
        (routeOne_exact ⟨.everyone, payload⟩ signer bindings connections
          identity).1 endpoint endpoint_eq
          (ready.reaches identity endpoint endpoint_eq)
          (ready.sends ⟨identity, endpoint, endpoint_eq⟩)
      exact ⟨envelope :: envelopes, .cons served routed,
        .cons ⟨endpoint, endpoint_eq, carries⟩ carried⟩

/-- Carrying envelopes are addressed to the endpoints of their identities. -/
theorem recipients_of_carried
    {federation : FederationId}
    {envelopes : List Envelope}
    (carried : List.Forall₂
      (fun identity envelope => ∃ endpoint,
        bindings.endpoint identity = some endpoint ∧
          Carries federation payload endpoint envelope)
      identities envelopes) :
    envelopes.map Envelope.recipient =
        identities.filterMap bindings.endpoint ∧
      ∀ envelope ∈ envelopes, envelope.federation = federation ∧
        envelope.body = .cfrControl payload := by
  induction carried with
  | nil => simp
  | cons first rest inductionHypothesis =>
      obtain ⟨endpoint, endpoint_eq, carries⟩ := first
      obtain ⟨recipients_eq, contents⟩ := inductionHypothesis
      constructor
      · rw [List.map_cons, List.filterMap_cons_some endpoint_eq, recipients_eq,
          carries.recipient_eq]
      · intro envelope member
        rcases List.mem_cons.mp member with rfl | later
        · exact ⟨carries.federation_eq, carries.body_eq⟩
        · exact contents envelope later

/-- A message to everyone. -/
theorem routeOutbound_everyone_exact
    [Std.LawfulEqOrd SigPublic]
    (bindings : CfrEndpointBindings SigPublic)
    (connections : PeerConnections)
    (signer : EndpointSigner)
    (payload : List UInt8) :
    (Broadcasts bindings connections connections.localEndpoint signer payload →
      ∃ envelopes : List Envelope,
        routeOutbound ⟨.everyone, payload⟩ signer bindings connections =
          .ok (envelopes.map .send) ∧
        envelopes.map Envelope.recipient =
          bindings.identities.filterMap bindings.endpoint ∧
        ∀ envelope ∈ envelopes,
          envelope.federation = connections.federation ∧
            envelope.body = .cfrControl payload) ∧
    (¬Broadcasts bindings connections connections.localEndpoint signer payload →
      ∃ error,
        routeOutbound ⟨.everyone, payload⟩ signer bindings connections =
          .error error) := by
  constructor
  · intro ready
    obtain ⟨envelopes, routed, carried⟩ := exists_envelopes ready
      fun identity => CfrEndpointBindings.mem_identities_iff.mp
    refine ⟨envelopes, ?_, recipients_of_carried carried⟩
    refine foldlM_append_eq_ok_iff.mpr ⟨_, routed, ?_⟩
    rw [List.nil_append, ← List.flatMap_def, ← List.map_eq_flatMap]
  · intro unready
    apply exists_error_of_forall_ne_ok
    intro actions routed
    obtain ⟨parts, steps, -⟩ := foldlM_append_eq_ok_iff.mp routed
    have served : ∀ identity endpoint,
        bindings.endpoint identity = some endpoint →
          connections.Reaches endpoint ∧
            Sends connections.localEndpoint signer payload := by
      intro identity endpoint endpoint_eq
      obtain ⟨part, called⟩ := exists_ok_of_forall₂ steps
        (CfrEndpointBindings.mem_identities_iff.mpr ⟨endpoint, endpoint_eq⟩)
      obtain ⟨sends, other, connection, other_eq, filed, established, -⟩ :=
        routeOne_eq_ok_iff.mp called
      rw [endpoint_eq, Option.some.injEq] at other_eq
      rw [other_eq]
      exact ⟨⟨connection, filed, established⟩, sends⟩
    apply unready
    constructor
    · intro identity endpoint endpoint_eq
      exact (served identity endpoint endpoint_eq).1
    · rintro ⟨identity, endpoint, endpoint_eq⟩
      exact (served identity endpoint endpoint_eq).2

/-! ## Reachable clients -/

variable [DecidableEq SigPublic]
variable {primitives : Primitives}
variable {fromBytes : Vector UInt8 32 → SigPublic}
variable {policy : ClientConfiguration SigPublic}

/-- The remote members of the snapshot accepted last along a history. -/
def acceptedMembers
    (policy : ClientConfiguration SigPublic)
    (fromBytes : Vector UInt8 32 → SigPublic)
    (history : List (Request × Reply)) : List FederationMember :=
  match lastAccepted history with
  | none => []
  | some signed => policy.remoteMembers fromBytes signed.configuration

/-- What a client routes, in terms of the snapshot it accepted last and the
connections it has on file. -/
structure ExactFanOut
    (fromBytes : Vector UInt8 32 → SigPublic)
    (policy : ClientConfiguration SigPublic)
    (history : List (Request × Reply))
    (client : FederationClient SigPublic) : Prop where
  /-- The bindings are the remote members of the snapshot accepted last. -/
  bindings_exact : ∀ identity endpoint,
    client.bindings.endpoint identity = some endpoint ↔
      ∃ member ∈ acceptedMembers policy fromBytes history,
        fromBytes member.cfrIdentity = identity ∧ member.endpoint = endpoint
  /-- Distinct identities are bound to distinct endpoints. -/
  bindings_injective : ∀ first second endpoint,
    client.bindings.endpoint first = some endpoint →
      client.bindings.endpoint second = some endpoint → first = second
  /-- No identity is bound to the local endpoint. -/
  never_local : ∀ identity,
    client.bindings.endpoint identity ≠ some policy.localEndpoint
  /-- One control envelope for each remote member. -/
  everyone_ok : ∀ signer payload,
    Broadcasts client.bindings client.connections policy.localEndpoint signer
      payload →
    ∃ envelopes : List Envelope,
      client.routeOutbound ⟨.everyone, payload⟩ signer =
        .ok (envelopes.map .send) ∧
      (envelopes.map Envelope.recipient).Nodup ∧
      (envelopes.map Envelope.recipient).Perm
        ((acceptedMembers policy fromBytes history).map
          FederationMember.endpoint) ∧
      ∀ envelope ∈ envelopes, envelope.federation = policy.federation ∧
        envelope.body = .cfrControl payload
  /-- Nothing at all in every other case. -/
  everyone_error : ∀ signer payload,
    ¬Broadcasts client.bindings client.connections policy.localEndpoint signer
      payload →
    ∃ error, client.routeOutbound ⟨.everyone, payload⟩ signer = .error error
  /-- One control envelope for a single peer. -/
  peer_ok : ∀ signer payload identity endpoint,
    client.bindings.endpoint identity = some endpoint →
    client.connections.Reaches endpoint →
    Sends policy.localEndpoint signer payload →
    ∃ envelope,
      client.routeOutbound ⟨.peer identity, payload⟩ signer =
        .ok [.send envelope] ∧
      Carries policy.federation payload endpoint envelope
  /-- Nothing at all in every other case. -/
  peer_error : ∀ signer payload identity,
    ¬(Sends policy.localEndpoint signer payload ∧
      ∃ endpoint, client.bindings.endpoint identity = some endpoint ∧
        client.connections.Reaches endpoint) →
    ∃ error,
      client.routeOutbound ⟨.peer identity, payload⟩ signer = .error error

namespace FederationClient.Tracks

variable {client : FederationClient SigPublic}
variable {history : List (Request × Reply)}

/-- A snapshot accepted last is acceptable. -/
theorem acceptable_lastAccepted
    (tracks : client.Tracks primitives fromBytes policy history)
    {signed : SignedFederationConfiguration}
    (held : lastAccepted history = some signed) :
    policy.Acceptable primitives fromBytes signed := by
  have newest := tracks.newest
  rw [held] at newest
  exact newest.2.1

/-- The accepted members are none, or the remote members of an acceptable
snapshot. -/
theorem acceptedMembers_cases
    (tracks : client.Tracks primitives fromBytes policy history) :
    acceptedMembers policy fromBytes history = [] ∨
      ∃ signed, policy.Acceptable primitives fromBytes signed ∧
        acceptedMembers policy fromBytes history =
          policy.remoteMembers fromBytes signed.configuration := by
  rw [acceptedMembers]
  cases held : lastAccepted history with
  | none => exact .inl rfl
  | some signed =>
      exact .inr ⟨signed, tracks.acceptable_lastAccepted held, rfl⟩

theorem nodup_identities
    (injective : Function.Injective fromBytes)
    (tracks : client.Tracks primitives fromBytes policy history) :
    ((acceptedMembers policy fromBytes history).map fun member =>
      fromBytes member.cfrIdentity).Nodup := by
  rcases tracks.acceptedMembers_cases with
    members_eq | ⟨signed, acceptable, members_eq⟩
  · rw [members_eq]
    exact List.nodup_nil
  · rw [members_eq]
    exact ClientConfiguration.nodup_identities_remoteMembers injective
      acceptable.wellFormed

theorem nodup_endpoints
    (tracks : client.Tracks primitives fromBytes policy history) :
    ((acceptedMembers policy fromBytes history).map
      FederationMember.endpoint).Nodup := by
  rcases tracks.acceptedMembers_cases with
    members_eq | ⟨signed, acceptable, members_eq⟩
  · rw [members_eq]
    exact List.nodup_nil
  · rw [members_eq]
    exact ClientConfiguration.nodup_endpoints_remoteMembers
      acceptable.wellFormed

theorem endpoint_ne_local
    (tracks : client.Tracks primitives fromBytes policy history)
    {member : FederationMember}
    (remote : member ∈ acceptedMembers policy fromBytes history) :
    member.endpoint ≠ policy.localEndpoint := by
  rcases tracks.acceptedMembers_cases with
    members_eq | ⟨signed, acceptable, members_eq⟩
  · rw [members_eq] at remote
    exact absurd remote List.not_mem_nil
  · rw [members_eq, ClientConfiguration.mem_remoteMembers_iff] at remote
    exact acceptable.bindsLocal.endpoint_ne acceptable.wellFormed remote.1
      remote.2

variable [Std.LawfulEqOrd SigPublic]

theorem endpoint_eq_some_iff
    (injective : Function.Injective fromBytes)
    (tracks : client.Tracks primitives fromBytes policy history)
    {identity : SigPublic}
    {endpoint : EndpointIdentity} :
    client.bindings.endpoint identity = some endpoint ↔
      ∃ member ∈ acceptedMembers policy fromBytes history,
        fromBytes member.cfrIdentity = identity ∧
          member.endpoint = endpoint := by
  rw [tracks.bindings_eq, acceptedMembers]
  cases held : lastAccepted history with
  | none => simp
  | some signed =>
      exact ClientConfiguration.endpoint_bindingsOf_eq_some_iff injective
        (tracks.acceptable_lastAccepted held).wellFormed

/-- The endpoints of the bound identities are those of the remote members. -/
theorem endpoints_perm
    (injective : Function.Injective fromBytes)
    (tracks : client.Tracks primitives fromBytes policy history) :
    (client.bindings.identities.filterMap client.bindings.endpoint).Perm
      ((acceptedMembers policy fromBytes history).map
        FederationMember.endpoint) := by
  have identities_perm : client.bindings.identities.Perm
      ((acceptedMembers policy fromBytes history).map fun member =>
        fromBytes member.cfrIdentity) := by
    apply (List.perm_ext_iff_of_nodup client.bindings.nodup_identities
      (tracks.nodup_identities injective)).mpr
    intro identity
    rw [CfrEndpointBindings.mem_identities_iff, List.mem_map]
    simp only [tracks.endpoint_eq_some_iff injective]
    constructor
    · rintro ⟨_, member, member_mem, identity_eq, -⟩
      exact ⟨member, member_mem, identity_eq⟩
    · rintro ⟨member, member_mem, identity_eq⟩
      exact ⟨_, member, member_mem, identity_eq, rfl⟩
  apply (identities_perm.filterMap client.bindings.endpoint).trans
  rw [List.filterMap_map]
  apply List.Perm.of_eq
  rw [← List.filterMap_eq_map]
  apply List.filterMap_congr
  intro member member_mem
  exact (tracks.endpoint_eq_some_iff injective).mpr
    ⟨member, member_mem, rfl, rfl⟩

end FederationClient.Tracks

/-- Every reachable client fans out exactly. -/
theorem exact_fan_out
    [Std.LawfulEqOrd SigPublic]
    (fromBytes : Vector UInt8 32 → SigPublic)
    (injective : Function.Injective fromBytes)
    (primitives : Primitives)
    (policy : ClientConfiguration SigPublic)
    (requests : List Request) :
    ExactFanOut fromBytes policy
      ((FederationClient.new policy).session primitives fromBytes
        requests).history
      ((FederationClient.new policy).session primitives fromBytes
        requests).state := by
  have tracks := FederationClient.session_tracks injective primitives policy
    requests
  generalize (FederationClient.new policy).session primitives fromBytes
    requests = session at tracks
  have everyone := routeOutbound_everyone_exact session.state.bindings
    session.state.connections
  have peer := fun identity signer payload => routeOne_exact
    ⟨.peer identity, payload⟩ signer session.state.bindings
    session.state.connections identity
  simp only [tracks.federation_eq, tracks.local_eq] at everyone peer
  constructor
  case bindings_exact =>
    intro identity endpoint
    exact tracks.endpoint_eq_some_iff injective
  case bindings_injective =>
    intro first second endpoint firstBound secondBound
    obtain ⟨left, left_mem, rfl, left_eq⟩ :=
      (tracks.endpoint_eq_some_iff injective).mp firstBound
    obtain ⟨right, right_mem, rfl, right_eq⟩ :=
      (tracks.endpoint_eq_some_iff injective).mp secondBound
    have same : left = right := List.inj_on_of_nodup_map tracks.nodup_endpoints
      left_mem right_mem (left_eq.trans right_eq.symm)
    rw [same]
  case never_local =>
    intro identity bound
    obtain ⟨member, member_mem, -, endpoint_eq⟩ :=
      (tracks.endpoint_eq_some_iff injective).mp bound
    exact tracks.endpoint_ne_local member_mem endpoint_eq
  case everyone_ok =>
    intro signer payload ready
    obtain ⟨envelopes, routed, recipients_eq, contents⟩ :=
      (everyone signer payload).1 ready
    have recipients_perm := tracks.endpoints_perm injective
    rw [← recipients_eq] at recipients_perm
    refine ⟨envelopes, routed, ?_, recipients_perm, contents⟩
    exact recipients_perm.nodup_iff.mpr tracks.nodup_endpoints
  case everyone_error =>
    intro signer payload
    exact (everyone signer payload).2
  case peer_ok =>
    intro signer payload identity
    exact (peer identity signer payload).1
  case peer_error =>
    intro signer payload identity
    exact (peer identity signer payload).2

/-! ## A sample client -/

omit [Std.TransOrd SigPublic] [DecidableEq SigPublic] in
/-- A connection with the pins of the directory is filed. -/
theorem FederationClient.call_insertConnection
    {client : FederationClient SigPublic}
    {connection : Connection}
    (federation_eq : connection.federation = client.connections.federation)
    (local_eq : connection.localEndpoint = client.connections.localEndpoint) :
    (FederationClient.insertConnection connection).call client =
      (.ok client.connections.entries[connection.remoteEndpoint]?,
        { client with connections :=
          client.connections.file connection federation_eq local_eq }) := by
  have matched : ¬(connection.federation ≠ client.connections.federation ∨
      connection.localEndpoint ≠ client.connections.localEndpoint) :=
    not_or.mpr ⟨not_not.mpr federation_eq, not_not.mpr local_eq⟩
  rw [FederationClient.insertConnection, Method.call_focus,
    PeerConnections.insert, Method.call_get_bind, dif_neg matched]
  rfl

/-- A client that has accepted one remote member and reaches it sends one envelope
there, for a message to everyone and for one to the peer. -/
theorem ExactFanOut.routes_single
    {history : List (Request × Reply)}
    {client : FederationClient SigPublic}
    {remote : FederationMember}
    (fanOut : ExactFanOut fromBytes policy history client)
    (members_eq : acceptedMembers policy fromBytes history = [remote])
    (reached : client.connections.Reaches remote.endpoint)
    (sends : Sends policy.localEndpoint signer payload) :
    (∃ envelope,
      client.routeOutbound ⟨.everyone, payload⟩ signer =
        .ok [.send envelope] ∧
      envelope.recipient = remote.endpoint) ∧
    ∃ envelope,
      client.routeOutbound ⟨.peer (fromBytes remote.cfrIdentity), payload⟩
        signer = .ok [.send envelope] ∧
      envelope.recipient = remote.endpoint := by
  have ready : Broadcasts client.bindings client.connections
      policy.localEndpoint signer payload := by
    refine ⟨fun identity endpoint found => ?_, fun _ => sends⟩
    obtain ⟨member, member_mem, -, rfl⟩ := (fanOut.bindings_exact _ _).mp found
    rw [members_eq] at member_mem
    obtain rfl := List.mem_singleton.mp member_mem
    exact reached
  have bound : client.bindings.endpoint (fromBytes remote.cfrIdentity) =
      some remote.endpoint := by
    refine (fanOut.bindings_exact _ _).mpr ⟨remote, ?_, rfl, rfl⟩
    rw [members_eq]
    exact List.mem_cons_self
  constructor
  · obtain ⟨envelopes, routed, -, recipients, -⟩ :=
      fanOut.everyone_ok signer payload ready
    rw [members_eq] at recipients
    obtain ⟨envelope, rfl, recipient_eq⟩ :=
      List.map_eq_singleton_iff.mp (List.perm_singleton.mp recipients)
    exact ⟨envelope, routed, recipient_eq⟩
  · obtain ⟨envelope, routed, carries⟩ :=
      fanOut.peer_ok signer payload _ _ bound reached sends
    exact ⟨envelope, routed, carries.recipient_eq⟩

/-- The member that the sample client acts for. -/
def sampleSelf : FederationMember :=
  ⟨Vector.replicate 32 0, .sample 0⟩

/-- The other member of the sample federation. -/
def sampleRemote : FederationMember :=
  ⟨Vector.replicate 32 1, .sample 1⟩

/-- The policy of the sample client. -/
def samplePolicy : ClientConfiguration (Vector UInt8 32) :=
  ⟨⟨Vector.replicate 32 0⟩, .sample 9, sampleSelf.cfrIdentity, .sample 0⟩

/-- A snapshot with both members. -/
def sampleSnapshot : SignedFederationConfiguration :=
  ⟨⟨⟨Vector.replicate 32 0⟩, .sample 9, 1, [sampleSelf, sampleRemote]⟩,
    Vector.replicate 64 0, Vector.replicate _ 0⟩

theorem sampleRemote_cfrIdentity_ne :
    sampleSelf.cfrIdentity ≠ sampleRemote.cfrIdentity := by
  decide

theorem sampleSnapshot_acceptable :
    samplePolicy.Acceptable .sample id sampleSnapshot := by
  have wellFormed : sampleSnapshot.configuration.WellFormed :=
    FederationConfiguration.wellFormed_of_two rfl sampleRemote_cfrIdentity_ne
      (EndpointIdentity.sample_ne (by decide))
  exact ⟨SignedFederationConfiguration.verify_eq_ok_iff.mpr
    ⟨wellFormed, rfl, rfl⟩, rfl, rfl, sampleSelf, List.mem_cons_self, rfl, rfl⟩

/-- A new client takes the snapshot over. -/
theorem perform_sampleSnapshot :
    (Request.applyConfiguration sampleSnapshot).perform .sample id
      (FederationClient.new samplePolicy) =
        (.ok none, (FederationClient.new samplePolicy).adopting id
          sampleSnapshot.configuration) :=
  Method.call_map_eq_ok_iff.mpr ⟨(),
    (FederationClient.call_applyConfiguration_eq_ok_iff
      Function.injective_id).mpr ⟨sampleSnapshot_acceptable,
        by simp [FederationClient.new], rfl⟩, rfl⟩

/-- A negotiation establishes a connection between the two members. -/
theorem exists_sample_connection :
    ∃ connection : Connection,
      connection.federation = samplePolicy.federation ∧
      connection.localEndpoint = samplePolicy.localEndpoint ∧
      connection.remoteEndpoint = sampleRemote.endpoint ∧
      connection.phase = .established := by
  obtain ⟨network, -, reachable, -, phases, -⟩ :=
    ConnectionNetwork.exists_sample_negotiation fun _ => True
  have pins := ConnectionNetwork.pins_eq reachable .left
  exact ⟨network.states .left, congrArg Prod.fst pins,
    congrArg (fun pins => pins.2.2.1) pins,
    congrArg (fun pins => pins.2.2.2) pins, phases .left⟩

/-- A client that has accepted a snapshot with one remote member reaches it by an
established connection, with a message to everyone and with one to the peer. -/
theorem exact_fan_out_sample :
    ∃ (policy : ClientConfiguration (Vector UInt8 32))
      (signed : SignedFederationConfiguration)
      (remote : FederationMember)
      (connection : Connection),
      let session := (FederationClient.new policy).session .sample id
        [.applyConfiguration signed, .insertConnection connection]
      acceptedMembers policy id session.history = [remote] ∧
        ExactFanOut id policy session.history session.state ∧
        (∃ envelope,
          session.state.routeOutbound ⟨.everyone, [7]⟩ (.sample 0) =
            .ok [.send envelope] ∧
          envelope.recipient = remote.endpoint) ∧
        ∃ envelope,
          session.state.routeOutbound ⟨.peer remote.cfrIdentity, [7]⟩
            (.sample 0) = .ok [.send envelope] ∧
          envelope.recipient = remote.endpoint := by
  obtain ⟨connection, federation_eq, local_eq, remote_eq, established⟩ :=
    exists_sample_connection
  let adopted := (FederationClient.new samplePolicy).adopting id
    sampleSnapshot.configuration
  let connected : FederationClient (Vector UInt8 32) := { adopted with
    connections := adopted.connections.file connection federation_eq local_eq }
  have inserted : (Request.insertConnection connection).perform .sample id
      adopted = (.ok none, connected) :=
    FederationClient.call_insertConnection federation_eq local_eq
  refine ⟨samplePolicy, sampleSnapshot, sampleRemote, connection, ?_⟩
  intro session
  have fanOut : ExactFanOut id samplePolicy session.history session.state :=
    exact_fan_out id Function.injective_id .sample samplePolicy _
  have session_eq : session = ⟨connected,
      [(.applyConfiguration sampleSnapshot, .ok none),
        (.insertConnection connection, .ok none)]⟩ := by
    simp only [session, FederationClient.session, Session.run_cons,
      Session.run_nil, Session.advance, Session.start, perform_sampleSnapshot]
    rw [inserted]
    rfl
  clear_value session
  have members_eq : acceptedMembers samplePolicy id session.history =
      [sampleRemote] := by
    rw [session_eq]
    change samplePolicy.remoteMembers id sampleSnapshot.configuration = _
    simp [ClientConfiguration.remoteMembers, sampleSnapshot, samplePolicy,
      sampleRemote_cfrIdentity_ne.symm]
  have reached : session.state.connections.Reaches sampleRemote.endpoint := by
    rw [session_eq]
    refine ⟨connection, ?_, established⟩
    rw [← remote_eq]
    exact Std.ExtTreeMap.getElem?_insert_self
  exact ⟨members_eq, fanOut,
    fanOut.routes_single members_eq reached ⟨rfl, by decide⟩⟩

end Client
end Fcp
