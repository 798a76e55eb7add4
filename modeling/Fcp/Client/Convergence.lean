import Fcp.Server.FederationServer
import Fcp.Client.Acceptance

/-!
# Configuration convergence

A server never publishes two contents for one epoch, and a client only moves
forward to acceptable snapshots.  What a client ends with is therefore decided
by the set of snapshots that reach it.
-/

namespace Fcp
namespace Client

open Fcp.Core
open Fcp.Server (FederationServer published)
open Reactive

variable {SigPublic : Type} [Ord SigPublic] [Std.TransOrd SigPublic]
  [DecidableEq SigPublic]
variable {primitives : Primitives}
variable {fromBytes : Vector UInt8 32 → SigPublic}
variable {policy : ClientConfiguration SigPublic}

namespace FederationClient

/-- The client after snapshots have been applied one after the other. -/
def applyAll
    (primitives : Primitives)
    (fromBytes : Vector UInt8 32 → SigPublic)
    (client : FederationClient SigPublic)
    (delivered : List SignedFederationConfiguration) :
    FederationClient SigPublic :=
  (client.session primitives fromBytes
    (delivered.map .applyConfiguration)).state

theorem offered_applyAll
    (client : FederationClient SigPublic)
    (delivered : List SignedFederationConfiguration) :
    offered (client.session primitives fromBytes
      (delivered.map .applyConfiguration)).history = delivered := by
  induction delivered using List.reverseRecOn with
  | nil => rfl
  | append_singleton delivered signed inductionHypothesis =>
      rw [List.map_append, List.map_singleton, session, Session.run_concat,
        Session.advance, offered_concat]
      exact congrArg (· ++ [signed]) inductionHypothesis

/-- Snapshots do not touch the directory of connections. -/
theorem connections_applyAll
    (injective : Function.Injective fromBytes)
    (client : FederationClient SigPublic)
    (delivered : List SignedFederationConfiguration) :
    (client.applyAll primitives fromBytes delivered).connections =
      client.connections := by
  induction delivered using List.reverseRecOn with
  | nil => rfl
  | append_singleton delivered signed inductionHypothesis =>
      rw [applyAll, List.map_append, List.map_singleton, session,
        Session.run_concat, Session.advance]
      rw [applyAll, session] at inductionHypothesis
      rcases Request.perform_cases injective primitives
          (Session.run (Request.perform primitives fromBytes) (.start client)
            (delivered.map .applyConfiguration)).state
          (.applyConfiguration signed) with
        ⟨_, -, -, -, performed⟩ | ⟨_, _, -, -, performed⟩ |
        ⟨_, _, impossible, -⟩
      · rw [performed]
        exact inductionHypothesis
      · rw [performed]
        exact inductionHypothesis
      · cases impossible

/-- The client holds the snapshot of the highest epoch among those delivered
that bind its CFR identity to its endpoint, or is as new if there is none. -/
def Settled
    (fromBytes : Vector UInt8 32 → SigPublic)
    (policy : ClientConfiguration SigPublic)
    (delivered : List SignedFederationConfiguration)
    (client : FederationClient SigPublic) : Prop :=
  (∃ newest ∈ delivered,
    policy.BindsLocal fromBytes newest.configuration ∧
    (∀ other ∈ delivered, policy.BindsLocal fromBytes other.configuration →
      other.configuration.epoch ≤ newest.configuration.epoch) ∧
    client.acceptedEpoch = some newest.configuration.epoch ∧
    ∀ identity endpoint, client.bindings.endpoint identity = some endpoint ↔
      ∃ member ∈ newest.configuration.members,
        fromBytes member.cfrIdentity = identity ∧
          identity ≠ policy.localCfrIdentity ∧ member.endpoint = endpoint) ∨
  ((∀ other ∈ delivered, ¬policy.BindsLocal fromBytes other.configuration) ∧
    client = new policy)

/-- Equal clients: the snapshot held last and the directory decide the rest. -/
theorem Tracks.eq_of_configuration_eq
    {first second : FederationClient SigPublic}
    {firstHistory secondHistory : List (Request × Reply)}
    (firstTracks : first.Tracks primitives fromBytes policy firstHistory)
    (secondTracks : second.Tracks primitives fromBytes policy secondHistory)
    (same : (lastAccepted firstHistory).map (·.configuration) =
      (lastAccepted secondHistory).map (·.configuration))
    (connections_eq : first.connections = second.connections) :
    first = second := by
  have epochs := congrArg (Option.map FederationConfiguration.epoch) same
  have bindings := congrArg (Option.map (policy.bindingsOf fromBytes)) same
  simp only [Option.map_map] at epochs bindings
  have epoch_eq : first.acceptedEpoch = second.acceptedEpoch := by
    rw [firstTracks.epoch_eq, secondTracks.epoch_eq]
    exact epochs
  have bindings_eq : first.bindings = second.bindings := by
    rw [firstTracks.bindings_eq, secondTracks.bindings_eq]
    exact congrArg (Option.getD · .new) bindings
  cases first
  cases second
  simp only [mk.injEq]
  exact ⟨firstTracks.policy_eq.trans secondTracks.policy_eq.symm, epoch_eq,
    bindings_eq, connections_eq⟩

/-- A client that was given nothing but acceptable or unbound snapshots has
settled on the newest one. -/
theorem settled_applyAll
    [Std.LawfulEqOrd SigPublic]
    (injective : Function.Injective fromBytes)
    {delivered : List SignedFederationConfiguration}
    (acceptable_iff : ∀ signed ∈ delivered,
      policy.Acceptable primitives fromBytes signed ↔
        policy.BindsLocal fromBytes signed.configuration) :
    Settled fromBytes policy delivered
      ((new policy).applyAll primitives fromBytes delivered) := by
  have tracks := session_tracks injective primitives policy
    (delivered.map .applyConfiguration)
  have newest := tracks.newest
  rw [offered_applyAll] at newest
  cases held : lastAccepted ((new policy).session primitives fromBytes
      (delivered.map .applyConfiguration)).history with
  | none =>
      rw [held] at newest
      right
      constructor
      · intro other member bound
        exact newest other member ((acceptable_iff other member).mpr bound)
      · apply tracks.eq_of_configuration_eq
          (Tracks.start primitives fromBytes policy)
        · rw [held]
          rfl
        · exact connections_applyAll injective _ delivered
  | some signed =>
      rw [held] at newest
      obtain ⟨member, acceptable, highest⟩ := newest
      left
      refine ⟨signed, member, acceptable.bindsLocal, ?_, ?_, ?_⟩
      · intro other otherMember bound
        apply UInt64.le_iff_toNat_le.mpr
        exact highest other otherMember
          ((acceptable_iff other otherMember).mpr bound)
      · exact tracks.epoch_eq.trans (by rw [held]; rfl)
      · intro identity endpoint
        have bindings_eq : ((new policy).applyAll primitives fromBytes
            delivered).bindings =
              policy.bindingsOf fromBytes signed.configuration :=
          tracks.bindings_eq.trans (by rw [held]; rfl)
        rw [bindings_eq, ClientConfiguration.endpoint_bindingsOf_eq_some_iff
          injective acceptable.wellFormed]
        constructor
        · rintro ⟨remote, remote_mem, rfl, endpoint_eq⟩
          obtain ⟨remote_mem, isRemote⟩ :=
            ClientConfiguration.mem_remoteMembers_iff.mp remote_mem
          exact ⟨remote, remote_mem, rfl, isRemote, endpoint_eq⟩
        · rintro ⟨remote, remote_mem, rfl, isRemote, endpoint_eq⟩
          refine ⟨remote, ?_, rfl, endpoint_eq⟩
          exact ClientConfiguration.mem_remoteMembers_iff.mpr
            ⟨remote_mem, isRemote⟩

/-- Two clients that were given the same set of coherent snapshots are equal. -/
theorem applyAll_eq_of_same_set
    (injective : Function.Injective fromBytes)
    {first second : List SignedFederationConfiguration}
    (coherent : ∀ left ∈ first, ∀ right ∈ first,
      left.configuration.epoch = right.configuration.epoch →
        left.configuration = right.configuration)
    (same : ∀ signed, signed ∈ first ↔ signed ∈ second) :
    (new policy).applyAll primitives fromBytes first =
      (new policy).applyAll primitives fromBytes second := by
  have firstTracks := session_tracks injective primitives policy
    (first.map .applyConfiguration)
  have secondTracks := session_tracks injective primitives policy
    (second.map .applyConfiguration)
  apply firstTracks.eq_of_configuration_eq secondTracks
  · have firstNewest := firstTracks.newest
    have secondNewest := secondTracks.newest
    rw [offered_applyAll] at firstNewest secondNewest
    apply firstNewest.map_eq _ same secondNewest
    intro left left_mem right right_mem epoch_eq
    exact coherent left left_mem right right_mem (UInt64.toNat_inj.mp epoch_eq)
  · rw [← applyAll, ← applyAll, connections_applyAll injective,
      connections_applyAll injective]

end FederationClient

/-! ## Server and clients together -/

/-- The snapshots of a server lead every client pinned to it to the same state,
whatever the order in which they arrive. -/
structure Convergence
    (primitives : Primitives)
    (fromBytes : Vector UInt8 32 → SigPublic)
    (federation : FederationId)
    (authority : EndpointIdentity)
    (snapshots : List SignedFederationConfiguration) : Prop where
  /-- One epoch has one content. -/
  coherent : ∀ first ∈ snapshots, ∀ second ∈ snapshots,
    first.configuration.epoch = second.configuration.epoch →
      first.configuration = second.configuration
  /-- A client ends with the newest delivered snapshot that binds it. -/
  settled : ∀ policy : ClientConfiguration SigPublic,
    policy.federation = federation → policy.authority = authority →
      ∀ delivered, (∀ signed ∈ delivered, signed ∈ snapshots) →
        FederationClient.Settled fromBytes policy delivered
          ((FederationClient.new policy).applyAll primitives fromBytes
            delivered)
  /-- The order of arrival, drops and repetitions do not matter. -/
  order_free : ∀ (policy : ClientConfiguration SigPublic) first second,
    (∀ signed ∈ first, signed ∈ snapshots) →
      (∀ signed, signed ∈ first ↔ signed ∈ second) →
        (FederationClient.new policy).applyAll primitives fromBytes first =
          (FederationClient.new policy).applyAll primitives fromBytes second

/-- The runs of a server with an honest signer converge. -/
theorem configuration_convergence
    [Std.LawfulEqOrd SigPublic]
    (primitives : Primitives)
    (fromBytes : Vector UInt8 32 → SigPublic)
    (injective : Function.Injective fromBytes)
    (federation : FederationId)
    (signer : EndpointSigner)
    (honest : signer.Honest primitives)
    (server : FederationServer)
    (created : FederationServer.new federation signer = .ok server)
    (requests : List Server.Request) :
    Convergence primitives fromBytes federation signer.endpoint
      (published (server.session requests).history) := by
  have ledger := FederationServer.session_ledger federation signer created
    requests
  constructor
  case coherent => exact ledger.coherent
  case settled =>
    intro policy federation_eq authority_eq delivered fromServer
    apply FederationClient.settled_applyAll injective
    intro signed member
    have made := ledger.signed signed (fromServer signed member)
    constructor
    · exact ClientConfiguration.Acceptable.bindsLocal
    · intro bound
      refine ⟨SignedFederationConfiguration.verify_of_sign_eq_ok honest made,
        ?_, ?_, bound⟩
      · rw [federation_eq]
        exact ledger.origin signed (fromServer signed member)
      · rw [authority_eq]
        exact (SignedFederationConfiguration.sign_eq_ok_iff.mp made).2.1
  case order_free =>
    intro policy first second fromServer same
    apply FederationClient.applyAll_eq_of_same_set injective _ same
    intro left left_mem right right_mem
    exact ledger.coherent left (fromServer left left_mem) right
      (fromServer right right_mem)

/-- A server is given two members and publishes, and a client of one of them
takes the snapshot over. -/
theorem configuration_convergence_sample :
    ∃ server snapshot,
      FederationServer.new ⟨Vector.replicate 32 0⟩ (.sample 0) = .ok server ∧
      published (server.session
        [.replaceMembers 1 [⟨Vector.replicate 32 7, .sample 1⟩,
          ⟨Vector.replicate 32 8, .sample 2⟩], .publish]).history =
            [snapshot] ∧
      Convergence Primitives.sample (id : Vector UInt8 32 → Vector UInt8 32)
        ⟨Vector.replicate 32 0⟩ (EndpointIdentity.sample 0) [snapshot] ∧
      ∃ policy : ClientConfiguration (Vector UInt8 32),
        let client := (FederationClient.new policy).applyAll .sample id
          [snapshot]
        client.acceptedEpoch = some 1 ∧
          client.bindings.endpoint (Vector.replicate 32 8) =
            some (.sample 2) := by
  let member : FederationMember := ⟨Vector.replicate 32 7, .sample 1⟩
  let remote : FederationMember := ⟨Vector.replicate 32 8, .sample 2⟩
  let configuration : FederationConfiguration :=
    ⟨⟨Vector.replicate 32 0⟩, .sample 0, 1, [member, remote]⟩
  have created := (@FederationServer.new_eq_ok_iff ⟨Vector.replicate 32 0⟩
    (.sample 0) _).mpr rfl
  have identity_ne : member.cfrIdentity ≠ remote.cfrIdentity := by decide
  have wellFormed : configuration.WellFormed :=
    FederationConfiguration.wellFormed_of_two rfl identity_ne
      (EndpointIdentity.sample_ne (by decide))
  obtain ⟨snapshot, content, served⟩ := @FederationServer.exists_published
    ⟨.sample 0, ⟨_, (EndpointSigner.sample 0).endpoint, 0, []⟩⟩ configuration
    rfl rfl rfl (by decide : (0 : UInt64) < 1) wellFormed
  have convergence := configuration_convergence .sample
    (id : Vector UInt8 32 → Vector UInt8 32) Function.injective_id _ _
    (EndpointSigner.sample_honest 0) _ created
    [.replaceMembers configuration.epoch configuration.members, .publish]
  rw [served] at convergence
  refine ⟨_, _, created, served, convergence,
    ⟨⟨Vector.replicate 32 0⟩, .sample 0, member.cfrIdentity, .sample 1⟩, ?_⟩
  rcases convergence.settled
    ⟨⟨Vector.replicate 32 0⟩, .sample 0, member.cfrIdentity, .sample 1⟩ rfl rfl
    [snapshot] (fun _ mem => mem) with
    ⟨newest, newest_mem, -, -, epoch_eq, bindings_iff⟩ | ⟨unbound, -⟩
  · obtain rfl := List.mem_singleton.mp newest_mem
    rw [content] at epoch_eq bindings_iff
    refine ⟨epoch_eq, (bindings_iff _ _).mpr ⟨remote, ?_, rfl, ?_, rfl⟩⟩
    · exact List.mem_cons_of_mem _ List.mem_cons_self
    · exact identity_ne.symm
  · refine absurd ?_ (unbound snapshot List.mem_cons_self)
    rw [content]
    exact ⟨member, List.mem_cons_self, rfl, rfl⟩

end Client
end Fcp
