import Fcp.Reactive.Session
import Fcp.Reactive.Register
import Fcp.Client.FederationClient

/-!
# Accepted snapshots

A client is a register of snapshots.  It takes over a snapshot that its policy
accepts at a strictly newer epoch, and its bindings are those of the remote
members of the snapshot it took over last.
-/

namespace Fcp
namespace Client

open Fcp.Core
open Reactive
open Rust

variable {SigPublic : Type}
variable {fromBytes : Vector UInt8 32 → SigPublic}

/-! ## Members of a snapshot -/

namespace ClientConfiguration

section Members

variable [DecidableEq SigPublic] {policy : ClientConfiguration SigPublic}

/-- The members of a snapshot other than the local one. -/
def remoteMembers
    (policy : ClientConfiguration SigPublic)
    (fromBytes : Vector UInt8 32 → SigPublic)
    (configuration : FederationConfiguration) : List FederationMember :=
  configuration.members.filter fun member =>
    fromBytes member.cfrIdentity ≠ policy.localCfrIdentity

theorem mem_remoteMembers_iff
    {configuration : FederationConfiguration}
    {member : FederationMember} :
    member ∈ policy.remoteMembers fromBytes configuration ↔
      member ∈ configuration.members ∧
        fromBytes member.cfrIdentity ≠ policy.localCfrIdentity := by
  simp [remoteMembers]

theorem nodup_identities_remoteMembers
    {configuration : FederationConfiguration}
    (injective : Function.Injective fromBytes)
    (wellFormed : configuration.WellFormed) :
    ((policy.remoteMembers fromBytes configuration).map fun member =>
      fromBytes member.cfrIdentity).Nodup := by
  have allDistinct := wellFormed.identities_nodup.map injective
  rw [List.map_map] at allDistinct
  exact allDistinct.sublist (List.filter_sublist.map _)

theorem nodup_endpoints_remoteMembers
    {configuration : FederationConfiguration}
    (wellFormed : configuration.WellFormed) :
    ((policy.remoteMembers fromBytes configuration).map
      FederationMember.endpoint).Nodup :=
  wellFormed.endpoints_nodup.sublist (List.filter_sublist.map _)

end Members

/-- A snapshot binds the local CFR identity to the local endpoint. -/
def BindsLocal
    (policy : ClientConfiguration SigPublic)
    (fromBytes : Vector UInt8 32 → SigPublic)
    (configuration : FederationConfiguration) : Prop :=
  ∃ member ∈ configuration.members,
    fromBytes member.cfrIdentity = policy.localCfrIdentity ∧
      member.endpoint = policy.localEndpoint

/-- Of a snapshot with distinct identities, no member can bind the local CFR
identity elsewhere. -/
theorem BindsLocal.endpoint_eq
    {policy : ClientConfiguration SigPublic}
    {configuration : FederationConfiguration}
    (bound : policy.BindsLocal fromBytes configuration)
    (injective : Function.Injective fromBytes)
    (wellFormed : configuration.WellFormed)
    {member : FederationMember}
    (member_mem : member ∈ configuration.members)
    (isLocal : fromBytes member.cfrIdentity = policy.localCfrIdentity) :
    member.endpoint = policy.localEndpoint := by
  obtain ⟨other, other_mem, otherLocal, endpoint_eq⟩ := bound
  have identity_eq : member.cfrIdentity = other.cfrIdentity :=
    injective (isLocal.trans otherLocal.symm)
  have same : member = other :=
    List.inj_on_of_nodup_map wellFormed.identities_nodup member_mem other_mem
      identity_eq
  rw [same, endpoint_eq]

/-- Of a snapshot with distinct endpoints, no remote member has the local
endpoint. -/
theorem BindsLocal.endpoint_ne
    {policy : ClientConfiguration SigPublic}
    {configuration : FederationConfiguration}
    (bound : policy.BindsLocal fromBytes configuration)
    (wellFormed : configuration.WellFormed)
    {member : FederationMember}
    (member_mem : member ∈ configuration.members)
    (isRemote : fromBytes member.cfrIdentity ≠ policy.localCfrIdentity) :
    member.endpoint ≠ policy.localEndpoint := by
  obtain ⟨self, self_mem, isLocal, endpoint_eq⟩ := bound
  intro equal
  have same : member = self :=
    List.inj_on_of_nodup_map wellFormed.endpoints_nodup member_mem self_mem
      (equal.trans endpoint_eq.symm)
  rw [same] at isRemote
  exact isRemote isLocal

/-- Everything a policy asks of a snapshot, its freshness aside. -/
structure Acceptable
    (policy : ClientConfiguration SigPublic)
    (primitives : Primitives)
    (fromBytes : Vector UInt8 32 → SigPublic)
    (signed : SignedFederationConfiguration) : Prop where
  verified : signed.verify primitives = .ok ()
  federation_eq : signed.configuration.federation = policy.federation
  authority_eq : signed.configuration.authority = policy.authority
  bindsLocal : policy.BindsLocal fromBytes signed.configuration

theorem Acceptable.wellFormed
    {policy : ClientConfiguration SigPublic}
    {primitives : Primitives}
    {signed : SignedFederationConfiguration}
    (acceptable : policy.Acceptable primitives fromBytes signed) :
    signed.configuration.WellFormed :=
  (SignedFederationConfiguration.verify_eq_ok_iff.mp acceptable.verified).1

end ClientConfiguration

variable {policy : ClientConfiguration SigPublic} {primitives : Primitives}
variable [Ord SigPublic] [Std.TransOrd SigPublic]

/-! ## Bindings of a member list -/

namespace CfrEndpointBindings

@[simp] theorem endpoint_new (identity : SigPublic) :
    (new : CfrEndpointBindings SigPublic).endpoint identity = none := by
  simp [endpoint, new]

theorem nodup_identities (bindings : CfrEndpointBindings SigPublic) :
    bindings.identities.Nodup :=
  Std.ExtTreeMap.nodup_keys

theorem mem_identities_iff
    [Std.LawfulEqOrd SigPublic]
    {bindings : CfrEndpointBindings SigPublic}
    {identity : SigPublic} :
    identity ∈ bindings.identities ↔
      ∃ endpoint, bindings.endpoint identity = some endpoint := by
  rw [identities, Std.ExtTreeMap.mem_keys, endpoint,
    Std.ExtTreeMap.mem_iff_isSome_getElem?, Option.isSome_iff_exists]

/-- Bind every member of a list. -/
def bindAll
    (fromBytes : Vector UInt8 32 → SigPublic)
    (bindings : CfrEndpointBindings SigPublic)
    (members : List FederationMember) : CfrEndpointBindings SigPublic :=
  members.foldl
    (fun bindings member =>
      (bindings.bind (fromBytes member.cfrIdentity) member.endpoint).2)
    bindings

end CfrEndpointBindings

variable [DecidableEq SigPublic]

namespace ClientConfiguration

/-- The bindings that a snapshot stands for. -/
def bindingsOf
    (policy : ClientConfiguration SigPublic)
    (fromBytes : Vector UInt8 32 → SigPublic)
    (configuration : FederationConfiguration) :
    CfrEndpointBindings SigPublic :=
  CfrEndpointBindings.new.bindAll fromBytes
    (policy.remoteMembers fromBytes configuration)

theorem bindMember_of_local
    {member : FederationMember}
    (isLocal : fromBytes member.cfrIdentity = policy.localCfrIdentity)
    {bindings : CfrEndpointBindings SigPublic}
    {seen : Bool}
    {progress : CfrEndpointBindings SigPublic × Bool} :
    policy.bindMember fromBytes (bindings, seen) member = .ok progress ↔
      member.endpoint = policy.localEndpoint ∧ progress = (bindings, true) := by
  simp only [bindMember, isLocal, if_true, bind_eq_ok_iff, rejectIf_eq_ok_iff,
    Decidable.not_not, pure, Except.pure, Except.ok.injEq]
  constructor
  · rintro ⟨_, endpoint_eq, progress_eq⟩
    exact ⟨endpoint_eq, progress_eq.symm⟩
  · rintro ⟨endpoint_eq, progress_eq⟩
    exact ⟨(), endpoint_eq, progress_eq.symm⟩

theorem bindMember_of_remote
    {member : FederationMember}
    (isRemote : fromBytes member.cfrIdentity ≠ policy.localCfrIdentity)
    (bindings : CfrEndpointBindings SigPublic)
    (seen : Bool) :
    policy.bindMember fromBytes (bindings, seen) member =
      .ok ((bindings.bind (fromBytes member.cfrIdentity)
        member.endpoint).2, seen) := by
  simp only [bindMember, isRemote, if_false, pure, Except.pure]

/-- What the loop over the members computes, from any point on. -/
theorem foldlM_bindMember_eq_ok_iff
    {members : List FederationMember}
    {bindings later : CfrEndpointBindings SigPublic}
    {seen finallySeen : Bool} :
    members.foldlM (policy.bindMember fromBytes) (bindings, seen) =
        .ok (later, finallySeen) ↔
      (∀ member ∈ members,
        fromBytes member.cfrIdentity = policy.localCfrIdentity →
          member.endpoint = policy.localEndpoint) ∧
      later = bindings.bindAll fromBytes (members.filter fun member =>
        fromBytes member.cfrIdentity ≠ policy.localCfrIdentity) ∧
      (finallySeen = true ↔ seen = true ∨ ∃ member ∈ members,
        fromBytes member.cfrIdentity = policy.localCfrIdentity) := by
  induction members generalizing bindings seen with
  | nil =>
      simp only [List.foldlM_nil, pure, Except.pure, Except.ok.injEq,
        Prod.mk.injEq, List.not_mem_nil, false_and, exists_false, or_false,
        false_implies, implies_true, true_and, ← Bool.eq_iff_iff]
      exact and_congr eq_comm eq_comm
  | cons member members inductionHypothesis =>
      rw [List.foldlM_cons, bind_eq_ok_iff]
      by_cases isLocal : fromBytes member.cfrIdentity = policy.localCfrIdentity
      · simp only [bindMember_of_local isLocal, and_assoc, exists_eq_left,
          exists_and_left, inductionHypothesis]
        simp [isLocal, and_assoc]
      · simp only [bindMember_of_remote isLocal, Except.ok.injEq,
          exists_eq_left', inductionHypothesis]
        simp [isLocal, CfrEndpointBindings.bindAll]

/-- The loop succeeds exactly for snapshots that bind the local identity, if
the bound identities are distinct. -/
theorem bindMembers_eq_ok_iff
    {configuration : FederationConfiguration}
    (injective : Function.Injective fromBytes)
    (wellFormed : configuration.WellFormed)
    {bindings : CfrEndpointBindings SigPublic} :
    policy.bindMembers fromBytes configuration.members = .ok (bindings, true) ↔
      policy.BindsLocal fromBytes configuration ∧
        bindings = policy.bindingsOf fromBytes configuration := by
  rw [bindMembers, foldlM_bindMember_eq_ok_iff]
  simp only [true_iff, Bool.false_eq_true, false_or]
  constructor
  · rintro ⟨elsewhere, bindings_eq, member, member_mem, isLocal⟩
    refine ⟨⟨member, member_mem, isLocal, ?_⟩, bindings_eq⟩
    exact elsewhere member member_mem isLocal
  · rintro ⟨bound, bindings_eq⟩
    refine ⟨?_, bindings_eq, ?_⟩
    · intro member member_mem isLocal
      exact bound.endpoint_eq injective wellFormed member_mem isLocal
    · obtain ⟨member, member_mem, isLocal, -⟩ := bound
      exact ⟨member, member_mem, isLocal⟩

end ClientConfiguration

/-! ## Lookups -/

section Lookups

variable [Std.LawfulEqOrd SigPublic]

namespace CfrEndpointBindings

theorem endpoint_bind
    (bindings : CfrEndpointBindings SigPublic)
    (identity other : SigPublic)
    (endpoint : EndpointIdentity) :
    (bindings.bind identity endpoint).2.endpoint other =
      if identity = other then some endpoint else bindings.endpoint other := by
  simp only [bind, CfrEndpointBindings.endpoint, Std.ExtTreeMap.getElem?_insert,
    Std.compare_eq_iff_eq]

/-- A member list without repeated identities binds exactly its members. -/
theorem endpoint_bindAll_eq_some_iff
    {bindings : CfrEndpointBindings SigPublic}
    {members : List FederationMember}
    (distinct : (members.map fun member => fromBytes member.cfrIdentity).Nodup)
    {identity : SigPublic}
    {endpoint : EndpointIdentity} :
    (bindings.bindAll fromBytes members).endpoint identity = some endpoint ↔
      (∃ member ∈ members, fromBytes member.cfrIdentity = identity ∧
        member.endpoint = endpoint) ∨
      ((∀ member ∈ members, fromBytes member.cfrIdentity ≠ identity) ∧
        bindings.endpoint identity = some endpoint) := by
  induction members generalizing bindings with
  | nil => simp [bindAll]
  | cons member members inductionHypothesis =>
      rw [List.map_cons, List.nodup_cons, List.mem_map] at distinct
      have unrolled : bindings.bindAll fromBytes (member :: members) =
          ((bindings.bind (fromBytes member.cfrIdentity)
            member.endpoint).2).bindAll fromBytes members := rfl
      rw [unrolled, inductionHypothesis distinct.2, endpoint_bind]
      simp only [List.mem_cons, exists_eq_or_imp, forall_eq_or_imp]
      by_cases same : fromBytes member.cfrIdentity = identity
      · have fresh : ∀ other ∈ members,
            fromBytes other.cfrIdentity ≠ identity := by
          intro other other_mem equal
          exact distinct.1 ⟨other, other_mem, equal.trans same.symm⟩
        have absent : ¬∃ other ∈ members,
            fromBytes other.cfrIdentity = identity ∧
              other.endpoint = endpoint := by
          rintro ⟨other, other_mem, equal, -⟩
          exact fresh other other_mem equal
        simp only [same, absent, if_true, Option.some.injEq, true_and, or_false,
          false_or, ne_eq, not_true_eq_false, false_and]
        exact and_iff_right fresh
      · simp [same]

end CfrEndpointBindings

namespace ClientConfiguration

/-- The bindings of a well-formed snapshot are exactly its remote members. -/
theorem endpoint_bindingsOf_eq_some_iff
    {configuration : FederationConfiguration}
    (injective : Function.Injective fromBytes)
    (wellFormed : configuration.WellFormed)
    {identity : SigPublic}
    {endpoint : EndpointIdentity} :
    (policy.bindingsOf fromBytes configuration).endpoint identity =
        some endpoint ↔
      ∃ member ∈ policy.remoteMembers fromBytes configuration,
        fromBytes member.cfrIdentity = identity ∧
          member.endpoint = endpoint := by
  rw [bindingsOf, CfrEndpointBindings.endpoint_bindAll_eq_some_iff
    (nodup_identities_remoteMembers injective wellFormed)]
  simp

end ClientConfiguration

end Lookups

/-! ## What one call does -/

namespace FederationClient

/-- The client after it has taken over a snapshot. -/
def adopting
    (client : FederationClient SigPublic)
    (fromBytes : Vector UInt8 32 → SigPublic)
    (configuration : FederationConfiguration) : FederationClient SigPublic :=
  { client with
    bindings := client.policy.bindingsOf fromBytes configuration
    acceptedEpoch := some configuration.epoch }

theorem not_any_le_iff {held : Option UInt64} {epoch : UInt64} :
    ¬(held.any fun accepted => epoch ≤ accepted) = true ↔
      ∀ accepted ∈ held, accepted < epoch := by
  cases held <;> simp

/-- A client takes over exactly the acceptable snapshots of a newer epoch. -/
theorem call_applyConfiguration_eq_ok_iff
    (injective : Function.Injective fromBytes)
    {client later : FederationClient SigPublic}
    {signed : SignedFederationConfiguration} :
    (applyConfiguration primitives fromBytes signed).call client =
        (.ok (), later) ↔
      client.policy.Acceptable primitives fromBytes signed ∧
        (∀ accepted ∈ client.acceptedEpoch,
          accepted < signed.configuration.epoch) ∧
        later = client.adopting fromBytes signed.configuration := by
  unfold applyConfiguration
  simp only [Method.call_get_bind, Method.call_lift_bind_eq_ok_iff,
    rejectIf_eq_ok_iff, mapError_eq_ok_iff, Decidable.not_not,
    Method.call_modify_bind, Method.call_modify, Prod.mk.injEq, true_and]
  constructor
  · rintro ⟨_, verified, _, federation_eq, _, authority_eq, _, newer,
      ⟨bindings, seen⟩, bound, _, finallySeen, later_eq⟩
    have wellFormed :=
      (SignedFederationConfiguration.verify_eq_ok_iff.mp verified).1
    obtain rfl : seen = true := Bool.eq_true_of_not_eq_false finallySeen
    obtain ⟨bindsLocal, bindings_eq⟩ :=
      (ClientConfiguration.bindMembers_eq_ok_iff injective wellFormed).mp bound
    refine ⟨⟨verified, federation_eq, authority_eq, bindsLocal⟩, ?_, ?_⟩
    · exact not_any_le_iff.mp newer
    · rw [← later_eq, bindings_eq, adopting]
  · rintro ⟨acceptable, newer, rfl⟩
    refine ⟨(), acceptable.verified, (), acceptable.federation_eq, (),
      acceptable.authority_eq, (), not_any_le_iff.mpr newer, (_, true), ?_, (),
      Bool.true_eq_false_eq_False, rfl⟩
    exact (ClientConfiguration.bindMembers_eq_ok_iff injective
      acceptable.wellFormed).mpr ⟨acceptable.bindsLocal, rfl⟩

/-- A rejected snapshot changes nothing. -/
theorem applyConfiguration_atomicAt
    (client : FederationClient SigPublic)
    (signed : SignedFederationConfiguration) :
    Method.AtomicAt client
      (applyConfiguration primitives fromBytes signed) := by
  unfold applyConfiguration
  exact .get_bind (.lift_bind fun _ => .lift_bind fun _ => .lift_bind fun _ =>
    .lift_bind fun _ => .lift_bind fun _ => .lift_bind fun _ => .of_ok rfl)

end FederationClient

namespace PeerConnections

/-- Insertion keeps what a directory is pinned to. -/
theorem call_insert_pins
    (directory : PeerConnections)
    (connection : Connection) :
    ((insert connection).call directory).2.federation = directory.federation ∧
      ((insert connection).call directory).2.localEndpoint =
        directory.localEndpoint := by
  unfold insert
  rw [Method.call_get_bind]
  split <;> exact ⟨rfl, rfl⟩

end PeerConnections

/-- The snapshot that a call hands over. -/
def Request.snapshot? : Request → Option SignedFederationConfiguration
  | .applyConfiguration signed => some signed
  | _ => none

/-- A call takes over a snapshot, rejects one, or only touches the directory
of connections. -/
theorem Request.perform_cases
    (injective : Function.Injective fromBytes)
    (primitives : Primitives)
    (client : FederationClient SigPublic)
    (request : Request) :
    (∃ signed, request = .applyConfiguration signed ∧
      client.policy.Acceptable primitives fromBytes signed ∧
      (∀ accepted ∈ client.acceptedEpoch,
        accepted < signed.configuration.epoch) ∧
      request.perform primitives fromBytes client =
        (.ok none, client.adopting fromBytes signed.configuration)) ∨
    (∃ signed error, request = .applyConfiguration signed ∧
      ¬(client.policy.Acceptable primitives fromBytes signed ∧
        ∀ accepted ∈ client.acceptedEpoch,
          accepted < signed.configuration.epoch) ∧
      request.perform primitives fromBytes client = (.error error, client)) ∨
    (∃ reply connections, request.snapshot? = none ∧
      connections.federation = client.connections.federation ∧
      connections.localEndpoint = client.connections.localEndpoint ∧
      request.perform primitives fromBytes client =
        (reply, { client with connections := connections })) := by
  cases request with
  | applyConfiguration signed =>
      rcases called : (FederationClient.applyConfiguration primitives fromBytes
        signed).call client with ⟨outcome, later⟩
      cases outcome with
      | ok result =>
          obtain ⟨acceptable, newer, rfl⟩ :=
            (FederationClient.call_applyConfiguration_eq_ok_iff injective).mp
              called
          refine .inl ⟨signed, rfl, acceptable, newer, ?_⟩
          exact Method.call_map_eq_ok_iff.mpr ⟨(), called, rfl⟩
      | error error =>
          obtain rfl :=
            FederationClient.applyConfiguration_atomicAt client signed _ _ called
          refine .inr (.inl ⟨signed, error, rfl, ?_, ?_⟩)
          · rintro ⟨acceptable, newer⟩
            rw [(FederationClient.call_applyConfiguration_eq_ok_iff
              injective).mpr ⟨acceptable, newer, rfl⟩] at called
            simp at called
          · rw [Request.perform, map_eq_pure_bind, Method.call_bind, called]
  | insertConnection connection =>
      obtain ⟨federation_eq, local_eq⟩ :=
        client.connections.call_insert_pins connection
      exact .inr (.inr ⟨_, _, rfl, federation_eq, local_eq,
        Method.call_focus _ _ _ _⟩)
  | removeConnection endpoint =>
      exact .inr (.inr ⟨_, (client.connections.remove endpoint).2, rfl, rfl,
        rfl, rfl⟩)

/-! ## What a run takes over -/

/-- The snapshot that a call hands over and the client accepts. -/
def accepted? (request : Request) : Reply → Option SignedFederationConfiguration
  | .ok _ => request.snapshot?
  | .error _ => none

/-- The snapshots handed over along a history, in order. -/
def offered (history : List (Request × Reply)) :
    List SignedFederationConfiguration :=
  history.filterMap fun exchange => exchange.1.snapshot?

/-- The snapshots accepted along a history, in order. -/
def accepted (history : List (Request × Reply)) :
    List SignedFederationConfiguration :=
  history.filterMap fun exchange => accepted? exchange.1 exchange.2

/-- The snapshot accepted last along a history. -/
def lastAccepted (history : List (Request × Reply)) :
    Option SignedFederationConfiguration :=
  (accepted history).getLast?

section Histories

variable (history : List (Request × Reply)) (request : Request) (reply : Reply)

theorem offered_concat :
    offered (history ++ [(request, reply)]) =
      offered history ++ request.snapshot?.toList := by
  rw [offered, List.filterMap_append]
  cases found : request.snapshot? <;> simp [offered, found]

theorem lastAccepted_concat :
    lastAccepted (history ++ [(request, reply)]) =
      (accepted? request reply).or (lastAccepted history) := by
  rw [lastAccepted, accepted, List.filterMap_append]
  cases found : accepted? request reply <;>
    simp [lastAccepted, accepted, found]

end Histories

namespace FederationClient

/-- A client is in step with its history: it holds the snapshot accepted last,
which is the newest acceptable one it was given. -/
structure Tracks
    (primitives : Primitives)
    (fromBytes : Vector UInt8 32 → SigPublic)
    (policy : ClientConfiguration SigPublic)
    (client : FederationClient SigPublic)
    (history : List (Request × Reply)) : Prop where
  policy_eq : client.policy = policy
  epoch_eq : client.acceptedEpoch =
    (lastAccepted history).map fun signed => signed.configuration.epoch
  bindings_eq : client.bindings = ((lastAccepted history).map fun signed =>
    policy.bindingsOf fromBytes signed.configuration).getD .new
  newest : IsNewest (policy.Acceptable primitives fromBytes)
    (fun signed => signed.configuration.epoch.toNat) (offered history)
    (lastAccepted history)
  federation_eq : client.connections.federation = policy.federation
  local_eq : client.connections.localEndpoint = policy.localEndpoint

namespace Tracks

variable {client : FederationClient SigPublic}
variable {history : List (Request × Reply)}

theorem start
    (primitives : Primitives)
    (fromBytes : Vector UInt8 32 → SigPublic)
    (policy : ClientConfiguration SigPublic) :
    (new policy).Tracks primitives fromBytes policy [] where
  policy_eq := rfl
  epoch_eq := rfl
  bindings_eq := rfl
  newest := by
    intro offer member
    exact absurd member List.not_mem_nil
  federation_eq := rfl
  local_eq := rfl

/-- The freshness check compares with the snapshot accepted last. -/
theorem newer_iff
    (tracks : client.Tracks primitives fromBytes policy history)
    (signed : SignedFederationConfiguration) :
    (∀ epoch ∈ client.acceptedEpoch, epoch < signed.configuration.epoch) ↔
      ∀ value ∈ lastAccepted history,
        value.configuration.epoch.toNat < signed.configuration.epoch.toNat := by
  rw [tracks.epoch_eq]
  cases lastAccepted history <;> simp [UInt64.lt_iff_toNat_lt]

theorem adopt
    (tracks : client.Tracks primitives fromBytes policy history)
    {signed : SignedFederationConfiguration}
    (acceptable : policy.Acceptable primitives fromBytes signed)
    (newer : ∀ epoch ∈ client.acceptedEpoch,
      epoch < signed.configuration.epoch) :
    (client.adopting fromBytes signed.configuration).Tracks primitives fromBytes
      policy (history ++ [(.applyConfiguration signed, .ok none)]) := by
  have last : lastAccepted (history ++ [(.applyConfiguration signed, .ok none)]) =
      some signed := lastAccepted_concat _ _ _
  constructor
  case policy_eq => exact tracks.policy_eq
  case epoch_eq => rw [last]; rfl
  case bindings_eq => rw [last, adopting, tracks.policy_eq]; rfl
  case newest =>
    rw [last, offered_concat]
    exact tracks.newest.adopt acceptable ((tracks.newer_iff signed).mp newer)
  case federation_eq => exact tracks.federation_eq
  case local_eq => exact tracks.local_eq

theorem refuse
    (tracks : client.Tracks primitives fromBytes policy history)
    {signed : SignedFederationConfiguration}
    (refused : ¬(policy.Acceptable primitives fromBytes signed ∧
      ∀ epoch ∈ client.acceptedEpoch, epoch < signed.configuration.epoch))
    (error : Error) :
    client.Tracks primitives fromBytes policy
      (history ++ [(.applyConfiguration signed, .error error)]) := by
  have last : lastAccepted
      (history ++ [(.applyConfiguration signed, .error error)]) =
        lastAccepted history := lastAccepted_concat _ _ _
  constructor
  case policy_eq => exact tracks.policy_eq
  case epoch_eq => rw [last]; exact tracks.epoch_eq
  case bindings_eq => rw [last]; exact tracks.bindings_eq
  case newest =>
    rw [last, offered_concat]
    apply tracks.newest.keep
    intro acceptable
    have stale : ¬∀ value ∈ lastAccepted history,
        value.configuration.epoch.toNat < signed.configuration.epoch.toNat := by
      intro newer
      exact refused ⟨acceptable, (tracks.newer_iff signed).mpr newer⟩
    simp only [not_forall, not_lt, exists_prop] at stale
    exact stale
  case federation_eq => exact tracks.federation_eq
  case local_eq => exact tracks.local_eq

theorem reconnect
    (tracks : client.Tracks primitives fromBytes policy history)
    {request : Request}
    (noSnapshot : request.snapshot? = none)
    (reply : Reply)
    {connections : PeerConnections}
    (federation_eq : connections.federation = client.connections.federation)
    (local_eq : connections.localEndpoint = client.connections.localEndpoint) :
    Tracks primitives fromBytes policy
      { client with connections := connections }
      (history ++ [(request, reply)]) := by
  have last : lastAccepted (history ++ [(request, reply)]) =
      lastAccepted history := by
    rw [lastAccepted_concat]
    cases reply with
    | ok value => rw [accepted?, noSnapshot, Option.none_or]
    | error error => rw [accepted?, Option.none_or]
  have given : offered (history ++ [(request, reply)]) = offered history := by
    rw [offered_concat, noSnapshot, Option.toList_none, List.append_nil]
  constructor
  case policy_eq => exact tracks.policy_eq
  case epoch_eq => rw [last]; exact tracks.epoch_eq
  case bindings_eq => rw [last]; exact tracks.bindings_eq
  case newest => rw [last, given]; exact tracks.newest
  case federation_eq => exact federation_eq.trans tracks.federation_eq
  case local_eq => exact local_eq.trans tracks.local_eq

end Tracks

/-- Run calls on a client. -/
def session
    (primitives : Primitives)
    (fromBytes : Vector UInt8 32 → SigPublic)
    (client : FederationClient SigPublic)
    (requests : List Request) :
    Session (FederationClient SigPublic) Request Reply :=
  Session.run (Request.perform primitives fromBytes) (.start client) requests

/-- Every run of a fresh client stays in step with its history. -/
theorem session_tracks
    (injective : Function.Injective fromBytes)
    (primitives : Primitives)
    (policy : ClientConfiguration SigPublic)
    (requests : List Request) :
    ((new policy).session primitives fromBytes requests).state.Tracks primitives
      fromBytes policy
      ((new policy).session primitives fromBytes requests).history := by
  have preserved : ∀ (session : Session (FederationClient SigPublic) Request
        Reply) request,
      session.state.Tracks primitives fromBytes policy session.history →
        (session.advance (Request.perform primitives fromBytes)
          request).state.Tracks primitives fromBytes policy
          (session.advance (Request.perform primitives fromBytes)
            request).history := by
    intro session request tracks
    simp only [Session.advance]
    rcases Request.perform_cases injective primitives session.state request with
      ⟨signed, rfl, acceptable, newer, performed⟩ |
      ⟨signed, error, rfl, refused, performed⟩ |
      ⟨reply, connections, noSnapshot, federation_eq, local_eq, performed⟩
    · rw [performed]
      rw [tracks.policy_eq] at acceptable
      exact tracks.adopt acceptable newer
    · rw [performed]
      rw [tracks.policy_eq] at refused
      exact tracks.refuse refused error
    · rw [performed]
      exact tracks.reconnect noSnapshot reply federation_eq local_eq
  exact Session.run_invariant preserved
    (Tracks.start primitives fromBytes policy) requests

end FederationClient

end Client
end Fcp
