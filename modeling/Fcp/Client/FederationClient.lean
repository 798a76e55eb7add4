import Mathlib
import Fcp.Core.ConnectionTransition
import Fcp.Core.ConfigurationCanonical

/-!
# The client of a federation

A client accepts signed snapshots of its pinned authority, keeps the bindings of
the remote members, and routes CFR messages over a directory of connections.
The CFR identity keys belong to another library; the client only compares and
orders them, and makes them from the bytes of a member record.
-/

namespace Fcp
namespace Client

open Fcp.Core
open Rust

/-- Client-side configuration or routing failure. -/
inductive Error
  | missingBinding
  | missingConnection
  | mismatchedConnection
  | fcp (error : Core.Error)
  | wrongFederation
  | wrongAuthority
  | staleConfiguration
  | missingLocalMember
  | wrongLocalEndpoint
  deriving DecidableEq

/-- The recipient of an outbound CFR message. -/
inductive Recipient (SigPublic : Type)
  | peer (identity : SigPublic)
  | everyone
  deriving DecidableEq

/-- An outbound CFR message. -/
structure Message (SigPublic : Type) where
  recipient : Recipient SigPublic
  payload : List UInt8
  deriving DecidableEq

/-- Pinned local policy needed to accept a federation configuration. -/
structure ClientConfiguration (SigPublic : Type) where
  federation : FederationId
  authority : EndpointIdentity
  localCfrIdentity : SigPublic
  localEndpoint : EndpointIdentity
  deriving DecidableEq

/-! ## Bindings of remote participants -/

/-- Bindings from remote CFR identity keys to endpoint identities. -/
structure CfrEndpointBindings (SigPublic : Type) [Ord SigPublic] where
  entries : Std.ExtTreeMap SigPublic EndpointIdentity

namespace CfrEndpointBindings

variable {SigPublic : Type} [Ord SigPublic] [Std.TransOrd SigPublic]

/-- No bindings. -/
def new : CfrEndpointBindings SigPublic :=
  ⟨∅⟩

/-- Insert or replace a binding; the binding it replaces, and the result. -/
def bind
    (bindings : CfrEndpointBindings SigPublic)
    (identity : SigPublic)
    (endpoint : EndpointIdentity) :
    Option EndpointIdentity × CfrEndpointBindings SigPublic :=
  (bindings.entries[identity]?, ⟨bindings.entries.insert identity endpoint⟩)

/-- The endpoint bound to an identity. -/
def endpoint
    (bindings : CfrEndpointBindings SigPublic)
    (identity : SigPublic) : Option EndpointIdentity :=
  bindings.entries[identity]?

/-- The bound identities in their order. -/
def identities (bindings : CfrEndpointBindings SigPublic) : List SigPublic :=
  bindings.entries.keys

end CfrEndpointBindings

/-! ## The directory of connections -/

/-- A connection is pinned to a federation and two endpoints. -/
structure PinnedTo
    (federation : FederationId)
    (localEndpoint remoteEndpoint : EndpointIdentity)
    (connection : Connection) : Prop where
  federation_eq : connection.federation = federation
  local_eq : connection.localEndpoint = localEndpoint
  remote_eq : connection.remoteEndpoint = remoteEndpoint

/-- Connections of one local endpoint in one federation, each filed under its
remote endpoint. -/
structure PeerConnections where
  federation : FederationId
  localEndpoint : EndpointIdentity
  entries : Std.ExtTreeMap EndpointIdentity Connection
  pinned : ∀ endpoint connection, entries[endpoint]? = some connection →
    PinnedTo federation localEndpoint endpoint connection

namespace PeerConnections

/-- The empty directory of a local endpoint and a federation. -/
def new
    (federation : FederationId)
    (localEndpoint : EndpointIdentity) : PeerConnections where
  federation := federation
  localEndpoint := localEndpoint
  entries := ∅
  pinned := by simp

/-- The directory with a connection of its own filed or replaced. -/
def file
    (directory : PeerConnections)
    (connection : Connection)
    (federation_eq : connection.federation = directory.federation)
    (local_eq : connection.localEndpoint = directory.localEndpoint) :
    PeerConnections where
  federation := directory.federation
  localEndpoint := directory.localEndpoint
  entries := directory.entries.insert connection.remoteEndpoint connection
  pinned := by
    intro endpoint other filed
    rw [Std.ExtTreeMap.getElem?_insert] at filed
    split at filed
    case isTrue equal =>
      rw [Option.some.injEq] at filed
      rw [← filed]
      exact ⟨federation_eq, local_eq, Std.LawfulEqOrd.eq_of_compare equal⟩
    case isFalse different => exact directory.pinned endpoint other filed

/-- Insert or replace the connection of its remote endpoint. -/
def insert (connection : Connection) :
    Method PeerConnections Error (Option Connection) := do
  let directory ← get
  if mismatched : connection.federation ≠ directory.federation ∨
      connection.localEndpoint ≠ directory.localEndpoint then
    throw .mismatchedConnection
  else
    have matched := not_or.mp mismatched
    set (directory.file connection (not_not.mp matched.1)
      (not_not.mp matched.2))
    return directory.entries[connection.remoteEndpoint]?

/-- Remove the connection of a remote endpoint; the removed one, and the
directory afterwards. -/
def remove
    (directory : PeerConnections)
    (endpoint : EndpointIdentity) : Option Connection × PeerConnections :=
  (directory.entries[endpoint]?,
    { directory with
      entries := directory.entries.erase endpoint
      pinned := by
        intro other connection filed
        rw [Std.ExtTreeMap.getElem?_erase] at filed
        split at filed
        case isTrue equal => simp at filed
        case isFalse different => exact directory.pinned other connection filed })

/-- The connection of a remote endpoint. -/
def get
    (directory : PeerConnections)
    (endpoint : EndpointIdentity) : Option Connection :=
  directory.entries[endpoint]?

end PeerConnections

section Client

variable {SigPublic : Type} [Ord SigPublic] [Std.TransOrd SigPublic]
  [DecidableEq SigPublic]

/-! ## Outbound routing -/

/-- Route a message to one identity. -/
def routeOne
    (message : Message SigPublic)
    (signer : EndpointSigner)
    (bindings : CfrEndpointBindings SigPublic)
    (connections : PeerConnections)
    (identity : SigPublic) : Except Error (List Action) := do
  let endpoint ← okOr (bindings.endpoint identity) .missingBinding
  let connection ← okOr (connections.get endpoint) .missingConnection
  let action ← (connection.cfrControl signer message.payload).mapError .fcp
  return [action]

/-- Convert one outbound CFR message into send actions. -/
def routeOutbound
    (message : Message SigPublic)
    (signer : EndpointSigner)
    (bindings : CfrEndpointBindings SigPublic)
    (connections : PeerConnections) : Except Error (List Action) :=
  match message.recipient with
  | .peer identity => routeOne message signer bindings connections identity
  | .everyone =>
      bindings.identities.foldlM
        (fun actions identity => do
          let routed ← routeOne message signer bindings connections identity
          return actions ++ routed)
        []

/-! ## Client state -/

/-- Local client state for one configured federation. -/
structure FederationClient (SigPublic : Type) [Ord SigPublic] where
  policy : ClientConfiguration SigPublic
  acceptedEpoch : Option UInt64
  bindings : CfrEndpointBindings SigPublic
  connections : PeerConnections

namespace ClientConfiguration

/-- Bind a remote member, or note that the local member has been seen. -/
def bindMember
    (policy : ClientConfiguration SigPublic)
    (fromBytes : Vector UInt8 32 → SigPublic)
    (progress : CfrEndpointBindings SigPublic × Bool)
    (member : FederationMember) :
    Except Error (CfrEndpointBindings SigPublic × Bool) := do
  let (nextBindings, localMemberSeen) := progress
  let identity := fromBytes member.cfrIdentity
  if identity = policy.localCfrIdentity then
    rejectIf (member.endpoint ≠ policy.localEndpoint) .wrongLocalEndpoint
    return (nextBindings, true)
  else
    let (_, nextBindings) := nextBindings.bind identity member.endpoint
    return (nextBindings, localMemberSeen)

/-- The loop over the members of a snapshot. -/
def bindMembers
    (policy : ClientConfiguration SigPublic)
    (fromBytes : Vector UInt8 32 → SigPublic)
    (members : List FederationMember) :
    Except Error (CfrEndpointBindings SigPublic × Bool) :=
  members.foldlM (policy.bindMember fromBytes) (.new, false)

end ClientConfiguration

namespace FederationClient

/-- A client with no accepted configuration and no connections. -/
def new (policy : ClientConfiguration SigPublic) : FederationClient SigPublic where
  policy := policy
  acceptedEpoch := none
  bindings := .new
  connections := .new policy.federation policy.localEndpoint

/-- Verify and apply a strictly newer signed snapshot. -/
def applyConfiguration
    (primitives : Primitives)
    (fromBytes : Vector UInt8 32 → SigPublic)
    (signed : SignedFederationConfiguration) :
    Method (FederationClient SigPublic) Error Unit := do
  let client ← get
  (signed.verify primitives).mapError Error.fcp
  let configuration := signed.configuration
  rejectIf (configuration.federation ≠ client.policy.federation)
    Error.wrongFederation
  rejectIf (configuration.authority ≠ client.policy.authority)
    Error.wrongAuthority
  rejectIf
    (client.acceptedEpoch.any fun accepted => configuration.epoch ≤ accepted)
    Error.staleConfiguration
  let (nextBindings, localMemberSeen) ←
    client.policy.bindMembers fromBytes configuration.members
  rejectIf (localMemberSeen = false) Error.missingLocalMember
  modify fun client => { client with bindings := nextBindings }
  modify fun client =>
    { client with acceptedEpoch := some configuration.epoch }

/-- Insert one connection into the directory. -/
def insertConnection (connection : Connection) :
    Method (FederationClient SigPublic) Error (Option Connection) :=
  Method.focus FederationClient.connections
    (fun client connections => { client with connections := connections })
    (PeerConnections.insert connection)

/-- Remove the connection of a remote endpoint. -/
def removeConnection
    (client : FederationClient SigPublic)
    (endpoint : EndpointIdentity) :
    Option Connection × FederationClient SigPublic :=
  let (removed, connections) := client.connections.remove endpoint
  (removed, { client with connections := connections })

/-- Convert one local CFR message into send actions. -/
def routeOutbound
    (client : FederationClient SigPublic)
    (message : Message SigPublic)
    (signer : EndpointSigner) : Except Error (List Action) :=
  Client.routeOutbound message signer client.bindings client.connections

end FederationClient

/-! ## Requests -/

/-- One call of a public operation that changes a client. -/
inductive Request
  | applyConfiguration (signed : SignedFederationConfiguration)
  | insertConnection (connection : Connection)
  | removeConnection (endpoint : EndpointIdentity)

/-- A replaced or removed connection, if there is one, or an error. -/
abbrev Reply : Type :=
  Except Error (Option Connection)

/-- Serve one call: the reply, and the client afterwards. -/
def Request.perform
    (primitives : Primitives)
    (fromBytes : Vector UInt8 32 → SigPublic)
    (client : FederationClient SigPublic) :
    Request → Reply × FederationClient SigPublic
  | .applyConfiguration signed =>
      ((fun _ => none) <$>
        FederationClient.applyConfiguration primitives fromBytes signed).call
          client
  | .insertConnection connection =>
      (FederationClient.insertConnection connection).call client
  | .removeConnection endpoint =>
      let (removed, later) := client.removeConnection endpoint
      (.ok removed, later)

end Client

end Client
end Fcp
