import Fcp.Rust.Method
import Fcp.Reactive.Session
import Fcp.Core.ConfigurationCanonical

/-!
# The publishing server of a federation

A server owns one current configuration.  It replaces the configuration at
strictly increasing epochs and publishes the current one on request, so every
epoch it has ever published has a single content.
-/

namespace Fcp
namespace Server

open Fcp.Core
open Reactive
open Rust

/-- Configuration authority failure. -/
inductive Error
  | nonIncreasingEpoch
  | core (error : Core.Error)
  deriving DecidableEq

/-- Server-side authority that publishes the signed settings of a federation. -/
structure FederationServer where
  signer : EndpointSigner
  configuration : FederationConfiguration

namespace FederationServer

/-- An empty epoch-zero configuration under the identity of a signer. -/
def new
    (federation : FederationId)
    (signer : EndpointSigner) : Except Error FederationServer := do
  let authority := signer.endpoint
  let configuration ←
    (FederationConfiguration.new federation authority 0 []).mapError .core
  return {
    signer := signer
    configuration := configuration }

/-- Replace all member bindings at a strictly newer epoch. -/
def replaceMembers
    (epoch : UInt64)
    (members : List FederationMember) : Method FederationServer Error Unit := do
  let server ← get
  rejectIf (epoch ≤ server.configuration.epoch) Error.nonIncreasingEpoch
  let configuration ← (FederationConfiguration.new
    server.configuration.federation server.configuration.authority epoch
    members).mapError Error.core
  modify fun server => { server with configuration := configuration }

/-- Produce the signed snapshot of the current configuration. -/
def publish (server : FederationServer) :
    Except Error SignedFederationConfiguration :=
  (SignedFederationConfiguration.sign server.configuration
    server.signer).mapError .core

end FederationServer

/-- One request to a server. -/
inductive Request
  | replaceMembers (epoch : UInt64) (members : List FederationMember)
  | publish

/-- A published snapshot, if the request asked for one, or an error. -/
abbrev Reply : Type :=
  Except Error (Option SignedFederationConfiguration)

/-- Serve one request: the reply, and the server afterwards. -/
def Request.perform
    (server : FederationServer) : Request → Reply × FederationServer
  | .replaceMembers epoch members =>
      ((fun _ => none) <$>
        FederationServer.replaceMembers epoch members).call server
  | .publish => (server.publish.map some, server)

/-- The snapshot that a reply carries. -/
def Reply.snapshot? : Reply → Option SignedFederationConfiguration
  | .ok snapshot => snapshot
  | .error _ => none

/-- The snapshots published along a history, in order. -/
def published (history : List (Request × Reply)) :
    List SignedFederationConfiguration :=
  history.filterMap fun exchange => Reply.snapshot? exchange.2

namespace FederationServer

/-- Serve requests one after the other. -/
def session
    (server : FederationServer)
    (requests : List Request) : Session FederationServer Request Reply :=
  Session.run Request.perform (.start server) requests

/-! ## What one request does -/

theorem new_eq_ok_iff
    {federation : FederationId}
    {signer : EndpointSigner}
    {server : FederationServer} :
    new federation signer = .ok server ↔
      server = ⟨signer, ⟨federation, signer.endpoint, 0, []⟩⟩ := by
  unfold new
  simp only [bind_eq_ok_iff, mapError_eq_ok_iff,
    FederationConfiguration.new_eq_ok_iff, pure, Except.pure, Except.ok.injEq]
  constructor
  · rintro ⟨_, ⟨rfl, -⟩, rfl⟩
    rfl
  · rintro rfl
    exact ⟨_, ⟨rfl, Nat.zero_le _, List.nodup_nil, List.nodup_nil⟩, rfl⟩

theorem call_replaceMembers_eq_ok_iff
    {server later : FederationServer}
    {epoch : UInt64}
    {members : List FederationMember} :
    (replaceMembers epoch members).call server = (.ok (), later) ↔
      ∃ configuration : FederationConfiguration,
        configuration = ⟨server.configuration.federation,
          server.configuration.authority, epoch, members⟩ ∧
        configuration.WellFormed ∧
        server.configuration.epoch < epoch ∧
        later = { server with configuration := configuration } := by
  unfold replaceMembers
  simp only [Method.call_get_bind, Method.call_lift_bind_eq_ok_iff,
    rejectIf_eq_ok_iff, mapError_eq_ok_iff,
    FederationConfiguration.new_eq_ok_iff, Method.call_modify, Prod.mk.injEq,
    true_and, UInt64.not_le]
  constructor
  · rintro ⟨_, newer, configuration, ⟨configuration_eq, wellFormed⟩, later_eq⟩
    exact ⟨configuration, configuration_eq, wellFormed, newer, later_eq.symm⟩
  · rintro ⟨configuration, configuration_eq, wellFormed, newer, rfl⟩
    exact ⟨(), newer, configuration, ⟨configuration_eq, wellFormed⟩, rfl⟩

/-- A failed replacement changes nothing. -/
theorem replaceMembers_atomicAt
    (server : FederationServer)
    (epoch : UInt64)
    (members : List FederationMember) :
    Method.AtomicAt server (replaceMembers epoch members) := by
  unfold replaceMembers
  exact .get_bind (.lift_bind fun _ => .lift_bind fun _ => .of_ok rfl)

theorem publish_eq_ok_iff
    {server : FederationServer}
    {signed : SignedFederationConfiguration} :
    server.publish = .ok signed ↔
      SignedFederationConfiguration.sign server.configuration server.signer =
        .ok signed :=
  mapError_eq_ok_iff

/-- A request replaces the configuration at a newer epoch, publishes the
current one, or changes nothing and publishes nothing. -/
theorem perform_cases (server : FederationServer) (request : Request) :
    (∃ configuration : FederationConfiguration,
      request.perform server =
        (.ok none, { server with configuration := configuration }) ∧
      configuration.federation = server.configuration.federation ∧
      configuration.authority = server.configuration.authority ∧
      server.configuration.epoch < configuration.epoch) ∨
    (∃ signed,
      request.perform server = (.ok (some signed), server) ∧
      SignedFederationConfiguration.sign server.configuration server.signer =
        .ok signed) ∨
    (∃ error, request.perform server = (.error error, server)) := by
  cases request with
  | replaceMembers epoch members =>
      rcases called : (replaceMembers epoch members).call server with
        ⟨outcome, later⟩
      cases outcome with
      | error error =>
          obtain rfl := replaceMembers_atomicAt server epoch members _ _ called
          refine .inr (.inr ⟨error, ?_⟩)
          rw [Request.perform, map_eq_pure_bind, Method.call_bind, called]
      | ok result =>
          obtain ⟨configuration, configuration_eq, -, newer, rfl⟩ :=
            call_replaceMembers_eq_ok_iff.mp called
          refine .inl ⟨configuration, ?_, ?_, ?_, ?_⟩
          · exact Method.call_map_eq_ok_iff.mpr ⟨(), called, rfl⟩
          · rw [configuration_eq]
          · rw [configuration_eq]
          · rw [configuration_eq]
            exact newer
  | publish =>
      cases outcome : server.publish with
      | error error =>
          exact .inr (.inr ⟨error, by rw [Request.perform, outcome]; rfl⟩)
      | ok signed =>
          refine .inr (.inl ⟨signed, ?_, publish_eq_ok_iff.mp outcome⟩)
          rw [Request.perform, outcome]
          rfl

/-! ## What a run publishes -/

/-- Everything published so far was made by the signer for the federation, at
the current epoch or an earlier one, with one content for each epoch. -/
structure Ledger
    (federation : FederationId)
    (signer : EndpointSigner)
    (server : FederationServer)
    (snapshots : List SignedFederationConfiguration) : Prop where
  signer_eq : server.signer = signer
  federation_eq : server.configuration.federation = federation
  authority_eq : server.configuration.authority = signer.endpoint
  signed : ∀ snapshot ∈ snapshots,
    SignedFederationConfiguration.sign snapshot.configuration signer =
      .ok snapshot
  origin : ∀ snapshot ∈ snapshots,
    snapshot.configuration.federation = federation
  epoch_le : ∀ snapshot ∈ snapshots,
    snapshot.configuration.epoch ≤ server.configuration.epoch
  current : ∀ snapshot ∈ snapshots,
    snapshot.configuration.epoch = server.configuration.epoch →
      snapshot.configuration = server.configuration
  coherent : ∀ first ∈ snapshots, ∀ second ∈ snapshots,
    first.configuration.epoch = second.configuration.epoch →
      first.configuration = second.configuration

namespace Ledger

variable {federation : FederationId} {signer : EndpointSigner}
variable {server : FederationServer}
variable {snapshots : List SignedFederationConfiguration}

theorem start (federation : FederationId) (signer : EndpointSigner) :
    Ledger federation signer
      ⟨signer, ⟨federation, signer.endpoint, 0, []⟩⟩ [] := by
  constructor <;> simp

/-- A replacement moves past every published epoch. -/
theorem replace
    (ledger : Ledger federation signer server snapshots)
    {configuration : FederationConfiguration}
    (federation_eq :
      configuration.federation = server.configuration.federation)
    (authority_eq : configuration.authority = server.configuration.authority)
    (newer : server.configuration.epoch < configuration.epoch) :
    Ledger federation signer { server with configuration := configuration }
      snapshots where
  signer_eq := ledger.signer_eq
  federation_eq := federation_eq.trans ledger.federation_eq
  authority_eq := authority_eq.trans ledger.authority_eq
  signed := ledger.signed
  origin := ledger.origin
  epoch_le := fun snapshot member =>
    UInt64.le_of_lt (UInt64.lt_of_le_of_lt (ledger.epoch_le snapshot member)
      newer)
  current := by
    intro snapshot member epoch_eq
    have older := UInt64.lt_of_le_of_lt (ledger.epoch_le snapshot member) newer
    exact absurd epoch_eq (UInt64.ne_of_lt older)
  coherent := ledger.coherent

/-- A publication repeats the content of its epoch. -/
theorem publish
    (ledger : Ledger federation signer server snapshots)
    {snapshot : SignedFederationConfiguration}
    (made : SignedFederationConfiguration.sign server.configuration
      server.signer = .ok snapshot) :
    Ledger federation signer server (snapshots ++ [snapshot]) := by
  have configuration_eq : snapshot.configuration = server.configuration := by
    obtain ⟨-, -, rfl⟩ := SignedFederationConfiguration.sign_eq_ok_iff.mp made
    rfl
  rw [ledger.signer_eq] at made
  constructor <;> try simp only [List.forall_mem_append,
    List.forall_mem_singleton, configuration_eq]
  case signer_eq => exact ledger.signer_eq
  case federation_eq => exact ledger.federation_eq
  case authority_eq => exact ledger.authority_eq
  case signed => exact ⟨ledger.signed, made⟩
  case origin => exact ⟨ledger.origin, ledger.federation_eq⟩
  case epoch_le => exact ⟨ledger.epoch_le, UInt64.le_refl _⟩
  case current => exact ⟨ledger.current, fun _ => trivial⟩
  case coherent =>
    constructor
    · intro first member
      exact ⟨ledger.coherent first member, ledger.current first member⟩
    · refine ⟨?_, fun _ => trivial⟩
      intro second member epoch_eq
      exact (ledger.current second member epoch_eq.symm).symm

end Ledger

theorem published_concat
    (history : List (Request × Reply))
    (request : Request)
    (reply : Reply) :
    published (history ++ [(request, reply)]) =
      published history ++ (Reply.snapshot? reply).toList := by
  unfold published
  rw [List.filterMap_append]
  cases reply with
  | error error => rfl
  | ok snapshot => cases snapshot <;> rfl

/-- Every run of a fresh server keeps its ledger. -/
theorem session_ledger
    (federation : FederationId)
    (signer : EndpointSigner)
    {server : FederationServer}
    (created : FederationServer.new federation signer = .ok server)
    (requests : List Request) :
    Ledger federation signer (server.session requests).state
      (published (server.session requests).history) := by
  obtain rfl := new_eq_ok_iff.mp created
  have preserved : ∀ (session : Session FederationServer Request Reply) request,
      Ledger federation signer session.state (published session.history) →
        Ledger federation signer
          (session.advance Request.perform request).state
          (published (session.advance Request.perform request).history) := by
    intro session request ledger
    simp only [Session.advance, published_concat]
    rcases perform_cases session.state request with
      ⟨configuration, performed, federation_eq, authority_eq, newer⟩ |
      ⟨snapshot, performed, made⟩ | ⟨error, performed⟩
    · rw [performed]
      simpa [Reply.snapshot?] using
        ledger.replace federation_eq authority_eq newer
    · rw [performed]
      exact ledger.publish made
    · rw [performed]
      simpa [Reply.snapshot?] using ledger
  exact Session.run_invariant preserved (Ledger.start federation signer) requests

/-- Members that a server replaces at a newer epoch are published next. -/
theorem exists_published
    {server : FederationServer}
    {configuration : FederationConfiguration}
    (federation_eq :
      configuration.federation = server.configuration.federation)
    (authority_eq : configuration.authority = server.configuration.authority)
    (signs : configuration.authority = server.signer.endpoint)
    (newer : server.configuration.epoch < configuration.epoch)
    (wellFormed : configuration.WellFormed) :
    ∃ snapshot : SignedFederationConfiguration,
      snapshot.configuration = configuration ∧
      published (server.session
        [.replaceMembers configuration.epoch configuration.members,
          .publish]).history = [snapshot] := by
  have replaced :
      (Request.replaceMembers configuration.epoch configuration.members).perform
        server = (.ok none, { server with configuration := configuration }) :=
    Method.call_map_eq_ok_iff.mpr ⟨(), call_replaceMembers_eq_ok_iff.mpr
      ⟨configuration, by rw [← federation_eq, ← authority_eq], wellFormed,
        newer, rfl⟩, rfl⟩
  obtain ⟨snapshot, made⟩ : ∃ snapshot, SignedFederationConfiguration.sign
      configuration server.signer = .ok snapshot :=
    ⟨_, SignedFederationConfiguration.sign_eq_ok_iff.mpr
      ⟨wellFormed, signs, rfl⟩⟩
  have issued : publish { server with configuration := configuration } =
      .ok snapshot := publish_eq_ok_iff.mpr made
  refine ⟨snapshot, ?_, ?_⟩
  · rw [(SignedFederationConfiguration.sign_eq_ok_iff.mp made).2.2]
  · simp only [session, Session.run_cons, Session.advance, Session.start,
      replaced, Session.run_nil]
    rw [Request.perform, issued]
    rfl

end FederationServer
end Server
end Fcp
