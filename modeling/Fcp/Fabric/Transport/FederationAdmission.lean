import Fcp.Fabric.Service.FederationIngress
import Fcp.Fabric.Transport.Runs
import Fcp.Fabric.Transport.Schedules

/-!
# Admissions in every schedule

Admissions run beside each other and beside any other programs.  A request of a
peer is accepted by at most one of them, on a policy that was in force when it
was read, and the others write neither replays nor audit events.
-/

namespace Fcp
namespace Fabric

open Rust
open Sql
open Reactive

/-! ## Recorded requests -/

/-- A request of a peer of a tenant. -/
structure PeerRequest where
  tenantId : TenantId
  peerId : Uuid
  requestId : Uuid
  deriving DecidableEq

/-- The request that a call records. -/
def records : (call : Call) → call.Result → Option PeerRequest
  | .recordFederationReplay request, true =>
      some ⟨request.tenantId, request.peerId, request.requestId⟩
  | _, _ => none

namespace Store

variable {unicode : Unicode}
variable {store later : Store}
variable {call : Call}
variable {result : call.Result}
variable {events : List (Event Call Call.Reply)}

/-- A request has been recorded. -/
def HasReplay (store : Store) (request : PeerRequest) : Prop :=
  ∃ row ∈ store.federationReplays.rows,
    row.tenantId = request.tenantId ∧ row.peerId = request.peerId ∧
      row.requestId = request.requestId

/-- Recorded requests stay recorded. -/
theorem Effect.hasReplay
    {request : PeerRequest}
    (effect : Effect unicode store call result later)
    (recorded : store.HasReplay request) :
    later.HasReplay request := by
  cases effect with
  | replayRecorded _ _ _ replays_rows =>
      obtain ⟨row, row_mem, same⟩ := recorded
      exact ⟨row, replays_rows ▸ List.mem_append_left _ row_mem, same⟩
  | _ => exact recorded

/-- A call records a request that has not been recorded before. -/
theorem Effect.records
    {request : PeerRequest}
    (effect : Effect unicode store call result later)
    (records_eq : records call result = some request) :
    ¬store.HasReplay request ∧ later.HasReplay request := by
  cases effect with
  | @replayRecorded replay generated replays _ _ _ replays_rows =>
      cases records_eq
      have added : replay.replay generated ∈ replays.rows :=
        replays_rows ▸ List.mem_concat_self
      refine ⟨?_, ⟨_, added, rfl, rfl, rfl⟩⟩
      rintro ⟨row, row_mem, tenant_eq, peer_eq, request_eq⟩
      -- The added row is apart from every row before it.
      have apart := replays.apart
      rw [replays_rows] at apart
      refine (List.pairwise_append.mp apart).2.2 row row_mem _
        (List.mem_singleton.mpr rfl) ?_
      exact Prod.ext tenant_eq (Prod.ext peer_eq request_eq)
  | replayRefused => cases records_eq
  | _ => cases records_eq

/-- No run records a request twice. -/
theorem nodup_recorded (trace : Trace (Step unicode) store events later) :
    (events.filterMap (successful Fabric.records)).Nodup := by
  refine (trace.pairwise_of_settles HasReplay ?_ ?_ ?_).1
  · intro _ _ _ reply _ step recorded
    cases reply with
    | error error => exact step.eq_of_error ▸ recorded
    | ok result => exact step.effect.hasReplay recorded
  · rintro _ _ ⟨call, reply⟩ _ step records_eq
    cases reply with
    | error error => cases records_eq
    | ok result => exact (step.effect.records records_eq).2
  · rintro _ _ ⟨call, reply⟩ _ _ step records_eq recorded rfl
    cases reply with
    | error error => cases records_eq
    | ok result => exact (step.effect.records records_eq).1 recorded

end Store

/-! ## One admission -/

namespace Admission

variable {libraries : FederationLibraries}
variable {admission : Admission}
variable {answers : (operation : Operation) → operation.Reply → Prop}

/-- The calls of an admission and what precedes each of them. -/
inductive Proceeds (libraries : FederationLibraries) (admission : Admission) :
    List (Event Operation Operation.Reply) → Operation → Prop
  | resolves : Proceeds libraries admission [] (.store admission.resolution)
  | records
      {found : Option StoredFederationPeerMaterial}
      {request : RecordFederationReplay}
      (judged : admission.judge libraries found = .ok request) :
      Proceeds libraries admission
        [⟨.store admission.resolution, .ok found⟩]
        (.store (.recordFederationReplay request))

/-- The results of an admission and what precedes each of them. -/
inductive Concludes (libraries : FederationLibraries) (admission : Admission) :
    List (Event Operation Operation.Reply) →
      Except FederationIngressError FederationIngressOutcome → Prop
  | fails
      (reply : admission.resolution.Reply)
      (error : FederationIngressError) :
      Concludes libraries admission [⟨.store admission.resolution, reply⟩]
        (.error error)
  | recorded
      {found : Option StoredFederationPeerMaterial}
      {request : RecordFederationReplay}
      (judged : admission.judge libraries found = .ok request)
      (reply : Except StoreError Bool) :
      Concludes libraries admission
        [⟨.store admission.resolution, .ok found⟩,
          ⟨.store (.recordFederationReplay request), reply⟩]
        (conclude reply)

theorem satisfies_admitDelivery :
    (FederationIngressService.admitDelivery libraries admission).run.Satisfies answers
      (Proceeds libraries admission) (Concludes libraries admission) [] := by
  rw [admit_eq]
  refine ⟨.resolves, fun reply _ => ?_⟩
  cases reply with
  | error error => exact .fails _ _
  | ok found =>
      dsimp only
      cases judged : admission.judge libraries found with
      | error error => exact .fails _ _
      | ok request =>
          exact ⟨.records judged, fun reply _ => .recorded judged reply⟩

theorem returns_admitDelivery :
    (FederationIngressService.admitDelivery libraries admission).run.Returns := by
  rw [admit_eq]
  intro reply
  cases reply with
  | error error => trivial
  | ok found =>
      dsimp only
      cases admission.judge libraries found with
      | error error => trivial
      | ok request => exact fun _ => trivial

/-- What an accepted admission has checked against the rows that it read. -/
structure Admitted
    (libraries : FederationLibraries)
    (admission : Admission)
    (read : Store)
    (tenant : TenantRow)
    (peer : FederationPeerRow) : Prop where
  tenant_mem : tenant ∈ read.tenants.rows
  peer_mem : peer ∈ read.federationPeers.rows
  peer_tenant : peer.tenantId = tenant.id
  active : peer.trustState = .active
  destination :
    admission.signed.delivery.destinationDomain = tenant.canonicalDomain
  source : admission.signed.delivery.sourceDomain = peer.remoteDomain
  valid : admission.signed.delivery.Valid
  issued : admission.signed.delivery.issuedAt.unixTimestamp ≤
    admission.now.unixTimestamp + maxClockSkewSeconds
  unexpired : admission.now.unixTimestamp - maxClockSkewSeconds ≤
    admission.signed.delivery.expiresAt.unixTimestamp
  key : ∃ key ∈ read.federationKeys.rows, ∃ material,
    key.peerId = peer.id ∧ key.retiredAt = none ∧
      key.publicKeyDocument = material.publicKeyDocument ∧
      libraries.parsePinnedIdentity material =
        some admission.signed.authorityIdentity
  fingerprint :
    (libraries.identityFingerprint admission.signed.authorityIdentity).toList =
      peer.expectedKeyFingerprint
  authenticated : ∃ transcript,
    admission.signed.delivery.transcript = .ok transcript ∧
      admission.signed.authorityIdentity.Authenticates libraries.primitives
        transcript admission.signed.classicalSignature
        admission.signed.postQuantumSignature

/-- An admission records what it has checked. -/
theorem exists_admitted
    {read : Store}
    {now : OffsetDateTime}
    {request : RecordFederationReplay}
    (judged : admission.judge libraries (read.federationPeerMaterial now
      admission.signed.delivery.destinationDomain
      admission.signed.delivery.sourceDomain) = .ok request) :
    ∃ tenant peer, Admitted libraries admission read tenant peer ∧
      request.tenantId = tenant.id ∧ request.peerId = peer.id := by
  obtain ⟨material, found, tenant_eq, peer_eq, -, identity,
    ⟨key, key_mem, parsed⟩, fingerprint, admits⟩ := of_judge_eq_ok judged
  obtain ⟨tenant, tenant_mem, peer, peer_mem, domain, peer_tenant, remote,
    material_tenant, material_peer, trust, pin, keys⟩ :=
      Store.of_federationPeerMaterial found
  obtain ⟨row, row_mem, row_peer, current, -, document⟩ := keys key key_mem
  have identity_eq : admission.signed.authorityIdentity = identity :=
    admits.identity
  subst identity_eq
  obtain ⟨transcript, made, authenticated⟩ := admits.authenticated
  refine ⟨tenant, peer, ?_, tenant_eq.trans material_tenant,
    peer_eq.trans material_peer⟩
  constructor
  case tenant_mem => exact tenant_mem
  case peer_mem => exact peer_mem
  case peer_tenant => exact peer_tenant
  case active => exact trust.symm.trans admits.active
  case destination => exact domain.symm
  case source => exact remote.symm
  case valid => exact (FederationDelivery.transcript_eq_ok_iff.mp made).1
  case issued => exact admits.issued
  case unexpired => exact admits.unexpired
  case key => exact ⟨row, row_mem, key, row_peer, current, document, parsed⟩
  case fingerprint => exact fingerprint.trans pin
  case authenticated => exact ⟨transcript, made, authenticated⟩

end Admission

/-! ## Admissions beside each other -/

namespace Transport

section Admissions

variable {ι : Type} [DecidableEq ι]
variable {environment : Environment}
variable {libraries : FederationLibraries}
variable {admission : Admission}
variable {caller : ι}
variable {programs pool : ι →
  Action (Except FederationIngressError FederationIngressOutcome)}
variable {initial state : Store}
variable {log : List (PoolEvent ι Operation Operation.Reply)}

/-- The peer and the tenant that an admission has found. -/
def Resolved
    (log : List (PoolEvent ι Operation Operation.Reply))
    (caller : ι)
    (admission : Admission)
    (tenant : TenantId)
    (peer : Uuid) : Prop :=
  ∃ material : StoredFederationPeerMaterial,
    ⟨(caller, .store admission.resolution), .ok (some material)⟩ ∈ log ∧
      material.tenantId = tenant ∧ material.peerId = peer

/-- A recording is not the first call of an admission. -/
theorem recording_ne_resolution
    {request : RecordFederationReplay}
    {reply : Except StoreError Bool}
    {found : admission.resolution.Reply} :
    (⟨.store (.recordFederationReplay request), reply⟩ :
      Event Operation Operation.Reply) ≠
        ⟨.store admission.resolution, found⟩ := by
  intro same
  have calls : Operation.store (.recordFederationReplay request) =
      .store admission.resolution :=
    congrArg Event.call same
  rw [Admission.resolution] at calls
  cases calls

omit [DecidableEq ι] in
theorem satisfies_of_admits
    (admits : programs caller =
      (FederationIngressService.admitDelivery libraries admission).run) :
    (programs caller).Satisfies (fun _ _ => True) (admission.Proceeds libraries)
      (admission.Concludes libraries) [] := by
  rw [admits]
  exact Admission.satisfies_admitDelivery

/-- What an admission has done when it has a result. -/
theorem concludes_of_done
    {result : Except FederationIngressError FederationIngressOutcome}
    (admits : programs caller =
      (FederationIngressService.admitDelivery libraries admission).run)
    (run : Run (Operation.Step environment) programs initial log pool state)
    (finished : pool caller = .done result) :
    admission.Concludes libraries (own caller log) result :=
  Run.ensures_of_done (fun _ _ _ _ _ => trivial) (satisfies_of_admits admits) run
    finished

/-- An admission that records its request is accepted. -/
theorem accepted_of_recorded
    {request : RecordFederationReplay}
    (admits : programs caller =
      (FederationIngressService.admitDelivery libraries admission).run)
    (run : Run (Operation.Step environment) programs initial log pool state)
    (recorded : ⟨(caller, .store (.recordFederationReplay request)),
      .ok true⟩ ∈ log) :
    pool caller = .done (.ok .accepted) := by
  have own_mem : ⟨.store (.recordFederationReplay request), .ok true⟩ ∈
      own caller log :=
    mem_own_iff.mpr recorded
  have satisfied := Run.satisfies (fun _ _ _ _ _ => trivial)
    (satisfies_of_admits admits) run
  have returns : (pool caller).Returns :=
    Run.returns (admits ▸ Admission.returns_admitDelivery) run
  dsimp only at satisfied
  generalize own caller log = history at own_mem satisfied
  generalize pool caller = program at satisfied returns ⊢
  cases program with
  | crash => exact returns.elim
  | perform call resume =>
      cases satisfied.1 with
      | resolves => cases own_mem
      | records judged =>
          exact absurd (List.mem_singleton.mp own_mem) recording_ne_resolution
  | done result =>
      cases satisfied with
      | fails reply error =>
          exact absurd (List.mem_singleton.mp own_mem) recording_ne_resolution
      | recorded judged reply =>
          rcases List.mem_pair.mp own_mem with same | same
          · exact absurd same recording_ne_resolution
          · cases same
            rfl

/-- Unless it records its request, a step of an admission changes neither
replays nor audit events. -/
theorem tables_eq_of_proceeds
    {history : List (Event Operation Operation.Reply)}
    {operation : Operation}
    {reply : operation.Reply}
    {store later : Store}
    (proceeds : admission.Proceeds libraries history operation)
    (step : Operation.Step environment store operation reply later)
    (unrecorded : ∀ request : RecordFederationReplay,
      (⟨operation, reply⟩ : Event Operation Operation.Reply) ≠
        ⟨.store (.recordFederationReplay request), .ok true⟩) :
    later.federationReplays = store.federationReplays ∧
      later.auditEvents = store.auditEvents := by
  cases step with
  | elsewhere answers => exact ⟨rfl, rfl⟩
  | @stored call reply later taken =>
      cases reply with
      | error error =>
          rw [taken.eq_of_error]
          exact ⟨rfl, rfl⟩
      | ok result =>
          have effect := taken.effect
          cases proceeds with
          | resolves =>
              cases effect
              exact ⟨rfl, rfl⟩
          | records judged =>
              cases effect with
              | replayRecorded => exact absurd rfl (unrecorded _)
              | replayRefused => exact ⟨rfl, rfl⟩

/-- An accepted admission has recorded the request of the peer that it found. -/
theorem exists_recorded_of_accepted
    (admits : programs caller =
      (FederationIngressService.admitDelivery libraries admission).run)
    (run : Run (Operation.Step environment) programs initial log pool state)
    (accepted : pool caller = .done (.ok .accepted)) :
    ∃ found request,
      own caller log =
        [⟨.store admission.resolution, .ok found⟩,
          ⟨.store (.recordFederationReplay request), .ok true⟩] ∧
      admission.judge libraries found = .ok request := by
  have concludes := concludes_of_done admits run accepted
  generalize own_eq : own caller log = history at concludes
  generalize result_eq : Except.ok FederationIngressOutcome.accepted = result
    at concludes
  cases concludes with
  | fails reply error => cases result_eq
  | @recorded found request judged reply =>
      rcases reply with error | _ | _
      · cases result_eq
      · cases result_eq
      · exact ⟨found, request, rfl, judged⟩

/-- The policy of an accepted admission was in force when it was read. -/
theorem exists_admitted_of_accepted
    (admits : programs caller =
      (FederationIngressService.admitDelivery libraries admission).run)
    (run : Run (Operation.Step environment) programs initial log pool state)
    (accepted : pool caller = .done (.ok .accepted)) :
    ∃ before after material readPool read tenant peer,
      log = before ++
        ⟨(caller, .store admission.resolution), .ok (some material)⟩ ::
          after ∧
      Run (Operation.Step environment) programs initial before readPool read ∧
      admission.Admitted libraries read tenant peer ∧
      material.tenantId = tenant.id ∧ material.peerId = peer.id := by
  obtain ⟨found, request, own_eq, judged⟩ :=
    exists_recorded_of_accepted admits run accepted
  have own_mem : ⟨.store admission.resolution, .ok found⟩ ∈ own caller log := by
    rw [own_eq]
    exact List.mem_cons_self
  obtain ⟨before, after, rfl⟩ := List.append_of_mem (mem_own_iff.mp own_mem)
  obtain ⟨readPool, read, _, _, first, effect, -⟩ := exists_effect_of_run run
  cases effect with
  | peerFound generated =>
      obtain ⟨tenant, peer, admitted, tenant_eq, peer_eq⟩ :=
        Admission.exists_admitted judged
      obtain ⟨material, found_eq, material_tenant, material_peer, -⟩ :=
        Admission.of_judge_eq_ok judged
      refine ⟨before, after, material, readPool, read, tenant, peer, ?_, first,
        admitted, material_tenant.symm.trans tenant_eq,
        material_peer.symm.trans peer_eq⟩
      rw [found_eq]

/-- The request that an event records. -/
def recordedBy (event : PoolEvent ι Operation Operation.Reply) :
    Option PeerRequest :=
  (storeEvent event).bind (Store.successful records)

/-- An accepted admission has recorded its request under the peer that it
found. -/
theorem exists_recordedBy_of_accepted
    {tenant : TenantId}
    {peer : Uuid}
    (admits : programs caller =
      (FederationIngressService.admitDelivery libraries admission).run)
    (run : Run (Operation.Step environment) programs initial log pool state)
    (accepted : pool caller = .done (.ok .accepted))
    (resolved : Resolved log caller admission tenant peer) :
    ∃ event ∈ log, event.call.1 = caller ∧ recordedBy event =
      some ⟨tenant, peer, admission.signed.delivery.requestId⟩ := by
  obtain ⟨found, request, own_eq, judged⟩ :=
    exists_recorded_of_accepted admits run accepted
  obtain ⟨material, resolved_mem, rfl, rfl⟩ := resolved
  have read_mem : ⟨.store admission.resolution, .ok (some material)⟩ ∈
      own caller log :=
    mem_own_iff.mpr resolved_mem
  have recorded_mem : ⟨.store (.recordFederationReplay request), .ok true⟩ ∈
      own caller log := by
    rw [own_eq]
    exact List.mem_pair.mpr (.inr rfl)
  rw [own_eq] at read_mem
  rcases List.mem_pair.mp read_mem with same | same
  · cases same
    obtain ⟨_, found_eq, tenant_eq, peer_eq, request_eq, -⟩ :=
      Admission.of_judge_eq_ok judged
    cases found_eq
    refine ⟨_, mem_own_iff.mp recorded_mem, rfl, ?_⟩
    rw [← tenant_eq, ← peer_eq, ← request_eq]
    rfl
  · exact absurd same.symm recording_ne_resolution

/-- No two admissions accept the same request of the same peer. -/
theorem eq_of_accepted
    {first second : ι}
    {firstAdmission secondAdmission : Admission}
    {tenant : TenantId}
    {peer : Uuid}
    (first_admits : programs first =
      (FederationIngressService.admitDelivery libraries firstAdmission).run)
    (second_admits : programs second =
      (FederationIngressService.admitDelivery libraries secondAdmission).run)
    (run : Run (Operation.Step environment) programs initial log pool state)
    (first_accepted : pool first = .done (.ok .accepted))
    (second_accepted : pool second = .done (.ok .accepted))
    (first_resolved : Resolved log first firstAdmission tenant peer)
    (second_resolved : Resolved log second secondAdmission tenant peer)
    (same : firstAdmission.signed.delivery.requestId =
      secondAdmission.signed.delivery.requestId) :
    first = second := by
  obtain ⟨one, one_mem, rfl, one_records⟩ := exists_recordedBy_of_accepted
    first_admits run first_accepted first_resolved
  obtain ⟨other, other_mem, rfl, other_records⟩ := exists_recordedBy_of_accepted
    second_admits run second_accepted second_resolved
  have nodup := Store.nodup_recorded (trace_of_run run)
  rw [List.filterMap_filterMap] at nodup
  rw [← same] at other_records
  rw [eq_of_nodup_filterMap nodup one_mem other_mem one_records other_records]

/-- In every schedule of admissions beside any other programs, a request of a
peer is accepted at most once, every accepted delivery met the policy that its
admission had read, and an admission that does not accept writes neither replays
nor audit events. -/
theorem federation_admission
    {ι : Type}
    [DecidableEq ι]
    {environment : Environment}
    {libraries : FederationLibraries}
    {admissions : ι → Option Admission}
    {programs pool : ι →
      Action (Except FederationIngressError FederationIngressOutcome)}
    {initial state : Store}
    {log : List (PoolEvent ι Operation Operation.Reply)}
    (admits : ∀ caller admission, admissions caller = some admission →
      programs caller =
        (FederationIngressService.admitDelivery libraries admission).run)
    (run : Run (Operation.Step environment) programs initial log pool state) :
    (∀ {first second : ι} {firstAdmission secondAdmission : Admission}
        {tenant : TenantId} {peer : Uuid},
      admissions first = some firstAdmission →
      admissions second = some secondAdmission →
      pool first = .done (.ok .accepted) →
      pool second = .done (.ok .accepted) →
      Resolved log first firstAdmission tenant peer →
      Resolved log second secondAdmission tenant peer →
      firstAdmission.signed.delivery.requestId =
          secondAdmission.signed.delivery.requestId →
        first = second) ∧
    (∀ {caller : ι} {admission : Admission},
      admissions caller = some admission →
      pool caller = .done (.ok .accepted) →
        ∃ before after material readPool read tenant peer,
          log = before ++
            ⟨(caller, .store admission.resolution), .ok (some material)⟩ ::
              after ∧
          Run (Operation.Step environment) programs initial before readPool
            read ∧
          admission.Admitted libraries read tenant peer ∧
          material.tenantId = tenant.id ∧ material.peerId = peer.id) ∧
    ∀ {caller : ι} {admission : Admission} {operation : Operation}
        {reply : operation.Reply}
        {before after : List (PoolEvent ι Operation Operation.Reply)}
        {earlierPool laterPool : ι →
          Action (Except FederationIngressError FederationIngressOutcome)}
        {earlier later : Store},
      admissions caller = some admission →
      pool caller ≠ .done (.ok .accepted) →
      log = before ++ ⟨(caller, operation), reply⟩ :: after →
      Run (Operation.Step environment) programs initial before earlierPool
        earlier →
      PoolStep (Operation.Step environment) (earlierPool, earlier)
        (caller, operation) reply (laterPool, later) →
        later.federationReplays = earlier.federationReplays ∧
          later.auditEvents = earlier.auditEvents := by
  refine ⟨?_, ?_, ?_⟩
  · intro first second _ _ tenant peer first_admits second_admits first_accepted
      second_accepted first_resolved second_resolved same
    exact eq_of_accepted (admits _ _ first_admits) (admits _ _ second_admits) run
      first_accepted second_accepted first_resolved second_resolved same
  · intro caller admission caller_admits accepted
    exact exists_admitted_of_accepted (admits _ _ caller_admits) run accepted
  · intro caller admission operation reply before after _ _ earlier later
      caller_admits unaccepted log_eq first moved
    have program_eq := admits _ _ caller_admits
    cases moved with
    | answered waits taken =>
        have satisfied := Run.satisfies (fun _ _ _ _ _ => trivial)
          (satisfies_of_admits program_eq) first
        dsimp only at satisfied
        rw [waits] at satisfied
        refine tables_eq_of_proceeds satisfied.1 taken fun request same => ?_
        cases same
        have recorded : ⟨(caller, .store (.recordFederationReplay request)),
            .ok true⟩ ∈ log := by
          rw [log_eq]
          exact List.mem_append_right _ List.mem_cons_self
        exact unaccepted (accepted_of_recorded program_eq run recorded)

end Admissions

/-! ## A concrete admission -/

/-- Libraries that accept every signature and confuse all byte strings. -/
def sampleLibraries : FederationLibraries where
  primitives := .sample
  sha256 _ := Vector.replicate 32 0
  decodeBase64Url text :=
    some (if text = "c" then List.replicate 32 1
      else List.replicate Core.mlDsa65PublicKeyBytes 1)

/-- The key document of a remote peer. -/
def sampleDocument : Json :=
  .object [("classical_public_key", .string "c"),
    ("post_quantum_public_key", .string "p")]

def sampleTenant : TenantRow where
  id := ⟨.sample 1⟩
  canonicalDomain := ⟨"a.b"⟩
  policyVersion := 1
  createdAt := .sample 0
  updatedAt := .sample 0

def samplePeer : FederationPeerRow where
  id := .sample 2
  tenantId := ⟨.sample 1⟩
  remoteDomain := ⟨"c.d"⟩
  trustState := .active
  expectedKeyFingerprint := List.replicate 32 0

def sampleKey : FederationKeyRow where
  peerId := .sample 2
  keyId := "k"
  publicKeyDocument := sampleDocument
  validUntil := .sample 9
  retiredAt := none
  firstSeenAt := .sample 0

/-- A tenant that has approved one remote peer. -/
def sampleFederation : Store :=
  { Store.empty with
    tenants := ⟨[sampleTenant], List.pairwise_singleton _ _⟩
    federationPeers := ⟨[samplePeer], List.pairwise_singleton _ _⟩
    federationKeys := ⟨[sampleKey], List.pairwise_singleton _ _⟩ }

/-- A delivery of the peer. -/
def sampleAdmission : Admission where
  signed :=
    { delivery :=
        { sourceDomain := ⟨"c.d"⟩
          destinationDomain := ⟨"a.b"⟩
          sender := ⟨⟨"x"⟩, ⟨"c.d"⟩⟩
          recipient := ⟨⟨"o"⟩, ⟨"a.b"⟩⟩
          requestId := Uuid.sample 7
          issuedAt := .sample 0
          expiresAt := .sample 60
          payload := [] }
      authorityIdentity := .sample 1
      classicalSignature := Vector.replicate 64 0
      postQuantumSignature := Vector.replicate Core.mlDsa65SignatureBytes 0 }
  correlationId := "c"
  now := .sample 0

/-- The delivery and a copy of it, which arrive in two requests. -/
def sampleCopies (copy : Bool) : Admission :=
  { sampleAdmission with correlationId := if copy then "d" else "c" }

/-- What the admission reads. -/
def sampleMaterial : StoredFederationPeerMaterial where
  tenantId := ⟨.sample 1⟩
  peerId := .sample 2
  trustState := .active
  expectedKeyFingerprint := List.replicate 32 0
  keys := [⟨"k", sampleDocument, .sample 9⟩]

/-- What the admission records. -/
def sampleRecording : RecordFederationReplay where
  tenantId := ⟨.sample 1⟩
  peerId := .sample 2
  requestId := Uuid.sample 7
  bodyDigest := Vector.replicate 32 0
  expiresAt := .sample 60
  correlationId := "c"

theorem sampleMaterial_found :
    sampleFederation.federationPeerMaterial (.sample 0) ⟨"a.b"⟩ ⟨"c.d"⟩ =
      some sampleMaterial := by
  have tenant_found : sampleFederation.tenants.find? (fun row =>
      row.canonicalDomain = ⟨"a.b"⟩) = some sampleTenant := rfl
  have peer_found : sampleFederation.federationPeers.find? (fun row =>
      row.tenantId = sampleTenant.id ∧ row.remoteDomain = ⟨"c.d"⟩) =
        some samplePeer := rfl
  have current : sampleFederation.currentKeys (.sample 0) samplePeer =
      [sampleKey] := rfl
  simp only [Store.federationPeerMaterial, tenant_found, peer_found,
    Store.oldestFirst, current, Option.bind_eq_bind, Option.bind_some,
    List.mergeSort_singleton]
  rfl

theorem decodeFixed_eq_replicate
    {libraries : FederationLibraries}
    {text : String}
    {width : Nat}
    {byte : UInt8}
    (decoded : libraries.decodeBase64Url text =
      some (List.replicate width byte)) :
    libraries.decodeFixed width text = some (Vector.replicate width byte) := by
  rw [FederationLibraries.decodeFixed, decoded]
  exact tryInto_eq_some_iff.mpr Vector.toList_replicate.symm

/-- The identity of a document whose keys repeat one byte each. -/
theorem parsePinnedIdentity_eq
    {libraries : FederationLibraries}
    {key : StoredFederationKeyMaterial}
    {classical postQuantum : String}
    {first second : UInt8}
    (document : key.publicKeyDocument =
      .object [("classical_public_key", .string classical),
        ("post_quantum_public_key", .string postQuantum)])
    (classical_decoded : libraries.decodeBase64Url classical =
      some (List.replicate 32 first))
    (postQuantum_decoded : libraries.decodeBase64Url postQuantum =
      some (List.replicate Core.mlDsa65PublicKeyBytes second)) :
    libraries.parsePinnedIdentity key =
      some
        { classical := ⟨Vector.replicate 32 first⟩
          postQuantum := Vector.replicate Core.mlDsa65PublicKeyBytes second } := by
  have described : StoredEndpointIdentityDocument.fromValue
      key.publicKeyDocument = some ⟨classical, postQuantum⟩ := by
    rw [document]
    rfl
  simp only [FederationLibraries.parsePinnedIdentity, described,
    decodeFixed_eq_replicate classical_decoded,
    decodeFixed_eq_replicate postQuantum_decoded, Option.bind_eq_bind,
    Option.bind_some]
  rfl

theorem sampleDocument_parsed :
    sampleLibraries.parsePinnedIdentity ⟨"k", sampleDocument, .sample 9⟩ =
      some (.sample 1) :=
  parsePinnedIdentity_eq rfl (congrArg some (if_pos rfl))
    (congrArg some (if_neg (by decide)))

theorem sampleMaterial_resolved :
    Admission.resolved sampleLibraries ⟨"a.b"⟩ ⟨"c.d"⟩ (some sampleMaterial) =
      .ok (some ⟨⟨.sample 1⟩, .sample 2,
        ⟨⟨"a.b"⟩, ⟨"c.d"⟩, .active, .sample 1⟩⟩) := by
  have pinned : tryInto 32 sampleMaterial.expectedKeyFingerprint =
      some (Vector.replicate 32 0) :=
    tryInto_eq_some_iff.mpr Vector.toList_replicate.symm
  have identified : ((sampleMaterial.keys.findSome?
      sampleLibraries.parsePinnedIdentity).filter fun identity =>
        sampleLibraries.identityFingerprint identity = Vector.replicate 32 0) =
      some (.sample 1) := by
    rw [sampleMaterial, List.findSome?_singleton, sampleDocument_parsed]
    exact Option.filter_some_pos (decide_eq_true rfl)
  simp only [Admission.resolved, ResolvedFederationPeer.fromMaterial,
    bind_eq_ok_iff, okOr_eq_ok_iff]
  refine ⟨_, pinned, ?_⟩
  rw [identified]
  rfl

theorem sampleCopies_judged (copy : Bool) :
    (sampleCopies copy).judge sampleLibraries (some sampleMaterial) =
      .ok { sampleRecording with
        correlationId := (sampleCopies copy).correlationId } := by
  have made : sampleAdmission.signed.delivery.transcript =
      .ok sampleAdmission.signed.delivery.spelling := by
    refine FederationDelivery.transcript_eq_ok_iff.mpr ⟨?_, ?_, rfl⟩
    · constructor <;> decide
    · constructor <;> decide
  simp only [Admission.judge, bind_eq_ok_iff, okOr_eq_ok_iff,
    mapError_eq_ok_iff, RemotePeerPolicy.admit_eq_ok_iff,
    SignedFederationDelivery.canonicalBodyDigest]
  refine ⟨_, sampleMaterial_resolved, _, rfl, (), ?_, _, ⟨_, made, rfl⟩, rfl⟩
  constructor
  case authenticated => exact ⟨_, made, rfl, rfl⟩
  case identity => rfl
  all_goals decide +revert

/-- An admission that has judged its delivery goes on to record the request. -/
theorem next_of_judged
    {ι : Type}
    [DecidableEq ι]
    {environment : Environment}
    {libraries : FederationLibraries}
    {admission : Admission}
    {programs pool : ι →
      Action (Except FederationIngressError FederationIngressOutcome)}
    {initial state : Store}
    {log : List (PoolEvent ι Operation Operation.Reply)}
    {caller : ι}
    {found : Option StoredFederationPeerMaterial}
    {request : RecordFederationReplay}
    (run : Run (Operation.Step environment) programs initial log pool state)
    (waits : pool caller =
      (FederationIngressService.admitDelivery libraries admission).run)
    (resolves : Operation.Step environment state (.store admission.resolution)
      (.ok found) state)
    (judged : admission.judge libraries found = .ok request) :
    Run (Operation.Step environment) programs initial
      (log ++ [⟨(caller, .store admission.resolution), .ok found⟩])
      (Function.update pool caller
        (.perform (.store (.recordFederationReplay request)) fun reply =>
          .done (Admission.conclude reply)))
      state := by
  have started : PoolStep (Operation.Step environment) (pool, state)
      (caller, .store admission.resolution) (.ok found) _ :=
    .answered (waits.trans (Admission.admit_eq _ _)) resolves
  simp only [judged] at started
  exact run.next started

/-- Two requests carry the same delivery and both find the peer before either is
recorded.  The tenant accepts one of them, on a policy that was in force, and
the other writes nothing. -/
theorem federation_admission_sample :
    ∃ (log : List (PoolEvent Bool Operation Operation.Reply))
      (pool : Bool →
        Action (Except FederationIngressError FederationIngressOutcome))
      (earlier state : Store),
      Run (Operation.Step sampleEnvironment)
        (fun copy => (FederationIngressService.admitDelivery sampleLibraries
          (sampleCopies copy)).run) sampleFederation log pool state ∧
      log.map (fun event => event.call.1) = [false, true, false, true] ∧
      pool false = .done (.ok .accepted) ∧
      pool true = .done (.ok .replay) ∧
      (∀ copy, pool copy = .done (.ok .accepted) → copy = false) ∧
      (∃ read tenant peer,
        (sampleCopies false).Admitted sampleLibraries read tenant peer) ∧
      earlier.HasReplay ⟨⟨.sample 1⟩, .sample 2, Uuid.sample 7⟩ ∧
      state.federationReplays = earlier.federationReplays ∧
      state.auditEvents = earlier.auditEvents := by
  have resolves (copy : Bool) : Operation.Step sampleEnvironment
      sampleFederation (.store (sampleCopies copy).resolution)
      (.ok (some sampleMaterial)) sampleFederation := by
    rw [← sampleMaterial_found]
    exact .stored (.answers (.sample 0) rfl)
  have run : Run (Operation.Step sampleEnvironment)
      (fun copy => (FederationIngressService.admitDelivery sampleLibraries
        (sampleCopies copy)).run) sampleFederation [] _ _ := .start
  have run := @next_of_judged _ _ _ _ (sampleCopies false) _ _ _ _ _ false _ _
    run rfl (resolves false) (sampleCopies_judged false)
  have run := @next_of_judged _ _ _ _ (sampleCopies true) _ _ _ _ _ true _ _ run
    rfl (resolves true) (sampleCopies_judged true)
  have records : ∃ earlier state,
      Store.Step sampleEnvironment.unicode sampleFederation
        (.recordFederationReplay sampleRecording) (.ok true) earlier ∧
      Store.Step sampleEnvironment.unicode earlier
        (.recordFederationReplay { sampleRecording with correlationId := "d" })
        (.ok false) state :=
    ⟨_, _, .answers (.sample 0) (Prod.ext (by decide +kernel) rfl),
      .answers (.sample 0) (Prod.ext (by decide +kernel) rfl)⟩
  obtain ⟨earlier, state, first, second⟩ := records
  have run := run.next (show PoolStep (Operation.Step sampleEnvironment) _
    (false, .store (.recordFederationReplay sampleRecording)) (.ok true)
    (_, earlier) from .answered rfl (.stored first))
  have whole := run.next (show PoolStep (Operation.Step sampleEnvironment) _
    (true, .store (.recordFederationReplay
      { sampleRecording with correlationId := "d" })) (.ok false)
    (_, state) from .answered rfl (.stored second))
  obtain ⟨once, admitted, untouched⟩ := @federation_admission Bool _
    sampleEnvironment sampleLibraries (fun copy => some (sampleCopies copy)) _ _
    _ _ _ (fun _ _ same => by cases same; rfl) whole
  obtain ⟨_, _, _, _, read, tenant, peer, _, _, policy, _⟩ :=
    @admitted false _ rfl rfl
  refine ⟨_, _, earlier, state, whole, rfl, rfl, rfl, fun copy accepted => ?_,
    ⟨read, tenant, peer, policy⟩, (first.effect.records rfl).2,
    @untouched true _ _ _ _ _ _ _ _ _ rfl nofun rfl run
      (.answered rfl (.stored second))⟩
  refine @once copy false _ _ ⟨.sample 1⟩ (.sample 2) rfl rfl accepted rfl
    ⟨sampleMaterial, ?_, rfl, rfl⟩ ⟨sampleMaterial, ?_, rfl, rfl⟩ rfl
  · cases copy <;> simp
  · simp

end Transport

end Fabric
end Fcp
