import Fcp.Fabric.Service.PasskeyRuns

/-!
# Signature counters of passkeys

An authentication writes the larger one of the counter that it has read and the
counter that it has verified.  The write has no condition on what is stored by
then, so that counters never go back in the runs in which no other write of the
credential comes between the reading and the write of an authentication.
-/

namespace Fcp
namespace Fabric

open Rust
open Reactive
open WebauthnService
open PasskeyTask

/-- The counters of the passkey library.  An update with a verification of the
same credential sets the counter to the verified value if that is larger, and
every update keeps the credential. -/
structure Counters (environment : Environment) where
  counter : Passkey → Nat
  verified : AuthenticationResult → Nat
  counter_update : ∀ passkey verification credential,
    canonicalCredentialId environment passkey = .ok credential →
    verifiedCredentialId environment verification = .ok credential →
      counter (environment.webauthn.updateCredential passkey verification) =
        max (counter passkey) (verified verification)
  credId_update : ∀ passkey verification,
    environment.webauthn.credId
      (environment.webauthn.updateCredential passkey verification) =
        environment.webauthn.credId passkey
  fromValue_toValue : ∀ passkey value,
    environment.webauthn.passkeyToValue passkey = some value →
      environment.webauthn.passkeyFromValue value = some passkey

namespace Counters

variable {environment : Environment}
variable {counters : Counters environment}
variable {service : WebauthnService}
variable {store middle later : Store}
variable {credential : String}
variable {value : Json}
variable {count other : Nat}

/-- The counter that is stored for a credential. -/
def Stores
    (counters : Counters environment)
    (store : Store)
    (credential : String)
    (count : Nat) : Prop :=
  ∃ value passkey, store.HoldsPasskey credential value ∧
    environment.webauthn.passkeyFromValue value = some passkey ∧
      counters.counter passkey = count

theorem Stores.eq
    (stores : counters.Stores store credential count)
    (stores_other : counters.Stores store credential other) :
    count = other := by
  obtain ⟨value, passkey, holds, decoded, rfl⟩ := stores
  obtain ⟨second, again, holds_second, decoded_second, rfl⟩ := stores_other
  rw [holds.eq holds_second, decoded_second] at decoded
  cases decoded
  rfl

/-- No stored counter is larger than it is later. -/
def Advances
    (counters : Counters environment)
    (store later : Store) : Prop :=
  ∀ credential count, counters.Stores store credential count →
    ∃ advanced, counters.Stores later credential advanced ∧ count ≤ advanced

theorem Advances.trans
    (first : counters.Advances store middle)
    (second : counters.Advances middle later) :
    counters.Advances store later := by
  intro credential count stores
  obtain ⟨between, stores_between, below⟩ := first credential count stores
  obtain ⟨advanced, stores_later, above⟩ :=
    second credential between stores_between
  exact ⟨advanced, stores_later, Nat.le_trans below above⟩

theorem Advances.of_holds
    (kept : ∀ credential value, store.HoldsPasskey credential value →
      later.HoldsPasskey credential value) :
    counters.Advances store later := by
  rintro credential count ⟨value, passkey, holds, decoded, counts⟩
  exact ⟨count, ⟨value, passkey, kept credential value holds, decoded, counts⟩,
    Nat.le_refl count⟩

/-- Updates keep the canonical identifier. -/
theorem canonicalCredentialId_update
    (counters : Counters environment)
    (passkey : Passkey)
    (verification : AuthenticationResult) :
    canonicalCredentialId environment
        (environment.webauthn.updateCredential passkey verification) =
      canonicalCredentialId environment passkey := by
  rw [canonicalCredentialId, counters.credId_update, canonicalCredentialId]

/-! ## Runs -/

section Runs

variable {ι : Type} [DecidableEq ι]
variable {tasks : ι → PasskeyTask}
variable {log before after : List (PoolEvent ι Operation Operation.Reply)}
variable {pool : ι → Action PasskeyOutcome}
variable {caller : ι}
variable {request : UpdateWebauthnPasskey}
variable {read : Passkey}
variable {verification : AuthenticationResult}

/-- Passkeys are written under their canonical identifier. -/
theorem canonical_of_mem
    (counters : Counters environment)
    (run : Serves environment service tasks log pool store)
    (mem : (credential, value) ∈ log.filterMap logEntry) :
    ∃ passkey, environment.webauthn.passkeyFromValue value = some passkey ∧
      canonicalCredentialId environment passkey = .ok credential := by
  obtain ⟨event, event_mem, entry⟩ := List.mem_filterMap.mp mem
  obtain ⟨⟨call, reply⟩, visible, succeeded⟩ := Option.bind_eq_some_iff.mp entry
  obtain ⟨caller, rfl⟩ := Transport.storeEvent_eq_some visible
  obtain ⟨before, after, rfl⟩ := List.append_of_mem event_mem
  have guaranteed := guarantee_of_call run
  cases reply with
  | error error => cases succeeded
  | ok result =>
      cases call with
      | registerWebauthnPasskey request =>
          cases succeeded
          obtain ⟨passkey, canonical, written⟩ := guaranteed
          exact ⟨passkey, counters.fromValue_toValue _ _ written, canonical⟩
      | updateWebauthnPasskey request =>
          cases succeeded
          obtain ⟨_, _, _, _, verification, _, passkey, -, -, canonical, -,
            written⟩ := guaranteed
          refine ⟨_, counters.fromValue_toValue _ _ written, ?_⟩
          rw [counters.canonicalCredentialId_update]
          exact canonical
      | _ => cases succeeded

theorem canonical_of_holds
    (counters : Counters environment)
    (run : Serves environment service tasks log pool store)
    (holds : store.HoldsPasskey credential value) :
    ∃ passkey, environment.webauthn.passkeyFromValue value = some passkey ∧
      canonicalCredentialId environment passkey = .ok credential := by
  have found := (lastWritten_of_run run credential value).mp holds
  obtain ⟨front, back, entries_eq, -⟩ := List.lookup_eq_some_iff.mp found
  refine counters.canonical_of_mem run (List.mem_reverse.mp ?_)
  rw [entries_eq]
  exact List.mem_append_right _ List.mem_cons_self

/-- The passkey of a credential that a task has read, and what it has
verified. -/
def Considers
    (environment : Environment)
    (log : List (PoolEvent ι Operation Operation.Reply))
    (caller : ι)
    (credential : String)
    (read : Passkey)
    (verification : AuthenticationResult) : Prop :=
  (∃ tenant account records, ∃ record ∈ records,
    ⟨(caller, .store (.activeWebauthnPasskeys tenant account)),
      .ok records⟩ ∈ log ∧
    record.credentialId = credential ∧
    environment.webauthn.passkeyFromValue record.passkey = some read) ∧
  ∃ response state,
    ⟨(caller, .finishPasskeyAuthentication response state),
      .ok verification⟩ ∈ log

/-- A write is preceded by a reading and a verification of its credential. -/
theorem exists_considered
    {reply : Except StoreError Unit}
    (counters : Counters environment)
    (run : Serves environment service tasks
      (before ++ ⟨(caller, .store (.updateWebauthnPasskey request)),
        reply⟩ :: after) pool store) :
    ∃ read verification,
      Considers environment before caller request.credentialId read
        verification ∧
      verifiedCredentialId environment verification =
        .ok request.credentialId := by
  obtain ⟨consumption, ceremony, response, state, verification, records,
    passkey, own_eq, ⟨record, record_mem, decoded⟩, canonical, verified, -⟩ :
      WritesBack environment (own caller before) request :=
    guarantee_of_call run
  have own_read : ⟨.store (.activeWebauthnPasskeys ceremony.tenantId
      ceremony.accountId), .ok records⟩ ∈ own caller before := by
    rw [own_eq]
    exact List.mem_of_getLast? rfl
  have own_verified : ⟨.finishPasskeyAuthentication response state,
      .ok verification⟩ ∈ own caller before := by
    rw [own_eq]
    exact List.mem_cons_of_mem _ List.mem_cons_self
  have read_mem := mem_own_iff.mp own_read
  obtain ⟨⟨_, _⟩, _, first, -⟩ := run.exists_of_cons
  obtain ⟨_, _, _, _, -, earlier, holds⟩ := holds_of_read first read_mem
  obtain ⟨same, same_decoded, record_id⟩ :=
    counters.canonical_of_holds earlier (holds record record_mem)
  cases decoded.symm.trans same_decoded
  have id_eq := Except.ok.inj (record_id.symm.trans canonical)
  exact ⟨passkey, verification, ⟨⟨_, _, records, record, record_mem, read_mem,
    id_eq, decoded⟩, response, state, mem_own_iff.mp own_verified⟩, verified⟩

/-- A write stores what its task makes of the passkey that it has read, with a
verification of the same credential. -/
theorem written_of_considers
    {reply : Except StoreError Unit}
    (counters : Counters environment)
    (run : Serves environment service tasks
      (before ++ ⟨(caller, .store (.updateWebauthnPasskey request)),
        reply⟩ :: after) pool store)
    (considers : Considers environment before caller request.credentialId read
      verification) :
    environment.webauthn.passkeyFromValue request.passkey =
        some (environment.webauthn.updateCredential read verification) ∧
      canonicalCredentialId environment read = .ok request.credentialId ∧
      verifiedCredentialId environment verification =
        .ok request.credentialId := by
  have prepared : WritesBack environment (own caller before) request :=
    guarantee_of_call run
  obtain ⟨⟨tenant, account, others, same, same_mem, read_mem, same_id,
    same_decoded⟩, otherResponse, otherState, verified_mem⟩ := considers
  have own_read : ⟨.store (.activeWebauthnPasskeys tenant account),
      .ok others⟩ ∈ own caller before := mem_own_iff.mpr read_mem
  have own_verified : ⟨.finishPasskeyAuthentication otherResponse otherState,
      .ok verification⟩ ∈ own caller before := mem_own_iff.mpr verified_mem
  have parts := prepared
  obtain ⟨consumption, ceremony, response, state, otherVerification, records,
    passkey, own_eq, ⟨record, record_mem, decoded⟩, canonical, verified,
    written⟩ := parts
  have own_other : ⟨.finishPasskeyAuthentication response state,
      .ok otherVerification⟩ ∈ own caller before := by
    rw [own_eq]
    exact List.mem_cons_of_mem _ List.mem_cons_self
  obtain rfl := prepared.eq_of_verified own_other own_verified
  rw [own_eq] at own_read
  have other_mem : record ∈ others := by
    rcases List.mem_cons.mp own_read with consumed | rest
    · cases consumed
    · rcases List.mem_cons.mp rest with verified | last
      · cases verified
      · cases List.mem_singleton.mp last
        exact record_mem
  obtain ⟨⟨_, _⟩, _, first, -⟩ := run.exists_of_cons
  obtain ⟨_, _, _, _, -, earlier, holds⟩ := holds_of_read first read_mem
  have holds_record := holds record other_mem
  have holds_same := holds same same_mem
  obtain ⟨again, again_decoded, record_id⟩ :=
    counters.canonical_of_holds earlier holds_record
  cases decoded.symm.trans again_decoded
  rw [Except.ok.inj (record_id.symm.trans canonical)] at holds_record
  rw [same_id] at holds_same
  rw [holds_same.eq holds_record] at same_decoded
  cases decoded.symm.trans same_decoded
  exact ⟨counters.fromValue_toValue _ _ written, canonical, verified⟩

/-! ## Counters over time -/

/-- Between any two points of a run, no stored counter goes back. -/
def NeverGoBack
    (counters : Counters environment)
    (service : WebauthnService)
    (tasks : ι → PasskeyTask)
    (log : List (PoolEvent ι Operation Operation.Reply)) : Prop :=
  ∀ earlier reached, earlier <+: reached → reached <+: log →
    ∀ pool store poolReached later,
      Serves environment service tasks earlier pool store →
      Serves environment service tasks reached poolReached later →
        counters.Advances store later

/-- At any point of a run, the stored counters are at least as large as those of
the authentications that have succeeded. -/
def CoverAuthentications
    (counters : Counters environment)
    (service : WebauthnService)
    (tasks : ι → PasskeyTask)
    (log : List (PoolEvent ι Operation Operation.Reply)) : Prop :=
  ∀ reached, reached <+: log → ∀ pool store,
    Serves environment service tasks reached pool store →
    ∀ caller context response state verification,
      pool caller = .done (.finished (.ok (.authenticated context))) →
      ⟨(caller, .finishPasskeyAuthentication response state),
        .ok verification⟩ ∈ reached →
      ∃ credential count,
        verifiedCredentialId environment verification = .ok credential ∧
        counters.Stores store credential count ∧
        counters.verified verification ≤ count

/-- No authentication writes over a counter that is larger than both the counter
that it has read and the one that it has verified. -/
def WriteOverNone
    (counters : Counters environment)
    (service : WebauthnService)
    (tasks : ι → PasskeyTask)
    (log : List (PoolEvent ι Operation Operation.Reply)) : Prop :=
  ∀ before caller request after,
    log = before ++ ⟨(caller, .store (.updateWebauthnPasskey request)),
      .ok ()⟩ :: after →
    ∀ pool store, Serves environment service tasks before pool store →
    ∀ read verification count,
      Considers environment before caller request.credentialId read
        verification →
      counters.Stores store request.credentialId count →
        count ≤ max (counters.counter read) (counters.verified verification)

/-- The database after a write. -/
theorem stores_written
    (run : Serves environment service tasks
      (before ++ [⟨(caller, .store (.updateWebauthnPasskey request)),
        .ok ()⟩]) pool store)
    (considers : Considers environment before caller request.credentialId read
      verification) :
    counters.Stores store request.credentialId
      (max (counters.counter read) (counters.verified verification)) := by
  obtain ⟨written, canonical, verified⟩ :=
    counters.written_of_considers run considers
  refine ⟨request.passkey, _, ?_, written,
    counters.counter_update read verification _ canonical verified⟩
  refine (lastWritten_of_run run _ _).mpr ?_
  rw [List.filterMap_append, List.reverse_append]
  exact List.lookup_cons_self

/-- Runs with one log store the same counters. -/
theorem advances_of_same_log
    {otherPool : ι → Action PasskeyOutcome}
    (run : Serves environment service tasks log pool store)
    (other : Serves environment service tasks log otherPool later) :
    counters.Advances store later :=
  .of_holds fun credential value holds =>
    (lastWritten_of_run other credential value).mpr
      ((lastWritten_of_run run credential value).mp holds)

/-- Every step advances the counters if none is written over. -/
theorem advances_of_step
    {event : PoolEvent ι Operation Operation.Reply}
    {poolLater : ι → Action PasskeyOutcome}
    (run : Serves environment service tasks log pool store)
    (moved : PoolStep (Operation.Step environment) (pool, store) event.call
      event.reply (poolLater, later))
    (writes : ∀ caller request,
      event = ⟨(caller, .store (.updateWebauthnPasskey request)), .ok ()⟩ →
      ∀ read verification count,
        Considers environment log caller request.credentialId read
          verification →
        counters.Stores store request.credentialId count →
          count ≤ max (counters.counter read)
            (counters.verified verification)) :
    counters.Advances store later := by
  have extended : Serves environment service tasks (log ++ [event]) poolLater
      later := run.next moved
  obtain ⟨⟨caller, operation⟩, reply⟩ := event
  cases moved with
  | answered waits taken =>
      cases taken with
      | elsewhere => exact .of_holds fun _ _ holds => holds
      | @stored call reply _ step =>
          cases reply with
          | error error =>
              rw [step.eq_of_error]
              exact .of_holds fun _ _ holds => holds
          | ok result =>
              cases step.effect with
              | @passkeyRegistered request generated _ _ _ rows_eq =>
                  refine .of_holds ?_
                  rintro credential value ⟨row, row_mem, holds⟩
                  refine ⟨row, ?_, holds⟩
                  rw [rows_eq]
                  exact List.mem_append_left _ row_mem
              | @passkeyUpdated request generated _ _ selected rows_eq =>
                  intro credential count stores
                  by_cases same : credential = request.credentialId
                  · subst same
                    obtain ⟨read, verification, considers, -⟩ :=
                      counters.exists_considered extended
                    exact ⟨_, counters.stores_written extended considers,
                      writes caller request rfl read verification count
                        considers stores⟩
                  · obtain ⟨value, passkey, holds, decoded⟩ := stores
                    refine ⟨count, ⟨value, passkey, ?_, decoded⟩,
                      Nat.le_refl count⟩
                    refine (Store.holdsPasskey_updated_iff selected
                      rows_eq).mpr ?_
                    rw [if_neg same]
                    exact holds
              | _ => exact .of_holds fun _ _ holds => holds

/-- Without writes over larger counters, counters never go back. -/
theorem neverGoBack_of_writeOverNone
    (writes : counters.WriteOverNone service tasks log) :
    counters.NeverGoBack service tasks log := by
  rintro earlier _ ⟨between, rfl⟩ ⟨rest, rfl⟩
  induction between using List.reverseRecOn generalizing rest with
  | nil =>
      intro pool store poolReached later run reached
      rw [List.append_nil] at reached
      exact advances_of_same_log run reached
  | append_singleton between event inductionHypothesis =>
      intro pool store poolReached later run reached
      rw [← List.append_assoc] at reached
      obtain ⟨⟨poolBefore, middle⟩, before, moved⟩ := reached.exists_of_concat
      have log_eq : earlier ++ (between ++ [event]) ++ rest =
          (earlier ++ between) ++ event :: rest := by simp
      rw [log_eq] at writes
      have advances := inductionHypothesis (event :: rest) writes pool store
        poolBefore middle run before
      refine advances.trans (advances_of_step before moved ?_)
      rintro caller request rfl
      exact writes _ caller request rest rfl poolBefore middle before

/-- Counters that never go back cover the authentications. -/
theorem coverAuthentications_of_neverGoBack
    (never : counters.NeverGoBack service tasks log) :
    counters.CoverAuthentications service tasks log := by
  intro reached reached_prefix pool store run caller context response state
    verification finished verified_mem
  obtain ⟨_, request, tenant, account, reply, prepared, own_eq⟩ :=
    authenticates_of_done run finished
  have own_verified : ⟨.finishPasskeyAuthentication response state,
      .ok verification⟩ ∈ own caller reached := mem_own_iff.mpr verified_mem
  obtain ⟨before, after, rfl, rfl, -⟩ := exists_of_own_eq own_eq
  obtain ⟨read, considered, considers, verified⟩ :=
    counters.exists_considered run
  obtain rfl : considered = verification := by
    rw [own_eq] at own_verified
    obtain ⟨-, _, _, considered_mem⟩ := considers
    rcases List.mem_append.mp own_verified with own_verified | rest
    · exact prepared.eq_of_verified (mem_own_iff.mpr considered_mem) own_verified
    · rcases List.mem_cons.mp rest with updated | last
      · cases updated
      · cases List.mem_singleton.mp last
  have split := run
  rw [List.append_cons] at split
  obtain ⟨⟨poolWritten, written⟩, writes, -⟩ := split.exists_of_append
  have advances := never _ _ ⟨after, List.append_assoc ..⟩ reached_prefix
    poolWritten written pool store writes run
  obtain ⟨advanced, stores, above⟩ :=
    advances _ _ (counters.stores_written writes considers)
  exact ⟨request.credentialId, advanced, verified, stores,
    Nat.le_trans (Nat.le_max_right ..) above⟩

/-- Counters never go back exactly if no authentication writes over a counter that
is larger than both the counter that it has read and the one that it has
verified. -/
theorem neverGoBack_iff_writeOverNone
    (run : Serves environment service tasks log pool store) :
    counters.NeverGoBack service tasks log ↔
      counters.WriteOverNone service tasks log := by
  refine ⟨?_, neverGoBack_of_writeOverNone⟩
  rintro never before caller request after rfl poolBefore middle earlier read
    verification count considers stores
  rw [List.append_cons] at run
  obtain ⟨⟨poolReached, reached⟩, written, -⟩ := run.exists_of_append
  have advances := never before _ (List.prefix_append _ _)
    ⟨after, List.append_assoc ..⟩ poolBefore middle poolReached reached
    earlier written
  obtain ⟨advanced, stores_advanced, below⟩ := advances _ _ stores
  rw [stores_advanced.eq (counters.stores_written written considers)] at below
  exact below

/-! ## Undisturbed authentications -/

/-- Between the reading of an authentication and its write, no other write is
made under its credential. -/
def Undisturbed (log : List (PoolEvent ι Operation Operation.Reply)) : Prop :=
  ∀ before caller tenant account records between request after,
    log = before ++
      ⟨(caller, .store (.activeWebauthnPasskeys tenant account)),
        .ok records⟩ ::
        (between ++ ⟨(caller, .store (.updateWebauthnPasskey request)),
          .ok ()⟩ :: after) →
    ∀ entry ∈ between.filterMap logEntry, entry.1 ≠ request.credentialId

/-- What is not written in between is still stored. -/
theorem holds_of_unwritten
    {between : List (PoolEvent ι Operation Operation.Reply)}
    {poolLater : ι → Action PasskeyOutcome}
    (run : Serves environment service tasks before pool store)
    (extended : Serves environment service tasks (before ++ between) poolLater
      later)
    (unwritten : ∀ entry ∈ between.filterMap logEntry, entry.1 ≠ credential)
    (holds : store.HoldsPasskey credential value) :
    later.HoldsPasskey credential value := by
  have absent : (between.filterMap logEntry).reverse.lookup credential =
      none := by
    rw [List.lookup_eq_none_iff]
    intro entry entry_mem
    exact bne_iff_ne.mpr
      (unwritten entry (List.mem_reverse.mp entry_mem)).symm
  refine (lastWritten_of_run extended credential value).mpr ?_
  rw [List.filterMap_append, List.reverse_append, List.lookup_append, absent,
    Option.none_or]
  exact (lastWritten_of_run run credential value).mp holds

/-- An undisturbed authentication finds the counter that it has read. -/
theorem writeOverNone_of_undisturbed
    (undisturbed : Undisturbed log) :
    counters.WriteOverNone service tasks log := by
  rintro before caller request after rfl poolBefore middle earlier read
    verification count considers stores
  obtain ⟨⟨tenant, account, records, record, record_mem, read_mem, record_id,
    decoded⟩, -⟩ := considers
  obtain ⟨first, between, _, seen, rfl, reading, holds⟩ :=
    holds_of_read earlier read_mem
  have unwritten := undisturbed first caller tenant account records between
    request after (List.append_assoc ..)
  have read_holds := holds record record_mem
  rw [record_id] at read_holds
  have still : middle.HoldsPasskey request.credentialId record.passkey :=
    holds_of_unwritten reading earlier unwritten read_holds
  rw [stores.eq ⟨record.passkey, read, still, decoded, rfl⟩]
  exact Nat.le_max_left ..

/-- In a run in which no authentication is disturbed, stored counters never go
back and cover all successful authentications. -/
theorem counters_never_go_back
    (run : Serves environment service tasks log pool store)
    (undisturbed : Undisturbed log) :
    counters.NeverGoBack service tasks log ∧
      counters.CoverAuthentications service tasks log := by
  have never : counters.NeverGoBack service tasks log :=
    (neverGoBack_iff_writeOverNone run).mpr
      (writeOverNone_of_undisturbed undisturbed)
  exact ⟨never, coverAuthentications_of_neverGoBack never⟩

end Runs

/-! ## Sample runs -/

/-- The number in a JSON document. -/
def numberOf : Json → Nat
  | .number value => value.toNat
  | _ => 0

/-- Surroundings with one credential, whose passkeys and assertions are their
counters. -/
def sampleEnvironment : Environment :=
  { Transport.sampleEnvironment with
    webauthn :=
      { Transport.sampleEnvironment.webauthn with
        credId := fun _ => ⟨.string "k"⟩
        verifiedCredId := fun _ => ⟨.string "k"⟩
        updateCredential := fun passkey verification =>
          ⟨.number (max (numberOf passkey.value)
            (numberOf verification.value) : Nat)⟩ } }

def sampleCounters : Counters sampleEnvironment where
  counter passkey := numberOf passkey.value
  verified verification := numberOf verification.value
  counter_update _ _ _ _ _ := rfl
  credId_update _ _ := rfl
  fromValue_toValue := by
    rintro passkey _ ⟨⟩
    rfl

def sampleService : WebauthnService where
  rpDomain := ⟨"a.b"⟩
  ceremonyDigestKey := ⟨Transport.sampleBytes 32 0⟩
  bindingDigestKey := ⟨Transport.sampleBytes 32 0⟩

/-- A ceremony of the owner under a handle. -/
def sampleCeremony
    (kind : WebauthnCeremonyKind)
    (state : Json)
    (token : String) : CreateWebauthnCeremony where
  tenantId := ⟨Transport.sampleBytes 16 0⟩
  accountId := ⟨Transport.sampleBytes 16 1⟩
  kind := kind
  state := state
  tokenDigest := deriveOpaqueTokenDigest sampleEnvironment.primitives
    sampleService.ceremonyDigestKey token
  bindingDigest := deriveOpaqueTokenDigest sampleEnvironment.primitives
    sampleService.bindingDigestKey "b"
  expiresAt := .sample 60
  correlationId := "c"

/-- An owner registers a passkey with counter 3 and authenticates with the
counters 5 and 7. -/
def sampleTasks : Nat → PasskeyTask
  | 0 => .other (.bootstrapTenant
      { domain := ⟨"a.b"⟩, ownerLocalpart := ⟨"o"⟩, correlationId := "c" }) rfl
  | 1 => .other (.createPendingTotpFactor
      { tenantId := ⟨Transport.sampleBytes 16 0⟩
        accountId := ⟨Transport.sampleBytes 16 1⟩
        factorId := Transport.sampleBytes 16 1
        encrypted :=
          { ciphertext := [0]
            nonce := Transport.sampleBytes 12 0
            keyReference := ⟨"k", Transport.sample_reference_bounded⟩
            digits := 6
            periodSeconds := 30 }
        correlationId := "c" }) rfl
  | 2 => .other (.activateTotpFactor
      { tenantId := ⟨Transport.sampleBytes 16 0⟩
        accountId := ⟨Transport.sampleBytes 16 1⟩
        factorId := Transport.sampleBytes 16 1
        acceptedStep := 1
        correlationId := "c" }) rfl
  | 3 => .other (.createWebauthnCeremony (sampleCeremony .registration
      (.object [("state", .null), ("label", .null)]) "r")) rfl
  | 4 => .finishRegistration ⟨Transport.sampleBytes 16 0⟩
      ⟨Transport.sampleBytes 16 1⟩ "r" "b" ⟨.number 3⟩ "c"
  | 5 => .other (.createWebauthnCeremony (sampleCeremony .authentication .null
      "s")) rfl
  | 6 => .other (.createWebauthnCeremony (sampleCeremony .authentication .null
      "t")) rfl
  | 7 => .finishAuthentication "s" "b" ⟨.number 5⟩ "c"
  | _ => .finishAuthentication "t" "b" ⟨.number 7⟩ "c"

/-- The run of a schedule of the sample tasks. -/
def sampleRun (schedule : List (Nat × Transport.Draw)) :
    List (PoolEvent Nat Operation Operation.Reply) ×
      (Nat → Action PasskeyOutcome) × Store :=
  Transport.scheduled sampleEnvironment
    (fun caller => (sampleTasks caller).program sampleEnvironment
      sampleService)
    schedule

theorem serves_sampleRun (schedule : List (Nat × Transport.Draw)) :
    Serves sampleEnvironment sampleService sampleTasks (sampleRun schedule).1
      (sampleRun schedule).2.1 (sampleRun schedule).2.2 :=
  Transport.run_scheduled _ _ _

/-- One authentication runs after the other. -/
def sequential : List (Nat × Transport.Draw) :=
  Transport.turns
    [0, 1, 2, 3, 4, 4, 4, 5, 6, 7, 7, 7, 7, 7, 8, 8, 8, 8, 8]

/-- Both authentications have read the passkeys, and the one with the larger
counter has written its passkey back. -/
def overtaken : List (Nat × Transport.Draw) :=
  Transport.turns [0, 1, 2, 3, 4, 4, 4, 5, 6, 7, 7, 7, 8, 8, 8, 8, 8]

/-- The other authentication goes on. -/
def overlapping : List (Nat × Transport.Draw) :=
  overtaken ++ [(7, .sample 17), (7, .sample 18)]

/-- The database stores a counter of the sample credential. -/
def storesSample (store : Store) (count : Nat) : Bool :=
  store.webauthnCredentials.any fun row =>
    row.credentialId = "k" ∧ numberOf row.passkey = count

theorem stores_of_storesSample
    {store : Store}
    {count : Nat}
    (found : storesSample store count = true) :
    sampleCounters.Stores store "k" count := by
  obtain ⟨row, row_mem, selected⟩ := List.any_eq_true.mp found
  obtain ⟨row_id, row_count⟩ := of_decide_eq_true selected
  exact ⟨row.passkey, ⟨row.passkey⟩, ⟨row, row_mem, row_id, rfl⟩, rfl, row_count⟩

/-- The task has authenticated. -/
def authenticated : Action PasskeyOutcome → Bool
  | .done (.finished (.ok (.authenticated _))) => true
  | _ => false

/-- A stretch of a log is not one from the reading of a caller to its write with
another write under the credential in between. -/
def isCalm (stretch : List (PoolEvent Nat Operation Operation.Reply)) : Bool :=
  match stretch.head?, stretch.getLast? with
  | some ⟨(reader, .store (.activeWebauthnPasskeys _ _)), .ok _⟩,
      some ⟨(writer, .store (.updateWebauthnPasskey request)), .ok _⟩ =>
      reader ≠ writer || (stretch.tail.dropLast.filterMap logEntry).all
        fun entry => entry.1 ≠ request.credentialId
  | _, _ => true

theorem undisturbed_of_calm
    {log : List (PoolEvent Nat Operation Operation.Reply)}
    (calm : (log.tails.all fun rest => rest.inits.all isCalm) = true) :
    Undisturbed log := by
  rintro before caller tenant account records between request after rfl entry
    entry_mem
  rw [List.all_eq_true] at calm
  have rest_calm := List.all_eq_true.mp
    (calm _ ((List.mem_tails _ _).mpr (List.suffix_append before _)))
  have stretch_calm := rest_calm
    (⟨(caller, .store (.activeWebauthnPasskeys tenant account)),
      .ok records⟩ :: (between ++
        [⟨(caller, .store (.updateWebauthnPasskey request)), .ok ()⟩]))
    ((List.mem_inits _ _).mpr ⟨after, by simp⟩)
  rw [isCalm, ← List.cons_append, List.getLast?_concat] at stretch_calm
  simp only [List.cons_append, List.head?_cons, List.tail_cons,
    List.dropLast_concat, ne_eq, not_true_eq_false, decide_false,
    Bool.false_or] at stretch_calm
  exact of_decide_eq_true (List.all_eq_true.mp stretch_calm entry entry_mem)

/-- One authentication writes its passkey back before the other one reads. -/
theorem counters_never_go_back_sequential :
    authenticated ((sampleRun sequential).2.1 7) = true ∧
    authenticated ((sampleRun sequential).2.1 8) = true ∧
    storesSample (sampleRun sequential).2.2 7 = true ∧
    Undisturbed (sampleRun sequential).1 ∧
    sampleCounters.NeverGoBack sampleService sampleTasks
      (sampleRun sequential).1 ∧
    sampleCounters.CoverAuthentications sampleService sampleTasks
      (sampleRun sequential).1 := by
  have undisturbed : Undisturbed (sampleRun sequential).1 :=
    undisturbed_of_calm (by decide +kernel)
  exact ⟨by decide +kernel, by decide +kernel, by decide +kernel, undisturbed,
    counters_never_go_back (serves_sampleRun sequential) undisturbed⟩

/-- Two overlapping authentications with the counters 5 and 7 leave the counter
5 behind, after 7 has been stored. -/
theorem overlapping_authentications_go_back :
    authenticated ((sampleRun overlapping).2.1 7) = true ∧
    authenticated ((sampleRun overlapping).2.1 8) = true ∧
    sampleCounters.Stores (sampleRun overtaken).2.2 "k" 7 ∧
    sampleCounters.Stores (sampleRun overlapping).2.2 "k" 5 ∧
    ¬sampleCounters.NeverGoBack sampleService sampleTasks
      (sampleRun overlapping).1 := by
  have before : sampleCounters.Stores (sampleRun overtaken).2.2 "k" 7 :=
    stores_of_storesSample (by decide +kernel)
  have after : sampleCounters.Stores (sampleRun overlapping).2.2 "k" 5 :=
    stores_of_storesSample (by decide +kernel)
  refine ⟨by decide +kernel, by decide +kernel, before, after, fun never => ?_⟩
  obtain ⟨count, stores, above⟩ := never _ _ (Transport.prefix_scheduled ..)
    (List.prefix_refl _) _ _ _ _ (serves_sampleRun overtaken)
    (serves_sampleRun overlapping) "k" 7 before
  rw [stores.eq after] at above
  exact absurd above (by decide)

end Counters

end Fabric
end Fcp
