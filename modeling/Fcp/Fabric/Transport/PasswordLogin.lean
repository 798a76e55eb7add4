import Fcp.Fabric.Transport.ActiveFactors

/-!
# What opens a login

A password check that does not deny has accepted the password with the verifier
in use.  For an account without a password that is the verifier for unknown
accounts, so a call is about the account's own password unless that verifier
decides for an account without one.
-/

namespace Fcp
namespace Fabric
namespace Transport

open Rust
open Sql
open Sql.Transaction
open Reactive
open Service

/-- The addressed account exists and has a verifier of its own, which accepts
the password. -/
def AcceptsOwnPassword
    (environment : Environment)
    (service : PasswordLoginService)
    (store : Store)
    (address : UserAddress)
    (password : String) : Prop :=
  ∃ tenant ∈ store.tenants.rows, ∃ account ∈ store.accounts.rows,
    ∃ credential ∈ store.passwordCredentials.rows,
      tenant.canonicalDomain = address.domain ∧
      account.tenantId = tenant.id ∧
      account.normalizedLocalpart = address.localpart ∧
      credential.accountId = account.id ∧
      environment.verifyPassword password credential.phcVerifier
        service.maximumPasswordBytes = true

/-- The verifier for unknown accounts opens a login: the account has no password,
its state lets it in, and that verifier accepts the password. -/
def DummyOpens
    (environment : Environment)
    (service : PasswordLoginService)
    (store : Store)
    (address : UserAddress)
    (password : String) : Prop :=
  ∃ login, store.loginAccount address = some login ∧ login.verifier = none ∧
    (login.state = .mfaEnrollmentRequired ∨ login.state = .active) ∧
    environment.verifyPassword password service.dummyVerifier
      service.maximumPasswordBytes = true

section Accounts

variable {environment : Environment}
variable {service : PasswordLoginService}
variable {store : Store}
variable {address : UserAddress}
variable {password : String}
variable {login : LoginAccount}

/-- An account accepts its own password with the verifier of its login
account. -/
theorem acceptsOwnPassword_iff :
    AcceptsOwnPassword environment service store address password ↔
      ∃ login verifier, store.loginAccount address = some login ∧
        login.verifier = some verifier ∧
        environment.verifyPassword password verifier
          service.maximumPasswordBytes = true := by
  constructor
  · rintro ⟨tenant, tenant_mem, account, account_mem, credential,
      credential_mem, domain_eq, tenant_eq, localpart_eq, owner_eq, accepts⟩
    have credential_found : (store.passwordCredentials.find? fun row =>
        row.accountId = account.id) = some credential := by
      refine Table.find?_of_mem ?_ credential_mem (decide_eq_true owner_eq)
      intro first second first_selected second_selected
      exact Table.not_apart_of_key id (of_decide_eq_true first_selected)
        (of_decide_eq_true second_selected)
    refine ⟨⟨account.id, tenant.id, account.state,
      some credential.phcVerifier⟩, credential.phcVerifier, ?_, rfl, accepts⟩
    rw [Store.loginAccount, ← domain_eq, ← localpart_eq,
      Store.find?_canonicalDomain tenant_mem, Option.bind_eq_bind,
      Option.bind_some, Store.find?_localpart account_mem tenant_eq,
      Option.bind_eq_bind, Option.bind_some, credential_found]
    rfl
  · rintro ⟨login, verifier, read, own_verifier, accepts⟩
    simp only [Store.loginAccount, Option.bind_eq_bind,
      Option.bind_eq_some_iff] at read
    obtain ⟨tenant, tenant_found, account, account_found, returned⟩ := read
    cases returned
    obtain ⟨credential, credential_found, rfl⟩ :=
      Option.map_eq_some_iff.mp own_verifier
    obtain ⟨tenant_mem, domain_eq⟩ := Table.find?_eq_some tenant_found
    obtain ⟨account_mem, selected⟩ := Table.find?_eq_some account_found
    obtain ⟨tenant_eq, localpart_eq⟩ := of_decide_eq_true selected
    obtain ⟨credential_mem, owner_eq⟩ := Table.find?_eq_some credential_found
    exact ⟨tenant, tenant_mem, account, account_mem, credential, credential_mem,
      of_decide_eq_true domain_eq, tenant_eq, localpart_eq,
      of_decide_eq_true owner_eq, accepts⟩

/-- An account that passes does so with its own password, unless the verifier for
unknown accounts opens its login. -/
theorem acceptsOwnPassword_iff_of_passes
    (read : store.loginAccount address = some login)
    (passes : Passes environment service password login) :
    AcceptsOwnPassword environment service store address password ↔
      ¬DummyOpens environment service store address password := by
  rw [acceptsOwnPassword_iff]
  obtain ⟨accepts, admitted⟩ := passes
  cases verifier_eq : login.verifier with
  | none =>
      rw [verifier_eq] at accepts
      refine iff_of_false ?_
        (not_not_intro ⟨login, read, verifier_eq, admitted, accepts⟩)
      rintro ⟨other, verifier, read_other, own_verifier, -⟩
      cases read.symm.trans read_other
      rw [verifier_eq] at own_verifier
      cases own_verifier
  | some verifier =>
      rw [verifier_eq] at accepts
      refine iff_of_true ⟨login, verifier, read, verifier_eq, accepts⟩ ?_
      rintro ⟨other, read_other, no_verifier, -⟩
      cases read.symm.trans read_other
      rw [verifier_eq] at no_verifier
      cases no_verifier

/-- An account whose login the verifier for unknown accounts opens passes. -/
theorem DummyOpens.exists_passes
    (opens : DummyOpens environment service store address password) :
    ∃ login, store.loginAccount address = some login ∧
      Passes environment service password login := by
  obtain ⟨login, read, no_verifier, admitted, accepts⟩ := opens
  refine ⟨login, read, ?_, admitted⟩
  rw [no_verifier]
  exact accepts

end Accounts

/-- What a finished password check has decided, and the database in which it has
read the account. -/
theorem exists_reading
    {ι : Type}
    [DecidableEq ι]
    {environment : Environment}
    {events : List (Event Call Call.Reply)}
    {programs pool : ι →
      Action (Except PasswordLoginError PasswordLoginOutcome)}
    {store later : Store}
    {log : List (PoolEvent ι Operation Operation.Reply)}
    {caller : ι}
    {service : PasswordLoginService}
    {address : UserAddress}
    {password : String}
    {outcome : PasswordLoginOutcome}
    (reachable : Trace (Store.Step environment.unicode) .empty events store)
    (runs : programs caller = (service.authenticate address password).run)
    (run : Run (Operation.Step environment) programs store log pool later)
    (done : pool caller = .done (.ok outcome)) :
    ∃ before after seenPool seen,
      log = before ++ ⟨(caller, .store (.loginAccount address)),
        .ok (seen.loginAccount address)⟩ :: after ∧
      Run (Operation.Step environment) programs store before seenPool seen ∧
      (outcome ≠ .denied ↔ ∃ login, seen.loginAccount address = some login ∧
        Passes environment service password login) := by
  have alone : (programs caller).Satisfies (Answered environment)
      (Guarantee environment (.beginTotpEnrollment []))
      (fun later result => ∀ outcome, result = .ok outcome →
        Continues [] [] later ∧ Supports later outcome ∧
          Decides environment service address password later outcome) [] := by
    rw [runs]
    exact authenticate_keeps service address password
  have admitted : ∀ state later operation reply,
      Operation.Step environment state operation reply later →
        Answered environment operation reply :=
    fun _ _ _ _ taken => ⟨_, _, taken⟩
  obtain ⟨-, -, found, read, decision⟩ :=
    Run.ensures_of_done admitted alone run done _ rfl
  obtain ⟨before, after, log_eq⟩ := List.append_of_mem (mem_own_iff.mp read)
  have split := run
  rw [log_eq] at split
  obtain ⟨seenPool, seen, _, _, seeing, effect, -⟩ := exists_effect_of_run split
  obtain rfl : seen.loginAccount address = found := by
    cases effect
    rfl
  refine ⟨before, after, seenPool, seen, log_eq, seeing, ?_⟩
  rcases decision with decided | ⟨login, -, -, missed⟩
  · exact decided
  · -- The account read is active and has a factor by the time of the query.
    obtain ⟨first, second, rfl⟩ := List.append_of_mem (mem_own_iff.mp missed)
    obtain ⟨-, _, reader, read, tenant_eq, account_eq, active⟩ :=
      Run.guarantee_of_call admitted alone run
    rw [← tenant_eq, ← account_eq] at run
    exact absurd (factor_found reachable run (mem_own_iff.mp read) active)
      Bool.false_ne_true

/-- From every reachable database and beside any other programs, a password check
that does not deny is about the account's own password exactly if the verifier
for unknown accounts does not open the login in the database in which the account
was read. -/
theorem own_password_opens_iff
    {ι : Type}
    [DecidableEq ι]
    {environment : Environment}
    {events : List (Event Call Call.Reply)}
    {pool : ι → Action (Except PasswordLoginError PasswordLoginOutcome)}
    {store later : Store}
    {log : List (PoolEvent ι Operation Operation.Reply)}
    {service : PasswordLoginService}
    {address : UserAddress}
    {password : String}
    {outcome : PasswordLoginOutcome}
    (programs : ι → Action (Except PasswordLoginError PasswordLoginOutcome))
    (caller : ι)
    (reachable : Trace (Store.Step environment.unicode) .empty events store)
    (runs : programs caller = (service.authenticate address password).run)
    (run : Run (Operation.Step environment) programs store log pool later)
    (done : pool caller = .done (.ok outcome)) :
    ∃ before after seenPool seen,
      log = before ++ ⟨(caller, .store (.loginAccount address)),
        .ok (seen.loginAccount address)⟩ :: after ∧
      Run (Operation.Step environment) programs store before seenPool seen ∧
      ((outcome ≠ .denied →
          AcceptsOwnPassword environment service seen address password) ↔
        ¬DummyOpens environment service seen address password) := by
  obtain ⟨before, after, seenPool, seen, log_eq, seeing, decided⟩ :=
    exists_reading reachable runs run done
  refine ⟨before, after, seenPool, seen, log_eq, seeing, ?_⟩
  constructor
  · intro own opens
    obtain ⟨login, read, passes⟩ := opens.exists_passes
    exact (acceptsOwnPassword_iff_of_passes read passes).mp
      (own (decided.mpr ⟨login, read, passes⟩)) opens
  · intro closed opened
    obtain ⟨login, read, passes⟩ := decided.mp opened
    exact (acceptsOwnPassword_iff_of_passes read passes).mpr closed

/-- An account that waits for its enrollment is let in by the verifier in use. -/
theorem exists_run_of_accepts
    {environment : Environment}
    {service : PasswordLoginService}
    {store : Store}
    {address : UserAddress}
    {password : String}
    {login : LoginAccount}
    (read : store.loginAccount address = some login)
    (awaits : login.state = .mfaEnrollmentRequired)
    (accepts : environment.verifyPassword password
      (login.verifier.getD service.dummyVerifier)
      service.maximumPasswordBytes = true) :
    ∃ pool, Run (Operation.Step environment)
        (fun _ : Unit => (service.authenticate address password).run) store
        [⟨((), .store (.loginAccount address)), .ok (some login)⟩,
          ⟨((), .verifyPassword password
            (login.verifier.getD service.dummyVerifier)
            service.maximumPasswordBytes), true⟩] pool store ∧
      pool () = .done (.ok (.mfaEnrollmentRequired login.tenantId
        login.accountId)) := by
  have reads : Operation.Step environment store (.store (.loginAccount address))
      (.ok (some login)) store := by
    rw [← read]
    exact .stored (.answers (.sample 0) rfl)
  have checks : Operation.Step environment store
      (.verifyPassword password (login.verifier.getD service.dummyVerifier)
        service.maximumPasswordBytes) true store := .elsewhere accepts.symm
  have started : PoolStep (Operation.Step environment)
      (fun _ : Unit => (service.authenticate address password).run, store)
      ((), .store (.loginAccount address)) (.ok (some login)) _ :=
    .answered rfl reads
  refine ⟨_, (Trace.start.next started).next
    (show PoolStep (Operation.Step environment) _ ((), .verifyPassword _ _ _)
      true (_, store) from .answered (Function.update_self ..) checks), ?_⟩
  rw [Function.update_self]
  simp only [awaits]
  rfl

/-- A tenant is set up, and its owner is given a password. -/
def bootstrapped : List (Generated × Call) :=
  [(.sample 1, .bootstrapTenant ⟨⟨"a.b"⟩, ⟨"o"⟩, "c"⟩),
    (.sample 10, .storePasswordVerifier
      { tenantId := ⟨.sample 1⟩
        accountId := ⟨.sample 2⟩
        verifier := ⟨"p"⟩
        pepperKeyVersion := none
        correlationId := "c" })]

/-- An owner with a password enters it, and the verifier for unknown accounts
would accept it too. -/
theorem own_password_opens_iff_same_password :
    let service : PasswordLoginService := ⟨⟨"p"⟩, 1024⟩
    let store := Store.replay .sample .empty bootstrapped
    sampleEnvironment.verifyPassword "p" service.dummyVerifier 1024 = true ∧
    ¬DummyOpens sampleEnvironment service store ⟨⟨"o"⟩, ⟨"a.b"⟩⟩ "p" ∧
    AcceptsOwnPassword sampleEnvironment service store ⟨⟨"o"⟩, ⟨"a.b"⟩⟩
      "p" := by
  intro service store
  have selected : ((store.loginAccount ⟨⟨"o"⟩, ⟨"a.b"⟩⟩).any fun login =>
      login.state = .mfaEnrollmentRequired ∧
        login.verifier = some ⟨"p"⟩) = true := by
    decide +kernel
  obtain ⟨login, read, described⟩ := (Option.any_eq_true _ _).mp selected
  obtain ⟨awaits, own_verifier⟩ := of_decide_eq_true described
  have closed : ¬DummyOpens sampleEnvironment service store ⟨⟨"o"⟩, ⟨"a.b"⟩⟩
      "p" := by
    rintro ⟨other, read_other, no_verifier, -⟩
    cases read.symm.trans read_other
    rw [own_verifier] at no_verifier
    cases no_verifier
  obtain ⟨pool, run, done⟩ := @exists_run_of_accepts sampleEnvironment service
    store _ "p" login read awaits (by rw [own_verifier]; decide)
  obtain ⟨events, reachable⟩ : ∃ events, Trace (Store.Step .sample) .empty
      events store := Store.exists_trace_replay .empty _
  obtain ⟨before, after, _, seen, log_eq, seeing, exact_iff⟩ :=
    own_password_opens_iff _ () reachable rfl run done
  refine ⟨by decide, closed, ?_⟩
  cases before with
  | nil =>
      obtain ⟨-, rfl⟩ := Prod.mk.inj seeing.eq_of_nil
      exact exact_iff.mpr closed nofun
  | cons first rest => cases rest <;> simp at log_eq

/-- The owner of a tenant that was just bootstrapped has no password, and the
password of the verifier for unknown accounts opens the enrollment. -/
theorem dummy_password_opens_enrollment :
    let service : PasswordLoginService := ⟨⟨"dummy"⟩, 1024⟩
    let store := Store.replay .sample .empty [(.sample 1, .bootstrapTenant
      ⟨⟨"a.b"⟩, ⟨"o"⟩, "c"⟩)]
    (∃ events, Trace (Store.Step .sample) .empty events store) ∧
    store.passwordCredentials.rows = [] ∧
    ∃ log pool, Run (Operation.Step sampleEnvironment)
        (fun _ : Unit => (service.authenticate ⟨⟨"o"⟩, ⟨"a.b"⟩⟩ "dummy").run)
        store log pool store ∧
      pool () =
        .done (.ok (.mfaEnrollmentRequired ⟨.sample 1⟩ ⟨.sample 2⟩)) := by
  intro service store
  have no_passwords : store.passwordCredentials.rows.isEmpty = true := by
    decide +kernel
  have selected : ((store.loginAccount ⟨⟨"o"⟩, ⟨"a.b"⟩⟩).any fun login =>
      login.tenantId = ⟨.sample 1⟩ ∧ login.accountId = ⟨.sample 2⟩ ∧
        login.state = .mfaEnrollmentRequired ∧ login.verifier = none) = true := by
    decide +kernel
  obtain ⟨login, read, described⟩ := (Option.any_eq_true _ _).mp selected
  obtain ⟨tenant_eq, account_eq, awaits, no_verifier⟩ :=
    of_decide_eq_true described
  obtain ⟨pool, run, done⟩ := @exists_run_of_accepts sampleEnvironment service
    store _ "dummy" login read awaits (by rw [no_verifier]; decide)
  rw [tenant_eq, account_eq] at done
  exact ⟨Store.exists_trace_replay .empty _, List.isEmpty_iff.mp no_passwords, _,
    pool, run, done⟩

end Transport
end Fabric
end Fcp
