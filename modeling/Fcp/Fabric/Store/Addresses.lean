import Fcp.Fabric.AddressCanonical
import Fcp.Fabric.Store.Tenancy

/-!
# Addresses of accounts

Domains and localparts reach the database through their parsers alone.  The
address of an account can therefore be read back, and looking it up finds the
account again.
-/

namespace Fcp
namespace Fabric

open Sql
open Reactive

variable {unicode : Unicode}

/-- The names in a call have been made by their parsers, as the types of the
source demand. -/
def Call.Named (unicode : Unicode) : Call → Prop
  | .bootstrapTenant command =>
      command.domain.Parsed unicode ∧ command.ownerLocalpart.Parsed unicode
  | .inviteAccount command => command.localpart.Parsed unicode
  | _ => True

namespace Store

variable {store later : Store}
variable {call : Call}
variable {result : call.Result}
variable {events : List (Event Call Call.Reply)}

/-- All stored domains and localparts have been made by their parsers. -/
structure Named (unicode : Unicode) (store : Store) : Prop where
  domains : ∀ row ∈ store.tenants.rows, row.canonicalDomain.Parsed unicode
  localparts : ∀ row ∈ store.accounts.rows,
    row.normalizedLocalpart.Parsed unicode

/-- Accounts keep their localparts when they are activated. -/
theorem Effect.named
    (named : store.Named unicode)
    (call_named : call.Named unicode)
    (effect : Effect unicode store call result later) :
    later.Named unicode := by
  cases effect with
  | tenantBootstrapped generated _ tenants_rows accounts_rows =>
      exact ⟨forall_mem_concat tenants_rows named.domains call_named.1,
        forall_mem_concat accounts_rows named.localparts call_named.2⟩
  | accountInvited generated _ _ accounts_rows =>
      exact ⟨named.domains,
        forall_mem_concat accounts_rows named.localparts call_named⟩
  | factorActivated generated _ _ _ accounts_rows =>
      exact ⟨named.domains,
        forall_mem_modify accounts_rows named.localparts fun _ _ kept => kept⟩
  | _ => exact ⟨named.domains, named.localparts⟩

theorem named_of_trace
    (trace : Trace (Step unicode) .empty events store)
    (calls_named : ∀ event ∈ events, event.call.Named unicode) :
    store.Named unicode := by
  induction trace with
  | start =>
      constructor <;> exact fun row row_mem => absurd row_mem List.not_mem_nil
  | @next events state later call reply _ taken inductionHypothesis =>
      have named := inductionHypothesis fun event mem =>
        calls_named event (List.mem_append_left _ mem)
      have call_named : call.Named unicode :=
        calls_named ⟨call, reply⟩ List.mem_concat_self
      cases reply with
      | error error =>
          rw [taken.eq_of_error]
          exact named
      | ok result => exact taken.effect.named named call_named

/-- An account's address is made of its own localpart and the domain of its
tenant. -/
theorem userAddressForAccount_eq
    (stable : unicode.Stable)
    (tenancy : store.Tenancy)
    (named : store.Named unicode)
    {account : AccountRow}
    (account_mem : account ∈ store.accounts.rows) :
    ∃ tenant ∈ store.tenants.rows, tenant.id = account.tenantId ∧
      store.userAddressForAccount unicode account.tenantId account.id =
        .ok (some ⟨account.normalizedLocalpart, tenant.canonicalDomain⟩) := by
  obtain ⟨tenant, tenant_mem, selected⟩ :=
    List.any_eq_true.mp (tenancy.accounts account account_mem)
  have tenant_id : tenant.id = account.tenantId := of_decide_eq_true selected
  have tenant_found :
      (store.tenants.find? fun row => row.id = account.tenantId) =
        some tenant := by
    refine Table.find?_of_mem ?_ tenant_mem (decide_eq_true tenant_id)
    intro first second first_selected second_selected
    exact Table.not_apart_of_key (fun apart => apart.1)
      (of_decide_eq_true first_selected) (of_decide_eq_true second_selected)
  let address : UserAddress :=
    ⟨account.normalizedLocalpart, tenant.canonicalDomain⟩
  have read : UserAddress.parse unicode address.toText = .ok address :=
    UserAddress.parse_toText stable (named.localparts account account_mem)
      (named.domains tenant tenant_mem)
  refine ⟨tenant, tenant_mem, tenant_id, ?_⟩
  rw [UserAddress.toText] at read
  rw [userAddressForAccount, account_of_mem account_mem rfl rfl]
  simp only [tenant_found]
  rw [read]

/-- Domains name one tenant and localparts one account of it. -/
theorem loginAccount_eq
    {account : AccountRow}
    (account_mem : account ∈ store.accounts.rows)
    {tenant : TenantRow}
    (tenant_mem : tenant ∈ store.tenants.rows)
    (tenant_id : tenant.id = account.tenantId) :
    ∃ found, store.loginAccount
        ⟨account.normalizedLocalpart, tenant.canonicalDomain⟩ = some found ∧
      found.tenantId = account.tenantId ∧ found.accountId = account.id := by
  simp only [loginAccount, find?_canonicalDomain tenant_mem,
    find?_localpart account_mem tenant_id.symm, Option.bind_eq_bind,
    Option.bind_some, Option.pure_def, Option.some.injEq, exists_eq_left']
  exact ⟨tenant_id, trivial⟩

/-- There is no address of an account that the tenant does not have. -/
theorem userAddressForAccount_eq_none
    {tenant : TenantId}
    {account : AccountId}
    (missing : ¬store.hasAccount tenant account = true) :
    store.userAddressForAccount unicode tenant account = .ok none := by
  have account_none : store.account tenant account = none := by
    refine List.find?_eq_none.mpr fun row row_mem selected => missing ?_
    obtain ⟨row_tenant, row_id⟩ := of_decide_eq_true selected
    exact hasAccount_eq_true_iff.mpr ⟨row, row_mem, row_id, row_tenant⟩
  rw [userAddressForAccount, account_none]

/-- Parsing and displaying addresses are mutually inverse, and so are the
address of an account and the account of an address in every database that the
operations of the store can produce. -/
theorem addresses_name_one_account
    (stable : unicode.Stable)
    (reachable : Trace (Step unicode) .empty events store)
    (calls_named : ∀ event ∈ events, event.call.Named unicode) :
    (∀ input address, UserAddress.parse unicode input = .ok address →
      UserAddress.parse unicode address.toText = .ok address ∧
        DomainName.Canonical address.domain.asStr) ∧
    (∀ left right : UserAddress, left.Parsed unicode → right.Parsed unicode →
      left.toText = right.toText → left = right) ∧
    (∀ tenant account, ∃ address,
      store.userAddressForAccount unicode tenant account = .ok address ∧
        (address.isSome = true ↔ store.hasAccount tenant account = true)) ∧
    ∀ tenant account address,
      store.userAddressForAccount unicode tenant account = .ok (some address) →
        ∃ found, store.loginAccount address = some found ∧
          found.tenantId = tenant ∧ found.accountId = account := by
  have tenancy := tenancy_of_trace reachable
  have named := named_of_trace reachable calls_named
  refine ⟨fun input address parsed => ?_, fun left right left_parsed
    right_parsed text_eq => ?_, fun tenant account => ?_,
    fun tenant account address found => ?_⟩
  · obtain ⟨localpart, domain⟩ := UserAddress.Parsed.components ⟨input, parsed⟩
    exact ⟨UserAddress.parse_toText stable localpart domain, domain.canonical⟩
  · exact UserAddress.eq_of_toText stable left_parsed.components.1
      left_parsed.components.2 right_parsed.components.1
      right_parsed.components.2 text_eq
  · by_cases owned : store.hasAccount tenant account = true
    · obtain ⟨row, row_mem, rfl, rfl⟩ := hasAccount_eq_true_iff.mp owned
      obtain ⟨_, -, -, address_eq⟩ :=
        userAddressForAccount_eq stable tenancy named row_mem
      exact ⟨_, address_eq, iff_of_true rfl owned⟩
    · exact ⟨none, userAddressForAccount_eq_none owned,
        iff_of_false Bool.false_ne_true owned⟩
  · by_cases owned : store.hasAccount tenant account = true
    · obtain ⟨row, row_mem, rfl, rfl⟩ := hasAccount_eq_true_iff.mp owned
      obtain ⟨tenant, tenant_mem, tenant_id, address_eq⟩ :=
        userAddressForAccount_eq stable tenancy named row_mem
      rw [address_eq, Except.ok.injEq, Option.some.injEq] at found
      subst found
      exact loginAccount_eq row_mem tenant_mem tenant_id
    · rw [userAddressForAccount_eq_none owned] at found
      exact absurd found (by simp)

/-- A bootstrapped tenant, whose owner is found by their address. -/
theorem addresses_name_one_account_owner :
    ∃ (events : List (Event Call Call.Reply)) (store : Store),
      Trace (Step .sample) .empty events store ∧
      (∀ event ∈ events, event.call.Named .sample) ∧
      Unicode.sample.Stable ∧
      store.userAddressForAccount .sample ⟨.sample 1⟩ ⟨.sample 2⟩ =
        .ok (some ⟨⟨"o"⟩, ⟨"a.b"⟩⟩) ∧
      ∃ found, store.loginAccount ⟨⟨"o"⟩, ⟨"a.b"⟩⟩ = some found ∧
        found.tenantId = ⟨.sample 1⟩ ∧ found.accountId = ⟨.sample 2⟩ := by
  let command : BootstrapTenant := ⟨⟨"a.b"⟩, ⟨"o"⟩, "c"⟩
  let committed := ((Call.bootstrapTenant command).run .sample
    (.sample 1)).commit .empty
  have reachable : Trace (Step .sample) .empty
      [⟨.bootstrapTenant command, committed.1⟩] committed.2 :=
    Trace.single (.answers (.sample 1) rfl)
  have calls_named : ∀ event ∈ [(⟨.bootstrapTenant command, committed.1⟩ :
      Event Call Call.Reply)], event.call.Named .sample := by
    intro event mem
    rw [List.mem_singleton.mp mem]
    exact ⟨⟨"a.b", by decide⟩, ⟨"o", by decide⟩⟩
  have stable : Unicode.sample.Stable := fun _ _ _ => rfl
  have address : committed.2.userAddressForAccount .sample ⟨.sample 1⟩
      ⟨.sample 2⟩ = .ok (some ⟨⟨"o"⟩, ⟨"a.b"⟩⟩) := by decide +kernel
  obtain ⟨-, -, -, names⟩ :=
    addresses_name_one_account stable reachable calls_named
  exact ⟨_, _, reachable, calls_named, stable, address, names _ _ _ address⟩

end Store
end Fabric
end Fcp
