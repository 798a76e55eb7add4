import Fcp.Fabric.Store.Steps

/-!
# Stored passkeys

A credential identifier belongs to one row, and the row holds the passkey that
was last written under it.
-/

namespace Fcp
namespace Fabric

open Rust
open Sql
open Reactive

variable {unicode : Unicode}

namespace Store

variable {store later : Store}
variable {call : Call}
variable {result : call.Result}
variable {events : List (Event Call Call.Reply)}
variable {written : List (String × Json)}
variable {credential : String}
variable {passkey other : Json}

/-- The passkey that a successful call writes, under its credential. -/
def passkeyEntry : (call : Call) → call.Result → Option (String × Json)
  | .registerWebauthnPasskey request, _ =>
      some (request.credentialId, request.passkey)
  | .updateWebauthnPasskey request, _ =>
      some (request.credentialId, request.passkey)
  | _, _ => none

/-- The calls that write passkeys. -/
def writesPasskeys : Call → Bool
  | .registerWebauthnPasskey _ | .updateWebauthnPasskey _ => true
  | _ => false

/-- The database holds a passkey under a credential. -/
def HoldsPasskey (store : Store) (credential : String) (passkey : Json) : Prop :=
  ∃ row ∈ store.webauthnCredentials.rows,
    row.credentialId = credential ∧ row.passkey = passkey

/-- A credential has one passkey. -/
theorem HoldsPasskey.eq
    (holds : store.HoldsPasskey credential passkey)
    (holds_other : store.HoldsPasskey credential other) :
    passkey = other := by
  obtain ⟨row, row_mem, row_id, rfl⟩ := holds
  obtain ⟨second, second_mem, second_id, rfl⟩ := holds_other
  rw [Table.eq_of_key (fun apart => apart.2) row_mem second_mem
    (row_id.trans second_id.symm)]

/-- Active passkeys are passkeys of the database. -/
theorem holds_of_mem_activeWebauthnPasskeys
    {tenant : TenantId}
    {account : AccountId}
    {record : StoredWebauthnPasskey}
    (mem : record ∈ store.activeWebauthnPasskeys tenant account) :
    store.HoldsPasskey record.credentialId record.passkey := by
  obtain ⟨row, row_mem, rfl⟩ := List.mem_map.mp mem
  rw [List.mem_mergeSort] at row_mem
  exact ⟨row, (List.mem_filter.mp row_mem).1, rfl, rfl⟩

/-- Each credential holds what was last written under it. -/
def LastWritten (written : List (String × Json)) (store : Store) : Prop :=
  ∀ credential passkey, store.HoldsPasskey credential passkey ↔
    written.reverse.lookup credential = some passkey

/-- A registration adds a credential that was not there. -/
theorem holdsPasskey_registered_iff
    {request : RegisterWebauthnPasskey}
    {generated : Generated}
    (rows_eq : later.webauthnCredentials.rows =
      store.webauthnCredentials.rows ++ [request.credential generated]) :
    later.HoldsPasskey credential passkey ↔
      if credential = request.credentialId then
        request.passkey = passkey
      else
        store.HoldsPasskey credential passkey := by
  have apart := later.webauthnCredentials.apart
  rw [rows_eq] at apart
  have fresh : ∀ row ∈ store.webauthnCredentials.rows,
      row.credentialId ≠ request.credentialId := by
    intro row row_mem
    exact ((List.pairwise_append.mp apart).2.2 row row_mem _
      List.mem_cons_self).2
  unfold HoldsPasskey
  rw [rows_eq]
  split
  case isTrue same =>
    constructor
    · rintro ⟨row, row_mem, row_id, rfl⟩
      rcases List.mem_append.mp row_mem with old_mem | new_mem
      · exact absurd (row_id.trans same) (fresh row old_mem)
      · rw [List.mem_singleton.mp new_mem]
        rfl
    · rintro rfl
      exact ⟨request.credential generated, List.mem_concat_self, same.symm, rfl⟩
  case isFalse different =>
    constructor
    · rintro ⟨row, row_mem, row_id, rfl⟩
      rcases List.mem_append.mp row_mem with old_mem | new_mem
      · exact ⟨row, old_mem, row_id, rfl⟩
      · rw [List.mem_singleton.mp new_mem] at row_id
        exact absurd row_id.symm different
    · rintro ⟨row, row_mem, holds⟩
      exact ⟨row, List.mem_append_left _ row_mem, holds⟩

/-- An update replaces the passkey of its credential. -/
theorem holdsPasskey_updated_iff
    {request : UpdateWebauthnPasskey}
    {generated : Generated}
    (selected : store.webauthnCredentials.count request.selects = 1)
    (rows_eq : later.webauthnCredentials.rows =
      store.webauthnCredentials.rows.map
        (modify request.selects (request.stores generated))) :
    later.HoldsPasskey credential passkey ↔
      if credential = request.credentialId then
        request.passkey = passkey
      else
        store.HoldsPasskey credential passkey := by
  have found : 0 < store.webauthnCredentials.rows.countP request.selects := by
    rw [Table.count] at selected
    omega
  obtain ⟨target, target_mem, target_selected⟩ := List.countP_pos_iff.mp found
  obtain ⟨-, -, target_id, -⟩ := of_decide_eq_true target_selected
  unfold HoldsPasskey
  rw [rows_eq]
  split
  case isTrue same =>
    constructor
    · rintro ⟨_, changed_mem, row_id, rfl⟩
      obtain ⟨row, row_mem, rfl⟩ := List.mem_map.mp changed_mem
      rw [@modify_column _ _ WebauthnCredentialRow.credentialId request.selects
        (request.stores generated) (fun _ => rfl) row] at row_id
      have row_eq : row = target :=
        Table.eq_of_key (fun apart => apart.2) row_mem target_mem
          ((row_id.trans same).trans target_id.symm)
      rw [row_eq, modify_of_selects target_selected]
      rfl
    · rintro rfl
      refine ⟨_, List.mem_map_of_mem target_mem, ?_, ?_⟩
      · rw [modify_of_selects target_selected]
        exact target_id.trans same.symm
      · rw [modify_of_selects target_selected]
        rfl
  case isFalse different =>
    have unselected (row : WebauthnCredentialRow)
        (row_id : row.credentialId = credential) :
        request.selects row = false :=
      decide_eq_false fun selects =>
        different (row_id.symm.trans selects.2.2.1)
    constructor
    · rintro ⟨_, changed_mem, row_id, rfl⟩
      obtain ⟨row, row_mem, rfl⟩ := List.mem_map.mp changed_mem
      rw [@modify_column _ _ WebauthnCredentialRow.credentialId request.selects
        (request.stores generated) (fun _ => rfl) row] at row_id
      rw [modify_of_not_selects (unselected row row_id)]
      exact ⟨row, row_mem, row_id, rfl⟩
    · rintro ⟨row, row_mem, row_id, rfl⟩
      exact ⟨row, List.mem_map.mpr ⟨row, row_mem,
        modify_of_not_selects (unselected row row_id)⟩, row_id, rfl⟩

theorem LastWritten.concat
    {entry : String × Json}
    (last : LastWritten written store)
    (holds_iff : ∀ credential passkey, later.HoldsPasskey credential passkey ↔
      if credential = entry.1 then
        entry.2 = passkey
      else
        store.HoldsPasskey credential passkey) :
    LastWritten (written ++ [entry]) later := by
  intro credential passkey
  rw [holds_iff, List.reverse_concat, List.lookup_cons]
  split
  case isTrue same =>
    rw [beq_iff_eq.mpr same]
    exact Option.some_inj.symm
  case isFalse different =>
    rw [beq_eq_false_iff_ne.mpr different]
    exact last credential passkey

/-- Every call keeps the passkeys in step with what is written. -/
theorem Effect.lastWritten
    (last : LastWritten written store)
    (effect : Effect unicode store call result later) :
    LastWritten (written ++ (passkeyEntry call result).toList) later := by
  cases effect with
  | @passkeyRegistered request generated _ _ _ rows_eq =>
      exact last.concat fun _ _ => holdsPasskey_registered_iff rows_eq
  | @passkeyUpdated request generated _ _ selected rows_eq =>
      exact last.concat fun _ _ => holdsPasskey_updated_iff selected rows_eq
  | _ => exact (List.append_nil written).symm ▸ last

/-- The passkeys after a run are those that were last written. -/
theorem lastWritten_of_trace
    (trace : Trace (Step unicode) .empty events store) :
    LastWritten (events.filterMap (successful passkeyEntry)) store := by
  refine @invariant_of_successful _ _ _ _ passkeyEntry LastWritten ?_ _ trace ?_
  · exact fun last effect => effect.lastWritten last
  · intro credential passkey
    refine iff_of_false ?_ nofun
    rintro ⟨row, row_mem, -⟩
    cases row_mem

end Store

end Fabric
end Fcp
