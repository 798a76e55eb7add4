import Fcp.Rust.Fallible
import Fcp.Sql.Table

/-!
# Transactions

A transaction changes a database state or fails, and a failed transaction is
rolled back.  A relation is one table of the state together with the foreign
keys and checks that every inserted row has to meet.
-/

namespace Fcp
namespace Sql

open Rust

variable {σ ε α β ρ : Type} {Apart : ρ → ρ → Prop}

/-- A fallible change of a database state. -/
abbrev Transaction (σ ε α : Type) : Type :=
  StateT σ (Except ε) α

/-- One table of a database state. -/
structure Relation (σ ρ : Type) (Apart : ρ → ρ → Prop) where
  table : σ → Table ρ Apart
  replace : σ → Table ρ Apart → σ
  /-- The foreign keys and checks of a row. -/
  admits : σ → ρ → Bool
  replace_table : ∀ state, replace state (table state) = state := by
    intro _
    rfl

namespace Transaction

/-! ## Sequencing -/

@[simp] theorem run_pure (value : α) (state : σ) :
    (pure value : Transaction σ ε α).run state = .ok (value, state) := rfl

theorem run_bind_eq_ok_iff
    {first : Transaction σ ε α}
    {next : α → Transaction σ ε β}
    {state later : σ}
    {result : β} :
    (first >>= next).run state = .ok (result, later) ↔
      ∃ value middle, first.run state = .ok (value, middle) ∧
        (next value).run middle = .ok (result, later) := by
  rw [StateT.run_bind, bind_eq_ok_iff, Prod.exists]

@[simp] theorem run_get_bind
    (next : σ → Transaction σ ε β)
    (state : σ) :
    (get >>= next : Transaction σ ε β).run state = (next state).run state := rfl

theorem run_lift_eq_ok_iff
    {step : Except ε α}
    {state later : σ}
    {result : α} :
    (liftM step : Transaction σ ε α).run state = .ok (result, later) ↔
      step = .ok result ∧ later = state := by
  cases step with
  | ok value =>
      constructor
      · intro ran
        obtain ⟨rfl, rfl⟩ := Prod.mk.inj (Except.ok.inj ran)
        exact ⟨rfl, rfl⟩
      · rintro ⟨same, rfl⟩
        rw [Except.ok.inj same]
        rfl
  | error error => exact ⟨fun ran => absurd ran nofun, fun ⟨same, _⟩ =>
      absurd same nofun⟩

theorem run_lift_bind_eq_ok_iff
    {step : Except ε α}
    {next : α → Transaction σ ε β}
    {state later : σ}
    {result : β} :
    (liftM step >>= next : Transaction σ ε β).run state = .ok (result, later) ↔
      ∃ value, step = .ok value ∧
        (next value).run state = .ok (result, later) := by
  cases step with
  | ok value => exact ⟨fun ran => ⟨value, rfl, ran⟩,
      fun ⟨_, same, ran⟩ => Except.ok.inj same ▸ ran⟩
  | error error => exact ⟨fun ran => absurd ran nofun,
      fun ⟨_, same, _⟩ => absurd same nofun⟩

/-! ## Statements -/

section Statements

variable [DecidableRel Apart]

/-- Insert one row that meets every constraint. -/
def insert
    (relation : Relation σ ρ Apart)
    (violation : ε)
    (row : ρ) : Transaction σ ε Unit := do
  let state ← get
  rejectIf (relation.admits state row = false) violation
  let table ← okOr ((relation.table state).insert? row) violation
  set (relation.replace state table)

/-- Change the selected rows and return their number. -/
def update
    (relation : Relation σ ρ Apart)
    (violation : ε)
    (selects : ρ → Bool)
    (change : ρ → ρ) : Transaction σ ε Nat := do
  let state ← get
  let table ← okOr ((relation.table state).update? selects change) violation
  set (relation.replace state table)
  return (relation.table state).count selects

/-- Insert one row while a condition holds and return the number of rows. -/
def insertWhere
    (relation : Relation σ ρ Apart)
    (violation : ε)
    (condition : σ → Bool)
    (row : ρ) : Transaction σ ε Nat := do
  let state ← get
  if condition state then
    insert relation violation row
    return 1
  else
    return 0

/-- Insert one row while a condition holds, or change the rows it conflicts
with. -/
def upsertWhere
    (relation : Relation σ ρ Apart)
    (violation : ε)
    (condition : σ → Bool)
    (row : ρ)
    (conflicts : ρ → Bool)
    (change : ρ → ρ) : Transaction σ ε Nat := do
  let state ← get
  if (relation.table state).any conflicts && condition state then
    update relation violation conflicts change
  else
    insertWhere relation violation condition row

/-- Change the selected rows and return the first of them. -/
def updateReturning
    (relation : Relation σ ρ Apart)
    (violation : ε)
    (selects : ρ → Bool)
    (change : ρ → ρ) : Transaction σ ε (Option ρ) := do
  let state ← get
  let _ ← update relation violation selects change
  return ((relation.table state).find? selects).map change

variable {relation : Relation σ ρ Apart}
variable {violation : ε}
variable {state later : σ}

theorem run_insert_eq_ok_iff {row : ρ} {result : Unit} :
    (insert relation violation row).run state = .ok (result, later) ↔
      relation.admits state row = true ∧
        ∃ table : Table ρ Apart,
          table.rows = (relation.table state).rows ++ [row] ∧
            later = relation.replace state table := by
  unfold insert
  simp only [run_get_bind, run_lift_bind_eq_ok_iff, rejectIf_eq_ok_iff,
    okOr_eq_ok_iff, Bool.not_eq_false, Table.insert?_eq_some_iff]
  constructor
  · rintro ⟨_, admitted, table, inserted, ran⟩
    exact ⟨admitted, table, inserted, (Prod.mk.inj (Except.ok.inj ran)).2.symm⟩
  · rintro ⟨admitted, table, inserted, rfl⟩
    exact ⟨(), admitted, table, inserted, rfl⟩

theorem run_update_eq_ok_iff
    {selects : ρ → Bool}
    {change : ρ → ρ}
    {affected : Nat} :
    (update relation violation selects change).run state =
        .ok (affected, later) ↔
      affected = (relation.table state).count selects ∧
        ∃ table : Table ρ Apart,
          table.rows =
              (relation.table state).rows.map (modify selects change) ∧
            later = relation.replace state table := by
  unfold update
  simp only [run_get_bind, run_lift_bind_eq_ok_iff, okOr_eq_ok_iff,
    Table.update?_eq_some_iff]
  constructor
  · rintro ⟨table, updated, ran⟩
    obtain ⟨rfl, rfl⟩ := Prod.mk.inj (Except.ok.inj ran)
    exact ⟨rfl, table, updated, rfl⟩
  · rintro ⟨rfl, table, updated, rfl⟩
    exact ⟨table, updated, rfl⟩

theorem run_insert_bind_eq_ok_iff
    {row : ρ}
    {next : Unit → Transaction σ ε β}
    {result : β} :
    (insert relation violation row >>= next).run state = .ok (result, later) ↔
      relation.admits state row = true ∧
        ∃ table : Table ρ Apart,
          table.rows = (relation.table state).rows ++ [row] ∧
            (next ()).run (relation.replace state table) =
              .ok (result, later) := by
  rw [run_bind_eq_ok_iff]
  simp only [run_insert_eq_ok_iff]
  constructor
  · rintro ⟨_, _, ⟨admitted, table, rows_eq, rfl⟩, continued⟩
    exact ⟨admitted, table, rows_eq, continued⟩
  · rintro ⟨admitted, table, rows_eq, continued⟩
    exact ⟨(), _, ⟨admitted, table, rows_eq, rfl⟩, continued⟩

theorem run_insertWhere_eq_ok_iff
    {condition : σ → Bool}
    {row : ρ}
    {affected : Nat} :
    (insertWhere relation violation condition row).run state =
        .ok (affected, later) ↔
      condition state = false ∧ affected = 0 ∧ later = state ∨
        condition state = true ∧ affected = 1 ∧
          (insert relation violation row).run state = .ok ((), later) := by
  simp only [insertWhere, run_get_bind]
  cases holds : condition state with
  | false =>
      simp only [Bool.false_eq_true, if_false, run_pure, Except.ok.injEq,
        Prod.mk.injEq, true_and, false_and, or_false]
      exact and_congr eq_comm eq_comm
  | true =>
      simp only [if_true, run_bind_eq_ok_iff, run_pure, Except.ok.injEq,
        Prod.mk.injEq, Bool.true_eq_false, false_and, true_and, false_or]
      constructor
      · rintro ⟨_, _, inserted, rfl, rfl⟩
        exact ⟨rfl, inserted⟩
      · rintro ⟨rfl, inserted⟩
        exact ⟨(), later, inserted, rfl, rfl⟩

/-- A conditional insertion that has to insert one row. -/
theorem run_insertWhere_bind_eq_ok_iff
    {condition : σ → Bool}
    {row : ρ}
    {missing : ε}
    {next : Transaction σ ε β}
    {result : β} :
    (do
        let affected ← insertWhere relation violation condition row
        rejectIf (affected ≠ 1) missing
        next).run state = .ok (result, later) ↔
      condition state = true ∧
        (do insert relation violation row; next).run state =
          .ok (result, later) := by
  simp only [run_bind_eq_ok_iff, run_insertWhere_eq_ok_iff, run_lift_eq_ok_iff,
    rejectIf_eq_ok_iff, Decidable.not_not]
  constructor
  · rintro ⟨_, _, ⟨-, rfl, -⟩ | ⟨holds, -, inserted⟩, _, _, ⟨single, rfl⟩,
      continued⟩
    · exact absurd single (by decide)
    · exact ⟨holds, (), _, inserted, continued⟩
  · rintro ⟨holds, _, middle, inserted, continued⟩
    exact ⟨1, middle, .inr ⟨holds, rfl, inserted⟩, (), middle, ⟨rfl, rfl⟩,
      continued⟩

/-- A change that has to select exactly one row. -/
theorem run_update_bind_eq_ok_iff
    {selects : ρ → Bool}
    {change : ρ → ρ}
    {missing : ε}
    {next : Transaction σ ε β}
    {result : β} :
    (do
        let affected ← update relation violation selects change
        rejectIf (affected ≠ 1) missing
        next).run state = .ok (result, later) ↔
      (relation.table state).count selects = 1 ∧
        ∃ table : Table ρ Apart,
          table.rows =
              (relation.table state).rows.map (modify selects change) ∧
            next.run (relation.replace state table) = .ok (result, later) := by
  simp only [run_bind_eq_ok_iff, run_update_eq_ok_iff, run_lift_eq_ok_iff,
    rejectIf_eq_ok_iff, Decidable.not_not]
  constructor
  · rintro ⟨_, _, ⟨rfl, table, rows_eq, rfl⟩, _, _, ⟨single, rfl⟩, continued⟩
    exact ⟨single, table, rows_eq, continued⟩
  · rintro ⟨single, table, rows_eq, continued⟩
    exact ⟨_, _, ⟨rfl, table, rows_eq, rfl⟩, (), _, ⟨single, rfl⟩, continued⟩

/-- An insertion or replacement that has to write one row. -/
theorem run_upsertWhere_bind_eq_ok_iff
    {condition : σ → Bool}
    {row : ρ}
    {conflicts : ρ → Bool}
    {change : ρ → ρ}
    {missing : ε}
    {next : Transaction σ ε β}
    {result : β} :
    (do
        let affected ← upsertWhere relation violation condition row conflicts
          change
        rejectIf (affected ≠ 1) missing
        next).run state = .ok (result, later) ↔
      condition state = true ∧
        if (relation.table state).any conflicts then
          (do
            let affected ← update relation violation conflicts change
            rejectIf (affected ≠ 1) missing
            next).run state = .ok (result, later)
        else
          (do insert relation violation row; next).run state =
            .ok (result, later) := by
  unfold upsertWhere
  rw [run_bind_eq_ok_iff]
  cases holds : condition state with
  | false =>
      simp only [run_get_bind, holds, Bool.and_false, Bool.false_eq_true,
        if_false, false_and, iff_false]
      rw [← run_bind_eq_ok_iff, run_insertWhere_bind_eq_ok_iff, holds]
      exact fun ran => absurd ran.1 (by decide)
  | true =>
      simp only [run_get_bind, holds, Bool.and_true, true_and]
      split
      · rw [← run_bind_eq_ok_iff]
      · rw [← run_bind_eq_ok_iff, run_insertWhere_bind_eq_ok_iff, holds,
          and_iff_right rfl]

/-- A change that continues with the first row it selected. -/
theorem run_updateReturning_bind_eq_ok_iff
    {selects : ρ → Bool}
    {change : ρ → ρ}
    {next : Option ρ → Transaction σ ε β}
    {result : β} :
    (updateReturning relation violation selects change >>= next).run state =
        .ok (result, later) ↔
      (relation.table state).find? selects = none ∧
          (next none).run state = .ok (result, later) ∨
        ∃ row, (relation.table state).find? selects = some row ∧
          ∃ table : Table ρ Apart,
            table.rows =
                (relation.table state).rows.map (modify selects change) ∧
              (next (some (change row))).run (relation.replace state table) =
                .ok (result, later) := by
  simp only [updateReturning, run_bind_eq_ok_iff, run_get_bind,
    run_update_eq_ok_iff, run_pure, Except.ok.injEq, Prod.mk.injEq]
  constructor
  · rintro ⟨_, _, ⟨_, _, ⟨-, table, rows_eq, rfl⟩, rfl, rfl⟩, continued⟩
    cases found : (relation.table state).find? selects with
    | none =>
        rw [found, Table.eq_of_not_selects
          (Table.not_selects_of_find?_eq_none found) rows_eq,
          relation.replace_table] at continued
        exact .inl ⟨rfl, continued⟩
    | some row =>
        rw [found] at continued
        exact .inr ⟨row, rfl, table, rows_eq, continued⟩
  · rintro (⟨none, continued⟩ | ⟨row, found, table, rows_eq, continued⟩)
    · refine ⟨_, _, ⟨_, _, ⟨rfl, relation.table state, ?_, rfl⟩, rfl, rfl⟩, ?_⟩
      · exact (map_modify_of_not_selects fun _ row_mem =>
          Table.not_selects_of_find?_eq_none none row_mem).symm
      · rw [none, relation.replace_table]
        exact continued
    · refine ⟨_, _, ⟨_, _, ⟨rfl, table, rows_eq, rfl⟩, rfl, rfl⟩, ?_⟩
      rw [found]
      exact continued

end Statements

/-- Drop the selected rows and return their number. -/
def delete
    (relation : Relation σ ρ Apart)
    (selects : ρ → Bool) : Transaction σ ε Nat := do
  let state ← get
  set (relation.replace state ((relation.table state).delete selects))
  return (relation.table state).count selects

theorem run_delete_eq_ok_iff
    {relation : Relation σ ρ Apart}
    {selects : ρ → Bool}
    {state later : σ}
    {affected : Nat} :
    (delete relation selects : Transaction σ ε Nat).run state =
        .ok (affected, later) ↔
      affected = (relation.table state).count selects ∧
        later = relation.replace state
          ((relation.table state).delete selects) := by
  constructor
  · intro ran
    obtain ⟨rfl, rfl⟩ := Prod.mk.inj (Except.ok.inj ran)
    exact ⟨rfl, rfl⟩
  · rintro ⟨rfl, rfl⟩
    rfl

/-! ## Commit and rollback -/

/-- Run a transaction, rolling it back when it fails. -/
def commit (transaction : Transaction σ ε α) (state : σ) : Except ε α × σ :=
  match transaction.run state with
  | .ok (value, later) => (.ok value, later)
  | .error error => (.error error, state)

theorem commit_eq_ok_iff
    {transaction : Transaction σ ε α}
    {state later : σ}
    {value : α} :
    transaction.commit state = (.ok value, later) ↔
      transaction.run state = .ok (value, later) := by
  unfold commit
  split <;> simp_all

/-- A failed transaction changes nothing. -/
theorem eq_of_commit_eq_error
    {transaction : Transaction σ ε α}
    {state later : σ}
    {error : ε}
    (failed : transaction.commit state = (.error error, later)) :
    later = state := by
  unfold commit at failed
  split at failed <;> simp_all

end Transaction

end Sql
end Fcp
