import Mathlib.Data.List.Pairwise

/-!
# Tables

Rows in order of insertion, any two of them apart as the keys of the table
demand.  A statement that would bring two rows too close has no result.
-/

namespace Fcp
namespace Sql

/-- Rows of which any two are apart. -/
structure Table (ρ : Type) (Apart : ρ → ρ → Prop) where
  rows : List ρ
  apart : rows.Pairwise Apart

/-- Change the rows that a condition selects. -/
def modify (selects : ρ → Bool) (change : ρ → ρ) (row : ρ) : ρ :=
  if selects row then change row else row

theorem modify_of_selects
    {selects : ρ → Bool}
    {change : ρ → ρ}
    {row : ρ}
    (selected : selects row = true) :
    modify selects change row = change row :=
  if_pos selected

theorem modify_of_not_selects
    {selects : ρ → Bool}
    {change : ρ → ρ}
    {row : ρ}
    (other : selects row = false) :
    modify selects change row = row := by
  rw [modify, other]
  rfl

/-- A column that a change leaves alone is left alone in every row. -/
theorem modify_column
    (column : ρ → κ)
    {selects : ρ → Bool}
    {change : ρ → ρ}
    (kept : ∀ row, column (change row) = column row)
    (row : ρ) :
    column (modify selects change row) = column row := by
  unfold modify
  split
  · exact kept row
  · rfl

/-- Rows that a condition never selects are left alone. -/
theorem forall_mem_modify
    {rows later : List ρ}
    {selects : ρ → Bool}
    {change : ρ → ρ}
    {Holds : ρ → Prop}
    (rows_eq : later = rows.map (modify selects change))
    (holds : ∀ row ∈ rows, Holds row)
    (kept : ∀ row, selects row = true → Holds row → Holds (change row)) :
    ∀ row ∈ later, Holds row := by
  intro row row_mem
  rw [rows_eq] at row_mem
  obtain ⟨before, before_mem, rfl⟩ := List.mem_map.mp row_mem
  cases selected : selects before with
  | true =>
      rw [modify_of_selects selected]
      exact kept before selected (holds before before_mem)
  | false =>
      rw [modify_of_not_selects selected]
      exact holds before before_mem

theorem forall_mem_concat
    {rows later : List ρ}
    {added : ρ}
    {Holds : ρ → Prop}
    (rows_eq : later = rows ++ [added])
    (holds : ∀ row ∈ rows, Holds row)
    (new : Holds added) :
    ∀ row ∈ later, Holds row := by
  intro row row_mem
  rw [rows_eq, List.mem_append, List.mem_singleton] at row_mem
  rcases row_mem with row_mem | rfl
  · exact holds row row_mem
  · exact new

theorem map_modify_of_not_selects
    {selects : ρ → Bool}
    {change : ρ → ρ}
    {rows : List ρ}
    (none : ∀ row ∈ rows, selects row = false) :
    rows.map (modify selects change) = rows := by
  calc
    rows.map (modify selects change) = rows.map fun row => row := by
      apply List.map_congr_left
      intro row row_mem
      exact modify_of_not_selects (none row row_mem)
    _ = rows := List.map_id' rows

namespace Table

variable {ρ κ : Type} {Apart : ρ → ρ → Prop}

theorem ext {left right : Table ρ Apart} (rows_eq : left.rows = right.rows) :
    left = right := by
  cases left
  cases right
  exact mk.injEq .. ▸ rows_eq

/-- A table without rows. -/
def empty : Table ρ Apart :=
  ⟨[], .nil⟩

@[simp] theorem rows_empty : (empty : Table ρ Apart).rows = [] := rfl

/-- Some row meets a condition. -/
def any (table : Table ρ Apart) (selects : ρ → Bool) : Bool :=
  table.rows.any selects

/-- The first row that meets a condition. -/
def find? (table : Table ρ Apart) (selects : ρ → Bool) : Option ρ :=
  table.rows.find? selects

/-- The number of rows that meet a condition. -/
def count (table : Table ρ Apart) (selects : ρ → Bool) : Nat :=
  table.rows.countP selects

/-- Two rows that are not apart, in either order, are one row. -/
theorem eq_of_not_apart
    {table : Table ρ Apart}
    {first second : ρ}
    (first_mem : first ∈ table.rows)
    (second_mem : second ∈ table.rows)
    (close : ¬Apart first second)
    (closeBack : ¬Apart second first) :
    first = second := by
  by_contra different
  obtain ⟨before, after, rows_eq⟩ := List.append_of_mem first_mem
  have apart := table.apart
  rw [rows_eq] at second_mem apart
  obtain ⟨-, rest, across⟩ := List.pairwise_append.mp apart
  rcases List.mem_append.mp second_mem with earlier | later
  · exact closeBack (across second earlier first List.mem_cons_self)
  · rcases List.mem_cons.mp later with same | later
    · exact different same.symm
    · exact close ((List.pairwise_cons.mp rest).1 second later)

/-- Rows that agree on a key are one row. -/
theorem eq_of_key
    {table : Table ρ Apart}
    {key : ρ → κ}
    {first second : ρ}
    (separates : ∀ {first second}, Apart first second → key first ≠ key second)
    (first_mem : first ∈ table.rows)
    (second_mem : second ∈ table.rows)
    (key_eq : key first = key second) :
    first = second := by
  apply eq_of_not_apart first_mem second_mem
  · exact fun apart => separates apart key_eq
  · exact fun apart => separates apart key_eq.symm

theorem exists_of_count_eq_one
    {table : Table ρ Apart}
    {selects : ρ → Bool}
    (single : table.count selects = 1) :
    ∃ row ∈ table.rows, selects row = true := by
  apply List.countP_pos_iff.mp
  change 0 < table.count selects
  omega

theorem count_and_eq_one
    {table : Table ρ Apart}
    {selects : ρ → Bool}
    {condition : Bool}
    (single : (table.count fun row => selects row && condition) = 1) :
    condition = true := by
  obtain ⟨row, -, selected⟩ := exists_of_count_eq_one single
  exact (Bool.and_eq_true _ _ ▸ selected).2

theorem not_selects_of_count_eq_zero
    {table : Table ρ Apart}
    {selects : ρ → Bool}
    (none : table.count selects = 0)
    {row : ρ}
    (row_mem : row ∈ table.rows) :
    selects row = false :=
  Bool.not_eq_true _ ▸ List.countP_eq_zero.mp none row row_mem

/-- A condition under which rows are never apart selects at most one. -/
theorem count_le_one
    (table : Table ρ Apart)
    {selects : ρ → Bool}
    (close : ∀ {first second}, selects first = true → selects second = true →
      ¬Apart first second) :
    table.count selects ≤ 1 := by
  rw [count, List.countP_eq_length_filter]
  have apart := table.apart.filter selects
  cases selected : table.rows.filter selects with
  | nil => exact Nat.zero_le 1
  | cons first rest =>
      cases rest with
      | nil => exact Nat.le_refl 1
      | cons second rest =>
          rw [selected] at apart
          have met {row : ρ} (row_mem : row ∈ first :: second :: rest) :
              selects row = true :=
            (List.mem_filter.mp (selected ▸ row_mem)).2
          exact absurd
            ((List.pairwise_cons.mp apart).1 second List.mem_cons_self)
            (close (met List.mem_cons_self)
              (met (List.mem_cons_of_mem first List.mem_cons_self)))

theorem count_eq_one
    {table : Table ρ Apart}
    {selects : ρ → Bool}
    {row : ρ}
    (close : ∀ {first second}, selects first = true → selects second = true →
      ¬Apart first second)
    (row_mem : row ∈ table.rows)
    (selected : selects row = true) :
    table.count selects = 1 :=
  Nat.le_antisymm (table.count_le_one close)
    (List.countP_pos_iff.mpr ⟨row, row_mem, selected⟩)

theorem find?_eq_some
    {table : Table ρ Apart}
    {selects : ρ → Bool}
    {row : ρ}
    (found : table.find? selects = some row) :
    row ∈ table.rows ∧ selects row = true :=
  ⟨List.mem_of_find?_eq_some found, List.find?_some found⟩

theorem not_selects_of_find?_eq_none
    {table : Table ρ Apart}
    {selects : ρ → Bool}
    (none : table.find? selects = none)
    {row : ρ}
    (row_mem : row ∈ table.rows) :
    selects row = false :=
  Bool.not_eq_true _ ▸ List.find?_eq_none.mp none row row_mem

/-- A row is found by a condition under which rows are never apart. -/
theorem find?_of_mem
    {table : Table ρ Apart}
    {selects : ρ → Bool}
    {row : ρ}
    (close : ∀ {first second}, selects first = true → selects second = true →
      ¬Apart first second)
    (row_mem : row ∈ table.rows)
    (selected : selects row = true) :
    table.find? selects = some row := by
  cases found : table.find? selects with
  | none =>
      rw [not_selects_of_find?_eq_none found row_mem] at selected
      exact absurd selected Bool.false_ne_true
  | some other =>
      obtain ⟨other_mem, other_selected⟩ := find?_eq_some found
      rw [eq_of_not_apart other_mem row_mem (close other_selected selected)
        (close selected other_selected)]

/-- Rows of equal keys are never apart. -/
theorem not_apart_of_key
    {key : ρ → κ}
    {value : κ}
    {first second : ρ}
    (separates : ∀ {first second}, Apart first second → key first ≠ key second)
    (first_key : key first = value)
    (second_key : key second = value) :
    ¬Apart first second :=
  fun apart => separates apart (first_key.trans second_key.symm)

/-! ## Statements -/

theorem pairwise_concat
    {row : ρ}
    (table : Table ρ Apart)
    (fresh : ∀ other ∈ table.rows, Apart other row) :
    (table.rows ++ [row]).Pairwise Apart := by
  refine List.pairwise_append.mpr
    ⟨table.apart, List.pairwise_singleton _ _, ?_⟩
  intro other other_mem last last_mem
  rw [List.mem_singleton.mp last_mem]
  exact fresh other other_mem

/-- A change that selects no row changes nothing. -/
theorem eq_of_not_selects
    {table later : Table ρ Apart}
    {selects : ρ → Bool}
    {change : ρ → ρ}
    (none : ∀ {row}, row ∈ table.rows → selects row = false)
    (rows_eq : later.rows = table.rows.map (modify selects change)) :
    later = table := by
  apply ext
  rw [rows_eq]
  exact map_modify_of_not_selects fun _ => none

/-- A change that keeps rows apart always has a result. -/
theorem exists_map_modify
    (table : Table ρ Apart)
    (selects : ρ → Bool)
    (change : ρ → ρ)
    (kept : ∀ {first second}, Apart first second →
      Apart (modify selects change first) (modify selects change second)) :
    ∃ later : Table ρ Apart,
      later.rows = table.rows.map (modify selects change) :=
  ⟨⟨_, List.pairwise_map.mpr (table.apart.imp kept)⟩, rfl⟩

section Insert

variable [DecidableRel Apart]

/-- Append a row that is apart from all others. -/
def insert? (table : Table ρ Apart) (row : ρ) : Option (Table ρ Apart) :=
  if fresh : ∀ other ∈ table.rows, Apart other row then
    some ⟨table.rows ++ [row], table.pairwise_concat fresh⟩
  else
    none

theorem insert?_eq_some_iff {table later : Table ρ Apart} {row : ρ} :
    table.insert? row = some later ↔ later.rows = table.rows ++ [row] := by
  unfold insert?
  split
  case isTrue fresh =>
    rw [Option.some.injEq]
    constructor
    · intro same
      rw [← same]
    · intro rows_eq
      exact ext rows_eq.symm
  case isFalse taken =>
    simp only [reduceCtorEq, false_iff]
    intro rows_eq
    apply taken
    intro other other_mem
    have apart := later.apart
    rw [rows_eq] at apart
    exact (List.pairwise_append.mp apart).2.2 other other_mem row
      List.mem_cons_self

/-- Change the selected rows, unless two rows come too close. -/
def update?
    (table : Table ρ Apart)
    (selects : ρ → Bool)
    (change : ρ → ρ) : Option (Table ρ Apart) :=
  if valid : (table.rows.map (modify selects change)).Pairwise Apart then
    some ⟨_, valid⟩
  else
    none

theorem update?_eq_some_iff
    {table later : Table ρ Apart}
    {selects : ρ → Bool}
    {change : ρ → ρ} :
    table.update? selects change = some later ↔
      later.rows = table.rows.map (modify selects change) := by
  unfold update?
  split
  case isTrue valid =>
    rw [Option.some.injEq]
    constructor
    · intro same
      rw [← same]
    · intro rows_eq
      exact ext rows_eq.symm
  case isFalse invalid =>
    simp only [reduceCtorEq, false_iff]
    intro rows_eq
    exact invalid (rows_eq ▸ later.apart)

end Insert

/-- Drop the selected rows. -/
def delete (table : Table ρ Apart) (selects : ρ → Bool) : Table ρ Apart :=
  ⟨table.rows.filter fun row => !selects row, table.apart.filter _⟩

theorem mem_delete
    {table : Table ρ Apart}
    {selects : ρ → Bool}
    {row : ρ} :
    row ∈ (table.delete selects).rows ↔
      row ∈ table.rows ∧ selects row = false := by
  simp [delete]

end Table

end Sql
end Fcp
