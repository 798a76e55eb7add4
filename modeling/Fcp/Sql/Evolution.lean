import Fcp.Sql.Table

/-!
# Rows over time

Rows keep their identity when they are changed, and a row that is settled stays
settled.  The relation composes over any number of statements.
-/

namespace Fcp
namespace Sql

variable {ρ κ : Type}
variable {identity : ρ → κ} {settled : ρ → Prop}
variable {rows later : List ρ}

/-- Every row has a later version of the same identity, settled once the row
is. -/
def Evolves
    (identity : ρ → κ)
    (settled : ρ → Prop)
    (rows later : List ρ) : Prop :=
  ∀ row ∈ rows, ∃ next ∈ later,
    identity next = identity row ∧ (settled row → settled next)

namespace Evolves

theorem refl (rows : List ρ) : Evolves identity settled rows rows :=
  fun row row_mem => ⟨row, row_mem, rfl, id⟩

theorem trans
    {middle : List ρ}
    (first : Evolves identity settled rows middle)
    (second : Evolves identity settled middle later) :
    Evolves identity settled rows later := by
  intro row row_mem
  obtain ⟨version, version_mem, version_identity, version_settled⟩ :=
    first row row_mem
  obtain ⟨next, next_mem, next_identity, next_settled⟩ :=
    second version version_mem
  exact ⟨next, next_mem, next_identity.trans version_identity,
    next_settled ∘ version_settled⟩

/-- An insertion leaves every row as it is. -/
theorem insert
    {added : List ρ}
    (rows_eq : later = rows ++ added) :
    Evolves identity settled rows later := by
  intro row row_mem
  refine ⟨row, ?_, rfl, id⟩
  rw [rows_eq]
  exact List.mem_append_left added row_mem

/-- A change of unsettled rows that keeps their identity. -/
theorem map_modify
    {selects : ρ → Bool}
    {change : ρ → ρ}
    (kept : ∀ row, identity (change row) = identity row)
    (preserved : ∀ row, selects row = true → settled row →
      settled (change row)) :
    Evolves identity settled rows (rows.map (modify selects change)) := by
  intro row row_mem
  refine ⟨_, List.mem_map_of_mem row_mem, modify_column identity kept row, ?_⟩
  intro row_settled
  cases selected : selects row with
  | false =>
      rw [modify_of_not_selects selected]
      exact row_settled
  | true =>
      rw [modify_of_selects selected]
      exact preserved row selected row_settled

theorem update
    {selects : ρ → Bool}
    {change : ρ → ρ}
    (rows_eq : later = rows.map (modify selects change))
    (kept : ∀ row, identity (change row) = identity row)
    (preserved : ∀ row, selects row = true → settled row →
      settled (change row)) :
    Evolves identity settled rows later :=
  rows_eq ▸ map_modify kept preserved

/-- A change followed by an insertion. -/
theorem updateInsert
    {selects : ρ → Bool}
    {change : ρ → ρ}
    {added : List ρ}
    (rows_eq : later = rows.map (modify selects change) ++ added)
    (kept : ∀ row, identity (change row) = identity row)
    (preserved : ∀ row, selects row = true → settled row →
      settled (change row)) :
    Evolves identity settled rows later :=
  (map_modify kept preserved).trans (insert rows_eq)

end Evolves

/-- A change that settles a row settles its key, which nothing settled before. -/
theorem settle
    {Apart : ρ → ρ → Prop}
    {table changed : Table ρ Apart}
    {key : ρ → κ}
    {value : κ}
    {selects : ρ → Bool}
    {change : ρ → ρ}
    {row : ρ}
    (separates : ∀ {first second}, Apart first second → key first ≠ key second)
    (row_mem : row ∈ table.rows)
    (selected : selects row = true)
    (row_key : key row = value)
    (unsettled : ¬settled row)
    (settles : settled (change row))
    (kept : key (change row) = key row)
    (rows_eq : changed.rows = table.rows.map (modify selects change)) :
    (¬∃ other ∈ table.rows, key other = value ∧ settled other) ∧
      ∃ other ∈ changed.rows, key other = value ∧ settled other := by
  constructor
  · rintro ⟨other, other_mem, other_key, other_settled⟩
    have same : key other = key row := other_key.trans row_key.symm
    rw [Table.eq_of_key @separates other_mem row_mem same] at other_settled
    exact unsettled other_settled
  · refine ⟨change row, ?_, kept.trans row_key, settles⟩
    rw [rows_eq]
    exact List.mem_map.mpr ⟨row, row_mem, modify_of_selects selected⟩

end Sql
end Fcp
