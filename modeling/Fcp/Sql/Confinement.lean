import Fcp.Sql.Table

/-!
# Rows left alone

A statement is confined when the rows outside its scope are the same before and
after it, in the same order.  So every row it inserts, changes or deletes is
inside.
-/

namespace Fcp
namespace Sql

variable {ρ : Type}

/-- The rows outside a scope stay as they are. -/
def Confined (outside : ρ → Bool) (rows later : List ρ) : Prop :=
  later.filter outside = rows.filter outside

namespace Confined

variable {outside selects : ρ → Bool}
variable {change : ρ → ρ}
variable {rows later added : List ρ}

/-- An insertion of rows inside the scope. -/
theorem insert
    (rows_eq : later = rows ++ added)
    (inside : ∀ row ∈ added, outside row = false) :
    Confined outside rows later := by
  have none : added.filter outside = [] := by
    rw [List.filter_eq_nil_iff]
    intro row row_mem
    rw [inside row row_mem]
    exact Bool.false_ne_true
  rw [Confined, rows_eq, List.filter_append, none, List.append_nil]

/-- A change of rows inside the scope that leaves them there. -/
theorem map_modify
    (inside : ∀ row ∈ rows, selects row = true → outside row = false)
    (kept : ∀ row, outside (change row) = outside row) :
    Confined outside rows (rows.map (modify selects change)) := by
  have same (row : ρ) (row_mem : row ∈ rows.filter outside) :
      modify selects change row = row := by
    obtain ⟨row_mem, is_outside⟩ := List.mem_filter.mp row_mem
    refine modify_of_not_selects (Bool.eq_false_iff.mpr fun selected => ?_)
    rw [inside row row_mem selected] at is_outside
    exact Bool.false_ne_true is_outside
  calc
    (rows.map (modify selects change)).filter outside =
        (rows.filter (outside ∘ modify selects change)).map
          (modify selects change) := List.filter_map
    _ = (rows.filter outside).map (modify selects change) := by
      congr 2
      funext row
      exact modify_column outside kept row
    _ = (rows.filter outside).map id := List.map_congr_left same
    _ = rows.filter outside := List.map_id _

theorem update
    (rows_eq : later = rows.map (modify selects change))
    (inside : ∀ row ∈ rows, selects row = true → outside row = false)
    (kept : ∀ row, outside (change row) = outside row) :
    Confined outside rows later :=
  rows_eq ▸ map_modify inside kept

/-- A change followed by an insertion. -/
theorem updateInsert
    (rows_eq : later = rows.map (modify selects change) ++ added)
    (inside : ∀ row ∈ rows, selects row = true → outside row = false)
    (kept : ∀ row, outside (change row) = outside row)
    (added_inside : ∀ row ∈ added, outside row = false) :
    Confined outside rows later :=
  (insert rows_eq added_inside).trans (map_modify inside kept)

/-- A deletion of rows inside the scope. -/
theorem delete
    (rows_eq : later = rows.filter fun row => !selects row)
    (inside : ∀ row ∈ rows, selects row = true → outside row = false) :
    Confined outside rows later := by
  rw [Confined, rows_eq, List.filter_filter]
  apply List.filter_congr
  intro row row_mem
  cases selected : selects row with
  | false => simp
  | true => simp [inside row row_mem selected]

end Confined

end Sql
end Fcp
