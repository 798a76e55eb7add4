import Fcp.Sql.Table

/-!
# Rows that replace one another

A succession is a list of rows of which each but the last names the next by its
key.  Replacing the last row lengthens the succession by one.
-/

namespace Fcp
namespace Sql

variable {ρ κ : Type}

/-- Rows of which each but the last names the next one. -/
inductive Succession (key : ρ → κ) (link : ρ → Option κ) : List ρ → Prop
  | last {row : ρ} (unreplaced : link row = none) :
      Succession key link [row]
  | replaced
      {row next : ρ}
      {rest : List ρ}
      (named : link row = some (key next))
      (succession : Succession key link (next :: rest)) :
      Succession key link (row :: next :: rest)

/-- The rows visited from a row by following names, as far as a fuel lasts. -/
def follow (find : κ → Option ρ) (link : ρ → Option κ) : Nat → ρ → List ρ
  | 0, _ => []
  | fuel + 1, row =>
      match (link row).bind find with
      | none => [row]
      | some next => row :: follow find link fuel next

namespace Succession

variable {key : ρ → κ} {link : ρ → Option κ} {rows : List ρ}

/-- Exactly one row has not been replaced. -/
theorem countP_eq_one (succession : Succession key link rows) :
    rows.countP (fun row => (link row).isNone) = 1 := by
  induction succession with
  | last unreplaced => simp [unreplaced]
  | replaced named _ inductionHypothesis =>
      rw [List.countP_cons_of_neg (by simp [named])]
      exact inductionHypothesis

theorem eq_of_unreplaced
    {row other : ρ}
    (succession : Succession key link rows)
    (row_mem : row ∈ rows)
    (row_unreplaced : link row = none)
    (other_mem : other ∈ rows)
    (other_unreplaced : link other = none) :
    row = other := by
  induction succession with
  | last =>
      rw [List.mem_singleton.mp row_mem, List.mem_singleton.mp other_mem]
  | @replaced first next rest named _ inductionHypothesis =>
      have later {found : ρ} (unreplaced : link found = none)
          (found_mem : found ∈ first :: next :: rest) :
          found ∈ next :: rest := by
        rcases List.mem_cons.mp found_mem with rfl | found_mem
        · exact absurd (named.symm.trans unreplaced) nofun
        · exact found_mem
      exact inductionHypothesis (later row_unreplaced row_mem)
        (later other_unreplaced other_mem)

/-- Replacing the one row that has not been replaced. -/
theorem replace
    {selects : ρ → Bool}
    {change : ρ → ρ}
    {successor : ρ}
    (succession : Succession key link rows)
    (selects_iff : ∀ row ∈ rows, selects row = true ↔ link row = none)
    (key_change : ∀ row, key (change row) = key row)
    (link_change : ∀ row, link (change row) = some (key successor))
    (unreplaced : link successor = none) :
    Succession key link (rows.map (modify selects change) ++ [successor]) := by
  induction succession with
  | @last row last_unreplaced =>
      have selected := (selects_iff row List.mem_cons_self).mpr last_unreplaced
      rw [List.map_singleton, modify_of_selects selected]
      exact .replaced (link_change row) (.last unreplaced)
  | @replaced row next rest named _ inductionHypothesis =>
      have other : selects row = false := by
        rw [Bool.eq_false_iff, ne_eq, selects_iff row List.mem_cons_self, named]
        nofun
      have extended := inductionHypothesis fun row row_mem =>
        selects_iff row (List.mem_cons_of_mem _ row_mem)
      rw [List.map_cons, modify_of_not_selects other]
      refine .replaced ?_ extended
      rw [named, modify_column key key_change]

/-- A replaced row names a row after the first. -/
theorem named_mem_tail
    {first row : ρ}
    {rest : List ρ}
    {named : κ}
    (succession : Succession key link (first :: rest))
    (row_mem : row ∈ first :: rest)
    (link_eq : link row = some named) :
    ∃ next ∈ rest, named = key next := by
  generalize rows_eq : first :: rest = rows at succession row_mem
  induction succession generalizing first rest with
  | last unreplaced =>
      rw [List.mem_singleton.mp row_mem, unreplaced] at link_eq
      exact absurd link_eq nofun
  | @replaced other next tail other_named _ inductionHypothesis =>
      obtain ⟨rfl, rfl⟩ := List.cons.inj rows_eq
      rcases List.mem_cons.mp row_mem with rfl | row_mem
      · exact ⟨next, List.mem_cons_self,
          Option.some.inj (link_eq.symm.trans other_named)⟩
      · obtain ⟨found, found_mem, named_eq⟩ :=
          inductionHypothesis rfl row_mem
        exact ⟨found, List.mem_cons_of_mem _ found_mem, named_eq⟩

/-- Following the names from the first row visits the rows in order. -/
theorem follow_eq
    {find : κ → Option ρ}
    {first : ρ}
    {rest : List ρ}
    (succession : Succession key link (first :: rest))
    (found : ∀ row ∈ first :: rest, find (key row) = some row)
    {fuel : Nat}
    (enough : (first :: rest).length ≤ fuel) :
    follow find link fuel first = first :: rest := by
  generalize rows_eq : first :: rest = rows at *
  induction succession generalizing first rest fuel with
  | last unreplaced =>
      obtain ⟨rfl, rfl⟩ := List.cons.inj rows_eq
      obtain ⟨fuel, rfl⟩ := Nat.exists_eq_add_of_le' enough
      simp [follow, unreplaced]
  | @replaced row next tail named _ inductionHypothesis =>
      obtain ⟨rfl, rfl⟩ := List.cons.inj rows_eq
      obtain ⟨fuel, rfl⟩ := Nat.exists_eq_add_of_le' enough
      have next_found := found next
        (List.mem_cons_of_mem _ List.mem_cons_self)
      have visited := inductionHypothesis rfl
        (fun row row_mem => found row (List.mem_cons_of_mem _ row_mem))
        (Nat.le_add_left _ fuel)
      change follow find link (fuel + (next :: tail).length + 1) first = _
      rw [follow, named, Option.bind_some, next_found]
      exact congrArg (first :: ·) visited

/-- The last row has not been replaced. -/
theorem exists_last (succession : Succession key link rows) :
    ∃ last, rows.getLast? = some last ∧ link last = none := by
  induction succession with
  | @last row unreplaced => exact ⟨row, rfl, unreplaced⟩
  | replaced _ _ inductionHypothesis =>
      obtain ⟨last, last_eq, unreplaced⟩ := inductionHypothesis
      exact ⟨last, by rw [List.getLast?_cons_cons, last_eq], unreplaced⟩

end Succession

end Sql
end Fcp
