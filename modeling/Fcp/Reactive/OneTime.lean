import Mathlib.Data.List.Basic
import Mathlib.Data.List.Pairwise

/-!
# One-time codes

Owners hold sets of codes.  A new set replaces the one before, and each code of
the current set is accepted once.  The history of both is a ledger, oldest
first.
-/

namespace Fcp
namespace Reactive

/-- Members of a list that are not apart stand at the same place. -/
theorem eq_of_not_apart
    {α : Type}
    {Apart : α → α → Prop}
    {front back other_front other_back : List α}
    {member other : α}
    (same : front ++ member :: back = other_front ++ other :: other_back)
    (apart : (front ++ member :: back).Pairwise Apart)
    (close : ¬Apart member other)
    (closeBack : ¬Apart other member) :
    front = other_front ∧ member = other ∧ back = other_back := by
  rcases List.append_eq_append_iff.mp same with
    ⟨between, rfl, rest_eq⟩ | ⟨between, rfl, rest_eq⟩
  · cases between with
    | nil =>
        obtain ⟨rfl, rfl⟩ := List.cons.inj rest_eq
        exact ⟨(List.append_nil _).symm, rfl, rfl⟩
    | cons first between =>
        obtain ⟨rfl, rfl⟩ := List.cons.inj rest_eq
        have later := (List.pairwise_cons.mp (List.pairwise_append.mp apart).2.1).1
        exact absurd (later other (List.mem_append_right _ List.mem_cons_self))
          close
  · cases between with
    | nil =>
        obtain ⟨rfl, rfl⟩ := List.cons.inj rest_eq
        exact ⟨List.append_nil _, rfl, rfl⟩
    | cons first between =>
        obtain ⟨rfl, rfl⟩ := List.cons.inj rest_eq
        have later := (List.pairwise_append.mp apart).2.2
        exact absurd (later other (List.mem_append_right _ List.mem_cons_self)
          member List.mem_cons_self) closeBack

namespace OneTime

variable {Owner Code : Type}

/-- What happens to the codes of an owner. -/
inductive Entry (Owner Code : Type)
  | replaced (owner : Owner) (codes : List Code)
  | accepted (owner : Owner) (code : Code)

/-- A code is in the owner's latest set and has not been accepted since. -/
def Usable
    (ledger : List (Entry Owner Code))
    (owner : Owner)
    (code : Code) : Prop :=
  ∃ before codes after, ledger = before ++ .replaced owner codes :: after ∧
    code ∈ codes ∧ (∀ others, .replaced owner others ∉ after) ∧
    .accepted owner code ∉ after

/-- Codes are accepted only while they can be used. -/
def Sound (ledger : List (Entry Owner Code)) : Prop :=
  ∀ before owner code after, ledger = before ++ .accepted owner code :: after →
    Usable before owner code

/-- Different sets share no codes. -/
def Entry.Apart : Entry Owner Code → Entry Owner Code → Prop
  | .replaced _ codes, .replaced _ others => codes.Disjoint others
  | _, _ => True

variable {ledger : List (Entry Owner Code)}
variable {owner other : Owner}
variable {code : Code}

theorem not_usable_nil : ¬Usable ([] : List (Entry Owner Code)) owner code := by
  rintro ⟨before, codes, after, ledger_eq, -⟩
  simp at ledger_eq

/-- A replacement makes exactly its codes usable for its owner. -/
theorem usable_replaced_iff {codes : List Code} :
    Usable (ledger ++ [.replaced other codes]) owner code ↔
      other = owner ∧ code ∈ codes ∨ other ≠ owner ∧ Usable ledger owner code := by
  constructor
  · rintro ⟨before, latest, after, ledger_eq, code_mem, last, unused⟩
    rcases List.eq_nil_or_concat' after with rfl | ⟨front, entry, rfl⟩
    · obtain ⟨rfl, entry_eq⟩ := List.append_singleton_inj.mp ledger_eq
      cases entry_eq
      exact .inl ⟨rfl, code_mem⟩
    · rw [← List.cons_append, ← List.append_assoc] at ledger_eq
      obtain ⟨rfl, rfl⟩ := List.append_singleton_inj.mp ledger_eq
      refine .inr ⟨?_, before, latest, front, rfl, code_mem, ?_, ?_⟩
      · rintro rfl
        exact last codes List.mem_concat_self
      · exact fun others mem => last others (List.mem_append_left _ mem)
      · exact fun mem => unused (List.mem_append_left _ mem)
  · rintro (⟨rfl, code_mem⟩ | ⟨different, before, latest, after, rfl, code_mem,
      last, unused⟩)
    · exact ⟨ledger, codes, [], rfl, code_mem, fun _ => List.not_mem_nil,
        List.not_mem_nil⟩
    · refine ⟨before, latest, after ++ [.replaced other codes],
        List.append_assoc .., code_mem, fun others mem => ?_, fun mem => ?_⟩
      · rcases List.mem_append.mp mem with mem | mem
        · exact last others mem
        · cases List.mem_singleton.mp mem
          exact different rfl
      · rcases List.mem_append.mp mem with mem | mem
        · exact unused mem
        · cases List.mem_singleton.mp mem

/-- An accepted code is no longer usable for its owner. -/
theorem usable_accepted_iff {used : Code} :
    Usable (ledger ++ [.accepted other used]) owner code ↔
      Usable ledger owner code ∧ ¬(other = owner ∧ used = code) := by
  constructor
  · rintro ⟨before, latest, after, ledger_eq, code_mem, last, unused⟩
    rcases List.eq_nil_or_concat' after with rfl | ⟨front, entry, rfl⟩
    · cases (List.append_singleton_inj.mp ledger_eq).2
    · rw [← List.cons_append, ← List.append_assoc] at ledger_eq
      obtain ⟨rfl, rfl⟩ := List.append_singleton_inj.mp ledger_eq
      refine ⟨⟨before, latest, front, rfl, code_mem, ?_, ?_⟩, ?_⟩
      · exact fun others mem => last others (List.mem_append_left _ mem)
      · exact fun mem => unused (List.mem_append_left _ mem)
      · rintro ⟨rfl, rfl⟩
        exact unused List.mem_concat_self
  · rintro ⟨⟨before, latest, after, rfl, code_mem, last, unused⟩, different⟩
    refine ⟨before, latest, after ++ [.accepted other used],
      List.append_assoc .., code_mem, fun others mem => ?_, fun mem => ?_⟩
    · rcases List.mem_append.mp mem with mem | mem
      · exact last others mem
      · cases List.mem_singleton.mp mem
    · rcases List.mem_append.mp mem with mem | mem
      · exact unused mem
      · cases List.mem_singleton.mp mem
        exact different ⟨rfl, rfl⟩

namespace Sound

theorem nil : Sound ([] : List (Entry Owner Code)) := by
  intro before owner code after ledger_eq
  simp at ledger_eq

theorem concat
    {entry : Entry Owner Code}
    (sound : Sound ledger)
    (accepts : ∀ owner code, entry = .accepted owner code →
      Usable ledger owner code) :
    Sound (ledger ++ [entry]) := by
  intro before owner code after ledger_eq
  rcases List.eq_nil_or_concat' after with rfl | ⟨front, last, rfl⟩
  · obtain ⟨rfl, entry_eq⟩ := List.append_singleton_inj.mp ledger_eq
    exact accepts owner code entry_eq
  · rw [← List.cons_append, ← List.append_assoc] at ledger_eq
    exact sound before owner code front
      (List.append_singleton_inj.mp ledger_eq).1

theorem front
    {later : List (Entry Owner Code)}
    (sound : Sound (ledger ++ later)) :
    Sound ledger := by
  rintro before owner code after rfl
  exact sound before owner code (after ++ later) (List.append_assoc ..)

/-- A code that has been accepted is not usable for anyone. -/
theorem not_usable
    (sound : Sound ledger)
    (apart : ledger.Pairwise Entry.Apart)
    (accepted : .accepted owner code ∈ ledger) :
    ¬Usable ledger other code := by
  rintro ⟨before, codes, after, rfl, code_mem, -, unused⟩
  obtain ⟨front, back, same⟩ := List.append_of_mem accepted
  obtain ⟨first, others, middle, rfl, other_mem, -⟩ :=
    sound front owner code back same
  rw [List.append_assoc, List.cons_append] at same
  obtain ⟨-, entry_eq, rfl⟩ := eq_of_not_apart same apart
    (fun disjoint => disjoint code_mem other_mem)
    (fun disjoint => disjoint other_mem code_mem)
  cases entry_eq
  exact unused (List.mem_append_right _ List.mem_cons_self)

/-- No code is accepted twice. -/
theorem not_accepted_again
    {before after : List (Entry Owner Code)}
    (sound : Sound (before ++ .accepted other code :: after))
    (apart : (before ++ .accepted other code :: after).Pairwise Entry.Apart) :
    .accepted owner code ∉ before := by
  intro accepted
  exact sound.front.not_usable (List.pairwise_append.mp apart).1 accepted
    (sound before other code after rfl)

end Sound

end OneTime
end Reactive
end Fcp
