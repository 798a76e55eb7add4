import Mathlib.Order.Lattice

/-!
# Registers that only move forward

A register takes over an acceptable offer whose rank exceeds the rank of the
value it holds, and ignores every other offer.  When offers of one rank agree,
what the register ends with depends only on the set of offers it has been given.
-/

namespace Fcp
namespace Reactive

variable {α β κ : Type} [LinearOrder κ]

/-- The held value is an acceptable offer of the highest rank, if there is any
acceptable offer. -/
def IsNewest
    (acceptable : α → Prop)
    (rank : α → κ)
    (offers : List α) : Option α → Prop
  | none => ∀ offer ∈ offers, ¬acceptable offer
  | some newest =>
      newest ∈ offers ∧ acceptable newest ∧
        ∀ offer ∈ offers, acceptable offer → rank offer ≤ rank newest

namespace IsNewest

variable {acceptable : α → Prop} {rank : α → κ}
variable {offers : List α} {held : Option α} {offered : α}

/-- The register takes over an acceptable offer of higher rank. -/
theorem adopt
    (current : IsNewest acceptable rank offers held)
    (accepted : acceptable offered)
    (higher : ∀ value ∈ held, rank value < rank offered) :
    IsNewest acceptable rank (offers ++ [offered]) (some offered) := by
  refine ⟨by simp, accepted, ?_⟩
  intro offer member offerAccepted
  rw [List.mem_append, List.mem_singleton] at member
  rcases member with earlier | rfl
  · cases held with
    | none => exact absurd offerAccepted (current offer earlier)
    | some value =>
        exact le_trans (current.2.2 offer earlier offerAccepted)
          (le_of_lt (higher value rfl))
  · exact le_refl _

/-- The register ignores an offer that is not acceptable or not higher. -/
theorem keep
    (current : IsNewest acceptable rank offers held)
    (lower : acceptable offered → ∃ value ∈ held, rank offered ≤ rank value) :
    IsNewest acceptable rank (offers ++ [offered]) held := by
  cases held with
  | none =>
      intro offer member accepted
      rw [List.mem_append, List.mem_singleton] at member
      rcases member with earlier | rfl
      · exact current offer earlier accepted
      · obtain ⟨value, impossible, -⟩ := lower accepted
        cases impossible
  | some newest =>
      obtain ⟨member, newestAccepted, highest⟩ := current
      refine ⟨List.mem_append_left _ member, newestAccepted, ?_⟩
      intro offer offerMember accepted
      rw [List.mem_append, List.mem_singleton] at offerMember
      rcases offerMember with earlier | rfl
      · exact highest offer earlier accepted
      · obtain ⟨value, value_eq, bounded⟩ := lower accepted
        rw [Option.mem_some] at value_eq
        rw [value_eq]
        exact bounded

/-- Two registers that were given the same set of offers hold the same content,
provided that acceptable offers of one rank have one content. -/
theorem map_eq
    {others : List α}
    {other : Option α}
    {content : α → β}
    (coherent : ∀ left ∈ offers, ∀ right ∈ offers,
      rank left = rank right → content left = content right)
    (same : ∀ offer, offer ∈ offers ↔ offer ∈ others)
    (first : IsNewest acceptable rank offers held)
    (second : IsNewest acceptable rank others other) :
    held.map content = other.map content := by
  cases held with
  | none =>
      cases other with
      | none => rfl
      | some value =>
          exact absurd second.2.1 (first value ((same value).mpr second.1))
  | some left =>
      cases other with
      | none => exact absurd first.2.1 (second left ((same left).mp first.1))
      | some right =>
          have rightOffered := (same right).mpr second.1
          have leftOffered := (same left).mp first.1
          apply congrArg some
          apply coherent left first.1 right rightOffered
          apply le_antisymm
          · exact second.2.2 left leftOffered first.2.1
          · exact first.2.2 right rightOffered second.2.1

end IsNewest

end Reactive
end Fcp
