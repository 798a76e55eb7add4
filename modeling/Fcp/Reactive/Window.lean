import Mathlib.Data.List.Nodup

/-!
# Sliding windows

A queue that keeps the most recent items of a stream by forgetting its oldest
item once it is full.
-/

namespace Fcp
namespace Reactive

variable {α : Type}

/-- Append an item to a queue, forgetting the oldest one of a full queue. -/
def slide (capacity : Nat) (queue : List α) (item : α) : List α :=
  (if queue.length = capacity then queue.drop 1 else queue) ++ [item]

/-- The last items of a stream, at most as many as the capacity. -/
def recent (capacity : Nat) (items : List α) : List α :=
  items.drop (items.length - capacity)

theorem length_recent (capacity : Nat) (items : List α) :
    (recent capacity items).length = min items.length capacity := by
  rw [recent, List.length_drop]
  omega

/-- Sliding keeps a queue equal to the recent items of its stream. -/
theorem slide_recent
    {capacity : Nat}
    (positive : 0 < capacity)
    (items : List α)
    (item : α) :
    slide capacity (recent capacity items) item =
      recent capacity (items ++ [item]) := by
  have bound : items.length + 1 - capacity ≤ items.length := by omega
  rw [slide, length_recent, recent, recent, List.length_append,
    List.length_singleton, List.drop_append_of_le_length bound]
  congr 1
  split
  case isTrue full =>
    rw [List.drop_drop]
    congr 1
    omega
  case isFalse room =>
    congr 1
    omega

/-- An item is in the window exactly when one of its occurrences has fewer
items than the capacity after it. -/
theorem mem_recent_iff_exists
    {capacity : Nat}
    {items : List α}
    {item : α} :
    item ∈ recent capacity items ↔
      ∃ earlier later, items = earlier ++ item :: later ∧
        later.length < capacity := by
  constructor
  · intro member
    obtain ⟨skipped, later, split_eq⟩ := List.append_of_mem member
    refine ⟨items.take (items.length - capacity) ++ skipped, later, ?_, ?_⟩
    · rw [List.append_assoc, ← split_eq, recent, List.take_append_drop]
    · have length_eq := congrArg List.length split_eq
      rw [length_recent, List.length_append, List.length_cons] at length_eq
      omega
  · rintro ⟨earlier, later, rfl, inside⟩
    have cut : (earlier ++ item :: later).length - capacity ≤
        earlier.length := by
      rw [List.length_append, List.length_cons]
      omega
    rw [recent, List.drop_append_of_le_length cut]
    exact List.mem_append_right _ List.mem_cons_self

/-- A full window has forgotten whatever came before it. -/
theorem recent_append_of_le
    {capacity : Nat}
    {second : List α}
    (full : capacity ≤ second.length)
    (first : List α) :
    recent capacity (first ++ second) = recent capacity second := by
  have cut : (first ++ second).length - capacity =
      first.length + (second.length - capacity) := by
    rw [List.length_append]
    omega
  rw [recent, cut, List.drop_length_add_append, recent]

/-- An item is in the window exactly when fewer items than the capacity came
after its last occurrence. -/
theorem mem_recent_iff
    {capacity : Nat}
    {earlier later : List α}
    {item : α}
    (last : item ∉ later) :
    item ∈ recent capacity (earlier ++ item :: later) ↔
      later.length < capacity := by
  constructor
  · intro member
    by_contra outside
    rw [List.append_cons, recent_append_of_le (Nat.not_lt.mp outside)] at member
    exact last (List.mem_of_mem_drop member)
  · intro inside
    exact mem_recent_iff_exists.mpr ⟨earlier, later, rfl, inside⟩

theorem recent_eq_self
    {capacity : Nat}
    {items : List α}
    (fits : items.length ≤ capacity) :
    recent capacity items = items := by
  rw [recent, Nat.sub_eq_zero_of_le fits, List.drop_zero]

/-- A fresh item keeps a queue free of repetitions. -/
theorem nodup_slide
    {capacity : Nat}
    {queue : List α}
    {item : α}
    (distinct : queue.Nodup)
    (fresh : item ∉ queue) :
    (slide capacity queue item).Nodup := by
  have kept : (if queue.length = capacity then queue.drop 1
      else queue).Sublist queue := by
    split
    · exact List.drop_sublist 1 queue
    · exact List.Sublist.refl queue
  have absent : List.Disjoint (if queue.length = capacity then queue.drop 1
      else queue) [item] :=
    List.disjoint_singleton.mpr fun member => fresh (kept.subset member)
  exact (distinct.sublist kept).append (List.nodup_singleton item) absent

/-- The recent items of a concatenation come from the end of its first part and
the recent items of its second part. -/
theorem mem_recent_append_iff
    {capacity : Nat}
    {first second : List α}
    {item : α} :
    item ∈ recent capacity (first ++ second) ↔
      item ∈ first.drop (first.length + second.length - capacity) ∨
        item ∈ recent capacity second := by
  have cut : first.length + second.length - capacity - first.length =
      second.length - capacity := by omega
  rw [recent, List.length_append, List.drop_append, List.mem_append, cut,
    recent]

/-! ## Filtering a stream -/

section Filtering

variable {β : Type} [DecidableEq α]

/-- The items whose key is not in the window when they arrive. -/
def passing (key : β → α) (capacity : Nat) : List α → List β → List β
  | _, [] => []
  | queue, item :: items =>
      if key item ∈ queue then passing key capacity queue items
      else item :: passing key capacity (slide capacity queue (key item)) items

theorem length_passing_le
    (key : β → α)
    (capacity : Nat)
    (queue : List α)
    (items : List β) :
    (passing key capacity queue items).length ≤ items.length := by
  induction items generalizing queue with
  | nil => exact Nat.le_refl 0
  | cons item items inductionHypothesis =>
      rw [passing]
      split
      · exact Nat.le_succ_of_le (inductionHypothesis queue)
      · exact Nat.succ_le_succ (inductionHypothesis _)

/-- A stream passes unchanged exactly when no item arrives while its key is
among the recent ones. -/
theorem passing_eq_self_iff
    (key : β → α)
    {capacity : Nat}
    (positive : 0 < capacity)
    (stream : List α)
    (items : List β) :
    passing key capacity (recent capacity stream) items = items ↔
      ∀ earlier item later, items = earlier ++ item :: later →
        key item ∉ recent capacity (stream ++ earlier.map key) := by
  induction items generalizing stream with
  | nil => simp [passing]
  | cons first items inductionHypothesis =>
      rw [passing]
      constructor
      · intro unchanged
        split at unchanged
        case isTrue known =>
          have shorter := length_passing_le key capacity (recent capacity stream)
            items
          rw [unchanged, List.length_cons] at shorter
          exact absurd shorter (Nat.not_succ_le_self _)
        case isFalse fresh =>
          rw [slide_recent positive, List.cons.injEq] at unchanged
          have tail := (inductionHypothesis _).mp unchanged.2
          intro earlier item later split_eq
          cases earlier with
          | nil =>
              obtain ⟨rfl, -⟩ := List.cons.inj split_eq
              rw [List.map_nil, List.append_nil]
              exact fresh
          | cons head earlier =>
              obtain ⟨rfl, rest_eq⟩ := List.cons.inj split_eq
              have absent := tail earlier item later rest_eq
              rw [List.append_assoc, List.singleton_append] at absent
              exact absent
      · intro absent
        have fresh := absent [] first items rfl
        rw [List.map_nil, List.append_nil] at fresh
        rw [if_neg fresh, slide_recent positive, List.cons.injEq]
        refine ⟨rfl, (inductionHypothesis _).mpr ?_⟩
        intro earlier item later split_eq
        have later_absent := absent (first :: earlier) item later
          (by rw [split_eq, List.cons_append])
        rw [List.append_assoc, List.singleton_append]
        exact later_absent

/-- With keys that tell the items apart, a stream passes unchanged exactly when
equal items have at least the capacity of items between them and no item arrives
while its key is left over from the initial queue. -/
theorem passing_eq_self_iff_spaced
    {key : β → α}
    {capacity : Nat}
    (positive : 0 < capacity)
    {queue : List α}
    (fits : queue.length ≤ capacity)
    {items : List β}
    (separates : ∀ left ∈ items, ∀ right ∈ items,
      key left = key right → left = right) :
    passing key capacity queue items = items ↔
      (∀ earlier between later item,
        items = earlier ++ item :: (between ++ item :: later) →
          capacity ≤ between.length) ∧
      (∀ earlier later item, items = earlier ++ item :: later →
        key item ∉ queue.drop (queue.length + earlier.length - capacity)) := by
  have passes := passing_eq_self_iff key positive queue items
  rw [recent_eq_self fits] at passes
  simp only [mem_recent_append_iff, not_or, List.length_map] at passes
  rw [passes]
  constructor
  · intro absent
    constructor
    · intro earlier between later item split_eq
      by_contra close
      apply (absent (earlier ++ item :: between) item later
        (by rw [split_eq, List.append_assoc, List.cons_append])).2
      rw [mem_recent_iff_exists]
      refine ⟨earlier.map key, between.map key, ?_, ?_⟩
      · rw [List.map_append, List.map_cons]
      · rw [List.length_map]
        exact Nat.not_le.mp close
    · intro earlier later item split_eq
      exact (absent earlier item later split_eq).1
  · rintro ⟨spaced, absent⟩ earlier item later split_eq
    refine ⟨absent earlier later item split_eq, ?_⟩
    rw [mem_recent_iff_exists]
    rintro ⟨before, after, mapped, inside⟩
    obtain ⟨first, rest, rfl, rfl, rest_eq⟩ := List.map_eq_append_iff.mp mapped
    obtain ⟨other, between, rfl, same, rfl⟩ := List.map_eq_cons_iff.mp rest_eq
    have otherMember : other ∈ items := by
      rw [split_eq]
      simp
    have itemMember : item ∈ items := by
      rw [split_eq]
      simp
    obtain rfl := separates other otherMember item itemMember same
    have far := spaced first between later other
      (by rw [split_eq, List.append_assoc, List.cons_append])
    rw [List.length_map] at inside
    exact absurd far (Nat.not_le.mpr inside)

end Filtering

end Reactive
end Fcp
