import Mathlib.Algebra.Order.Ring.Nat
import Mathlib.Data.List.Basic
import Mathlib.Data.List.Forall2

/-!
# Rust fallible operations

Early returns, checked arithmetic, slice conversions and slice indexing as the
standard library defines them.  A function that indexes a slice directly can
panic, so its failures distinguish a panic from a returned error.
-/

namespace Fcp
namespace Rust

/-! ## Returned errors -/

/-- Rust's `if condition { return Err(error) }`. -/
def rejectIf (condition : Prop) [Decidable condition] (error : ε) :
    Except ε Unit :=
  if condition then .error error else .ok ()

/-- Rust's `Option::ok_or`. -/
def okOr (value : Option α) (error : ε) : Except ε α :=
  match value with
  | some value => .ok value
  | none => .error error

/-- Rust's `usize::checked_add` on a 64-bit target. -/
def checkedAdd (left right : Nat) : Option Nat :=
  if left + right < 2 ^ 64 then some (left + right) else none

/-- Rust's `usize::checked_mul` on a 64-bit target. -/
def checkedMul (left right : Nat) : Option Nat :=
  if left * right < 2 ^ 64 then some (left * right) else none

/-- Rust's conversion of a slice into an array of fixed length. -/
def tryInto (width : Nat) (bytes : List UInt8) : Option (Vector UInt8 width) :=
  if length : bytes.length = width then
    some ⟨bytes.toArray, by simpa using length⟩
  else
    none

theorem rejectIf_eq_ok_iff
    {condition : Prop} [Decidable condition]
    {error : ε} {result : Unit} :
    rejectIf condition error = .ok result ↔ ¬condition := by
  unfold rejectIf
  split <;> simp_all

theorem rejectIf_eq_error_iff
    {condition : Prop} [Decidable condition]
    {error failure : ε} :
    rejectIf condition error = .error failure ↔ condition ∧ error = failure := by
  unfold rejectIf
  split <;> simp_all

/-- A result that is never successful is an error. -/
theorem exists_error_of_forall_ne_ok
    {outcome : Except ε α}
    (fails : ∀ value, outcome ≠ .ok value) :
    ∃ error, outcome = .error error := by
  cases outcome with
  | ok value => exact absurd rfl (fails value)
  | error error => exact ⟨error, rfl⟩

theorem checkedAdd_eq_some_iff {left right total : Nat} :
    checkedAdd left right = some total ↔
      left + right < 2 ^ 64 ∧ left + right = total := by
  unfold checkedAdd
  by_cases bounded : left + right < 2 ^ 64
  · rw [if_pos bounded, Option.some.injEq, and_iff_right bounded]
  · rw [if_neg bounded]
    simp only [reduceCtorEq, bounded, false_and]

theorem checkedMul_eq_some_iff {left right total : Nat} :
    checkedMul left right = some total ↔
      left * right < 2 ^ 64 ∧ left * right = total := by
  unfold checkedMul
  by_cases bounded : left * right < 2 ^ 64
  · rw [if_pos bounded, Option.some.injEq, and_iff_right bounded]
  · rw [if_neg bounded]
    simp only [reduceCtorEq, bounded, false_and]

theorem okOr_eq_ok_iff {value : Option α} {error : ε} {result : α} :
    okOr value error = .ok result ↔ value = some result := by
  cases value <;> simp [okOr]

theorem okOr_eq_error_iff {value : Option α} {error failure : ε} :
    okOr value error = .error failure ↔ value = none ∧ error = failure := by
  cases value <;> simp [okOr]

theorem tryInto_eq_some_iff
    {width : Nat} {bytes : List UInt8} {array : Vector UInt8 width} :
    tryInto width bytes = some array ↔ bytes = array.toList := by
  unfold tryInto
  split
  case isTrue length =>
    rw [Option.some.injEq, ← Vector.toList_inj]
    constructor
    · rintro rfl
      simp
    · rintro rfl
      simp
  case isFalse length =>
    simp only [reduceCtorEq, false_iff]
    rintro rfl
    exact length array.length_toList

@[simp] theorem tryInto_toList (array : Vector UInt8 width) :
    tryInto width array.toList = some array :=
  tryInto_eq_some_iff.mpr rfl

/-- Every string of the right length is an array. -/
theorem exists_array
    {width : Nat}
    {bytes : List UInt8}
    (length : bytes.length = width) :
    ∃ array : Vector UInt8 width, array.toList = bytes :=
  ⟨⟨bytes.toArray, by simpa using length⟩, by simp⟩

/-- A sequence of fallible steps succeeds exactly when each step does. -/
theorem bind_eq_ok_iff
    {first : Except ε α} {next : α → Except ε β} {result : β} :
    first >>= next = .ok result ↔
      ∃ value, first = .ok value ∧ next value = .ok result := by
  cases first <;> simp [bind, Except.bind]

/-- A sequence of fallible steps reports its first failure. -/
theorem bind_eq_error_iff
    {first : Except ε α} {next : α → Except ε β} {error : ε} :
    first >>= next = .error error ↔
      first = .error error ∨
        ∃ value, first = .ok value ∧ next value = .error error := by
  cases first <;> simp [bind, Except.bind]

theorem map_eq_ok_iff
    {outcome : Except ε α} {function : α → β} {result : β} :
    outcome.map function = .ok result ↔
      ∃ value, outcome = .ok value ∧ function value = result := by
  cases outcome <;> simp [Except.map]

theorem mapError_eq_ok_iff
    {outcome : Except ε α} {rename : ε → δ} {value : α} :
    outcome.mapError rename = .ok value ↔ outcome = .ok value := by
  cases outcome <;> simp [Except.mapError]

/-- What a loop produces comes from one of its members. -/
theorem exists_mem_of_mapM_eq_ok
    {parse : α → Except ε β}
    {members : List α}
    {values : List β}
    {value : β}
    (parsed : members.mapM parse = .ok values)
    (mem : value ∈ values) :
    ∃ member ∈ members, parse member = .ok value := by
  induction members generalizing values with
  | nil =>
      cases parsed
      cases mem
  | cons first members inductionHypothesis =>
      rw [List.mapM_cons] at parsed
      obtain ⟨one, one_eq, rest_eq⟩ := bind_eq_ok_iff.mp parsed
      obtain ⟨rest, rest_parsed, values_eq⟩ := bind_eq_ok_iff.mp rest_eq
      cases values_eq
      rcases List.mem_cons.mp mem with rfl | mem
      · exact ⟨first, List.mem_cons_self, one_eq⟩
      · obtain ⟨member, member_mem, member_eq⟩ :=
          inductionHypothesis rest_parsed mem
        exact ⟨member, List.mem_cons_of_mem _ member_mem, member_eq⟩

/-- A loop that extends its output with what each step produces succeeds exactly
when every step does. -/
theorem foldlM_append_eq_ok_iff
    {step : α → Except ε (List β)}
    {inputs : List α}
    {initial result : List β} :
    inputs.foldlM
        (fun outputs input => do
          let produced ← step input
          return outputs ++ produced)
        initial = .ok result ↔
      ∃ parts,
        List.Forall₂ (fun input part => step input = .ok part) inputs parts ∧
          result = initial ++ parts.flatten := by
  induction inputs generalizing initial with
  | nil => simp [pure, Except.pure, eq_comm]
  | cons input inputs inductionHypothesis =>
      rw [List.foldlM_cons]
      simp only [bind_eq_ok_iff, pure, Except.pure, Except.ok.injEq]
      constructor
      · rintro ⟨_, ⟨part, produced, rfl⟩, continued⟩
        obtain ⟨parts, steps, rfl⟩ := inductionHypothesis.mp continued
        exact ⟨part :: parts, .cons produced steps, by simp⟩
      · rintro ⟨_, steps, rfl⟩
        cases steps with
        | @cons _ part _ parts produced steps =>
            refine ⟨_, ⟨part, produced, rfl⟩, ?_⟩
            exact inductionHypothesis.mpr ⟨parts, steps, by simp⟩

theorem exists_ok_of_forall₂
    {step : α → Except ε β}
    {inputs : List α}
    {outputs : List β}
    (steps : List.Forall₂ (fun input output => step input = .ok output) inputs
      outputs)
    {input : α}
    (member : input ∈ inputs) :
    ∃ output, step input = .ok output := by
  induction steps with
  | nil => cases member
  | @cons first output inputs outputs produced steps inductionHypothesis =>
      rcases List.mem_cons.mp member with rfl | later
      · exact ⟨output, produced⟩
      · exact inductionHypothesis later

/-! ## Panicking slice access -/

/-- How a function that indexes slices can fail. -/
inductive Fault (ε : Type u)
  | panic
  | error (error : ε)
  deriving DecidableEq

/-- A computation whose only failure is a returned error. -/
def orFault (result : Except ε α) : Except (Fault ε) α :=
  result.mapError .error

/-- The slice expression `bytes[start..stop]`. -/
def slice (bytes : List α) (start stop : Nat) : Except (Fault ε) (List α) :=
  if start ≤ stop ∧ stop ≤ bytes.length then
    .ok (bytes.extract start stop)
  else
    .error .panic

/-- The index expression `bytes[position]`. -/
def index (bytes : List α) (position : Nat) : Except (Fault ε) α :=
  match bytes[position]? with
  | some byte => .ok byte
  | none => .error .panic

/-- The complete blocks of a slice, as `chunks_exact` yields them. -/
def chunksExact (width : Nat) (bytes : List α) : List (List α) :=
  (List.range (bytes.length / width)).map fun block =>
    (bytes.drop (block * width)).take width

theorem orFault_eq_ok_iff {result : Except ε α} {value : α} :
    orFault result = .ok value ↔ result = .ok value := by
  cases result <;> simp [orFault, Except.mapError]

theorem orFault_ne_panic (result : Except ε α) :
    orFault result ≠ .error .panic := by
  cases result <;> simp [orFault, Except.mapError]

theorem slice_eq_ok_iff {bytes block : List α} {start stop : Nat} :
    slice (ε := ε) bytes start stop = .ok block ↔
      start ≤ stop ∧ stop ≤ bytes.length ∧
        bytes.extract start stop = block := by
  unfold slice
  split
  case isTrue bounds => simp [bounds]
  case isFalse outside =>
    simp only [reduceCtorEq, false_iff]
    rintro ⟨ordered, inside, -⟩
    exact outside ⟨ordered, inside⟩

theorem index_ne_panic
    {bytes : List α} {position : Nat}
    (inside : position < bytes.length) :
    index (ε := ε) bytes position ≠ .error .panic := by
  unfold index
  rw [List.getElem?_eq_getElem inside]
  simp

theorem slice_of_bounds
    {bytes : List α} {start stop : Nat}
    (ordered : start ≤ stop)
    (inside : stop ≤ bytes.length) :
    slice (ε := ε) bytes start stop =
      .ok (bytes.extract start stop) :=
  if_pos ⟨ordered, inside⟩

theorem slice_eq_error_iff
    {bytes : List α} {start stop : Nat} {fault : Fault ε} :
    slice bytes start stop = .error fault ↔
      ¬(start ≤ stop ∧ stop ≤ bytes.length) ∧ fault = .panic := by
  unfold slice
  split
  case isTrue bounds => simp [bounds]
  case isFalse outside =>
    simp only [Except.error.injEq, outside, not_false_eq_true, true_and]
    exact eq_comm

/-- An index expression succeeds on exactly the one-element slice there. -/
theorem index_eq_ok_iff {bytes : List α} {position : Nat} {byte : α} :
    index (ε := ε) bytes position = .ok byte ↔
      bytes.extract position (position + 1) = [byte] := by
  have single : bytes.extract position (position + 1) =
      bytes[position]?.toList := by
    simp only [List.extract_eq_take_drop, Nat.add_sub_cancel_left]
    rw [List.take_one, List.head?_drop]
  rw [single]
  unfold index
  cases bytes[position]? <;> simp

/-- Adjacent slices join. -/
theorem extract_append_extract
    (bytes : List α)
    {start middle stop : Nat}
    (left : start ≤ middle)
    (right : middle ≤ stop) :
    bytes.extract start middle ++ bytes.extract middle stop =
      bytes.extract start stop := by
  simp only [List.extract_eq_take_drop]
  have offset : middle = start + (middle - start) := by omega
  have width : stop - start = (middle - start) + (stop - middle) := by omega
  rw [width, List.take_add, List.drop_drop, ← offset]

theorem length_extract_of_le
    {bytes : List α}
    {start stop : Nat}
    (inside : stop ≤ bytes.length) :
    (bytes.extract start stop).length = stop - start := by
  simp only [List.extract_eq_take_drop, List.length_take, List.length_drop]
  omega

theorem extract_zero_length (bytes : List α) :
    bytes.extract 0 bytes.length = bytes := by
  simp

/-- The slice at the borders of a block is that block. -/
theorem extract_middle
    {bytes before block after : List α}
    {start stop : Nat}
    (layout : bytes = before ++ (block ++ after))
    (start_eq : before.length = start)
    (stop_eq : start + block.length = stop) :
    bytes.extract start stop = block := by
  subst layout start_eq stop_eq
  simp [List.extract_eq_take_drop]

/-- The leading block of a concatenation is the slice up to its length. -/
theorem extract_first
    {bytes block after : List α}
    {stop : Nat}
    (layout : bytes = block ++ after)
    (stop_eq : block.length = stop) :
    bytes.extract 0 stop = block :=
  extract_middle (List.nil_append bytes ▸ layout) List.length_nil
    ((Nat.zero_add _).trans stop_eq)

/-- The closing block of a concatenation is the slice from its position. -/
theorem extract_last
    {bytes before block : List α}
    {start stop : Nat}
    (layout : bytes = before ++ block)
    (start_eq : before.length = start)
    (stop_eq : start + block.length = stop) :
    bytes.extract start stop = block := by
  rw [← List.append_nil block] at layout
  exact extract_middle layout start_eq stop_eq

/-- The first block of a slice and the blocks of the remainder. -/
theorem chunksExact_append
    {width : Nat}
    (positive : 0 < width)
    {block : List α}
    (length : block.length = width)
    (remainder : List α) :
    chunksExact width (block ++ remainder) =
      block :: chunksExact width remainder := by
  have blocks : (block ++ remainder).length / width =
      remainder.length / width + 1 := by
    rw [List.length_append, length, Nat.add_comm, Nat.add_div_right _ positive]
  unfold chunksExact
  rw [blocks, List.range_succ_eq_map, List.map_cons, List.map_map]
  congr 1
  · simp [← length]
  · apply List.map_congr_left
    intro position _
    have offset : position.succ * width = block.length + position * width := by
      rw [length, Nat.succ_mul, Nat.add_comm]
    simp only [Function.comp_apply]
    rw [offset, ← List.drop_drop, List.drop_left]

theorem chunksExact_nil (width : Nat) :
    chunksExact width ([] : List α) = [] := by
  simp [chunksExact]

end Rust
end Fcp
