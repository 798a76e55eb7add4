import Mathlib.Algebra.Order.Ring.Nat
import Mathlib.Tactic.Ring

/-!
# Fixed-width big-endian integers

A natural number below `256 ^ width` has exactly one spelling as `width` bytes,
most significant byte first.  Reading is a left fold over the bytes and writing
emits the leading digit first, so both directions recurse on the width.
-/

namespace Fcp
namespace Parsing

/-- The low `width` base-256 digits of a number, most significant first. -/
def toBigEndian : (width value : Nat) → List UInt8
  | 0, _ => []
  | width + 1, value =>
      UInt8.ofNat (value / 256 ^ width) :: toBigEndian width value

/-- The number spelled by a string of base-256 digits. -/
def ofBigEndian (bytes : List UInt8) : Nat :=
  bytes.foldl (fun value byte => value * 256 + byte.toNat) 0

@[simp] theorem length_toBigEndian (width value : Nat) :
    (toBigEndian width value).length = width := by
  induction width with
  | zero => rfl
  | succ width inductionHypothesis =>
      simp [toBigEndian, inductionHypothesis]

private theorem foldl_digits (bytes : List UInt8) (initial : Nat) :
    bytes.foldl (fun value byte => value * 256 + byte.toNat) initial =
      initial * 256 ^ bytes.length + ofBigEndian bytes := by
  induction bytes generalizing initial with
  | nil => simp [ofBigEndian]
  | cons byte bytes inductionHypothesis =>
      simp only [List.foldl_cons, List.length_cons, ofBigEndian, Nat.zero_mul,
        Nat.zero_add]
      rw [inductionHypothesis, inductionHypothesis byte.toNat]
      ring

@[simp] theorem ofBigEndian_nil : ofBigEndian [] = 0 := rfl

theorem ofBigEndian_cons (byte : UInt8) (bytes : List UInt8) :
    ofBigEndian (byte :: bytes) =
      byte.toNat * 256 ^ bytes.length + ofBigEndian bytes := by
  rw [ofBigEndian, List.foldl_cons, foldl_digits]
  simp

/-- A digit string is worth less than the next power of the base. -/
theorem ofBigEndian_lt (bytes : List UInt8) :
    ofBigEndian bytes < 256 ^ bytes.length := by
  induction bytes with
  | nil => simp
  | cons byte bytes inductionHypothesis =>
      have digit : byte.toNat + 1 ≤ 256 := byte.toNat_lt
      have scaled := Nat.mul_le_mul_right (256 ^ bytes.length) digit
      rw [ofBigEndian_cons, List.length_cons, Nat.pow_succ,
        Nat.mul_comm (256 ^ bytes.length)]
      rw [Nat.add_mul, Nat.one_mul] at scaled
      omega

/-- Reading a spelling back gives the number modulo its width. -/
theorem ofBigEndian_toBigEndian (width value : Nat) :
    ofBigEndian (toBigEndian width value) = value % 256 ^ width := by
  induction width with
  | zero => simp [toBigEndian, Nat.mod_one]
  | succ width inductionHypothesis =>
      have split : value % 256 ^ (width + 1) =
          value % 256 ^ width + 256 ^ width * (value / 256 ^ width % 256) := by
        rw [Nat.pow_succ, Nat.mod_mul]
      have digit : (UInt8.ofNat (value / 256 ^ width)).toNat =
          value / 256 ^ width % 256 := UInt8.toNat_ofNat'
      rw [toBigEndian, ofBigEndian_cons, length_toBigEndian,
        inductionHypothesis, digit, split, Nat.mul_comm, Nat.add_comm]

/-- Every digit string is the spelling of its own value. -/
theorem toBigEndian_ofBigEndian (bytes : List UInt8) :
    toBigEndian bytes.length (ofBigEndian bytes) = bytes := by
  have spelled (bytes : List UInt8) (high : Nat) :
      toBigEndian bytes.length (high * 256 ^ bytes.length + ofBigEndian bytes) =
        bytes := by
    induction bytes generalizing high with
    | nil => rfl
    | cons byte bytes inductionHypothesis =>
        have positive : 0 < 256 ^ bytes.length := Nat.pow_pos (by decide)
        have regrouped :
            high * 256 ^ (bytes.length + 1) + ofBigEndian (byte :: bytes) =
              (high * 256 + byte.toNat) * 256 ^ bytes.length +
                ofBigEndian bytes := by
          rw [ofBigEndian_cons]
          ring
        have leading :
            ((high * 256 + byte.toNat) * 256 ^ bytes.length +
              ofBigEndian bytes) / 256 ^ bytes.length =
                high * 256 + byte.toNat := by
          rw [Nat.mul_comm, Nat.mul_add_div positive,
            Nat.div_eq_of_lt (ofBigEndian_lt bytes), Nat.add_zero]
        rw [List.length_cons, regrouped, toBigEndian, leading,
          inductionHypothesis]
        congr 1
        apply UInt8.toNat_inj.mp
        have digit := byte.toNat_lt
        rw [UInt8.toNat_ofNat']
        omega
  simpa using spelled bytes 0

/-- Numbers below the bound have different spellings. -/
theorem toBigEndian_injective
    {width left right : Nat}
    (leftBound : left < 256 ^ width)
    (rightBound : right < 256 ^ width)
    (equal : toBigEndian width left = toBigEndian width right) :
    left = right := by
  have values := congrArg ofBigEndian equal
  rwa [ofBigEndian_toBigEndian, ofBigEndian_toBigEndian,
    Nat.mod_eq_of_lt leftBound, Nat.mod_eq_of_lt rightBound] at values

/-! ## Fields behind their length -/

/-- The spelling of a field behind its length. -/
def counted (width : Nat) (value : List UInt8) : List UInt8 :=
  toBigEndian width value.length ++ value

@[simp] theorem length_counted (width : Nat) (value : List UInt8) :
    (counted width value).length = width + value.length := by
  simp [counted]

/-- A field behind its length can be read back from the front. -/
theorem counted_append_inj
    {width : Nat}
    {left right leftRest rightRest : List UInt8}
    (leftSmall : left.length < 256 ^ width)
    (rightSmall : right.length < 256 ^ width)
    (equal : counted width left ++ leftRest =
      counted width right ++ rightRest) :
    left = right ∧ leftRest = rightRest := by
  simp only [counted, List.append_assoc] at equal
  obtain ⟨lengths, rest⟩ := List.append_inj equal (by simp)
  exact List.append_inj rest
    (toBigEndian_injective leftSmall rightSmall lengths)

end Parsing
end Fcp
