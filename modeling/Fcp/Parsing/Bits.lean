import Mathlib.Data.Nat.Bitwise

/-!
# Bit strings

The low bits of a number as a list, most significant first, and bytes as
strings of eight bits.
-/

namespace Fcp
namespace Parsing

/-- The low bits of a number, most significant first. -/
def bits : (width value : Nat) → List Bool
  | 0, _ => []
  | width + 1, value => value.testBit width :: bits width value

/-- The number that a bit string stands for. -/
def ofBits (digits : List Bool) : Nat :=
  digits.foldl (fun value digit => 2 * value + digit.toNat) 0

@[simp] theorem length_bits (width value : Nat) :
    (bits width value).length = width := by
  induction width with
  | zero => rfl
  | succ width inductionHypothesis =>
      rw [bits, List.length_cons, inductionHypothesis]

/-- Only the low bits matter. -/
theorem bits_congr
    {width left right : Nat}
    (same : ∀ index < width, left.testBit index = right.testBit index) :
    bits width left = bits width right := by
  induction width with
  | zero => rfl
  | succ width inductionHypothesis =>
      rw [bits, bits, same width (Nat.lt_succ_self width),
        inductionHypothesis fun index low =>
          same index (Nat.lt_succ_of_lt low)]

/-- A wide field is its high part before its low part. -/
theorem bits_add (high low value : Nat) :
    bits (high + low) value = bits high (value >>> low) ++ bits low value := by
  induction high with
  | zero => rw [Nat.zero_add, bits, List.nil_append]
  | succ high inductionHypothesis =>
      rw [Nat.add_right_comm, bits, inductionHypothesis, bits, List.cons_append,
        Nat.testBit_shiftRight, Nat.add_comm low high]

/-- The low bits of a shifted number are zero. -/
theorem bits_shiftLeft (low value : Nat) :
    bits low (value <<< low) = List.replicate low false := by
  have zero : bits low 0 = List.replicate low false := by
    induction low with
    | zero => rfl
    | succ low inductionHypothesis =>
        rw [bits, Nat.zero_testBit, inductionHypothesis, List.replicate_succ]
  rw [← zero]
  refine bits_congr fun index small => ?_
  rw [Nat.testBit_shiftLeft, Nat.zero_testBit,
    decide_eq_false (Nat.not_le.mpr small), Bool.false_and]

theorem ofBits_bits {width value : Nat} (small : value < 2 ^ width) :
    ofBits (bits width value) = value := by
  induction width generalizing value with
  | zero => exact (Nat.lt_one_iff.mp small).symm
  | succ width inductionHypothesis =>
      have half : value >>> 1 < 2 ^ width := by
        rw [Nat.shiftRight_one]
        omega
      rw [bits_add, ofBits, List.foldl_append, ← ofBits, inductionHypothesis half]
      change 2 * (value >>> 1) + (value.testBit 0).toNat = value
      rw [Nat.toNat_testBit, Nat.shiftRight_one, Nat.pow_zero, Nat.div_one]
      exact Nat.div_add_mod value 2

/-! ## Bytes -/

/-- The bits of bytes. -/
def byteBits (bytes : List UInt8) : List Bool :=
  bytes.flatMap fun byte => bits 8 byte.toNat

/-- The whole bytes of a bit string. -/
def wholeBytes : List Bool → List UInt8
  | a :: b :: c :: d :: e :: f :: g :: h :: rest =>
      .ofNat (ofBits [a, b, c, d, e, f, g, h]) :: wholeBytes rest
  | _ => []

theorem length_byteBits (bytes : List UInt8) :
    (byteBits bytes).length = 8 * bytes.length := by
  induction bytes with
  | nil => rfl
  | cons byte bytes inductionHypothesis =>
      rw [byteBits, List.flatMap_cons, ← byteBits, List.length_append,
        length_bits, inductionHypothesis, List.length_cons]
      omega

theorem wholeBytes_bits_append (byte : UInt8) (rest : List Bool) :
    wholeBytes (bits 8 byte.toNat ++ rest) = byte :: wholeBytes rest := by
  have value := ofBits_bits byte.toNat_lt
  change UInt8.ofNat (ofBits (bits 8 byte.toNat)) :: wholeBytes rest = _
  rw [value, UInt8.ofNat_toNat]

theorem wholeBytes_of_short {digits : List Bool} (short : digits.length < 8) :
    wholeBytes digits = [] := by
  unfold wholeBytes
  split
  case h_1 =>
    simp only [List.length_cons] at short
    omega
  case h_2 => rfl

/-- Bytes are read back from their bits, whatever few bits follow. -/
theorem wholeBytes_byteBits_append
    (bytes : List UInt8)
    {padding : List Bool}
    (short : padding.length < 8) :
    wholeBytes (byteBits bytes ++ padding) = bytes := by
  induction bytes with
  | nil => exact wholeBytes_of_short short
  | cons byte bytes inductionHypothesis =>
      rw [byteBits, List.flatMap_cons, ← byteBits, List.append_assoc,
        wholeBytes_bits_append, inductionHypothesis]

end Parsing
end Fcp
