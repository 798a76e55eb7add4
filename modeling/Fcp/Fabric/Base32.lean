import Mathlib.Algebra.Order.Floor.Div
import Fcp.Parsing.Bits
import Fcp.Fabric.Totp

/-!
# The text of an authenticator secret

The encoder reads bytes through a buffer of sixteen bits, of which only the low
ones are still to be written.  A reader of RFC 4648 base32 sees the bits of the
bytes and a few zeros.
-/

namespace Fcp
namespace Fabric

open Parsing Rust

/-! ## Reading -/

/-- The alphabet of RFC 4648 base32. -/
def base32Alphabet : List Char :=
  "ABCDEFGHIJKLMNOPQRSTUVWXYZ234567".toList

/-- The bits that a text of the alphabet stands for, five for each character. -/
def readBase32 : List Char → Option (List Bool)
  | [] => some []
  | character :: rest => do
      let value ← base32Alphabet.idxOf? character
      return bits 5 value ++ (← readBase32 rest)

/-- The bytes that a text without padding stands for. -/
def decodeBase32 (text : String) : Option (List UInt8) :=
  (readBase32 text.toList).map wholeBytes

theorem readBase32_cons_eq_some_iff
    {character : Char}
    {text : List Char}
    {digits : List Bool} :
    readBase32 (character :: text) = some digits ↔
      ∃ value rest, base32Alphabet.idxOf? character = some value ∧
        readBase32 text = some rest ∧ bits 5 value ++ rest = digits := by
  rw [readBase32]
  cases base32Alphabet.idxOf? character with
  | none => simp
  | some value =>
      cases readBase32 text with
      | none => simp
      | some rest => simp

theorem readBase32_append
    {left right : List Char}
    {first second : List Bool}
    (left_read : readBase32 left = some first)
    (right_read : readBase32 right = some second) :
    readBase32 (left ++ right) = some (first ++ second) := by
  induction left generalizing first with
  | nil =>
      cases left_read
      exact right_read
  | cons character left inductionHypothesis =>
      obtain ⟨value, rest, known, read, rfl⟩ :=
        readBase32_cons_eq_some_iff.mp left_read
      rw [List.cons_append, List.append_assoc]
      exact readBase32_cons_eq_some_iff.mpr
        ⟨value, _, known, inductionHypothesis read, rfl⟩

/-- A text that is read consists of characters of the alphabet, five bits
each. -/
theorem mem_of_readBase32
    {text : List Char}
    {digits : List Bool}
    (read : readBase32 text = some digits) :
    digits.length = 5 * text.length ∧
      ∀ character ∈ text, character ∈ base32Alphabet := by
  induction text generalizing digits with
  | nil =>
      cases read
      exact ⟨rfl, fun _ mem => absurd mem List.not_mem_nil⟩
  | cons character text inductionHypothesis =>
      obtain ⟨value, rest, known, rest_read, rfl⟩ :=
        readBase32_cons_eq_some_iff.mp read
      obtain ⟨length_eq, mem⟩ := inductionHypothesis rest_read
      refine ⟨?_, ?_⟩
      · rw [List.length_append, length_bits, length_eq, List.length_cons]
        omega
      · intro other other_mem
        rcases List.mem_cons.mp other_mem with rfl | other_mem
        · by_contra unknown
          rw [List.idxOf?_eq_none_iff.mpr unknown] at known
          cases known
        · exact mem other other_mem

/-! ## Writing -/

theorem idxOf?_base32Digit (buffer : UInt16) :
    base32Alphabet.idxOf? (base32Digit buffer) = some (buffer.toNat % 32) := by
  have each : ∀ index < 32, base32Alphabet.idxOf?
      (if index < 26 then Char.ofNat (65 + index) else Char.ofNat (24 + index)) =
        some index := by decide
  exact each _ (Nat.mod_lt _ (by decide))

/-- A digit shows the low five bits of the buffer. -/
theorem readBase32_base32Digit
    {text : List Char}
    {digits : List Bool}
    (buffer : UInt16)
    (read : readBase32 text = some digits) :
    readBase32 (base32Digit buffer :: text) =
      some (bits 5 buffer.toNat ++ digits) := by
  have low : bits 5 (buffer.toNat % 32) = bits 5 buffer.toNat :=
    bits_congr fun index small => by
      rw [show (32 : Nat) = 2 ^ 5 from rfl, Nat.testBit_mod_two_pow,
        decide_eq_true small, Bool.true_and]
  rw [← low]
  exact readBase32_cons_eq_some_iff.mpr
    ⟨_, _, idxOf?_base32Digit buffer, read, rfl⟩

/-- Draining writes the high bits of the buffer and leaves fewer than five. -/
theorem readBase32_base32Drain
    (buffer : UInt16)
    (width : Nat)
    (narrow : width < 16) :
    (base32Drain buffer width).2 < 5 ∧ ∃ digits,
      readBase32 (base32Drain buffer width).1 = some digits ∧
      digits ++ bits (base32Drain buffer width).2 buffer.toNat =
        bits width buffer.toNat := by
  fun_induction base32Drain buffer width with
  | case1 width text left drained inductionHypothesis =>
      rw [drained] at inductionHypothesis
      obtain ⟨few, digits, read, split⟩ := inductionHypothesis (by omega)
      refine ⟨few, _, readBase32_base32Digit _ read, ?_⟩
      have shift : width % 65536 % 16 = width := by omega
      have shifted : (buffer >>> UInt16.ofNat width).toNat =
          buffer.toNat >>> width := by
        rw [UInt16.toNat_shiftRight, UInt16.toNat_ofNat', shift]
      have joined : bits (width + 5) buffer.toNat =
          bits 5 (buffer.toNat >>> width) ++ bits width buffer.toNat := by
        rw [Nat.add_comm, bits_add]
      rw [shifted, List.append_assoc, split]
      exact joined.symm
  | case2 width small =>
      have few : width < 5 := Nat.lt_of_not_le fun large =>
        small (width - 5) (Nat.sub_add_cancel large).symm
      exact ⟨few, [], rfl, rfl⟩

/-- A byte enters the buffer below the bits that are still to be written. -/
theorem bits_push
    (buffer : UInt16)
    (byte : UInt8)
    {width : Nat}
    (few : width < 5) :
    bits (width + 8) ((buffer <<< 8) ||| byte.toUInt16).toNat =
      bits width buffer.toNat ++ bits 8 byte.toNat := by
  have value : ((buffer <<< 8) ||| byte.toUInt16).toNat =
      (buffer.toNat <<< 8) % 2 ^ 16 ||| byte.toNat := by
    rw [UInt16.toNat_or, UInt16.toNat_shiftLeft, UInt8.toNat_toUInt16]
    rfl
  rw [value, bits_add]
  congr 1
  · refine bits_congr fun index small => ?_
    have beyond : byte.toNat.testBit (8 + index) = false :=
      Nat.testBit_lt_two_pow (Nat.lt_of_lt_of_le byte.toNat_lt
        (Nat.pow_le_pow_right (by decide) (Nat.le_add_right 8 index)))
    rw [Nat.testBit_shiftRight, Nat.testBit_or, Nat.testBit_mod_two_pow,
      Nat.testBit_shiftLeft, beyond, decide_eq_true (by omega),
      decide_eq_true (by omega), Nat.add_sub_cancel_left, Bool.or_false,
      Bool.true_and, Bool.true_and]
  · refine bits_congr fun index small => ?_
    rw [Nat.testBit_or, Nat.testBit_mod_two_pow, Nat.testBit_shiftLeft,
      decide_eq_false (Nat.not_le.mpr small), Bool.false_and, Bool.and_false,
      Bool.false_or]

/-- The last bits are filled up with zeros. -/
theorem bits_fill
    (buffer : UInt16)
    {width : Nat}
    (few : width < 5) :
    bits 5 (buffer <<< UInt16.ofNat (5 - width)).toNat =
      bits width buffer.toNat ++ List.replicate (5 - width) false := by
  have shift : (5 - width) % 65536 % 16 = 5 - width := by omega
  have low : bits 5 (buffer <<< UInt16.ofNat (5 - width)).toNat =
      bits 5 (buffer.toNat <<< (5 - width)) := by
    refine bits_congr fun index small => ?_
    rw [UInt16.toNat_shiftLeft, UInt16.toNat_ofNat', shift,
      Nat.testBit_mod_two_pow, decide_eq_true (by omega), Bool.true_and]
  have whole : bits 5 (buffer.toNat <<< (5 - width)) =
      bits (width + (5 - width)) (buffer.toNat <<< (5 - width)) := by
    rw [Nat.add_sub_cancel' (Nat.le_of_lt few)]
  rw [low, whole, bits_add, bits_shiftLeft, Nat.shiftLeft_shiftRight]

/-- The invariant of the loop: the low bits of the buffer come before those of
the bytes that follow. -/
theorem readBase32_base32From
    (bytes : List UInt8)
    (buffer : UInt16)
    {width : Nat}
    (few : width < 5) :
    ∃ padding < 5, readBase32 (base32From buffer width bytes) =
      some (bits width buffer.toNat ++ byteBits bytes ++
        List.replicate padding false) := by
  induction bytes generalizing buffer width with
  | nil =>
      rw [base32From]
      split
      case isTrue pending =>
        refine ⟨5 - width, by omega, ?_⟩
        have read := readBase32_base32Digit
          (buffer <<< UInt16.ofNat (5 - width)) (rfl : readBase32 [] = some [])
        rw [bits_fill buffer few, List.append_nil] at read
        rw [read]
        simp [byteBits]
      case isFalse empty =>
        have none : width = 0 := by omega
        subst none
        exact ⟨0, by decide, rfl⟩
  | cons byte bytes inductionHypothesis =>
      rw [base32From]
      obtain ⟨left_few, digits, read, split⟩ := readBase32_base32Drain
        ((buffer <<< 8) ||| byte.toUInt16) (width + 8) (by omega)
      obtain ⟨padding, padding_few, rest_read⟩ := inductionHypothesis
        ((buffer <<< 8) ||| byte.toUInt16) left_few
      refine ⟨padding, padding_few, ?_⟩
      dsimp only
      rw [readBase32_append read rest_read, ← List.append_assoc,
        ← List.append_assoc, split, bits_push buffer byte few]
      simp [byteBits]

/-- The text of a byte string is read as its bits and fewer than five zeros. -/
theorem readBase32_base32NoPadding (bytes : List UInt8) :
    ∃ padding < 5, readBase32 (base32NoPadding bytes).toList =
      some (byteBits bytes ++ List.replicate padding false) := by
  rw [base32NoPadding, String.toList_ofList]
  exact readBase32_base32From bytes 0 (by decide)

theorem decodeBase32_base32NoPadding (bytes : List UInt8) :
    decodeBase32 (base32NoPadding bytes) = some bytes := by
  obtain ⟨padding, few, read⟩ := readBase32_base32NoPadding bytes
  have short : (List.replicate padding false).length < 8 := by
    rw [List.length_replicate]
    omega
  rw [decodeBase32, read, Option.map_some,
    wholeBytes_byteBits_append bytes short]

/-- The encoder is RFC 4648 base32 without padding: the text of a byte string has
as many characters of the alphabet as its bits need, stands for those bits and
fewer than five zeros, and is decoded to the byte string; the secret of an
enrollment is decoded to its seed. -/
theorem base32_matches_rfc4648 (bytes : List UInt8) :
    (base32NoPadding bytes).length = (8 * bytes.length) ⌈/⌉ 5 ∧
      (∀ character ∈ (base32NoPadding bytes).toList,
        character ∈ base32Alphabet) ∧
      (∃ padding < 5, readBase32 (base32NoPadding bytes).toList =
        some (byteBits bytes ++ List.replicate padding false)) ∧
      decodeBase32 (base32NoPadding bytes) = some bytes ∧
      (∀ other : List UInt8, other.length = bytes.length → other ≠ bytes →
        base32NoPadding other ≠ base32NoPadding bytes) ∧
      ∀ primitives key keyReference binding address issuer
          (seed : Vector UInt8 32) nonce enrollment,
        beginTotpEnrollment primitives key keyReference binding address issuer
            seed nonce = .ok enrollment →
          decodeBase32 enrollment.provisioning.secretBase32 =
            some seed.toList := by
  obtain ⟨padding, few, read⟩ := readBase32_base32NoPadding bytes
  obtain ⟨length_eq, known⟩ := mem_of_readBase32 read
  refine ⟨?_, known, ⟨padding, few, read⟩, decodeBase32_base32NoPadding bytes,
    ?_, ?_⟩
  · rw [List.length_append, length_byteBits, List.length_replicate,
      String.length_toList] at length_eq
    rw [Nat.ceilDiv_eq_add_pred_div]
    omega
  · intro other _ different same
    have decoded := decodeBase32_base32NoPadding other
    rw [same, decodeBase32_base32NoPadding bytes] at decoded
    exact different (Option.some.inj decoded).symm
  · intro primitives key keyReference binding address issuer seed nonce
      enrollment enrolled
    rw [beginTotpEnrollment, bind_eq_ok_iff] at enrolled
    obtain ⟨_, -, enrolled⟩ := enrolled
    obtain ⟨encryptedSeed, -, returned⟩ := bind_eq_ok_iff.mp enrolled
    cases returned
    exact decodeBase32_base32NoPadding seed.toList

end Fabric
end Fcp
