import Fcp.Fabric.OpaqueToken

/-!
# An encoder

The URL-safe base64 of RFC 4648 without padding has the properties that the
service relies on.
-/

namespace Fcp
namespace Fabric

open Rust

/-- A digit of the URL-safe base64 alphabet: upper case, lower case, decimal
digits, hyphen and underscore. -/
def base64Digit (value : Nat) : Char :=
  if value < 26 then Char.ofNat (65 + value)
  else if value < 52 then Char.ofNat (71 + value)
  else if value < 62 then Char.ofNat (value - 4)
  else if value = 62 then '-'
  else '_'

/-- The value of a digit. -/
def base64Value (digit : Char) : Nat :=
  let code := digit.toNat
  if 97 ≤ code then code - 71
  else if code = 95 then 63
  else if 65 ≤ code then code - 65
  else if 48 ≤ code then code + 4
  else 62

/-- The text of a byte string, three bytes at a time. -/
def base64Url : List UInt8 → List Char
  | first :: second :: third :: rest =>
      let group := first.toNat * 65536 + second.toNat * 256 + third.toNat
      base64Digit (group / 262144) :: base64Digit (group / 4096 % 64) ::
        base64Digit (group / 64 % 64) :: base64Digit (group % 64) ::
        base64Url rest
  | [first, second] =>
      let group := first.toNat * 1024 + second.toNat * 4
      [base64Digit (group / 4096), base64Digit (group / 64 % 64),
        base64Digit (group % 64)]
  | [first] =>
      let group := first.toNat * 16
      [base64Digit (group / 64), base64Digit (group % 64)]
  | [] => []

example : String.ofList (base64Url (asBytes "hi there?")) = "aGkgdGhlcmU_" := by
  decide

theorem base64Digit_lt (value : Nat) : (base64Digit value).toNat < 128 := by
  by_cases small : value < 64
  · have all : ∀ value < 64, (base64Digit value).toNat < 128 := by decide
    exact all value small
  · have other : base64Digit value = '_' := by
      simp only [base64Digit]
      rw [if_neg (by omega), if_neg (by omega), if_neg (by omega),
        if_neg (by omega)]
    rw [other]
    decide

theorem base64Digit_inj
    {first second : Nat}
    (first_lt : first < 64)
    (second_lt : second < 64)
    (same : base64Digit first = base64Digit second) :
    first = second := by
  have read : ∀ value < 64, base64Value (base64Digit value) = value := by
    decide
  rw [← read first first_lt, ← read second second_lt, same]

theorem length_base64Url (bytes : List UInt8) :
    (base64Url bytes).length = (bytes.length * 4 + 2) / 3 := by
  fun_induction base64Url bytes with
  | case1 first second third rest group inductionHypothesis =>
      simp only [List.length_cons, inductionHypothesis]
      omega
  | case2 => simp
  | case3 => simp
  | case4 => rfl

theorem base64Url_ascii
    {bytes : List UInt8}
    {character : Char}
    (mem : character ∈ base64Url bytes) :
    character.toNat < 128 := by
  have digit : ∃ value, character = base64Digit value := by
    fun_induction base64Url bytes <;> grind
  obtain ⟨value, rfl⟩ := digit
  exact base64Digit_lt value

/-- Byte strings of one length have different texts. -/
theorem base64Url_injective_of_length
    {left right : List UInt8}
    (length_eq : left.length = right.length)
    (same : base64Url left = base64Url right) :
    left = right := by
  induction left using base64Url.induct generalizing right with
  | case1 first second third rest inductionHypothesis =>
      match right, length_eq with
      | other :: another :: last :: others, length_eq =>
          simp only [base64Url, List.cons.injEq] at same
          obtain ⟨digit1, digit2, digit3, digit4, rest_eq⟩ := same
          have bounds := And.intro first.toNat_lt (And.intro second.toNat_lt
            third.toNat_lt)
          have other_bounds := And.intro other.toNat_lt (And.intro
            another.toNat_lt last.toNat_lt)
          have value1 := base64Digit_inj (by omega) (by omega) digit1
          have value2 := base64Digit_inj (by omega) (by omega) digit2
          have value3 := base64Digit_inj (by omega) (by omega) digit3
          have value4 := base64Digit_inj (by omega) (by omega) digit4
          have first_eq : first.toNat = other.toNat := by omega
          have second_eq : second.toNat = another.toNat := by omega
          have third_eq : third.toNat = last.toNat := by omega
          rw [UInt8.toNat_inj.mp first_eq, UInt8.toNat_inj.mp second_eq,
            UInt8.toNat_inj.mp third_eq,
            inductionHypothesis (by simpa using length_eq) rest_eq]
  | case2 first second =>
      match right, length_eq with
      | [other, another], _ =>
          simp only [base64Url, List.cons.injEq, and_true] at same
          obtain ⟨digit1, digit2, digit3⟩ := same
          have bounds := And.intro first.toNat_lt second.toNat_lt
          have other_bounds := And.intro other.toNat_lt another.toNat_lt
          have value1 := base64Digit_inj (by omega) (by omega) digit1
          have value2 := base64Digit_inj (by omega) (by omega) digit2
          have value3 := base64Digit_inj (by omega) (by omega) digit3
          have first_eq : first.toNat = other.toNat := by omega
          have second_eq : second.toNat = another.toNat := by omega
          rw [UInt8.toNat_inj.mp first_eq, UInt8.toNat_inj.mp second_eq]
  | case3 first =>
      match right, length_eq with
      | [other], _ =>
          simp only [base64Url, List.cons.injEq, and_true] at same
          obtain ⟨digit1, digit2⟩ := same
          have bounds := And.intro first.toNat_lt other.toNat_lt
          have value1 := base64Digit_inj (by omega) (by omega) digit1
          have value2 := base64Digit_inj (by omega) (by omega) digit2
          have first_eq : first.toNat = other.toNat := by omega
          rw [UInt8.toNat_inj.mp first_eq]
  | case4 => exact (List.length_eq_zero_iff.mp length_eq.symm).symm

theorem base64Url_injective : Function.Injective base64Url := by
  intro left right same
  have lengths := congrArg List.length same
  rw [length_base64Url, length_base64Url] at lengths
  exact base64Url_injective_of_length (by omega) same

/-- The encoder of RFC 4648. -/
def Base64Url.rfc4648 : Base64Url where
  encode bytes := .ofList (base64Url bytes)
  length_encode bytes := by rw [String.toList_ofList, length_base64Url]
  ascii_encode bytes character mem := by
    rw [String.toList_ofList] at mem
    exact base64Url_ascii mem
  encode_injective left right same :=
    base64Url_injective (String.ofList_injective same)

end Fabric
end Fcp
