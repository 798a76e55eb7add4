import Mathlib.Data.List.DropRight
import Mathlib.Data.List.TakeDrop

/-!
# Rust strings

The string operations that the sources use, on the characters or the UTF-8
bytes of a string as the standard library defines them.
-/

namespace Fcp
namespace Rust

/-- Rust's `str::as_bytes`. -/
def asBytes (text : String) : List UInt8 :=
  text.toByteArray.data.toList

/-- Rust's `char::is_whitespace`, the Unicode property `White_Space`. -/
def isWhitespace (character : Char) : Bool :=
  let code := character.toNat
  (0x9 ≤ code && code ≤ 0xD) || code == 0x20 || code == 0x85 || code == 0xA0 ||
    code == 0x1680 || (0x2000 ≤ code && code ≤ 0x200A) || code == 0x2028 ||
    code == 0x2029 || code == 0x202F || code == 0x205F || code == 0x3000

/-- Rust's `char::is_control`, the Unicode category `Cc`. -/
def isControl (character : Char) : Bool :=
  let code := character.toNat
  code ≤ 0x1F || (0x7F ≤ code && code ≤ 0x9F)

/-- Rust's `str::trim`. -/
def trim (text : String) : String :=
  .ofList ((text.toList.dropWhile isWhitespace).rdropWhile isWhitespace)

/-- Rust's `str::to_ascii_lowercase`. -/
def toAsciiLowercase (text : String) : String :=
  .ofList (text.toList.map Char.toLower)

/-- Rust's `str::split` at a character. -/
def split (separator : Char) (text : String) : List String :=
  (text.toList.splitOn separator).map .ofList

/-- Rust's `str::split_once` at a character. -/
def splitOnce (separator : Char) (text : String) : Option (String × String) :=
  match text.toList.span (· ≠ separator) with
  | (_, []) => none
  | (before, _ :: after) => some (.ofList before, .ofList after)

/-- Rust's `String::from_utf8`. -/
def fromUtf8 (bytes : List UInt8) : Option String :=
  String.fromUTF8? bytes.toByteArray

/-- Rust's `str::strip_prefix`. -/
def stripPrefix (start text : String) : Option String :=
  if start.toList <+: text.toList then
    some (.ofList (text.toList.drop start.length))
  else
    none

/-- Rust's `str::lines`.  A line feed ends a line together with a carriage
return before it, and the last line may lack its end. -/
def lines (text : String) : List String :=
  let parts := text.toList.splitOn '\n'
  let ended := parts.dropLast.map fun line =>
    if line.getLast? = some '\r' then line.dropLast else line
  let unended := parts.getLast?.toList.filter fun line => line ≠ []
  (ended ++ unended).map .ofList

/-- Rust's `u8::is_ascii_lowercase`. -/
def isAsciiLowercase (byte : UInt8) : Bool :=
  97 ≤ byte && byte ≤ 122

/-- Rust's `u8::is_ascii_digit`. -/
def isAsciiDigit (byte : UInt8) : Bool :=
  48 ≤ byte && byte ≤ 57

/-- Rust's `u8::is_ascii_alphanumeric`. -/
def isAsciiAlphanumeric (byte : UInt8) : Bool :=
  isAsciiLowercase byte || (65 ≤ byte && byte ≤ 90) || isAsciiDigit byte

theorem asBytes_injective : Function.Injective asBytes := by
  intro left right equal
  apply String.toByteArray_inj.mp
  apply ByteArray.ext
  apply Array.toList_inj.mp
  exact equal

@[simp] theorem asBytes_append (left right : String) :
    asBytes (left ++ right) = asBytes left ++ asBytes right := by
  rw [asBytes, String.toByteArray_append, ByteArray.toList_data_append]
  rfl

theorem length_asBytes (text : String) :
    (asBytes text).length = text.toByteArray.size :=
  Array.length_toList

/-- A string has at most as many characters as bytes. -/
theorem length_le_length_asBytes (text : String) :
    text.length ≤ (asBytes text).length := by
  have bounded (characters : List Char) :
      characters.length ≤ (asBytes (.ofList characters)).length := by
    induction characters with
    | nil => exact Nat.zero_le _
    | cons first rest inductionHypothesis =>
        have first_pos : 0 < (asBytes (.ofList [first])).length := by
          rw [length_asBytes, String.toByteArray_ofList,
            List.utf8Encode_singleton, List.size_toByteArray,
            String.length_utf8EncodeChar]
          exact first.utf8Size_pos
        rw [← List.singleton_append, String.ofList_append, asBytes_append,
          List.length_append, List.length_append, List.length_singleton]
        exact Nat.add_le_add first_pos inductionHypothesis
  calc
    text.length = text.toList.length := String.length_toList.symm
    _ ≤ (asBytes (.ofList text.toList)).length := bounded text.toList
    _ = (asBytes text).length := by rw [String.ofList_toList]

example : asBytes "é@b" = [195, 169, 64, 98] := by decide

/-! ## ASCII -/

theorem asBytes_ofList_cons (first : Char) (rest : List Char) :
    asBytes (.ofList (first :: rest)) =
      String.utf8EncodeChar first ++ asBytes (.ofList rest) := by
  have encoded : asBytes (.ofList [first]) = String.utf8EncodeChar first := by
    rw [asBytes, String.toByteArray_ofList, List.utf8Encode_singleton,
      List.data_toByteArray]
  rw [← List.singleton_append, String.ofList_append, asBytes_append, encoded]

/-- A text of ASCII characters has as many bytes. -/
theorem length_asBytes_of_ascii
    {characters : List Char}
    (ascii : ∀ character ∈ characters, character.toNat < 128) :
    (asBytes (.ofList characters)).length = characters.length := by
  induction characters with
  | nil => rfl
  | cons first rest inductionHypothesis =>
      obtain ⟨first_ascii, rest_ascii⟩ := List.forall_mem_cons.mp ascii
      have width : first.utf8Size = 1 := by
        rw [Char.utf8Size_eq_one_iff]
        exact UInt32.le_iff_toNat_le.mpr (Nat.le_of_lt_succ first_ascii)
      rw [asBytes_ofList_cons, List.length_append, String.length_utf8EncodeChar,
        width, inductionHypothesis rest_ascii, List.length_cons, Nat.add_comm]

/-- A kind of ASCII bytes. -/
def AsciiOnly (allowed : UInt8 → Bool) : Prop :=
  ∀ byte, allowed byte = true → byte.toNat < 128

section Ascii

variable {allowed : UInt8 → Bool}

/-- All bytes of a character are of an ASCII kind exactly if the character is
one such byte. -/
theorem all_utf8EncodeChar_iff (ascii : AsciiOnly allowed) {character : Char} :
    (String.utf8EncodeChar character).all allowed = true ↔
      character.toNat < 128 ∧ allowed (.ofNat character.toNat) = true := by
  have apart (value : Nat) (large : 128 ≤ value) (byte : value < 256) :
      allowed (.ofNat value) = false := by
    by_contra accepted
    have small := ascii _ (Bool.of_not_eq_false accepted)
    rw [UInt8.toNat_ofNat', Nat.mod_eq_of_lt byte] at small
    exact Nat.not_lt.mpr large small
  have refused (first : UInt8) (rest : List UInt8)
      (first_refused : allowed first = false)
      (large : ¬character.toNat ≤ 127) :
      (first :: rest).all allowed = true ↔
        character.toNat < 128 ∧ allowed (.ofNat character.toNat) = true := by
    rw [List.all_cons, first_refused, Bool.false_and]
    exact ⟨nofun, fun accepted => absurd (Nat.le_of_lt_succ accepted.1) large⟩
  -- the first byte of a longer encoding is at least 192
  fun_cases String.utf8EncodeChar character with
  | case1 _ small =>
      have small : character.toNat < 128 := Nat.lt_succ_of_le small
      simp only [List.all_cons, List.all_nil, Bool.and_true, small, true_and]
      rfl
  | case2 _ large => exact refused _ _ (apart _ (by omega) (by omega)) large
  | case3 _ large => exact refused _ _ (apart _ (by omega) (by omega)) large
  | case4 _ large => exact refused _ _ (apart _ (by omega) (by omega)) large

/-- All bytes of a string are of an ASCII kind exactly if its characters are. -/
theorem all_asBytes_iff (ascii : AsciiOnly allowed) {text : String} :
    (asBytes text).all allowed = true ↔ ∀ character ∈ text.toList,
      character.toNat < 128 ∧ allowed (.ofNat character.toNat) = true := by
  have each (characters : List Char) :
      (asBytes (.ofList characters)).all allowed = true ↔
        ∀ character ∈ characters, character.toNat < 128 ∧
          allowed (.ofNat character.toNat) = true := by
    induction characters with
    | nil => simp [asBytes]
    | cons first rest inductionHypothesis =>
        rw [asBytes_ofList_cons, List.all_append, Bool.and_eq_true,
          all_utf8EncodeChar_iff ascii, inductionHypothesis,
          List.forall_mem_cons]
  rw [← each, String.ofList_toList]

end Ascii

/-- Lower-casing moves the capital letters and keeps every other character. -/
theorem toLower_cases (character : Char) :
    65 ≤ character.toNat ∧ character.toNat ≤ 90 ∧
        character.toLower.toNat = character.toNat + 32 ∨
      ¬(65 ≤ character.toNat ∧ character.toNat ≤ 90) ∧
        character.toLower = character := by
  delta Char.toLower
  split
  case isTrue capital =>
    have lower : 65 ≤ character.toNat := capital.1
    have upper : character.toNat ≤ 90 := capital.2
    refine .inl ⟨lower, upper, ?_⟩
    change (character.val + 32).toNat = character.val.toNat + 32
    rw [UInt32.toNat_add]
    refine Nat.mod_eq_of_lt ?_
    change character.toNat + 32 < 2 ^ 32
    omega
  case isFalse other => exact .inr ⟨other, rfl⟩

/-- A text without capital letters is its own lower-case form. -/
theorem toAsciiLowercase_eq_self
    {text : String}
    (lower : ∀ character ∈ text.toList,
      ¬(65 ≤ character.toNat ∧ character.toNat ≤ 90)) :
    toAsciiLowercase text = text := by
  have unchanged : text.toList.map Char.toLower = text.toList := by
    refine (List.map_congr_left fun character mem => ?_).trans
      (List.map_id text.toList)
    rcases toLower_cases character with ⟨least, greatest, -⟩ | ⟨-, same⟩
    · exact absurd ⟨least, greatest⟩ (lower character mem)
    · exact same
  rw [toAsciiLowercase, unchanged, String.ofList_toList]

/-- A lower-case form has no capital letters. -/
theorem not_capital_of_mem_toAsciiLowercase
    {text : String}
    {character : Char}
    (mem : character ∈ (toAsciiLowercase text).toList) :
    ¬(65 ≤ character.toNat ∧ character.toNat ≤ 90) := by
  rw [toAsciiLowercase, String.toList_ofList, List.mem_map] at mem
  obtain ⟨original, -, rfl⟩ := mem
  rcases toLower_cases original with ⟨least, greatest, moved⟩ | ⟨other, same⟩
  · omega
  · rw [same]
    exact other

/-! ## Parts of a text -/

section Parts

variable {separator character : Char}
variable {text : String}

theorem mem_split_iff {part : String} :
    part ∈ split separator text ↔ part.toList ∈ text.toList.splitOn separator := by
  rw [split, List.mem_map]
  constructor
  · rintro ⟨characters, mem, rfl⟩
    rw [String.toList_ofList]
    exact mem
  · intro mem
    exact ⟨part.toList, mem, String.ofList_toList⟩

/-- The parts together are the text without its separators. -/
theorem flatten_splitOn (separator : Char) (characters : List Char) :
    (characters.splitOn separator).flatten =
      characters.filter fun character => character ≠ separator := by
  induction characters with
  | nil => rfl
  | cons first rest inductionHypothesis =>
      rw [List.splitOn_cons_eq_if_modifyHead]
      split
      case isTrue same =>
        rw [List.filter_cons_of_neg (by simpa using same), List.flatten_cons,
          List.nil_append, inductionHypothesis]
      case isFalse different =>
        rw [List.filter_cons_of_pos (by simpa using different),
          ← inductionHypothesis]
        cases parts_eq : rest.splitOn separator with
        | nil => exact absurd parts_eq (List.splitOn_ne_nil separator rest)
        | cons part parts => rfl

theorem exists_mem_split_iff :
    (∃ part ∈ split separator text, character ∈ part.toList) ↔
      character ∈ text.toList ∧ character ≠ separator := by
  have flat : character ∈ (text.toList.splitOn separator).flatten ↔
      character ∈ text.toList ∧ character ≠ separator := by
    rw [flatten_splitOn, List.mem_filter, decide_eq_true_iff]
  rw [← flat, List.mem_flatten]
  constructor
  · rintro ⟨part, mem, character_mem⟩
    exact ⟨part.toList, mem_split_iff.mp mem, character_mem⟩
  · rintro ⟨part, mem, character_mem⟩
    refine ⟨.ofList part, mem_split_iff.mpr ?_, ?_⟩
    · rw [String.toList_ofList]
      exact mem
    · rw [String.toList_ofList]
      exact character_mem

/-- A text that ends with a separator has an empty last part. -/
theorem empty_mem_split
    (ends : text.toList.getLast? = some separator) :
    "" ∈ split separator text := by
  obtain ⟨front, text_eq⟩ := List.getLast?_eq_some_iff.mp ends
  refine mem_split_iff.mpr ?_
  rw [text_eq, List.splitOn_append_cons_self, List.splitOn_nil]
  exact List.mem_concat_self

/-- A text with a separator has at least two parts. -/
theorem two_le_length_split (mem : separator ∈ text.toList) :
    2 ≤ (split separator text).length := by
  obtain ⟨front, back, text_eq⟩ := List.append_of_mem mem
  have front_parts :=
    List.length_pos_of_ne_nil (List.splitOn_ne_nil separator front)
  have back_parts :=
    List.length_pos_of_ne_nil (List.splitOn_ne_nil separator back)
  rw [split, List.length_map, text_eq, List.splitOn_append_cons_self,
    List.length_append]
  omega

theorem mem_of_two_le_length_split
    (parts : 2 ≤ (split separator text).length) :
    separator ∈ text.toList := by
  by_contra absent
  rw [split, List.length_map, List.splitOn_eq_singleton absent,
    List.length_singleton] at parts
  exact absurd parts (by decide)

/-- Splitting at a separator that the first part does not have. -/
theorem splitOnce_of_toList_eq
    {first second : String}
    (text_eq : text.toList = first.toList ++ separator :: second.toList)
    (absent : separator ∉ first.toList) :
    splitOnce separator text = some (first, second) := by
  have before : ∀ character ∈ first.toList,
      decide (character ≠ separator) = true := fun character mem =>
    decide_eq_true fun same => absent (same ▸ mem)
  have span_eq : text.toList.span (· ≠ separator) =
      (first.toList, separator :: second.toList) := by
    rw [List.span_eq_takeWhile_dropWhile, text_eq,
      List.takeWhile_append_of_pos before, List.dropWhile_append_of_pos before]
    simp
  rw [splitOnce, span_eq]
  simp only [String.ofList_toList]

theorem trim_eq_self
    (solid : ∀ character ∈ text.toList, isWhitespace character = false) :
    trim text = text := by
  have kept (characters : List Char)
      (solid : ∀ character ∈ characters, isWhitespace character = false) :
      characters.dropWhile isWhitespace = characters := by
    cases characters with
    | nil => rfl
    | cons first rest =>
        rw [List.dropWhile_cons_of_neg (by simp [solid first])]
  have kept_reverse := kept text.toList.reverse fun character mem =>
    solid character (List.mem_reverse.mp mem)
  rw [trim, kept text.toList solid, List.rdropWhile, kept_reverse,
    List.reverse_reverse, String.ofList_toList]

end Parts

end Rust
end Fcp
