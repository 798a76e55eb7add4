import Fcp.Fabric.Address

/-!
# Canonical addresses

What the parsers of domains, localparts and addresses accept, and that they
leave alone what they have made.
-/

namespace Fcp
namespace Fabric

open Rust

/-! ## Domains -/

namespace DomainName

/-- The checks on the input of the parser. -/
structure Plain (input : String) : Prop where
  nonempty : input ≠ ""
  trimmed : trim input = input
  no_slash : '/' ∉ input.toList
  no_colon : ':' ∉ input.toList
  no_at : '@' ∉ input.toList
  no_trailing_dot : input.toList.getLast? ≠ some '.'

/-- The checks on the lower-case ASCII form. -/
structure Labelled (text : String) : Prop where
  bounded : (asBytes text).length ≤ 253
  dotted : '.' ∈ text.toList
  labels : ∀ label ∈ split '.' text, ¬BadLabel label

theorem parse_eq_ok_iff
    {unicode : Unicode}
    {input : String}
    {domain : DomainName} :
    parse unicode input = .ok domain ↔
      Plain input ∧ ∃ ascii, unicode.domainToAscii input = some ascii ∧
        Labelled (toAsciiLowercase ascii) ∧
        ⟨toAsciiLowercase ascii⟩ = domain := by
  simp only [parse, bind_eq_ok_iff, rejectIf_eq_ok_iff, okOr_eq_ok_iff, pure,
    Except.pure, Except.ok.injEq]
  constructor
  · rintro ⟨_, filled, _, plain, ascii, mapped, _, shaped, _, labelled, rfl⟩
    simp only [not_or, not_exists, not_and, ne_eq, not_not] at filled plain shaped labelled
    exact ⟨⟨filled.1, filled.2, plain.1, plain.2.1, plain.2.2.1, plain.2.2.2⟩,
      ascii, mapped, ⟨Nat.le_of_not_lt shaped.1, shaped.2, labelled⟩, rfl⟩
  · rintro ⟨plain, ascii, mapped, labelled, rfl⟩
    refine ⟨(), ?_, (), ?_, ascii, mapped, (), ?_, (), ?_, rfl⟩
    · rintro (empty | untrimmed)
      · exact plain.nonempty empty
      · exact untrimmed plain.trimmed
    · rintro (slash | colon | at_sign | dot)
      · exact plain.no_slash slash
      · exact plain.no_colon colon
      · exact plain.no_at at_sign
      · exact plain.no_trailing_dot dot
    · rintro (long | undotted)
      · exact Nat.not_lt.mpr labelled.bounded long
      · exact undotted labelled.dotted
    · rintro ⟨label, mem, bad⟩
      exact labelled.labels label mem bad

/-- Bytes of a label of the lower-case form. -/
def labelByte (byte : UInt8) : Bool :=
  isAsciiLowercase byte || isAsciiDigit byte || byte == 45

/-- A label of 1 to 63 lower-case letters, digits and inner hyphens. -/
structure CanonicalLabel (label : String) : Prop where
  filled : label ≠ ""
  bounded : (asBytes label).length ≤ 63
  bytes : (asBytes label).all labelByte = true
  head : label.toList.head? ≠ some '-'
  last : label.toList.getLast? ≠ some '-'

/-- Two or more canonical labels in at most 253 bytes. -/
structure Canonical (text : String) : Prop where
  bounded : (asBytes text).length ≤ 253
  count : 2 ≤ (split '.' text).length
  labels : ∀ label ∈ split '.' text, CanonicalLabel label

theorem asciiOnly_labelByte : AsciiOnly labelByte := by
  intro byte accepted
  simp only [labelByte, isAsciiLowercase, isAsciiDigit, Bool.or_eq_true,
    Bool.and_eq_true, decide_eq_true_eq, beq_iff_eq,
    UInt8.le_iff_toNat_le, ← UInt8.toNat_inj, UInt8.reduceToNat] at accepted
  omega

/-- The codes of the characters of a canonical label. -/
theorem CanonicalLabel.code
    {label : String}
    (canonical : CanonicalLabel label)
    {character : Char}
    (mem : character ∈ label.toList) :
    97 ≤ character.toNat ∧ character.toNat ≤ 122 ∨
      48 ≤ character.toNat ∧ character.toNat ≤ 57 ∨ character.toNat = 45 := by
  obtain ⟨small, accepted⟩ :=
    (all_asBytes_iff asciiOnly_labelByte).mp canonical.bytes character mem
  simp only [labelByte, isAsciiLowercase, isAsciiDigit, Bool.or_eq_true,
    Bool.and_eq_true, decide_eq_true_eq, beq_iff_eq,
    UInt8.le_iff_toNat_le, ← UInt8.toNat_inj, UInt8.toNat_ofNat',
    UInt8.reduceToNat] at accepted
  omega

/-- The codes of the characters of a canonical domain. -/
theorem Canonical.code
    {text : String}
    (canonical : Canonical text)
    {character : Char}
    (mem : character ∈ text.toList) :
    character.toNat = 46 ∨ 97 ≤ character.toNat ∧ character.toNat ≤ 122 ∨
      48 ≤ character.toNat ∧ character.toNat ≤ 57 ∨ character.toNat = 45 := by
  by_cases dot : character = '.'
  · rw [dot]
    exact .inl rfl
  · obtain ⟨label, label_mem, mem⟩ := exists_mem_split_iff.mpr ⟨mem, dot⟩
    exact .inr ((canonical.labels label label_mem).code mem)

/-- Without capitals the bytes that the parser accepts are those of a canonical
label. -/
theorem all_labelByte_iff
    {label : String}
    (lower : ∀ character ∈ label.toList,
      ¬(65 ≤ character.toNat ∧ character.toNat ≤ 90)) :
    (asBytes label).all
        (fun byte => isAsciiAlphanumeric byte || byte == 45) = true ↔
      (asBytes label).all labelByte = true := by
  have ascii : AsciiOnly fun byte => isAsciiAlphanumeric byte || byte == 45 := by
    intro byte accepted
    simp only [isAsciiAlphanumeric, isAsciiLowercase, isAsciiDigit,
      Bool.or_eq_true, Bool.and_eq_true, decide_eq_true_eq, beq_iff_eq,
      UInt8.le_iff_toNat_le, ← UInt8.toNat_inj, UInt8.reduceToNat] at accepted
    omega
  rw [all_asBytes_iff ascii, all_asBytes_iff asciiOnly_labelByte]
  refine forall₂_congr fun character mem => and_congr_right fun small => ?_
  have not_capital := lower character mem
  simp only [labelByte, isAsciiAlphanumeric, isAsciiLowercase, isAsciiDigit,
    Bool.or_eq_true, Bool.and_eq_true, decide_eq_true_eq, beq_iff_eq,
    UInt8.le_iff_toNat_le, ← UInt8.toNat_inj, UInt8.toNat_ofNat',
    UInt8.reduceToNat]
  omega

/-- The parser keeps the labels that are canonical, if there are no
capitals. -/
theorem not_badLabel_iff
    {label : String}
    (lower : ∀ character ∈ label.toList,
      ¬(65 ≤ character.toNat ∧ character.toNat ≤ 90)) :
    ¬BadLabel label ↔ CanonicalLabel label := by
  rw [BadLabel, all_labelByte_iff lower]
  simp only [not_or, not_not, Nat.not_lt]
  constructor
  · rintro ⟨filled, bounded, head, last, bytes⟩
    exact ⟨filled, bounded, bytes, head, last⟩
  · rintro ⟨filled, bounded, bytes, head, last⟩
    exact ⟨filled, bounded, head, last, bytes⟩

theorem Labelled.canonical
    {text : String}
    (labelled : Labelled (toAsciiLowercase text)) :
    Canonical (toAsciiLowercase text) := by
  refine ⟨labelled.bounded, two_le_length_split labelled.dotted, ?_⟩
  intro label label_mem
  refine (not_badLabel_iff fun character mem => ?_).mp
    (labelled.labels label label_mem)
  exact not_capital_of_mem_toAsciiLowercase
    (exists_mem_split_iff.mp ⟨label, label_mem, mem⟩).1

theorem Canonical.labelled
    {text : String}
    (canonical : Canonical text) :
    Labelled text := by
  refine ⟨canonical.bounded, mem_of_two_le_length_split canonical.count, ?_⟩
  intro label mem
  have canonicalLabel := canonical.labels label mem
  refine (not_badLabel_iff fun character mem => ?_).mpr canonicalLabel
  have code := canonicalLabel.code mem
  omega

/-- A canonical domain passes the checks on the input. -/
theorem Canonical.plain
    {text : String}
    (canonical : Canonical text) :
    Plain text := by
  have absent (character : Char) (other : ¬(character.toNat = 46 ∨
      97 ≤ character.toNat ∧ character.toNat ≤ 122 ∨
      48 ≤ character.toNat ∧ character.toNat ≤ 57 ∨ character.toNat = 45)) :
      character ∉ text.toList := fun mem => other (canonical.code mem)
  refine ⟨?_, ?_, absent '/' (by decide), absent ':' (by decide),
    absent '@' (by decide), ?_⟩
  · rintro rfl
    exact absurd canonical.count (by decide)
  · refine trim_eq_self fun character mem => ?_
    have code := canonical.code mem
    simp only [isWhitespace, Bool.or_eq_false_iff, Bool.and_eq_false_iff,
      decide_eq_false_iff_not, beq_eq_false_iff_ne]
    omega
  · intro dot
    exact (canonical.labels "" (empty_mem_split dot)).filled rfl

theorem Canonical.toAsciiLowercase_eq
    {text : String}
    (canonical : Canonical text) :
    toAsciiLowercase text = text := by
  refine toAsciiLowercase_eq_self fun character mem => ?_
  have code := canonical.code mem
  omega

/-- Everything the parser makes is canonical. -/
theorem Parsed.canonical
    {unicode : Unicode}
    {domain : DomainName}
    (parsed : domain.Parsed unicode) :
    Canonical domain.asStr := by
  obtain ⟨input, parsed⟩ := parsed
  obtain ⟨-, ascii, -, labelled, rfl⟩ := parse_eq_ok_iff.mp parsed
  exact labelled.canonical

/-- A canonical text that IDNA leaves alone is a domain. -/
theorem Canonical.parse_eq
    {unicode : Unicode}
    {text : String}
    (canonical : Canonical text)
    (kept : unicode.domainToAscii text = some text) :
    parse unicode text = .ok ⟨text⟩ := by
  refine parse_eq_ok_iff.mpr ⟨canonical.plain, text, kept, ?_⟩
  rw [canonical.toAsciiLowercase_eq]
  exact ⟨canonical.labelled, rfl⟩

end DomainName

/-- IDNA leaves its own lower-cased outputs alone. -/
def Unicode.Stable (unicode : Unicode) : Prop :=
  ∀ input ascii, unicode.domainToAscii input = some ascii →
    unicode.domainToAscii (toAsciiLowercase ascii) =
      some (toAsciiLowercase ascii)

/-- IDNA changes ASCII letters, digits, hyphens and dots in their case at
most. -/
def Unicode.KeepsAscii (unicode : Unicode) : Prop :=
  ∀ input : String,
    (∀ character ∈ input.toList, character.isAlphanum = true ∨
      character = '-' ∨ character = '.') →
    ∃ ascii, unicode.domainToAscii input = some ascii ∧
      toAsciiLowercase ascii = toAsciiLowercase input

/-- Parsing a parsed domain changes nothing. -/
theorem DomainName.Parsed.parse_asStr
    {unicode : Unicode}
    (stable : unicode.Stable)
    {domain : DomainName}
    (parsed : domain.Parsed unicode) :
    parse unicode domain.asStr = .ok domain := by
  have canonical := parsed.canonical
  obtain ⟨input, parsed⟩ := parsed
  obtain ⟨-, ascii, mapped, -, rfl⟩ := parse_eq_ok_iff.mp parsed
  exact canonical.parse_eq (stable input ascii mapped)

/-! ## Localparts and addresses -/

namespace Localpart

/-- Parsing a parsed localpart changes nothing, since the parser accepts only
what normalisation leaves alone. -/
theorem Parsed.parse_asStr
    {unicode : Unicode}
    {localpart : Localpart}
    (parsed : localpart.Parsed unicode) :
    parse unicode localpart.asStr = .ok localpart := by
  obtain ⟨input, parsed⟩ := parsed
  have made := parsed
  simp only [parse, bind_eq_ok_iff, rejectIf_eq_ok_iff, pure, Except.pure,
    Except.ok.injEq] at made
  obtain ⟨_, accepted, rfl⟩ := made
  have normal : unicode.nfc input = input := by
    by_contra changed
    exact accepted (.inr (.inr (.inl changed)))
  rw [normal] at parsed ⊢
  exact parsed

theorem Parsed.at_not_mem
    {unicode : Unicode}
    {localpart : Localpart}
    (parsed : localpart.Parsed unicode) :
    '@' ∉ localpart.asStr.toList := by
  obtain ⟨input, parsed⟩ := parsed
  simp only [parse, bind_eq_ok_iff, rejectIf_eq_ok_iff, pure, Except.pure,
    Except.ok.injEq] at parsed
  obtain ⟨_, accepted, rfl⟩ := parsed
  have bytes : (asBytes (unicode.nfc input)).all (fun byte =>
      isAsciiLowercase byte || isAsciiDigit byte ||
        byte == 46 || byte == 95 || byte == 45) = true := by
    by_contra other
    exact accepted (.inr (.inr (.inr (.inl other))))
  have ascii : AsciiOnly fun byte => isAsciiLowercase byte ||
      isAsciiDigit byte || byte == 46 || byte == 95 || byte == 45 := by
    intro byte accepted
    simp only [isAsciiLowercase, isAsciiDigit, Bool.or_eq_true,
      Bool.and_eq_true, decide_eq_true_eq, beq_iff_eq,
      UInt8.le_iff_toNat_le, ← UInt8.toNat_inj, UInt8.reduceToNat] at accepted
    omega
  intro mem
  exact absurd ((all_asBytes_iff ascii).mp bytes '@' mem).2 (by decide)

end Localpart

namespace UserAddress

/-- An address of parsed components is read back from its displayed form. -/
theorem parse_toText
    {unicode : Unicode}
    (stable : unicode.Stable)
    {address : UserAddress}
    (localpart : address.localpart.Parsed unicode)
    (domain : address.domain.Parsed unicode) :
    parse unicode address.toText = .ok address := by
  have text_eq : address.toText.toList =
      address.localpart.asStr.toList ++ '@' :: address.domain.asStr.toList := by
    rw [toText, String.toList_append, String.toList_append,
      List.append_assoc]
    rfl
  have parts := splitOnce_of_toList_eq text_eq localpart.at_not_mem
  have single : '@' ∉ address.domain.asStr.toList :=
    domain.canonical.plain.no_at
  simp only [parse, bind_eq_ok_iff, okOr_eq_ok_iff, mapError_eq_ok_iff, pure,
    Except.pure, Except.ok.injEq]
  refine ⟨(address.localpart.asStr, address.domain.asStr), ?_,
    address.localpart, localpart.parse_asStr,
    address.domain, domain.parse_asStr stable, rfl⟩
  rw [parts, Option.filter_some, if_pos (decide_eq_true single)]

/-- Addresses of parsed components are told apart by their displayed form. -/
theorem eq_of_toText
    {unicode : Unicode}
    (stable : unicode.Stable)
    {left right : UserAddress}
    (leftLocalpart : left.localpart.Parsed unicode)
    (leftDomain : left.domain.Parsed unicode)
    (rightLocalpart : right.localpart.Parsed unicode)
    (rightDomain : right.domain.Parsed unicode)
    (text_eq : left.toText = right.toText) :
    left = right := by
  have read := parse_toText stable leftLocalpart leftDomain
  rw [text_eq, parse_toText stable rightLocalpart rightDomain] at read
  exact (Except.ok.inj read).symm

end UserAddress

/-! ## Addresses of hosts -/

namespace DomainName

/-- A decimal number of at most 255. -/
def DecimalByte (label : String) : Prop :=
  label ≠ "" ∧ (∀ character ∈ label.toList, character.isDigit = true) ∧
    Nat.ofDigitChars 10 label.toList 0 ≤ 255

instance (label : String) : Decidable (DecimalByte label) :=
  -- Over the label's characters, not over every character.
  have : Decidable (∀ character ∈ label.toList, character.isDigit = true) :=
    List.decidableBAll _ _
  inferInstanceAs (Decidable (_ ∧ _))

/-- An IPv4 address: four decimal labels each at most 255. -/
def DottedDecimal (text : String) : Prop :=
  (split '.' text).length = 4 ∧ ∀ label ∈ split '.' text, DecimalByte label

instance (text : String) : Decidable (DottedDecimal text) :=
  inferInstanceAs (Decidable (_ ∧ _))

/-- Groups of up to four hexadecimal digits between colons. -/
inductive HexGroups : Nat → List Char → Prop
  | single
      {group : List Char}
      (digits : ∀ character ∈ group, character.isDigit = true ∨
        character.toLower ∈ ['a', 'b', 'c', 'd', 'e', 'f'])
      (filled : group ≠ [])
      (bounded : group.length ≤ 4) :
      HexGroups 1 group
  | join
      {front back : Nat}
      {left right : List Char}
      (leftGroups : HexGroups front left)
      (rightGroups : HexGroups back right) :
      HexGroups (front + back) (left ++ ':' :: right)

/-- Groups whose last two may be written as an IPv4 address. -/
inductive LowGroups : Nat → List Char → Prop
  | hexadecimal
      {count : Nat}
      {text : List Char}
      (groups : HexGroups count text) :
      LowGroups count text
  | embedded
      {text : List Char}
      (address : DottedDecimal (.ofList text)) :
      LowGroups 2 text
  | mixed
      {count : Nat}
      {front text : List Char}
      (groups : HexGroups count front)
      (address : DottedDecimal (.ofList text)) :
      LowGroups (count + 2) (front ++ ':' :: text)

/-- An IPv6 address: eight groups, or fewer around one double colon. -/
inductive Ipv6Address : List Char → Prop
  | full
      {text : List Char}
      (groups : LowGroups 8 text) :
      Ipv6Address text
  | elided
      {front back : Nat}
      {left right : List Char}
      (leftGroups : front = 0 ∧ left = [] ∨ HexGroups front left)
      (rightGroups : back = 0 ∧ right = [] ∨ LowGroups back right)
      (fewer : front + back < 8) :
      Ipv6Address (left ++ ':' :: ':' :: right)

/-- An IPv6 address with or without brackets. -/
def Ipv6Literal (text : String) : Prop :=
  Ipv6Address text.toList ∨
    ∃ address, Ipv6Address address ∧ text.toList = '[' :: address ++ [']']

theorem HexGroups.colon_mem
    {count : Nat}
    {text : List Char}
    (groups : HexGroups count text)
    (several : count ≠ 1) :
    ':' ∈ text := by
  cases groups with
  | single => exact absurd rfl several
  | join => exact List.mem_append_right _ List.mem_cons_self

theorem Ipv6Address.colon_mem
    {text : List Char}
    (address : Ipv6Address text) :
    ':' ∈ text := by
  cases address with
  | full groups =>
      cases groups with
      | hexadecimal groups => exact groups.colon_mem (by decide)
      | mixed => exact List.mem_append_right _ List.mem_cons_self
  | elided => exact List.mem_append_right _ List.mem_cons_self

theorem Ipv6Literal.colon_mem
    {text : String}
    (literal : Ipv6Literal text) :
    ':' ∈ text.toList := by
  rcases literal with address | ⟨inner, address, text_eq⟩
  · exact address.colon_mem
  · rw [text_eq]
    exact List.mem_append_left _ (List.mem_cons_of_mem _ address.colon_mem)

/-- The labels of a dotted-decimal text fit into a domain. -/
structure Fits (text : String) : Prop where
  bounded : (asBytes text).length ≤ 253
  labels : ∀ label ∈ split '.' text, (asBytes label).length ≤ 63

theorem code_of_isDigit
    {character : Char}
    (digit : character.isDigit = true) :
    48 ≤ character.toNat ∧ character.toNat ≤ 57 := by
  simp only [Char.isDigit, Bool.and_eq_true, decide_eq_true_eq] at digit
  exact digit

theorem DottedDecimal.code
    {text : String}
    (address : DottedDecimal text)
    {character : Char}
    (mem : character ∈ text.toList) :
    character.toNat = 46 ∨ 48 ≤ character.toNat ∧ character.toNat ≤ 57 := by
  by_cases dot : character = '.'
  · rw [dot]
    exact .inl rfl
  · obtain ⟨label, label_mem, mem⟩ := exists_mem_split_iff.mpr ⟨mem, dot⟩
    exact .inr (code_of_isDigit ((address.2 label label_mem).2.1 _ mem))

/-- No letter becomes a digit or a dot in lower case. -/
theorem DottedDecimal.of_toAsciiLowercase
    {text : String}
    (address : DottedDecimal (toAsciiLowercase text)) :
    toAsciiLowercase text = text := by
  refine toAsciiLowercase_eq_self fun character mem capital => ?_
  have lower_mem : character.toLower ∈ (toAsciiLowercase text).toList := by
    rw [toAsciiLowercase, String.toList_ofList]
    exact List.mem_map_of_mem mem
  have code := address.code lower_mem
  rcases toLower_cases character with ⟨least, greatest, moved⟩ | ⟨other, -⟩
  · omega
  · exact other capital

theorem DecimalByte.canonicalLabel
    {label : String}
    (decimal : DecimalByte label)
    (bounded : (asBytes label).length ≤ 63) :
    CanonicalLabel label := by
  obtain ⟨filled, digits, -⟩ := decimal
  have no_hyphen : '-' ∉ label.toList := fun mem =>
    absurd (digits '-' mem) (by decide)
  refine ⟨filled, bounded, ?_, ?_, ?_⟩
  · refine (all_asBytes_iff asciiOnly_labelByte).mpr fun character mem => ?_
    have code := code_of_isDigit (digits character mem)
    simp only [labelByte, isAsciiLowercase, isAsciiDigit, Bool.or_eq_true,
      Bool.and_eq_true, decide_eq_true_eq, beq_iff_eq,
      UInt8.le_iff_toNat_le, ← UInt8.toNat_inj, UInt8.toNat_ofNat',
      UInt8.reduceToNat]
    omega
  · exact fun head => no_hyphen (List.mem_of_head? head)
  · exact fun last => no_hyphen (List.mem_of_getLast? last)

/-- A dotted-decimal text is a canonical domain if it is short enough. -/
theorem DottedDecimal.canonical_iff
    {text : String}
    (address : DottedDecimal text) :
    Canonical text ↔ Fits text := by
  constructor
  · intro canonical
    exact ⟨canonical.bounded, fun label mem =>
      (canonical.labels label mem).bounded⟩
  · intro fits
    refine ⟨fits.bounded, ?_, fun label mem =>
      (address.2 label mem).canonicalLabel (fits.labels label mem)⟩
    rw [address.1]
    decide

/-- No domain made of this input is an IPv4 address, and the input is no IPv6
literal if there is one. -/
def RejectsIpLiterals (unicode : Unicode) (input : String) : Prop :=
  ∀ domain, parse unicode input = .ok domain →
    ¬DottedDecimal domain.asStr ∧ ¬Ipv6Literal input

/-- The input is a plain spelling of an IPv4 address, in digits that IDNA maps
to ASCII. -/
def SpellsIpv4 (unicode : Unicode) (input : String) : Prop :=
  Plain input ∧ ∃ address, unicode.domainToAscii input = some address ∧
    DottedDecimal address ∧ Fits address

/-- Exactly the spellings of IPv4 addresses get through the parser. -/
theorem rejects_ip_literals_iff
    (unicode : Unicode)
    (input : String) :
    RejectsIpLiterals unicode input ↔ ¬SpellsIpv4 unicode input := by
  constructor
  · rintro rejects ⟨plain, address, mapped, decimal, fits⟩
    have canonical := decimal.canonical_iff.mpr fits
    have parsed : parse unicode input = .ok ⟨address⟩ := by
      refine parse_eq_ok_iff.mpr ⟨plain, address, mapped, ?_⟩
      rw [canonical.toAsciiLowercase_eq]
      exact ⟨canonical.labelled, rfl⟩
    exact (rejects ⟨address⟩ parsed).1 decimal
  · intro other domain parsed
    obtain ⟨plain, ascii, mapped, labelled, rfl⟩ := parse_eq_ok_iff.mp parsed
    refine ⟨fun decimal => ?_, fun literal => plain.no_colon literal.colon_mem⟩
    have canonical := labelled.canonical
    have fits := decimal.canonical_iff.mp canonical
    have same : toAsciiLowercase ascii = ascii := decimal.of_toAsciiLowercase
    rw [same] at decimal fits
    exact other ⟨plain, ascii, mapped, decimal, fits⟩

/-- Whatever IDNA does to other texts, the loopback address is accepted as a
domain. -/
theorem loopback_is_a_domain :
    Unicode.KeepsAscii ⟨some, id⟩ ∧
      ∀ unicode : Unicode, unicode.KeepsAscii →
        parse unicode "127.0.0.1" = .ok ⟨"127.0.0.1"⟩ ∧
          DottedDecimal "127.0.0.1" ∧
          ¬RejectsIpLiterals unicode "127.0.0.1" := by
  refine ⟨fun input _ => ⟨input, rfl, rfl⟩, fun unicode keeps => ?_⟩
  have decimal : DottedDecimal "127.0.0.1" := by decide +kernel
  have fits : Fits "127.0.0.1" := ⟨by decide +kernel, by decide +kernel⟩
  have canonical := decimal.canonical_iff.mpr fits
  obtain ⟨ascii, mapped, lower_eq⟩ := keeps "127.0.0.1"
    (@of_decide_eq_true _ (List.decidableBAll _ _) (by decide +kernel))
  rw [canonical.toAsciiLowercase_eq] at lower_eq
  have parsed : parse unicode "127.0.0.1" = .ok ⟨"127.0.0.1"⟩ := by
    refine parse_eq_ok_iff.mpr ⟨canonical.plain, ascii, mapped, ?_⟩
    rw [lower_eq]
    exact ⟨canonical.labelled, rfl⟩
  exact ⟨parsed, decimal, fun rejects => (rejects _ parsed).1 decimal⟩

end DomainName

end Fabric
end Fcp
