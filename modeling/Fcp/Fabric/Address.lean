import Mathlib.Data.List.Infix
import Fcp.Rust.Fallible
import Fcp.Rust.Text

/-!
# Domains and user addresses

The canonical tenant domain, the local login component and the address made of
both.  Unicode canonicalisation is supplied from outside the repository.
-/

namespace Fcp
namespace Fabric

open Rust

/-- External Unicode operations used by the address parsers. -/
structure Unicode where
  /-- `idna::domain_to_ascii`, `none` for its error. -/
  domainToAscii : String → Option String
  /-- The characters of `UnicodeNormalization::nfc`. -/
  nfc : String → String

/-- Domain canonicalisation failed. -/
inductive DomainError
  | invalidDomain
  deriving DecidableEq

/-- Localpart validation failed. -/
inductive LocalpartError
  | invalidLocalpart
  deriving DecidableEq

/-- User-address parsing failed. -/
inductive UserAddressError
  | invalidAddress
  | localpart (error : LocalpartError)
  | domain (error : DomainError)
  deriving DecidableEq

/-- A canonicalised tenant domain without port or scheme. -/
structure DomainName where
  asStr : String
  deriving DecidableEq

/-- A canonical tenant-local login component. -/
structure Localpart where
  asStr : String
  deriving DecidableEq

/-- A tenant-scoped local user address. -/
structure UserAddress where
  localpart : Localpart
  domain : DomainName
  deriving DecidableEq

namespace DomainName

/-- A label is empty, too long, hyphenated at an end or has other bytes than
letters, digits and hyphens. -/
def BadLabel (label : String) : Prop :=
  label = "" ∨ (asBytes label).length > 63 ∨ label.toList.head? = some '-' ∨
    label.toList.getLast? = some '-' ∨
    ¬(asBytes label).all fun byte => isAsciiAlphanumeric byte || byte == 45

instance (label : String) : Decidable (BadLabel label) :=
  inferInstanceAs (Decidable (_ ∨ _))

/-- Parse and canonicalise a tenant or federation domain. -/
def parse (unicode : Unicode) (input : String) :
    Except DomainError DomainName := do
  rejectIf (input = "" ∨ trim input ≠ input) .invalidDomain
  rejectIf
    ('/' ∈ input.toList ∨ ':' ∈ input.toList ∨ '@' ∈ input.toList ∨
      input.toList.getLast? = some '.')
    .invalidDomain
  let ascii ← okOr (unicode.domainToAscii input) .invalidDomain
  let canonical := toAsciiLowercase ascii
  rejectIf ((asBytes canonical).length > 253 ∨ '.' ∉ canonical.toList)
    .invalidDomain
  rejectIf (∃ label ∈ split '.' canonical, BadLabel label) .invalidDomain
  return ⟨canonical⟩

/-- The parser has made this domain. -/
def Parsed (unicode : Unicode) (domain : DomainName) : Prop :=
  ∃ input, parse unicode input = .ok domain

/-- A parsed domain has at most 253 bytes. -/
theorem Parsed.length_le
    {unicode : Unicode}
    {domain : DomainName}
    (parsed : domain.Parsed unicode) :
    (asBytes domain.asStr).length ≤ 253 := by
  obtain ⟨input, parsed⟩ := parsed
  simp only [parse, bind_eq_ok_iff, rejectIf_eq_ok_iff, pure, Except.pure,
    Except.ok.injEq] at parsed
  obtain ⟨_, -, _, -, ascii, -, _, bounded, _, -, rfl⟩ := parsed
  exact Nat.le_of_not_lt fun long => bounded (.inl long)

theorem eq_of_asBytes_eq
    {left right : DomainName}
    (equal : asBytes left.asStr = asBytes right.asStr) :
    left = right := by
  cases left
  cases right
  exact congrArg mk (asBytes_injective equal)

end DomainName

namespace Localpart

/-- Parse the narrow login grammar. -/
def parse (unicode : Unicode) (input : String) :
    Except LocalpartError Localpart := do
  let normalized := unicode.nfc input
  rejectIf
    (normalized = "" ∨ (asBytes normalized).length > 64 ∨ normalized ≠ input ∨
      (¬(asBytes normalized).all fun byte =>
        isAsciiLowercase byte || isAsciiDigit byte ||
          byte == 46 || byte == 95 || byte == 45) ∨
      normalized.toList.head? = some '.' ∨
      normalized.toList.getLast? = some '.' ∨
      ['.', '.'] <:+: normalized.toList)
    .invalidLocalpart
  return ⟨normalized⟩

/-- The parser has made this localpart. -/
def Parsed (unicode : Unicode) (localpart : Localpart) : Prop :=
  ∃ input, parse unicode input = .ok localpart

/-- A parsed localpart has at most 64 bytes. -/
theorem Parsed.length_le
    {unicode : Unicode}
    {localpart : Localpart}
    (parsed : localpart.Parsed unicode) :
    (asBytes localpart.asStr).length ≤ 64 := by
  obtain ⟨input, parsed⟩ := parsed
  simp only [parse, bind_eq_ok_iff, rejectIf_eq_ok_iff, pure, Except.pure,
    Except.ok.injEq] at parsed
  obtain ⟨_, accepted, rfl⟩ := parsed
  exact Nat.le_of_not_lt fun long => accepted (.inr (.inl long))

theorem eq_of_asBytes_eq
    {left right : Localpart}
    (equal : asBytes left.asStr = asBytes right.asStr) :
    left = right := by
  cases left
  cases right
  exact congrArg mk (asBytes_injective equal)

end Localpart

namespace UserAddress

/-- Parse a canonical local user address. -/
def parse (unicode : Unicode) (input : String) :
    Except UserAddressError UserAddress := do
  let (localpart, domain) ← okOr
    ((splitOnce '@' input).filter fun (_, remainder) => '@' ∉ remainder.toList)
    .invalidAddress
  let localpart ← (Localpart.parse unicode localpart).mapError .localpart
  let domain ← (DomainName.parse unicode domain).mapError .domain
  return ⟨localpart, domain⟩

/-- The displayed form of an address. -/
def toText (address : UserAddress) : String :=
  address.localpart.asStr ++ "@" ++ address.domain.asStr

/-- The parser has made this address. -/
def Parsed (unicode : Unicode) (address : UserAddress) : Prop :=
  ∃ input, parse unicode input = .ok address

theorem Parsed.components
    {unicode : Unicode}
    {address : UserAddress}
    (parsed : address.Parsed unicode) :
    address.localpart.Parsed unicode ∧ address.domain.Parsed unicode := by
  obtain ⟨input, parsed⟩ := parsed
  simp only [parse, bind_eq_ok_iff, mapError_eq_ok_iff, pure, Except.pure,
    Except.ok.injEq] at parsed
  obtain ⟨⟨before, after⟩, -, localpart, localparsed, domain, domainParsed,
    rfl⟩ := parsed
  exact ⟨⟨before, localparsed⟩, ⟨after, domainParsed⟩⟩

/-- A parsed address is displayed in at most 318 bytes. -/
theorem Parsed.length_le
    {unicode : Unicode}
    {address : UserAddress}
    (parsed : address.Parsed unicode) :
    (asBytes address.toText).length ≤ 318 := by
  have localpartBound := parsed.components.1.length_le
  have domainBound := parsed.components.2.length_le
  have separator : (asBytes "@").length = 1 := by decide
  rw [toText, asBytes_append, asBytes_append, List.length_append,
    List.length_append, separator]
  omega

/-- Addresses of one domain are told apart by their displayed form. -/
theorem eq_of_toText_eq
    {left right : UserAddress}
    (domain_eq : left.domain = right.domain)
    (text_eq : asBytes left.toText = asBytes right.toText) :
    left = right := by
  rw [toText, toText, asBytes_append, asBytes_append, asBytes_append,
    asBytes_append, domain_eq] at text_eq
  have localpart_eq : left.localpart = right.localpart := by
    apply Localpart.eq_of_asBytes_eq
    exact List.append_cancel_right (List.append_cancel_right text_eq)
  cases left
  cases right
  simp only [mk.injEq]
  exact ⟨localpart_eq, domain_eq⟩

end UserAddress

end Fabric
end Fcp
