import Fcp.Parsing.BigEndian
import Fcp.Fabric.OpaqueToken
import Fcp.Fabric.Store.Mfa

/-!
# Authenticator codes

Enrollment, encrypted storage and verification of time-based one-time codes.
-/

namespace Fcp
namespace Fabric

open Rust
open Parsing

/-- TOTP enrollment, encryption or verification failed. -/
inductive TotpError
  | invalidKeyReference
  | invalidIssuer
  | encryptionFailed
  | decryptionFailed
  | unsupportedParameters
  | invalidCodeFormat
  | invalidTime
  | verificationFailed
  deriving DecidableEq

/-- A data-encryption key unwrapped by the key provider. -/
structure TotpDataEncryptionKey where
  bytes : Vector UInt8 32

/-- Identity binding authenticated into a seed ciphertext. -/
structure TotpBinding where
  tenantId : TenantId
  accountId : AccountId
  factorId : Uuid
  deriving DecidableEq

namespace TotpBinding

/-- The associated data of a seed ciphertext. -/
def associatedData (binding : TotpBinding) : List UInt8 :=
  asBytes ("fcp-fabric/totp/v1/" ++ binding.tenantId.asUuid.toText ++ "/" ++
    binding.accountId.asUuid.toText ++ "/" ++ binding.factorId.toText)

end TotpBinding

/-! ## Enrollment -/

/-- A digit of the base32 alphabet from the low five bits of a buffer. -/
def base32Digit (buffer : UInt16) : Char :=
  let index := buffer.toNat % 32
  if index < 26 then Char.ofNat (65 + index) else Char.ofNat (24 + index)

/-- The whole digits among the bits of a buffer, and how many bits are left. -/
def base32Drain (buffer : UInt16) : (bits : Nat) → List Char × Nat
  | bits + 5 =>
      let (digits, left) := base32Drain buffer bits
      (base32Digit (buffer >>> .ofNat bits) :: digits, left)
  | bits => ([], bits)

/-- Base32 without padding, from the bits that are still buffered. -/
def base32From (buffer : UInt16) (bits : Nat) : List UInt8 → List Char
  | [] => if bits > 0 then [base32Digit (buffer <<< .ofNat (5 - bits))] else []
  | byte :: bytes =>
      let buffer := (buffer <<< 8) ||| byte.toUInt16
      let (digits, left) := base32Drain buffer (bits + 8)
      digits ++ base32From buffer left bytes

/-- Base32 without padding. -/
def base32NoPadding (bytes : List UInt8) : String :=
  .ofList (base32From 0 0 bytes)

example : base32NoPadding (asBytes "foobar") = "MZXW6YTBOI" := by decide

/-- Provisioning material that is shown once. -/
structure TotpProvisioning where
  secretBase32 : String
  uri : String

/-- A completed enrollment. -/
structure TotpEnrollment where
  encryptedSeed : EncryptedTotpSeed
  provisioning : TotpProvisioning

/-- Encrypt a seed bound to its tenant, account and factor. -/
def encryptSeed
    (primitives : Primitives)
    (key : TotpDataEncryptionKey)
    (keyReference : TotpKeyReference)
    (binding : TotpBinding)
    (seed : Vector UInt8 32)
    (nonce : Vector UInt8 12) : Except TotpError EncryptedTotpSeed := do
  let ciphertext ← okOr
    (primitives.encrypt key.bytes nonce seed.toList binding.associatedData)
    TotpError.encryptionFailed
  return {
    ciphertext := ciphertext
    nonce := nonce
    keyReference := keyReference
    digits := 6
    periodSeconds := 30 }

/-- Encrypt a new seed and spell its provisioning address. -/
def beginTotpEnrollment
    (primitives : Primitives)
    (key : TotpDataEncryptionKey)
    (keyReference : TotpKeyReference)
    (binding : TotpBinding)
    (address : UserAddress)
    (issuer : String)
    (seed : Vector UInt8 32)
    (nonce : Vector UInt8 12) : Except TotpError TotpEnrollment := do
  rejectIf (UnsafeText 64 issuer) TotpError.invalidIssuer
  let encryptedSeed ←
    encryptSeed primitives key keyReference binding seed nonce
  let secret := base32NoPadding seed.toList
  let label := issuer ++ ":" ++ address.localpart.asStr ++ "%40" ++
    address.domain.asStr
  return {
    encryptedSeed := encryptedSeed
    provisioning :=
      { secretBase32 := secret
        uri := "otpauth://totp/" ++ label ++ "?secret=" ++ secret ++
          "&issuer=" ++ issuer ++ "&algorithm=SHA256&digits=6&period=30" } }

/-! ## Verification -/

/-- A code submitted for a factor, with the clock reading of its check. -/
structure TotpAttempt where
  key : TotpDataEncryptionKey
  encrypted : EncryptedTotpSeed
  binding : TotpBinding
  code : String
  now : OffsetDateTime
  lastAcceptedStep : Option Int

/-- Decrypt a seed under the binding of its factor. -/
def decryptSeed (primitives : Primitives) (attempt : TotpAttempt) :
    Except TotpError (Vector UInt8 32) := do
  let plaintext ← okOr
    (primitives.decrypt attempt.key.bytes attempt.encrypted.nonce
      attempt.encrypted.ciphertext attempt.binding.associatedData)
    TotpError.decryptionFailed
  if width : plaintext.length = 32 then
    return ⟨plaintext.toArray, width⟩
  else
    throw .decryptionFailed

/-- The six-digit code of a seed at a time step. -/
def codeForStep
    (primitives : Primitives)
    (seed : Vector UInt8 32)
    (step : Int) : Nat :=
  let digest :=
    (primitives.hmacSha256 seed (toBigEndian 8 (step % 2 ^ 64).toNat)).toList
  let offset := (digest.getLastD 0).toNat % 16
  ofBigEndian ((digest.drop offset).take 4) % 2 ^ 31 % 10 ^ 6

/-- The number that decimal digits spell. -/
def parseDecimal (digits : List UInt8) : Nat :=
  digits.foldl (fun value byte => value * 10 + (byte.toNat - 48)) 0

/-- The first step that was not just accepted and whose code was supplied. -/
def acceptStep
    (primitives : Primitives)
    (seed : Vector UInt8 32)
    (supplied : Nat)
    (lastAcceptedStep : Option Int) : List Int → Except TotpError Int
  | [] => .error .verificationFailed
  | step :: steps =>
      if some step ≠ lastAcceptedStep ∧
          codeForStep primitives seed step = supplied then
        .ok step
      else
        acceptStep primitives seed supplied lastAcceptedStep steps

/-- Verify a six-digit code against the current and the previous time step. -/
def verifyTotp (primitives : Primitives) (attempt : TotpAttempt) :
    Except TotpError Int := do
  rejectIf
    (attempt.encrypted.digits ≠ 6 ∨ attempt.encrypted.periodSeconds ≠ 30)
    TotpError.unsupportedParameters
  rejectIf
    ((asBytes attempt.code).length ≠ 6 ∨
      (asBytes attempt.code).all isAsciiDigit = false)
    TotpError.invalidCodeFormat
  let seed ← decryptSeed primitives attempt
  let currentStep := attempt.now.unixTimestamp.tdiv 30
  acceptStep primitives seed (parseDecimal (asBytes attempt.code))
    attempt.lastAcceptedStep [currentStep, currentStep - 1]

theorem mem_of_acceptStep
    {primitives : Primitives}
    {seed : Vector UInt8 32}
    {supplied : Nat}
    {lastAcceptedStep : Option Int}
    {steps : List Int}
    {accepted : Int}
    (result : acceptStep primitives seed supplied lastAcceptedStep steps =
      .ok accepted) :
    accepted ∈ steps ∧ some accepted ≠ lastAcceptedStep := by
  induction steps with
  | nil => cases result
  | cons step steps inductionHypothesis =>
      rw [acceptStep] at result
      split at result
      case isTrue matches_step =>
        cases result
        exact ⟨List.mem_cons_self, matches_step.1⟩
      case isFalse =>
        obtain ⟨mem, fresh⟩ := inductionHypothesis result
        exact ⟨List.mem_cons_of_mem step mem, fresh⟩

/-- An accepted step is the current or the previous one and not the step that
the check knew as the last. -/
theorem verifyTotp_eq_ok
    {primitives : Primitives}
    {attempt : TotpAttempt}
    {accepted : Int}
    (result : verifyTotp primitives attempt = .ok accepted) :
    (accepted = attempt.now.unixTimestamp.tdiv 30 ∨
      accepted = attempt.now.unixTimestamp.tdiv 30 - 1) ∧
      some accepted ≠ attempt.lastAcceptedStep := by
  simp only [verifyTotp, bind_eq_ok_iff] at result
  obtain ⟨_, _, _, _, seed, _, result⟩ := result
  obtain ⟨mem, fresh⟩ := mem_of_acceptStep result
  exact ⟨by simpa using mem, fresh⟩

end Fabric
end Fcp
