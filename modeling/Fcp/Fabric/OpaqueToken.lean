import Fcp.Fabric.Store.Schema

/-!
# Opaque tokens

Random bearer credentials and the keyed digests that stand for them in the
database.  The cryptographic functions and the text encoding are parameters.
-/

namespace Fcp
namespace Fabric

open Rust

/-- Unpadded URL-safe base64, with what the service relies on. -/
structure Base64Url where
  encode : List UInt8 → String
  length_encode : ∀ bytes,
    (encode bytes).toList.length = (bytes.length * 4 + 2) / 3
  ascii_encode : ∀ bytes, ∀ character ∈ (encode bytes).toList,
    character.toNat < 128
  encode_injective : Function.Injective encode

/-- The cryptographic and encoding functions that the service calls. -/
structure Primitives where
  /-- `URL_SAFE_NO_PAD`. -/
  base64Url : Base64Url
  /-- HMAC-SHA-256 of a key and a message. -/
  hmacSha256 : Vector UInt8 32 → List UInt8 → Vector UInt8 32
  sha256 : List UInt8 → Vector UInt8 32
  /-- AES-256-GCM of a key, a nonce, a message and associated data. -/
  encrypt : Vector UInt8 32 → Vector UInt8 12 → List UInt8 → List UInt8 →
    Option (List UInt8)
  /-- The inverse of `encrypt`, `none` for a failed authentication. -/
  decrypt : Vector UInt8 32 → Vector UInt8 12 → List UInt8 → List UInt8 →
    Option (List UInt8)

/-- An in-memory HMAC key for the digests of opaque tokens. -/
structure TokenDigestKey where
  bytes : Vector UInt8 32

/-- A newly issued opaque credential. -/
structure IssuedOpaqueToken where
  raw : String
  digest : OpaqueTokenDigest

/-- The keyed digest of an opaque credential. -/
def deriveOpaqueTokenDigest
    (primitives : Primitives)
    (key : TokenDigestKey)
    (raw : String) : OpaqueTokenDigest :=
  ⟨primitives.hmacSha256 key.bytes (asBytes raw)⟩

/-- An opaque token of 32 random bytes and its digest. -/
def issueOpaqueToken
    (primitives : Primitives)
    (key : TokenDigestKey)
    (bytes : Vector UInt8 32) : IssuedOpaqueToken :=
  let raw := primitives.base64Url.encode bytes.toList
  { raw := raw, digest := deriveOpaqueTokenDigest primitives key raw }

end Fabric
end Fcp
