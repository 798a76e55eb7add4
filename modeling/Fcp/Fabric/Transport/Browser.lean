import Fcp.Fabric.Service.Session

/-!
# Browser requests and responses

Header parsing, cookies and the responses that every handler shares.
-/

namespace Fcp
namespace Fabric
namespace Transport

open Rust
open Reactive

/-! ## Headers -/

/-- A byte that header text may hold. -/
def isVisibleAscii (byte : UInt8) : Bool :=
  32 ≤ byte && byte < 127 || byte == 9

/-- The bytes of a header value. -/
structure HeaderValue where
  bytes : List UInt8
  deriving DecidableEq

namespace HeaderValue

/-- `HeaderValue::from_str`. -/
def fromStr (text : String) : Option HeaderValue :=
  if (asBytes text).all isVisibleAscii then some ⟨asBytes text⟩ else none

/-- `HeaderValue::to_str`.  The characters of the text are its bytes. -/
def toStr (value : HeaderValue) : Option (List UInt8) :=
  if value.bytes.all isVisibleAscii then some value.bytes else none

end HeaderValue

/-- Request headers in their order, with lower-case names. -/
abbrev HeaderMap : Type :=
  List (String × HeaderValue)

namespace HeaderMap

/-- All values of a header. -/
def getAll (headers : HeaderMap) (name : String) : List HeaderValue :=
  (headers.filter fun header => header.1 = name).map Prod.snd

/-- The first value of a header. -/
def get (headers : HeaderMap) (name : String) : Option HeaderValue :=
  (headers.getAll name).head?

end HeaderMap

/-! ## Cookie and header names -/

def loginTransactionCookie : String := "__Host-fabric-login"

def loginBindingCookie : String := "__Host-fabric-binding"

def loginCsrfCookie : String := "__Host-fabric-csrf"

def refreshCookieName : String := "__Host-fabric-refresh"

def accessCookieName : String := "__Host-fabric-access"

def stepUpCookieName : String := "__Secure-fabric-step-up"

def sessionCsrfCookieName : String := "__Host-fabric-session-csrf"

def webauthnCeremonyCookie : String := "__Host-fabric-webauthn"

def webauthnBindingCookie : String := "__Host-fabric-webauthn-binding"

def webauthnCsrfCookie : String := "__Host-fabric-webauthn-csrf"

def csrfHeader : String := "x-fabric-csrf"

/-! ## Request parsing -/

/-- The form of every opaque token: 43 digits of URL-safe base64. -/
def isOpaqueBrowserToken (value : List UInt8) : Bool :=
  value.length = 43 ∧ value.all fun byte =>
    isAsciiAlphanumeric byte || byte == 45 || byte == 95

/-- Header text without the white space around it. -/
def trimHeader (text : List UInt8) : List UInt8 :=
  let isSpace (byte : UInt8) := isWhitespace (.ofNat byte.toNat)
  (text.dropWhile isSpace).rdropWhile isSpace

/-- The name and the value of a cookie, separated by the first `=`. -/
def splitCookie (pair : List UInt8) : Option (List UInt8 × List UInt8) :=
  match pair.span (· ≠ 61) with
  | (_, []) => none
  | (name, _ :: value) => some (name, value)

/-- The well-formed values of a cookie; a `;` separates cookies. -/
def cookieValues (headers : HeaderMap) (name : String) : List (List UInt8) :=
  let pairs := ((headers.getAll "cookie").filterMap HeaderValue.toStr).flatMap
    (List.splitOn 59)
  let named := (pairs.map trimHeader).filterMap splitCookie
  (named.filter fun (candidate, value) =>
    candidate = asBytes name ∧ isOpaqueBrowserToken value).map Prod.snd

/-- The value of a cookie that occurs once. -/
def browserCookie (headers : HeaderMap) (name : String) : Option String :=
  match cookieValues headers name with
  | [value] => some (.ofList (value.map fun byte => .ofNat byte.toNat))
  | _ => none

/-- The header repeats the value of the cookie. -/
def csrfProofIsValid (headers : HeaderMap) (cookieName : String) : Bool :=
  match browserCookie headers cookieName with
  | none => false
  | some cookie =>
      (((headers.get csrfHeader).bind HeaderValue.toStr).filter
        isOpaqueBrowserToken).any fun value => value = asBytes cookie

/-! ## Repeated cookies -/

/-- The name and value pairs that the cookie headers hold. -/
def cookiePairs (headers : HeaderMap) : List (List UInt8 × List UInt8) :=
  ((((headers.getAll "cookie").filterMap HeaderValue.toStr).flatMap
    (List.splitOn 59)).map trimHeader).filterMap splitCookie

/-- The values of all pairs with a name, whatever they are. -/
def namedValues (headers : HeaderMap) (name : String) : List (List UInt8) :=
  ((cookiePairs headers).filter fun pair => pair.1 = asBytes name).map Prod.snd

/-- Header text as a string. -/
def headerText (text : List UInt8) : String :=
  .ofList (text.map fun byte => .ofNat byte.toNat)

/-- A cookie is taken exactly if one pair has its name and that pair is
well-formed; a name that occurs twice is refused. -/
def RefusesDuplicates (headers : HeaderMap) (name : String) : Prop :=
  (∀ cookie, browserCookie headers name = some cookie ↔
    ∃ value, namedValues headers name = [value] ∧
      isOpaqueBrowserToken value = true ∧ headerText value = cookie) ∧
  (2 ≤ (namedValues headers name).length → browserCookie headers name = none)

theorem cookieValues_eq (headers : HeaderMap) (name : String) :
    cookieValues headers name =
      (namedValues headers name).filter isOpaqueBrowserToken := by
  rw [namedValues, List.filter_map, List.filter_filter]
  change ((cookiePairs headers).filter _).map Prod.snd = _
  refine congrArg (List.map Prod.snd) (List.filter_congr fun pair _ => ?_)
  simp only [Function.comp_apply, Bool.decide_and, Bool.decide_eq_true,
    Bool.and_comm]

theorem browserCookie_eq_some_iff
    {headers : HeaderMap}
    {name cookie : String} :
    browserCookie headers name = some cookie ↔
      ∃ value, cookieValues headers name = [value] ∧
        headerText value = cookie := by
  rw [browserCookie]
  split
  case h_1 value values_eq =>
    rw [values_eq]
    constructor
    · intro taken
      exact ⟨value, rfl, Option.some.inj taken⟩
    · rintro ⟨_, ⟨⟩, rfl⟩
      rfl
  case h_2 several =>
    constructor
    · exact nofun
    · rintro ⟨value, values_eq, -⟩
      exact absurd values_eq (several value)

/-- Repeated cookies are refused unless exactly one of the pairs is well-formed:
the well-formed pairs are counted alone. -/
theorem refuses_duplicates_iff (headers : HeaderMap) (name : String) :
    RefusesDuplicates headers name ↔
      ¬(2 ≤ (namedValues headers name).length ∧
        ((namedValues headers name).filter isOpaqueBrowserToken).length =
          1) := by
  constructor
  · rintro ⟨-, refuses⟩ ⟨repeated, single⟩
    obtain ⟨value, values_eq⟩ := List.length_eq_one_iff.mp single
    have taken : browserCookie headers name = some (headerText value) :=
      browserCookie_eq_some_iff.mpr
        ⟨value, (cookieValues_eq headers name).trans values_eq, rfl⟩
    rw [refuses repeated] at taken
    cases taken
  · intro apart
    refine ⟨fun cookie => ?_, fun repeated => ?_⟩
    · rw [browserCookie_eq_some_iff, cookieValues_eq]
      constructor
      · rintro ⟨value, values_eq, text_eq⟩
        have few : (namedValues headers name).length < 2 :=
          Nat.lt_of_not_le fun repeated =>
            apart ⟨repeated, by rw [values_eq, List.length_singleton]⟩
        have mem : value ∈ (namedValues headers name).filter
            isOpaqueBrowserToken := values_eq ▸ List.mem_singleton_self value
        obtain ⟨named, well_formed⟩ := List.mem_filter.mp mem
        have one : (namedValues headers name).length = 1 :=
          Nat.le_antisymm (Nat.le_of_lt_succ few)
            (List.length_pos_of_mem named)
        obtain ⟨only, named_eq⟩ := List.length_eq_one_iff.mp one
        rw [named_eq, List.mem_singleton] at named
        subst named
        exact ⟨value, named_eq, well_formed, text_eq⟩
      · rintro ⟨value, named_eq, well_formed, text_eq⟩
        refine ⟨value, ?_, text_eq⟩
        rw [named_eq, List.filter_cons_of_pos well_formed, List.filter_nil]
    · cases taken : browserCookie headers name with
      | none => rfl
      | some cookie =>
          obtain ⟨value, values_eq, -⟩ := browserCookie_eq_some_iff.mp taken
          rw [cookieValues_eq] at values_eq
          refine absurd ⟨repeated, ?_⟩ apart
          rw [values_eq, List.length_singleton]

/-- A malformed pair before a well-formed one of the same name. -/
def repeatedCookie : HeaderMap :=
  [("cookie",
    ⟨asBytes "__Host-fabric-csrf=; __Host-fabric-csrf=" ++ .replicate 43 97⟩)]

/-- A name that occurs twice yields its well-formed value. -/
theorem repeated_cookie_is_taken :
    (namedValues repeatedCookie loginCsrfCookie).length = 2 ∧
      browserCookie repeatedCookie loginCsrfCookie =
        some (headerText (.replicate 43 97)) ∧
      ¬RefusesDuplicates repeatedCookie loginCsrfCookie := by
  have named_eq : namedValues repeatedCookie loginCsrfCookie =
      [[], .replicate 43 97] := by decide
  have taken : browserCookie repeatedCookie loginCsrfCookie =
      some (headerText (.replicate 43 97)) := by
    refine browserCookie_eq_some_iff.mpr ⟨_, ?_, rfl⟩
    rw [cookieValues_eq, named_eq]
    rfl
  refine ⟨congrArg List.length named_eq, taken, fun refuses => ?_⟩
  have refused := refuses.2 (by rw [named_eq]; decide)
  rw [taken] at refused
  cases refused

/-! ## Responses -/

/-- The status codes that handlers answer with. -/
inductive StatusCode
  | ok
  | created
  | accepted
  | noContent
  | unauthorized
  | forbidden
  | notFound
  | unprocessableEntity
  | preconditionRequired
  | internalServerError
  | serviceUnavailable
  deriving DecidableEq

/-- A response with its JSON body and the cookies that it sets. -/
structure Response where
  status : StatusCode
  body : Option Json
  setCookie : List HeaderValue

/-- A response of a status alone. -/
def StatusCode.intoResponse (status : StatusCode) : Response where
  status := status
  body := none
  setCookie := []

/-- Append one cookie to a response. -/
def Response.append (response : Response) (cookies : List HeaderValue) :
    Response :=
  { response with setCookie := response.setCookie ++ cookies }

/-! ## Cookies -/

def webauthnCookie (name value : String) (httpOnly : Bool) : String :=
  name ++ "=" ++ value ++ "; Path=/; Max-Age=300; Secure; SameSite=Strict" ++
    if httpOnly then "; HttpOnly" else ""

def loginCookie (name value : String) : String :=
  name ++ "=" ++ value ++
    "; Path=/; Max-Age=300; Secure; HttpOnly; SameSite=Strict"

def csrfCookie (value : String) : String :=
  loginCsrfCookie ++ "=" ++ value ++
    "; Path=/; Max-Age=300; Secure; SameSite=Strict"

def refreshCookie (value : String) : String :=
  refreshCookieName ++ "=" ++ value ++
    "; Path=/; Max-Age=2592000; Secure; HttpOnly; SameSite=Strict"

def stepUpCookie (value : String) : String :=
  stepUpCookieName ++ "=" ++ value ++
    "; Path=/v1/admin/accounts; Max-Age=300; Secure; HttpOnly; SameSite=Strict"

def accessCookie (value : String) : String :=
  accessCookieName ++ "=" ++ value ++
    "; Path=/; Max-Age=900; Secure; HttpOnly; SameSite=Strict"

def sessionCsrfCookie (value : String) : String :=
  sessionCsrfCookieName ++ "=" ++ value ++
    "; Path=/; Max-Age=2592000; Secure; SameSite=Strict"

/-- The cookies that delete cookies of the given names. -/
def clearing (cookies : List (String × Bool)) : List HeaderValue :=
  cookies.filterMap fun (name, httpOnly) =>
    HeaderValue.fromStr (name ++
      "=; Path=/; Max-Age=0; Secure; SameSite=Strict" ++
      if httpOnly then "; HttpOnly" else "")

def clearWebauthnCookies (response : Response) : Response :=
  response.append (clearing
    [(webauthnCeremonyCookie, true), (webauthnBindingCookie, true),
      (webauthnCsrfCookie, false)])

def clearLoginCookies (response : Response) : Response :=
  response.append (clearing
    [(loginTransactionCookie, true), (loginBindingCookie, true),
      (loginCsrfCookie, false)])

def clearSessionCookies (response : Response) : Response :=
  response.append (clearing
    [(refreshCookieName, true), (accessCookieName, true),
      (sessionCsrfCookieName, false)])

def clearStepUpCookie (response : Response) : Response :=
  response.append
    (HeaderValue.fromStr (stepUpCookieName ++ "=; Path=/v1/admin/accounts; " ++
      "Max-Age=0; Secure; HttpOnly; SameSite=Strict")).toList

/-! ## Denials -/

/-- The same denial for unknown accounts and wrong credentials. -/
def genericLoginDenial : Response where
  status := .unauthorized
  body := some (.object [("status", .string "denied")])
  setCookie := []

def passkeyDenial : Response :=
  clearWebauthnCookies genericLoginDenial

def loginFlowDenial : Response :=
  clearLoginCookies genericLoginDenial

def sessionRefreshDenial : Response :=
  clearSessionCookies genericLoginDenial

def stepUpRequired : Response :=
  clearStepUpCookie StatusCode.preconditionRequired.intoResponse

/-- Draw a token for the CSRF cookie. -/
def issueBrowserCsrfToken (primitives : Primitives) : Action String := do
  let bytes ← Program.call Operation.randomBytes
  return primitives.base64Url.encode bytes.toList

end Transport
end Fabric
end Fcp
