import TunnelBore.Shared.Json

namespace TunnelBore.Broker

/-!
# Publisher tokens

A publisher proves its identity with a JSON web token the broker signed earlier.
`verifyPublisherToken` checks the signature, the issuer and the dates of a token and reads
the claim `identity` out of its payload.

jwt-cpp is not part of the repository; `Jwt` holds the operations of it the broker calls.
A token is opaque to the broker, so its type is a parameter.  `Jwt.RoundTrip` is what the
broker relies on: a token signed with the private key verifies under the public key and
decodes to the payload that was signed.
-/

/-- What the broker calls of jwt-cpp, with the algorithm `rs256`. -/
structure Jwt (Token : Type) where
  /-- `builder::sign` of a payload with a private key. -/
  sign : String → ClaimMap → Token
  /-- `jwt::decode` and then the payload; `none` says that decoding throws. -/
  decode : Token → Option ClaimMap
  /-- The signature is valid under a public key. -/
  signatureValid : String → Token → Bool
  /-- The verifier's date checks at a time, on `exp`, `iat` and `nbf`. -/
  datesAccepted : Int → Option Json → Option Json → Option Json → Bool

variable {Token : Type} (jwt : Jwt Token)

/-- Signing with `privateKey` and verifying with `publicKey` gives the payload back. -/
structure Jwt.RoundTrip (privateKey publicKey : String) : Prop where
  decode_sign : ∀ payload, jwt.decode (jwt.sign privateKey payload) = some payload
  signatureValid_sign : ∀ payload, jwt.signatureValid publicKey (jwt.sign privateKey payload)

/-- The claims a payload shows to the date checks pass them. -/
def Jwt.datesValid (now : Int) (payload : ClaimMap) : Bool :=
  jwt.datesAccepted now (payload.lookup "exp") (payload.lookup "iat") (payload.lookup "nbf")

/-- `with_issuer("tunnelBore")`: the claim `iss` is this string. -/
def issuerMatches (payload : ClaimMap) : Bool :=
  (payload.lookup "iss").bind Json.getString = some "tunnelBore"

/-- `verifier.verify(decoded, ec)` at the time `now`; `false` for `ec`. -/
def Jwt.verify (publicJwtKey : String) (now : Int) (tokenData : Token) (payload : ClaimMap) :
    Bool :=
  jwt.signatureValid publicJwtKey tokenData && jwt.datesValid now payload &&
    issuerMatches payload

/-- `PublisherToken`. -/
structure PublisherToken where
  identity : String
  otherClaims : Json

/-- `verifyPublisherToken` at the time `now`; `none` is `std::nullopt`. -/
def verifyPublisherToken (publicJwtKey : String) (now : Int) (tokenData : Token) :
    Option PublisherToken :=
  match jwt.decode tokenData with
  | none        => none
  | some claims =>
    if jwt.verify publicJwtKey now tokenData claims then
      match claims.lookup "identity" with
      | none       => none
      -- `get<std::string>()` may throw, and the handler returns `std::nullopt`
      | some ident => ident.getString.map fun identity => ⟨identity, claims.toJson⟩
    else
      none

/-- A token is accepted exactly when it decodes to a payload that passes the verifier and
    has a string for its identity. -/
theorem verifyPublisherToken_eq_some {publicJwtKey : String} {now : Int} {tokenData : Token}
    {token : PublisherToken} :
    verifyPublisherToken jwt publicJwtKey now tokenData = some token ↔
      ∃ claims, jwt.decode tokenData = some claims ∧
        jwt.verify publicJwtKey now tokenData claims = true ∧
        claims.lookup "identity" = some (.string token.identity) ∧
        token.otherClaims = claims.toJson := by
  unfold verifyPublisherToken
  cases hdecode : jwt.decode tokenData with
  | none => simp
  | some claims =>
    cases hverify : jwt.verify publicJwtKey now tokenData claims with
    | false => simp [hverify]
    | true =>
      cases hident : claims.lookup "identity" with
      | none => simp [hident]
      | some ident =>
        obtain ⟨identity, otherClaims⟩ := token
        cases hstring : ident.getString with
        | none =>
          have hne : ident ≠ .string identity := by rintro rfl; simp [Json.getString] at hstring
          simp [hident, hstring, hne]
        | some s =>
          obtain rfl := Json.getString_eq_some.mp hstring
          simp only [hident, Json.getString, if_true, Option.map_some, Option.some.injEq,
            PublisherToken.mk.injEq, exists_eq_left', hverify, true_and, Json.string.injEq]
          exact and_congr_right fun _ => eq_comm

end TunnelBore.Broker
