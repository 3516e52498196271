import TunnelBore.Broker.PublisherToken

namespace TunnelBore.Broker

/-!
# The authority: signing tokens for users

`getUser` checks a name and a password against the users file.  `authenticateThenSign`
builds a payload for the user it returns (issuer, dates, identity), copies the claims the
caller sent into the same payload and signs it.

The copying comes last and a later claim replaces an earlier one of its name, so a caller
that sends `identity` names the identity of the token itself
(`issued_identity_preserved_iff`).

The hash `Roar::sha512` is a parameter; it may fail.
-/

/-! ### The users file -/

/-- One entry of the users file, `Publisher` in the source. -/
structure UsersFile.Publisher where
  email : String
  identity : String
  pass : String
  salt : String

/-- `UsersFile`. -/
structure UsersFile where
  pepper : String
  publishers : List UsersFile.Publisher

/-- `User`. -/
structure User where
  email : String
  identity : String
  deriving DecidableEq, Repr

/-- `UserControl::getUser`: the loop returns at the first publisher of that name. -/
def getUser (sha512 : String → Option String) (users : UsersFile) (name password : String) :
    Option User :=
  match users.publishers.find? fun user => user.identity = name ∨ user.email = name with
  | none      => none
  | some user =>
    let combined := password ++ "_" ++ user.salt ++ "_" ++ users.pepper
    match sha512 combined with
    | none      => none
    | some hash => if hash = user.pass then some ⟨user.email, user.identity⟩ else none

/-! ### Signing -/

/-- `std::chrono::days{365}` in seconds. -/
def tokenLifetime : Int := 365 * 24 * 60 * 60

/-- `Authority`. -/
structure Authority where
  privateJwt : String
  users : UsersFile

namespace Authority

/-- The payload before the caller's claims are copied; `issuedAt` and `now` are the two times
    the clock is read. -/
def basePayload (user : User) (issuedAt now : Int) : ClaimMap :=
  (((((∅ : ClaimMap).assign "iss" (.string "tunnelBore")).assign
    "iat" (.number issuedAt)).assign
    "exp" (.number (now + tokenLifetime))).assign
    "identity" (.string user.identity))

/-- The payload that is signed. -/
def payload (user : User) (claims : Json) (issuedAt now : Int) : ClaimMap :=
  (basePayload user issuedAt now).assignAll claims.items

variable {Token : Type} (jwt : Jwt Token) (sha512 : String → Option String)

/-- `Authority::authenticateThenSign`; `none` is `std::nullopt`. -/
def authenticateThenSign (authority : Authority) (name password : String) (claims : Json)
    (issuedAt now : Int) : Option Token :=
  match getUser sha512 authority.users name password with
  | none      => none
  | some user => some (jwt.sign authority.privateJwt (payload user claims issuedAt now))

end Authority

/-- What `claims.items()` lists for a key; the last value, should it list several. -/
def claimed (claims : Json) (key : String) : Option Json := claims.items.reverse.lookup key

section
variable (user : User) (claims : Json) (issuedAt now : Int)

/-- The payload holds the caller's value for a key, and else the authority's. -/
theorem lookup_payload (key : String) :
    (Authority.payload user claims issuedAt now).lookup key =
      (claimed claims key).or ((Authority.basePayload user issuedAt now).lookup key) :=
  ClaimMap.lookup_assignAll _ _ _

/-- The identity the authority sets. -/
theorem lookup_basePayload_identity :
    (Authority.basePayload user issuedAt now).lookup "identity" =
      some (.string user.identity) :=
  ClaimMap.lookup_assign_self _ _ _

/-- The issuer the authority sets. -/
theorem lookup_basePayload_iss :
    (Authority.basePayload user issuedAt now).lookup "iss" = some (.string "tunnelBore") := by
  unfold Authority.basePayload
  rw [ClaimMap.lookup_assign_of_ne _ (by decide), ClaimMap.lookup_assign_of_ne _ (by decide),
    ClaimMap.lookup_assign_of_ne _ (by decide), ClaimMap.lookup_assign_self]

/-- The dates the authority sets. -/
theorem lookup_basePayload_dates :
    (Authority.basePayload user issuedAt now).lookup "exp" =
        some (.number (now + tokenLifetime)) ∧
      (Authority.basePayload user issuedAt now).lookup "iat" = some (.number issuedAt) ∧
      (Authority.basePayload user issuedAt now).lookup "nbf" = none := by
  unfold Authority.basePayload
  refine ⟨?_, ?_, ?_⟩
  · rw [ClaimMap.lookup_assign_of_ne _ (by decide), ClaimMap.lookup_assign_self]
  · rw [ClaimMap.lookup_assign_of_ne _ (by decide), ClaimMap.lookup_assign_of_ne _ (by decide),
      ClaimMap.lookup_assign_self]
  · rw [ClaimMap.lookup_assign_of_ne _ (by decide), ClaimMap.lookup_assign_of_ne _ (by decide),
      ClaimMap.lookup_assign_of_ne _ (by decide), ClaimMap.lookup_assign_of_ne _ (by decide)]
    rfl

/-- The issuer check passes exactly when the caller sent no other issuer. -/
theorem issuerMatches_payload :
    issuerMatches (Authority.payload user claims issuedAt now) = true ↔
      ∀ issuer, claimed claims "iss" = some issuer → issuer = .string "tunnelBore" := by
  unfold issuerMatches
  rw [lookup_payload, lookup_basePayload_iss, decide_eq_true_iff]
  cases claimed claims "iss" with
  | none => simp [Json.getString]
  | some issuer => simp [Json.getString_eq_some]

end

/-! ### Whose identity a token carries -/

section
variable {Token : Type} (jwt : Jwt Token) (sha512 : String → Option String)

/-- Every token the authority issues for these credentials and claims that verifies at
    `later` carries the identity of `user`. -/
def IdentityPreserved (authority : Authority) (publicJwtKey name password : String)
    (claims : Json) (issuedAt now later : Int) (user : User) : Prop :=
  ∀ tokenData token,
    authority.authenticateThenSign jwt sha512 name password claims issuedAt now =
      some tokenData →
    verifyPublisherToken jwt publicJwtKey later tokenData = some token →
    token.identity = user.identity

/-- The dates in the signed payload, the caller's where it sent one, pass the verifier. -/
def DatesAccepted (claims : Json) (issuedAt now later : Int) : Prop :=
  jwt.datesAccepted later
    (some ((claimed claims "exp").getD (.number (now + tokenLifetime))))
    (some ((claimed claims "iat").getD (.number issuedAt)))
    (claimed claims "nbf") = true

/-- The claims cannot make the token pass for someone else: they name no other identity, or
    they spoil the issuer or the dates so that no verifier accepts the token. -/
def HarmlessClaims (claims : Json) (issuedAt now later : Int) (user : User) : Prop :=
  (∀ identity, claimed claims "identity" = some (.string identity) →
      identity = user.identity) ∨
    (∃ issuer, claimed claims "iss" = some issuer ∧ issuer ≠ .string "tunnelBore") ∨
    ¬DatesAccepted jwt claims issuedAt now later

/-- The date check on the signed payload. -/
theorem datesValid_payload (user : User) (claims : Json) (issuedAt now later : Int) :
    jwt.datesValid later (Authority.payload user claims issuedAt now) = true ↔
      DatesAccepted jwt claims issuedAt now later := by
  obtain ⟨hexp, hiat, hnbf⟩ := lookup_basePayload_dates user issuedAt now
  have hor : ∀ (o : Option Json) (d : Json), o.or (some d) = some (o.getD d) := by
    rintro (_ | _) _ <;> rfl
  unfold Jwt.datesValid DatesAccepted
  rw [lookup_payload, lookup_payload, lookup_payload, hexp, hiat, hnbf, hor, hor, Option.or_none]

/-- **When an issued token keeps its identity.**  For every users file, credentials `getUser`
    accepts and claims: every token issued and accepted carries the user's identity exactly
    when the claims are harmless. -/
theorem issued_identity_preserved_iff (authority : Authority) (publicJwtKey : String)
    (hround : jwt.RoundTrip authority.privateJwt publicJwtKey) (name password : String)
    (claims : Json) (issuedAt now later : Int) (user : User)
    (huser : getUser sha512 authority.users name password = some user) :
    IdentityPreserved jwt sha512 authority publicJwtKey name password claims issuedAt now later
        user ↔
      HarmlessClaims jwt claims issuedAt now later user := by
  let signed := Authority.payload user claims issuedAt now
  have hissue : authority.authenticateThenSign jwt sha512 name password claims issuedAt now =
      some (jwt.sign authority.privateJwt signed) := by
    simp only [Authority.authenticateThenSign, huser, signed]
  -- acceptance of the one token that can be issued, read off its payload
  have haccept : ∀ token, verifyPublisherToken jwt publicJwtKey later
      (jwt.sign authority.privateJwt signed) = some token ↔
        DatesAccepted jwt claims issuedAt now later ∧
        (∀ issuer, claimed claims "iss" = some issuer → issuer = .string "tunnelBore") ∧
        (claimed claims "identity").or (some (.string user.identity)) =
          some (.string token.identity) ∧
        token.otherClaims = signed.toJson := by
    intro token
    rw [verifyPublisherToken_eq_some, hround.decode_sign]
    simp only [Option.some.injEq, exists_eq_left', Jwt.verify, hround.signatureValid_sign,
      Bool.true_and, Bool.and_eq_true, and_assoc]
    rw [datesValid_payload, issuerMatches_payload, lookup_payload, lookup_basePayload_identity]
  constructor
  · intro hpreserved
    by_contra hharm
    simp only [HarmlessClaims, not_or, not_forall, not_exists, not_and, not_not] at hharm
    obtain ⟨⟨identity, hidentity, hne⟩, hissuer, hdates⟩ := hharm
    refine hne (hpreserved _ ⟨identity, signed.toJson⟩ hissue ((haccept _).mpr ?_))
    exact ⟨hdates, hissuer, by rw [hidentity]; rfl, rfl⟩
  · intro hharmless tokenData token htoken hverify
    obtain rfl : jwt.sign authority.privateJwt signed = tokenData :=
      Option.some.inj (hissue.symm.trans htoken)
    obtain ⟨hdates, hissuer, hidentity, -⟩ := (haccept token).mp hverify
    rcases hharmless with hown | ⟨issuer, hclaimed, hne⟩ | hrejected
    · cases hclaimed : claimed claims "identity" with
      | none =>
        rw [hclaimed, Option.none_or, Option.some.injEq, Json.string.injEq] at hidentity
        exact hidentity.symm
      | some value =>
        rw [hclaimed, Option.some_or] at hidentity
        exact hown _ (hclaimed.trans hidentity)
    · exact absurd (hissuer issuer hclaimed) hne
    · exact absurd hdates hrejected

end

/-! ### A caller that names someone else -/

/-- A signature scheme whose tokens are the key and the payload, with the library's date
    checks: not expired, and not from the future. -/
def keyedJwt : Jwt (String × ClaimMap) where
  sign privateKey payload := (privateKey, payload)
  decode tokenData := some tokenData.2
  signatureValid publicKey tokenData := publicKey = tokenData.1 ++ ".pub"
  datesAccepted later exp iat nbf :=
    let passes (check : Int → Bool) : Option Json → Bool
      | none             => true
      | some (.number t) => check t
      | some _           => false
    passes (later ≤ ·) exp && passes (· ≤ later) iat && passes (· ≤ later) nbf

theorem keyedJwt_roundTrip (privateKey : String) :
    keyedJwt.RoundTrip privateKey (privateKey ++ ".pub") where
  decode_sign _ := rfl
  signatureValid_sign _ := decide_eq_true rfl

/-- A digest function defined on the one password of the example, where it is SHA-512. -/
def digestOfSecret (text : String) : Option String :=
  if text = "secret_salt_pepper" then
    some ("8dcb336231c247ff45031e2c5c53b497e4990e9b8a1d0507c2c1f7ae7f4359ce" ++
      "73c638e226bc1309f87afd25c86e5089bc002ac57d5a5bab56c7b9ec512b0be9")
  else
    none

/-- An authority whose users file knows only mallory. -/
def malloryAuthority : Authority where
  privateJwt := "key"
  users :=
    { pepper := "pepper"
      publishers := [
        { email := "mallory@example.org"
          identity := "mallory"
          pass := "8dcb336231c247ff45031e2c5c53b497e4990e9b8a1d0507c2c1f7ae7f4359ce" ++
            "73c638e226bc1309f87afd25c86e5089bc002ac57d5a5bab56c7b9ec512b0be9"
          salt := "salt" }] }

/-- With her own credentials and the claim `identity` mallory gets a token that verifies as
    the victim. -/
theorem issued_identity_forged :
    getUser digestOfSecret malloryAuthority.users "mallory" "secret" =
        some ⟨"mallory@example.org", "mallory"⟩ ∧
      ¬IdentityPreserved keyedJwt digestOfSecret malloryAuthority "key.pub" "mallory" "secret"
        (.object [("identity", .string "victim")]) 0 0 1 ⟨"mallory@example.org", "mallory"⟩ := by
  refine ⟨by decide, fun hpreserved => ?_⟩
  have hvictim := hpreserved
    (keyedJwt.sign "key" (Authority.payload ⟨"mallory@example.org", "mallory"⟩
      (.object [("identity", .string "victim")]) 0 0))
    ⟨"victim", (Authority.payload ⟨"mallory@example.org", "mallory"⟩
      (.object [("identity", .string "victim")]) 0 0).toJson⟩ rfl rfl
  exact absurd hvictim (by decide)

/-- What mallory sends along for a tunnel of hers, with her own identity. -/
def claimsOfMallory : Json :=
  .object [
    ("hiddenPort", .number 80),
    ("identity", .string "mallory"),
    ("publicPort", .number 8080),
    ("serviceId", .string "s"),
    ("tunnelId", .string "c")]

/-- With these claims mallory stays mallory. -/
theorem issued_identity_preserved_iff_ownIdentity :
    IdentityPreserved keyedJwt digestOfSecret malloryAuthority "key.pub" "mallory" "secret"
      claimsOfMallory 0 0 1 ⟨"mallory@example.org", "mallory"⟩ := by
  refine (issued_identity_preserved_iff keyedJwt digestOfSecret malloryAuthority "key.pub"
    (keyedJwt_roundTrip "key") "mallory" "secret" claimsOfMallory 0 0 1
    ⟨"mallory@example.org", "mallory"⟩ (by decide)).mpr (.inl fun identity hidentity => ?_)
  exact (Json.string.inj (Option.some.inj hidentity)).symm

end TunnelBore.Broker
