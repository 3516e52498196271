import TunnelBore.Broker.Authenticator
import TunnelBore.Broker.Preamble
import TunnelBore.Publisher.ControlRead

namespace TunnelBore

/-!
# What the credentials of a publisher are good for

A publisher has one name and one password.  With them it asks the authority for the token of its
control connection, and for a signed token for each tunnel; the broker reads an identity from
both, and links a connection only if the two are the same.

* `Broker.PageAndControlProvider.publisher` — who gets a control connection;
* `Wire.control_connection_iff` — from the credentials to the control connection;
* `Wire.tunnel_connection_iff` — from the credentials, and the claims that are sent along, to
  what the broker does with the first read of the tunnel's connection;
* `Wire.own_tunnel_linked` — with the claims that the publisher sends, a tunnel of its own;
* `Wire.chosen_tunnel_linked` — with claims of the sender's choice, any tunnel of anybody.
-/

namespace Broker

/-- What becomes of a request for a control connection. -/
inductive ControlUpgrade
  /-- `closeWithFailure`. -/
  | rejected (reason : String)
  /-- The session that is made has this identity. -/
  | upgraded (identity : String)
  deriving DecidableEq, Repr

/-- `PageAndControlProvider::publisher`, where the upgrade succeeds. -/
def PageAndControlProvider.publisher (base64Decode : Bytes → Bytes) (jwt : Jwt Bytes)
    (publicJwt : String) (now : Int) (bearerAuth : Option Bytes) : ControlUpgrade :=
  match bearerAuth with
  | none           => .rejected "Missing bearer auth."
  | some tokenData =>
    match verifyPublisherToken jwt publicJwt now (base64Decode tokenData) with
    | none       => .rejected "Token was rejected."
    | some token => .upgraded token.identity

/-- The session has the identity of the token. -/
theorem PageAndControlProvider.publisher_upgraded_iff {base64Decode : Bytes → Bytes}
    {jwt : Jwt Bytes} {publicJwt : String} {now : Int} {tokenData : Bytes} {identity : String} :
    PageAndControlProvider.publisher base64Decode jwt publicJwt now (some tokenData) =
        .upgraded identity ↔
      ∃ token, verifyPublisherToken jwt publicJwt now (base64Decode tokenData) = some token ∧
        token.identity = identity := by
  unfold PageAndControlProvider.publisher
  cases h : verifyPublisherToken jwt publicJwt now (base64Decode tokenData) with
  | none => simp [h]
  | some token => simp [h]

/-! ### What the broker reads from a token of the authority -/

section
variable {jwt : Jwt Bytes} {authority : Authority} {publicJwtKey : String} {user : User}
variable {claims : Json} {issuedAt now later : Int} {token : PublisherToken}

/-- The authority sets no claim `tunnelId`. -/
theorem lookup_basePayload_tunnelId :
    (Authority.basePayload user issuedAt now).lookup "tunnelId" = none := by
  unfold Authority.basePayload
  rw [ClaimMap.lookup_assign_of_ne _ (by decide), ClaimMap.lookup_assign_of_ne _ (by decide),
    ClaimMap.lookup_assign_of_ne _ (by decide), ClaimMap.lookup_assign_of_ne _ (by decide)]
  rfl

/-- The tunnel that a payload names is the one in the claims that were sent along. -/
theorem find_tunnelId_payload :
    (Authority.payload user claims issuedAt now).toJson.find "tunnelId" =
      claimed claims "tunnelId" := by
  rw [ClaimMap.find_toJson, lookup_payload, lookup_basePayload_tunnelId, Option.or_none]

/-- A payload is read back from the token that is signed for it. -/
structure Jwt.Keeps (jwt : Jwt Bytes) (privateKey publicKey : String) (payload : ClaimMap) :
    Prop where
  decode_sign : jwt.decode (jwt.sign privateKey payload) = some payload
  signatureValid_sign : jwt.signatureValid publicKey (jwt.sign privateKey payload) = true

/-- **What the broker reads from a token of the authority**: it is in date, the claims name no
    other issuer, and the identity is theirs, or else that of the user. -/
theorem verify_payload_iff (hkeeps : jwt.Keeps authority.privateJwt publicJwtKey
    (Authority.payload user claims issuedAt now)) :
    verifyPublisherToken jwt publicJwtKey later
        (jwt.sign authority.privateJwt (Authority.payload user claims issuedAt now)) =
          some token ↔
      DatesAccepted jwt claims issuedAt now later ∧
        (∀ issuer, claimed claims "iss" = some issuer → issuer = .string "tunnelBore") ∧
        (claimed claims "identity").getD (.string user.identity) = .string token.identity ∧
        token.otherClaims = (Authority.payload user claims issuedAt now).toJson := by
  have hor : (claimed claims "identity").or (some (.string user.identity)) =
      some ((claimed claims "identity").getD (.string user.identity)) := by
    cases claimed claims "identity" <;> rfl
  rw [verifyPublisherToken_eq_some, hkeeps.decode_sign]
  simp only [Option.some.injEq, exists_eq_left', Jwt.verify, hkeeps.signatureValid_sign,
    Bool.true_and, Bool.and_eq_true, and_assoc]
  rw [datesValid_payload, issuerMatches_payload, lookup_payload, lookup_basePayload_identity,
    hor, Option.some.injEq]

end

end Broker

namespace Publisher

open TunnelBore.Broker (HandledRequest)

/-- The token that `authenticate` gets for the control connection. -/
def authToken (handled : HandledRequest Bytes) : Option Bytes :=
  match handled.sent with
  | [.ok _ (.text token)] => some token
  | _ => none

/-- The token that `onNewTunnel` gets for a tunnel. -/
def tunnelToken (handled : HandledRequest Bytes) : Option Bytes :=
  match handled.sent with
  | [.ok _ (.object key token)] => if key = "token" then some token else none
  | _ => none

end Publisher

namespace Wire

open TunnelBore.Broker
open TunnelBore.Publisher (signRequest prefixedToken)

/-- The broker and the libraries that the two programs call. -/
structure Deployment where
  jwt : Jwt Bytes
  sha512 : String → Option String
  authority : Authority
  publicJwt : String
  /-- `json::dump`. -/
  dump : Json → Bytes
  /-- `json::parse`. -/
  parse : Bytes → Except Unit Json
  base64Encode : Bytes → Bytes
  base64Decode : Bytes → Bytes
  /-- `bearerAuth()` of a request, from the value of its header. -/
  bearerAuth : Bytes → Option Bytes

namespace Deployment

variable (d : Deployment) (name password : String) (issuedAt now later : Int)

/-- The header with the token of a control connection is read back. -/
structure Headers : Prop where
  base64 : ∀ text, d.base64Decode (d.base64Encode text) = text
  bearer : ∀ text, d.bearerAuth (asciiString "Bearer " ++ text) = some text

/-- What is signed of these claims, for whoever has the name and the password, is read back. -/
def Signs (claims : Json) : Prop :=
  ∀ user, getUser d.sha512 d.authority.users name password = some user →
    d.jwt.Keeps d.authority.privateJwt d.publicJwt (Authority.payload user claims issuedAt now)

/-- `authenticate`, then `connectToBroker`; `none` when there is no token to connect with. -/
def controlConnection : Option ControlUpgrade :=
  (Publisher.authToken
    (Authenticator.auth d.jwt d.sha512 d.authority issuedAt now (some ⟨name, password⟩))).map
      fun token => PageAndControlProvider.publisher d.base64Decode d.jwt d.publicJwt later
        (d.bearerAuth (asciiString "Bearer " ++ d.base64Encode token))

/-- The token that the authority gives for a body. -/
def tunnelToken (body : Bytes) : Option Bytes :=
  Publisher.tunnelToken (Authenticator.signJson d.jwt d.sha512 d.parse d.authority issuedAt now
    (some ⟨name, password⟩) ⟨some body, true⟩)

/-- What the broker does with the first read of a connection that sends a token, at a control
    session of this identity. -/
def firstRead (t : TunnelSession) (identity : String) (token : Bytes) : PeekAction :=
  (t.peekHandler (some ⟨identity, verifyPublisherToken d.jwt d.publicJwt later⟩) false
    (prefixedToken token)).2

end Deployment

/-- The claims of a user's token, as the broker reads them: they link `client` at a control
    session of `identity`. -/
structure MayLink (d : Deployment) (user : User) (claims : Json) (issuedAt now later : Int)
    (identity : String) (client : TunnelId) : Prop where
  dates : DatesAccepted d.jwt claims issuedAt now later
  issuer : ∀ issuer, claimed claims "iss" = some issuer → issuer = .string "tunnelBore"
  identity : (claimed claims "identity").getD (.string user.identity) = .string identity
  client : claimed claims "tunnelId" = some (.string client)

/-- The dates that the authority sets are accepted. -/
def InDate (d : Deployment) (issuedAt now later : Int) : Prop :=
  DatesAccepted d.jwt .null issuedAt now later

variable {d : Deployment} {name password : String} {issuedAt now later : Int}

/-- The token for the control connection. -/
theorem authToken_eq_some {token : Bytes} :
    Publisher.authToken (Authenticator.auth d.jwt d.sha512 d.authority issuedAt now
        (some ⟨name, password⟩)) = some token ↔
      ∃ user, getUser d.sha512 d.authority.users name password = some user ∧
        d.jwt.sign d.authority.privateJwt (Authority.payload user .null issuedAt now) = token := by
  unfold Authenticator.auth Authenticator.respond Authority.authenticateThenSign
  cases h : getUser d.sha512 d.authority.users name password with
  | none => simp [h, Publisher.authToken, Authenticator.reject]
  | some user => simp [h, Publisher.authToken]

/-- The token for a tunnel, for a body that is read as these claims. -/
theorem tunnelToken_eq_some {body token : Bytes} {claims : Json}
    (hparse : d.parse body = .ok claims) :
    d.tunnelToken name password issuedAt now body = some token ↔
      ∃ user, getUser d.sha512 d.authority.users name password = some user ∧
        d.jwt.sign d.authority.privateJwt (Authority.payload user claims issuedAt now) = token := by
  unfold Deployment.tunnelToken Authenticator.signJson Authenticator.signBody
  simp only [if_true, hparse]
  unfold Authenticator.respond Authority.authenticateThenSign
  cases getUser d.sha512 d.authority.users name password with
  | none => simp [Publisher.tunnelToken, Authenticator.reject]
  | some user => simp [Publisher.tunnelToken]

/-- **Who gets a control connection**: the users, each with the identity in the users file. -/
theorem control_connection_iff (hheaders : d.Headers)
    (hsigns : d.Signs name password issuedAt now .null) (identity : String) :
    d.controlConnection name password issuedAt now later = some (.upgraded identity) ↔
      ∃ user, getUser d.sha512 d.authority.users name password = some user ∧
        InDate d issuedAt now later ∧ user.identity = identity := by
  -- what the broker makes of the token of a user, who has sent no claims along
  have hread : ∀ user, getUser d.sha512 d.authority.users name password = some user →
      (PageAndControlProvider.publisher d.base64Decode d.jwt d.publicJwt later
        (d.bearerAuth (asciiString "Bearer " ++ d.base64Encode (d.jwt.sign
          d.authority.privateJwt (Authority.payload user .null issuedAt now)))) =
            .upgraded identity ↔ InDate d issuedAt now later ∧ user.identity = identity) := by
    intro user huser
    have hkeeps := hsigns user huser
    rw [hheaders.bearer, PageAndControlProvider.publisher_upgraded_iff, hheaders.base64]
    constructor
    · rintro ⟨token, hverify, rfl⟩
      obtain ⟨hdates, -, hidentity, -⟩ := (verify_payload_iff hkeeps).mp hverify
      exact ⟨hdates, Json.string.inj hidentity⟩
    · rintro ⟨hdates, rfl⟩
      refine ⟨⟨user.identity, (Authority.payload user .null issuedAt now).toJson⟩,
        (verify_payload_iff hkeeps).mpr ?_, rfl⟩
      exact ⟨hdates, fun issuer h => (by cases h), rfl, rfl⟩
  unfold Deployment.controlConnection
  simp only [Option.map_eq_some_iff, authToken_eq_some]
  constructor
  · rintro ⟨_, ⟨user, huser, rfl⟩, hupgraded⟩
    exact ⟨user, huser, (hread user huser).mp hupgraded⟩
  · rintro ⟨user, huser, hdates⟩
    exact ⟨_, ⟨user, huser, rfl⟩, (hread user huser).mpr hdates⟩

/-- The broker's first read of a connection that sends a token. -/
theorem connectTunnels_prefixedToken_iff (t : TunnelSession) (view : ControlView) {token : Bytes}
    (hfit : (prefixedToken token).length ≤ 4096) {client : TunnelId} :
    (t.peekHandler (some view) false (prefixedToken token)).2 = .connectTunnels client ↔
      ∃ verified, view.verifyPublisherIdentity token = some verified ∧
        verified.identity = view.identity ∧ verified.claimedTunnelId = some client := by
  have hcons : prefixedToken token = publisherToBrokerPrefix ++ ascii ':' :: token := by
    show publisherToBrokerPrefix ++ asciiString ":" ++ token = _
    rw [List.append_assoc]
    rfl
  rw [hcons] at hfit ⊢
  rw [peekHandler_connectTunnels, peekedToken_eq hfit]
  constructor
  · rintro ⟨_, verified, -, hview, -, -, -, hverify, hidentity, hclaim⟩
    obtain rfl := Option.some.inj hview
    exact ⟨verified, hverify, hidentity, hclaim⟩
  · rintro ⟨verified, hverify, hidentity, hclaim⟩
    refine ⟨view, verified, rfl, rfl, by simp, ?_, ?_, hverify, hidentity, hclaim⟩
    · exact (List.prefix_append _ _).trans (List.prefix_append _ _)
    · unfold TunnelSession.received
      simp only [List.length_append, List.length_cons]
      omega

/-- The broker's first read of a connection that sends the token of a user. -/
theorem firstRead_iff {user : User} {claims : Json} {token : Bytes}
    (hkeeps : d.jwt.Keeps d.authority.privateJwt d.publicJwt
      (Authority.payload user claims issuedAt now))
    (htoken : d.jwt.sign d.authority.privateJwt (Authority.payload user claims issuedAt now) =
      token)
    (hfit : (prefixedToken token).length ≤ 4096) (t : TunnelSession) (identity : String)
    (client : TunnelId) :
    d.firstRead later t identity token = .connectTunnels client ↔
      MayLink d user claims issuedAt now later identity client := by
  unfold Deployment.firstRead
  rw [connectTunnels_prefixedToken_iff t _ hfit, ← htoken]
  constructor
  · rintro ⟨read, hverify, hidentity, hclaim⟩
    obtain ⟨hdates, hissuer, hread, hclaims⟩ := (verify_payload_iff hkeeps).mp hverify
    unfold PublisherToken.claimedTunnelId at hclaim
    rw [hclaims, find_tunnelId_payload] at hclaim
    obtain ⟨value, hvalue, hstring⟩ := Option.bind_eq_some_iff.mp hclaim
    exact
      { dates := hdates
        issuer := hissuer
        identity := by rw [hread, hidentity]
        client := by rw [hvalue, Json.getString_eq_some.mp hstring] }
  · intro h
    refine ⟨⟨identity, (Authority.payload user claims issuedAt now).toJson⟩,
      (verify_payload_iff hkeeps).mpr ⟨h.dates, h.issuer, h.identity, rfl⟩, rfl, ?_⟩
    show ((Authority.payload user claims issuedAt now).toJson.find "tunnelId").bind
      Json.getString = some client
    rw [find_tunnelId_payload, h.client]
    rfl

/-- **What a signed token links**, for any claims that are sent along. -/
theorem tunnel_connection_iff {body : Bytes} {claims : Json}
    (hparse : d.parse body = .ok claims) (hsigns : d.Signs name password issuedAt now claims)
    (hfit : ∀ token, d.tunnelToken name password issuedAt now body = some token →
      (prefixedToken token).length ≤ 4096)
    (t : TunnelSession) (identity : String) (client : TunnelId) :
    (∃ token, d.tunnelToken name password issuedAt now body = some token ∧
      d.firstRead later t identity token = .connectTunnels client) ↔
      ∃ user, getUser d.sha512 d.authority.users name password = some user ∧
        MayLink d user claims issuedAt now later identity client := by
  constructor
  · rintro ⟨token, htoken, hlink⟩
    obtain ⟨user, huser, hsigned⟩ := (tunnelToken_eq_some hparse).mp htoken
    exact ⟨user, huser,
      (firstRead_iff (hsigns user huser) hsigned (hfit token htoken) _ _ _).mp hlink⟩
  · rintro ⟨user, huser, hmay⟩
    have htoken : d.tunnelToken name password issuedAt now body =
        some (d.jwt.sign d.authority.privateJwt (Authority.payload user claims issuedAt now)) :=
      (tunnelToken_eq_some hparse).mpr ⟨user, huser, rfl⟩
    exact ⟨_, htoken, (firstRead_iff (hsigns user huser) rfl (hfit _ htoken) _ _ _).mpr hmay⟩

/-! ### The claims of the publisher, and others -/

/-- The claims that `onNewTunnel` sends along link the tunnel that was asked for, at the control
    session of the user. -/
theorem mayLink_signRequest_iff {user : User} {serviceId tunnelId : String}
    {hiddenPort publicPort : Int} {identity : String} {client : TunnelId} :
    MayLink d user (signRequest serviceId tunnelId hiddenPort publicPort) issuedAt now later
        identity client ↔
      InDate d issuedAt now later ∧ user.identity = identity ∧ tunnelId = client := by
  constructor
  · intro h
    exact ⟨h.dates, Json.string.inj h.identity, Json.string.inj (Option.some.inj h.client)⟩
  · rintro ⟨hdates, rfl, rfl⟩
    exact ⟨hdates, fun issuer h => (by cases h), rfl, rfl⟩

/-- Claims that name an identity and a tunnel. -/
def chosenClaims (identity : String) (client : TunnelId) : Json :=
  .object [("identity", .string identity), ("tunnelId", .string client)]

/-- They link that tunnel at the control session of that identity, whoever sends them. -/
theorem mayLink_chosenClaims_iff {user : User} {victim identity : String}
    {tunnelId client : TunnelId} :
    MayLink d user (chosenClaims victim tunnelId) issuedAt now later identity client ↔
      InDate d issuedAt now later ∧ victim = identity ∧ tunnelId = client := by
  constructor
  · intro h
    exact ⟨h.dates, Json.string.inj h.identity, Json.string.inj (Option.some.inj h.client)⟩
  · rintro ⟨hdates, rfl, rfl⟩
    exact ⟨hdates, fun issuer h => (by cases h), rfl, rfl⟩

/-- **The tunnels of a publisher**: whoever has got a control connection gets, for a tunnel it is
    told of, a token that links this tunnel at a control session of its own identity, and no other
    tunnel at no other session. -/
theorem own_tunnel_linked {identity : String} {issuedAt' now' later' : Int}
    (hheaders : d.Headers) (hnull : d.Signs name password issuedAt' now' .null)
    (hconnected : d.controlConnection name password issuedAt' now' later' =
      some (.upgraded identity))
    (serviceId tunnelId : String) (hiddenPort publicPort : Int)
    (hparse : d.parse (d.dump (signRequest serviceId tunnelId hiddenPort publicPort)) =
      .ok (signRequest serviceId tunnelId hiddenPort publicPort))
    (hsigns : d.Signs name password issuedAt now
      (signRequest serviceId tunnelId hiddenPort publicPort))
    (hfit : ∀ token, d.tunnelToken name password issuedAt now
      (d.dump (signRequest serviceId tunnelId hiddenPort publicPort)) = some token →
        (prefixedToken token).length ≤ 4096)
    (hdate : InDate d issuedAt now later) :
    ∃ token, d.tunnelToken name password issuedAt now
        (d.dump (signRequest serviceId tunnelId hiddenPort publicPort)) = some token ∧
      ∀ t other client, d.firstRead later t other token = .connectTunnels client ↔
        other = identity ∧ client = tunnelId := by
  obtain ⟨user, huser, -, rfl⟩ := (control_connection_iff hheaders hnull identity).mp hconnected
  have htoken : d.tunnelToken name password issuedAt now
      (d.dump (signRequest serviceId tunnelId hiddenPort publicPort)) =
        some (d.jwt.sign d.authority.privateJwt (Authority.payload user
          (signRequest serviceId tunnelId hiddenPort publicPort) issuedAt now)) :=
    (tunnelToken_eq_some hparse).mpr ⟨user, huser, rfl⟩
  refine ⟨_, htoken, fun t other client => ?_⟩
  rw [firstRead_iff (hsigns user huser) rfl (hfit _ htoken), mayLink_signRequest_iff]
  constructor
  · rintro ⟨-, rfl, rfl⟩
    exact ⟨rfl, rfl⟩
  · rintro ⟨rfl, rfl⟩
    exact ⟨hdate, rfl, rfl⟩

/-- **Any tunnel of anybody**: every user gets a token that links a tunnel of its choice at the
    control session of an identity of its choice. -/
theorem chosen_tunnel_linked {user : User} (victim : String) (tunnelId : TunnelId) {body : Bytes}
    (huser : getUser d.sha512 d.authority.users name password = some user)
    (hparse : d.parse body = .ok (chosenClaims victim tunnelId))
    (hsigns : d.Signs name password issuedAt now (chosenClaims victim tunnelId))
    (hfit : ∀ token, d.tunnelToken name password issuedAt now body = some token →
      (prefixedToken token).length ≤ 4096)
    (hdate : InDate d issuedAt now later) :
    ∃ token, d.tunnelToken name password issuedAt now body = some token ∧
      ∀ t, d.firstRead later t victim token = .connectTunnels tunnelId := by
  have htoken : d.tunnelToken name password issuedAt now body =
      some (d.jwt.sign d.authority.privateJwt
        (Authority.payload user (chosenClaims victim tunnelId) issuedAt now)) :=
    (tunnelToken_eq_some hparse).mpr ⟨user, huser, rfl⟩
  refine ⟨_, htoken, fun t => ?_⟩
  rw [firstRead_iff (hsigns user huser) rfl (hfit _ htoken), mayLink_chosenClaims_iff]
  exact ⟨hdate, rfl, rfl⟩

/-! ### A deployment with one user -/

/-- What is signed for Mallory: a control connection, and these claims. -/
def payloadsOfMallory (claims : Json) : List ClaimMap :=
  [Authority.payload ⟨"mallory@example.org", "mallory"⟩ .null 0 0,
    Authority.payload ⟨"mallory@example.org", "mallory"⟩ claims 0 0]

/-- The tokens of these payloads are valid, and no others. -/
def jwtOfMallory (claims : Json) : Jwt Bytes where
  sign _ payload := webToken payload.toJson
  decode tokenData := (payloadsOfMallory claims).find? fun payload =>
    webToken payload.toJson = tokenData
  signatureValid _ tokenData := (payloadsOfMallory claims).any fun payload =>
    webToken payload.toJson = tokenData
  datesAccepted _ _ _ _ := true

/-- Mallory is the only user, and the only body that is read is the text of these claims. -/
def deploymentOfMallory (claims : Json) (body : Bytes) : Deployment where
  jwt := jwtOfMallory claims
  sha512 := digestOfSecret
  authority := malloryAuthority
  publicJwt := "key.pub"
  dump := Json.dump
  parse text := if text = body then .ok claims else .error ()
  base64Encode text := text
  base64Decode text := text
  bearerAuth text := some (text.drop 7)

theorem headers_ofMallory (claims : Json) (body : Bytes) :
    (deploymentOfMallory claims body).Headers :=
  ⟨fun _ => rfl, fun _ => rfl⟩

theorem parse_ofMallory (claims : Json) (body : Bytes) :
    (deploymentOfMallory claims body).parse body = .ok claims := if_pos rfl

/-- Mallory is who has her name and password. -/
theorem getUser_mallory {user : User} (h : getUser digestOfSecret malloryAuthority.users "mallory"
    "secret" = some user) : user = ⟨"mallory@example.org", "mallory"⟩ := by
  have hmallory : getUser digestOfSecret malloryAuthority.users "mallory" "secret" =
      some ⟨"mallory@example.org", "mallory"⟩ := by decide
  exact Option.some.inj (h.symm.trans hmallory)

theorem signs_null_ofMallory (claims : Json) (body : Bytes) :
    (deploymentOfMallory claims body).Signs "mallory" "secret" 0 0 .null := by
  intro user huser
  rw [getUser_mallory huser]
  dsimp only [deploymentOfMallory, jwtOfMallory, payloadsOfMallory]
  constructor
  · dsimp only
    exact List.find?_cons_of_pos (decide_eq_true rfl)
  · exact List.any_eq_true.mpr ⟨_, List.mem_cons_self, decide_eq_true rfl⟩

/-- The claims are kept, as their token is not that of the control connection. -/
theorem signs_ofMallory {claims : Json} {body : Bytes}
    (hne : webToken (Authority.payload ⟨"mallory@example.org", "mallory"⟩ .null 0 0).toJson ≠
      webToken (Authority.payload ⟨"mallory@example.org", "mallory"⟩ claims 0 0).toJson) :
    (deploymentOfMallory claims body).Signs "mallory" "secret" 0 0 claims := by
  intro user huser
  rw [getUser_mallory huser]
  dsimp only [deploymentOfMallory, jwtOfMallory, payloadsOfMallory]
  constructor
  · dsimp only
    rw [List.find?_cons_of_neg (by simpa using hne)]
    exact List.find?_cons_of_pos (decide_eq_true rfl)
  · exact List.any_eq_true.mpr
      ⟨_, List.mem_cons_of_mem _ List.mem_cons_self, decide_eq_true rfl⟩

/-- Her tokens are short enough to be read at once. -/
theorem fits_ofMallory {claims : Json} {body : Bytes}
    (hshort : (prefixedToken (webToken
      (Authority.payload ⟨"mallory@example.org", "mallory"⟩ claims 0 0).toJson)).length ≤ 4096)
    (token : Bytes) (htoken : (deploymentOfMallory claims body).tunnelToken "mallory" "secret" 0 0
      body = some token) : (prefixedToken token).length ≤ 4096 := by
  obtain ⟨user, huser, rfl⟩ := (tunnelToken_eq_some (parse_ofMallory claims body)).mp htoken
  rw [getUser_mallory huser]
  exact hshort

/-- Mallory's control connection and a tunnel of hers. -/
theorem own_tunnel_linked_mallory :
    let d := deploymentOfMallory (signRequest "s" "c" 80 8080) (signRequest "s" "c" 80 8080).dump
    ∃ token, d.tunnelToken "mallory" "secret" 0 0 (signRequest "s" "c" 80 8080).dump =
        some token ∧
      ∀ t other client, d.firstRead 1 t other token = .connectTunnels client ↔
        other = "mallory" ∧ client = "c" := by
  intro d
  have hconnected : d.controlConnection "mallory" "secret" 0 0 1 = some (.upgraded "mallory") := by
    decide +kernel
  exact own_tunnel_linked (headers_ofMallory _ _) (signs_null_ofMallory _ _) hconnected "s" "c" 80
    8080 (parse_ofMallory _ _) (signs_ofMallory (by decide +kernel))
    (fits_ofMallory (by decide +kernel)) rfl

/-- With claims of her choice she is linked to the victim's client. -/
theorem tunnel_connection_iff_victim :
    let d := deploymentOfMallory (chosenClaims "victim" "c") (chosenClaims "victim" "c").dump
    ∃ token, d.tunnelToken "mallory" "secret" 0 0 (chosenClaims "victim" "c").dump = some token ∧
      d.firstRead 1 {} "victim" token = .connectTunnels "c" := by
  intro d
  have huser : getUser digestOfSecret malloryAuthority.users "mallory" "secret" =
      some ⟨"mallory@example.org", "mallory"⟩ := by decide
  exact (tunnel_connection_iff (parse_ofMallory _ _) (signs_ofMallory (by decide +kernel))
    (fits_ofMallory (by decide +kernel)) {} "victim" "c").mpr
    ⟨_, huser, mayLink_chosenClaims_iff.mpr ⟨rfl, rfl, rfl⟩⟩

end Wire

end TunnelBore
