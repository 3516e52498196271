import TunnelBore.Broker.Authority
import TunnelBore.Shared.Bytes

namespace TunnelBore.Broker

/-!
# The authenticator: who gets a token

`/api/auth` and `/api/auth/sign-json` hand out tokens for basic credentials; the second one signs
the claims in the body of the request, which it reads first.  `request.basicAuth()` is empty when
the header is missing, and the line that logs this reads the name of the user out of it.

* `Controlled` — a token for whom it is due, a rejection for everybody else, and nothing is read
  of credentials that are absent;
* `controlled_iff` — exactly the requests with credentials are answered so, if the body arrives.
-/

/-- What `request.basicAuth()` holds. -/
structure BasicAuth where
  user : String
  password : String
  deriving DecidableEq, Repr

/-- The body of a response with a token. -/
inductive TokenBody (Token : Type)
  | text (token : Token)
  /-- An object with one member. -/
  | object (key : String) (token : Token)
  deriving DecidableEq, Repr

/-- The token in a body. -/
def TokenBody.token {Token : Type} : TokenBody Token → Token
  | .text token     => token
  | .object _ token => token

/-- A response. -/
inductive HttpResponse (Token : Type)
  /-- `status::ok` with a body. -/
  | ok (contentType : String) (body : TokenBody Token)
  /-- `rejectAuthorization`. -/
  | rejectAuthorization (authenticate : String)
  deriving DecidableEq, Repr

/-- What a handler does. -/
structure HandledRequest (Token : Type) where
  sent : List (HttpResponse Token) := []
  /-- The members of `*basic` that were read while `basic` is empty. -/
  absentReads : List String := []
  deriving DecidableEq, Repr

/-- How the body of a request is read: it arrives or the read fails, and the authenticator still
    exists or not. -/
structure BodyRead where
  body : Option Bytes
  alive : Bool := true
  deriving DecidableEq, Repr

/-- A request to one of the two paths. -/
inductive TokenRequest
  | auth (basic : Option BasicAuth)
  | signJson (basic : Option BasicAuth) (read : BodyRead)
  deriving DecidableEq, Repr

namespace Authenticator

/-- The rejection that both handlers send. -/
def reject {Token : Type} : HttpResponse Token := .rejectAuthorization "Basic realm=tunnelBore"

variable {ε Token : Type} (jwt : Jwt Token) (sha512 : String → Option String)
variable (parse : Bytes → Except ε Json) (authority : Authority) (issuedAt now : Int)

/-- The end of both handlers: the credentials are checked, and the claims signed. -/
def respond (basic : BasicAuth) (claims : Json) (body : Token → TokenBody Token) :
    HandledRequest Token :=
  match authority.authenticateThenSign jwt sha512 basic.user basic.password claims issuedAt now with
  | none       => { sent := [reject] }
  | some token => { sent := [.ok "application/json" (body token)] }

/-- `Authenticator::auth`. -/
def auth (basic : Option BasicAuth) : HandledRequest Token :=
  match basic with
  -- the line that logs the failure reads `basic->user`
  | none       => { sent := [reject], absentReads := ["user"] }
  | some basic => respond jwt sha512 authority issuedAt now basic .null .text

/-- The continuation of `signJson` with the body. -/
def signBody (basic : BasicAuth) (body : Bytes) : HandledRequest Token :=
  match parse body with
  | .error _   => { sent := [reject] }
  | .ok claims => respond jwt sha512 authority issuedAt now basic claims (.object "token")

/-- `Authenticator::signJson`. -/
def signJson (basic : Option BasicAuth) (read : BodyRead) : HandledRequest Token :=
  match basic with
  | none       => { sent := [reject], absentReads := ["user"] }
  | some basic =>
    match read.body with
    | none      => {}
    | some body =>
      if read.alive then signBody jwt sha512 parse authority issuedAt now basic body else {}

/-- The handler of a request. -/
def handle : TokenRequest → HandledRequest Token
  | .auth basic          => auth jwt sha512 authority issuedAt now basic
  | .signJson basic read => signJson jwt sha512 parse authority issuedAt now basic read

end Authenticator

/-! ### Access control -/

/-- The credentials of a request. -/
def TokenRequest.basic : TokenRequest → Option BasicAuth
  | .auth basic       => basic
  | .signJson basic _ => basic

/-- The body, if the path reads one, is JSON. -/
def TokenRequest.Parses {ε : Type} (parse : Bytes → Except ε Json) : TokenRequest → Prop
  | .auth _          => True
  | .signJson _ read => ∃ body claims, read.body = some body ∧ parse body = .ok claims

/-- The body, if the path reads one, arrives while the authenticator exists. -/
def TokenRequest.Arrives : TokenRequest → Prop
  | .auth _          => True
  | .signJson _ read => read.body.isSome = true ∧ read.alive = true

section
variable {ε Token : Type} (jwt : Jwt Token) (sha512 : String → Option String)
variable (parse : Bytes → Except ε Json) (authority : Authority) (issuedAt now : Int)
variable (request : TokenRequest)

/-- A token is due: the credentials are those of a user, and the body parses. -/
def Authorised : Prop :=
  ∃ basic user, request.basic = some basic ∧
    getUser sha512 authority.users basic.user basic.password = some user ∧
    request.Parses parse

/-- Exactly the authorised get a response with a token; everybody else is rejected; absent
    credentials are not read. -/
structure Controlled (handled : HandledRequest Token) : Prop where
  token : (∃ contentType body, handled.sent = [.ok contentType body]) ↔
    Authorised sha512 parse authority request
  rejection : ¬Authorised sha512 parse authority request →
    handled.sent = [Authenticator.reject]
  reads : handled.absentReads = []

variable {jwt sha512 parse authority issuedAt now request}

/-- A token is signed for the users that `getUser` accepts. -/
theorem authenticateThenSign_isSome_iff {name password : String} {claims : Json} :
    (authority.authenticateThenSign jwt sha512 name password claims issuedAt now).isSome = true ↔
      ∃ user, getUser sha512 authority.users name password = some user := by
  unfold Authority.authenticateThenSign
  cases getUser sha512 authority.users name password with
  | none => simp
  | some user => simp

/-- A rejection is right when no token is due. -/
theorem Controlled.of_reject (h : ¬Authorised sha512 parse authority request) :
    Controlled sha512 parse authority request ({ sent := [Authenticator.reject] } :
      HandledRequest Token) where
  token := iff_of_false (by simp [Authenticator.reject]) h
  rejection _ := rfl
  reads := rfl

/-- A token is right when it is due. -/
theorem Controlled.of_token (h : Authorised sha512 parse authority request)
    (contentType : String) (body : TokenBody Token) :
    Controlled sha512 parse authority request { sent := [.ok contentType body] } where
  token := iff_of_true ⟨_, _, rfl⟩ h
  rejection hnot := absurd h hnot
  reads := rfl

/-- No response at all is never right. -/
theorem not_controlled_of_silence :
    ¬Controlled sha512 parse authority request ({} : HandledRequest Token) := by
  intro h
  by_cases hauthorised : Authorised sha512 parse authority request
  · obtain ⟨_, _, hsent⟩ := h.token.mpr hauthorised
    cases hsent
  · cases h.rejection hauthorised

/-- With a body that parses both handlers answer as is due. -/
theorem controlled_respond {basic : BasicAuth} (hbasic : request.basic = some basic)
    (hparses : request.Parses parse) (claims : Json) (body : Token → TokenBody Token) :
    Controlled sha512 parse authority request
      (Authenticator.respond jwt sha512 authority issuedAt now basic claims body) := by
  have hsigned : (authority.authenticateThenSign jwt sha512 basic.user basic.password claims
      issuedAt now).isSome = true ↔ _ := authenticateThenSign_isSome_iff
  unfold Authenticator.respond
  cases htoken : authority.authenticateThenSign jwt sha512 basic.user basic.password claims
      issuedAt now with
  | none =>
    apply Controlled.of_reject
    rintro ⟨other, user, hother, huser, -⟩
    obtain rfl := Option.some.inj (hbasic.symm.trans hother)
    rw [htoken] at hsigned
    exact absurd (hsigned.mpr ⟨user, huser⟩) (by simp)
  | some token =>
    rw [htoken] at hsigned
    obtain ⟨user, huser⟩ := hsigned.mp rfl
    exact Controlled.of_token ⟨basic, user, hbasic, huser, hparses⟩ _ _

/-- **Who is answered as due**: the requests with credentials, if the body arrives. -/
theorem controlled_iff :
    Controlled sha512 parse authority request
        (Authenticator.handle jwt sha512 parse authority issuedAt now request) ↔
      request.basic ≠ none ∧ request.Arrives := by
  cases request with
  | auth basic =>
    cases basic with
    | none =>
      refine iff_of_false (fun h => ?_) fun h => h.1 rfl
      cases h.reads
    | some basic =>
      refine iff_of_true ?_ ⟨by simp [TokenRequest.basic], trivial⟩
      have hparses : TokenRequest.Parses parse (.auth (some basic)) := trivial
      exact controlled_respond (by rfl) hparses _ _
  | signJson basic read =>
    cases basic with
    | none =>
      refine iff_of_false (fun h => ?_) fun h => h.1 rfl
      cases h.reads
    | some basic =>
      obtain ⟨body, alive⟩ := read
      cases body with
      | none =>
        exact iff_of_false not_controlled_of_silence fun h => absurd h.2.1 (by simp)
      | some body =>
        cases alive with
        | false => exact iff_of_false not_controlled_of_silence fun h => absurd h.2.2 (by simp)
        | true =>
          refine iff_of_true ?_ ⟨by simp [TokenRequest.basic], rfl, rfl⟩
          cases hparse : parse body with
          | error e =>
            -- what does not parse is rejected before anybody looks at the credentials
            have hsent : Authenticator.handle jwt sha512 parse authority issuedAt now
                (.signJson (some basic) ⟨some body, true⟩) =
                  { sent := [Authenticator.reject] } := by
              simp [Authenticator.handle, Authenticator.signJson, Authenticator.signBody, hparse]
            rw [hsent]
            apply Controlled.of_reject
            rintro ⟨_, _, _, _, other, claims, hbody, hok⟩
            obtain rfl := Option.some.inj hbody
            rw [hparse] at hok
            cases hok
          | ok claims =>
            show Controlled sha512 parse authority _ (Authenticator.signBody jwt sha512 parse
              authority issuedAt now basic body)
            unfold Authenticator.signBody
            rw [hparse]
            have hparses : TokenRequest.Parses parse (.signJson (some basic) ⟨some body, true⟩) :=
              ⟨body, claims, rfl, hparse⟩
            exact controlled_respond (by rfl) hparses _ _

end

/-- Without the header the name of a user that is not there is read. -/
theorem absent_user_read :
    ¬Controlled digestOfSecret (fun _ => (.error () : Except Unit Json)) malloryAuthority
      (.auth none)
      (Authenticator.handle keyedJwt digestOfSecret (fun _ => (.error () : Except Unit Json))
        malloryAuthority 0 0 (.auth none)) := by
  intro h
  exact absurd h.reads (by decide)

end TunnelBore.Broker
