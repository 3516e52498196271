import TunnelBore.TypeScript.Broker

namespace TunnelBore.TypeScript

/-!
# A new tunnel of the TypeScript publisher

`onNewTunnel` looks for the service under the hidden port of the message, has the authority sign a
token, and creates the session in the listener for the data of the response.  It does not return
after it has replied that there is no such service, and the listener looks for it again.

* `NewTunnelRun.start`, `answer` — the handler of the message and the callbacks of the request;
* `OneOutcome` — one reply and nothing else, or no reply and one session;
* `oneOutcome_iff` — the tables, messages and answers for which it is so.

`JSON.parse` and the text of a value are parameters; `none` says that they throw.  An exception in
a callback ends the process.
-/

/-! ### Sessions -/

/-- `TcpSession`. -/
structure TcpSession where
  hiddenPort : Nat
  hiddenHost : String
  remotePort : Nat
  brokerHost : String
  token : String
  deriving DecidableEq, Repr

/-- `dgram.SocketType`. -/
inductive UdpSocketType
  | udp4
  | udp6
  deriving DecidableEq, Repr

/-- `UdpSession`, with the token that its constructor is given. -/
structure UdpSession where
  socketType : UdpSocketType
  publicPort : Nat
  hiddenPort : Nat
  brokerHost : String
  token : String
  deriving DecidableEq, Repr

/-- A session of a `LocalService`. -/
inductive LocalSession
  | tcp (session : TcpSession)
  | udp (session : UdpSession)
  deriving DecidableEq, Repr

namespace LocalSession

/-- The port of the broker. -/
def publicPort : LocalSession → Nat
  | .tcp session => session.remotePort
  | .udp session => session.publicPort

/-- The host that what comes from the broker is sent to. -/
def hiddenHost : LocalSession → String
  | .tcp session => session.hiddenHost
  | .udp _       => "localhost"

def hiddenPort : LocalSession → Nat
  | .tcp session => session.hiddenPort
  | .udp session => session.hiddenPort

def token : LocalSession → String
  | .tcp session => session.token
  | .udp session => session.token

end LocalSession

/-- The constructor of `TcpSession`; it throws when the port of the broker is none. -/
def TcpSession.make (publicPort hiddenPort : Nat) (brokerHost token : String)
    (hiddenHost : Option String) : Option TcpSession :=
  if publicPort < 65536 then some
    { hiddenPort := hiddenPort
      hiddenHost := (hiddenHost.filter fun host => host ≠ "").getD "localhost"
      remotePort := publicPort
      brokerHost := brokerHost
      token := token }
  else none

/-- The `switch` of the constructor of `UdpSession`. -/
def udpSocketType (socketType : String) : Option UdpSocketType :=
  if socketType.toLower = "udp4" then some .udp4
  else if socketType.toLower = "udp6" then some .udp6
  else none

/-- The constructor of `UdpSession`; `dgram.createSocket` throws when there is no type. -/
def UdpSession.make (publicPort hiddenPort : Nat) (brokerHost socketType token : String) :
    Option UdpSession :=
  (udpSocketType socketType).map fun type =>
    { socketType := type
      publicPort := publicPort
      hiddenPort := hiddenPort
      brokerHost := brokerHost
      token := token }

def p2bTunnelPrefix : String := "TUNNEL_BORE_P2B"

/-- `LocalService::createSession`. -/
def LocalService.createSession (service : LocalService) (brokerHost token : String) :
    Option LocalSession :=
  if service.socketType = "tcp" then
    (TcpSession.make service.publicPort service.hiddenPort brokerHost
      (p2bTunnelPrefix ++ ":" ++ token) service.hiddenHost).map .tcp
  else
    (UdpSession.make service.publicPort service.hiddenPort brokerHost service.socketType
      (p2bTunnelPrefix ++ ":" ++ token)).map .udp

/-- The constructor of the session does not throw. -/
def LocalService.Serviceable (service : LocalService) : Prop :=
  if service.socketType = "tcp" then service.publicPort < 65536
  else (udpSocketType service.socketType).isSome = true

instance (service : LocalService) : Decidable service.Serviceable :=
  inferInstanceAs (Decidable (ite ..))

/-! ### The message -/

/-- `NewTunnelMessage`; a member that is missing is `undefined`. -/
structure NewTunnelMessage where
  serviceId : Option Json
  tunnelId : Option Json
  hiddenPort : Option Json
  publicPort : Option Json
  socketType : Option Json

/-- The members of what `JSON.parse` has made of the message. -/
def NewTunnelMessage.ofJson (message : Json) : NewTunnelMessage where
  serviceId := message.find "serviceId"
  tunnelId := message.find "tunnelId"
  hiddenPort := message.find "hiddenPort"
  publicPort := message.find "publicPort"
  socketType := message.find "socketType"

/-- `JSON.stringify` omits what is `undefined`. -/
def stringify (members : List (String × Option Json)) : Json :=
  .object (members.filterMap fun member => member.2.map fun value => (member.1, value))

/-- The message of `replyWithFailure`. -/
def NewTunnelMessage.failure (message : NewTunnelMessage) (reason : String) : Json :=
  stringify [
    ("type", some (.string "NewTunnelFailed")),
    ("tunnelId", message.tunnelId),
    ("serviceId", message.serviceId),
    ("hiddenPort", message.hiddenPort),
    ("publicPort", message.publicPort),
    ("reason", some (.string reason)),
    ("socketType", message.socketType)]

/-- What the authority is asked to sign. -/
def NewTunnelMessage.claims (message : NewTunnelMessage) : Json :=
  stringify [
    ("tunnelId", message.tunnelId),
    ("serviceId", message.serviceId),
    ("hiddenPort", message.hiddenPort),
    ("publicPort", message.publicPort)]

/-! ### The services -/

/-- `this.services[key]`; ports are keys in decimal. -/
def serviceAt (services : Services) (key : String) : Property LocalService :=
  match services.entries.find? fun entry => toString entry.1 = key with
  | some entry => .own entry.2
  | none       => if key ∈ prototypeKeys then .inherited else .undefined

/-! ### The callbacks -/

/-- What the authority answers. -/
inductive Authority
  /-- The request fails before there is a response. -/
  | error
  /-- The data events of the response, and whether the request fails after them. -/
  | response (statusCode : Nat) (chunks : List Bytes) (fails : Bool)
  deriving DecidableEq, Repr

/-- What has become of a message. -/
structure NewTunnelRun where
  /-- The replies. -/
  failures : List Json := []
  /-- The body of the sign-json request. -/
  requested : Option Json := none
  /-- What was passed to `JSON.parse`. -/
  parsed : List Bytes := []
  sessions : List LocalSession := []
  /-- The keys under which a callback called `createSession` although there is no service. -/
  missing : List String := []
  /-- The process has ended. -/
  ended : Bool := false

section
variable (parse : Bytes → Option Json) (keyOf : Json → Option String)

/-- The text of a value that may be `undefined`, also as a key. -/
def textOf (value : Option Json) : Option String :=
  match value with
  | none       => some "undefined"
  | some value => keyOf value

/-- `JSON.parse(tokenJson).token`; reading a member of `null` throws. -/
def tokenOf (tokenJson : Bytes) : Option (Option Json) :=
  match parse tokenJson with
  | none       => none
  | some .null => none
  | some value => some (value.find "token")

namespace NewTunnelRun

/-- The replies of the check for a service. -/
def checkService (services : Services) (key : String) (message : NewTunnelMessage) : List Json :=
  match serviceAt services key with
  | .undefined => [message.failure "There is no service here for that port."]
  | _          => []

/-- `onNewTunnel`, up to its end; `thrown` is the message of an exception of `https.request`. -/
def start (services : Services) (message : NewTunnelMessage) (thrown : Option String) :
    NewTunnelRun :=
  match textOf keyOf message.hiddenPort with
  -- the port is logged first
  | none     => { ended := true }
  | some key =>
    -- whatever the check finds, the function goes on
    let failures := checkService services key message
    match thrown with
    | some reason => { failures := failures ++ [message.failure reason] }
    | none        => { failures := failures, requested := some message.claims }

/-- The listener for data; `key` is the hidden port of the message. -/
def onData (services : Services) (key brokerHost : String) (r : NewTunnelRun)
    (tokenJson : Bytes) : NewTunnelRun :=
  if r.ended then r
  else
    let r := { r with parsed := r.parsed ++ [tokenJson] }
    match tokenOf parse tokenJson with
    | none       => { r with ended := true }
    | some token =>
      match serviceAt services key with
      | .own service =>
        match (textOf keyOf token).bind (service.createSession brokerHost) with
        | none         => { r with ended := true }
        | some session => { r with sessions := r.sessions ++ [session] }
      | _            => { r with missing := r.missing ++ [key], ended := true }

/-- The callbacks of the request. -/
def answer (services : Services) (key brokerHost : String) (r : NewTunnelRun) :
    Authority → NewTunnelRun
  | .error                             => { r with ended := true }
  | .response statusCode chunks fails =>
    if statusCode ≠ 200 then { r with ended := true }
    else
      let r := chunks.foldl (onData parse keyOf services key brokerHost) r
      if fails then { r with ended := true } else r

/-- A message, from its arrival to the last callback, if the request was made. -/
def newTunnel (services : Services) (brokerHost : String) (message : NewTunnelMessage)
    (thrown : Option String) (authority : Authority) : NewTunnelRun :=
  let r := start keyOf services message thrown
  match r.requested, textOf keyOf message.hiddenPort with
  | some _, some key => r.answer parse keyOf services key brokerHost authority
  | _,      _        => r

end NewTunnelRun

/-! ### One outcome -/

/-- The authority answers 200 with a token. -/
def Authority.Grants (authority : Authority) : Prop :=
  ∃ chunks body token, authority = .response 200 chunks false ∧
    parse chunks.flatten = some body ∧ body.find "token" = some (.string token)

/-- The text of the token in one data event; `none` when the listener throws before it has it. -/
def tokenText (tokenJson : Bytes) : Option String := (tokenOf parse tokenJson).bind (textOf keyOf)

/-- The listener looks for the service. -/
def Authority.Reaches (authority : Authority) : Prop :=
  ∃ chunk chunks fails, authority = .response 200 (chunk :: chunks) fails ∧
    tokenOf parse chunk ≠ none

/-- The first data event has a token, and the one after it, if there is one, has not. -/
def Authority.GrantsOnce (authority : Authority) : Prop :=
  ∃ chunk chunks fails, authority = .response 200 (chunk :: chunks) fails ∧
    tokenText parse keyOf chunk ≠ none ∧ ∀ next ∈ chunks.head?, tokenText parse keyOf next = none

/-- One reply and nothing else, or no reply and, if the authority grants a token, one session; and
    no callback runs into a service that is not there. -/
def NewTunnelRun.OneOutcome (authority : Authority) (r : NewTunnelRun) : Prop :=
  r.missing = [] ∧
    ((∃ reply, r.failures = [reply] ∧ r.requested = none ∧ r.sessions = []) ∨
      (r.failures = [] ∧
        (r.requested ≠ none → authority.Grants parse → ∃ session, r.sessions = [session])))

/-- The message names a service that can be served with what the authority answers, or the
    request cannot be made; an inherited member is taken for a service until the listener looks
    for it. -/
def Handles (services : Services) (message : NewTunnelMessage) (thrown : Option String)
    (authority : Authority) : Prop :=
  ∀ key, textOf keyOf message.hiddenPort = some key →
    match serviceAt services key with
    | .undefined   => False
    | .inherited   => thrown ≠ none ∨ (¬authority.Reaches parse ∧ ¬authority.Grants parse)
    | .own service =>
      thrown ≠ none ∨
        (authority.Grants parse → service.Serviceable ∧ authority.GrantsOnce parse keyOf)

end

/-! ### The constructor of a session -/

theorem createSession_isSome {service : LocalService} {brokerHost token : String} :
    (service.createSession brokerHost token).isSome = true ↔ service.Serviceable := by
  unfold LocalService.createSession LocalService.Serviceable TcpSession.make UdpSession.make
  split
  · split <;> simp_all
  · simp

/-- A session is made for the ports of its service, with the token of the authority. -/
theorem createSession_spec {service : LocalService} {brokerHost token : String}
    {session : LocalSession} (h : service.createSession brokerHost token = some session) :
    session.publicPort = service.publicPort ∧ session.hiddenPort = service.hiddenPort ∧
      session.token = p2bTunnelPrefix ++ ":" ++ token ∧
      session.hiddenHost =
        if service.socketType = "tcp" then
          (service.hiddenHost.filter fun host => host ≠ "").getD "localhost"
        else "localhost" := by
  unfold LocalService.createSession at h
  split at h
  · next htcp =>
    obtain ⟨made, hmade, rfl⟩ := Option.map_eq_some_iff.mp h
    simp only [TcpSession.make, Option.ite_none_right_eq_some, Option.some.injEq] at hmade
    obtain ⟨-, rfl⟩ := hmade
    exact ⟨rfl, rfl, rfl, (if_pos htcp).symm⟩
  · next hudp =>
    obtain ⟨made, hmade, rfl⟩ := Option.map_eq_some_iff.mp h
    obtain ⟨type, -, rfl⟩ := Option.map_eq_some_iff.mp hmade
    exact ⟨rfl, rfl, rfl, (if_neg hudp).symm⟩

/-! ### The listener for data -/

section
variable {parse : Bytes → Option Json} {keyOf : Json → Option String} {services : Services}
variable {key brokerHost : String}

namespace NewTunnelRun

/-- The session that a data event makes of a service. -/
def madeOf (parse : Bytes → Option Json) (keyOf : Json → Option String) (service : LocalService)
    (brokerHost : String) (tokenJson : Bytes) : Option LocalSession :=
  (tokenText parse keyOf tokenJson).bind (service.createSession brokerHost)

/-- The sessions that data events make, up to the first one that makes none. -/
def sessionsOf (parse : Bytes → Option Json) (keyOf : Json → Option String)
    (service : LocalService) (brokerHost : String) : List Bytes → List LocalSession
  | []              => []
  | chunk :: chunks =>
    match madeOf parse keyOf service brokerHost chunk with
    | none         => []
    | some session => session :: sessionsOf parse keyOf service brokerHost chunks

theorem onData_of_ended {r : NewTunnelRun} (h : r.ended = true) (tokenJson : Bytes) :
    onData parse keyOf services key brokerHost r tokenJson = r := by
  unfold onData
  rw [if_pos h]

theorem foldl_onData_of_ended {r : NewTunnelRun} (h : r.ended = true) (chunks : List Bytes) :
    chunks.foldl (onData parse keyOf services key brokerHost) r = r := by
  induction chunks with
  | nil => rfl
  | cons chunk chunks ih => rw [List.foldl_cons, onData_of_ended h, ih]

/-- One data event for a service that is there. -/
theorem onData_own {service : LocalService} (hservice : serviceAt services key = .own service)
    {r : NewTunnelRun} (hr : r.ended = false) (tokenJson : Bytes) :
    onData parse keyOf services key brokerHost r tokenJson =
      match madeOf parse keyOf service brokerHost tokenJson with
      | none         => { r with parsed := r.parsed ++ [tokenJson], ended := true }
      | some session =>
        { r with parsed := r.parsed ++ [tokenJson], sessions := r.sessions ++ [session] } := by
  unfold onData madeOf tokenText
  rw [if_neg (by simp [hr])]
  cases tokenOf parse tokenJson with
  | none => rfl
  | some token =>
    simp only [hservice, Option.bind_some]

variable (parse keyOf brokerHost) in
/-- One data event when there is no service. -/
theorem onData_missing (hservice : ∀ service, serviceAt services key ≠ .own service)
    {r : NewTunnelRun} (hr : r.ended = false) (tokenJson : Bytes) :
    (onData parse keyOf services key brokerHost r tokenJson).ended = true ∧
      (onData parse keyOf services key brokerHost r tokenJson).sessions = r.sessions ∧
      (onData parse keyOf services key brokerHost r tokenJson).missing =
        r.missing ++ if tokenOf parse tokenJson = none then [] else [key] := by
  unfold onData
  rw [if_neg (by simp [hr])]
  cases tokenOf parse tokenJson with
  | none => simp
  | some token =>
    cases hfound : serviceAt services key with
    | own service => exact absurd hfound (hservice service)
    | inherited => exact ⟨rfl, rfl, rfl⟩
    | undefined => exact ⟨rfl, rfl, rfl⟩

/-- **The data events** of a response make sessions up to the first one that throws. -/
theorem foldl_onData_own {service : LocalService}
    (hservice : serviceAt services key = .own service) (chunks : List Bytes)
    {r : NewTunnelRun} (hr : r.ended = false) :
    (chunks.foldl (onData parse keyOf services key brokerHost) r).missing = r.missing ∧
      (chunks.foldl (onData parse keyOf services key brokerHost) r).sessions =
        r.sessions ++ sessionsOf parse keyOf service brokerHost chunks := by
  induction chunks generalizing r with
  | nil => exact ⟨rfl, (List.append_nil _).symm⟩
  | cons chunk chunks ih =>
    rw [List.foldl_cons, onData_own hservice hr, sessionsOf]
    cases madeOf parse keyOf service brokerHost chunk with
    | none =>
      -- the process has ended
      rw [foldl_onData_of_ended rfl]
      exact ⟨rfl, (List.append_nil _).symm⟩
    | some session =>
      obtain ⟨hmissing, hsessions⟩ := ih (r := { r with
        parsed := r.parsed ++ [chunk], sessions := r.sessions ++ [session] }) hr
      refine ⟨hmissing, hsessions.trans ?_⟩
      rw [List.append_assoc]
      rfl

variable (parse keyOf brokerHost) in
/-- Only the first data event gets to look for a service that is not there. -/
theorem foldl_onData_missing (hservice : ∀ service, serviceAt services key ≠ .own service)
    {r : NewTunnelRun} (hr : r.ended = false) (chunks : List Bytes) :
    (chunks.foldl (onData parse keyOf services key brokerHost) r).sessions = r.sessions ∧
      ((chunks.foldl (onData parse keyOf services key brokerHost) r).missing = r.missing ↔
        ∀ chunk ∈ chunks.head?, tokenOf parse chunk = none) := by
  cases chunks with
  | nil => simp
  | cons chunk chunks =>
    obtain ⟨hended, hsessions, hmissing⟩ :=
      onData_missing parse keyOf brokerHost hservice hr chunk
    rw [List.foldl_cons, foldl_onData_of_ended hended, hsessions, hmissing]
    refine ⟨rfl, ?_⟩
    split
    · next hnone => simp [hnone]
    · next hsome => simp [hsome]

/-- The listener neither replies nor makes a request. -/
theorem onData_frame (r : NewTunnelRun) (tokenJson : Bytes) :
    (onData parse keyOf services key brokerHost r tokenJson).failures = r.failures ∧
      (onData parse keyOf services key brokerHost r tokenJson).requested = r.requested := by
  unfold onData
  split
  · exact ⟨rfl, rfl⟩
  · simp only
    split
    · exact ⟨rfl, rfl⟩
    · split
      · split <;> exact ⟨rfl, rfl⟩
      · exact ⟨rfl, rfl⟩

theorem answer_frame (r : NewTunnelRun) (authority : Authority) :
    (r.answer parse keyOf services key brokerHost authority).failures = r.failures ∧
      (r.answer parse keyOf services key brokerHost authority).requested = r.requested := by
  have hfold : ∀ (chunks : List Bytes) (r : NewTunnelRun),
      (chunks.foldl (onData parse keyOf services key brokerHost) r).failures = r.failures ∧
        (chunks.foldl (onData parse keyOf services key brokerHost) r).requested =
          r.requested := by
    intro chunks
    induction chunks with
    | nil => exact fun _ => ⟨rfl, rfl⟩
    | cons chunk chunks ih =>
      intro r
      obtain ⟨hfailures, hrequested⟩ := ih (onData parse keyOf services key brokerHost r chunk)
      exact ⟨hfailures.trans (onData_frame r chunk).1, hrequested.trans (onData_frame r chunk).2⟩
  cases authority with
  | error => exact ⟨rfl, rfl⟩
  | response statusCode chunks fails =>
    simp only [answer]
    split
    · exact ⟨rfl, rfl⟩
    · split <;> exact hfold chunks r

theorem madeOf_isSome {service : LocalService} {chunk : Bytes} :
    (madeOf parse keyOf service brokerHost chunk).isSome = true ↔
      tokenText parse keyOf chunk ≠ none ∧ service.Serviceable := by
  unfold madeOf
  cases tokenText parse keyOf chunk with
  | none => simp
  | some token => simp [createSession_isSome]

/-- One session is made by the first data event, if the second one makes none. -/
theorem sessionsOf_eq_singleton {service : LocalService} {chunks : List Bytes} :
    (∃ session, sessionsOf parse keyOf service brokerHost chunks = [session]) ↔
      ∃ chunk rest, chunks = chunk :: rest ∧
        (madeOf parse keyOf service brokerHost chunk).isSome = true ∧
        ∀ next ∈ rest.head?, madeOf parse keyOf service brokerHost next = none := by
  cases chunks with
  | nil => simp [sessionsOf]
  | cons chunk rest =>
    rw [sessionsOf]
    cases hmade : madeOf parse keyOf service brokerHost chunk with
    | none =>
      refine iff_of_false (by simp) ?_
      rintro ⟨chunk', rest', heq, hsome, -⟩
      obtain ⟨rfl, rfl⟩ := List.cons.inj heq
      simp [hmade] at hsome
    | some session =>
      have hrest : sessionsOf parse keyOf service brokerHost rest = [] ↔
          ∀ next ∈ rest.head?, madeOf parse keyOf service brokerHost next = none := by
        cases rest with
        | nil => simp [sessionsOf]
        | cons next rest =>
          rw [sessionsOf]
          cases hnext : madeOf parse keyOf service brokerHost next with
          | none => simp [hnext]
          | some second => simp [hnext]
      constructor
      · rintro ⟨session', heq⟩
        exact ⟨chunk, rest, rfl, by simp [hmade], hrest.mp (List.cons.inj heq).2⟩
      · rintro ⟨chunk', rest', heq, -, hnone⟩
        obtain ⟨rfl, rfl⟩ := List.cons.inj heq
        exact ⟨session, by rw [hrest.mpr hnone]⟩

/-- The callbacks find a service that is there. -/
theorem answer_missing_own {service : LocalService}
    (hservice : serviceAt services key = .own service) {r : NewTunnelRun} (hr : r.ended = false)
    (authority : Authority) :
    (r.answer parse keyOf services key brokerHost authority).missing = r.missing := by
  cases authority with
  | error => rfl
  | response statusCode chunks fails =>
    simp only [answer]
    split
    · rfl
    · split <;> exact (foldl_onData_own hservice chunks hr).1

/-- They make no session for one that is not there, and run into it when the listener looks for
    it. -/
theorem answer_missing (hservice : ∀ service, serviceAt services key ≠ .own service)
    {r : NewTunnelRun} (hr : r.ended = false) (authority : Authority) :
    (r.answer parse keyOf services key brokerHost authority).sessions = r.sessions ∧
      ((r.answer parse keyOf services key brokerHost authority).missing = r.missing ↔
        ¬authority.Reaches parse) := by
  cases authority with
  | error =>
    refine ⟨rfl, iff_of_true rfl ?_⟩
    rintro ⟨chunk, chunks, fails, heq, -⟩
    cases heq
  | response statusCode chunks fails =>
    simp only [answer]
    split
    · next hstatus =>
      refine ⟨rfl, iff_of_true rfl ?_⟩
      rintro ⟨chunk, chunks', fails', heq, -⟩
      exact hstatus (Authority.response.inj heq).1
    · next hstatus =>
      obtain ⟨hsessions, hmissing⟩ :=
        foldl_onData_missing parse keyOf brokerHost hservice hr chunks
      have hkept : ∀ q : NewTunnelRun,
          (if fails = true then { q with ended := true } else q).sessions = q.sessions ∧
            (if fails = true then { q with ended := true } else q).missing = q.missing := by
        intro q
        split <;> exact ⟨rfl, rfl⟩
      rw [(hkept _).1, (hkept _).2, hmissing]
      refine ⟨hsessions, ?_⟩
      obtain rfl : statusCode = 200 := not_not.mp hstatus
      constructor
      · rintro hnone ⟨chunk, rest, fails', heq, hsome⟩
        obtain ⟨-, rfl, -⟩ := Authority.response.inj heq
        exact hsome (hnone chunk rfl)
      · intro hreaches chunk hchunk
        cases chunks with
        | nil => cases hchunk
        | cons first rest =>
          obtain rfl := Option.some.inj hchunk
          by_contra hsome
          exact hreaches ⟨first, rest, fails, rfl, hsome⟩

/-- The sessions for an authority that grants a token. -/
theorem answer_sessions {service : LocalService}
    (hservice : serviceAt services key = .own service) {r : NewTunnelRun} (hr : r.ended = false)
    (hnone : r.sessions = []) {authority : Authority} (hgrants : authority.Grants parse) :
    (∃ session, (r.answer parse keyOf services key brokerHost authority).sessions = [session]) ↔
      service.Serviceable ∧ authority.GrantsOnce parse keyOf := by
  obtain ⟨chunks, -, -, rfl, -, -⟩ := hgrants
  have hsessions :
      (r.answer parse keyOf services key brokerHost (.response 200 chunks false)).sessions =
        sessionsOf parse keyOf service brokerHost chunks := by
    rw [answer, if_neg (by simp)]
    simp only [Bool.false_eq_true, if_false]
    rw [(foldl_onData_own hservice chunks hr).2, hnone, List.nil_append]
  rw [hsessions, sessionsOf_eq_singleton]
  constructor
  · rintro ⟨chunk, rest, rfl, hmade, hnext⟩
    obtain ⟨htext, hserviceable⟩ := madeOf_isSome.mp hmade
    refine ⟨hserviceable, chunk, rest, false, rfl, htext, fun next hmem => ?_⟩
    by_contra htext'
    have hmore : (madeOf parse keyOf service brokerHost next).isSome = true :=
      madeOf_isSome.mpr ⟨htext', hserviceable⟩
    exact Option.isSome_iff_ne_none.mp hmore (hnext next hmem)
  · rintro ⟨hserviceable, chunk, rest, fails, heq, htext, hnext⟩
    obtain ⟨-, rfl, -⟩ := Authority.response.inj heq
    refine ⟨chunk, rest, rfl, madeOf_isSome.mpr ⟨htext, hserviceable⟩, fun next hmem => ?_⟩
    unfold madeOf
    rw [hnext next hmem]
    rfl

/-! ### The handler -/

variable {message : NewTunnelMessage} {thrown : Option String}

/-- A response that comes in full is handed to the listener. -/
theorem newTunnel_response (hkey : textOf keyOf message.hiddenPort = some key)
    (chunks : List Bytes) :
    newTunnel parse keyOf services brokerHost message none (.response 200 chunks false) =
      chunks.foldl (onData parse keyOf services key brokerHost)
        { failures := checkService services key message, requested := some message.claims } := by
  simp [newTunnel, start, hkey, answer]

/-- **When a message has one outcome.**  It has if its port names a service of the publisher, and
    the session for it can be made whenever the authority grants a token, which then comes in the
    first data event and in no other; or if the request cannot be made; in no case if there is no
    service for the port. -/
theorem oneOutcome_iff (parse : Bytes → Option Json) (keyOf : Json → Option String)
    (services : Services) (brokerHost : String) (message : NewTunnelMessage)
    (thrown : Option String) (authority : Authority) :
    (newTunnel parse keyOf services brokerHost message thrown authority).OneOutcome parse
        authority ↔
      Handles parse keyOf services message thrown authority := by
  unfold Handles newTunnel start
  cases hkey : textOf keyOf message.hiddenPort with
  | none =>
    -- the handler has thrown before it did anything
    exact iff_of_true ⟨rfl, .inr ⟨rfl, fun h => absurd rfl h⟩⟩ (by simp)
  | some key =>
    simp only [Option.some.injEq, forall_eq', checkService]
    cases hservice : serviceAt services key with
    | undefined =>
      cases thrown with
      | some reason =>
        -- there are two replies
        refine iff_of_false ?_ not_false
        rintro ⟨-, ⟨reply, hfailures, -⟩ | ⟨hfailures, -⟩⟩
        · simp at hfailures
        · simp at hfailures
      | none =>
        -- there are a reply and a request
        refine iff_of_false ?_ not_false
        rintro ⟨-, ⟨reply, -, hrequested, -⟩ | ⟨hfailures, -⟩⟩
        · simp [answer_frame] at hrequested
        · simp [answer_frame] at hfailures
    | inherited =>
      cases thrown with
      | some reason => exact iff_of_true ⟨rfl, .inl ⟨_, rfl, rfl, rfl⟩⟩ (.inl (by simp))
      | none =>
        -- a request is made for a service that is none
        have hnone : ∀ service, serviceAt services key ≠ .own service := by simp [hservice]
        let r : NewTunnelRun := { failures := [], requested := some message.claims }
        obtain ⟨hsessions, hmissing⟩ : (r.answer parse keyOf services key brokerHost
            authority).sessions = [] ∧
            ((r.answer parse keyOf services key brokerHost authority).missing = [] ↔
              ¬authority.Reaches parse) := answer_missing hnone rfl authority
        show (r.answer parse keyOf services key brokerHost authority).OneOutcome parse authority ↔ _
        simp only [OneOutcome, hmissing, answer_frame, hsessions]
        simp [r]
    | own service =>
      cases thrown with
      | some reason => exact iff_of_true ⟨rfl, .inl ⟨_, rfl, rfl, rfl⟩⟩ (.inl (by simp))
      | none =>
        let r : NewTunnelRun := { failures := [], requested := some message.claims }
        have hsessions : authority.Grants parse →
            ((∃ session, (r.answer parse keyOf services key brokerHost authority).sessions =
              [session]) ↔ service.Serviceable ∧ authority.GrantsOnce parse keyOf) :=
          answer_sessions hservice rfl rfl
        show (r.answer parse keyOf services key brokerHost authority).OneOutcome parse authority ↔ _
        rw [OneOutcome, answer_missing_own hservice rfl, (answer_frame r authority).1,
          (answer_frame r authority).2]
        simp only [r, reduceCtorEq, false_and, and_false, exists_false, ne_eq, not_false_iff,
          true_and, not_true, false_or, forall_const]
        exact forall_congr' hsessions

end NewTunnelRun

end

/-! ### A port that is not configured -/

/-- A response of the authority. -/
def signedJson : Bytes := asciiString "\x7b\"token\":\"t\"\x7d"

/-- A `JSON.parse` that knows this text. -/
def parseSigned (tokenJson : Bytes) : Option Json :=
  if tokenJson = signedJson then some (.object [("token", .string "t")]) else none

/-- The text of numbers and strings. -/
def plainText : Json → Option String
  | .number n => some (toString n)
  | .string s => some s
  | _         => none

/-- The message for the port of no service, while there is another one. -/
def unknownPort : NewTunnelRun :=
  .newTunnel parseSigned plainText
    (Config.mk "pub" [⟨some "ssh", "tcp", 8022, 22, none⟩]).makeServices "broker"
    ⟨some (.string "s"), some (.string "c"), some (.number 9999), some (.number 22),
      some (.string "tcp")⟩
    none (.response 200 [signedJson] false)

/-- It is replied to, and then signed, and the process ends in the listener. -/
theorem oneOutcome_unknownPort :
    ¬unknownPort.OneOutcome parseSigned (.response 200 [signedJson] false) ∧
      unknownPort.failures.length = 1 ∧ unknownPort.requested.isSome = true ∧
      unknownPort.missing = ["9999"] ∧ unknownPort.ended = true := by
  have hmissing : unknownPort.missing = ["9999"] := by decide +kernel
  refine ⟨?_, by decide +kernel, by decide +kernel, hmissing, by decide +kernel⟩
  rintro ⟨hnone, -⟩
  rw [hmissing] at hnone
  cases hnone

end TunnelBore.TypeScript
