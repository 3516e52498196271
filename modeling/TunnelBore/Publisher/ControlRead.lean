import TunnelBore.Publisher.ControlLine
import TunnelBore.Shared.Bytes
import TunnelBore.Shared.Json

namespace TunnelBore.Publisher

/-!
# The publisher's messages

What the publisher sends on its control line, as JSON, and what it does with a message it has
read: `Publisher::onControlRead`, `Publisher::onNewTunnel` and the part of
`Service::createSession` that runs before the token is written.

* `onControlRead` is a function of the text and of `Answers`, what the authority and the network
  say when they are asked;
* `onControlRead_threw_iff` — the texts and answers on which an exception leaves it.
-/

variable {ε : Type}

/-- `ServiceInfo` of the publisher's configuration. -/
structure ServiceInfo where
  name : Option String
  hiddenPort : Int
  publicPort : Int
  hiddenHost : Option String
  deriving DecidableEq, Repr

/-- The parts of `Config` that messages depend on. -/
structure Config where
  identity : String
  host : String
  services : List ServiceInfo
  deriving DecidableEq, Repr

/-- `Service`. -/
structure Service where
  name : Option String
  publicPort : Int
  hiddenHost : String
  hiddenPort : Int
  deriving DecidableEq, Repr

/-- The service that the constructor of `Publisher` makes of an entry of the configuration. -/
def Service.make (info : ServiceInfo) : Service where
  name := info.name
  publicPort := info.publicPort
  hiddenHost := info.hiddenHost.getD "localhost"
  hiddenPort := info.hiddenPort

/-- `services_`. -/
def Config.makeServices (cfg : Config) : List Service := cfg.services.map Service.make

/-- `to_json` of an optional. -/
def optionalJson : Option String → Json
  | none   => .null
  | some s => .string s

/-- `to_json` of a `Service`. -/
def Service.toJson (v : Service) : Json :=
  .object [
    ("hiddenHost", .string v.hiddenHost),
    ("hiddenPort", .number v.hiddenPort),
    ("name", optionalJson v.name),
    ("publicPort", .number v.publicPort)]

/-- The payload of a message. -/
def ControlMessage.payload (cfg : Config) : ControlMessage → Json
  | .handshake =>
    .object [
      ("identity", .string cfg.identity),
      ("services", .array (cfg.makeServices.map Service.toJson)),
      ("type", .string "Handshake")]
  | .ping => .object [("ref", .string "Ping"), ("type", .string "Ping")]
  | .newTunnelFailed serviceId tunnelId hiddenPort publicPort socketType reason =>
    .object [
      ("hiddenPort", .number hiddenPort),
      ("publicPort", .number publicPort),
      ("reason", .string reason),
      ("serviceId", .string serviceId),
      ("socketType", .string socketType),
      ("tunnelId", .string tunnelId),
      ("type", .string "NewTunnelFailed")]

/-! ### Handling a message -/

/-- How `createConnection` ends: with a session, with an empty pointer because nobody answers,
    or with an exception of the resolver or of the new session's constructor. -/
inductive ConnectionEnd
  | connected
  | failed
  | threw
  deriving DecidableEq, Repr

/-- What the outside answers while a message is handled, if it is asked. -/
structure Answers where
  /-- The response to `sign-json`: its code and its body. -/
  response : Nat × Bytes
  connection : ConnectionEnd
  deriving DecidableEq, Repr

/-- What handling a message does. -/
structure Handled where
  /-- The messages given to `sendQueued`. -/
  replies : List ControlMessage := []
  /-- The body of the request to `sign-json`. -/
  request : Option Json := none
  /-- The host and port given to `createConnection`. -/
  dialled : Option (String × Int) := none
  /-- What is written to the connection first. -/
  prefixedToken : Option Bytes := none
  /-- An exception leaves the handler. -/
  threw : Bool := false

/-- `Service::createSession`, up to the write of the token. -/
def Service.createSession (service : Service) (brokerHost token : String)
    (connection : ConnectionEnd) : Handled :=
  let dialled := some (brokerHost, service.publicPort)
  match connection with
  | .threw     => { dialled := dialled, threw := true }
  | .failed    => { dialled := dialled }
  | .connected =>
    { dialled := dialled
      prefixedToken :=
        some (publisherToBrokerPrefix ++ asciiString ":" ++ token.toUTF8.data.toList) }

/-- The service that `onNewTunnel` finds. -/
def findService (services : List Service) (hiddenPort publicPort : Int) : Option Service :=
  services.find? fun service => service.hiddenPort = hiddenPort ∧ service.publicPort = publicPort

/-- The message that `onNewTunnel` has the authority sign. -/
def signRequest (serviceId tunnelId : String) (hiddenPort publicPort : Int) : Json :=
  .object [
    ("hiddenPort", .number hiddenPort),
    ("publicPort", .number publicPort),
    ("serviceId", .string serviceId),
    ("tunnelId", .string tunnelId)]

variable (parse : Bytes → Except ε Json) (cfg : Config)

/-- `json::parse(body)["token"].get<std::string>()`. -/
def tokenOf (body : Bytes) : Option String :=
  match parse body with
  | .error _ => none
  | .ok j    => j.stringAt "token"

/-- `Publisher::onNewTunnel`. -/
def onNewTunnel (serviceId tunnelId : String) (hiddenPort publicPort : Int) (socketType : String)
    (answers : Answers) : Handled :=
  let respondWithFailure (reason : String) : ControlMessage :=
    .newTunnelFailed serviceId tunnelId hiddenPort publicPort socketType reason
  match findService cfg.makeServices hiddenPort publicPort with
  | none => { replies := [respondWithFailure "Unknown service"] }
  | some service =>
    let request := some (signRequest serviceId tunnelId hiddenPort publicPort)
    if answers.response.1 ≠ 200 then
      { replies := [respondWithFailure "Failed to sign tunnel request"], request := request }
    else
      match tokenOf parse answers.response.2 with
      | none       => { request := request, threw := true }
      | some token =>
        { service.createSession cfg.host token answers.connection with request := request }

/-- The arguments that `onControlRead` reads from a `NewTunnel` message. -/
def newTunnelArguments (j : Json) : Option (String × String × Int × Int × String) := do
  let serviceId ← j.stringAt "serviceId"
  let tunnelId ← j.stringAt "tunnelId"
  let hiddenPort ← j.intAt "hiddenPort"
  let publicPort ← j.intAt "publicPort"
  let socketType ← j.stringAt "socketType"
  return (serviceId, tunnelId, hiddenPort, publicPort, socketType)

/-- What `onControlRead` does with the value of a text. -/
def onControlJson (j : Json) (answers : Answers) : Handled :=
  match j.stringAt "type" with
  | none      => { threw := true }
  | some type =>
    if type = "NewTunnel" then
      match newTunnelArguments j with
      | none => { threw := true }
      | some (serviceId, tunnelId, hiddenPort, publicPort, socketType) =>
        onNewTunnel parse cfg serviceId tunnelId hiddenPort publicPort socketType answers
    else if type = "ServiceStartResult" then { threw := (j.boolAt "result").isNone }
    -- `Error`, `Pong` and unknown messages are logged at most
    else {}

/-- `Publisher::onControlRead`. -/
def onControlRead (message : Bytes) (answers : Answers) : Handled :=
  match parse message with
  | .error _ => { threw := true }
  | .ok j    => onControlJson parse cfg j answers

/-! ### When an exception leaves the handler -/

/-- A message without a type, or one whose type asks for members that are missing or of another
    type. -/
def Mistyped (j : Json) : Prop :=
  j.stringAt "type" = none ∨
    (j.stringAt "type" = some "NewTunnel" ∧ newTunnelArguments j = none) ∨
    (j.stringAt "type" = some "ServiceStartResult" ∧ j.boolAt "result" = none)

/-- A tunnel of a known service is signed, but the reply of the authority has no token in it or
    the connection to the broker throws. -/
def TunnelThrows (j : Json) (answers : Answers) : Prop :=
  j.stringAt "type" = some "NewTunnel" ∧
    ∃ serviceId tunnelId hiddenPort publicPort socketType,
      newTunnelArguments j = some (serviceId, tunnelId, hiddenPort, publicPort, socketType) ∧
      (findService cfg.makeServices hiddenPort publicPort).isSome = true ∧
      answers.response.1 = 200 ∧
      (tokenOf parse answers.response.2 = none ∨ answers.connection = .threw)

/-- The messages on which an exception leaves `onControlRead`. -/
def Unhandled (message : Bytes) (answers : Answers) : Prop :=
  match parse message with
  | .error _ => True
  | .ok j    => Mistyped j ∨ TunnelThrows parse cfg j answers

theorem createSession_threw_iff (service : Service) (brokerHost token : String)
    (connection : ConnectionEnd) :
    (service.createSession brokerHost token connection).threw = true ↔ connection = .threw := by
  cases connection <;> simp [Service.createSession]

/-- A tunnel throws when it is signed and then no token is found or the connection throws. -/
theorem onNewTunnel_threw_iff (serviceId tunnelId : String) (hiddenPort publicPort : Int)
    (socketType : String) (answers : Answers) :
    (onNewTunnel parse cfg serviceId tunnelId hiddenPort publicPort socketType answers).threw =
        true ↔
      (findService cfg.makeServices hiddenPort publicPort).isSome = true ∧
        answers.response.1 = 200 ∧
        (tokenOf parse answers.response.2 = none ∨ answers.connection = .threw) := by
  unfold onNewTunnel
  cases findService cfg.makeServices hiddenPort publicPort with
  | none => simp
  | some service =>
    by_cases hcode : answers.response.1 = 200
    · -- signed: the token is read from the reply, and then the broker is dialled
      simp only [hcode, ne_eq, not_true_eq_false, if_false, Option.isSome_some, true_and]
      cases tokenOf parse answers.response.2 with
      | none => simp
      | some token =>
        show (service.createSession cfg.host token answers.connection).threw = true ↔ _
        rw [createSession_threw_iff]
        simp
    · simp [hcode]

/-- Every reply names the tunnel it is about. -/
theorem onNewTunnel_replies (serviceId tunnelId : String) (hiddenPort publicPort : Int)
    (socketType : String) (answers : Answers) :
    ∀ reply ∈ (onNewTunnel parse cfg serviceId tunnelId hiddenPort publicPort socketType
      answers).replies, ∃ reason,
        reply = .newTunnelFailed serviceId tunnelId hiddenPort publicPort socketType reason := by
  intro reply hreply
  unfold onNewTunnel at hreply
  cases hfind : findService cfg.makeServices hiddenPort publicPort with
  | none =>
    rw [hfind] at hreply
    exact ⟨_, List.mem_singleton.mp hreply⟩
  | some service =>
    rw [hfind] at hreply
    simp only at hreply
    split at hreply
    · exact ⟨_, List.mem_singleton.mp hreply⟩
    · split at hreply
      · cases hreply
      · next token _ =>
        have hnone : (service.createSession cfg.host token answers.connection).replies = [] := by
          cases answers.connection <;> rfl
        change reply ∈ (service.createSession cfg.host token answers.connection).replies at hreply
        rw [hnone] at hreply
        cases hreply

/-- **An exception leaves `onControlRead`** exactly on these messages and answers. -/
theorem onControlRead_threw_iff (message : Bytes) (answers : Answers) :
    (onControlRead parse cfg message answers).threw = true ↔
      Unhandled parse cfg message answers := by
  unfold onControlRead Unhandled
  cases parse message with
  | error e => simp
  | ok j =>
    show (onControlJson parse cfg j answers).threw = true ↔
      (Mistyped j ∨ TunnelThrows parse cfg j answers)
    unfold onControlJson Mistyped TunnelThrows
    cases htype : j.stringAt "type" with
    | none => simp
    | some type =>
      simp only [reduceCtorEq, false_or, Option.some.injEq]
      by_cases hnew : type = "NewTunnel"
      · subst hnew
        simp only [if_true, true_and, String.reduceEq, false_and, or_false]
        cases hargs : newTunnelArguments j with
        | none => simp
        | some args =>
          obtain ⟨serviceId, tunnelId, hiddenPort, publicPort, socketType⟩ := args
          show (onNewTunnel parse cfg serviceId tunnelId hiddenPort publicPort socketType
            answers).threw = true ↔ _
          rw [onNewTunnel_threw_iff]
          constructor
          · intro h
            exact .inr ⟨_, _, _, _, _, rfl, h⟩
          · rintro (h | ⟨_, _, _, _, _, heq, h⟩)
            · cases h
            · simp only [Option.some.injEq, Prod.mk.injEq] at heq
              obtain ⟨rfl, rfl, rfl, rfl, rfl⟩ := heq
              exact h
      · -- no other message has anything signed
        simp only [hnew, if_false, false_and, false_or, or_false]
        by_cases hresult : type = "ServiceStartResult"
        · simp [hresult]
        · simp [hresult]

end TunnelBore.Publisher
