import TunnelBore.Lib.Run
import TunnelBore.Shared.Bytes
import TunnelBore.TypeScript.Handshake

namespace TunnelBore.TypeScript

open TunnelBore.Lib

/-!
# The broker in TypeScript

`Publisher` of the TypeScript broker serves one publisher: its services with their sessions, the
servers that accept for them, and the control socket.  Its methods are handlers of events, each of
which runs to its end before the next one.  An exception that no handler catches ends the process.

* `property` — what reading a property of a plain object gives;
* `Publisher.onConnect`, `onData`, `setServices`, `onSessionFailed`, `close` — the handlers;
* `Handled` — what a handler leaves, with the keys of services that were undefined when a field of
  them was read.

What `JSON.parse` makes of a buffer, how a value is made a property key and what the generator of
ids returns are parameters; a key that cannot be made makes the access throw.
-/

/-! ### Plain objects -/

/-- What `object[key]` evaluates to. -/
inductive Property (α : Type)
  | own (value : α)
  /-- A member that plain objects inherit. -/
  | inherited
  | undefined

/-- The names of the members of `Object.prototype`. -/
def prototypeKeys : List String :=
  ["constructor", "__defineGetter__", "__defineSetter__", "hasOwnProperty", "__lookupGetter__",
    "__lookupSetter__", "isPrototypeOf", "propertyIsEnumerable", "toString", "valueOf",
    "__proto__", "toLocaleString"]

/-- A plain object with values of one type. -/
abbrev PlainObject (α : Type) := AList fun _ : String => α

variable {α : Type}

/-- `object[key]`. -/
def property (object : PlainObject α) (key : String) : Property α :=
  match object.lookup key with
  | some value => .own value
  | none       => if key ∈ prototypeKeys then .inherited else .undefined

theorem property_of_some {object : PlainObject α} {key : String} {value : α}
    (h : object.lookup key = some value) : property object key = .own value := by
  unfold property
  rw [h]

/-! ### The data -/

/-- A socket. -/
abbrev SocketId := Nat

/-- `Session`. -/
structure Session where
  clientSocket : SocketId
  publisherSocket : Option SocketId
  initialData : Bytes
  deriving DecidableEq, Repr

namespace Session

/-- `Session::isHalfOpen`. -/
def isHalfOpen (session : Session) : Bool := session.publisherSocket.isNone

/-- The sockets that `Session::free` destroys. -/
def sockets (session : Session) : List SocketId :=
  session.clientSocket :: session.publisherSocket.toList

end Session

/-- `PublishedService`. -/
structure PublishedService where
  name : String
  hiddenPort : Nat
  publicPort : Nat
  acceptorHandle : String
  sessions : PlainObject Session := ∅
  deriving DecidableEq

/-- `Publisher`, its `TcpAcceptorPool`, and the sockets that its listeners are registered on. -/
structure Publisher where
  limit : Nat
  services : PlainObject PublishedService := ∅
  /-- The servers of the pool that listen. -/
  acceptors : List String := []
  /-- The accepted sockets whose first data is awaited, each with the service that it was accepted
      for and whether it comes from the address of the publisher. -/
  waiting : AList (fun _ : SocketId => String × Bool) := ∅
  /-- The publisher sides, each with the session that it belongs to. -/
  attached : AList (fun _ : SocketId => String × String) := ∅
  /-- The initial data written to publisher sides. -/
  written : List (SocketId × Bytes) := []
  /-- The sockets that were ended. -/
  ended : List SocketId := []
  /-- The sockets that a timeout destroys. -/
  freed : List SocketId := []
  /-- The messages sent on the control socket. -/
  sent : List Json := []
  controlClosed : Bool := false
  /-- How many ids have been generated. -/
  generated : Nat := 0
  /-- The ids of the services that were removed. -/
  removed : List String := []
  /-- An exception has ended the process. -/
  crashed : Bool := false

/-- What a handler leaves. -/
structure Handled where
  publisher : Publisher
  /-- The keys of services that were undefined when a field of them was read. -/
  undefinedReads : List String := []
  threw : Bool := false

/-! ### The handlers -/

variable (uuid : Nat → String) (parse : Bytes → Option Json) (keyOf : Json → Option String)

/-- Whether a value counts as true. -/
def truthy : Json → Bool
  | .null      => false
  | .boolean b => b
  | .number n  => n ≠ 0
  | .float b   => b ≠ 0 ∧ b ≠ 9223372036854775808
  | .string s  => s ≠ ""
  | .array _   => true
  | .object _  => true

/-- `PublishedService::freeSession`, and the sockets that will be destroyed; `none` says that it
    throws, on a session that has no `free`. -/
def PublishedService.freeSession (service : PublishedService) (tunnelId : String) :
    Option (PublishedService × List SocketId) :=
  match property service.sessions tunnelId with
  | .undefined   => some (service, [])
  | .inherited   => none
  | .own session => some ({ service with sessions := service.sessions.erase tunnelId },
      session.sockets)

/-- `PublishedService::freeAll`, the sockets that will be destroyed. -/
def PublishedService.freeAll (service : PublishedService) : List SocketId :=
  service.sessions.entries.flatMap fun entry => entry.2.sockets

namespace Publisher

variable (p : Publisher)

/-- `TcpAcceptorPool::makeAcceptor`. -/
def makeAcceptor : Publisher × Option String :=
  if p.limit ≤ p.acceptors.length then (p, none)
  else
    let id := uuid p.generated
    ({ p with generated := p.generated + 1, acceptors := p.acceptors.insert id }, some id)

/-- The handler of an error of a server whose port is in use. -/
def freeAcceptor (id : String) : Publisher := { p with acceptors := p.acceptors.erase id }

/-- `Publisher::freeSessionForService`. -/
def freeSessionForService (serviceId tunnelId : String) : Handled :=
  match property p.services serviceId with
  | .undefined   => { publisher := p }
  | .inherited   => { publisher := p, threw := true }
  | .own service =>
    match service.freeSession tunnelId with
    | none                    => { publisher := p, threw := true }
    | some (service, sockets) =>
      { publisher := { p with
          services := p.services.insert serviceId
            { service with sessions := service.sessions.erase tunnelId }
          freed := p.freed ++ sockets } }

/-- `Publisher::onSessionFailed`. -/
def onSessionFailed (serviceId tunnelId : String) : Handled :=
  match property p.services serviceId with
  | .undefined => { publisher := p }
  | _          => p.freeSessionForService serviceId tunnelId

/-- `Publisher::clearServices`. -/
def clearServices : Publisher :=
  { p with
    acceptors := []
    freed := p.freed ++ p.services.entries.flatMap fun entry => entry.2.freeAll
    services := ∅
    removed := p.removed ++ p.services.keys }

/-- The callback of `Publisher::setServices` for one service. -/
def addService (service : ServiceInfo) : Publisher :=
  let serviceId := uuid p.generated
  let made := makeAcceptor uuid { p with generated := p.generated + 1 }
  match made.2 with
  | none                => made.1
  | some acceptorHandle =>
    { made.1 with
      services := made.1.services.insert serviceId
        { name := (service.name.filter fun name => name ≠ "").getD serviceId
          hiddenPort := service.hiddenPort
          publicPort := service.publicPort
          acceptorHandle := acceptorHandle } }

/-- `Publisher::setServices`. -/
def setServices (serviceInfos : List ServiceInfo) : Publisher :=
  serviceInfos.foldl (fun p service => p.addService uuid service) p.clearServices

/-- `Publisher::onConnect`; `none` says that the address of the socket cannot be parsed. -/
def onConnect (serviceId : String) (socket : SocketId) (sameAddress : Option Bool) : Handled :=
  match property p.services serviceId with
  | .undefined => { publisher := { p with ended := p.ended ++ [socket] } }
  | _          =>
    match sameAddress with
    | none             => { publisher := p, threw := true }
    | some sameAddress =>
      { publisher := { p with waiting := p.waiting.insert socket (serviceId, sameAddress) } }

/-- The message about a new session. -/
def newTunnel (serviceId tunnelId : String) (service : PublishedService) : Json :=
  .object [
    ("type", .string "NewTunnel"),
    ("serviceId", .string serviceId),
    ("tunnelId", .string tunnelId),
    ("hiddenPort", .number service.hiddenPort),
    ("publicPort", .number service.publicPort)]

/-- `doInitialConnect` of `Publisher::onConnect`. -/
def doInitialConnect (serviceId : String) (socket : SocketId) (initialData : Bytes) : Handled :=
  match property p.services serviceId with
  -- the name that is logged is read of `undefined`
  | .undefined   => { publisher := p, undefinedReads := [serviceId], threw := true }
  -- a name is found, but no sessions
  | .inherited   => { publisher := { p with generated := p.generated + 1 }, threw := true }
  | .own service =>
    let tunnelId := uuid p.generated
    { publisher := { p with
        generated := p.generated + 1
        services := p.services.insert serviceId { service with
          sessions := service.sessions.insert tunnelId ⟨socket, none, initialData⟩ }
        sent := p.sent ++ [newTunnel serviceId tunnelId service] } }

/-- `PublishedService::addSocketToHalfOpenSession` of the service under `serviceId`. -/
def addSocketToHalfOpenSession (serviceId : String) (service : PublishedService)
    (tunnelId : String) (socket : SocketId) : Handled :=
  match property service.sessions tunnelId with
  | .own session =>
    if session.isHalfOpen then
      { publisher := { p with
          services := p.services.insert serviceId { service with
            sessions := service.sessions.insert tunnelId
              { session with publisherSocket := some socket } }
          attached := p.attached.insert socket (serviceId, tunnelId)
          written := p.written ++ [(socket, session.initialData)] } }
    else { publisher := p }
  -- there is no `isHalfOpen` to call
  | _            => { publisher := p, threw := true }

/-- `doPublisherConnect` of `Publisher::onConnect`. -/
def doPublisherConnect (socket : SocketId) (tunnelId serviceId : Json) : Handled :=
  match keyOf serviceId with
  | none           => { publisher := p, threw := true }
  | some serviceId =>
    match property p.services serviceId with
    | .undefined   => { publisher := p, undefinedReads := [serviceId], threw := true }
    | .inherited   => { publisher := p, threw := true }
    | .own service =>
      match keyOf tunnelId with
      | none          => { publisher := p, threw := true }
      | some tunnelId => p.addSocketToHalfOpenSession serviceId service tunnelId socket

/-- The ids of a buffer that is taken for a publisher's. -/
def publisherToken (peekBuffer : Bytes) (sameAddress : Bool) : Option (Json × Json) := do
  let token ← parse peekBuffer
  let tunnelId ← token.find "tunnelId"
  let serviceId ← token.find "serviceId"
  if truthy tunnelId && truthy serviceId && sameAddress then some (tunnelId, serviceId) else none

/-- The listener for the first data of a socket is called once. -/
def unlisten (socket : SocketId) : Publisher := { p with waiting := p.waiting.erase socket }

/-- The listener for the first data of a socket. -/
def onData (socket : SocketId) (serviceId : String) (sameAddress : Bool) (peekBuffer : Bytes) :
    Handled :=
  let p := p.unlisten socket
  match publisherToken parse peekBuffer sameAddress with
  | none                     => p.doInitialConnect uuid serviceId socket peekBuffer
  | some (tunnelId, tokenId) =>
    let connected := p.doPublisherConnect keyOf socket tunnelId tokenId
    if connected.threw then
      -- the exception is caught and nothing is made of it
      let initial := connected.publisher.doInitialConnect uuid serviceId socket peekBuffer
      { initial with undefinedReads := connected.undefinedReads ++ initial.undefinedReads }
    else connected

/-- The listener for the end of a publisher side. -/
def onPublisherClose (serviceId tunnelId : String) : Handled :=
  match p.services.lookup serviceId with
  | none         => { publisher := p }
  | some service =>
    match service.freeSession tunnelId with
    | none                    => { publisher := p, threw := true }
    | some (service, sockets) =>
      { publisher := { p with
          services := p.services.insert serviceId service
          freed := p.freed ++ sockets } }

/-- `Publisher::close`. -/
def close : Publisher := { p.clearServices with controlClosed := true }

end Publisher

/-! ### Runs -/

/-- What can happen to a publisher of the broker. -/
inductive Event
  /-- A server that was made for a service accepts a connection. -/
  | accepted (serviceId : String) (socket : SocketId) (sameAddress : Option Bool)
  /-- The first data of an accepted socket arrives. -/
  | data (socket : SocketId) (peekBuffer : Bytes)
  /-- The message `Services`. -/
  | services (serviceInfos : List ServiceInfo)
  /-- The message `NewTunnelFailed`. -/
  | newTunnelFailed (serviceId tunnelId : String)
  /-- A publisher side is closed. -/
  | publisherClosed (socket : SocketId)
  /-- A server cannot listen. -/
  | listenFailed (acceptor : String)
  /-- The control socket is closed. -/
  | controlClosed

namespace Publisher

variable (p : Publisher)

/-- The handler of an event; `none` when there is none. -/
def handle : Event → Option Handled
  | .accepted serviceId socket sameAddress => some (p.onConnect serviceId socket sameAddress)
  | .data socket peekBuffer                =>
    (p.waiting.lookup socket).map fun accepted =>
      p.onData uuid parse keyOf socket accepted.1 accepted.2 peekBuffer
  | .services serviceInfos                 => some { publisher := p.setServices uuid serviceInfos }
  | .newTunnelFailed serviceId tunnelId    => some (p.onSessionFailed serviceId tunnelId)
  | .publisherClosed socket                =>
    (p.attached.lookup socket).map fun session => p.onPublisherClose session.1 session.2
  | .listenFailed acceptor                 => some { publisher := p.freeAcceptor acceptor }
  | .controlClosed                         => some { publisher := p.close }

/-- One event; `none` when it cannot happen, as nothing can after the process has ended. -/
def step (e : Event) : Option Publisher :=
  if p.crashed then none
  else
    (p.handle uuid parse keyOf e).map fun handled =>
      { handled.publisher with crashed := handled.threw }

/-- The session of a service. -/
def sessionAt (serviceId tunnelId : String) : Option Session :=
  (p.services.lookup serviceId).bind fun service => service.sessions.lookup tunnelId

end Publisher

/-- A publisher that has just connected. -/
def start (limit : Nat) : Publisher where
  limit := limit

end TunnelBore.TypeScript
