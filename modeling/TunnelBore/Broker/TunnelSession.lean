import Mathlib.Data.Finset.Card
import TunnelBore.Lib.Tasks
import TunnelBore.Shared.Bytes

namespace TunnelBore.Broker

open TunnelBore.Lib

/-!
# Tunnel sessions and the service that owns them

One broker `Service` with its map `sessions` and the `TunnelSession` objects that exist, and
the functions that close, link and remove them.  These functions call each other across the
two classes and `PipeOperation`, and they run while the map and the objects change under
them, so they are written as tasks of a call stack: `expand s a` is one call, up to its first
inner call, with the rest of the body pushed as tasks.

Lifetimes are explicit.  A session is alive while the map or another `shared_ptr` owns it
(`owners` counts the latter); when the last owner lets go it is destroyed, and its
destructor closes it and then its pipe operation.  A `weak_ptr` can be locked while the
session is alive.

The operation a session holds always has that session as its `sideOriginal`, so the field
`pipeOperation` only records the `sideOther`.
-/

/-- `tunnelId`, a UUID. -/
abbrev TunnelId := String

/-- The part of `TunnelSession::Implementation` that closing and linking use. -/
structure TunnelSession where
  peekBuffer : Bytes := List.replicate 4096 0
  isPublisherSide : Bool := false
  wasClosed : Bool := false
  /-- The `sideOther` of the pipe operation, if there is one. -/
  pipeOperation : Option TunnelId := none
  /-- How many `shared_ptr`s besides the map's own the session. -/
  owners : Nat := 0
  deriving DecidableEq, Repr

/-- The mutexes these functions take: a `closeLock` for each session and one `sessionGuard`. -/
inductive Mutex
  | closeLock (id : TunnelId)
  | sessionGuard
  deriving DecidableEq, Repr

/-- What a run leaves in the record of the service. -/
inductive Effect
  /-- `link` is executed for these two sides. -/
  | link (client publisher : TunnelId)
  /-- `link` writes the peek buffer of `source` to the socket of `target`. -/
  | initialWrite (source target : TunnelId) (bytes : Bytes)
  /-- The publisher is told of this client. -/
  | inform (id : TunnelId)
  /-- `sessions.erase` on an iterator that is valid, or that no longer is. -/
  | erase (id : TunnelId) (valid : Bool)
  /-- A function uses a session that does not exist any more. -/
  | dangling (id : TunnelId)
  deriving DecidableEq, Repr

/-- A `Service`, the sessions that exist, the initial writes in flight and the record. -/
structure Service where
  tunnels : List (TunnelId × TunnelSession) := []
  sessions : Finset TunnelId := ∅
  initialWrites : List (TunnelId × TunnelId) := []
  effects : List Effect := []
  deriving DecidableEq

namespace Service

/-- The session with this id, if it exists. -/
def tunnel (s : Service) (id : TunnelId) : Option TunnelSession := s.tunnels.lookup id

/-- Change the session with this id. -/
def modify (s : Service) (id : TunnelId) (f : TunnelSession → TunnelSession) : Service :=
  { s with tunnels := s.tunnels.map fun entry =>
      if entry.1 = id then (entry.1, f entry.2) else entry }

/-- Add to the record. -/
def record (s : Service) (effect : Effect) : Service :=
  { s with effects := s.effects ++ [effect] }

/-- `weak_ptr::lock` would succeed. -/
def alive (s : Service) (id : TunnelId) : Bool :=
  (s.tunnel id).any fun t => id ∈ s.sessions || 0 < t.owners

/-- One more `shared_ptr` owns the session. -/
def acquire (s : Service) (id : TunnelId) : Service :=
  s.modify id fun t => { t with owners := t.owners + 1 }

end Service

/-- The functions, with the parts of their bodies that follow an inner call. -/
inductive Act
  /-- `TunnelSession::close`. -/
  | close (id : TunnelId)
  /-- The block of `close` under `closeLock`, and what follows it. -/
  | closeGuarded (id : TunnelId)
  /-- `PipeOperation::close`, also the destructor's. -/
  | pipeClose (sideOriginal sideOther : TunnelId)
  /-- `impl_->pipeOperation.reset()`. -/
  | pipeReset (id : TunnelId)
  /-- `impl_->pipeOperation = pipeTo(other)`. -/
  | pipeAssign (id other : TunnelId)
  /-- A `shared_ptr` to the session goes out of scope. -/
  | release (id : TunnelId)
  /-- `TunnelSession::~TunnelSession`. -/
  | destroy (id : TunnelId)
  /-- The members of the session are destroyed. -/
  | free (id : TunnelId)
  /-- `Service::closeTunnelSide`. -/
  | closeTunnelSide (id : TunnelId) (wasPreclosed : Bool)
  /-- The body of `closeTunnelSide` under `sessionGuard`. -/
  | closeTunnelSideGuarded (id : TunnelId) (wasPreclosed : Bool)
  /-- `impl_->sessions.erase(tunnelSide)`. -/
  | erase (id : TunnelId)
  /-- `Service::connectTunnels`. -/
  | connectTunnels (client publisher : TunnelId)
  /-- The body of `connectTunnels` under `sessionGuard`. -/
  | connectTunnelsGuarded (client publisher : TunnelId)
  /-- One half of `TunnelSession::link`, from `id` to `other`. -/
  | linkHalf (id other : TunnelId)
  deriving DecidableEq, Repr

/-- A call stack of these functions. -/
abbrev Program := List (Task Mutex Act)

namespace Service

variable (s : Service)

/-- `close` under the lock: nothing if closed already, else mark, close the pipe operation
    and let go of it, and, the lock released, leave the map. -/
def closeGuarded (id : TunnelId) : Service × Program :=
  match s.tunnel id with
  | none   => (s, [.unlock (.closeLock id)])
  | some t =>
    if t.wasClosed then
      (s, [.unlock (.closeLock id)])
    else
      (s.modify id fun t => { t with wasClosed := true },
        (match t.pipeOperation with
          | none       => []
          | some other => [.act (.pipeClose id other), .act (.pipeReset id)]) ++
        [.unlock (.closeLock id), .act (.closeTunnelSide id true)])

/-- `PipeOperation::close`: both sides are locked first, then closed, and the two
    `shared_ptr`s go out of scope at the end. -/
def pipeClose (sideOriginal sideOther : TunnelId) : Service × Program :=
  let ends := [sideOriginal, sideOther].filter s.alive
  (ends.foldl acquire s,
    ends.map (fun id => .act (.close id)) ++ ends.reverse.map (fun id => .act (.release id)))

/-- `pipeOperation.reset()`: the pointer is cleared, then the operation destroyed. -/
def pipeReset (id : TunnelId) : Service × Program :=
  match (s.tunnel id).bind TunnelSession.pipeOperation with
  | none       => (s, [])
  | some other =>
    (s.modify id fun t => { t with pipeOperation := none }, [.act (.pipeClose id other)])

/-- `pipeOperation = pipeTo(other)`: the new operation is in place when the old one is
    destroyed. -/
def pipeAssign (id other : TunnelId) : Service × Program :=
  (s.modify id fun t => { t with pipeOperation := some other },
    match (s.tunnel id).bind TunnelSession.pipeOperation with
    | none     => []
    | some old => [.act (.pipeClose id old)])

/-- The destructor runs when the last owner is gone. -/
def destroyIfUnowned (id : TunnelId) : Program :=
  if (s.tunnel id).isSome ∧ ¬s.alive id then [.act (.destroy id)] else []

/-- One owner less. -/
def release (id : TunnelId) : Service × Program :=
  if (s.tunnel id).any fun t => 0 < t.owners then
    let s' := s.modify id fun t => { t with owners := t.owners - 1 }
    (s', s'.destroyIfUnowned id)
  else
    (s, [])

/-- The members of a session are destroyed, its pipe operation among them. -/
def free (id : TunnelId) : Service × Program :=
  ({ s with tunnels := s.tunnels.filter fun entry => entry.1 ≠ id },
    match (s.tunnel id).bind TunnelSession.pipeOperation with
    | none       => []
    | some other => [.act (.pipeClose id other)])

/-- `closeTunnelSide` under `sessionGuard`. -/
def closeTunnelSideGuarded (id : TunnelId) (wasPreclosed : Bool) : Service × Program :=
  if id ∈ s.sessions then
    (s, (if wasPreclosed then [] else [.act (.close id)]) ++
      [.act (.erase id), .unlock .sessionGuard])
  else
    (s, [.unlock .sessionGuard])

/-- `erase` through the iterator that was found for `id`. -/
def erase (id : TunnelId) : Service × Program :=
  if id ∈ s.sessions then
    let s' := { s with sessions := s.sessions.erase id }.record (.erase id true)
    (s', s'.destroyIfUnowned id)
  else
    (s.record (.erase id false), [])

/-- `connectTunnels` under `sessionGuard`. -/
def connectTunnelsGuarded (client publisher : TunnelId) : Service × Program :=
  if client ∉ s.sessions then
    (s, [.act (.closeTunnelSide publisher false), .unlock .sessionGuard])
  else if publisher ∉ s.sessions then
    (s, [.act (.closeTunnelSide client false), .unlock .sessionGuard])
  else
    (s.record (.link client publisher),
      [.act (.linkHalf client publisher), .act (.linkHalf publisher client),
        .unlock .sessionGuard])

/-- `async_write` of a peek buffer, with both sessions owned by the completion handler. -/
def startInitialWrite (id other : TunnelId) (bytes : Bytes) : Service where
  tunnels := ((s.acquire id).acquire other).tunnels
  sessions := s.sessions
  initialWrites := s.initialWrites ++ [(id, other)]
  effects := s.effects ++ [.initialWrite id other bytes]

/-- One half of `link`: a non-empty peek buffer is written first; else the pipe starts at
    once.  Both ways use both sessions, which are references here: nothing keeps them alive. -/
def linkHalf (id other : TunnelId) : Service × Program :=
  match s.tunnel id with
  | none   => (s.record (.dangling id), [])
  | some t =>
    if t.peekBuffer = [] then
      if (s.tunnel other).isSome then (s, [.act (.pipeAssign id other)])
      else (s.record (.dangling other), [])
    else if s.alive id ∧ s.alive other then
      (s.startInitialWrite id other t.peekBuffer, [])
    else
      (s.record (.dangling other), [])

/-- One call, up to its first inner call. -/
def expand : Act → Service × Program
  | .close id                     => (s, [.lock (.closeLock id), .act (.closeGuarded id)])
  | .closeGuarded id              => s.closeGuarded id
  | .pipeClose original other     => s.pipeClose original other
  | .pipeReset id                 => s.pipeReset id
  | .pipeAssign id other          => s.pipeAssign id other
  | .release id                   => s.release id
  | .destroy id                   => (s, [.act (.close id), .act (.free id)])
  | .free id                      => s.free id
  | .closeTunnelSide id pre       =>
    (s, [.lock .sessionGuard, .act (.closeTunnelSideGuarded id pre)])
  | .closeTunnelSideGuarded id pre => s.closeTunnelSideGuarded id pre
  | .erase id                     => s.erase id
  | .connectTunnels client publisher =>
    (s, [.lock .sessionGuard, .act (.connectTunnelsGuarded client publisher)])
  | .connectTunnelsGuarded client publisher => s.connectTunnelsGuarded client publisher
  | .linkHalf id other            => s.linkHalf id other

end Service

end TunnelBore.Broker
