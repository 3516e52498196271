import TunnelBore.Broker.AuthorisedLink
import TunnelBore.Broker.LinkedStreams
import TunnelBore.Broker.Preamble

namespace TunnelBore

open TunnelBore.Lib
open TunnelBore.Broker (Direction Jwt LinkRun SessionId TunnelId)

/-!
# A tunnel from end to end

The bytes of a client pass the broker, the connection that the publisher has opened, and a pipe of
the publisher; those of the hidden service go the other way, behind the token.  The publisher opens
its connection when it is told of the client, and TCP delivers what is written to it in segments of
its own choosing.

* `Publisher.TunnelEnd` — the publisher's part of a tunnel;
* `Tunnel.step` — both parts, and the connection between them;
* `Tunnelled` — the invariant: the broker links after it has announced the client, and it has then
  read the preamble and nothing else;
* `end_to_end` — each end receives a prefix of what the other one sent, and all of it when nothing
  is on the way any more.
-/

/-! ### The publisher's part -/

namespace Publisher

/-- The connections of one call of `Service::createSession`: the way from the hidden service to the
    broker, which begins with the token, and the pipe to the hidden service. -/
structure TunnelEnd where
  toBroker : Direction := {}
  toService : Option PipeOperation := none
  deriving DecidableEq

namespace TunnelEnd

/-- `Service::createSession`, up to the `async_write` of the token. -/
def createSession (token : Bytes) : TunnelEnd where
  toBroker := { initial := some (prefixedToken token) }

/-- What can happen to the publisher's part. -/
inductive Event
  /-- The write of the token completes; `inwards` says that the hidden service is reached then. -/
  | tokenWritten (ec : Bool) (bytesWritten : Nat) (inwards : Bool)
  /-- Something happens to the pipe from the hidden service. -/
  | fromService (e : PipeOperation.Event)
  /-- Something happens to the pipe to the hidden service. -/
  | toService (e : PipeOperation.Event)
  deriving DecidableEq, Repr

variable (x : TunnelEnd)

/-- One event.  The pipes are started when the token is written and the hidden service is reached;
    otherwise the connection is closed. -/
def step : Event → Option TunnelEnd
  | .tokenWritten ec bytesWritten inwards =>
    (x.toBroker.step (.initialDone ec bytesWritten)).map fun d =>
      if d.pipe.isSome ∧ inwards then { toBroker := d, toService := some Direction.pipeTo }
      else { x with toBroker := { d with pipe := none } }
  | .fromService e => (x.toBroker.step (.pipe e)).map fun d => { x with toBroker := d }
  | .toService e =>
    match x.toService with
    | none => none
    | some p =>
      if e = .doPipe then none else (p.step e).map fun q => { x with toService := some q }

/-- What the pipe to the hidden service has read. -/
def received : Bytes := (x.toService.map fun p => p.chunks.flatten).getD []

/-- The ways of the publisher's part. -/
structure Ways (token : Bytes) (x : TunnelEnd) : Prop where
  toBroker : Direction.Stage (prefixedToken token) x.toBroker
  toService : ∀ p, x.toService = some p → p.Piping

variable {x} {x' : TunnelEnd} {e : Event} {token : Bytes}

theorem ways_empty (token : Bytes) : Ways token {} where
  toBroker := .unlinked
  toService _ h := by cases h

theorem ways_createSession (token : Bytes) : Ways token (createSession token) where
  toBroker := .writing
  toService _ h := by cases h

/-- Every event keeps both ways. -/
theorem Ways.step (hx : Ways token x) (h : x.step e = some x') : Ways token x' := by
  cases e with
  | tokenWritten ec n inwards =>
    obtain ⟨d, hd, rfl⟩ := Option.map_eq_some_iff.mp h
    have hstage := hx.toBroker.step hd
    split
    · refine ⟨hstage, fun p hp => ?_⟩
      obtain rfl := Option.some.inj hp
      exact Direction.piping_pipeTo
    · refine ⟨?_, hx.toService⟩
      -- a way that has lost its pipe is one whose token was written in part or as a whole
      cases hstage with
      | unlinked => exact .unlinked
      | writing => exact .writing
      | failed m => exact .failed m
      | piping p hp =>
        have hwritten : Direction.Stage (prefixedToken token)
            { written := (prefixedToken token).take (prefixedToken token).length } := .failed _
        rwa [List.take_length] at hwritten
  | fromService e =>
    obtain ⟨d, hd, rfl⟩ := Option.map_eq_some_iff.mp h
    exact ⟨hx.toBroker.step hd, hx.toService⟩
  | toService e =>
    simp only [TunnelEnd.step] at h
    split at h
    · cases h
    · next p hp =>
      split at h
      · cases h
      · obtain ⟨q, hq, rfl⟩ := Option.map_eq_some_iff.mp h
        refine ⟨hx.toBroker, fun r hr => ?_⟩
        obtain rfl := Option.some.inj hr
        exact (hx.toService p hp).step hq

end TunnelEnd

end Publisher

/-! ### Both parts, and the connection between them -/

namespace Wire

open TunnelBore.Broker.Traffic (controlView RejectsNul connectTunnels_chunk)

/-- A client with the publisher side that is to be linked to it, what the broker's first read of
    that connection brought, and the publisher's part. -/
structure Tunnel where
  broker : LinkRun
  preamble : Bytes := []
  publisher : Publisher.TunnelEnd := {}

/-- What can happen to a tunnel. -/
inductive TunnelEvent
  /-- The client's first read completes. -/
  | clientPeeked (session : Option SessionId) (now : Int) (ec : Bool) (chunk : Bytes)
  /-- The publisher has been told of the client and opens its connection. -/
  | newTunnel
  /-- The first read of the publisher's connection completes. -/
  | publisherPeeked (session : Option SessionId) (now : Int) (ec : Bool) (chunk : Bytes)
  /-- Something happens on the broker's way to the publisher side. -/
  | toPublisher (e : Direction.Event)
  /-- Something happens on the broker's way to the client. -/
  | toClient (e : Direction.Event)
  /-- Something happens to the publisher's part. -/
  | publisher (e : Publisher.TunnelEnd.Event)

namespace Tunnel

/-- What the broker has read from the publisher's connection. -/
def brokerReceived (x : Tunnel) : Bytes := x.preamble ++ x.broker.toClient.piped

/-- **TCP**: on both ways, what has been read is a prefix of what was written, where a write that is
    under way may have been carried in part. -/
def Carried (x : Tunnel) : Prop :=
  x.brokerReceived <+: x.publisher.toBroker.sent ++ x.publisher.toBroker.outgoing ∧
    x.publisher.received <+: x.broker.toPublisher.sent ++ x.broker.toPublisher.outgoing

instance (x : Tunnel) : Decidable x.Carried := inferInstanceAs (Decidable (_ ∧ _))

variable (jwt : Jwt Bytes) (publicJwtKey : String) (identityOf : SessionId → String)
variable (token : Bytes) (x : Tunnel)

/-- The part of an event that happens in one of the programs. -/
def move : TunnelEvent → Option Tunnel
  | .clientPeeked session now ec chunk =>
    let control := session.map (controlView jwt publicJwtKey identityOf now)
    (x.broker.step (.clientPeeked control ec chunk)).map fun r => { x with broker := r }
  | .newTunnel =>
    if x.broker.informed ∧ x.publisher = {} then
      some { x with publisher := .createSession token }
    else none
  | .publisherPeeked session now ec chunk =>
    let control := session.map (controlView jwt publicJwtKey identityOf now)
    (x.broker.step (.publisherPeeked control ec chunk)).map fun r =>
      { x with broker := r, preamble := if ec then [] else chunk }
  | .toPublisher e => (x.broker.step (.toPublisher e)).map fun r => { x with broker := r }
  | .toClient e => (x.broker.step (.toClient e)).map fun r => { x with broker := r }
  | .publisher e => (x.publisher.step e).map fun y => { x with publisher := y }

/-- One event; `none` when it cannot happen, as a read of what was not written cannot. -/
def step (e : TunnelEvent) : Option Tunnel :=
  (x.move jwt publicJwtKey identityOf token e).filter fun y => decide y.Carried

variable {jwt publicJwtKey identityOf token x} {y : Tunnel} {e : TunnelEvent}

theorem step_eq_some : x.step jwt publicJwtKey identityOf token e = some y ↔
    x.move jwt publicJwtKey identityOf token e = some y ∧ y.Carried := by
  unfold step
  rw [Option.filter_eq_some_iff, decide_eq_true_iff]

end Tunnel

/-! ### The invariant -/

/-- The last part of a token is a signature of fixed length, so that no valid token is the beginning
    of another one. -/
def PrefixFree (jwt : Jwt Bytes) (publicJwtKey : String) : Prop :=
  ∀ tokenData rest, jwt.signatureValid publicJwtKey tokenData = true →
    jwt.signatureValid publicJwtKey (tokenData ++ rest) = true → rest = []

/-- **The invariant.**  The publisher has opened its connection only if the client was announced,
    and nothing was linked before the broker had read the preamble, and nothing else, from it. -/
structure Tunnelled (token : Bytes) (x : Tunnel) : Prop where
  linking : LinkRun.Linking x.broker
  fresh : x.broker.publisherPeeked = false → x.broker.publisher.peekBuffer = List.replicate 4096 0
  unread : x.broker.publisherPeeked = false → x.preamble = [] ∧ x.broker.toClient = {}
  linked : x.broker.toClient = {} ∨ x.preamble = Publisher.prefixedToken token
  opened : x.broker.informed = false → x.publisher = {}
  ways : x.publisher.Ways token
  carried : x.Carried

namespace Tunnelled

variable {jwt : Jwt Bytes} {publicJwtKey : String} {identityOf : SessionId → String}
variable {token : Bytes} {x y : Tunnel} {e : TunnelEvent} {clientId : TunnelId}

theorem start (token : Bytes) (clientId : TunnelId) :
    Tunnelled token { broker := { clientId } } where
  linking := LinkRun.linking_empty clientId
  fresh _ := rfl
  unread _ := ⟨rfl, rfl⟩
  linked := .inl rfl
  opened _ := rfl
  ways := Publisher.TunnelEnd.ways_empty token
  carried := ⟨List.nil_prefix, List.nil_prefix⟩

/-- **What is linked has sent the preamble**: of a stream that begins with the preamble, the broker
    takes no other first chunk for a publisher side. -/
theorem preamble_of_connectTunnels (hnul : RejectsNul jwt publicJwtKey)
    (hfree : PrefixFree jwt publicJwtKey) (htoken : jwt.signatureValid publicJwtKey token = true)
    {t : Broker.TunnelSession} (hbuffer : t.peekBuffer = List.replicate 4096 0) {now : Int}
    {session : Option SessionId} {ec : Bool} {chunk later : Bytes} (hlength : chunk.length ≤ 4096)
    (haction : (t.peekHandler (session.map (controlView jwt publicJwtKey identityOf now)) ec
      chunk).2 = .connectTunnels clientId)
    (hstream : chunk <+: Publisher.prefixedToken token ++ later) :
    chunk = Publisher.prefixedToken token := by
  obtain ⟨-, separator, tokenData, verified, -, rfl, hverify, -, -⟩ :=
    connectTunnels_chunk hnul hbuffer hlength haction
  obtain ⟨claims, -, hvalid, -⟩ := (Broker.verifyPublisherToken_eq_some jwt).mp hverify
  have hsigned : jwt.signatureValid publicJwtKey tokenData = true := by
    unfold Jwt.verify at hvalid
    simp only [Bool.and_eq_true] at hvalid
    exact hvalid.1.1
  have hpreamble : Publisher.prefixedToken token =
      publisherToBrokerPrefix ++ ascii ':' :: token := by
    unfold Publisher.prefixedToken
    rw [List.append_assoc]
    rfl
  rw [hpreamble, List.append_assoc, List.prefix_append_right_inj, List.cons_append,
    List.cons_prefix_cons] at hstream
  obtain ⟨rfl, hstream⟩ := hstream
  -- one of two valid tokens is the beginning of the other
  have hsame : tokenData = token := by
    rcases List.prefix_or_prefix_of_prefix hstream (List.prefix_append token later) with hle | hle
    · obtain ⟨rest, rfl⟩ := hle
      rw [hfree tokenData rest hsigned htoken, List.append_nil]
    · obtain ⟨rest, rfl⟩ := hle
      rw [hfree token rest htoken hsigned, List.append_nil]
  rw [hpreamble, hsame]

/-- What the broker has read of the publisher's connection is a prefix of the preamble and what the
    hidden service has sent. -/
theorem brokerReceived_isPrefix (hways : x.publisher.Ways token) (hcarried : x.Carried) :
    x.brokerReceived <+: Publisher.prefixedToken token ++ x.publisher.toBroker.piped := by
  have hsent := hways.toBroker.sent_isPrefix x.publisher.toBroker.outgoing.length
  rw [List.take_length] at hsent
  exact hcarried.1.trans hsent

/-- Nothing happens on a way that is not linked. -/
theorem step_empty (e : Direction.Event) : ({} : Direction).step e = none := by
  cases e <;> rfl

/-- Nothing happens to a part of the publisher that was not opened. -/
theorem step_unopened (e : Publisher.TunnelEnd.Event) :
    ({} : Publisher.TunnelEnd).step e = none := by
  cases e <;> rfl

/-- What the first read of a publisher side leaves. -/
theorem publisherPeeked_cases {r r' : LinkRun} {control : Option Broker.ControlView} {ec : Bool}
    {chunk : Bytes} (h : r.step (.publisherPeeked control ec chunk) = some r') :
    r.publisherPeeked = false ∧ chunk.length ≤ 4096 ∧ r'.publisherPeeked = true ∧
      r'.informed = r.informed ∧
      ((r.publisher.peekHandler control ec chunk).2 = .connectTunnels r.clientId ∨
        r'.toClient = r.toClient) := by
  simp only [LinkRun.step, Option.ite_none_right_eq_some, Option.some.injEq] at h
  obtain ⟨⟨hunread, hlength⟩, rfl⟩ := h
  split
  · next haction => exact ⟨hunread, hlength, rfl, rfl, .inl haction⟩
  · exact ⟨hunread, hlength, rfl, rfl, .inr rfl⟩

/-- **The first read of the publisher's connection keeps the invariant.**  A first chunk that links
    is the preamble, so that the publisher has opened the connection, and the client was
    announced. -/
theorem publisherPeeked (hnul : RejectsNul jwt publicJwtKey) (hfree : PrefixFree jwt publicJwtKey)
    (htoken : jwt.signatureValid publicJwtKey token = true) (hx : Tunnelled token x)
    {session : Option SessionId} {now : Int} {ec : Bool} {chunk : Bytes} {r : LinkRun}
    (hr : x.broker.step (.publisherPeeked (session.map (controlView jwt publicJwtKey identityOf
      now)) ec chunk) = some r)
    (hcarried : Tunnel.Carried { x with broker := r, preamble := if ec then [] else chunk }) :
    Tunnelled token { x with broker := r, preamble := if ec then [] else chunk } := by
  obtain ⟨hunread, hlength, hread, hinformed, hcases⟩ := publisherPeeked_cases hr
  have hread : r.publisherPeeked ≠ false := by
    rw [hread]
    exact Bool.noConfusion
  -- a first chunk that links
  have hlinks : (x.broker.publisher.peekHandler (session.map (controlView jwt publicJwtKey
      identityOf now)) ec chunk).2 = .connectTunnels x.broker.clientId →
        (if ec then [] else chunk) = Publisher.prefixedToken token ∧
          x.broker.informed = true := by
    intro haction
    obtain ⟨_, _, rfl, -, hne, -⟩ := Broker.peekHandler_connectTunnels.mp haction
    have hcarriedChunk : chunk <+: x.publisher.toBroker.sent ++ x.publisher.toBroker.outgoing :=
      (List.prefix_append _ _).trans hcarried.1
    constructor
    · have hsent := hx.ways.toBroker.sent_isPrefix x.publisher.toBroker.outgoing.length
      rw [List.take_length] at hsent
      exact preamble_of_connectTunnels hnul hfree htoken (hx.fresh hunread) hlength haction
        (hcarriedChunk.trans hsent)
    · -- nothing comes from a connection that was not opened
      cases hopened : x.broker.informed with
      | true => rfl
      | false =>
        rw [hx.opened hopened] at hcarriedChunk
        exact absurd (List.prefix_nil.mp hcarriedChunk) hne
  refine
    { linking := hx.linking.step ?_ hr
      fresh := fun h => absurd h hread
      unread := fun h => absurd h hread
      linked := ?_
      opened := fun h => hx.opened (hinformed.symm.trans h)
      ways := hx.ways
      carried := hcarried }
  · by_cases haction : (x.broker.publisher.peekHandler (session.map (controlView jwt publicJwtKey
        identityOf now)) ec chunk).2 = .connectTunnels x.broker.clientId
    · simp [LinkRun.announced, (hlinks haction).2]
    · simp [LinkRun.announced, haction]
  · rcases hcases with haction | hsame
    · exact .inr (hlinks haction).1
    · exact .inl (hsame.trans (hx.unread hunread).2)

/-- **Every event keeps the invariant.** -/
theorem step (hnul : RejectsNul jwt publicJwtKey) (hfree : PrefixFree jwt publicJwtKey)
    (htoken : jwt.signatureValid publicJwtKey token = true) (hx : Tunnelled token x)
    (h : x.step jwt publicJwtKey identityOf token e = some y) : Tunnelled token y := by
  obtain ⟨hmove, hcarried⟩ := Tunnel.step_eq_some.mp h
  cases e with
  | clientPeeked session now ec chunk =>
    obtain ⟨r, hr, rfl⟩ := Option.map_eq_some_iff.mp hmove
    have hlinking := hx.linking.step rfl hr
    simp only [LinkRun.step, Option.ite_none_right_eq_some, Option.some.injEq] at hr
    obtain ⟨⟨hunread, -⟩, rfl⟩ := hr
    -- the client's first read was outstanding, so it was not announced
    have hsilent : x.broker.informed = false := by
      cases hinformed : x.broker.informed with
      | false => rfl
      | true =>
        have hpeeked := (hx.linking.chunk hinformed).1
        rw [hunread] at hpeeked
        cases hpeeked
    exact
      { linking := hlinking
        fresh := hx.fresh
        unread := hx.unread
        linked := hx.linked
        opened := fun _ => hx.opened hsilent
        ways := hx.ways
        carried := hcarried }
  | newTunnel =>
    simp only [Tunnel.move, Option.ite_none_right_eq_some, Option.some.injEq] at hmove
    obtain ⟨⟨hinformed, -⟩, rfl⟩ := hmove
    refine
      { hx with
        opened := fun hsilent => ?_
        ways := Publisher.TunnelEnd.ways_createSession token
        carried := hcarried }
    rw [show x.broker.informed = false from hsilent] at hinformed
    cases hinformed
  | publisherPeeked session now ec chunk =>
    obtain ⟨r, hr, rfl⟩ := Option.map_eq_some_iff.mp hmove
    exact publisherPeeked hnul hfree htoken hx hr hcarried
  | toPublisher e =>
    obtain ⟨r, hr, rfl⟩ := Option.map_eq_some_iff.mp hmove
    have hlinking := hx.linking.step rfl hr
    obtain ⟨d, -, rfl⟩ := Option.map_eq_some_iff.mp hr
    exact
      { linking := hlinking
        fresh := hx.fresh
        unread := hx.unread
        linked := hx.linked
        opened := hx.opened
        ways := hx.ways
        carried := hcarried }
  | toClient e =>
    obtain ⟨r, hr, rfl⟩ := Option.map_eq_some_iff.mp hmove
    have hlinking := hx.linking.step rfl hr
    obtain ⟨d, hd, rfl⟩ := Option.map_eq_some_iff.mp hr
    have hne : x.broker.toClient ≠ {} := by
      intro hempty
      rw [hempty, step_empty] at hd
      cases hd
    exact
      { linking := hlinking
        fresh := hx.fresh
        unread := fun hunread => absurd (hx.unread hunread).2 hne
        linked := .inr (hx.linked.resolve_left hne)
        opened := hx.opened
        ways := hx.ways
        carried := hcarried }
  | publisher e =>
    obtain ⟨z, hz, rfl⟩ := Option.map_eq_some_iff.mp hmove
    refine
      { hx with
        opened := fun hsilent => ?_
        ways := hx.ways.step hz
        carried := hcarried }
    rw [hx.opened hsilent, step_unopened] at hz
    cases hz

end Tunnelled

/-! ### From end to end -/

namespace Tunnel

variable (x : Tunnel)

/-- What the client has sent, as far as the broker has read it. -/
def clientStream : Bytes := x.broker.clientStream

/-- What the hidden service has sent, as far as the publisher has read it. -/
def serviceStream : Bytes := x.publisher.toBroker.piped

/-- What was written to the hidden service. -/
def toService : Bytes := (x.publisher.toService.map PipeOperation.accepted).getD []

/-- The bytes of the write to the hidden service that is under way. -/
def toServiceOutgoing : Bytes := (x.publisher.toService.map PipeOperation.outgoing).getD []

/-- What was written to the client. -/
def toClient : Bytes := x.broker.toClient.sent

end Tunnel

/-- The contract of a tunnel. -/
structure EndToEnd (x : Tunnel) : Prop where
  /-- What is written to the hidden service, counting any part of the write under way, is a prefix
      of the client's stream. -/
  toService : ∀ n, x.toService ++ x.toServiceOutgoing.take n <+: x.clientStream
  /-- What is written to the client is a prefix of what the hidden service has sent. -/
  toClient : ∀ n, x.toClient ++ x.broker.toClient.outgoing.take n <+: x.serviceStream
  /-- The hidden service has everything when both pipes wait for a read and the connection between
      them is empty. -/
  allToService : ∀ p q, x.broker.toPublisher.pipe = some p → x.publisher.toService = some q →
    p.pending = .read → q.pending = .read →
    x.publisher.received = x.broker.toPublisher.sent → x.toService = x.clientStream
  /-- So it is for the client. -/
  allToClient : ∀ p q, x.publisher.toBroker.pipe = some p → x.broker.toClient.pipe = some q →
    p.pending = .read → q.pending = .read →
    x.brokerReceived = x.publisher.toBroker.sent → x.toClient = x.serviceStream

namespace Tunnelled

variable {token : Bytes} {x : Tunnel}

/-- Behind the preamble, the broker reads what the hidden service has sent. -/
theorem piped_isPrefix (hx : Tunnelled token x) (hlinked : x.broker.toClient ≠ {}) :
    x.broker.toClient.piped <+: x.serviceStream := by
  have hread := brokerReceived_isPrefix hx.ways hx.carried
  unfold Tunnel.brokerReceived at hread
  rw [hx.linked.resolve_left hlinked, List.prefix_append_right_inj] at hread
  exact hread

theorem endToEnd (hx : Tunnelled token x) : EndToEnd x := by
  have hlost := hx.linking.losesNothing
  refine ⟨fun n => ?_, fun n => ?_, fun p q hp hq hpread hqread hempty => ?_,
    fun p q hp hq hpread hqread hempty => ?_⟩
  · unfold Tunnel.toService Tunnel.toServiceOutgoing
    have hreceived := hx.carried.2
    unfold Publisher.TunnelEnd.received at hreceived
    cases hq : x.publisher.toService with
    | none =>
      show [] ++ List.take n [] <+: _
      rw [List.take_nil]
      exact List.nil_prefix
    | some q =>
      rw [hq] at hreceived
      have hsent := hlost.toPublisher x.broker.toPublisher.outgoing.length
      rw [List.take_length] at hsent
      calc q.accepted ++ q.outgoing.take n
          <+: q.chunks.flatten := (hx.ways.toService q hq).forwardsExactly.isPrefix n
        _ <+: x.broker.toPublisher.sent ++ x.broker.toPublisher.outgoing := hreceived
        _ <+: x.clientStream := hsent
  · by_cases hlinked : x.broker.toClient = {}
    · unfold Tunnel.toClient
      rw [hlinked]
      show [] ++ List.take n [] <+: _
      rw [List.take_nil]
      exact List.nil_prefix
    · exact (hlost.toClient n).trans (hx.piped_isPrefix hlinked)
  · unfold Tunnel.toService
    unfold Publisher.TunnelEnd.received at hempty
    rw [hq] at hempty ⊢
    calc q.accepted
        = q.chunks.flatten := (hx.ways.toService q hq).forwardsExactly.reads hqread
      _ = x.broker.toPublisher.sent := hempty
      _ = x.clientStream := hx.linking.toPublisher.sent_of_read hp hpread
  · have hlinked : x.broker.toClient ≠ {} := by
      intro hnone
      rw [hnone] at hq
      cases hq
    have hsent := hx.ways.toBroker.sent_of_read hp hpread
    rw [hsent] at hempty
    unfold Tunnel.brokerReceived at hempty
    rw [hx.linked.resolve_left hlinked] at hempty
    calc x.toClient
        = [] ++ x.broker.toClient.piped := hx.linking.toClient.sent_of_read hq hqread
      _ = x.serviceStream := List.append_cancel_left hempty

end Tunnelled

/-- A client sends `x`, the hidden service answers `y`, and both arrive. -/
def eventsRoundTrip : List TunnelEvent :=
  [.clientPeeked (some 0) 0 false (asciiString "x"),
    .newTunnel,
    .publisher (.tokenWritten false 136 true),
    .publisherPeeked (some 0) 0 false (Broker.chunkNaming "c"),
    .toPublisher (.initialDone false 1),
    .publisher (.toService (.readDone false (asciiString "x"))),
    .publisher (.toService (.writeDone false 1)),
    .publisher (.fromService (.readDone false (asciiString "y"))),
    .publisher (.fromService (.writeDone false 1)),
    .toClient (.pipe (.readDone false (asciiString "y"))),
    .toClient (.pipe (.writeDone false 1))]

end Wire

end TunnelBore
