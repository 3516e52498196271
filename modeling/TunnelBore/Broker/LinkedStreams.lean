import TunnelBore.Broker.Peek
import TunnelBore.Shared.PipeOperation

namespace TunnelBore.Broker

open TunnelBore.Lib

/-!
# The streams of a linked pair

A client's first chunk is read by `peek`, kept in its `peekBuffer` and written by `link`; only
then does a `PipeOperation` read on.  The publisher side's first chunk is its token, which
`peek` cuts out of the buffer and clears.  A `Direction` is the way from one socket to the
other, through both mechanisms.

A publisher side learns of a client when the client's first read has been handled
(`informAboutConnection`).  `link` does not check that: it writes the buffer as it is.

* `Direction.Stage` is the invariant of one way, `Direction.Stage.step` its step lemma;
* `loses_nothing` is the contract of both ways, when `link` follows `informAboutConnection`;
* `link_writes_padding` is the run in which it does not.
-/

/-! ### One way -/

/-- The way from one socket to another: the initial write while it is under way, what its
    completion reported as written, and the pipe that is started after it. -/
structure Direction where
  initial : Option Bytes := none
  written : Bytes := []
  pipe : Option PipeOperation := none
  deriving DecidableEq

namespace Direction

/-- What can happen on one way. -/
inductive Event
  /-- The initial write completes. -/
  | initialDone (ec : Bool) (bytesWritten : Nat)
  /-- Something happens to the pipe. -/
  | pipe (e : PipeOperation.Event)
  deriving DecidableEq, Repr

/-- `TunnelSession::pipeTo`: a new operation, with `doPipe` called on it. -/
def pipeTo : PipeOperation := ({} : PipeOperation).read

/-- One half of `TunnelSession::link`: the peek buffer is written first, if there is one. -/
def link (peekBuffer : Bytes) : Direction :=
  if peekBuffer.isEmpty then { pipe := some pipeTo } else { initial := some peekBuffer }

/-- One event.  `async_write` completes without an error only when all bytes are written, and
    the pipe is started only then. -/
def step (d : Direction) : Event → Option Direction
  | .initialDone ec bytesWritten =>
    match d.initial with
    | none => none
    | some bytes =>
      if bytesWritten = bytes.length ∨ (ec = true ∧ bytesWritten ≤ bytes.length) then
        some
          { initial := none
            written := bytes.take bytesWritten
            pipe := if ec then none else some pipeTo }
      else none
  | .pipe e =>
    match d.pipe with
    | none => none
    | some p =>
      -- `doPipe` was called by `pipeTo`, and is not called again
      if e = .doPipe then none else (p.step e).map fun q => { d with pipe := some q }

/-- All bytes that the completions reported as written to the target socket. -/
def sent (d : Direction) : Bytes :=
  d.written ++ (d.pipe.map PipeOperation.accepted).getD []

/-- The bytes of the write that is under way. -/
def outgoing (d : Direction) : Bytes :=
  match d.pipe with
  | some p => p.outgoing
  | none => d.initial.getD []

/-- What the pipe has read from the source socket. -/
def piped (d : Direction) : Bytes :=
  (d.pipe.map fun p => p.chunks.flatten).getD []

/-- Where a way stands whose source sent `first` before it was linked. -/
inductive Stage (first : Bytes) : Direction → Prop
  /-- It is not linked. -/
  | unlinked : Stage first {}
  /-- The initial write is under way. -/
  | writing : Stage first { initial := some first }
  /-- The initial write failed. -/
  | failed (n : Nat) : Stage first { written := first.take n }
  /-- The first bytes are written, and a pipe goes on. -/
  | piping (p : PipeOperation) (hp : p.Piping) : Stage first { written := first, pipe := some p }

variable {d d' : Direction} {e : Event} {first : Bytes}

/-- A new pipe is a pipe after `doPipe`. -/
theorem piping_pipeTo : pipeTo.Piping :=
  PipeOperation.piping_empty.step (e := .doPipe) rfl

/-- `link` starts with the bytes of the peek buffer. -/
theorem stage_link (first : Bytes) : Stage first (link first) := by
  unfold link
  cases first with
  | nil => exact .piping pipeTo piping_pipeTo
  | cons c cs => exact .writing

/-- **Every event takes a way from one stage to another.** -/
theorem Stage.step (hd : Stage first d) (h : d.step e = some d') : Stage first d' := by
  cases e with
  | initialDone ec n =>
    cases hd with
    | unlinked => cases h
    | failed => cases h
    | piping => cases h
    | writing =>
      simp only [Direction.step, Option.ite_none_right_eq_some, Option.some.injEq] at h
      obtain ⟨hn, rfl⟩ := h
      cases ec with
      | true => exact .failed n
      | false =>
        have hall : first.take n = first := by
          rcases hn with rfl | ⟨hec, -⟩
          · exact List.take_length
          · cases hec
        rw [hall]
        exact .piping pipeTo piping_pipeTo
  | pipe e =>
    cases hd with
    | unlinked => cases h
    | failed => cases h
    | writing => cases h
    | piping p hp =>
      simp only [Direction.step] at h
      split at h
      · cases h
      · obtain ⟨q, hq, rfl⟩ := Option.map_eq_some_iff.mp h
        exact .piping q (hp.step hq)

/-- What has been written, counting any part of the write under way, is a prefix of what the
    source has sent. -/
theorem Stage.sent_isPrefix (hd : Stage first d) (n : Nat) :
    d.sent ++ d.outgoing.take n <+: first ++ d.piped := by
  cases hd with
  | unlinked =>
    show [] ++ List.take n [] <+: first ++ []
    rw [List.take_nil]
    exact List.nil_prefix
  | writing =>
    show [] ++ first.take n <+: first ++ []
    rw [List.append_nil]
    exact List.take_prefix n first
  | failed m =>
    show first.take m ++ [] ++ List.take n [] <+: first ++ []
    rw [List.take_nil, List.append_nil, List.append_nil, List.append_nil]
    exact List.take_prefix m first
  | piping p hp =>
    show first ++ p.accepted ++ p.outgoing.take n <+: first ++ p.chunks.flatten
    rw [List.append_assoc, List.prefix_append_right_inj]
    exact hp.forwardsExactly.isPrefix n

/-- A pipe is started only after all of the first bytes have been written. -/
theorem Stage.written_of_pipe (hd : Stage first d) (h : d.pipe ≠ none) : d.written = first := by
  cases hd with
  | unlinked => exact absurd rfl h
  | writing => exact absurd rfl h
  | failed n => exact absurd rfl h
  | piping p hp => rfl

/-- A way whose pipe waits for a read has written everything. -/
theorem Stage.sent_of_read (hd : Stage first d) {p : PipeOperation} (hpipe : d.pipe = some p)
    (hread : p.pending = .read) : d.sent = first ++ d.piped := by
  cases hd with
  | unlinked => cases hpipe
  | writing => cases hpipe
  | failed n => cases hpipe
  | piping q hq =>
    obtain rfl := Option.some.inj hpipe
    show first ++ q.accepted = first ++ q.chunks.flatten
    rw [hq.forwardsExactly.reads hread]

end Direction

/-! ### A client and the publisher side that names it -/

/-- The two sessions, what their first reads brought, and the two ways between them. -/
structure LinkRun where
  clientId : TunnelId
  client : TunnelSession := {}
  publisher : TunnelSession := {}
  /-- What the client's first read brought, once it completed without an error. -/
  firstChunk : Option Bytes := none
  clientPeeked : Bool := false
  publisherPeeked : Bool := false
  informed : Bool := false
  toPublisher : Direction := {}
  toClient : Direction := {}

/-- What can happen to the pair. -/
inductive LinkEvent
  /-- The client's first read completes. -/
  | clientPeeked (control : Option ControlView) (ec : Bool) (chunk : Bytes)
  /-- The publisher side's first read completes. -/
  | publisherPeeked (control : Option ControlView) (ec : Bool) (chunk : Bytes)
  /-- Something happens on the way to the publisher side. -/
  | toPublisher (e : Direction.Event)
  /-- Something happens on the way to the client. -/
  | toClient (e : Direction.Event)

namespace LinkRun

/-- `TunnelSession::link`, called on the client. -/
def link (r : LinkRun) : LinkRun :=
  { r with
    toPublisher := .link r.client.peekBuffer
    toClient := .link r.publisher.peekBuffer }

/-- One event; `none` when it cannot happen. -/
def step (r : LinkRun) : LinkEvent → Option LinkRun
  | .clientPeeked control ec chunk =>
    if r.clientPeeked = false ∧ chunk.length ≤ 4096 then
      let (client, action) := r.client.peekHandler control ec chunk
      some { r with
        client
        firstChunk := if ec then none else some chunk
        clientPeeked := true
        informed := action = .informAboutConnection }
    else none
  | .publisherPeeked control ec chunk =>
    if r.publisherPeeked = false ∧ chunk.length ≤ 4096 then
      let (publisher, action) := r.publisher.peekHandler control ec chunk
      let peeked := { r with publisher, publisherPeeked := true }
      some (if action = .connectTunnels r.clientId then peeked.link else peeked)
    else none
  | .toPublisher e => (r.toPublisher.step e).map fun d => { r with toPublisher := d }
  | .toClient e => (r.toClient.step e).map fun d => { r with toClient := d }

/-- The condition: a publisher side names the client after the client was announced. -/
def announced (r : LinkRun) : LinkEvent → Bool
  | .publisherPeeked control ec chunk =>
    (r.publisher.peekHandler control ec chunk).2 != .connectTunnels r.clientId || r.informed
  | _ => true

/-- The client's stream, as far as it has been read. -/
def clientStream (r : LinkRun) : Bytes :=
  r.firstChunk.getD [] ++ r.toPublisher.piped

/-- What the publisher side sent after its token chunk, as far as it has been read. -/
def publisherStream (r : LinkRun) : Bytes := r.toClient.piped

/-- The contract of a linked pair. -/
structure LosesNothing (r : LinkRun) : Prop where
  /-- What is written to the publisher side, counting any part of the write under way, is a
      prefix of the client's stream. -/
  toPublisher : ∀ n, r.toPublisher.sent ++ r.toPublisher.outgoing.take n <+: r.clientStream
  /-- The pipe from the client exists, and reads, only when the whole first chunk is written. -/
  firstChunk : ∀ p, r.toPublisher.pipe = some p → ∃ chunk, r.firstChunk = some chunk ∧
    chunk ≠ [] ∧ r.toPublisher.sent = chunk ++ p.accepted
  /-- What is written to the client is a prefix of what the publisher side sent behind its
      token. -/
  toClient : ∀ n, r.toClient.sent ++ r.toClient.outgoing.take n <+: r.publisherStream

/-- What a run under the condition keeps. -/
structure Linking (r : LinkRun) : Prop where
  chunk : r.informed = true → r.clientPeeked = true ∧
    ∃ chunk, r.firstChunk = some chunk ∧ chunk ≠ [] ∧ r.client.peekBuffer = chunk
  linked : r.informed = false → r.toPublisher = {}
  toPublisher : Direction.Stage (r.firstChunk.getD []) r.toPublisher
  toClient : Direction.Stage [] r.toClient

theorem linking_empty (clientId : TunnelId) : Linking { clientId } where
  chunk h := by cases h
  linked _ := rfl
  toPublisher := .unlinked
  toClient := .unlinked

variable {r r' : LinkRun} {e : LinkEvent}

/-- Linking an announced client puts both ways on their first stage. -/
theorem Linking.link (hr : Linking r) (hinformed : r.informed = true)
    (hpublisher : r.publisher.peekBuffer = []) : Linking r.link := by
  obtain ⟨-, chunk, hchunk, -, hbuffer⟩ := hr.chunk hinformed
  refine ⟨hr.chunk, fun h => ?_, ?_, ?_⟩
  · rw [show r.informed = false from h] at hinformed
    cases hinformed
  · show Direction.Stage (r.firstChunk.getD []) (Direction.link r.client.peekBuffer)
    rw [hchunk, hbuffer]
    exact Direction.stage_link chunk
  · show Direction.Stage [] (Direction.link r.publisher.peekBuffer)
    rw [hpublisher]
    exact Direction.stage_link []

/-- **Every event keeps the invariant**, a publisher side's first read under the condition. -/
theorem Linking.step (hr : Linking r) (hguard : r.announced e = true)
    (h : r.step e = some r') : Linking r' := by
  cases e with
  | clientPeeked control ec chunk =>
    simp only [LinkRun.step, Option.ite_none_right_eq_some, Option.some.injEq] at h
    obtain ⟨hcond, rfl⟩ := h
    -- the first read was outstanding, so nothing is announced or linked yet
    have hsilent : r.informed = false := by
      cases hinformed : r.informed with
      | false => rfl
      | true =>
        have hpeeked := (hr.chunk hinformed).1
        rw [hcond.1] at hpeeked
        cases hpeeked
    refine ⟨fun hinformed => ⟨rfl, ?_⟩, fun _ => hr.linked hsilent, ?_, hr.toClient⟩
    · obtain ⟨rfl, hne, -, hbuffer⟩ :=
        peekBuffer_of_informAboutConnection (of_decide_eq_true hinformed)
      exact ⟨chunk, rfl, hne, hbuffer⟩
    · show Direction.Stage _ r.toPublisher
      rw [hr.linked hsilent]
      exact .unlinked
  | publisherPeeked control ec chunk =>
    simp only [LinkRun.step, Option.ite_none_right_eq_some, Option.some.injEq] at h
    obtain ⟨-, rfl⟩ := h
    have hpeeked : Linking { r with
        publisher := (r.publisher.peekHandler control ec chunk).1
        publisherPeeked := true } := ⟨hr.chunk, hr.linked, hr.toPublisher, hr.toClient⟩
    split
    · next haction =>
      have hinformed : r.informed = true := by
        simpa [announced, haction] using hguard
      exact hpeeked.link hinformed (peekBuffer_of_connectTunnels haction).1
    · exact hpeeked
  | toPublisher e =>
    obtain ⟨d, hd, rfl⟩ := Option.map_eq_some_iff.mp h
    refine ⟨hr.chunk, fun hinformed => ?_, hr.toPublisher.step hd, hr.toClient⟩
    -- nothing happens on a way that is not linked
    rw [hr.linked hinformed] at hd
    cases e <;> cases hd
  | toClient e =>
    obtain ⟨d, hd, rfl⟩ := Option.map_eq_some_iff.mp h
    exact ⟨hr.chunk, hr.linked, hr.toPublisher, hr.toClient.step hd⟩

theorem Linking.losesNothing (hr : Linking r) : LosesNothing r := by
  refine ⟨hr.toPublisher.sent_isPrefix, fun p hp => ?_, hr.toClient.sent_isPrefix⟩
  have hinformed : r.informed = true := by
    cases hinformed : r.informed with
    | true => rfl
    | false =>
      rw [hr.linked hinformed] at hp
      cases hp
  obtain ⟨-, chunk, hchunk, hne, -⟩ := hr.chunk hinformed
  refine ⟨chunk, hchunk, hne, ?_⟩
  have hwritten := hr.toPublisher.written_of_pipe (by rw [hp]; simp)
  unfold Direction.sent
  rw [hwritten, hp, hchunk]
  rfl

/-- **The broker loses nothing of a stream around peek and link**, in every run in which a
    publisher side names the client only after the client was announced. -/
theorem loses_nothing {clientId : TunnelId} {events : List LinkEvent}
    (hguard : Along LinkRun.step (fun r e => r.announced e = true) { clientId } events)
    (hrun : run LinkRun.step { clientId } events = some r) : LosesNothing r :=
  (run_invariant (fun _ _ _ hr hg h => hr.step hg h) (linking_empty clientId) hguard
    hrun).losesNothing

/-- A client is announced and linked, and a second chunk of it is read. -/
def eventsAnnounced : List LinkEvent :=
  [.clientPeeked (some (viewNaming "c")) false (asciiString "x"),
    .publisherPeeked (some (viewNaming "c")) false (chunkNaming "c"),
    .toPublisher (.initialDone false 1),
    .toPublisher (.pipe (.readDone false (asciiString "y")))]

/-- The publisher side names the client before the client's first read completes. -/
def eventsUnannounced : List LinkEvent :=
  [.publisherPeeked (some (viewNaming "c")) false (chunkNaming "c"),
    .toPublisher (.initialDone false 4096),
    .clientPeeked (some (viewNaming "c")) false (asciiString "x")]

/-- An announced client: its first chunk has arrived, its second is on the way. -/
theorem loses_nothing_announced :
    ∃ r, run LinkRun.step { clientId := "c" } eventsAnnounced = some r ∧
      r.toPublisher.sent = asciiString "x" ∧ r.clientStream = asciiString "xy" ∧
      LosesNothing r := by
  have hrun : ∃ r, run LinkRun.step { clientId := "c" } eventsAnnounced = some r ∧
      r.toPublisher.sent = asciiString "x" ∧ r.clientStream = asciiString "xy" :=
    ⟨_, Option.eq_some_of_isSome (by decide +kernel), by decide +kernel, by decide +kernel⟩
  obtain ⟨r, hrun, hsent, hstream⟩ := hrun
  have hguard : Along LinkRun.step (fun r e => r.announced e = true) { clientId := "c" }
      eventsAnnounced := by decide +kernel
  exact ⟨r, hrun, hsent, hstream, loses_nothing hguard hrun⟩

/-- A client that was not announced: `link` writes the 4096 zeros of its empty peek buffer, so
    that the publisher side does not receive a prefix of the client's stream. -/
theorem link_writes_padding :
    ∃ r, run LinkRun.step { clientId := "c" } eventsUnannounced = some r ∧
      r.toPublisher.sent.length = 4096 ∧ r.toPublisher.sent.all (· == 0) = true ∧
      r.clientStream = asciiString "x" ∧ ¬LosesNothing r := by
  have hrun : ∃ r, run LinkRun.step { clientId := "c" } eventsUnannounced = some r ∧
      r.toPublisher.sent.length = 4096 ∧ r.toPublisher.sent.all (· == 0) = true ∧
      r.clientStream = asciiString "x" :=
    ⟨_, Option.eq_some_of_isSome (by decide +kernel), by decide +kernel, by decide +kernel,
      by decide +kernel⟩
  obtain ⟨r, hrun, hlength, hzero, hstream⟩ := hrun
  refine ⟨r, hrun, hlength, hzero, hstream, fun h => ?_⟩
  -- 4096 bytes are not a prefix of one
  have hle := (h.toPublisher 0).length_le
  rw [hstream, List.length_append, hlength] at hle
  have hone : (asciiString "x").length = 1 := rfl
  omega

end LinkRun

end TunnelBore.Broker
