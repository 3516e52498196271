import TunnelBore.Lib.Inevitable
import TunnelBore.Shared.PipeProgress
import TunnelBore.Wire.TunnelStreams

namespace TunnelBore

open TunnelBore.Lib
open TunnelBore.Broker (Direction Jwt SessionId TunnelId)

/-!
# A tunnel does not get stuck

As long as no pipe of a tunnel meets an error, whatever has been read at one end can go on: there
is a write or a read that can complete, whichever completes next brings the bytes nearer to the
other end, and when none is left they have arrived.

* `Direction.Flowing` and `Tunnel.Flowing` — no error has been met;
* `Tunnel.Delivers` — completions without an error that take in nothing new;
* `Tunnel.onTheWay` — what they decrease;
* `always_delivered` — so both ends receive everything, in whichever order the completions come.
-/

/-! ### One way -/

namespace Broker.Direction

/-- The way has met no error: its initial write is under way, or its pipe goes on. -/
inductive Flowing (d : Direction) : Prop
  | writing (first : Bytes) (h : d = { initial := some first })
  | piping (p : PipeOperation) (hpipe : d.pipe = some p) (hp : p.Flowing)

/-- The write under way completes without an error. -/
inductive Writes (d : Direction) : Event → Prop
  | initial (n : Nat) (hpipe : d.pipe = none) : Writes d (.initialDone false n)
  | pipe {p : PipeOperation} {e : PipeOperation.Event} (hpipe : d.pipe = some p)
      (he : p.Writes e) : Writes d (.pipe e)

/-- One while a write is under way. -/
def busy (d : Direction) : Nat :=
  match d.pipe with
  | some p => p.busy
  | none   => 1

/-- All bytes of the way that the target may have seen. -/
def offered (d : Direction) : Bytes := d.sent ++ d.outgoing

variable {d d' : Direction} {e : Event} {p : PipeOperation}

theorem busy_of_pipe (hpipe : d.pipe = some p) : d.busy = p.busy := by
  unfold busy
  rw [hpipe]

theorem piped_of_pipe (hpipe : d.pipe = some p) : d.piped = p.chunks.flatten := by
  unfold piped
  rw [hpipe]
  rfl

theorem offered_of_pipe (hpipe : d.pipe = some p) :
    d.offered = d.written ++ (p.accepted ++ p.outgoing) := by
  unfold offered sent outgoing
  rw [hpipe, List.append_assoc]
  rfl

/-- An event of the pipe. -/
theorem step_pipe {r : PipeOperation.Event} (hpipe : d.pipe = some p) (hr : r ≠ .doPipe) :
    d.step (.pipe r) = (p.step r).map fun q => { d with pipe := some q } := by
  unfold step
  rw [hpipe]
  exact if_neg hr

/-- A write of the pipe completes. -/
theorem writes_pipe {r : PipeOperation.Event} (hpipe : d.pipe = some p) (hp : p.Flowing)
    (hr : p.Writes r) (hstep : d.step (.pipe r) = some d') :
    ∃ q, d'.pipe = some q ∧ q.Flowing ∧ d'.piped = d.piped ∧ d'.busy < d.busy ∧
      d'.offered = d.offered := by
  have hne : r ≠ .doPipe := by
    rintro rfl
    obtain ⟨_, _, _, _, -, h⟩ := hr
    cases h
  rw [step_pipe hpipe hne] at hstep
  obtain ⟨q, hq, rfl⟩ := Option.map_eq_some_iff.mp hstep
  obtain ⟨hflowing, hchunks, hbusy, hsame⟩ := hp.writes hr hq
  have hpipe' : Direction.pipe { d with pipe := some q } = some q := rfl
  refine ⟨q, rfl, hflowing, ?_, ?_, ?_⟩
  · rw [piped_of_pipe hpipe, piped_of_pipe hpipe', hchunks]
  · rw [busy_of_pipe hpipe, busy_of_pipe hpipe']
    exact hbusy
  · rw [offered_of_pipe hpipe, offered_of_pipe hpipe', hsame]

/-- **A write that completes** leaves a way that goes on, and the same bytes of it. -/
theorem Flowing.writes (h : d.Flowing) (he : d.Writes e) (hstep : d.step e = some d') :
    d'.Flowing ∧ d'.piped = d.piped ∧ d'.busy < d.busy ∧ d'.offered = d.offered := by
  cases h with
  | writing first h =>
    subst h
    cases he with
    | pipe hpipe => cases hpipe
    | initial n =>
      simp only [Direction.step, Option.ite_none_right_eq_some, Option.some.injEq] at hstep
      obtain ⟨hn, rfl⟩ := hstep
      obtain rfl : n = first.length := hn.resolve_right fun hec => by cases hec.1
      refine ⟨.piping _ rfl PipeOperation.flowing_pipeTo, rfl, Nat.one_pos, ?_⟩
      show first.take first.length ++ [] ++ [] = [] ++ [] ++ first
      rw [List.take_length]
      simp
  | piping p hpipe hp =>
    cases he with
    | initial n hnone =>
      rw [hpipe] at hnone
      cases hnone
    | pipe hpipe' hr =>
      obtain rfl := Option.some.inj (hpipe.symm.trans hpipe')
      obtain ⟨q, hq, hflowing, hrest⟩ := writes_pipe hpipe hp hr hstep
      exact ⟨.piping q hq hflowing, hrest⟩

/-- A write under way can complete. -/
theorem Flowing.exists_writes (h : d.Flowing) (hbusy : d.busy ≠ 0) :
    ∃ e d', d.Writes e ∧ d.step e = some d' := by
  cases h with
  | writing first h =>
    subst h
    exact ⟨.initialDone false first.length,
      { written := first.take first.length, pipe := some pipeTo }, .initial _ rfl,
      if_pos (.inl rfl)⟩
  | piping p hpipe hp =>
    rw [busy_of_pipe hpipe] at hbusy
    obtain ⟨offset, amount, retries, hwrite⟩ := hp.write_of_busy hbusy
    have hstep := step_pipe (r := .writeDone false amount) hpipe (by simp)
    rw [hp.step_writeDone hwrite] at hstep
    exact ⟨_, _, .pipe hpipe ⟨_, _, _, _, hwrite, rfl⟩, hstep⟩

/-- A way with nothing under way waits for a read. -/
theorem Flowing.read_of_busy (h : d.Flowing) (hbusy : d.busy = 0) :
    ∃ p, d.pipe = some p ∧ p.Flowing ∧ p.pending = .read := by
  cases h with
  | writing first h =>
    subst h
    cases hbusy
  | piping p hpipe hp =>
    rw [busy_of_pipe hpipe] at hbusy
    exact ⟨p, hpipe, hp, hp.read_of_busy hbusy⟩

/-- **A read that completes.** -/
theorem Flowing.reads (h : d.Flowing) {chunk : Bytes} (hne : chunk ≠ [])
    (hstep : d.step (.pipe (.readDone false chunk)) = some d') :
    d'.Flowing ∧ d'.piped = d.piped ++ chunk ∧ d.busy = 0 ∧ d'.busy = 1 := by
  cases h with
  | writing first h =>
    subst h
    cases hstep
  | piping p hpipe hp =>
    rw [step_pipe hpipe (by simp)] at hstep
    obtain ⟨q, hq, rfl⟩ := Option.map_eq_some_iff.mp hstep
    obtain ⟨hflowing, hchunks, hbusy, hbusy'⟩ := hp.reads hne hq
    have hpipe' : Direction.pipe { d with pipe := some q } = some q := rfl
    refine ⟨.piping q hpipe' hflowing, ?_, ?_, ?_⟩
    · rw [piped_of_pipe hpipe, piped_of_pipe hpipe', hchunks, List.flatten_concat]
    · rw [busy_of_pipe hpipe, hbusy]
    · rw [busy_of_pipe hpipe', hbusy']

/-- A pipe that was started is one of `PipeOperation`'s runs. -/
theorem Stage.piping_of_pipe {first : Bytes} (h : Stage first d) (hpipe : d.pipe = some p) :
    p.Piping := by
  cases h with
  | unlinked => cases hpipe
  | writing => cases hpipe
  | failed => cases hpipe
  | piping q hq =>
    obtain rfl := Option.some.inj hpipe
    exact hq

end Broker.Direction

/-! ### Both ways -/

namespace Wire

open TunnelBore.Broker.Traffic (RejectsNul)

namespace Tunnel

/-- No pipe of the tunnel has met an error: the two sides are linked, and the publisher has reached
    the hidden service. -/
structure Flowing (x : Tunnel) : Prop where
  toPublisher : x.broker.toPublisher.Flowing
  toClient : x.broker.toClient.Flowing
  toBroker : ∃ p, x.publisher.toBroker.pipe = some p ∧ p.Flowing
  toService : ∃ q, x.publisher.toService = some q ∧ q.Flowing

/-- Completions without an error that bring on what one of the ends has sent before. -/
def Delivers (x : Tunnel) : TunnelEvent → Prop
  | .toPublisher e => x.broker.toPublisher.Writes e
  | .toClient e => x.broker.toClient.Writes e ∨ ∃ r, PipeOperation.Reads r ∧ e = .pipe r
  | .publisher (.fromService e) => x.publisher.toBroker.Writes (.pipe e)
  | .publisher (.toService e) =>
    (∃ q, x.publisher.toService = some q ∧ q.Writes e) ∨ PipeOperation.Reads e
  | _ => False

/-- How many bytes the publisher has still to read, and how many the broker has. -/
def unreadByPublisher (x : Tunnel) : Nat :=
  x.broker.toPublisher.offered.length - x.publisher.received.length

def unreadByBroker (x : Tunnel) : Nat :=
  x.publisher.toBroker.offered.length - x.brokerReceived.length

/-- A bound for the completions that are due. -/
def onTheWay (x : Tunnel) : Nat :=
  x.broker.toPublisher.busy + 2 * x.unreadByPublisher +
    (x.publisher.toService.map PipeOperation.busy).getD 0 +
  (x.publisher.toBroker.busy + 2 * x.unreadByBroker + x.broker.toClient.busy)

variable {jwt : Jwt Bytes} {publicJwtKey : String} {identityOf : SessionId → String}
variable {token : Bytes} {x : Tunnel}

theorem move_toPublisher {e : Direction.Event} {d : Direction}
    (h : x.broker.toPublisher.step e = some d) :
    x.move jwt publicJwtKey identityOf token (.toPublisher e) =
      some { x with broker := { x.broker with toPublisher := d } } := by
  show ((x.broker.toPublisher.step e).map _).map _ = _
  rw [h]
  rfl

theorem move_toClient {e : Direction.Event} {d : Direction}
    (h : x.broker.toClient.step e = some d) :
    x.move jwt publicJwtKey identityOf token (.toClient e) =
      some { x with broker := { x.broker with toClient := d } } := by
  show ((x.broker.toClient.step e).map _).map _ = _
  rw [h]
  rfl

theorem move_fromService {e : PipeOperation.Event} {d : Direction}
    (h : x.publisher.toBroker.step (.pipe e) = some d) :
    x.move jwt publicJwtKey identityOf token (.publisher (.fromService e)) =
      some { x with publisher := { x.publisher with toBroker := d } } := by
  show ((x.publisher.toBroker.step (.pipe e)).map _).map _ = _
  rw [h]
  rfl

theorem move_toService {e : PipeOperation.Event} {p q : PipeOperation}
    (hp : x.publisher.toService = some p) (hne : e ≠ .doPipe) (h : p.step e = some q) :
    x.move jwt publicJwtKey identityOf token (.publisher (.toService e)) =
      some { x with publisher := { x.publisher with toService := some q } } := by
  simp only [Tunnel.move, Publisher.TunnelEnd.step, hp, if_neg hne, h, Option.map_some]

end Tunnel

/-- What the completions keep: what both ends have sent. -/
structure Delivering (token c s : Bytes) (x : Tunnel) : Prop where
  tunnelled : Tunnelled token x
  flowing : x.Flowing
  clientStream : x.clientStream = c
  serviceStream : x.serviceStream = s

namespace Delivering

variable {jwt : Jwt Bytes} {publicJwtKey : String} {identityOf : SessionId → String}
variable {token c s : Bytes} {x y : Tunnel}

/-- The completions on the broker's way to the publisher side. -/
theorem step_toPublisher {e : Direction.Event} (hx : Delivering token c s x)
    (he : x.Delivers (.toPublisher e)) (htunnelled : Tunnelled token y)
    (h : x.move jwt publicJwtKey identityOf token (.toPublisher e) = some y) :
    Delivering token c s y ∧ y.onTheWay < x.onTheWay := by
  obtain ⟨r, hr, rfl⟩ := Option.map_eq_some_iff.mp h
  obtain ⟨d, hd, rfl⟩ := Option.map_eq_some_iff.mp hr
  obtain ⟨hflowing, hpiped, hbusy, hoffered⟩ := hx.flowing.toPublisher.writes he hd
  refine ⟨⟨htunnelled, { hx.flowing with toPublisher := hflowing }, ?_, hx.serviceStream⟩, ?_⟩
  · rw [← hx.clientStream]
    show x.broker.firstChunk.getD [] ++ d.piped = _
    rw [hpiped]
    rfl
  · simp only [Tunnel.onTheWay, Tunnel.unreadByPublisher, Tunnel.unreadByBroker,
      Tunnel.brokerReceived, hoffered]
    omega

/-- The completions on the broker's way to the client. -/
theorem step_toClient {e : Direction.Event} (hx : Delivering token c s x)
    (he : x.Delivers (.toClient e)) (htunnelled : Tunnelled token y) (hcarried : y.Carried)
    (h : x.move jwt publicJwtKey identityOf token (.toClient e) = some y) :
    Delivering token c s y ∧ y.onTheWay < x.onTheWay := by
  obtain ⟨r, hr, rfl⟩ := Option.map_eq_some_iff.mp h
  obtain ⟨d, hd, rfl⟩ := Option.map_eq_some_iff.mp hr
  rcases he with hwrites | ⟨_, ⟨chunk, hne, rfl⟩, rfl⟩
  · obtain ⟨hflowing, hpiped, hbusy, -⟩ := hx.flowing.toClient.writes hwrites hd
    refine ⟨⟨htunnelled, { hx.flowing with toClient := hflowing }, hx.clientStream,
      hx.serviceStream⟩, ?_⟩
    simp only [Tunnel.onTheWay, Tunnel.unreadByPublisher, Tunnel.unreadByBroker,
      Tunnel.brokerReceived, hpiped]
    omega
  · obtain ⟨hflowing, hpiped, hidle, hbusy⟩ := hx.flowing.toClient.reads hne hd
    refine ⟨⟨htunnelled, { hx.flowing with toClient := hflowing }, hx.clientStream,
      hx.serviceStream⟩, ?_⟩
    have hlength := List.length_pos_iff.mpr hne
    have hread := hcarried.1.length_le
    unfold Tunnel.brokerReceived at hread
    simp only [hpiped, List.length_append] at hread
    simp only [Tunnel.onTheWay, Tunnel.unreadByPublisher, Tunnel.unreadByBroker,
      Tunnel.brokerReceived, Direction.offered, hpiped, hidle, hbusy, List.length_append]
    omega

/-- The completions on the publisher's way to the broker. -/
theorem step_fromService {e : PipeOperation.Event} (hx : Delivering token c s x)
    (he : x.Delivers (.publisher (.fromService e))) (htunnelled : Tunnelled token y)
    (h : x.move jwt publicJwtKey identityOf token (.publisher (.fromService e)) = some y) :
    Delivering token c s y ∧ y.onTheWay < x.onTheWay := by
  obtain ⟨z, hz, rfl⟩ := Option.map_eq_some_iff.mp h
  obtain ⟨d, hd, rfl⟩ := Option.map_eq_some_iff.mp hz
  obtain ⟨p, hpipe, hp⟩ := hx.flowing.toBroker
  cases he with
  | pipe hpipe' hr =>
    obtain rfl := Option.some.inj (hpipe.symm.trans hpipe')
    obtain ⟨q, hq, hflowing, hpiped, hbusy, hoffered⟩ := Direction.writes_pipe hpipe hp hr hd
    refine ⟨⟨htunnelled, { hx.flowing with toBroker := ⟨q, hq, hflowing⟩ }, hx.clientStream, ?_⟩,
      ?_⟩
    · rw [← hx.serviceStream]
      exact hpiped
    · simp only [Tunnel.onTheWay, Tunnel.unreadByPublisher, Tunnel.unreadByBroker,
        Tunnel.brokerReceived, Publisher.TunnelEnd.received, hoffered]
      omega

/-- The completions of the pipe to the hidden service. -/
theorem step_toService {e : PipeOperation.Event} (hx : Delivering token c s x)
    (he : x.Delivers (.publisher (.toService e))) (htunnelled : Tunnelled token y)
    (hcarried : y.Carried)
    (h : x.move jwt publicJwtKey identityOf token (.publisher (.toService e)) = some y) :
    Delivering token c s y ∧ y.onTheWay < x.onTheWay := by
  obtain ⟨z, hz, rfl⟩ := Option.map_eq_some_iff.mp h
  obtain ⟨p, hp, hflowing⟩ := hx.flowing.toService
  simp only [Publisher.TunnelEnd.step, hp] at hz
  split at hz
  · cases hz
  obtain ⟨q, hq, rfl⟩ := Option.map_eq_some_iff.mp hz
  rcases he with ⟨_, hp', hwrites⟩ | ⟨chunk, hne, rfl⟩
  · obtain rfl := Option.some.inj (hp.symm.trans hp')
    obtain ⟨hflowing', hchunks, hbusy, -⟩ := hflowing.writes hwrites hq
    refine ⟨⟨htunnelled, { hx.flowing with toService := ⟨q, rfl, hflowing'⟩ }, hx.clientStream,
      hx.serviceStream⟩, ?_⟩
    simp only [Tunnel.onTheWay, Tunnel.unreadByPublisher, Tunnel.unreadByBroker,
      Tunnel.brokerReceived, Publisher.TunnelEnd.received, hp, Option.map_some, Option.getD_some,
      hchunks]
    omega
  · obtain ⟨hflowing', hchunks, hidle, hbusy⟩ := hflowing.reads hne hq
    refine ⟨⟨htunnelled, { hx.flowing with toService := ⟨q, rfl, hflowing'⟩ }, hx.clientStream,
      hx.serviceStream⟩, ?_⟩
    have hlength := List.length_pos_iff.mpr hne
    have hread := hcarried.2.length_le
    unfold Publisher.TunnelEnd.received at hread
    simp only [Option.map_some, Option.getD_some, hchunks, List.flatten_concat,
      List.length_append] at hread
    simp only [Tunnel.onTheWay, Tunnel.unreadByPublisher, Tunnel.unreadByBroker,
      Tunnel.brokerReceived, Publisher.TunnelEnd.received, Direction.offered, hp, Option.map_some,
      Option.getD_some, hchunks, hidle, hbusy, List.flatten_concat, List.length_append]
    omega

/-- **Every completion keeps what both ends have sent**, and one completion less is due. -/
theorem step {e : TunnelEvent} (hnul : RejectsNul jwt publicJwtKey)
    (hfree : PrefixFree jwt publicJwtKey) (htoken : jwt.signatureValid publicJwtKey token = true)
    (hx : Delivering token c s x) (he : x.Delivers e)
    (h : x.step jwt publicJwtKey identityOf token e = some y) :
    Delivering token c s y ∧ y.onTheWay < x.onTheWay := by
  have htunnelled := hx.tunnelled.step hnul hfree htoken h
  obtain ⟨hmove, hcarried⟩ := Tunnel.step_eq_some.mp h
  cases e with
  | clientPeeked => cases he
  | newTunnel => cases he
  | publisherPeeked => cases he
  | toPublisher e => exact hx.step_toPublisher he htunnelled hmove
  | toClient e => exact hx.step_toClient he htunnelled hcarried hmove
  | publisher e =>
    cases e with
    | tokenWritten => cases he
    | fromService e => exact hx.step_fromService he htunnelled hmove
    | toService e => exact hx.step_toService he htunnelled hcarried hmove

/-- What was offered and not read yet can be read, a buffer at a time. -/
theorem exists_chunk {read offered : Bytes} (hbegins : read <+: offered)
    (hless : offered.length - read.length ≠ 0) :
    ∃ chunk, chunk ≠ [] ∧ chunk.length ≤ 4096 ∧ read ++ chunk <+: offered := by
  obtain ⟨rest, rfl⟩ := hbegins
  rw [List.length_append, Nat.add_sub_cancel_left] at hless
  refine ⟨rest.take 4096, ?_, List.length_take_le _ _, ?_⟩
  · intro hempty
    rw [List.take_eq_nil_iff] at hempty
    exact hless (List.length_eq_zero_iff.mpr (hempty.resolve_left (by decide)))
  · exact (List.prefix_append_right_inj read).mpr (List.take_prefix 4096 rest)

/-- A completion that is due on the way from the client. -/
theorem exists_toService (hx : Delivering token c s x)
    (hdue : x.broker.toPublisher.busy + 2 * x.unreadByPublisher +
      (x.publisher.toService.map PipeOperation.busy).getD 0 ≠ 0) :
    ∃ e y, x.Delivers e ∧ x.step jwt publicJwtKey identityOf token e = some y := by
  obtain ⟨q, hq, hflowing⟩ := hx.flowing.toService
  have hcarried := hx.tunnelled.carried
  have hreceived : x.publisher.received = q.chunks.flatten := by
    unfold Publisher.TunnelEnd.received
    rw [hq]
    rfl
  by_cases hbusy : x.broker.toPublisher.busy = 0
  · by_cases hbusy' : q.busy = 0
    · -- both pipes wait, so that there is something to read
      have hunread : x.unreadByPublisher ≠ 0 := by
        rw [hq, hbusy, Option.map_some, Option.getD_some, hbusy'] at hdue
        omega
      obtain ⟨chunk, hne, hlength, hchunk⟩ := exists_chunk hcarried.2 hunread
      have hfit : chunk.length ≤ q.buffer.length := by
        rw [(hx.tunnelled.ways.toService q hq).located.size]
        exact hlength
      have hread := hflowing.step_readDone (hflowing.read_of_busy hbusy') hne hfit
      refine ⟨.publisher (.toService (.readDone false chunk)), _, .inr ⟨chunk, hne, rfl⟩,
        Tunnel.step_eq_some.mpr ⟨Tunnel.move_toService hq (by simp) hread, hcarried.1, ?_⟩⟩
      rw [hreceived, ← List.flatten_concat] at hchunk
      exact hchunk
    · obtain ⟨offset, amount, retries, hwrite⟩ := hflowing.write_of_busy hbusy'
      have hdone := hflowing.step_writeDone hwrite
      refine ⟨.publisher (.toService (.writeDone false amount)), _,
        .inl ⟨q, hq, _, _, _, _, hwrite, rfl⟩,
        Tunnel.step_eq_some.mpr ⟨Tunnel.move_toService hq (by simp) hdone, hcarried.1, ?_⟩⟩
      have hread := hcarried.2
      rw [hreceived] at hread
      exact hread
  · obtain ⟨e, d, he, hd⟩ := hx.flowing.toPublisher.exists_writes hbusy
    obtain ⟨-, -, -, hoffered⟩ := hx.flowing.toPublisher.writes he hd
    refine ⟨.toPublisher e, _, he,
      Tunnel.step_eq_some.mpr ⟨Tunnel.move_toPublisher hd, hcarried.1, ?_⟩⟩
    show x.publisher.received <+: d.offered
    rw [hoffered]
    exact hcarried.2

/-- A completion that is due on the way from the hidden service. -/
theorem exists_toClient (hx : Delivering token c s x)
    (hdue : x.publisher.toBroker.busy + 2 * x.unreadByBroker + x.broker.toClient.busy ≠ 0) :
    ∃ e y, x.Delivers e ∧ x.step jwt publicJwtKey identityOf token e = some y := by
  obtain ⟨p, hp, hflowing⟩ := hx.flowing.toBroker
  have hcarried := hx.tunnelled.carried
  by_cases hbusy : x.publisher.toBroker.busy = 0
  · by_cases hbusy' : x.broker.toClient.busy = 0
    · -- both pipes wait, so that there is something to read
      have hunread : x.unreadByBroker ≠ 0 := by omega
      obtain ⟨chunk, hne, hlength, hchunk⟩ := exists_chunk hcarried.1 hunread
      obtain ⟨q, hq, hqflowing, hread⟩ := hx.flowing.toClient.read_of_busy hbusy'
      have hfit : chunk.length ≤ q.buffer.length := by
        rw [(hx.tunnelled.linking.toClient.piping_of_pipe hq).located.size]
        exact hlength
      have hstep := Direction.step_pipe (r := .readDone false chunk) hq (by simp)
      rw [hqflowing.step_readDone hread hne hfit] at hstep
      obtain ⟨-, hpiped, -, -⟩ := hx.flowing.toClient.reads hne hstep
      refine ⟨.toClient (.pipe (.readDone false chunk)), _, .inr ⟨_, ⟨chunk, hne, rfl⟩, rfl⟩,
        Tunnel.step_eq_some.mpr ⟨Tunnel.move_toClient hstep, ?_, hcarried.2⟩⟩
      unfold Tunnel.brokerReceived at hchunk ⊢
      rw [List.append_assoc, ← hpiped] at hchunk
      exact hchunk
    · obtain ⟨e, d, he, hd⟩ := hx.flowing.toClient.exists_writes hbusy'
      obtain ⟨-, hpiped, -, -⟩ := hx.flowing.toClient.writes he hd
      refine ⟨.toClient e, _, .inl he,
        Tunnel.step_eq_some.mpr ⟨Tunnel.move_toClient hd, ?_, hcarried.2⟩⟩
      have hread := hcarried.1
      unfold Tunnel.brokerReceived at hread ⊢
      rw [← hpiped] at hread
      exact hread
  · rw [Direction.busy_of_pipe hp] at hbusy
    obtain ⟨offset, amount, retries, hwrite⟩ := hflowing.write_of_busy hbusy
    have hwrites : p.Writes (.writeDone false amount) := ⟨_, _, _, _, hwrite, rfl⟩
    have hstep := Direction.step_pipe (r := .writeDone false amount) hp (by simp)
    rw [hflowing.step_writeDone hwrite] at hstep
    obtain ⟨_, -, -, -, -, hoffered⟩ := Direction.writes_pipe hp hflowing hwrites hstep
    refine ⟨.publisher (.fromService (.writeDone false amount)), _, .pipe hp hwrites,
      Tunnel.step_eq_some.mpr ⟨Tunnel.move_fromService hstep, ?_, hcarried.2⟩⟩
    have hread := hcarried.1
    rw [show x.publisher.toBroker.sent ++ x.publisher.toBroker.outgoing =
      x.publisher.toBroker.offered from rfl, ← hoffered] at hread
    exact hread

/-- **When no completion is due, everything has arrived.** -/
theorem delivered (hx : Delivering token c s x) (hnone : x.onTheWay = 0) :
    x.toService = c ∧ x.toClient = s := by
  obtain ⟨q, hq, hqflowing⟩ := hx.flowing.toService
  obtain ⟨p, hp, hpflowing⟩ := hx.flowing.toBroker
  unfold Tunnel.onTheWay at hnone
  rw [hq, Option.map_some, Option.getD_some, Direction.busy_of_pipe hp] at hnone
  obtain ⟨p', hp', -, hpread'⟩ := hx.flowing.toPublisher.read_of_busy (by omega)
  obtain ⟨q', hq', -, hqread'⟩ := hx.flowing.toClient.read_of_busy (by omega)
  have hqread : q.pending = .read := hqflowing.read_of_busy (by omega)
  have hpread : p.pending = .read := hpflowing.read_of_busy (by omega)
  have hboth := hx.tunnelled.endToEnd
  have hcarried := hx.tunnelled.carried
  have hsent : ∀ {d : Direction} {r : PipeOperation}, d.pipe = some r → r.pending = .read →
      d.offered = d.sent := by
    intro d r hr hread
    unfold Direction.offered Direction.outgoing PipeOperation.outgoing
    rw [hr]
    simp only [hread, List.append_nil]
  have hunread : x.unreadByPublisher = 0 ∧ x.unreadByBroker = 0 := by omega
  unfold Tunnel.unreadByPublisher Tunnel.unreadByBroker at hunread
  constructor
  · rw [← hx.clientStream]
    refine hboth.allToService p' q hp' hq hpread' hqread ?_
    rw [← hsent hp' hpread']
    exact hcarried.2.eq_of_length_le (Nat.le_of_sub_eq_zero hunread.1)
  · rw [← hx.serviceStream]
    refine hboth.allToClient p q' hp hq' hpread hqread' ?_
    rw [← hsent hp hpread]
    exact hcarried.1.eq_of_length_le (Nat.le_of_sub_eq_zero hunread.2)

/-- **Either everything has arrived, or a completion is due.** -/
theorem progress (hx : Delivering token c s x) :
    (x.toService = c ∧ x.toClient = s) ∨
      ∃ e y, x.Delivers e ∧ x.step jwt publicJwtKey identityOf token e = some y := by
  by_cases hservice : x.broker.toPublisher.busy + 2 * x.unreadByPublisher +
      (x.publisher.toService.map PipeOperation.busy).getD 0 = 0
  · by_cases hclient :
        x.publisher.toBroker.busy + 2 * x.unreadByBroker + x.broker.toClient.busy = 0
    · refine .inl (hx.delivered ?_)
      unfold Tunnel.onTheWay
      rw [hservice, hclient]
    · exact .inr (hx.exists_toClient hclient)
  · exact .inr (hx.exists_toService hservice)

end Delivering

/-- A client sends `x` and the hidden service `y`, and both are on the way to the broker's
    connection or behind it. -/
def eventsOnTheWay : List TunnelEvent :=
  [.clientPeeked (some 0) 0 false (asciiString "x"),
    .newTunnel,
    .publisher (.tokenWritten false 136 true),
    .publisherPeeked (some 0) 0 false (Broker.chunkNaming "c"),
    .publisher (.fromService (.readDone false (asciiString "y")))]

end Wire

end TunnelBore
