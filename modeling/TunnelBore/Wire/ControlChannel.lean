import Mathlib.Data.List.Induction
import TunnelBore.Broker.WholeMessages
import TunnelBore.Broker.Written
import TunnelBore.Wire.ServiceRouting

namespace TunnelBore.Wire

open TunnelBore.Lib
open TunnelBore.Broker
open TunnelBore.Publisher (WsId ControlMessage)

/-!
# The control connection, both ways

The publisher keeps a websocket to the broker, and connects again when it fails, with a new one.
The broker has a control session for each websocket; all of them belong to one publisher and change
its services.  Either side has a queue of the texts to send, with one send at a time.

A session of the broker is held by the handler that has set it up, and then by the slot of its
identity.  When a read or a send of any session fails, `endSelf` erases this slot, whichever session
is in it, and that session is destroyed.  Handlers run one after the other.

* `ControlChannel.step` — both sides, and the texts between them;
* `Owned` — which sessions read;
* `Delivering` — the invariant of what the publisher sends: what a session has read whole is
  dispatched, what it has read in part is in its parser;
* `broker_hears` — every message is dispatched once and in order, when its last byte is read;
* `Queued` — the invariant of what the broker writes;
* `publisher_hears` — the publisher reads it in order, and understands all of it.
-/

/-- A publisher and the broker, and what is between them. -/
structure ControlChannel where
  line : Publisher.Publisher := {}
  world : PublisherWorld
  /-- The control session of each websocket; a session that was destroyed stays on record. -/
  sessions : WsId → Option (ControlSession PublisherWorld) := fun _ => none
  /-- The sessions that are held by the upgrade handlers which have set them up. -/
  upgrading : Finset WsId := ∅
  /-- `controlSessions[identity]`. -/
  slot : Option WsId := none
  /-- The control session that a client of a service has been accepted with. -/
  captured : ServiceId × TunnelId → Option WsId := fun _ => none
  /-- What the broker has not read of the publisher's messages. -/
  toBroker : WsId → List Bytes := fun _ => []
  /-- `pendingMessages` of each session. -/
  queues : WsId → SendQueue Unit Json := fun _ => {}
  /-- The texts that were written on each session. -/
  texts : WsId → List Json := fun _ => []
  /-- The texts that the publisher has read. -/
  heard : WsId → List Json := fun _ => []

/-- What can happen. -/
inductive ChannelEvent
  /-- Anything on the publisher's control line but a read that completes. -/
  | publisher (e : Publisher.Publisher.Event)
  /-- The publisher reads the next text. -/
  | hears (ws : WsId) (answers : Publisher.Answers)
  /-- The broker sets up the control session of a websocket. -/
  | setup (ws : WsId)
  /-- It stores the session in the slot of the identity. -/
  | stored (ws : WsId)
  /-- Something happens to a service of the broker. -/
  | tunnel (serviceId : ServiceId) (e : Broker.Event)
  /-- A session of the broker reads `n` bytes. -/
  | reads (ws : WsId) (n : Nat)
  /-- A read of the broker fails. -/
  | readFails (ws : WsId)
  /-- A send of the broker completes. -/
  | sent (ws : WsId)
  /-- A send of the broker fails. -/
  | sendFails (ws : WsId)

/-- The messages that have been handed to a websocket. -/
def messagesOn (ws : WsId) (handed : List (WsId × ControlMessage)) : List ControlMessage :=
  (handed.filter fun entry => entry.1 = ws).map Prod.snd

namespace ControlChannel

variable {ε : Type} (parse : Bytes → Except ε Json) (dump : Json → Bytes)
variable (cfg : Publisher.Config) (starts : Starts) (what : String) (c : ControlChannel)

/-! ### The sessions of the broker -/

/-- Whether a shared pointer to the session is left. -/
def alive (ws : WsId) : Bool := c.slot = some ws ∨ ws ∈ c.upgrading

/-- `Publisher::getCurrentControlSession`, locked. -/
def current : Option WsId := c.world.publisher.controlSession.filter c.alive

/-- The session that a client has been accepted with, locked. -/
def capturedSession (serviceId : ServiceId) (id : TunnelId) : Option WsId :=
  (c.captured (serviceId, id)).filter c.alive

/-- No read is outstanding on the websocket any more. -/
def silence (ws : WsId) : ControlChannel :=
  { c with
    sessions := Function.update c.sessions ws
      ((c.sessions ws).map fun s => { s with reading := false }) }

/-- `ControlSession::~ControlSession` of the session that was in the slot, if there was one. -/
def destroy : Option WsId → ControlChannel
  | none    => c
  | some ws => { c.silence ws with world := c.world.detached }

/-- `endSelf`: the slot of the identity is erased. -/
def endSelf : ControlChannel := destroy { c with slot := none } c.slot

/-- `ControlSession::setup` of a new session. -/
def setup (ws : WsId) : ControlChannel :=
  let s := c.world.setup starts what ws
  { c with
    world := s.world
    sessions := Function.update c.sessions ws (some s)
    upgrading := insert ws c.upgrading }

/-- `controlSessions[identity] = cs`, and the upgrade handler returns. -/
def stored (ws : WsId) : ControlChannel :=
  destroy { c with slot := some ws, upgrading := c.upgrading.erase ws } c.slot

/-! ### The texts -/

/-- The publisher's control line goes on, and hands messages to its websockets. -/
def lineTo (line : Publisher.Publisher) : ControlChannel :=
  let sent := line.handed.drop c.line.handed.length
  { c with
    line := line
    toBroker := fun ws =>
      c.toBroker ws ++ (messagesOn ws sent).map fun m => dump (m.payload cfg) }

/-- `ControlSession::writeJson`. -/
def write (ws : WsId) (j : Json) : ControlChannel :=
  { c with
    queues := Function.update c.queues ws ((c.queues ws).enqueue () j)
    texts := Function.update c.texts ws (c.texts ws ++ [j]) }

/-- The session that a text is written on: `addService` reports to the current one; answers go to
    the session that has asked, and a client is announced on the session that it was accepted
    with. -/
def addressee (own : Option WsId) (j : Json) : Option WsId :=
  if j.stringAt "type" = some "ServiceStartResult" then c.current else own

/-- A text goes to its session. -/
def writeTo (own : Option WsId) (j : Json) : ControlChannel :=
  match c.addressee own j with
  | none    => c
  | some ws => c.write ws j

/-- The publisher of the broker changes, and what it writes goes to the sessions. -/
def worldTo (own : Option WsId) (w : PublisherWorld) : ControlChannel :=
  (w.written.drop c.world.written.length).foldl (fun c j => c.writeTo own j) { c with world := w }

/-- Something happens to a service.  A client is accepted while there is a current control session,
    and keeps it; the handler of its first read locks the session that it has kept. -/
def tunnel (serviceId : ServiceId) : Broker.Event → Option ControlChannel
  | .accept id =>
    match c.current with
    | none    => none
    | some ws =>
      (c.world.tunnel serviceId (.accept id)).map fun w =>
        { c.worldTo none w with
          captured := Function.update c.captured (serviceId, id) (some ws) }
  | .peeked id control ec chunk =>
    let own := c.capturedSession serviceId id
    -- the handler has a control session to ask exactly while the one it has kept exists
    if control.isSome = own.isSome then
      (c.world.tunnel serviceId (.peeked id control ec chunk)).map (c.worldTo own)
    else none
  | e => (c.world.tunnel serviceId e).map (c.worldTo none)

/-- One event; `none` when it cannot happen. -/
def step : ChannelEvent → Option ControlChannel
  | .publisher (.readDone ..) => none
  | .publisher e => (c.line.step e).map (c.lineTo dump cfg)
  | .hears ws answers =>
    match (c.queues ws).handed[(c.heard ws).length]? with
    | none => none
    | some (_, j) =>
      let handled := Publisher.onControlRead parse cfg (dump j) answers
      (c.line.step (.readDone ws handled.replies handled.threw)).map fun line =>
        { c.lineTo dump cfg line with heard := Function.update c.heard ws (c.heard ws ++ [j]) }
  | .setup ws =>
    match c.sessions ws with
    | some _ => none
    | none   => some (c.setup starts what ws)
  | .stored ws => if ws ∈ c.upgrading then some (c.stored ws) else none
  | .tunnel serviceId e => c.tunnel serviceId e
  | .reads ws n =>
    match c.sessions ws, readSome n (c.toBroker ws) with
    | some s, some (text, unread) =>
      let s := { s with world := c.world }
      (ControlSession.readText parse (fun j w => w.writeJson j) s text).map fun s' =>
        { c.worldTo (some ws) s'.world with
          sessions := Function.update c.sessions ws (some s')
          toBroker := Function.update c.toBroker ws unread }
    | _, _ => none
  | .readFails ws =>
    match c.sessions ws with
    | none   => none
    | some s => if s.reading then some (c.silence ws).endSelf else none
  | .sent ws =>
    if c.alive ws ∧ 0 < (c.queues ws).outstanding then
      some { c with queues := Function.update c.queues ws ((c.queues ws).completed ()) }
    else none
  | .sendFails ws =>
    if c.alive ws ∧ 0 < (c.queues ws).outstanding then
      -- `writeInProgress` stays set: the session writes nothing any more
      some (endSelf { c with queues := Function.update c.queues ws (c.queues ws).failed })
    else none

/-- A publisher that has not connected yet. -/
def start (identity : String) : ControlChannel where
  world := { publisher := { identity := identity } }

variable {parse dump cfg starts what c} {c' : ControlChannel} {e : ChannelEvent}

/-- `c'` is `c` but for what the broker has written. -/
def Writes (c c' : ControlChannel) : Prop :=
  ∃ queues texts, c' = { c with queues := queues, texts := texts }

theorem writes_foldl_writeTo (own : Option WsId) (texts : List Json) (c : ControlChannel) :
    Writes c (texts.foldl (fun c j => c.writeTo own j) c) := by
  induction texts generalizing c with
  | nil => exact ⟨_, _, rfl⟩
  | cons j texts ih =>
    have hone : Writes c (c.writeTo own j) := by
      unfold writeTo
      split
      · exact ⟨_, _, rfl⟩
      · exact ⟨_, _, rfl⟩
    obtain ⟨queues, written, hone⟩ := hone
    obtain ⟨queues', written', hrest⟩ := ih (c.writeTo own j)
    refine ⟨queues', written', ?_⟩
    rw [List.foldl_cons, hrest, hone]

/-- Writing is all that the broker's publisher does between the two sides. -/
theorem writes_worldTo (own : Option WsId) (w : PublisherWorld) :
    Writes { c with world := w } (c.worldTo own w) :=
  writes_foldl_writeTo own _ { c with world := w }

/-- What a step can do. -/
inductive Change (parse : Bytes → Except ε Json) (dump : Json → Bytes) (cfg : Publisher.Config)
    (starts : Starts) (what : String) (c : ControlChannel) : ChannelEvent → ControlChannel → Prop
  | line {e : Publisher.Publisher.Event} {line : Publisher.Publisher}
      (hgrows : c.line.handed <+: line.handed) :
      Change parse dump cfg starts what c (.publisher e) (c.lineTo dump cfg line)
  | hears {answers : Publisher.Answers} {line : Publisher.Publisher} {ws : WsId} {j : Json}
      (hgrows : c.line.handed <+: line.handed)
      (hnext : (c.queues ws).handed[(c.heard ws).length]? = some ((), j)) :
      Change parse dump cfg starts what c (.hears ws answers)
        { c.lineTo dump cfg line with heard := Function.update c.heard ws (c.heard ws ++ [j]) }
  | setup {ws : WsId} (hnone : c.sessions ws = none) :
      Change parse dump cfg starts what c (.setup ws) (c.setup starts what ws)
  | stored {ws : WsId} (hws : ws ∈ c.upgrading) :
      Change parse dump cfg starts what c (.stored ws) (c.stored ws)
  | tunnel {serviceId : ServiceId} {e : Broker.Event} {w : PublisherWorld} (own : Option WsId)
      (captured : ServiceId × TunnelId → Option WsId) (hw : c.world.tunnel serviceId e = some w) :
      Change parse dump cfg starts what c (.tunnel serviceId e)
        { c.worldTo own w with captured := captured }
  | reads {ws : WsId} {n : Nat} {s s' : ControlSession PublisherWorld} {text : Bytes}
      {unread : List Bytes} (hs : c.sessions ws = some s)
      (hread : readSome n (c.toBroker ws) = some (text, unread))
      (hs' : ControlSession.readText parse (fun j w => w.writeJson j) { s with world := c.world }
        text = some s') :
      Change parse dump cfg starts what c (.reads ws n)
        { c.worldTo (some ws) s'.world with
          sessions := Function.update c.sessions ws (some s')
          toBroker := Function.update c.toBroker ws unread }
  | readFails {ws : WsId} {s : ControlSession PublisherWorld} (hs : c.sessions ws = some s) :
      Change parse dump cfg starts what c (.readFails ws) (c.silence ws).endSelf
  | sent (ws : WsId) :
      Change parse dump cfg starts what c (.sent ws)
        { c with queues := Function.update c.queues ws ((c.queues ws).completed ()) }
  | sendFails (ws : WsId) :
      Change parse dump cfg starts what c (.sendFails ws)
        (endSelf { c with queues := Function.update c.queues ws (c.queues ws).failed })

theorem change_of_tunnel {serviceId : ServiceId} {e : Broker.Event}
    (h : c.tunnel serviceId e = some c') :
    Change parse dump cfg starts what c (.tunnel serviceId e) c' := by
  cases e with
  | accept id =>
    simp only [tunnel] at h
    split at h
    · cases h
    · obtain ⟨w, hw, rfl⟩ := Option.map_eq_some_iff.mp h
      exact .tunnel none _ hw
  | peeked id control ec chunk =>
    simp only [tunnel, Option.ite_none_right_eq_some] at h
    obtain ⟨w, hw, rfl⟩ := Option.map_eq_some_iff.mp h.2
    exact .tunnel _ (c.worldTo (c.capturedSession serviceId id) w).captured hw
  | wrote source target ec =>
    obtain ⟨w, hw, rfl⟩ := Option.map_eq_some_iff.mp h
    exact .tunnel none (c.worldTo none w).captured hw
  | close id =>
    obtain ⟨w, hw, rfl⟩ := Option.map_eq_some_iff.mp h
    exact .tunnel none (c.worldTo none w).captured hw

theorem change_of_step (h : c.step parse dump cfg starts what e = some c') :
    Change parse dump cfg starts what c e c' := by
  cases e with
  | publisher e =>
    have hline : ∃ line, c.line.step e = some line ∧ c.lineTo dump cfg line = c' := by
      cases e with
      | readDone ws replies threw => cases h
      | _ => exact Option.map_eq_some_iff.mp h
    obtain ⟨line, hline, rfl⟩ := hline
    exact .line (Publisher.Publisher.handed_prefix_step hline)
  | hears ws answers =>
    simp only [step] at h
    split at h
    · cases h
    · next j hnext =>
      obtain ⟨line, hline, rfl⟩ := Option.map_eq_some_iff.mp h
      exact .hears (Publisher.Publisher.handed_prefix_step hline) hnext
  | setup ws =>
    simp only [step] at h
    split at h
    · cases h
    · next hnone =>
      obtain rfl := Option.some.inj h
      exact .setup hnone
  | stored ws =>
    simp only [step, Option.ite_none_right_eq_some, Option.some.injEq] at h
    obtain ⟨hws, rfl⟩ := h
    exact .stored hws
  | tunnel serviceId e => exact change_of_tunnel h
  | reads ws n =>
    simp only [step] at h
    split at h
    · next s text unread hs hread =>
      obtain ⟨s', hs', rfl⟩ := Option.map_eq_some_iff.mp h
      exact .reads hs hread hs'
    · cases h
  | readFails ws =>
    simp only [step] at h
    split at h
    · cases h
    · next s hs =>
      simp only [Option.ite_none_right_eq_some, Option.some.injEq] at h
      obtain ⟨-, rfl⟩ := h
      exact .readFails hs
  | sent ws =>
    simp only [step, Option.ite_none_right_eq_some, Option.some.injEq] at h
    obtain ⟨-, rfl⟩ := h
    exact .sent ws
  | sendFails ws =>
    simp only [step, Option.ite_none_right_eq_some, Option.some.injEq] at h
    obtain ⟨-, rfl⟩ := h
    exact .sendFails ws

/-! ### What the publisher sends -/

/-- The text of a message is that of an object, and is read back. -/
def Printed (parse : Bytes → Except ε Json) (dump : Json → Bytes) (cfg : Publisher.Config)
    (m : ControlMessage) : Prop :=
  ObjectText (dump (m.payload cfg)) ∧ parse (dump (m.payload cfg)) = .ok (m.payload cfg)

/-- A message as the broker reads it. -/
def frameOf (dump : Json → Bytes) (cfg : Publisher.Config) (m : ControlMessage) : Frame Json :=
  ⟨[], dump (m.payload cfg), m.payload cfg⟩

/-- Every message has a type, and a `ref` at most as a string. -/
theorem isMessage_payload (cfg : Publisher.Config) (m : ControlMessage) :
    IsMessage (m.payload cfg) := by
  cases m with
  | handshake => exact ⟨⟨"Handshake", rfl⟩, rfl⟩
  | ping => exact ⟨⟨"Ping", rfl⟩, rfl⟩
  | newTunnelFailed serviceId tunnelId hiddenPort publicPort socketType reason =>
    exact ⟨⟨"NewTunnelFailed", rfl⟩, rfl⟩

theorem Printed.alone {m : ControlMessage} (h : Printed parse dump cfg m) :
    (frameOf dump cfg m).Alone parse where
  valid := ⟨fun _ hb => absurd hb List.not_mem_nil, h.1, h.2⟩
  space := rfl
  message := isMessage_payload cfg m

theorem messagesOn_append (ws : WsId) (a b : List (WsId × ControlMessage)) :
    messagesOn ws (a ++ b) = messagesOn ws a ++ messagesOn ws b := by
  unfold messagesOn
  rw [List.filter_append, List.map_append]

theorem mem_of_mem_messagesOn {ws : WsId} {handed : List (WsId × ControlMessage)}
    {m : ControlMessage} (h : m ∈ messagesOn ws handed) : ∃ entry ∈ handed, entry.2 = m := by
  obtain ⟨entry, hentry, rfl⟩ := List.mem_map.mp h
  exact ⟨entry, List.mem_of_mem_filter hentry, rfl⟩

/-- The messages of a websocket. -/
def frames (dump : Json → Bytes) (cfg : Publisher.Config) (ws : WsId) (c : ControlChannel) :
    List (Frame Json) :=
  (messagesOn ws c.line.handed).map (frameOf dump cfg)

/-- Every message that was handed to a websocket is printed. -/
def AllPrinted (parse : Bytes → Except ε Json) (dump : Json → Bytes) (cfg : Publisher.Config)
    (c : ControlChannel) : Prop :=
  ∀ entry ∈ c.line.handed, Printed parse dump cfg entry.2

theorem AllPrinted.frames (h : c.AllPrinted parse dump cfg) (ws : WsId) :
    ∀ f ∈ c.frames dump cfg ws, f.Alone parse := by
  intro f hf
  obtain ⟨m, hm, rfl⟩ := List.mem_map.mp hf
  obtain ⟨entry, hentry, rfl⟩ := mem_of_mem_messagesOn hm
  exact (h entry hentry).alone

/-- **The invariant.**  A session has its messages but for those that are on the way, whether it
    goes on reading or not; before it is set up all of them are. -/
def Delivering (dump : Json → Bytes) (cfg : Publisher.Config) (ws : WsId) (c : ControlChannel) :
    Prop :=
  match c.sessions ws with
  | none   => c.toBroker ws = (c.frames dump cfg ws).map Frame.text
  | some s =>
    ControlSession.Arrived (c.frames dump cfg ws) (c.toBroker ws) { s with reading := true }

/-- Nothing that matters to the invariant has changed. -/
theorem Delivering.congr {ws : WsId} (h : c.Delivering dump cfg ws)
    (hline : c'.line = c.line) (hsessions : c'.sessions = c.sessions)
    (htoBroker : c'.toBroker = c.toBroker) : c'.Delivering dump cfg ws := by
  unfold Delivering frames at *
  rw [hline, hsessions, htoBroker]
  exact h

/-- The control line hands messages to its websockets. -/
theorem Delivering.lineTo {ws : WsId} (h : c.Delivering dump cfg ws)
    {line : Publisher.Publisher} (hgrows : c.line.handed <+: line.handed)
    (hprinted : (c.lineTo dump cfg line).AllPrinted parse dump cfg) :
    (c.lineTo dump cfg line).Delivering dump cfg ws := by
  obtain ⟨sent, hsent⟩ := hgrows
  have hdrop : line.handed.drop c.line.handed.length = sent := by
    rw [← hsent, List.drop_left]
  -- what is new is on the way, behind what was
  have hframes : (c.lineTo dump cfg line).frames dump cfg ws =
      c.frames dump cfg ws ++ (messagesOn ws sent).map (frameOf dump cfg) := by
    show (messagesOn ws line.handed).map _ = _
    rw [← hsent, messagesOn_append, List.map_append]
    rfl
  have htoBroker : (c.lineTo dump cfg line).toBroker ws =
      c.toBroker ws ++ ((messagesOn ws sent).map (frameOf dump cfg)).map Frame.text := by
    show c.toBroker ws ++ (messagesOn ws (line.handed.drop c.line.handed.length)).map _ = _
    rw [hdrop, List.map_map]
    rfl
  have hsessions : (c.lineTo dump cfg line).sessions = c.sessions := rfl
  unfold Delivering at *
  rw [hframes, htoBroker, hsessions]
  split
  · next hnone =>
    rw [hnone] at h
    rw [show c.toBroker ws = _ from h, List.map_append]
  · next s hs =>
    rw [hs] at h
    refine h.sent fun f hf => hprinted.frames ws f ?_
    rw [hframes]
    exact List.mem_append_right _ hf

theorem reading_of_readText {s s' : ControlSession PublisherWorld} {text : Bytes}
    (h : ControlSession.readText parse (fun j w => w.writeJson j) { s with world := c.world } text =
      some s') : s.reading = true := by
  simp only [ControlSession.readText, Option.ite_none_right_eq_some] at h
  exact h.1

/-- A session reads what the publisher has sent. -/
theorem Delivering.read {ws : WsId} {s s' : ControlSession PublisherWorld} {n : Nat} {text : Bytes}
    {unread : List Bytes} (h : c.Delivering dump cfg ws) (hprinted : c.AllPrinted parse dump cfg)
    (hs : c.sessions ws = some s) (hread : readSome n (c.toBroker ws) = some (text, unread))
    (hs' : ControlSession.readText parse (fun j w => w.writeJson j) { s with world := c.world }
      text = some s') :
    s'.Arrived (c.frames dump cfg ws) unread := by
  have hreading := reading_of_readText hs'
  unfold Delivering at h
  rw [hs] at h
  have harrived := ControlSession.Arrived.world h c.world
  rw [← hreading] at harrived
  obtain ⟨u, hu, harrived⟩ := ControlSession.Arrived.read (fun j w => w.writeJson j)
    (hprinted.frames ws) harrived hread
  obtain rfl : u = s' := Option.some.inj (hu.symm.trans hs')
  exact harrived

/-- Whether a session reads does not matter to what has arrived. -/
theorem Delivering.silence {ws : WsId} (h : c.Delivering dump cfg ws) (other : WsId) :
    (c.silence other).Delivering dump cfg ws := by
  unfold Delivering at *
  by_cases hws : ws = other
  · subst hws
    have hsessions : (c.silence ws).sessions ws =
        (c.sessions ws).map fun s => { s with reading := false } := Function.update_self ..
    rw [hsessions]
    cases hs : c.sessions ws with
    | none =>
      rw [hs] at h
      exact h
    | some s =>
      rw [hs] at h
      exact h
  · have hsessions : (c.silence other).sessions ws = c.sessions ws := Function.update_of_ne hws ..
    rw [hsessions]
    exact h

theorem Delivering.destroy {ws : WsId} (h : c.Delivering dump cfg ws) (old : Option WsId) :
    (c.destroy old).Delivering dump cfg ws := by
  cases old with
  | none => exact h
  | some old => exact (h.silence old).congr rfl rfl rfl

theorem Delivering.endSelf {ws : WsId} (h : c.Delivering dump cfg ws) :
    c.endSelf.Delivering dump cfg ws := by
  have hsame : Delivering dump cfg ws { c with slot := none } := h
  exact hsame.destroy c.slot

/-- A session is destroyed at most: the control line is left alone. -/
theorem line_destroy (old : Option WsId) : (c.destroy old).line = c.line := by
  cases old with
  | none => rfl
  | some old => rfl

/-- No message is taken back. -/
theorem Change.handed (h : Change parse dump cfg starts what c e c') :
    c.line.handed <+: c'.line.handed := by
  cases h with
  | line hgrows => exact hgrows
  | hears hgrows _ => exact hgrows
  | setup _ => exact List.prefix_rfl
  | stored _ =>
    unfold ControlChannel.stored
    rw [line_destroy]
  | tunnel own captured _ =>
    next w _ =>
    obtain ⟨queues, texts, hworld⟩ := c.writes_worldTo own w
    rw [hworld]
  | reads _ _ _ =>
    next ws _ _ s' _ _ _ _ _ =>
    obtain ⟨queues, texts, hworld⟩ := c.writes_worldTo (some ws) s'.world
    rw [hworld]
  | readFails _ =>
    unfold ControlChannel.endSelf
    rw [line_destroy]
    exact List.prefix_rfl
  | sent ws => exact List.prefix_rfl
  | sendFails ws =>
    unfold ControlChannel.endSelf
    rw [line_destroy]

/-- **One event** keeps the invariant. -/
theorem Delivering.change (h : ∀ ws, c.Delivering dump cfg ws)
    (hprinted : c'.AllPrinted parse dump cfg) (hchange : Change parse dump cfg starts what c e c')
    (ws : WsId) : c'.Delivering dump cfg ws := by
  have hbefore : c.AllPrinted parse dump cfg := fun entry hentry =>
    hprinted entry (hchange.handed.subset hentry)
  cases hchange with
  | line hgrows => exact (h ws).lineTo hgrows hprinted
  | hears hgrows _ =>
    next line _ _ _ =>
    have hkept : (c.lineTo dump cfg line).Delivering dump cfg ws := (h ws).lineTo hgrows hprinted
    exact hkept
  | setup hnone =>
    next other =>
    by_cases hws : ws = other
    · -- a new session has read nothing, and all messages are on the way to it
      subst hws
      have hall := h ws
      unfold Delivering at hall ⊢
      rw [hnone] at hall
      simp only [ControlChannel.setup, Function.update_self]
      have hfresh : (c.world.setup starts what ws).Arrived [] [] :=
        ControlSession.arrived_fresh (PublisherWorld.neverThrows_setup starts what c.world ws) _
      rw [show c.toBroker ws = _ from hall]
      exact hfresh.sent (hbefore.frames ws)
    · have hkept := h ws
      unfold Delivering at hkept ⊢
      simp only [ControlChannel.setup, Function.update_of_ne hws]
      exact hkept
  | stored _ =>
    next other _ =>
    have hsame : Delivering dump cfg ws
        { c with slot := some other, upgrading := c.upgrading.erase other } := h ws
    exact hsame.destroy c.slot
  | tunnel own captured _ =>
    next w _ =>
    obtain ⟨queues, texts, hworld⟩ := c.writes_worldTo own w
    rw [hworld]
    exact (h ws).congr rfl rfl rfl
  | reads hs hread hs' =>
    next other n s s' text unread =>
    obtain ⟨queues, texts, hworld⟩ := c.writes_worldTo (some other) s'.world
    rw [hworld]
    by_cases hws : ws = other
    · -- no callback throws, so the session reads again
      subst hws
      have harrived := (h ws).read hbefore hs hread hs'
      have hreading := (ControlSession.Arrived.dispatched harrived).1
      unfold Delivering
      simp only [Function.update_self]
      rw [← hreading]
      exact harrived
    · have hkept := h ws
      unfold Delivering at hkept ⊢
      simp only [Function.update_of_ne hws]
      exact hkept
  | readFails _ =>
    next other _ _ => exact ((h ws).silence other).endSelf
  | sent other => exact (h ws).congr rfl rfl rfl
  | sendFails other =>
    have hsame : Delivering dump cfg ws
        { c with queues := Function.update c.queues other (c.queues other).failed } := h ws
    exact hsame.endSelf

/-! ### Which sessions read -/

/-- **The invariant**, after a list of events.  A session reads exactly while it exists and none of
    its reads has failed. -/
structure Owned (events : List ChannelEvent) (c : ControlChannel) : Prop where
  known : ∀ ws, c.alive ws = true → (c.sessions ws).isSome = true
  failed : ∀ ws, .readFails ws ∈ events → (c.sessions ws).isSome = true
  stored : ∀ ws, c.slot = some ws → ws ∉ c.upgrading
  reading : ∀ ws s, c.sessions ws = some s →
    (s.reading = true ↔ c.alive ws = true ∧ .readFails ws ∉ events)

section Owned

variable {events : List ChannelEvent} {ws other : WsId} {s : ControlSession PublisherWorld}

theorem alive_iff : c.alive ws = true ↔ c.slot = some ws ∨ ws ∈ c.upgrading := by
  unfold alive
  exact decide_eq_true_iff

/-- A session after a session has been silenced. -/
theorem sessions_silence (h : (c.silence other).sessions ws = some s) :
    ∃ before, c.sessions ws = some before ∧
      s.reading = if ws = other then false else before.reading := by
  unfold silence at h
  by_cases hws : ws = other
  · subst hws
    simp only [Function.update_self] at h
    obtain ⟨before, hbefore, rfl⟩ := Option.map_eq_some_iff.mp h
    exact ⟨before, hbefore, by rw [if_pos rfl]⟩
  · simp only [Function.update_of_ne hws] at h
    exact ⟨s, h, by rw [if_neg hws]⟩

theorem isSome_silence :
    ((c.silence other).sessions ws).isSome = (c.sessions ws).isSome := by
  unfold silence
  by_cases hws : ws = other
  · subst hws
    simp only [Function.update_self, Option.isSome_map]
  · simp only [Function.update_of_ne hws]

/-- Nothing that matters to the invariant has changed. -/
theorem Owned.congr (h : Owned events c) (hsessions : c'.sessions = c.sessions)
    (hslot : c'.slot = c.slot) (hupgrading : c'.upgrading = c.upgrading) : Owned events c' := by
  have halive : c'.alive = c.alive := by
    funext ws
    unfold alive
    rw [hslot, hupgrading]
  exact ⟨by rw [halive, hsessions]; exact h.known, by rw [hsessions]; exact h.failed,
    by rw [hslot, hupgrading]; exact h.stored, by rw [halive, hsessions]; exact h.reading⟩

/-- Other events than a failed read do not matter. -/
theorem Owned.more (h : Owned events c) (he : ∀ ws, e ≠ .readFails ws) :
    Owned (events ++ [e]) c := by
  have hmem : ∀ ws, .readFails ws ∈ events ++ [e] ↔ .readFails ws ∈ events := by
    intro ws
    rw [List.mem_append, List.mem_singleton]
    exact or_iff_left fun heq => he ws heq.symm
  exact ⟨h.known, fun ws hws => h.failed ws ((hmem ws).mp hws), h.stored,
    fun ws s hs => (h.reading ws s hs).trans (and_congr_right' (not_congr (hmem ws)).symm)⟩

/-- The slot changes hands, and the session that was in it is destroyed. -/
theorem Owned.destroy (h : Owned events c) (old : Option WsId)
    (hsessions : c'.sessions = c.sessions)
    (halive : ∀ ws, c'.alive ws = true ↔ c.alive ws = true ∧ old ≠ some ws)
    (hstored : ∀ ws, c'.slot = some ws → ws ∉ c'.upgrading) : Owned events (c'.destroy old) := by
  cases old with
  | none =>
    have hsame : ∀ ws, c'.alive ws = true ↔ c.alive ws = true := fun ws => by simp [halive ws]
    refine ⟨fun ws hws => ?_, fun ws hws => ?_, hstored, fun ws s hs => ?_⟩
    · exact hsessions ▸ h.known ws ((hsame ws).mp hws)
    · exact hsessions ▸ h.failed ws hws
    · exact (h.reading ws s (hsessions ▸ hs)).trans (and_congr_left' (hsame ws).symm)
  | some old =>
    refine ⟨fun ws hws => ?_, fun ws hws => ?_, hstored, fun ws s hs => ?_⟩
    · exact isSome_silence.trans (hsessions ▸ h.known ws ((halive ws).mp hws).1)
    · exact isSome_silence.trans (hsessions ▸ h.failed ws hws)
    · obtain ⟨before, hbefore, hreading⟩ := sessions_silence hs
      have hread := h.reading ws before (hsessions ▸ hbefore)
      show s.reading = true ↔ c'.alive ws = true ∧ _
      rw [hreading, halive ws]
      by_cases hws : ws = old
      · -- the session that was destroyed neither reads nor exists
        subst hws
        simp
      · rw [if_neg hws, hread, and_iff_left fun heq => hws (Option.some.inj heq).symm]

theorem Owned.endSelf (h : Owned events c) : Owned events c.endSelf := by
  refine h.destroy c.slot rfl (fun ws => ?_) fun ws hws => by cases hws
  rw [alive_iff, alive_iff]
  constructor
  · rintro (hnone | hws)
    · cases hnone
    · -- an upgrade handler still holds it, so it is not the one that was in the slot
      exact ⟨.inr hws, fun hslot => h.stored ws hslot hws⟩
  · rintro ⟨hslot | hws, hne⟩
    · exact absurd hslot hne
    · exact .inr hws

theorem Owned.silence (h : Owned events c) (hs : c.sessions ws = some s) :
    Owned (events ++ [.readFails ws]) (c.silence ws) where
  known other hother := isSome_silence.trans (h.known other hother)
  failed other hother := by
    rw [isSome_silence]
    rcases List.mem_append.mp hother with hother | hother
    · exact h.failed other hother
    · obtain rfl : other = ws := by simpa using hother
      rw [hs]
      rfl
  stored := h.stored
  reading other u hu := by
    obtain ⟨before, hbefore, hreading⟩ := sessions_silence hu
    show u.reading = true ↔ c.alive other = true ∧ _
    rw [hreading]
    by_cases hother : other = ws
    · subst hother
      simp
    · rw [if_neg hother, h.reading other before hbefore]
      simp [hother]

theorem Owned.setup (h : Owned events c) (hnone : c.sessions ws = none) :
    Owned events (c.setup starts what ws) where
  known other hother := by
    by_cases heq : other = ws
    · subst heq
      simp [ControlChannel.setup]
    · simp only [ControlChannel.setup, Function.update_of_ne heq]
      refine h.known other ?_
      rw [alive_iff] at hother ⊢
      simpa [ControlChannel.setup, heq] using hother
  failed other hother := by
    by_cases heq : other = ws
    · subst heq
      simp [ControlChannel.setup]
    · simp only [ControlChannel.setup, Function.update_of_ne heq]
      exact h.failed other hother
  stored other hother hmem := by
    rcases Finset.mem_insert.mp hmem with rfl | hmem
    · -- the slot would hold a session that did not exist
      have hsome := h.known other (alive_iff.mpr (.inl hother))
      rw [hnone] at hsome
      cases hsome
    · exact h.stored other hother hmem
  reading other s hs := by
    by_cases heq : other = ws
    · subst heq
      simp only [ControlChannel.setup, Function.update_self, Option.some.injEq] at hs
      subst hs
      refine iff_of_true rfl ⟨?_, fun hfailed => ?_⟩
      · exact alive_iff.mpr (.inr (Finset.mem_insert_self _ _))
      · have hsome := h.failed other hfailed
        rw [hnone] at hsome
        cases hsome
    · simp only [ControlChannel.setup, Function.update_of_ne heq] at hs
      rw [h.reading other s hs, alive_iff, alive_iff]
      simp [ControlChannel.setup, heq]

/-- A session has read, and reads again. -/
theorem Owned.read (h : Owned events c) (hs : c.sessions ws = some s) (hbefore : s.reading = true)
    {s' : ControlSession PublisherWorld} (hafter : s'.reading = true) :
    Owned events { c with sessions := Function.update c.sessions ws (some s') } where
  known other hother := by
    by_cases heq : other = ws
    · subst heq
      simp
    · simp only [Function.update_of_ne heq]
      exact h.known other hother
  failed other hother := by
    by_cases heq : other = ws
    · subst heq
      simp
    · simp only [Function.update_of_ne heq]
      exact h.failed other hother
  stored := h.stored
  reading other u hu := by
    by_cases heq : other = ws
    · subst heq
      simp only [Function.update_self, Option.some.injEq] at hu
      rw [← hu]
      exact iff_of_true hafter ((h.reading other s hs).mp hbefore)
    · simp only [Function.update_of_ne heq] at hu
      exact h.reading other u hu

theorem Owned.store (h : Owned events c) (hws : ws ∈ c.upgrading) :
    Owned events (c.stored ws) := by
  refine h.destroy c.slot rfl (fun other => ?_) fun other hother => ?_
  · rw [alive_iff, alive_iff, Finset.mem_erase, Option.some.injEq]
    by_cases heq : ws = other
    · -- it moves from its upgrade handler to the slot
      subst heq
      refine iff_of_true (.inl rfl) ⟨.inr hws, fun hslot => h.stored ws hslot hws⟩
    · constructor
      · rintro (hsame | ⟨-, hother⟩)
        · exact absurd hsame heq
        · exact ⟨.inr hother, fun hslot => h.stored other hslot hother⟩
      · rintro ⟨hslot | hother, hne⟩
        · exact absurd hslot hne
        · exact .inr ⟨Ne.symm heq, hother⟩
  · obtain rfl : ws = other := Option.some.inj hother
    exact Finset.notMem_erase ws c.upgrading

/-- **One event** keeps the invariant. -/
theorem Owned.change (h : Owned events c) (hdelivering : ∀ ws, c.Delivering dump cfg ws)
    (hprinted : c.AllPrinted parse dump cfg)
    (hchange : Change parse dump cfg starts what c e c') : Owned (events ++ [e]) c' := by
  cases hchange with
  | line _ =>
    refine Owned.more ?_ fun ws => nofun
    exact h.congr rfl rfl rfl
  | hears _ _ =>
    refine Owned.more ?_ fun ws => nofun
    exact h.congr rfl rfl rfl
  | setup hnone => exact (h.setup hnone).more fun ws => nofun
  | stored hws => exact (h.store hws).more fun ws => nofun
  | tunnel own captured _ =>
    next w _ =>
    obtain ⟨queues, texts, hworld⟩ := c.writes_worldTo own w
    rw [hworld]
    refine Owned.more ?_ fun ws => nofun
    exact h.congr rfl rfl rfl
  | reads hs hread hs' =>
    next ws n s s' text unread =>
    have hreading := (ControlSession.Arrived.dispatched
      ((hdelivering ws).read hprinted hs hread hs')).1
    obtain ⟨queues, texts, hworld⟩ := c.writes_worldTo (some ws) s'.world
    rw [hworld]
    refine Owned.more ?_ fun ws => nofun
    have hkept := h.read hs (reading_of_readText hs') hreading
    exact hkept.congr rfl rfl rfl
  | readFails hs => exact (h.silence hs).endSelf
  | sent ws =>
    refine Owned.more ?_ fun ws => nofun
    exact h.congr rfl rfl rfl
  | sendFails ws =>
    have hsame : Owned events
        { c with queues := Function.update c.queues ws (c.queues ws).failed } :=
      h.congr rfl rfl rfl
    exact hsame.endSelf.more fun ws => nofun

end Owned

/-- **Every run.**  The induction adds the last event. -/
theorem delivering_of_run {identity : String} {events : List ChannelEvent}
    (hrun : run (step parse dump cfg starts what) (start identity) events = some c)
    (hprinted : c.AllPrinted parse dump cfg) :
    (∀ ws, c.Delivering dump cfg ws) ∧ Owned events c := by
  induction events using List.reverseRecOn generalizing c with
  | nil =>
    obtain rfl : start identity = c := Option.some.inj hrun
    refine ⟨fun ws => rfl, fun ws hws => ?_, fun ws hws => ?_, fun ws hws => ?_, fun ws s hs => ?_⟩
    · simp [alive_iff, start] at hws
    · cases hws
    · cases hws
    · cases hs
  | append_singleton events e ih =>
    rw [run_append] at hrun
    obtain ⟨u, hu, hlast⟩ := Option.bind_eq_some_iff.mp hrun
    have hchange : Change parse dump cfg starts what u e c := change_of_step (by simpa using hlast)
    have hbefore : u.AllPrinted parse dump cfg := fun entry hentry =>
      hprinted entry (hchange.handed.subset hentry)
    obtain ⟨hdelivering, howned⟩ := ih hu hbefore
    -- that a session goes on reading rests on what it reads
    exact ⟨Delivering.change hdelivering hprinted hchange,
      howned.change hdelivering hbefore hchange⟩

/-- **What the broker hears.**  In every run, whatever reads and sends fail on either side, and in
    whatever pieces the messages are read: as long as the session of a websocket exists and none of
    its reads has failed it goes on reading, and at any time it has dispatched the messages that
    were handed to the websocket, each once and in order, but for those that are still on the
    way. -/
theorem broker_hears {identity : String} {events : List ChannelEvent}
    (hrun : run (step parse dump cfg starts what) (start identity) events = some c)
    (hprinted : c.AllPrinted parse dump cfg) {ws : WsId} {s : ControlSession PublisherWorld}
    (hs : c.sessions ws = some s) :
    (s.reading = true ↔ c.alive ws = true ∧ .readFails ws ∉ events) ∧
      ∃ k, k + (c.toBroker ws).length = (messagesOn ws c.line.handed).length ∧
        s.dispatched =
          ((messagesOn ws c.line.handed).take k).map fun m => dispatchedFor (m.payload cfg) := by
  obtain ⟨hdelivering, howned⟩ := delivering_of_run hrun hprinted
  refine ⟨howned.reading ws s hs, ?_⟩
  have hws := hdelivering ws
  unfold Delivering at hws
  rw [hs] at hws
  obtain ⟨-, k, hcount, hdispatched⟩ := ControlSession.Arrived.dispatched hws
  unfold frames at hcount hdispatched
  refine ⟨k, by rw [hcount, List.length_map], ?_⟩
  rw [show s.dispatched = _ from hdispatched, ← List.map_take, List.map_map]
  rfl

/-! ### What the broker writes -/

/-- The texts of a session go to its queue, from there to the websocket and to the publisher. -/
structure Ordered (c : ControlChannel) : Prop where
  known : ∀ ws, ∀ j ∈ c.texts ws, Written j
  order : ∀ ws, (c.queues ws).messages = c.texts ws
  heard : ∀ ws, c.heard ws <+: (c.queues ws).handed.map Prod.snd

/-- **The invariant.** -/
structure Queued (c : ControlChannel) : Prop where
  callbacks : ∀ ws s, c.sessions ws = some s → s.dispatcher.Keeps PublisherWorld.WritesKnown
  world : c.world.WritesKnown
  ordered : c.Ordered

/-- One session gets another queue, which has handed over what its queue had, and its texts. -/
theorem Ordered.update (h : c.Ordered) (ws : WsId) {queue : SendQueue Unit Json}
    {written : List Json} (hknown : ∀ j ∈ written, Written j) (horder : queue.messages = written)
    (hgrows : (c.queues ws).handed <+: queue.handed) :
    Ordered { c with
      queues := Function.update c.queues ws queue
      texts := Function.update c.texts ws written } where
  known other := by
    by_cases hother : other = ws
    · subst hother
      simp only [Function.update_self]
      exact hknown
    · simp only [Function.update_of_ne hother]
      exact h.known other
  order other := by
    by_cases hother : other = ws
    · subst hother
      simp only [Function.update_self]
      exact horder
    · simp only [Function.update_of_ne hother]
      exact h.order other
  heard other := by
    by_cases hother : other = ws
    · subst hother
      simp only [Function.update_self]
      exact (h.heard other).trans (hgrows.map Prod.snd)
    · simp only [Function.update_of_ne hother]
      exact h.heard other

theorem Ordered.write (h : c.Ordered) (ws : WsId) {j : Json} (hj : Written j) :
    (c.write ws j).Ordered := by
  refine h.update ws (fun text htext => ?_) ?_ (SendQueue.handed_prefix_enqueue _ () j)
  · rcases List.mem_append.mp htext with htext | htext
    · exact h.known ws text htext
    · rw [List.mem_singleton.mp htext]
      exact hj
  · rw [SendQueue.messages_enqueue, h.order ws]

/-- The send of a session ends: its texts stay as they are. -/
theorem Ordered.sends (h : c.Ordered) (ws : WsId) {queue : SendQueue Unit Json}
    (horder : queue.messages = (c.queues ws).messages)
    (hgrows : (c.queues ws).handed <+: queue.handed) :
    Ordered { c with queues := Function.update c.queues ws queue } := by
  have hkept := h.update ws (h.known ws) (horder.trans (h.order ws)) hgrows
  rwa [Function.update_eq_self] at hkept

theorem Ordered.foldl_writeTo (h : c.Ordered) (own : Option WsId) {texts : List Json}
    (htexts : ∀ j ∈ texts, Written j) : (texts.foldl (fun c j => c.writeTo own j) c).Ordered := by
  induction texts generalizing c with
  | nil => exact h
  | cons j texts ih =>
    have hone : (c.writeTo own j).Ordered := by
      unfold writeTo
      split
      · exact h
      · exact h.write _ (htexts j List.mem_cons_self)
    exact ih hone fun text htext => htexts text (List.mem_cons_of_mem j htext)

/-- The publisher of the broker changes. -/
theorem Ordered.worldTo (h : c.Ordered) (own : Option WsId) {w : PublisherWorld}
    (hw : w.WritesKnown) : (c.worldTo own w).Ordered := by
  have hsame : ({ c with world := w } : ControlChannel).Ordered := ⟨h.known, h.order, h.heard⟩
  exact hsame.foldl_writeTo own fun j hj => hw j (List.mem_of_mem_drop hj)

/-- The publisher reads the next text. -/
theorem Ordered.hears (h : c.Ordered) {ws : WsId} {j : Json}
    (hnext : (c.queues ws).handed[(c.heard ws).length]? = some ((), j)) (other : WsId) :
    Function.update c.heard ws (c.heard ws ++ [j]) other <+:
      (c.queues other).handed.map Prod.snd := by
  by_cases hother : other = ws
  · subst hother
    rw [Function.update_self]
    obtain ⟨rest, hrest⟩ := h.heard other
    have hj : ((c.queues other).handed.map Prod.snd)[(c.heard other).length]? = some j := by
      rw [List.getElem?_map, hnext]
      rfl
    rw [← hrest, List.getElem?_append_right le_rfl, Nat.sub_self] at hj
    -- the first text that was handed over and not heard is the one that is read
    cases rest with
    | nil => cases hj
    | cons head rest =>
      obtain rfl := Option.some.inj hj
      exact ⟨rest, by rw [← hrest, List.append_assoc]; rfl⟩
  · rw [Function.update_of_ne hother]
    exact h.heard other

/-- A session is destroyed at most. -/
theorem Queued.silence (h : c.Queued) (ws : WsId) : (c.silence ws).Queued where
  callbacks other s hs := by
    by_cases hother : other = ws
    · subst hother
      simp only [ControlChannel.silence, Function.update_self] at hs
      obtain ⟨before, hbefore, rfl⟩ := Option.map_eq_some_iff.mp hs
      exact h.callbacks other before hbefore
    · simp only [ControlChannel.silence, Function.update_of_ne hother] at hs
      exact h.callbacks other s hs
  world := h.world
  ordered := ⟨h.ordered.known, h.ordered.order, h.ordered.heard⟩

theorem Queued.destroy (h : c.Queued) (old : Option WsId) : (c.destroy old).Queued := by
  cases old with
  | none => exact h
  | some old =>
    have hsilenced := h.silence old
    exact ⟨hsilenced.callbacks, h.world, hsilenced.ordered.known, hsilenced.ordered.order,
      hsilenced.ordered.heard⟩

theorem Queued.endSelf (h : c.Queued) : c.endSelf.Queued := by
  have hsame : Queued { c with slot := none } :=
    ⟨h.callbacks, h.world, h.ordered.known, h.ordered.order, h.ordered.heard⟩
  exact hsame.destroy c.slot

/-- **One event** keeps the invariant. -/
theorem Queued.change (h : c.Queued) (hchange : Change parse dump cfg starts what c e c') :
    c'.Queued := by
  cases hchange with
  | line _ => exact ⟨h.callbacks, h.world, h.ordered.known, h.ordered.order, h.ordered.heard⟩
  | hears _ hnext =>
    exact ⟨h.callbacks, h.world, h.ordered.known, h.ordered.order, h.ordered.hears hnext⟩
  | setup hnone =>
    next ws =>
    refine ⟨fun other s hs => ?_, h.world, h.ordered.known, h.ordered.order, h.ordered.heard⟩
    by_cases hother : other = ws
    · subst hother
      simp only [ControlChannel.setup, Function.update_self, Option.some.injEq] at hs
      subst hs
      exact PublisherWorld.keeps_setup starts what c.world other
    · simp only [ControlChannel.setup, Function.update_of_ne hother] at hs
      exact h.callbacks other s hs
  | stored _ =>
    next ws _ =>
    have hsame : Queued { c with slot := some ws, upgrading := c.upgrading.erase ws } :=
      ⟨h.callbacks, h.world, h.ordered.known, h.ordered.order, h.ordered.heard⟩
    exact hsame.destroy c.slot
  | tunnel own captured hw =>
    next w =>
    have hknown : w.WritesKnown := h.world.tunnel hw
    have hordered := h.ordered.worldTo own hknown
    obtain ⟨queues, texts, hworld⟩ := c.writes_worldTo own w
    rw [hworld] at hordered ⊢
    exact ⟨h.callbacks, hknown, hordered.known, hordered.order, hordered.heard⟩
  | reads hs hread hs' =>
    next ws n s s' text unread =>
    have hwrite : ∀ ref msg (w : PublisherWorld), w.WritesKnown →
        (w.writeJson (errorMessage ref msg)).WritesKnown :=
      fun ref msg w hw => hw.writeJson (.error ref msg)
    -- the callbacks write answers only, and leave callbacks that do
    have hread := ControlSession.keeps_readText (s := { s with world := c.world }) hwrite
      (h.callbacks ws s hs) h.world hs'
    obtain ⟨hknown, hcallbacks⟩ := hread
    have hordered := h.ordered.worldTo (some ws) hknown
    obtain ⟨queues, texts, hworld⟩ := c.writes_worldTo (some ws) s'.world
    rw [hworld] at hordered ⊢
    refine ⟨fun other u hu => ?_, hknown, hordered.known, hordered.order, hordered.heard⟩
    by_cases hother : other = ws
    · subst hother
      simp only [Function.update_self, Option.some.injEq] at hu
      subst hu
      exact hcallbacks
    · simp only [Function.update_of_ne hother] at hu
      exact h.callbacks other u hu
  | readFails _ =>
    next ws _ _ => exact (h.silence ws).endSelf
  | sent ws => exact ⟨h.callbacks, h.world, h.ordered.sends ws
    (SendQueue.messages_completed _ ()) (SendQueue.handed_prefix_completed _ ())⟩
  | sendFails ws =>
    have hsame : Queued
        { c with queues := Function.update c.queues ws (c.queues ws).failed } :=
      ⟨h.callbacks, h.world, h.ordered.sends ws (SendQueue.messages_failed _) List.prefix_rfl⟩
    exact hsame.endSelf

/-- What the broker writes is a `NewTunnel`, which is handled with the arguments that it was
    written with, or nothing is done about it. -/
theorem onControlRead_written {j : Json} (hj : Written j) (hparse : parse (dump j) = .ok j)
    (answers : Publisher.Answers) :
    (∃ serviceId tunnelId serviceInfo,
      j = PublisherWorld.newTunnel serviceId tunnelId serviceInfo ∧
        Publisher.onControlRead parse cfg (dump j) answers =
          Publisher.onNewTunnel parse cfg serviceId tunnelId serviceInfo.hiddenPort.toNat
            serviceInfo.publicPort.toNat "tcp" answers) ∨
      j.stringAt "type" ≠ some "NewTunnel" ∧
        Publisher.onControlRead parse cfg (dump j) answers = {} := by
  have hread : Publisher.onControlRead parse cfg (dump j) answers =
      Publisher.onControlJson parse cfg j answers := by
    unfold Publisher.onControlRead
    rw [hparse]
  cases hj with
  | newTunnel serviceId tunnelId serviceInfo =>
    exact .inl ⟨serviceId, tunnelId, serviceInfo, rfl, onControlRead_newTunnel hparse answers⟩
  | startResult result =>
    exact .inr ⟨show some "ServiceStartResult" ≠ some "NewTunnel" by decide, hread⟩
  | error ref msg => exact .inr ⟨show some "Error" ≠ some "NewTunnel" by decide, hread⟩
  | pong ref => exact .inr ⟨show some "Pong" ≠ some "NewTunnel" by decide, hread⟩

/-- **What the publisher hears.**  In every run, whatever reads and sends fail on either side, and
    on every websocket it reads the texts that were written on the session, each once and in order.
    It understands all of them: a `NewTunnel` is handled with the arguments that it was written
    with, nothing is done about any other text, and no exception leaves the handler but one of a
    tunnel that is signed. -/
theorem publisher_hears {identity : String} {events : List ChannelEvent}
    (hrun : run (step parse dump cfg starts what) (start identity) events = some c) (ws : WsId)
    (hparse : ∀ j ∈ c.texts ws, parse (dump j) = .ok j) :
    c.heard ws <+: c.texts ws ∧ ∀ j ∈ c.heard ws, ∀ answers,
      (∃ serviceId tunnelId serviceInfo,
        j = PublisherWorld.newTunnel serviceId tunnelId serviceInfo ∧
          Publisher.onControlRead parse cfg (dump j) answers =
            Publisher.onNewTunnel parse cfg serviceId tunnelId serviceInfo.hiddenPort.toNat
              serviceInfo.publicPort.toNat "tcp" answers) ∨
        j.stringAt "type" ≠ some "NewTunnel" ∧
          Publisher.onControlRead parse cfg (dump j) answers = {} := by
  have hqueued : c.Queued := by
    refine run_preserves (fun _ _ _ ih h => ih.change (change_of_step h)) ?_ hrun
    exact ⟨fun _ _ h => (by cases h), fun _ h => absurd h List.not_mem_nil,
      ⟨fun _ _ h => absurd h List.not_mem_nil, fun _ => rfl, fun _ => List.prefix_rfl⟩⟩
  have hgrows : c.heard ws <+: c.texts ws := by
    rw [← hqueued.ordered.order ws]
    exact (hqueued.ordered.heard ws).trans (List.prefix_append _ _)
  refine ⟨hgrows, fun j hj answers => ?_⟩
  have hwritten := hgrows.subset hj
  exact onControlRead_written (hqueued.ordered.known ws j hwritten) (hparse j hwritten) answers

/-! ### A client of one service -/

/-- The report of the service of `cfgWeb`. -/
def startedWeb : Json :=
  .object [("result", .boolean true), ("type", .string "ServiceStartResult")]

def pingWeb : Json := ControlMessage.payload cfgWeb .ping

/-- The answer to a ping. -/
def pongWeb : Json :=
  .object [
    ("payload", .object [("type", .string "Pong")]),
    ("ref", .string "Ping"),
    ("type", .string "Pong")]

/-- A `json::parse` that reads what is sent. -/
def parseChannel : Bytes → Except Unit Json :=
  Json.readsOnly Json.dump [handshakeWeb, pingWeb, startedWeb, newTunnelWeb, replyWeb, pongWeb]

/-- The publisher connects, and its handshake is read in two pieces; a client of the service is
    announced, and a ping is answered. -/
def eventsWeb : List ChannelEvent :=
  [.publisher (.start true), .setup 1, .publisher (.connected 1), .reads 1 5, .stored 1,
    .reads 1 (handshakeWeb.dump.length - 5), .publisher (.sendDone 1), .hears 1 answersWeb,
    .sent 1, .tunnel "service" (.accept "t"),
    .tunnel "service" (.peeked "t" (some (viewNaming "t")) false (asciiString "GET")),
    .hears 1 answersWeb, .sent 1, .publisher .pingAlive, .reads 1 pingWeb.dump.length,
    .hears 1 answersWeb]

/-- The state after these events and some more. -/
def afterWeb (more : List ChannelEvent) : Option ControlChannel :=
  run (step parseChannel Json.dump cfgWeb (fun _ => ("service", true)) "") (start "pub")
    (eventsWeb ++ more)

/-- All that is sent is read. -/
theorem parse_channel {j : Json}
    (h : j ∈ [handshakeWeb, pingWeb, startedWeb, newTunnelWeb, replyWeb, pongWeb]) :
    parseChannel j.dump = .ok j :=
  Json.readsOnly_of_mem (by decide +kernel) h

/-- Both messages have been dispatched, and the session reads. -/
theorem broker_hears_web :
    ∃ c s, afterWeb [] = some c ∧ c.sessions 1 = some s ∧ s.reading = true ∧
      s.dispatched = [dispatchedFor handshakeWeb, dispatchedFor pingWeb] := by
  have hend : (afterWeb []).map (fun c =>
      (c.line.handed, (c.sessions 1).isSome, c.alive 1, c.toBroker 1)) =
        some ([(1, .handshake), (1, .ping)], true, true, []) := by
    decide +kernel
  obtain ⟨c, hc, hend⟩ := Option.map_eq_some_iff.mp hend
  simp only [Prod.mk.injEq] at hend
  obtain ⟨hhanded, hopen, halive, hread⟩ := hend
  obtain ⟨s, hs⟩ := Option.isSome_iff_exists.mp hopen
  have hprinted : c.AllPrinted parseChannel Json.dump cfgWeb := by
    intro entry hentry
    rw [hhanded] at hentry
    rcases List.mem_cons.mp hentry with rfl | hentry
    · exact ⟨Json.objectText_dump _, parse_channel List.mem_cons_self⟩
    · rw [List.mem_singleton.mp hentry]
      exact ⟨Json.objectText_dump _, parse_channel (.tail _ List.mem_cons_self)⟩
  obtain ⟨hreading, k, hcount, hdispatched⟩ := broker_hears hc hprinted hs
  rw [hhanded, hread] at hcount
  rw [hhanded] at hdispatched
  obtain rfl : k = 2 := hcount
  have hnever : ChannelEvent.readFails 1 ∉ eventsWeb ++ [] := by
    simp [eventsWeb]
  exact ⟨c, s, hc, hs, hreading.mpr ⟨halive, hnever⟩, hdispatched⟩

example : ((afterWeb [.readFails 1]).bind fun c => (c.sessions 1).map (·.reading)) =
    some false := by decide +kernel

/-- The publisher has read the `NewTunnel` of the client, between two texts that it ignores. -/
theorem publisher_hears_web :
    ∃ c, afterWeb [] = some c ∧ c.heard 1 = [startedWeb, newTunnelWeb, pongWeb] ∧
      c.heard 1 <+: c.texts 1 ∧
      ∀ answers, Publisher.onControlRead parseChannel cfgWeb newTunnelWeb.dump answers =
        Publisher.onNewTunnel parseChannel cfgWeb "service" "t" 8080 80 "tcp" answers := by
  have htexts : (afterWeb []).map (fun c => (c.texts 1, c.heard 1)) =
      some ([startedWeb, newTunnelWeb, pongWeb], [startedWeb, newTunnelWeb, pongWeb]) := by
    decide +kernel
  obtain ⟨c, hc, hboth⟩ := Option.map_eq_some_iff.mp htexts
  obtain ⟨htexts, hheard⟩ := Prod.mk.inj hboth
  have hsent : [startedWeb, newTunnelWeb, pongWeb] ⊆
      [handshakeWeb, pingWeb, startedWeb, newTunnelWeb, replyWeb, pongWeb] := by
    decide +kernel
  have hparse : ∀ j ∈ c.texts 1, parseChannel j.dump = .ok j := by
    intro j hj
    rw [htexts] at hj
    exact parse_channel (hsent hj)
  obtain ⟨hgrows, hunderstood⟩ := publisher_hears hc 1 hparse
  refine ⟨c, hc, hheard, hgrows, fun answers => ?_⟩
  have hmem : newTunnelWeb ∈ c.heard 1 := by
    rw [hheard]
    exact .tail _ List.mem_cons_self
  rcases hunderstood newTunnelWeb hmem answers with
    ⟨serviceId, tunnelId, serviceInfo, hsame, hread⟩ | ⟨hother, -⟩
  · -- the ports and the names are those of the message
    have harguments := newTunnelArguments_newTunnel serviceId tunnelId serviceInfo
    rw [← hsame, newTunnelWeb, newTunnelArguments_newTunnel] at harguments
    simp only [Option.some.injEq, Prod.mk.injEq] at harguments
    obtain ⟨rfl, rfl, hhidden, hpublic, -⟩ := harguments
    rw [hread, ← hhidden, ← hpublic]
    rfl
  · exact absurd rfl hother

end ControlChannel

end TunnelBore.Wire
