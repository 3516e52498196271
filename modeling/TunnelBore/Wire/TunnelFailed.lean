import TunnelBore.Broker.Subscriptions
import TunnelBore.Publisher.ControlRead

namespace TunnelBore.Wire

open TunnelBore.Lib
open TunnelBore.Broker

/-!
# `NewTunnelFailed` across the wire

When a tunnel cannot be made, the publisher's `onNewTunnel` answers with `NewTunnelFailed`, for
which the client side would have to be closed on the broker.  The broker's publisher subscribes
to `Handshake` and `Ping` only, so the message is logged and the client goes on waiting.

* `Waits` — a client side in the table of a service that is not linked;
* `TakenDown` — what the message asks for;
* `tunnelFailed_ignored` — in no reachable state does it happen.
-/

/-- A client side in the table, open and not linked. -/
structure Waits (s : Service) (t : TunnelId) : Prop where
  listed : t ∈ s.sessions
  unlinked : ∃ session, s.tunnel t = some session ∧ session.isPublisherSide = false ∧
    session.wasClosed = false ∧ session.pipeOperation = none

/-- The client side `t` of a service is closed and removed, and nothing else is. -/
structure TakenDown (before after : PublisherWorld) (serviceId : ServiceId) (t : TunnelId) :
    Prop where
  removed : t ∉ (after.tunnels serviceId).service.sessions
  closed : ∀ session, (after.tunnels serviceId).service.tunnel t = some session →
    session.wasClosed = true
  others : ∀ id other, id ≠ serviceId ∨ other ≠ t →
    (other ∈ (after.tunnels id).service.sessions ↔ other ∈ (before.tunnels id).service.sessions) ∧
      (after.tunnels id).service.tunnel other = (before.tunnels id).service.tunnel other

variable {ε : Type} {parse : Bytes → Except ε Json} {starts : Starts} {what : String}
variable {s : ControlSession PublisherWorld}
variable (cfg : Publisher.Config) (serviceId : ServiceId) (t : TunnelId)
variable (hiddenPort publicPort : Int) (socketType reason : String)

/-- The message as the publisher sends it. -/
def tunnelFailed : Json :=
  Publisher.ControlMessage.payload cfg
    (.newTunnelFailed serviceId t hiddenPort publicPort socketType reason)

/-- Its type is not one that a broker knows. -/
theorem find_type_tunnelFailed :
    (tunnelFailed cfg serviceId t hiddenPort publicPort socketType reason).find "type" =
      some (.string "NewTunnelFailed") := rfl

/-- It carries no `ref`. -/
theorem refOf_tunnelFailed :
    refOf (tunnelFailed cfg serviceId t hiddenPort publicPort socketType reason) = some "" := rfl

/-- **A failed tunnel is never taken down.**  In every reachable state of a publisher with its
    control session, and for every client side that waits in a service, the message leaves the
    services, and with them the client side, as they are. -/
theorem tunnelFailed_ignored {identity : String} {turns : List ControlTurn}
    (hrun : run (ControlSession.step parse starts what)
      (ControlSession.start starts what identity) turns = some s)
    (hwaits : Waits (s.world.tunnels serviceId).service t) :
    let after := s.onMessage (tunnelFailed cfg serviceId t hiddenPort publicPort socketType reason)
    after.world = s.world ∧ ¬TakenDown s.world after.world serviceId t := by
  intro after
  have hsame : after.world = s.world := by
    show (s.onMessage
      (tunnelFailed cfg serviceId t hiddenPort publicPort socketType reason)).world = s.world
    rw [ControlSession.onPopped_of_unsubscribed (ControlSession.subscribed_run hrun)
      (find_type_tunnelFailed ..) (refOf_tunnelFailed ..) (by decide)]
  refine ⟨hsame, fun hdown => hdown.removed ?_⟩
  rw [hsame]
  exact hwaits.listed

/-- A publisher with one service. -/
def cfgWeb : Publisher.Config := ⟨"pub", "localhost", [⟨some "web", 8080, 80, none⟩]⟩

def handshakeWeb : Json := Publisher.ControlMessage.payload cfgWeb .handshake

/-- A `json::parse` that reads the handshake of `cfgWeb`. -/
def parseHandshake : Bytes → Except Unit Json := Json.readsOnly Json.dump [handshakeWeb]

/-- The handshake is read, a client connects and sends its first bytes. -/
def turnsWaiting : List ControlTurn :=
  [.read ⟨false, handshakeWeb.dump⟩, .tunnel "service" (.accept "t"),
    .tunnel "service" (.peeked "t" (some (viewNaming "c")) false (asciiString "x"))]

/-- The client of `turnsWaiting` waits. -/
theorem waits_web :
    ∃ s, run (ControlSession.step parseHandshake (fun _ => ("service", true)) "")
        (ControlSession.start (fun _ => ("service", true)) "" "pub") turnsWaiting = some s ∧
      Waits (s.world.tunnels "service").service "t" := by
  have hrun : ∃ s, run (ControlSession.step parseHandshake (fun _ => ("service", true)) "")
        (ControlSession.start (fun _ => ("service", true)) "" "pub") turnsWaiting = some s ∧
      "t" ∈ (s.world.tunnels "service").service.sessions ∧
      ((s.world.tunnels "service").service.tunnel "t").map (fun session =>
        (session.isPublisherSide, session.wasClosed, session.pipeOperation)) =
          some (false, false, none) :=
    ⟨_, Option.eq_some_of_isSome (by decide +kernel), by decide +kernel, by decide +kernel⟩
  obtain ⟨s, hrun, hlisted, hsession⟩ := hrun
  obtain ⟨session, hsession, hflags⟩ := Option.map_eq_some_iff.mp hsession
  simp only [Prod.mk.injEq] at hflags
  exact ⟨s, hrun, hlisted, session, hsession, hflags⟩

/-- It is not taken down. -/
theorem tunnelFailed_ignored_web :
    ∃ s, run (ControlSession.step parseHandshake (fun _ => ("service", true)) "")
        (ControlSession.start (fun _ => ("service", true)) "" "pub") turnsWaiting = some s ∧
      ¬TakenDown s.world (s.onMessage (tunnelFailed cfgWeb "service" "t" 8080 80 "tcp"
        "Unknown service")).world "service" "t" := by
  obtain ⟨s, hrun, hwaits⟩ := waits_web
  exact ⟨s, hrun, (tunnelFailed_ignored cfgWeb "service" "t" 8080 80 "tcp" "Unknown service" hrun
    hwaits).2⟩

/-- After the message the client is still in the table, open. -/
theorem tunnelFailed_stays :
    ∃ s, run (ControlSession.step parseHandshake (fun _ => ("service", true)) "")
        (ControlSession.start (fun _ => ("service", true)) "" "pub") turnsWaiting = some s ∧
      Waits (s.world.tunnels "service").service "t" ∧
      ¬TakenDown s.world (s.onMessage (tunnelFailed cfgWeb "service" "t" 8080 80 "tcp"
        "Unknown service")).world "service" "t" := by
  have hstays : ∃ s, run (ControlSession.step parseHandshake (fun _ => ("service", true)) "")
        (ControlSession.start (fun _ => ("service", true)) "" "pub") turnsWaiting = some s ∧
      "t" ∈ ((s.onMessage (tunnelFailed cfgWeb "service" "t" 8080 80 "tcp"
        "Unknown service")).world.tunnels "service").service.sessions :=
    ⟨_, Option.eq_some_of_isSome (by decide +kernel), by decide +kernel⟩
  obtain ⟨s, hrun, hlisted⟩ := hstays
  obtain ⟨s', hrun', hwaits⟩ := waits_web
  obtain rfl : s = s' := Option.some.inj (hrun.symm.trans hrun')
  exact ⟨s, hrun, hwaits, fun hdown => hdown.removed hlisted⟩

end TunnelBore.Wire
