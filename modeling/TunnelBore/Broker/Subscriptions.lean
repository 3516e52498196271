import TunnelBore.Broker.ControlSession
import TunnelBore.Broker.Publisher
import TunnelBore.Broker.ServiceRun

namespace TunnelBore.Broker

open TunnelBore.Lib

/-!
# What a publisher subscribes to

`ControlSession::setup` has the publisher of the identity subscribe on the session, in
`setCurrentControlSession`.  The callbacks change the service table and answer on the session.

`PublisherWorld` is what they change: the publisher, the service of each entry of its table, and
the messages written.  A `ControlSession PublisherWorld` is then a publisher with its current
control session, and `step` is what can happen to it.

* `Subscribed` — nothing is subscribed to but `Handshake` and `Ping`, in every state that a run
  reaches (`subscribed_run`);
* `onPopped_of_unsubscribed` — a message of another type changes nothing but what reading does.
-/

/-! ### The services of a handshake -/

/-- `from_json` of an optional string. -/
def optionalString : Json → Option (Option String)
  | .null => some none
  | j     => j.getString.map some

/-- `from_json` of a `ServiceInfo`. -/
def serviceInfoOf (j : Json) : Option ServiceInfo := do
  let name ← (j.find "name").bind optionalString
  let publicPort ← (j.find "publicPort").bind Json.getUnsignedShort
  let hiddenPort ← (j.find "hiddenPort").bind Json.getUnsignedShort
  return ⟨name, publicPort, hiddenPort⟩

/-- `json::get<std::vector<ServiceInfo>>()`. -/
def servicesOf : Json → Option (List ServiceInfo)
  | .array elements => elements.mapM serviceInfoOf
  | _ => none

/-- A publisher, the runs of its services and the messages written on its control session. -/
structure PublisherWorld where
  publisher : Publisher
  tunnels : ServiceId → ServiceRun := fun _ => {}
  /-- How many services have been announced in handshakes. -/
  announced : Nat := 0
  written : List Json := []

/-- For each service announced the id that is generated and whether `Service::start` succeeds, if
    it comes to that. -/
abbrev Starts := Nat → ServiceId × Bool

namespace PublisherWorld

variable (w : PublisherWorld)

/-- `ControlSession::writeJson`. -/
def writeJson (j : Json) : PublisherWorld := { w with written := w.written ++ [j] }

/-- The services of a handshake, with the answers of the environment. -/
def offers (starts : Starts) (infos : List ServiceInfo) : List Offer :=
  infos.mapIdx fun i info => ⟨info, (starts (w.announced + i)).1, (starts (w.announced + i)).2⟩

/-- The reports that `addService` writes for a list of services. -/
def startResults (p : Publisher) : List Offer → List Json
  | []             => []
  | offer :: rest =>
    .object [("result", .boolean (p.addService offer).2), ("type", .string "ServiceStartResult")] ::
      startResults (p.addService offer).1 rest

/-- The subscription to `Handshake`; `what` is the text of the exception that the conversion of
    the services throws. -/
def onHandshake (starts : Starts) (what : String) : Subscription PublisherWorld :=
  fun j ref w =>
    match j.find "services" with
    | none =>
      (w.writeJson (errorMessage ref "Services missing on handshake."), .returned false)
    | some services =>
      match servicesOf services with
      | none =>
        (w.writeJson (errorMessage ref ("Exception during handshake parsing: " ++ what)),
          .returned false)
      | some infos =>
        let offers := w.offers starts infos
        ({ w with
            publisher := w.publisher.addServices offers
            announced := w.announced + infos.length
            written := w.written ++ startResults w.publisher offers },
          .returned true)

/-- The subscription to `Ping`: `respond` with a pong. -/
def onPing : Subscription PublisherWorld :=
  fun _ ref w =>
    (w.writeJson (.object [
        ("payload", .object [("type", .string "Pong")]),
        ("ref", .string ref),
        ("type", .string "Pong")]),
      .returned true)

/-- `ControlSession::setup` with `Publisher::setCurrentControlSession`: a new session with its
    subscriptions, which reads. -/
def setup (starts : Starts) (what : String) (session : SessionId) :
    ControlSession PublisherWorld where
  dispatcher :=
    (Dispatcher.subscribe {} "Handshake" (onHandshake starts what)).subscribe "Ping" onPing
  world := { w with publisher := w.publisher.setCurrentControlSession session }

/-- The message of `ControlSession::informAboutConnection`. -/
def newTunnel (serviceId : ServiceId) (tunnelId : TunnelId) (serviceInfo : ServiceInfo) : Json :=
  .object [
    ("hiddenPort", .number serviceInfo.hiddenPort.toNat),
    ("publicPort", .number serviceInfo.publicPort.toNat),
    ("serviceId", .string serviceId),
    ("socketType", .string "tcp"),
    ("tunnelId", .string tunnelId),
    ("type", .string "NewTunnel")]

/-- `ControlSession::informAboutConnection`. -/
def informAboutConnection (serviceId : ServiceId) (tunnelId : TunnelId) : PublisherWorld :=
  match w.publisher.services.lookup serviceId with
  | none             => w
  | some serviceInfo => w.writeJson (newTunnel serviceId tunnelId serviceInfo)

/-- The publisher is told of the clients that an event has recorded. -/
def inform (serviceId : ServiceId) (effect : Effect) : PublisherWorld :=
  match effect with
  | .inform tunnelId => w.informAboutConnection serviceId tunnelId
  | _ => w

/-- Something happens to a service of the table. -/
def tunnel (serviceId : ServiceId) (e : Event) : Option PublisherWorld :=
  if (w.publisher.services.lookup serviceId).isSome then
    ((w.tunnels serviceId).step e).map fun r =>
      let effects := r.service.effects.drop (w.tunnels serviceId).service.effects.length
      effects.foldl (fun w effect => w.inform serviceId effect)
        { w with tunnels := Function.update w.tunnels serviceId r }
  else none

/-- The table is cleared by the destructor of a control session; the services are gone. -/
def detached : PublisherWorld :=
  { w with
    publisher := w.publisher.detachControlSession true
    tunnels := fun _ => {} }

end PublisherWorld

/-! ### Runs -/

/-- What can happen to a publisher and its current control session. -/
inductive ControlTurn
  /-- Another control session of the identity runs `setup`. -/
  | setup (session : SessionId)
  /-- An earlier control session is destroyed. -/
  | detached
  /-- A read on the current control session completes. -/
  | read (readResult : ReadResult)
  /-- Something happens to a service. -/
  | tunnel (serviceId : ServiceId) (e : Event)

namespace ControlSession

variable {ε : Type} (parse : Bytes → Except ε Json) (starts : Starts) (what : String)

/-- The first control session of a publisher. -/
def start (identity : String) : ControlSession PublisherWorld :=
  PublisherWorld.setup { publisher := { identity := identity } } starts what 0

/-- A popped message of a publisher's control session. -/
def onMessage (s : ControlSession PublisherWorld) (popped : Json) : ControlSession PublisherWorld :=
  s.onPopped (fun j w => w.writeJson j) popped

/-- One turn; `none` when it cannot happen. -/
def step (s : ControlSession PublisherWorld) : ControlTurn → Option (ControlSession PublisherWorld)
  | .setup session     => some (s.world.setup starts what session)
  | .detached          => some { s with world := s.world.detached }
  | .read readResult   =>
    if s.reading then some (s.onRead parse (fun j w => w.writeJson j) readResult) else none
  | .tunnel serviceId e => (s.world.tunnel serviceId e).map fun w => { s with world := w }

/-- Nothing is subscribed to but handshakes and pings. -/
def Subscribed (s : ControlSession PublisherWorld) : Prop :=
  s.dispatcher.types ⊆ ["Handshake", "Ping"]

variable {parse starts what} {s s' : ControlSession PublisherWorld}

theorem subscribed_setup (w : PublisherWorld) (session : SessionId) :
    (w.setup starts what session).Subscribed := List.Subset.refl _

theorem Subscribed.onPopped (h : s.Subscribed) (popped : Json) :
    (s.onMessage popped).Subscribed := by
  have hdispatch : ∀ type ref, (s.onJson type popped ref).Subscribed := by
    intro type ref
    have hkept : (s.dispatcher.dispatch type popped ref s.world).2.1.types ⊆ s.dispatcher.types :=
      ((Dispatcher.dispatchLoop_sublist type popped ref s.dispatcher.subscribers s.world).map
        Prod.fst).subset
    unfold onJson
    simp only
    split
    · exact List.Subset.trans hkept h
    · exact List.Subset.trans hkept h
  unfold onMessage ControlSession.onPopped
  split
  · exact h
  · split
    · exact h
    · split
      · exact h
      · exact hdispatch _ _

/-- **One turn** subscribes to nothing else. -/
theorem Subscribed.step (h : s.Subscribed) {turn : ControlTurn}
    (hstep : s.step parse starts what turn = some s') : s'.Subscribed := by
  cases turn with
  | setup session =>
    obtain rfl := Option.some.inj hstep
    exact subscribed_setup _ _
  | detached =>
    obtain rfl := Option.some.inj hstep
    exact h
  | read readResult =>
    simp only [ControlSession.step, Option.ite_none_right_eq_some, Option.some.injEq] at hstep
    obtain ⟨-, rfl⟩ := hstep
    unfold onRead
    simp only
    split
    · exact h
    · split
      · exact h
      · exact h
      · next popped textParser _ =>
        have hfed : Subscribed { s with reading := false, textParser := textParser } := h
        exact hfed.onPopped popped
  | tunnel serviceId e =>
    obtain ⟨w, -, rfl⟩ := Option.map_eq_some_iff.mp hstep
    exact h

/-- **No run subscribes to anything else.** -/
theorem subscribed_run {identity : String} {turns : List ControlTurn}
    (hrun : run (ControlSession.step parse starts what) (start starts what identity) turns =
      some s) : s.Subscribed :=
  run_preserves (I := Subscribed) (fun _ _ _ hs h => hs.step h) (subscribed_setup _ _) hrun

/-- A message of a type that nobody has subscribed to: it is dispatched to nobody. -/
theorem onPopped_of_unsubscribed (h : s.Subscribed) {popped : Json} {type ref : String}
    (htype : popped.find "type" = some (.string type)) (href : refOf popped = some ref)
    (hother : type ∉ ["Handshake", "Ping"]) :
    s.onMessage popped = { s with
      dispatched := s.dispatched ++ [(popped, ref)]
      reading := true } := by
  have hnobody : type ∉ s.dispatcher.types := fun hmem => hother (h hmem)
  have hjson : s.onMessage popped = s.onJson type popped ref := by
    simp only [onMessage, ControlSession.onPopped, href, htype, Json.getString]
  rw [hjson]
  unfold onJson
  rw [Dispatcher.dispatch_of_not_mem hnobody popped ref s.world]
  rfl

end ControlSession

end TunnelBore.Broker
