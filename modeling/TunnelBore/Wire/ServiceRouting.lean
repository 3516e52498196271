import TunnelBore.Wire.TunnelFailed

namespace TunnelBore.Wire

open TunnelBore.Lib
open TunnelBore.Broker

/-!
# Services across the wire

The publisher announces its configured services in the handshake.  The broker keeps those that
it could start, one for each public port, and for every client it sends the ports of its service
back in a `NewTunnel` message.  The publisher searches its own list by these ports.

* `servicesOf_handshake` — what the broker reads from the handshake;
* `Selects` — the first configured service with the ports of the broker's service;
* `routing_agrees` — every service that the broker holds is found again, and the port dialled is
  its public port.
-/

/-- A port number. -/
def IsPort (n : Int) : Prop := 0 ≤ n ∧ n < 65536

/-- What the broker keeps of a service. -/
def announced (v : Publisher.Service) : ServiceInfo where
  name := v.name
  publicPort := .ofInt v.publicPort
  hiddenPort := .ofInt v.hiddenPort

/-- A service of the publisher has the ports of a service of the broker. -/
def SamePorts (v : Publisher.Service) (serviceInfo : ServiceInfo) : Prop :=
  v.hiddenPort = serviceInfo.hiddenPort.toNat ∧ v.publicPort = serviceInfo.publicPort.toNat

instance (v : Publisher.Service) (serviceInfo : ServiceInfo) :
    Decidable (SamePorts v serviceInfo) :=
  inferInstanceAs (Decidable (_ ∧ _))

/-- `v` is the first configured service with the ports of `serviceInfo`. -/
structure Selects (cfg : Publisher.Config) (serviceInfo : ServiceInfo) (v : Publisher.Service) :
    Prop where
  first : ∃ before rest, cfg.makeServices = before ++ v :: rest ∧
    ∀ other ∈ before, ¬SamePorts other serviceInfo
  ports : SamePorts v serviceInfo

/-- The port that an acceptor listens on when it is bound to the port of its service: for port 0
    the system chooses one. -/
def listeningPort (serviceInfo : ServiceInfo) (ephemeral : UInt16) : UInt16 :=
  if serviceInfo.publicPort = 0 then ephemeral else serviceInfo.publicPort

/-- `from_json` reads what `to_json` has written. -/
theorem serviceInfoOf_toJson (v : Publisher.Service) :
    serviceInfoOf v.toJson = some (announced v) := by
  obtain ⟨name, publicPort, hiddenHost, hiddenPort⟩ := v
  cases name with
  | none => rfl
  | some name => rfl

/-- **The broker reads the services** that the publisher has configured. -/
theorem servicesOf_handshake (services : List Publisher.Service) :
    servicesOf (.array (services.map Publisher.Service.toJson)) =
      some (services.map announced) := by
  show (services.map Publisher.Service.toJson).mapM serviceInfoOf = _
  induction services with
  | nil => rfl
  | cons v services ih =>
    rw [List.map_cons, List.mapM_cons, serviceInfoOf_toJson, ih]
    rfl

/-- The casts to `unsigned short` and back keep the ports. -/
theorem samePorts_announced {v : Publisher.Service} (hhidden : IsPort v.hiddenPort)
    (hpublic : IsPort v.publicPort) : SamePorts v (announced v) :=
  ⟨(Json.toNat_ofInt_port hhidden.1 hhidden.2).symm,
    (Json.toNat_ofInt_port hpublic.1 hpublic.2).symm⟩

variable {ε : Type} {parse : Bytes → Except ε Json} {cfg : Publisher.Config}
variable {w : PublisherWorld} {starts : Starts} {what : String} {session : SessionId}
variable {serviceId : ServiceId} {serviceInfo : ServiceInfo}

/-- What the handler makes of the handshake of a configuration. -/
theorem onHandshake_payload (ref : String) :
    PublisherWorld.onHandshake starts what (Publisher.ControlMessage.payload cfg .handshake) ref
        w = ({ w with
          publisher := w.publisher.addServices (w.offers starts (cfg.makeServices.map announced))
          announced := w.announced + (cfg.makeServices.map announced).length
          written := w.written ++ PublisherWorld.startResults w.publisher
            (w.offers starts (cfg.makeServices.map announced)) }, .returned true) := by
  have hservices : (Publisher.ControlMessage.payload cfg .handshake).find "services" =
      some (.array (cfg.makeServices.map Publisher.Service.toJson)) := rfl
  simp only [PublisherWorld.onHandshake, hservices, servicesOf_handshake]

/-- **The handshake on a new control session** adds the services that are announced. -/
theorem publisher_onMessage_handshake :
    ((w.setup starts what session).onMessage
      (Publisher.ControlMessage.payload cfg .handshake)).world.publisher =
        (w.publisher.setCurrentControlSession session).addServices
          (w.offers starts (cfg.makeServices.map announced)) := by
  have hjson : (w.setup starts what session).onMessage
      (Publisher.ControlMessage.payload cfg .handshake) =
        (w.setup starts what session).onJson "Handshake"
          (Publisher.ControlMessage.payload cfg .handshake) "" := rfl
  rw [hjson]
  -- the subscription to handshakes is called, and then no other
  simp only [ControlSession.onJson, Dispatcher.dispatch, PublisherWorld.setup,
    Dispatcher.subscribe, List.nil_append, List.cons_append, Dispatcher.dispatchLoop, if_true,
    onHandshake_payload]
  rfl

/-- The services that the broker holds after the handshake are configured ones. -/
theorem configured_of_held (hempty : w.publisher.services = ∅)
    (hheld : ((w.setup starts what session).onMessage
      (Publisher.ControlMessage.payload cfg .handshake)).world.publisher.services.lookup
        serviceId = some serviceInfo) :
    ∃ v ∈ cfg.makeServices, announced v = serviceInfo := by
  rw [publisher_onMessage_handshake] at hheld
  rcases Broker.Publisher.addServices_entry hheld with hbefore | ⟨offer, hmem, rfl⟩
  · -- the table was empty
    change w.publisher.services.lookup serviceId = some serviceInfo at hbefore
    rw [hempty] at hbefore
    cases hbefore
  · obtain ⟨i, hi, rfl⟩ := List.mem_mapIdx.mp hmem
    obtain ⟨v, hv, heq⟩ := List.mem_map.mp (List.getElem_mem hi)
    exact ⟨v, hv, heq⟩

/-- The search finds the first service with the ports. -/
theorem findService_eq_some {v : Publisher.Service} :
    Publisher.findService cfg.makeServices serviceInfo.hiddenPort.toNat
        serviceInfo.publicPort.toNat = some v ↔ Selects cfg serviceInfo v := by
  unfold Publisher.findService
  rw [List.find?_eq_some_iff_append]
  constructor
  · rintro ⟨hports, before, rest, hsplit, hbefore⟩
    refine ⟨⟨before, rest, hsplit, fun other hother => ?_⟩, of_decide_eq_true hports⟩
    exact of_decide_eq_false ((Bool.not_eq_true' _).mp (hbefore other hother))
  · rintro ⟨⟨before, rest, hsplit, hbefore⟩, hports⟩
    refine ⟨decide_eq_true hports, before, rest, hsplit, fun other hother => ?_⟩
    exact (Bool.not_eq_true' _).mpr (decide_eq_false (hbefore other hother))

/-- A configured service with the ports is found. -/
theorem exists_selects {v : Publisher.Service} (hv : v ∈ cfg.makeServices)
    (hports : SamePorts v serviceInfo) : ∃ found, Selects cfg serviceInfo found := by
  have hsome : (Publisher.findService cfg.makeServices serviceInfo.hiddenPort.toNat
      serviceInfo.publicPort.toNat).isSome = true :=
    List.find?_isSome.mpr ⟨v, hv, decide_eq_true hports⟩
  obtain ⟨found, hfound⟩ := Option.isSome_iff_exists.mp hsome
  exact ⟨found, findService_eq_some.mp hfound⟩

/-- The arguments that the publisher reads from a `NewTunnel` message. -/
theorem newTunnelArguments_newTunnel (serviceId : ServiceId) (tunnelId : TunnelId)
    (serviceInfo : ServiceInfo) :
    Publisher.newTunnelArguments (PublisherWorld.newTunnel serviceId tunnelId serviceInfo) =
      some (serviceId, tunnelId, (serviceInfo.hiddenPort.toNat : Int),
        (serviceInfo.publicPort.toNat : Int), "tcp") := by
  have hport : ∀ port : UInt16, (Json.number port.toNat).getInt = some (port.toNat : Int) := by
    intro port
    have hlt := port.toNat_lt
    exact Json.getInt_number (by omega) (by omega)
  have hhidden : (PublisherWorld.newTunnel serviceId tunnelId serviceInfo).intAt "hiddenPort" =
      some (serviceInfo.hiddenPort.toNat : Int) := hport _
  have hpublic : (PublisherWorld.newTunnel serviceId tunnelId serviceInfo).intAt "publicPort" =
      some (serviceInfo.publicPort.toNat : Int) := hport _
  unfold Publisher.newTunnelArguments
  rw [hhidden, hpublic]
  rfl

/-- A `NewTunnel` of the broker goes to `onNewTunnel`. -/
theorem onControlRead_newTunnel {tunnelId : TunnelId} {message : Bytes}
    (hparse : parse message = .ok (PublisherWorld.newTunnel serviceId tunnelId serviceInfo))
    (answers : Publisher.Answers) :
    Publisher.onControlRead parse cfg message answers =
      Publisher.onNewTunnel parse cfg serviceId tunnelId serviceInfo.hiddenPort.toNat
        serviceInfo.publicPort.toNat "tcp" answers := by
  have htype : (PublisherWorld.newTunnel serviceId tunnelId serviceInfo).stringAt "type" =
      some "NewTunnel" := rfl
  unfold Publisher.onControlRead
  rw [hparse]
  simp only [Publisher.onControlJson, htype, if_true, newTunnelArguments_newTunnel]

/-- A signed tunnel dials the public port of the service found. -/
theorem onNewTunnel_signed {tunnelId : TunnelId} {v : Publisher.Service}
    (hselects : Selects cfg serviceInfo v) {answers : Publisher.Answers} {token : String}
    (hcode : answers.response.1 = 200)
    (htoken : Publisher.tokenOf parse answers.response.2 = some token) :
    Publisher.onNewTunnel parse cfg serviceId tunnelId serviceInfo.hiddenPort.toNat
        serviceInfo.publicPort.toNat "tcp" answers =
      { v.createSession cfg.host token answers.connection with
        request := some (Publisher.signRequest serviceId tunnelId serviceInfo.hiddenPort.toNat
          serviceInfo.publicPort.toNat) } := by
  unfold Publisher.onNewTunnel
  simp only [findService_eq_some.mpr hselects, hcode, ne_eq, not_true_eq_false, if_false, htoken]

theorem dialled_createSession (v : Publisher.Service) (brokerHost token : String)
    (connection : Publisher.ConnectionEnd) :
    (v.createSession brokerHost token connection).dialled = some (brokerHost, v.publicPort) := by
  cases connection <;> rfl

/-- **Routing agrees across the wire.**  A broker without services has processed the handshake,
    with any starts failing.  For every service that it holds then, and for every client, the
    `NewTunnel` message makes the publisher find the first configured service with the same
    ports and dial its public port, which is the port the broker's service listens on unless it
    is 0. -/
theorem routing_agrees
    (hports : ∀ info ∈ cfg.services, IsPort info.hiddenPort ∧ IsPort info.publicPort)
    (hempty : w.publisher.services = ∅)
    (hheld : ((w.setup starts what session).onMessage
      (Publisher.ControlMessage.payload cfg .handshake)).world.publisher.services.lookup
        serviceId = some serviceInfo) (tunnelId : TunnelId) {message : Bytes}
    (hparse : parse message = .ok (PublisherWorld.newTunnel serviceId tunnelId serviceInfo))
    (ephemeral : UInt16) :
    let after := ((w.setup starts what session).onMessage
      (Publisher.ControlMessage.payload cfg .handshake)).world
    after.informAboutConnection serviceId tunnelId =
        after.writeJson (PublisherWorld.newTunnel serviceId tunnelId serviceInfo) ∧
      ∃ v, Selects cfg serviceInfo v ∧
        (∀ answers token, answers.response.1 = 200 →
          Publisher.tokenOf parse answers.response.2 = some token →
          Publisher.onControlRead parse cfg message answers =
              { v.createSession cfg.host token answers.connection with
                request := some (Publisher.signRequest serviceId tunnelId
                  serviceInfo.hiddenPort.toNat serviceInfo.publicPort.toNat) } ∧
            (Publisher.onControlRead parse cfg message answers).dialled =
              some (cfg.host, v.publicPort)) ∧
        (serviceInfo.publicPort ≠ 0 →
          v.publicPort = (listeningPort serviceInfo ephemeral).toNat) := by
  intro after
  have hinform : after.informAboutConnection serviceId tunnelId =
      after.writeJson (PublisherWorld.newTunnel serviceId tunnelId serviceInfo) := by
    unfold PublisherWorld.informAboutConnection
    rw [show after.publisher.services.lookup serviceId = some serviceInfo from hheld]
  -- the service comes from the configuration, and its ports survive the casts
  obtain ⟨configured, hconfigured, hannounced⟩ := configured_of_held hempty hheld
  obtain ⟨info, hinfo, hmake⟩ := List.mem_map.mp hconfigured
  have hsame : SamePorts configured serviceInfo := by
    rw [← hannounced, ← hmake]
    exact samePorts_announced (hports info hinfo).1 (hports info hinfo).2
  obtain ⟨v, hselects⟩ := exists_selects hconfigured hsame
  refine ⟨hinform, v, hselects, fun answers token hcode htoken => ?_, fun hnonzero => ?_⟩
  · have hread : Publisher.onControlRead parse cfg message answers =
        { v.createSession cfg.host token answers.connection with
          request := some (Publisher.signRequest serviceId tunnelId
            serviceInfo.hiddenPort.toNat serviceInfo.publicPort.toNat) } :=
      (onControlRead_newTunnel hparse answers).trans (onNewTunnel_signed hselects hcode htoken)
    refine ⟨hread, ?_⟩
    rw [hread]
    exact dialled_createSession v cfg.host token answers.connection
  · -- the acceptor is bound to the port of the service
    unfold listeningPort
    rw [if_neg hnonzero]
    exact hselects.ports.2

/-- The services of a broker that has had a handshake of `cfg`, each started as `"service"`. -/
def heldAfter (cfg : Publisher.Config) : Option ServiceInfo :=
  ((PublisherWorld.setup { publisher := { identity := "pub" } } (fun _ => ("service", true)) ""
    0).onMessage (Publisher.ControlMessage.payload cfg .handshake)).world.publisher.services.lookup
      "service"

/-- The `NewTunnel` message for a client `t` of the service of `cfgWeb`. -/
def newTunnelWeb : Json := PublisherWorld.newTunnel "service" "t" ⟨some "web", 80, 8080⟩

/-- The token that the authority signs for it. -/
def tokenWeb : String :=
  "eyJhbGciOiJSUzI1NiIsInR5cCI6IkpXUyJ9." ++
    "eyJpZGVudGl0eSI6InB1YiIsImlzcyI6InR1bm5lbEJvcmUiLCJ0dW5uZWxJZCI6InQifQ.c2lnbmF0dXJl"

/-- Its reply. -/
def replyWeb : Json := .object [("token", .string tokenWeb)]

/-- A `json::parse` that reads these two. -/
def parseWeb : Bytes → Except Unit Json := Json.readsOnly Json.dump [newTunnelWeb, replyWeb]

/-- The authority signs, and the broker is reached. -/
def answersWeb : Publisher.Answers := ⟨(200, replyWeb.dump), .connected⟩

theorem tokenOf_parseWeb : Publisher.tokenOf parseWeb replyWeb.dump = some tokenWeb := by
  have hparse : parseWeb replyWeb.dump = .ok replyWeb := by
    unfold parseWeb
    rw [Json.readsOnly_tail (by decide +kernel)]
    exact Json.readsOnly_head replyWeb
  unfold Publisher.tokenOf
  rw [hparse]
  rfl

/-- The service of `cfgWeb` is found, and the port that it listens on is dialled. -/
theorem routing_agrees_web :
    ∃ v, Selects cfgWeb ⟨some "web", 80, 8080⟩ v ∧
      (Publisher.onControlRead parseWeb cfgWeb newTunnelWeb.dump answersWeb).dialled =
        some ("localhost", v.publicPort) ∧
      v.publicPort = (listeningPort ⟨some "web", 80, 8080⟩ 49152).toNat := by
  have hports : ∀ info ∈ cfgWeb.services, IsPort info.hiddenPort ∧ IsPort info.publicPort := by
    unfold IsPort
    decide
  have hheld : heldAfter cfgWeb = some ⟨some "web", 80, 8080⟩ := by decide +kernel
  have hparse : parseWeb newTunnelWeb.dump = .ok newTunnelWeb := Json.readsOnly_head newTunnelWeb
  obtain ⟨-, v, hselects, hreads, hport⟩ := routing_agrees hports rfl hheld "t" hparse 49152
  obtain ⟨-, hdialled⟩ := hreads answersWeb tokenWeb rfl tokenOf_parseWeb
  exact ⟨v, hselects, hdialled, hport (by decide)⟩

/-- A service with the public port 0 listens on a port that the system chooses, and the publisher
    dials port 0. -/
theorem routing_ephemeral :
    ∃ v, heldAfter ⟨"pub", "localhost", [⟨none, 8080, 0, none⟩]⟩ = some ⟨none, 0, 8080⟩ ∧
      Selects ⟨"pub", "localhost", [⟨none, 8080, 0, none⟩]⟩ ⟨none, 0, 8080⟩ v ∧
      v.publicPort ≠ (listeningPort ⟨none, 0, 8080⟩ 49152).toNat := by
  have hselects : Selects ⟨"pub", "localhost", [⟨none, 8080, 0, none⟩]⟩ ⟨none, 0, 8080⟩
      ⟨none, 0, "localhost", 8080⟩ :=
    ⟨⟨[], [], rfl, fun _ hother => absurd hother List.not_mem_nil⟩, ⟨rfl, rfl⟩⟩
  exact ⟨_, by decide +kernel, hselects, by decide⟩

end TunnelBore.Wire
