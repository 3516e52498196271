import TunnelBore.TypeScript.Configured
import TunnelBore.Wire.Credentials

namespace TunnelBore.Wire

open TunnelBore.Broker
open TunnelBore.TypeScript (LocalService LocalSession NewTunnelMessage NewTunnelRun)
open TunnelBore.Publisher (signRequest prefixedToken)

/-!
# The publisher in TypeScript at the broker in C++

The TypeScript publisher announces its services, is told of a client, has the authority sign what
it was told, and makes a session that sends the signed token to the public port of the service.
The other end of each of these is the C++ broker.

* `configured_of_announced` — what the broker holds after the handshake is configured;
* `answered_eq` — for a client, the publisher makes one session with the token that was signed;
* `LocalSession.written` — what a session sends to the broker first;
* `typescript_tunnel_linked` — from the handshake to the first read of the tunnel's connection:
  a TCP service is linked, to the client that was announced and nowhere else; a UDP service is
  not.
-/

/-- `write(token, 'utf-8')`. -/
def utf8 (s : String) : Bytes := s.toByteArray.data.toList

theorem utf8_append (s t : String) : utf8 (s ++ t) = utf8 s ++ utf8 t := by
  unfold utf8
  rw [String.toByteArray_append, ByteArray.data_append, Array.toList_append]

/-- What a session sends to the broker first; a `UdpSession` keeps the token to itself. -/
def firstWritten : LocalSession → Option Bytes
  | .tcp session => some (utf8 session.token)
  | .udp _       => none

/-- A token is put behind the prefix that the broker looks for. -/
theorem utf8_p2bToken (text : String) :
    utf8 (TypeScript.p2bTunnelPrefix ++ ":" ++ text) = prefixedToken (utf8 text) := by
  rw [utf8_append]
  rfl

/-! ### What the broker holds -/

/-- `info` is the broker's record of a service that is configured as `service`. -/
structure SameService (service : TypeScript.ServiceInfo) (info : ServiceInfo) : Prop where
  publicPort : service.publicPort = info.publicPort.toNat
  hiddenPort : service.hiddenPort = info.hiddenPort.toNat
  name : service.name = info.name

variable {cfg : TypeScript.Config} {w : PublisherWorld} {starts : Starts} {what : String}
variable {session : SessionId} {serviceId : ServiceId} {serviceInfo : ServiceInfo}

/-- The handshake on a new control session goes to the subscription to handshakes. -/
theorem world_onMessage_handshake :
    ((w.setup starts what session).onMessage (TypeScript.handshake cfg)).world =
      (PublisherWorld.onHandshake starts what (TypeScript.handshake cfg) ""
        { w with publisher := w.publisher.setCurrentControlSession session }).1 := by
  have hjson : (w.setup starts what session).onMessage (TypeScript.handshake cfg) =
      (w.setup starts what session).onJson "Handshake" (TypeScript.handshake cfg) "" := rfl
  have hworld : ((w.setup starts what session).onJson "Handshake" (TypeScript.handshake cfg)
      "").world = ((w.setup starts what session).dispatcher.dispatch "Handshake"
        (TypeScript.handshake cfg) "" (w.setup starts what session).world).1 := by
    simp only [ControlSession.onJson]
    split <;> rfl
  rw [hjson, hworld]
  simp only [PublisherWorld.setup, Dispatcher.subscribe, Dispatcher.dispatch, List.nil_append,
    List.cons_append, Dispatcher.dispatchLoop, if_true]
  -- it is the only subscription that is called, whatever it answers
  rcases PublisherWorld.onHandshake starts what (TypeScript.handshake cfg) "" _ with
    ⟨world, (_ | _) | _⟩
  · rfl
  · rfl
  · rfl

/-- **What the broker holds is configured.** -/
theorem configured_of_announced
    (hports : ∀ service ∈ cfg.services, service.hiddenPort < 65536 ∧ service.publicPort < 65536)
    (hdistinct : (cfg.services.map TypeScript.ServiceInfo.hiddenPort).Nodup)
    (hempty : w.publisher.services = ∅)
    (hheld : ((w.setup starts what session).onMessage
      (TypeScript.handshake cfg)).world.publisher.services.lookup serviceId = some serviceInfo) :
    ∃ service ∈ cfg.services, SameService service serviceInfo := by
  obtain ⟨listed, hperm, hlisted⟩ := TypeScript.announced_perm hdistinct
  have hfind : (TypeScript.handshake cfg).find "services" = some (.array
      (listed.map fun service => (LocalService.make service).describe)) := by
    rw [← hlisted]
    rfl
  rw [world_onMessage_handshake] at hheld
  simp only [PublisherWorld.onHandshake, hfind] at hheld
  have hbefore : w.publisher.services.lookup serviceId ≠ some serviceInfo := by
    rw [hempty]
    exact (fun h => by cases h)
  cases hread : servicesOf (.array
      (listed.map fun service => (LocalService.make service).describe)) with
  | none =>
    -- the message is refused, and the table stays empty
    rw [hread] at hheld
    exact absurd hheld hbefore
  | some infos =>
    rw [hread] at hheld
    rcases Broker.Publisher.addServices_entry hheld with hold | ⟨offer, hmem, rfl⟩
    · exact absurd hold hbefore
    · obtain ⟨i, hi, rfl⟩ := List.mem_mapIdx.mp hmem
      have hall := TypeScript.servicesOf_eq_some_iff.mp hread
      have hlength : i < listed.length := hall.length_eq ▸ hi
      have hservice := hall.get hlength hi
      have hin : listed[i] ∈ cfg.services := hperm.mem_iff.mp (List.getElem_mem hlength)
      refine ⟨listed[i], hin, ?_⟩
      have hdescribes := TypeScript.describes_of_read (hports _ hin) hservice
      rw [List.get_eq_getElem, TypeScript.serviceInfoOf_describe] at hservice
      obtain ⟨name, hname, hinfo⟩ := Option.map_eq_some_iff.mp hservice
      refine ⟨hdescribes.publicPort.symm, hdescribes.hiddenPort.symm, ?_⟩
      rw [hname]
      exact congrArg ServiceInfo.name hinfo

/-! ### What the publisher makes of a client -/

/-- `JSON.parse`, `JSON.stringify` and the text of a value, also as a key. -/
structure JavaScript where
  parse : Bytes → Option Json
  stringify : Json → Bytes
  keyOf : Json → Option String

/-- Numbers are keys in decimal, and a string is its own text. -/
structure JavaScript.Documented (js : JavaScript) : Prop where
  keyOf_number : ∀ n : Nat, js.keyOf (.number n) = some (toString n)
  keyOf_string : ∀ text, js.keyOf (.string text) = some text

/-- What the publisher reads of the message about a client. -/
def heard (serviceId : ServiceId) (tunnelId : TunnelId) (serviceInfo : ServiceInfo) :
    NewTunnelMessage :=
  .ofJson (PublisherWorld.newTunnel serviceId tunnelId serviceInfo)

/-- What becomes of it, when the response of the authority comes in one data event. -/
def answered (js : JavaScript) (cfg : TypeScript.Config) (brokerHost : String)
    (message : NewTunnelMessage) (signed : Bytes) : NewTunnelRun :=
  .newTunnel js.parse js.keyOf cfg.makeServices brokerHost message none
    (.response 200 [signed] false)

/-- What the session sends first is read at a control session of this identity as the publisher's
    side for this client. -/
def LinksAt (d : Deployment) (later : Int) (made : LocalSession) (t : TunnelSession)
    (identity : String) (client : TunnelId) : Prop :=
  ∃ bytes, firstWritten made = some bytes ∧
    (t.peekHandler (some ⟨identity, verifyPublisherToken d.jwt d.publicJwt later⟩) false
      bytes).2 = .connectTunnels client

variable {js : JavaScript} {brokerHost : String} {tunnelId : TunnelId} {signed : Bytes}
variable {service : TypeScript.ServiceInfo} {text : String}

/-- **A client of a configured service** gets one session, with the token that was signed. -/
theorem answered_eq (hjs : js.Documented)
    (hdistinct : (cfg.services.map TypeScript.ServiceInfo.hiddenPort).Nodup)
    (hservice : service ∈ cfg.services) (hsame : SameService service serviceInfo)
    (hserviceable : (LocalService.make service).Serviceable)
    (hsigned : js.parse signed = some (.object [("token", .string text)])) :
    ∃ made, (LocalService.make service).createSession brokerHost text = some made ∧
      answered js cfg brokerHost (heard serviceId tunnelId serviceInfo) signed =
        { requested := some (heard serviceId tunnelId serviceInfo).claims
          parsed := [signed]
          sessions := [made] } := by
  have hsome : ((LocalService.make service).createSession brokerHost text).isSome = true :=
    TypeScript.createSession_isSome.mpr hserviceable
  obtain ⟨made, hmade⟩ := Option.isSome_iff_exists.mp hsome
  refine ⟨made, hmade, ?_⟩
  have hfound : TypeScript.serviceAt cfg.makeServices (toString service.hiddenPort) =
      .own (.make service) :=
    TypeScript.serviceAt_port (TypeScript.lookup_makeServices hdistinct hservice)
  have hkey : TypeScript.textOf js.keyOf (heard serviceId tunnelId serviceInfo).hiddenPort =
      some (toString service.hiddenPort) := by
    rw [hsame.hiddenPort]
    exact hjs.keyOf_number _
  have htext : TypeScript.tokenText js.parse js.keyOf signed = some text := by
    unfold TypeScript.tokenText TypeScript.tokenOf
    rw [hsigned]
    exact hjs.keyOf_string text
  unfold answered
  rw [NewTunnelRun.newTunnel_response hkey, List.foldl_cons, List.foldl_nil,
    NewTunnelRun.onData_own hfound rfl, NewTunnelRun.madeOf, htext, Option.bind_some, hmade,
    NewTunnelRun.checkService, hfound]
  rfl

/-- What a session of a service sends first. -/
theorem firstWritten_createSession {made : LocalSession}
    (hmade : (LocalService.make service).createSession brokerHost text = some made) :
    firstWritten made =
      if service.socketType.toLower = "tcp" then some (prefixedToken (utf8 text)) else none := by
  have htoken := (TypeScript.createSession_spec hmade).2.2.1
  unfold LocalService.createSession at hmade
  split at hmade
  · next htcp =>
    obtain ⟨tcp, -, rfl⟩ := Option.map_eq_some_iff.mp hmade
    refine Eq.trans ?_ (if_pos htcp).symm
    rw [← utf8_p2bToken, ← htoken]
    rfl
  · next hudp =>
    obtain ⟨udp, -, rfl⟩ := Option.map_eq_some_iff.mp hmade
    exact (if_neg hudp).symm

variable {d : Deployment} {name password identity : String} {issuedAt now later : Int}

/-- **A client of the broker in C++ at a publisher in TypeScript.**  The publisher's handshake has
    put the service into the broker's table.  For every client the publisher gets a token, and its
    one session dials the public port of the service; if the service is a TCP service, what it
    sends first links this client at a control session of the publisher's identity, and no other
    client and at no other session; if it is a UDP service it links nothing. -/
theorem typescript_tunnel_linked
    (hports : ∀ service ∈ cfg.services, service.hiddenPort < 65536 ∧ service.publicPort < 65536)
    (hdistinct : (cfg.services.map TypeScript.ServiceInfo.hiddenPort).Nodup)
    (hserviceable : ∀ service ∈ cfg.services, (LocalService.make service).Serviceable)
    (hempty : w.publisher.services = ∅)
    (hheld : ((w.setup starts what session).onMessage
      (TypeScript.handshake cfg)).world.publisher.services.lookup serviceId = some serviceInfo)
    {issuedAt' now' later' : Int} (hheaders : d.Headers)
    (hnull : d.Signs name password issuedAt' now' .null)
    (hconnected : d.controlConnection name password issuedAt' now' later' =
      some (.upgraded identity))
    (hjs : js.Documented)
    (hparse : d.parse (js.stringify (heard serviceId tunnelId serviceInfo).claims) =
      .ok (signRequest serviceId tunnelId serviceInfo.hiddenPort.toNat
        serviceInfo.publicPort.toNat))
    (hsigns : d.Signs name password issuedAt now (signRequest serviceId tunnelId
      serviceInfo.hiddenPort.toNat serviceInfo.publicPort.toNat))
    (hfit : ∀ token, d.tunnelToken name password issuedAt now
      (js.stringify (heard serviceId tunnelId serviceInfo).claims) = some token →
        (prefixedToken token).length ≤ 4096)
    (hdate : InDate d issuedAt now later) :
    ∃ service ∈ cfg.services, SameService service serviceInfo ∧
      ∃ token, d.tunnelToken name password issuedAt now
          (js.stringify (heard serviceId tunnelId serviceInfo).claims) = some token ∧
        ∀ signed text, js.parse signed = some (.object [("token", .string text)]) →
          utf8 text = token →
          ∃ made, answered js cfg brokerHost (heard serviceId tunnelId serviceInfo) signed =
              { requested := some (heard serviceId tunnelId serviceInfo).claims
                parsed := [signed]
                sessions := [made] } ∧
            made.publicPort = serviceInfo.publicPort.toNat ∧
            made.hiddenPort = serviceInfo.hiddenPort.toNat ∧
            ∀ t other client, LinksAt d later made t other client ↔
              service.socketType.toLower = "tcp" ∧ other = identity ∧ client = tunnelId := by
  obtain ⟨service, hservice, hsame⟩ := configured_of_announced hports hdistinct hempty hheld
  obtain ⟨user, huser, -, rfl⟩ := (control_connection_iff hheaders hnull identity).mp hconnected
  have htoken : d.tunnelToken name password issuedAt now
      (js.stringify (heard serviceId tunnelId serviceInfo).claims) = some (d.jwt.sign
        d.authority.privateJwt (Authority.payload user (signRequest serviceId tunnelId
          serviceInfo.hiddenPort.toNat serviceInfo.publicPort.toNat) issuedAt now)) :=
    (tunnelToken_eq_some hparse).mpr ⟨user, huser, rfl⟩
  refine ⟨service, hservice, hsame, _, htoken, fun signed text hsigned htext => ?_⟩
  obtain ⟨made, hmade, hanswered⟩ : ∃ made,
      (LocalService.make service).createSession brokerHost text = some made ∧
        answered js cfg brokerHost (heard serviceId tunnelId serviceInfo) signed = _ :=
    answered_eq hjs hdistinct hservice hsame (hserviceable service hservice) hsigned
  obtain ⟨hpublic, hhidden, -⟩ := TypeScript.createSession_spec hmade
  refine ⟨made, hanswered, hpublic.trans hsame.publicPort, hhidden.trans hsame.hiddenPort,
    fun t other client => ?_⟩
  unfold LinksAt
  rw [firstWritten_createSession hmade]
  split
  · next htcp =>
    -- the first read is that of the token that the authority has signed
    have hread : d.firstRead later t other (utf8 text) = .connectTunnels client ↔
        InDate d issuedAt now later ∧ user.identity = other ∧ tunnelId = client := by
      rw [htext, firstRead_iff (hsigns user huser) rfl (hfit _ htoken), mayLink_signRequest_iff]
    simp only [Option.some.injEq, exists_eq_left', htcp, true_and]
    refine hread.trans ⟨?_, ?_⟩
    · rintro ⟨-, rfl, rfl⟩
      exact ⟨rfl, rfl⟩
    · rintro ⟨rfl, rfl⟩
      exact ⟨hdate, rfl, rfl⟩
  · next hudp => simp [hudp]

/-- One TCP service, announced by Mallory. -/
def cfgOfMallory : TypeScript.Config := ⟨"mallory", [⟨some "ssh", "tcp", 8022, 22, none⟩]⟩

/-- What her publisher reads of the message about a client `c` of this service. -/
def heardOfMallory : NewTunnelMessage := heard "s" "c" ⟨some "ssh", 22, 8022⟩

/-- The authority, which reads the text that her publisher sends. -/
def authorityOfMallory : Deployment :=
  deploymentOfMallory (signRequest "s" "c" 8022 22) heardOfMallory.claims.stringify

/-- The token that it signs. -/
def tokenOfMallory : String :=
  "eyJhbGciOiJSUzI1NiIsInR5cCI6IkpXUyJ9." ++
    "eyJleHAiOjMxNTM2MDAwLCJoaWRkZW5Qb3J0Ijo4MDIyLCJpYXQiOjAsImlkZW50aXR5IjoibWFsbG9yeSIs" ++
    "ImlzcyI6InR1bm5lbEJvcmUiLCJwdWJsaWNQb3J0IjoyMiwic2VydmljZUlkIjoicyIsInR1bm5lbElkIjoiYyJ9" ++
    ".c2lnbmF0dXJl"

/-- Its response. -/
def responseOfMallory : Json := .object [("token", .string tokenOfMallory)]

/-- A library that reads this response. -/
def javaScriptOfMallory : JavaScript where
  parse text := if text = responseOfMallory.dump then some responseOfMallory else none
  stringify := Json.stringify
  keyOf := TypeScript.plainText

/-- Her client `c` is linked at her control session. -/
theorem typescript_tunnel_linked_mallory :
    ∃ made, answered javaScriptOfMallory cfgOfMallory "broker" heardOfMallory
        responseOfMallory.dump =
          { requested := some heardOfMallory.claims
            parsed := [responseOfMallory.dump]
            sessions := [made] } ∧
      made.publicPort = 22 ∧
      ∀ t other client, LinksAt authorityOfMallory 1 made t other client ↔
        other = "mallory" ∧ client = "c" := by
  let w : PublisherWorld := { publisher := { identity := "mallory" } }
  have hheld : ((w.setup (fun _ => ("s", true)) "" 0).onMessage
      (TypeScript.handshake cfgOfMallory)).world.publisher.services.lookup "s" =
        some ⟨some "ssh", 22, 8022⟩ := by decide +kernel
  have hconnected : authorityOfMallory.controlConnection "mallory" "secret" 0 0 1 =
      some (.upgraded "mallory") := by decide +kernel
  have hheaders : authorityOfMallory.Headers := headers_ofMallory _ _
  have hnull : authorityOfMallory.Signs "mallory" "secret" 0 0 .null := signs_null_ofMallory _ _
  have hjs : javaScriptOfMallory.Documented := ⟨fun _ => rfl, fun _ => rfl⟩
  have hparse : authorityOfMallory.parse heardOfMallory.claims.stringify =
      .ok (signRequest "s" "c" 8022 22) := parse_ofMallory _ _
  have hsigns : authorityOfMallory.Signs "mallory" "secret" 0 0 (signRequest "s" "c" 8022 22) :=
    signs_ofMallory (by decide +kernel)
  have hfit : ∀ token, authorityOfMallory.tunnelToken "mallory" "secret" 0 0
      heardOfMallory.claims.stringify = some token → (prefixedToken token).length ≤ 4096 :=
    fits_ofMallory (by decide +kernel)
  have hdate : InDate authorityOfMallory 0 0 1 := rfl
  obtain ⟨service, hservice, -, token, htoken, hanswered⟩ := typescript_tunnel_linked
    (by decide) (by decide) (by decide +kernel) rfl hheld hheaders hnull hconnected hjs hparse
    hsigns hfit hdate
  have hsigned : authorityOfMallory.tunnelToken "mallory" "secret" 0 0
      heardOfMallory.claims.stringify = some (utf8 tokenOfMallory) := by decide +kernel
  obtain rfl := Option.some.inj (hsigned.symm.trans htoken)
  have hresponse : javaScriptOfMallory.parse responseOfMallory.dump = some responseOfMallory :=
    by simp [javaScriptOfMallory]
  obtain ⟨made, hmade, hport, -, hlinks⟩ :=
    hanswered responseOfMallory.dump tokenOfMallory hresponse rfl
  refine ⟨made, hmade, hport, fun t other client => (hlinks t other client).trans ?_⟩
  obtain rfl := List.mem_singleton.mp hservice
  exact and_iff_right (by decide +kernel)

end TunnelBore.Wire
