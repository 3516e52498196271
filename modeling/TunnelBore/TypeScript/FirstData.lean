import TunnelBore.TypeScript.Broker

namespace TunnelBore.TypeScript

open TunnelBore.Lib

/-!
# The first data of a socket

The broker looks for the service of a connection when it accepts it, and again when the first data
arrives.  In between the services may have been replaced, while the socket stays open.  Data that
names a session is taken for a publisher's; when the session cannot be reached the exception is
caught, and the connection goes the way of a client.

* `NeverUsesRemoved` — no handler reads a field of a removed service, and a socket whose service is
  gone is dropped;
* `neverUsesRemoved_iff` — so it is along the runs in which no first data meets a removed service;
* `takenForPublisher_iff` — a publisher's connection is taken for one exactly when the session that
  it names is there and half open.
-/

variable (uuid : Nat → String) (parse : Bytes → Option Json) (keyOf : Json → Option String)
variable {p t : Publisher} {socket : SocketId} {serviceId : String} {peekBuffer : Bytes}

/-! ### What the handlers of first data do -/

/-- A client of a service in the table is registered. -/
theorem doInitialConnect_listed (h : serviceId ∈ p.services) :
    (p.doInitialConnect uuid serviceId socket peekBuffer).undefinedReads = [] ∧
      (p.doInitialConnect uuid serviceId socket peekBuffer).threw = false := by
  obtain ⟨service, hservice⟩ := Option.isSome_iff_exists.mp (AList.lookup_isSome.mpr h)
  simp only [Publisher.doInitialConnect, property_of_some hservice, and_self]

/-- No way through `doInitialConnect` ends a socket. -/
theorem doInitialConnect_ended :
    (p.doInitialConnect uuid serviceId socket peekBuffer).publisher.ended = p.ended := by
  unfold Publisher.doInitialConnect
  split
  · rfl
  · rfl
  · rfl

/-- `addSocketToHalfOpenSession` reads of the service it is called on only. -/
theorem addSocketToHalfOpenSession_undefinedReads (service : PublishedService)
    (tunnelId : String) :
    (p.addSocketToHalfOpenSession serviceId service tunnelId socket).undefinedReads = [] := by
  unfold Publisher.addSocketToHalfOpenSession
  split
  · split
    · rfl
    · rfl
  · rfl

variable (tunnelId tokenId : Json)

/-- The field that `doPublisherConnect` reads of an undefined service. -/
theorem mem_undefinedReads_doPublisherConnect {key : String} :
    key ∈ (p.doPublisherConnect keyOf socket tunnelId tokenId).undefinedReads ↔
      keyOf tokenId = some key ∧ property p.services key = .undefined := by
  unfold Publisher.doPublisherConnect
  cases hkey : keyOf tokenId with
  | none => simp
  | some tokenKey =>
    simp only [Option.some.injEq]
    cases hservice : property p.services tokenKey with
    | undefined =>
      simp only [List.mem_singleton]
      constructor
      · rintro rfl
        exact ⟨rfl, hservice⟩
      · rintro ⟨rfl, -⟩
        rfl
    | inherited =>
      -- the exception comes from the call, not from a field of `undefined`
      simp only [List.not_mem_nil, false_iff]
      rintro ⟨rfl, hundefined⟩
      rw [hservice] at hundefined
      cases hundefined
    | own service =>
      have hdefined : ¬(tokenKey = key ∧ property p.services key = .undefined) := by
        rintro ⟨rfl, hundefined⟩
        rw [hservice] at hundefined
        cases hundefined
      simp only [hdefined, iff_false]
      cases keyOf tunnelId with
      | none => exact List.not_mem_nil
      | some tunnelKey =>
        show key ∉ (p.addSocketToHalfOpenSession tokenKey service tunnelKey socket).undefinedReads
        rw [addSocketToHalfOpenSession_undefinedReads]
        exact List.not_mem_nil

/-- `doPublisherConnect` ends no socket and sends nothing, and when it throws it has changed
    nothing. -/
theorem doPublisherConnect_frame :
    (p.doPublisherConnect keyOf socket tunnelId tokenId).publisher.ended = p.ended ∧
      (p.doPublisherConnect keyOf socket tunnelId tokenId).publisher.sent = p.sent ∧
      ((p.doPublisherConnect keyOf socket tunnelId tokenId).threw = true →
        (p.doPublisherConnect keyOf socket tunnelId tokenId).publisher = p) := by
  unfold Publisher.doPublisherConnect
  split
  · -- the service id is no key
    exact ⟨rfl, rfl, fun _ => rfl⟩
  · split
    · -- there is no such service
      exact ⟨rfl, rfl, fun _ => rfl⟩
    · -- an inherited member cannot be called
      exact ⟨rfl, rfl, fun _ => rfl⟩
    · split
      · -- the tunnel id is no key
        exact ⟨rfl, rfl, fun _ => rfl⟩
      · unfold Publisher.addSocketToHalfOpenSession
        split
        · split
          · -- the session was half open and is joined, without an exception
            exact ⟨rfl, rfl, fun h => by cases h⟩
          · exact ⟨rfl, rfl, fun _ => rfl⟩
        · -- there is no such session
          exact ⟨rfl, rfl, fun _ => rfl⟩

/-- **The first data of a socket never ends it.** -/
theorem onData_ended (sameAddress : Bool) :
    (p.onData uuid parse keyOf socket serviceId sameAddress peekBuffer).publisher.ended =
      p.ended := by
  unfold Publisher.onData
  simp only
  split
  · -- a client
    exact doInitialConnect_ended uuid
  · split
    · -- a publisher's, but with an exception
      show (Publisher.doInitialConnect uuid _ serviceId socket peekBuffer).publisher.ended = p.ended
      rw [doInitialConnect_ended]
      exact (doPublisherConnect_frame keyOf _ _).1
    · exact (doPublisherConnect_frame keyOf _ _).1

/-- What first data reads of undefined services, on a socket of a service in the table. -/
theorem mem_undefinedReads_onData {sameAddress : Bool} (h : serviceId ∈ p.services) {key : String} :
    key ∈ (p.onData uuid parse keyOf socket serviceId sameAddress peekBuffer).undefinedReads ↔
      ∃ tunnelId tokenId,
        Publisher.publisherToken parse peekBuffer sameAddress = some (tunnelId, tokenId) ∧
          keyOf tokenId = some key ∧ property p.services key = .undefined := by
  unfold Publisher.onData
  simp only
  have hinitial : ∀ q : Publisher, q.services = p.services →
      (q.doInitialConnect uuid serviceId socket peekBuffer).undefinedReads = [] :=
    fun q hq => (doInitialConnect_listed uuid (hq ▸ h)).1
  cases htoken : Publisher.publisherToken parse peekBuffer sameAddress with
  | none =>
    show key ∈ (Publisher.doInitialConnect uuid _ serviceId socket peekBuffer).undefinedReads ↔ _
    rw [hinitial (p.unlisten socket) rfl]
    simp
  | some ids =>
    obtain ⟨tunnelId, tokenId⟩ := ids
    have hread : ∀ q : Publisher, q.services = p.services →
        (key ∈ (q.doPublisherConnect keyOf socket tunnelId tokenId).undefinedReads ↔
          ∃ tunnelId' tokenId', some (tunnelId, tokenId) = some (tunnelId', tokenId') ∧
            keyOf tokenId' = some key ∧ property p.services key = .undefined) := by
      intro q hq
      rw [mem_undefinedReads_doPublisherConnect, hq]
      simp
    simp only
    split
    · next hthrew =>
      -- after the exception the client is registered, which reads of its own service only
      have hsame := (doPublisherConnect_frame keyOf tunnelId tokenId).2.2 hthrew
      rw [List.mem_append, hsame, hinitial (p.unlisten socket) rfl]
      simpa using hread (p.unlisten socket) rfl
    · exact hread (p.unlisten socket) rfl

/-! ### Removed services -/

/-- The socket is ended, and nothing else is done. -/
structure Dropped (p : Publisher) (socket : SocketId) (handled : Handled) : Prop where
  ended : handled.publisher.ended = p.ended ++ [socket]
  silent : handled.publisher.sent = p.sent
  returned : handled.threw = false

/-- What the handler of an event has to do with services that were removed. -/
structure LeavesRemoved (p : Publisher) (e : Event) (handled : Handled) : Prop where
  /-- No field of a removed service is read. -/
  unread : ∀ serviceId ∈ handled.undefinedReads, serviceId ∉ p.removed
  /-- A connection whose service is gone is dropped. -/
  dropped : ∀ socket peekBuffer accepted, e = .data socket peekBuffer →
    p.waiting.lookup socket = some accepted → accepted.1 ∉ p.services → Dropped p socket handled

/-- The handler of an event uses no removed service. -/
def NeverUsesRemoved (p : Publisher) (e : Event) : Prop :=
  ∀ handled, p.crashed = false → p.handle uuid parse keyOf e = some handled →
    LeavesRemoved p e handled

/-- First data names, as a publisher's, a service that was removed. -/
def NamesRemoved (p : Publisher) (peekBuffer : Bytes) (sameAddress : Bool) : Prop :=
  ∃ tunnelId tokenId key,
    Publisher.publisherToken parse peekBuffer sameAddress = some (tunnelId, tokenId) ∧
      keyOf tokenId = some key ∧ property p.services key = .undefined ∧ key ∈ p.removed

/-- First data comes while the service of its socket is in the table, and names no removed one. -/
def MeetsServices (p : Publisher) : Event → Prop
  | .data socket peekBuffer =>
    p.crashed = false → ∀ accepted, p.waiting.lookup socket = some accepted →
      accepted.1 ∈ p.services ∧ ¬NamesRemoved parse keyOf p peekBuffer accepted.2
  | _ => True

/-- Only first data reads fields of undefined services. -/
theorem undefinedReads_handle {e : Event} {handled : Handled}
    (hhandle : p.handle uuid parse keyOf e = some handled)
    (hother : ∀ socket peekBuffer, e ≠ .data socket peekBuffer) :
    handled.undefinedReads = [] := by
  have hfreed : ∀ serviceId tunnelId,
      (p.freeSessionForService serviceId tunnelId).undefinedReads = [] := by
    intro serviceId tunnelId
    unfold Publisher.freeSessionForService
    split
    · rfl
    · rfl
    · split
      · rfl
      · rfl
  cases e with
  | data socket peekBuffer => exact absurd rfl (hother socket peekBuffer)
  | accepted serviceId socket sameAddress =>
    obtain rfl := Option.some.inj hhandle
    unfold Publisher.onConnect
    split
    · rfl
    · split
      · rfl
      · rfl
  | services serviceInfos =>
    obtain rfl := Option.some.inj hhandle
    rfl
  | newTunnelFailed serviceId tunnelId =>
    obtain rfl := Option.some.inj hhandle
    unfold Publisher.onSessionFailed
    split
    · rfl
    · exact hfreed serviceId tunnelId
  | publisherClosed socket =>
    obtain ⟨session, -, rfl⟩ := Option.map_eq_some_iff.mp hhandle
    unfold Publisher.onPublisherClose
    split
    · rfl
    · split
      · rfl
      · rfl
  | listenFailed acceptor =>
    obtain rfl := Option.some.inj hhandle
    rfl
  | controlClosed =>
    obtain rfl := Option.some.inj hhandle
    rfl

/-- **One event** uses no removed service exactly when it meets none. -/
theorem neverUsesRemoved_step_iff (p : Publisher) (e : Event) :
    NeverUsesRemoved uuid parse keyOf p e ↔ MeetsServices parse keyOf p e := by
  by_cases hdata : ∃ socket peekBuffer, e = .data socket peekBuffer
  · obtain ⟨socket, peekBuffer, rfl⟩ := hdata
    constructor
    · intro hnever hcrashed accepted hwaiting
      have hleaves := hnever _ hcrashed (Option.map_eq_some_iff.mpr ⟨accepted, hwaiting, rfl⟩)
      have hlisted : accepted.1 ∈ p.services := by
        by_contra hgone
        -- it would have to be ended, which first data never does
        have hended := (hleaves.dropped socket peekBuffer accepted rfl hwaiting hgone).ended
        rw [onData_ended] at hended
        exact absurd (congrArg List.length hended) (by simp)
      refine ⟨hlisted, ?_⟩
      rintro ⟨tunnelId, tokenId, key, htoken, hkey, hundefined, hremoved⟩
      exact hleaves.unread key ((mem_undefinedReads_onData uuid parse keyOf hlisted).mpr
        ⟨tunnelId, tokenId, htoken, hkey, hundefined⟩) hremoved
    · intro hmeets handled hcrashed hhandle
      obtain ⟨accepted, hwaiting, rfl⟩ := Option.map_eq_some_iff.mp hhandle
      obtain ⟨hlisted, hnames⟩ := hmeets hcrashed accepted hwaiting
      constructor
      · intro key hkey hremoved
        obtain ⟨tunnelId, tokenId, htoken, hkey, hundefined⟩ :=
          (mem_undefinedReads_onData uuid parse keyOf hlisted).mp hkey
        exact hnames ⟨tunnelId, tokenId, key, htoken, hkey, hundefined, hremoved⟩
      · rintro _ _ accepted' ⟨⟩ hwaiting' hgone
        obtain rfl := Option.some.inj (hwaiting.symm.trans hwaiting')
        exact absurd hlisted hgone
  · -- every other handler looks whether the service is there
    have hother : ∀ socket peekBuffer, e ≠ .data socket peekBuffer :=
      fun socket peekBuffer he => hdata ⟨socket, peekBuffer, he⟩
    have hmeets : MeetsServices parse keyOf p e := by
      cases e with
      | data socket peekBuffer => exact absurd rfl (hother socket peekBuffer)
      | _ => trivial
    refine ⟨fun _ => hmeets, fun _ handled _ hhandle => ⟨?_, ?_⟩⟩
    · rw [undefinedReads_handle uuid parse keyOf hhandle hother]
      exact fun _ hmem => absurd hmem List.not_mem_nil
    · exact fun socket peekBuffer _ he => absurd he (hother socket peekBuffer)

/-- **No removed service is used** along a run exactly when first data never meets one. -/
theorem neverUsesRemoved_iff (limit : Nat) (events : List Event) :
    Along (Publisher.step uuid parse keyOf) (NeverUsesRemoved uuid parse keyOf) (start limit)
        events ↔
      Along (Publisher.step uuid parse keyOf) (MeetsServices parse keyOf) (start limit) events :=
  along_congr (I := fun _ => True) (fun _ _ _ _ _ => trivial)
    (fun p e _ => neverUsesRemoved_step_iff uuid parse keyOf p e) trivial events

/-- A service is set, a client connects, the control socket is closed, and the client sends. -/
def goneEvents : List Event :=
  [.services [⟨some "web", "tcp", 8080, 80, none⟩], .accepted "0" 0 (some false), .controlClosed,
    .data 0 (asciiString "GET")]

/-- The first data of the client ends the process. -/
theorem neverUsesRemoved_gone :
    ¬Along (Publisher.step toString (fun _ => none) Json.getString)
        (NeverUsesRemoved toString (fun _ => none) Json.getString) (start 1) goneEvents ∧
      (run (Publisher.step toString (fun _ => none) Json.getString) (start 1) goneEvents).map
        Publisher.crashed = some true := by
  refine ⟨fun hnever => ?_, by decide +kernel⟩
  have hbefore : ∃ p, run (Publisher.step toString (fun _ => none) Json.getString) (start 1)
      (goneEvents.take 3) = some p ∧ p.crashed = false ∧ (p.waiting.lookup 0).isSome = true ∧
        p.services.keys = [] :=
    ⟨_, Option.eq_some_of_isSome (by decide +kernel), by decide +kernel, by decide +kernel,
      by decide +kernel⟩
  obtain ⟨p, hrun, hcrashed, hwaiting, hkeys⟩ := hbefore
  obtain ⟨accepted, hwaiting⟩ := Option.isSome_iff_exists.mp hwaiting
  have hsplit : Along (Publisher.step toString (fun _ => none) Json.getString)
      (NeverUsesRemoved toString (fun _ => none) Json.getString) (start 1)
      (goneEvents.take 3 ++ [.data 0 (asciiString "GET")]) := hnever
  have hmeets := (neverUsesRemoved_step_iff _ _ _ _ _).mp (hsplit.of_run hrun).1
  have hlisted : accepted.1 ∈ p.services.keys := (hmeets hcrashed accepted hwaiting).1
  rw [hkeys] at hlisted
  exact absurd hlisted List.not_mem_nil

/-! ### Connections of the publisher -/

/-- The session that a publisher's connection names is there and half open. -/
def NamesHalfOpen (p : Publisher) (tunnelId tokenId : Json) : Prop :=
  ∃ key id session, keyOf tokenId = some key ∧ keyOf tunnelId = some id ∧
    p.sessionAt key id = some session ∧ session.isHalfOpen = true

/-- The socket becomes the publisher side of a session that was half open, and no other session
    changes. -/
structure Attached (p t : Publisher) (socket : SocketId) (key id : String) : Prop where
  joined : ∃ session, p.sessionAt key id = some session ∧ session.isHalfOpen = true ∧
    t.sessionAt key id = some { session with publisherSocket := some socket }
  others : ∀ key' id', (key', id') ≠ (key, id) → t.sessionAt key' id' = p.sessionAt key' id'

/-- The connection is attached to the half-open session of its tunnel or closed, and not taken for
    a client. -/
structure TakenForPublisher (p t : Publisher) (socket : SocketId) (tunnelId tokenId : Json) :
    Prop where
  settled : (∃ key id, keyOf tokenId = some key ∧ keyOf tunnelId = some id ∧
    Attached p t socket key id) ∨ t.ended = p.ended ++ [socket]
  noClient : ∀ key id, p.sessionAt key id = none → t.sessionAt key id = none
  silent : t.sent = p.sent

section Replaced

variable {service : PublishedService} {key id : String}

/-- The session of a service that has been replaced. -/
theorem sessionAt_insert_self {session : Session}
    (ht : t.services =
      p.services.insert key { service with sessions := service.sessions.insert id session }) :
    t.sessionAt key id = some session := by
  unfold Publisher.sessionAt
  rw [ht, AList.lookup_insert]
  exact AList.lookup_insert _

/-- The other sessions stay. -/
theorem sessionAt_insert_ne {session : Session} (hservice : p.services.lookup key = some service)
    (ht : t.services =
      p.services.insert key { service with sessions := service.sessions.insert id session })
    {key' id' : String} (hne : (key', id') ≠ (key, id)) :
    t.sessionAt key' id' = p.sessionAt key' id' := by
  unfold Publisher.sessionAt
  rw [ht]
  by_cases hkey : key' = key
  · -- another session of the service
    subst hkey
    have hid : id' ≠ id := fun h => hne (h ▸ rfl)
    rw [AList.lookup_insert, hservice]
    exact AList.lookup_insert_ne hid
  · rw [AList.lookup_insert_ne hkey]

end Replaced

/-- A publisher side that names a half-open session is attached to it. -/
theorem doPublisherConnect_halfOpen {key id : String} {session : Session}
    (hkey : keyOf tokenId = some key) (hid : keyOf tunnelId = some id)
    (hsession : p.sessionAt key id = some session) (hopen : session.isHalfOpen = true) :
    (p.doPublisherConnect keyOf socket tunnelId tokenId).threw = false ∧
      Attached p (p.doPublisherConnect keyOf socket tunnelId tokenId).publisher socket key id := by
  obtain ⟨service, hservice, hlookup⟩ := Option.bind_eq_some_iff.mp hsession
  simp only [Publisher.doPublisherConnect, hkey, hid, property_of_some hservice,
    Publisher.addSocketToHalfOpenSession, property_of_some hlookup, hopen, if_true, true_and]
  refine ⟨⟨session, hsession, hopen, ?_⟩, fun key' id' hne => ?_⟩
  · exact sessionAt_insert_self rfl
  · exact sessionAt_insert_ne hservice rfl hne

/-- **A publisher's connection is taken for one** exactly when the session that it names is there
    and half open, in every state of the broker. -/
theorem takenForPublisher_iff
    (hwaiting : p.waiting.lookup socket = some (serviceId, true))
    (htoken : Publisher.publisherToken parse peekBuffer true = some (tunnelId, tokenId))
    (hstep : p.step uuid parse keyOf (.data socket peekBuffer) = some t) :
    TakenForPublisher keyOf p t socket tunnelId tokenId ↔
      NamesHalfOpen keyOf p tunnelId tokenId := by
  simp only [Publisher.step, Publisher.handle, hwaiting, Option.map_some,
    Option.ite_none_left_eq_some, Option.some.injEq] at hstep
  obtain ⟨-, rfl⟩ := hstep
  constructor
  · intro htaken
    rcases htaken.settled with ⟨key, id, hkey, hid, hattached⟩ | hended
    · obtain ⟨session, hsession, hopen, -⟩ := hattached.joined
      exact ⟨key, id, session, hkey, hid, hsession, hopen⟩
    · -- first data never ends a socket
      have hsame : (p.onData uuid parse keyOf socket serviceId true peekBuffer).publisher.ended =
          p.ended := onData_ended uuid parse keyOf true
      exact absurd (congrArg List.length (hsame.symm.trans hended)) (by simp)
  · rintro ⟨key, id, session, hkey, hid, hsession, hopen⟩
    -- that first data is awaited no longer changes no session
    have hunlistened : (p.unlisten socket).sessionAt key id = some session := hsession
    obtain ⟨hreturned, hattached⟩ : _ ∧ Attached (p.unlisten socket)
        ((p.unlisten socket).doPublisherConnect keyOf socket tunnelId tokenId).publisher socket
        key id := doPublisherConnect_halfOpen keyOf tunnelId tokenId hkey hid hunlistened hopen
    have hconnected : p.onData uuid parse keyOf socket serviceId true peekBuffer =
        (p.unlisten socket).doPublisherConnect keyOf socket tunnelId tokenId := by
      simp only [Publisher.onData, htoken, hreturned, Bool.false_eq_true, if_false]
    rw [hconnected]
    refine ⟨.inl ⟨key, id, hkey, hid, hattached.joined, hattached.others⟩, ?_, ?_⟩
    · intro key' id' hnone
      by_cases hsame : (key', id') = (key, id)
      · -- the session that was joined was there before
        obtain ⟨rfl, rfl⟩ := Prod.mk.inj hsame
        rw [hsession] at hnone
        cases hnone
      · exact (hattached.others key' id' hsame).trans hnone
    · exact (doPublisherConnect_frame keyOf tunnelId tokenId).2.1

/-- The token of session `"2"` of service `"0"`. -/
def sideText : Bytes := asciiString "\x7b\"tunnelId\":\"2\",\"serviceId\":\"0\"\x7d"

/-- A `JSON.parse` that reads this token. -/
def parseToken (peekBuffer : Bytes) : Option Json :=
  if peekBuffer = sideText then
    some (.object [("tunnelId", .string "2"), ("serviceId", .string "0")])
  else none

/-- A client of the service waits for its publisher side. -/
def halfOpenEvents : List Event :=
  [.services [⟨some "web", "tcp", 8080, 80, none⟩], .accepted "0" 0 (some false),
    .data 0 (asciiString "GET"), .accepted "0" 1 (some true)]

/-- The publisher side is attached. -/
theorem takenForPublisher_waiting :
    ∃ p t, run (Publisher.step toString parseToken Json.getString) (start 1) halfOpenEvents =
        some p ∧
      p.step toString parseToken Json.getString (.data 1 sideText) = some t ∧
      TakenForPublisher Json.getString p t 1 (.string "2") (.string "0") := by
  have hbefore : ∃ p, run (Publisher.step toString parseToken Json.getString) (start 1)
      halfOpenEvents = some p ∧
        (p.step toString parseToken Json.getString (.data 1 sideText)).isSome = true ∧
        (p.waiting.lookup 1).map (fun accepted => accepted) = some ("0", true) ∧
        (p.sessionAt "0" "2").map Session.isHalfOpen = some true :=
    ⟨_, Option.eq_some_of_isSome (by decide +kernel), by decide +kernel, by decide +kernel,
      by decide +kernel⟩
  obtain ⟨p, hrun, hsome, hwaiting, hsession⟩ := hbefore
  obtain ⟨t, hstep⟩ := Option.isSome_iff_exists.mp hsome
  obtain ⟨session, hsession, hopen⟩ := Option.map_eq_some_iff.mp hsession
  rw [Option.map_id'] at hwaiting
  exact ⟨p, t, hrun, hstep, (takenForPublisher_iff _ _ _ _ _ hwaiting rfl hstep).mpr
    ⟨"0", "2", session, rfl, rfl, hsession, hopen⟩⟩

/-- The same, but the publisher has reported that the session failed before its side connects. -/
def freedEvents : List Event :=
  [.services [⟨some "web", "tcp", 8080, 80, none⟩], .accepted "0" 0 (some false),
    .data 0 (asciiString "GET"), .newTunnelFailed "0" "2", .accepted "0" 1 (some true)]

/-- The publisher side becomes a client, for which a `NewTunnel` is sent. -/
theorem takenForPublisher_freed :
    ∃ p t, run (Publisher.step toString parseToken Json.getString) (start 1) freedEvents =
        some p ∧
      p.step toString parseToken Json.getString (.data 1 sideText) = some t ∧
      (p.waiting.lookup 1).map (fun accepted => accepted) = some ("0", true) ∧
      ¬TakenForPublisher Json.getString p t 1 (.string "2") (.string "0") ∧
      (t.sessionAt "0" "3").map Session.clientSocket = some 1 ∧
      t.sent.length = p.sent.length + 1 := by
  have hbefore : ∃ p, run (Publisher.step toString parseToken Json.getString) (start 1)
      freedEvents = some p ∧
        (p.waiting.lookup 1).map (fun accepted => accepted) = some ("0", true) ∧
        ∃ t, p.step toString parseToken Json.getString (.data 1 sideText) = some t ∧
          (t.sessionAt "0" "3").map Session.clientSocket = some 1 ∧
          t.sent.length = p.sent.length + 1 :=
    ⟨_, Option.eq_some_of_isSome (by decide +kernel), by decide +kernel, _,
      Option.eq_some_of_isSome (by decide +kernel), by decide +kernel, by decide +kernel⟩
  obtain ⟨p, hrun, hwaiting, t, hstep, hclient, hsent⟩ := hbefore
  refine ⟨p, t, hrun, hstep, hwaiting, fun htaken => ?_, hclient, hsent⟩
  rw [htaken.silent] at hsent
  omega

end TunnelBore.TypeScript
