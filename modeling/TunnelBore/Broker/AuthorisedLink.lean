import TunnelBore.Broker.AcceptLoop
import TunnelBore.Broker.Peek

namespace TunnelBore.Broker

open TunnelBore.Lib

/-!
# Who is linked

Anybody may connect to the public port of a service and send anything.  `Traffic` is a service
under such connections: the accept handler makes sessions, first reads complete with whatever
was sent, and every handler is a call stack of its own that takes its turns among the others.
Mutexes are left out, so that a run interleaves the stacks more freely than the threads can.

* `Authorised` — what the first chunk of a publisher side has to be;
* `Guarded` — the invariant: a stack that is about to connect two sides was pushed by the first
  read of an authorised publisher side, which is never announced;
* `link_authorised` — so whenever `link` is executed its publisher side is authorised.

The signature check is a parameter.  What is asked of it is that it rejects a string with a NUL
byte: a chunk that is the prefix and nothing else makes the handler cut the zeros behind it out
of the buffer as the token.
-/

/-- A service, the first reads of its sessions, with the chunk and the time they completed, and
    the handlers that are running. -/
structure Traffic where
  loop : AcceptLoop
  firstReads : List (TunnelId × Bytes × Int) := []
  handlers : List Program := []

/-- What happens to a service and its sessions. -/
inductive TrafficEvent
  /-- The acceptor completes, is stopped or destroyed. -/
  | acceptor (e : AcceptEvent)
  /-- The first read of a session completes at the time `now`; `controlAlive` says whether the
      control session it captured still exists. -/
  | peeked (id : TunnelId) (controlAlive ec : Bool) (chunk : Bytes) (now : Int)
  /-- An initial write completes. -/
  | wrote (source target : TunnelId) (ec : Bool)
  /-- A handler that owns the session closes it. -/
  | close (id : TunnelId)
  /-- A handler carries out its next task. -/
  | turn (handler : Nat)

namespace Traffic

variable (jwt : Jwt Bytes) (publicJwtKey : String) (identityOf : SessionId → String)

/-- The service of which this is the traffic. -/
def service (x : Traffic) : Service := x.loop.sessions.service

/-- The same with another service, where a first read may have completed. -/
def withService (x : Traffic) (service : Service) (peeking : Finset TunnelId) : Traffic :=
  { x with loop := { x.loop with sessions :=
      { x.loop.sessions with service := service, peeking := peeking } } }

/-- A handler has been entered. -/
def enter (x : Traffic) (handler : Service × Program) (peeking : Finset TunnelId) : Traffic :=
  { x.withService handler.1 peeking with handlers := x.handlers ++ [handler.2] }

/-- The control session a session has captured. -/
def capturedBy (x : Traffic) (id : TunnelId) : Option SessionId := x.loop.captured.lookup id

/-- The first chunk received on a session, and when. -/
def firstRead (x : Traffic) (id : TunnelId) : Option (Bytes × Int) := x.firstReads.lookup id

/-- What `peek` uses of a control session, at the time `now`. -/
def controlView (now : Int) (session : SessionId) : ControlView where
  identity := identityOf session
  verifyPublisherIdentity := verifyPublisherToken jwt publicJwtKey now

/-- A service after `start`, before anybody has connected. -/
def begin (setup : AcceptorSetup) : Traffic where
  loop := (({} : AcceptLoop).start setup).1

/-- One event; `none` when it cannot occur. -/
def step (x : Traffic) : TrafficEvent → Option Traffic
  | .acceptor (.session _) => none
  | .acceptor e            => (x.loop.step e).map fun loop => { x with loop := loop }
  | .peeked id controlAlive ec chunk now =>
    if x.loop.alive ∧ id ∈ x.loop.sessions.peeking ∧ chunk.length ≤ 4096 then
      let session := if controlAlive then x.capturedBy id else none
      let control := session.map (controlView jwt publicJwtKey identityOf now)
      some { x.enter (x.service.peeked id control ec chunk) (x.loop.sessions.peeking.erase id)
        with firstReads := (id, chunk, now) :: x.firstReads }
    else none
  | .wrote source target ec =>
    if x.service.initialWrites.contains (source, target) then
      some (x.enter (x.service.wrote source target ec) x.loop.sessions.peeking)
    else none
  | .close id =>
    if x.service.alive id then
      some (x.enter (x.service.acquire id, [.act (.close id), .act (.release id)])
        x.loop.sessions.peeking)
    else none
  | .turn i =>
    match x.handlers[i]? with
    | some (t :: ts) =>
      let result := perform Service.expand x.service t
      some { x.withService result.1 x.loop.sessions.peeking with
        handlers := x.handlers.set i (result.2 ++ ts) }
    | _ => none

/-- What is asked of the signature check. -/
def RejectsNul : Prop :=
  ∀ tokenData, 0 ∈ tokenData → jwt.signatureValid publicJwtKey tokenData = false

/-- `publisher` may be linked to `client`: its first chunk is the prefix, one more byte and a
    token that verifies at that time, is of the identity of its control session and names the
    client. -/
def Authorised (x : Traffic) (client publisher : TunnelId) : Prop :=
  ∃ session separator tokenData now token,
    x.capturedBy publisher = some session ∧
    x.firstRead publisher = some (publisherToBrokerPrefix ++ separator :: tokenData, now) ∧
    verifyPublisherToken jwt publicJwtKey now tokenData = some token ∧
    token.identity = identityOf session ∧
    token.claimedTunnelId = some client

end Traffic

/-! ### What one task records and pushes -/

namespace Service

variable {s : Service}

/-- A task announces nobody. -/
theorem inform_perform {t : Task Mutex Act} {id : TunnelId}
    (h : .inform id ∈ (perform expand s t).1.effects) : .inform id ∈ s.effects := by
  have hout := outcome s t
  generalize perform expand s t = result at hout h
  cases hout with
  | pipeClose => rwa [foldl_acquire_effects] at h
  | release _ _ hs' =>
    subst hs'
    exact h
  | erase _ hs' =>
    subst hs'
    simpa [record] using h
  | eraseInvalid => simpa [record] using h
  | link => simpa [record] using h
  | linkMissing => simpa [record] using h
  | linkWrite => simpa [startInitialWrite] using h
  | linkDead => simpa [record] using h
  | _ => exact h

/-- The two sides a task is about to link. -/
def linking : Task Mutex Act → Option (TunnelId × TunnelId)
  | .act (.connectTunnels client publisher)        => some (client, publisher)
  | .act (.connectTunnelsGuarded client publisher) => some (client, publisher)
  | _                                              => none

/-- What a task pushes links no other sides than the task itself. -/
theorem linking_pushed {t t' : Task Mutex Act} {sides : TunnelId × TunnelId}
    (h : t' ∈ (perform expand s t).2) (hsides : linking t' = some sides) :
    linking t = some sides := by
  rcases pushed_perform h with hcalm | ⟨id, other, -, rfl⟩ | ⟨client, publisher, rfl, rfl⟩ |
    ⟨client, publisher, -, -, -, rfl | rfl⟩
  · -- a calm task links nothing
    cases t' with
    | act a => cases a <;> simp [linking, Calm] at hsides hcalm
    | _ => simp [linking] at hsides
  · simp [linking] at hsides
  · exact hsides
  · simp [linking] at hsides
  · simp [linking] at hsides

/-- `link` is executed by the task that connects the two sides, and both are in the table. -/
theorem link_performed {t : Task Mutex Act} {client publisher : TunnelId}
    (h : (perform expand s t).1.effects = s.effects ++ [.link client publisher]) :
    linking t = some (client, publisher) ∧ client ∈ s.sessions ∧ publisher ∈ s.sessions := by
  have htransfers := (perform_transfers s t).1
  unfold transfers at htransfers
  rw [h, List.filter_append, List.append_cancel_left_eq] at htransfers
  have hnew : newTransfers s t = [.link client publisher] := htransfers.symm
  unfold newTransfers at hnew
  split at hnew
  · next c p =>
    split at hnew
    · next hmem =>
      simp only [List.cons.injEq, Effect.link.injEq, and_true] at hnew
      obtain ⟨rfl, rfl⟩ := hnew
      exact ⟨rfl, hmem⟩
    · simp at hnew
  · split at hnew
    · simp at hnew
    · split at hnew <;> simp at hnew
  · simp at hnew

/-- What the handler of a first read does: to no other session, announcing no other, and
    linking only what `peekHandler` decides. -/
structure PeekedBy (s : Service) (id : TunnelId) (control : Option ControlView) (ec : Bool)
    (chunk : Bytes) (result : Service × Program) : Prop where
  tunnel : ∀ j, j ≠ id → result.1.tunnel j = s.tunnel j
  effects : result.1.effects = s.effects ∨ result.1.effects = s.effects ++ [.inform id]
  linking : ∀ t ∈ result.2, ∀ client publisher, linking t = some (client, publisher) →
    publisher = id ∧ result.1.effects = s.effects ∧
      ∃ before, s.tunnel id = some before ∧
        (before.peekHandler control ec chunk).2 = .connectTunnels client

theorem peeked_by (s : Service) (id : TunnelId) (control : Option ControlView) (ec : Bool)
    (chunk : Bytes) : s.PeekedBy id control ec chunk (s.peeked id control ec chunk) := by
  have hnothing : s.PeekedBy id control ec chunk (s, []) :=
    ⟨fun _ _ => rfl, .inl rfl, fun t ht => absurd ht List.not_mem_nil⟩
  have htunnel : ∀ j, j ≠ id → (s.peekedState id control ec chunk).tunnel j = s.tunnel j := by
    intro j hj
    rw [peekedState, tunnel_modify, if_neg hj]
  unfold peeked
  split
  · exact hnothing
  · next before hbefore =>
    split
    · split
      · refine ⟨htunnel, .inl rfl, fun t ht client publisher hlinking => ?_⟩
        rcases List.mem_pair.mp ht with rfl | rfl <;> cases hlinking
      · next client' haction =>
        refine ⟨htunnel, .inl rfl, fun t ht client publisher hlinking => ?_⟩
        rcases List.mem_pair.mp ht with rfl | rfl
        · obtain ⟨rfl, rfl⟩ := Prod.mk.inj (Option.some.inj hlinking)
          exact ⟨rfl, rfl, before, hbefore, haction⟩
        · cases hlinking
      · refine ⟨htunnel, .inr rfl, fun t ht client publisher hlinking => ?_⟩
        obtain rfl := List.mem_singleton.mp ht
        cases hlinking
    · exact hnothing

end Service

namespace Traffic

variable {jwt : Jwt Bytes} {publicJwtKey : String} {identityOf : SessionId → String}
variable {x x' : Traffic} {client publisher id : TunnelId}

/-! ### The token of a publisher side -/

/-- The buffer behind a chunk that is the prefix alone: what would be the token is all zeros. -/
theorem zero_mem_peekedToken {t : TunnelSession}
    (hbuffer : t.peekBuffer = List.replicate 4096 0) :
    (0 : UInt8) ∈ peekedToken (t.received publisherToBrokerPrefix)
      publisherToBrokerPrefix.length := by
  have hcount : tokenLength publisherToBrokerPrefix.length = 2 ^ 64 - 2 + 1 := by
    rw [length_publisherToBrokerPrefix]
    rfl
  have hzeros : (t.received publisherToBrokerPrefix).drop (publisherToBrokerPrefix.length + 1) =
      List.replicate 4080 0 := by
    unfold TunnelSession.received
    rw [List.drop_append, hbuffer, List.drop_eq_nil_of_le (by omega), List.drop_replicate,
      List.drop_replicate, length_publisherToBrokerPrefix]
    rfl
  unfold peekedToken substr
  rw [hzeros, hcount, List.take_replicate]
  exact List.mem_replicate.mpr ⟨by omega, rfl⟩

/-- **Whom the first read links.**  On a fresh buffer and with a check that rejects NUL bytes,
    `connectTunnels` is called only for a chunk of the prefix, one more byte and a token that
    verifies, has the identity of the control session and names the client. -/
theorem connectTunnels_chunk (hnul : RejectsNul jwt publicJwtKey) {t : TunnelSession}
    (hbuffer : t.peekBuffer = List.replicate 4096 0) {now : Int} {session : Option SessionId}
    {ec : Bool} {chunk : Bytes} (hlength : chunk.length ≤ 4096)
    (h : (t.peekHandler (session.map (controlView jwt publicJwtKey identityOf now)) ec chunk).2 =
      .connectTunnels client) :
    ∃ control separator tokenData token, session = some control ∧
      chunk = publisherToBrokerPrefix ++ separator :: tokenData ∧
      verifyPublisherToken jwt publicJwtKey now tokenData = some token ∧
      token.identity = identityOf control ∧ token.claimedTunnelId = some client := by
  obtain ⟨view, token, -, hview, -, hfront, -, hverify, hidentity, hclaim⟩ :=
    peekHandler_connectTunnels.mp h
  obtain ⟨control, rfl, rfl⟩ := Option.map_eq_some_iff.mp hview
  obtain ⟨rest, rfl⟩ := (prefix_received_iff hbuffer chunk).mp hfront
  cases rest with
  | nil =>
    -- the zeros behind the prefix are no token
    rw [List.append_nil] at hverify
    obtain ⟨claims, -, hvalid, -⟩ := (verifyPublisherToken_eq_some jwt).mp hverify
    unfold Jwt.verify at hvalid
    rw [hnul _ (zero_mem_peekedToken hbuffer)] at hvalid
    cases hvalid
  | cons separator tokenData =>
    rw [peekedToken_eq hlength] at hverify
    exact ⟨control, separator, tokenData, token, rfl, rfl, hverify, hidentity, hclaim⟩

/-! ### The invariant -/

/-- A session that has had its first read and was not announced by it. -/
structure Silent (x : Traffic) (id : TunnelId) : Prop where
  accepted : id ∈ x.loop.sessions.accepted
  read : id ∉ x.loop.sessions.peeking
  unannounced : .inform id ∉ x.service.effects

/-- **The invariant.**  Sessions that have not read have a fresh buffer and nothing is known of
    them; sessions yet to come are unknown altogether; and a task that is about to link has an
    authorised publisher side, which stays silent. -/
structure Guarded (jwt : Jwt Bytes) (publicJwtKey : String) (identityOf : SessionId → String)
    (x : Traffic) : Prop where
  fresh : ∀ id ∈ x.loop.sessions.peeking, ∀ t, x.service.tunnel id = some t →
    t.peekBuffer = List.replicate 4096 0
  waiting : ∀ id ∈ x.loop.sessions.peeking, id ∈ x.loop.sessions.accepted ∧
    x.firstRead id = none ∧ .inform id ∉ x.service.effects
  unknown : ∀ id, id ∉ x.loop.sessions.accepted →
    x.capturedBy id = none ∧ x.firstRead id = none ∧ .inform id ∉ x.service.effects
  linking : ∀ p ∈ x.handlers, ∀ t ∈ p, ∀ client publisher,
    Service.linking t = some (client, publisher) →
      x.Authorised jwt publicJwtKey identityOf client publisher ∧ x.Silent publisher

/-- What an event other than an accepted connection may change: a first read completes, and its
    session becomes known. -/
structure Moves (jwt : Jwt Bytes) (publicJwtKey : String) (identityOf : SessionId → String)
    (x x' : Traffic) : Prop where
  accepted : x'.loop.sessions.accepted = x.loop.sessions.accepted
  captured : x'.loop.captured = x.loop.captured
  peeking : x'.loop.sessions.peeking ⊆ x.loop.sessions.peeking
  firstRead : ∀ id, x'.firstRead id = x.firstRead id ∨
    id ∈ x.loop.sessions.peeking ∧ id ∉ x'.loop.sessions.peeking
  buffer : ∀ id ∈ x'.loop.sessions.peeking, ∀ after, x'.service.tunnel id = some after →
    ∃ before, x.service.tunnel id = some before ∧ after.peekBuffer = before.peekBuffer
  informed : ∀ id, .inform id ∈ x'.service.effects → .inform id ∈ x.service.effects ∨
    id ∈ x.loop.sessions.peeking ∧ id ∉ x'.loop.sessions.peeking
  linking : ∀ p ∈ x'.handlers, ∀ t ∈ p, ∀ client publisher,
    Service.linking t = some (client, publisher) →
      (∃ q ∈ x.handlers, ∃ u ∈ q, Service.linking u = some (client, publisher)) ∨
      x'.Authorised jwt publicJwtKey identityOf client publisher ∧ x'.Silent publisher

theorem Authorised.of_eq (h : x.Authorised jwt publicJwtKey identityOf client publisher)
    (hcaptured : x'.capturedBy publisher = x.capturedBy publisher)
    (hchunk : x'.firstRead publisher = x.firstRead publisher) :
    x'.Authorised jwt publicJwtKey identityOf client publisher := by
  obtain ⟨session, separator, tokenData, now, token, hsession, hfirst, hrest⟩ := h
  exact ⟨session, separator, tokenData, now, token, hcaptured.trans hsession,
    hchunk.trans hfirst, hrest⟩

/-- A silent session stays silent. -/
theorem Silent.moves (hid : x.Silent id) (h : Moves jwt publicJwtKey identityOf x x') :
    x'.Silent id where
  accepted := h.accepted ▸ hid.accepted
  read := fun hmem => hid.read (h.peeking hmem)
  unannounced := by
    intro hinformed
    rcases h.informed id hinformed with hold | ⟨hread, -⟩
    · exact hid.unannounced hold
    · exact hid.read hread

/-- Every event but an accepted connection keeps the invariant. -/
theorem Guarded.moves (hx : Guarded jwt publicJwtKey identityOf x)
    (h : Moves jwt publicJwtKey identityOf x x') : Guarded jwt publicJwtKey identityOf x' where
  fresh := by
    intro id hid after hafter
    obtain ⟨before, hbefore, hbuffer⟩ := h.buffer id hid after hafter
    rw [hbuffer]
    exact hx.fresh id (h.peeking hid) before hbefore
  waiting := by
    intro id hid
    obtain ⟨haccepted, hchunk, hinform⟩ := hx.waiting id (h.peeking hid)
    refine ⟨h.accepted ▸ haccepted, ?_, ?_⟩
    · rcases h.firstRead id with hsame | ⟨-, hread⟩
      · exact hsame.trans hchunk
      · exact absurd hid hread
    · intro hinformed
      rcases h.informed id hinformed with hold | ⟨-, hread⟩
      · exact hinform hold
      · exact hread hid
  unknown := by
    intro id hid
    rw [h.accepted] at hid
    obtain ⟨hcaptured, hchunk, hinform⟩ := hx.unknown id hid
    have hnotPeeking : id ∉ x.loop.sessions.peeking := fun hmem => hid (hx.waiting id hmem).1
    refine ⟨?_, ?_, ?_⟩
    · rw [capturedBy, h.captured]
      exact hcaptured
    · rcases h.firstRead id with hsame | ⟨hread, -⟩
      · exact hsame.trans hchunk
      · exact absurd hread hnotPeeking
    · intro hinformed
      rcases h.informed id hinformed with hold | ⟨hread, -⟩
      · exact hinform hold
      · exact hnotPeeking hread
  linking := by
    intro p hp t ht client publisher hlinking
    rcases h.linking p hp t ht client publisher hlinking with ⟨q, hq, u, hu, hbefore⟩ | hnew
    · obtain ⟨hauthorised, hsilent⟩ := hx.linking q hq u hu client publisher hbefore
      refine ⟨hauthorised.of_eq ?_ ?_, hsilent.moves h⟩
      · rw [capturedBy, h.captured]
        rfl
      · rcases h.firstRead publisher with hsame | ⟨hread, -⟩
        · exact hsame
        · exact absurd hread hsilent.read
    · exact hnew

/-! ### Events -/

/-- Entering a handler that links nobody and announces nobody. -/
theorem moves_enter {s' : Service} {p : Program}
    (hbuffer : ∀ j after, s'.tunnel j = some after →
      ∃ before, x.service.tunnel j = some before ∧ after.peekBuffer = before.peekBuffer)
    (hinform : s'.effects = x.service.effects)
    (hp : ∀ t ∈ p, Service.linking t = none) :
    Moves jwt publicJwtKey identityOf x (x.enter (s', p) x.loop.sessions.peeking) where
  accepted := rfl
  captured := rfl
  peeking := subset_rfl
  firstRead _ := .inl rfl
  buffer j _ := hbuffer j
  informed j hj := .inl (hinform ▸ hj)
  linking := by
    intro q hq t ht client publisher hlinking
    rcases List.mem_append.mp hq with hold | hnew
    · exact .inl ⟨q, hold, t, ht, hlinking⟩
    · obtain rfl := List.mem_singleton.mp hnew
      rw [hp t ht] at hlinking
      cases hlinking

/-- The completion of an initial write. -/
theorem moves_wrote {source target : TunnelId} {ec : Bool} :
    Moves jwt publicJwtKey identityOf x
      (x.enter (x.service.wrote source target ec) x.loop.sessions.peeking) := by
  refine moves_enter (fun j after hafter => ⟨after, hafter, rfl⟩) rfl ?_
  cases ec <;> simp [Service.linking]

/-- A handler that closes a session. -/
theorem moves_close :
    Moves jwt publicJwtKey identityOf x
      (x.enter (x.service.acquire id, [.act (.close id), .act (.release id)])
        x.loop.sessions.peeking) := by
  refine moves_enter ?_ rfl ?_
  · intro j after hafter
    obtain ⟨before, hbefore, rfl | ⟨-, rfl⟩⟩ := Service.tunnel_modify_cases hafter
    · exact ⟨after, hbefore, rfl⟩
    · exact ⟨before, hbefore, rfl⟩
  · intro t ht
    rcases List.mem_pair.mp ht with rfl | rfl <;> rfl

/-- A turn of a handler. -/
theorem moves_turn {i : Nat} {t : Task Mutex Act} {ts : Program}
    (hi : x.handlers[i]? = some (t :: ts)) :
    Moves jwt publicJwtKey identityOf x
      { x.withService (perform Service.expand x.service t).1 x.loop.sessions.peeking with
        handlers := x.handlers.set i ((perform Service.expand x.service t).2 ++ ts) } where
  accepted := rfl
  captured := rfl
  peeking := subset_rfl
  firstRead _ := .inl rfl
  buffer := by
    intro j _ after hafter
    obtain ⟨before, hbefore, hevolves⟩ := Service.perform_tunnel hafter
    exact ⟨before, hbefore, hevolves.peekBuffer⟩
  informed j hj := .inl (Service.inform_perform hj)
  linking := by
    intro p hp u hu client publisher hlinking
    have hmem : t :: ts ∈ x.handlers := List.mem_of_getElem? hi
    rcases List.mem_or_eq_of_mem_set hp with hold | rfl
    · exact .inl ⟨p, hold, u, hu, hlinking⟩
    · rcases List.mem_append.mp hu with hpushed | hrest
      · exact .inl ⟨t :: ts, hmem, t, List.mem_cons_self,
          Service.linking_pushed hpushed hlinking⟩
      · exact .inl ⟨t :: ts, hmem, u, List.mem_cons_of_mem t hrest, hlinking⟩

/-- The completion of a first read. -/
theorem moves_peeked (hnul : RejectsNul jwt publicJwtKey)
    (hx : Guarded jwt publicJwtKey identityOf x) (hid : id ∈ x.loop.sessions.peeking)
    {chunk : Bytes} (hlength : chunk.length ≤ 4096) (controlAlive ec : Bool) (now : Int) :
    Moves jwt publicJwtKey identityOf x
      { x.enter (x.service.peeked id ((if controlAlive then x.capturedBy id else none).map
            (controlView jwt publicJwtKey identityOf now)) ec chunk)
          (x.loop.sessions.peeking.erase id) with
        firstReads := (id, chunk, now) :: x.firstReads } := by
  have hpeeked := x.service.peeked_by id
    ((if controlAlive then x.capturedBy id else none).map
      (controlView jwt publicJwtKey identityOf now)) ec chunk
  generalize x.service.peeked id _ ec chunk = result at hpeeked ⊢
  obtain ⟨haccepted, -, hunannounced⟩ := hx.waiting id hid
  refine ⟨rfl, rfl, Finset.erase_subset _ _, ?_, ?_, ?_, ?_⟩
  -- the first read of `id` becomes known, and that of no other session
  · intro j
    by_cases hj : j = id
    · subst hj
      exact .inr ⟨hid, Finset.notMem_erase j _⟩
    · refine .inl ?_
      show ((id, chunk, now) :: x.firstReads).lookup j = x.firstReads.lookup j
      rw [List.lookup_cons, beq_eq_false_iff_ne.mpr hj]
  · intro j hj after hafter
    have hne : j ≠ id := Finset.ne_of_mem_erase hj
    exact ⟨after, (hpeeked.tunnel j hne).symm.trans hafter, rfl⟩
  · intro j hj
    have hj : .inform j ∈ result.1.effects := hj
    rcases hpeeked.effects with hsame | hinform
    · exact .inl (hsame ▸ hj)
    · rw [hinform, List.mem_append, List.mem_singleton, Effect.inform.injEq] at hj
      rcases hj with hold | rfl
      · exact .inl hold
      · exact .inr ⟨hid, Finset.notMem_erase j _⟩
  · intro p hp t ht client publisher hlinking
    rcases List.mem_append.mp hp with hold | hnew
    · exact .inl ⟨p, hold, t, ht, hlinking⟩
    · -- the new stack links `id` itself, and only for an authorised chunk
      obtain rfl := List.mem_singleton.mp hnew
      obtain ⟨rfl, heffects, before, hbefore, haction⟩ :=
        hpeeked.linking t ht client publisher hlinking
      obtain ⟨control, separator, tokenData, token, hsession, rfl, htoken⟩ :=
        connectTunnels_chunk hnul (hx.fresh publisher hid before hbefore) hlength haction
      have hcaptured : x.capturedBy publisher = some control := by
        cases controlAlive with
        | false => cases hsession
        | true => exact hsession
      refine .inr ⟨⟨control, separator, tokenData, now, token, hcaptured, ?_, htoken⟩, ?_⟩
      · exact List.lookup_cons_self
      · refine ⟨haccepted, Finset.notMem_erase _ _, ?_⟩
        show .inform publisher ∉ result.1.effects
        rw [heffects]
        exact hunannounced

/-- What an accepted connection changes: there is one more session. -/
structure Enrols (x x' : Traffic) (id : TunnelId) : Prop where
  fresh : id ∉ x.loop.sessions.accepted
  service : x'.service = x.service.accept id
  accepted : x'.loop.sessions.accepted = insert id x.loop.sessions.accepted
  peeking : x'.loop.sessions.peeking = insert id x.loop.sessions.peeking
  captured : ∃ control, x'.loop.captured = (id, control) :: x.loop.captured
  firstReads : x'.firstReads = x.firstReads
  handlers : x'.handlers = x.handlers

theorem Enrols.capturedBy (h : Enrols x x' id) {j : TunnelId} (hj : j ≠ id) :
    x'.capturedBy j = x.capturedBy j := by
  obtain ⟨control, hcaptured⟩ := h.captured
  unfold Traffic.capturedBy
  rw [hcaptured, List.lookup_cons, beq_eq_false_iff_ne.mpr hj]

theorem Enrols.firstRead (h : Enrols x x' id) (j : TunnelId) :
    x'.firstRead j = x.firstRead j := by
  unfold Traffic.firstRead
  rw [h.firstReads]

theorem Enrols.effects (h : Enrols x x' id) : x'.service.effects = x.service.effects := by
  rw [h.service]
  rfl

/-- A silent session is not the new one, and stays silent. -/
theorem Silent.enrols {j : TunnelId} (hj : x.Silent j) (h : Enrols x x' id) : x'.Silent j := by
  have hne : j ≠ id := by
    rintro rfl
    exact h.fresh hj.accepted
  refine ⟨?_, ?_, ?_⟩
  · rw [h.accepted]
    exact Finset.mem_insert_of_mem hj.accepted
  · rw [h.peeking, Finset.mem_insert, not_or]
    exact ⟨hne, hj.read⟩
  · rw [h.effects]
    exact hj.unannounced

/-- An accepted connection keeps the invariant. -/
theorem Guarded.enrols (hx : Guarded jwt publicJwtKey identityOf x) (h : Enrols x x' id) :
    Guarded jwt publicJwtKey identityOf x' where
  fresh := by
    intro j hj t ht
    rw [h.service] at ht
    by_cases hne : j = id
    · -- the new session begins with a buffer of zeros
      subst hne
      obtain rfl : ({} : TunnelSession) = t :=
        Option.some.inj (List.lookup_cons_self.symm.trans ht)
      rfl
    · rw [h.peeking] at hj
      apply hx.fresh j (Finset.mem_of_mem_insert_of_ne hj hne)
      show x.service.tunnels.lookup j = some t
      rw [← ht]
      show _ = ((id, {}) :: x.service.tunnels).lookup j
      rw [List.lookup_cons, beq_eq_false_iff_ne.mpr hne]
  waiting := by
    intro j hj
    rw [h.accepted, h.firstRead, h.effects]
    rw [h.peeking] at hj
    rcases Finset.mem_insert.mp hj with rfl | hold
    · obtain ⟨-, hchunk, hinform⟩ := hx.unknown j h.fresh
      exact ⟨Finset.mem_insert_self _ _, hchunk, hinform⟩
    · obtain ⟨haccepted, hchunk, hinform⟩ := hx.waiting j hold
      exact ⟨Finset.mem_insert_of_mem haccepted, hchunk, hinform⟩
  unknown := by
    intro j hj
    rw [h.accepted, Finset.mem_insert, not_or] at hj
    rw [h.capturedBy hj.1, h.firstRead, h.effects]
    exact hx.unknown j hj.2
  linking := by
    intro p hp t ht client publisher hlinking
    rw [h.handlers] at hp
    obtain ⟨hauthorised, hsilent⟩ := hx.linking p hp t ht client publisher hlinking
    -- a publisher side has been accepted before, so it is not the new session
    have hne : publisher ≠ id := by
      rintro rfl
      exact h.fresh hsilent.accepted
    exact ⟨hauthorised.of_eq (h.capturedBy hne) (h.firstRead publisher), hsilent.enrols h⟩

/-- An event of the acceptor. -/
theorem acceptor_step {e : AcceptEvent} {loop : AcceptLoop} (he : ∀ s, e ≠ .session s)
    (h : x.loop.step e = some loop) :
    Moves jwt publicJwtKey identityOf x { x with loop := loop } ∨
      ∃ id, Enrols x { x with loop := loop } id := by
  cases AcceptLoop.step_admits he h with
  | nobody hsessions hcaptured =>
    refine .inl ⟨?_, hcaptured, ?_, fun _ => .inl rfl, ?_, ?_, ?_⟩
    · rw [hsessions]
    · rw [hsessions]
    · intro j _ after hafter
      rw [service, hsessions] at hafter
      exact ⟨after, hafter, rfl⟩
    · intro j hj
      rw [service, hsessions] at hj
      exact .inl hj
    · exact fun p hp t ht client publisher hlinking => .inl ⟨p, hp, t, ht, hlinking⟩
  | @session id control hsessions hcaptured =>
    simp only [ServiceRun.step, Option.ite_none_left_eq_some, Option.some.injEq] at hsessions
    obtain ⟨hfresh, hsessions⟩ := hsessions
    refine .inr ⟨id, hfresh, ?_, ?_, ?_, ⟨control, hcaptured⟩, rfl, rfl⟩
    · show loop.sessions.service = _
      rw [← hsessions]
      rfl
    · show loop.sessions.accepted = _
      rw [← hsessions]
    · show loop.sessions.peeking = _
      rw [← hsessions]

/-- **One event.**  It completes a read at most, or adds a session. -/
theorem step_moves (hnul : RejectsNul jwt publicJwtKey)
    (hx : Guarded jwt publicJwtKey identityOf x) {e : TrafficEvent}
    (h : x.step jwt publicJwtKey identityOf e = some x') :
    Moves jwt publicJwtKey identityOf x x' ∨ ∃ id, Enrols x x' id := by
  cases e with
  | acceptor e =>
    cases e with
    | session e => cases h
    | _ =>
      obtain ⟨loop, hloop, rfl⟩ := Option.map_eq_some_iff.mp h
      exact acceptor_step (fun s hs => by cases hs) hloop
  | peeked id controlAlive ec chunk now =>
    simp only [step, Option.ite_none_right_eq_some, Option.some.injEq] at h
    obtain ⟨⟨-, hid, hlength⟩, rfl⟩ := h
    exact .inl (moves_peeked hnul hx hid hlength controlAlive ec now)
  | wrote source target ec =>
    simp only [step, Option.ite_none_right_eq_some, Option.some.injEq] at h
    obtain ⟨-, rfl⟩ := h
    exact .inl moves_wrote
  | close id =>
    simp only [step, Option.ite_none_right_eq_some, Option.some.injEq] at h
    obtain ⟨-, rfl⟩ := h
    exact .inl moves_close
  | turn i =>
    simp only [step] at h
    split at h
    · next t ts hi =>
      obtain rfl := Option.some.inj h
      exact .inl (moves_turn hi)
    · cases h

theorem Guarded.step (hnul : RejectsNul jwt publicJwtKey)
    (hx : Guarded jwt publicJwtKey identityOf x) {e : TrafficEvent}
    (h : x.step jwt publicJwtKey identityOf e = some x') :
    Guarded jwt publicJwtKey identityOf x' := by
  rcases step_moves hnul hx h with hmoves | ⟨id, henrols⟩
  · exact hx.moves hmoves
  · exact hx.enrols henrols

theorem Silent.step (hnul : RejectsNul jwt publicJwtKey)
    (hx : Guarded jwt publicJwtKey identityOf x) (hid : x.Silent id) {e : TrafficEvent}
    (h : x.step jwt publicJwtKey identityOf e = some x') : x'.Silent id := by
  rcases step_moves hnul hx h with hmoves | ⟨j, henrols⟩
  · exact hid.moves hmoves
  · exact hid.enrols henrols

/-- At the start nothing is known and nothing runs. -/
theorem guarded_begin (setup : AcceptorSetup) :
    Guarded jwt publicJwtKey identityOf (begin setup) := by
  obtain ⟨hsessions, hcaptured⟩ := AcceptLoop.start_sessions (l := {}) setup
  have hpeeking : (begin setup).loop.sessions.peeking = ∅ := by
    show ((AcceptLoop.start {} setup).1).sessions.peeking = ∅
    rw [hsessions]
  refine ⟨?_, ?_, ?_, ?_⟩
  · intro id hid
    rw [hpeeking] at hid
    exact absurd hid (Finset.notMem_empty id)
  · intro id hid
    rw [hpeeking] at hid
    exact absurd hid (Finset.notMem_empty id)
  · refine fun id _ => ⟨?_, rfl, ?_⟩
    · show ((AcceptLoop.start {} setup).1).captured.lookup id = none
      rw [hcaptured]
      rfl
    · show .inform id ∉ ((AcceptLoop.start {} setup).1).sessions.service.effects
      rw [hsessions]
      exact List.not_mem_nil
  · exact fun p hp => absurd hp List.not_mem_nil

/-- Only a turn executes `link`, by the task that links the two sides. -/
theorem link_step {e : TrafficEvent} (h : x.step jwt publicJwtKey identityOf e = some x')
    (hlink : x'.service.effects = x.service.effects ++ [.link client publisher]) :
    (∃ p ∈ x.handlers, ∃ t ∈ p, Service.linking t = some (client, publisher)) ∧
      client ∈ x.service.sessions ∧ publisher ∈ x.service.sessions := by
  -- what records nothing executes no `link`
  have hrecords : x'.service.effects ≠ x.service.effects := by
    rw [hlink]
    simp
  cases e with
  | acceptor e =>
    cases e with
    | session e => cases h
    | _ =>
      obtain ⟨loop, hloop, rfl⟩ := Option.map_eq_some_iff.mp h
      refine absurd ?_ hrecords
      cases AcceptLoop.step_admits (fun s hs => by cases hs) hloop with
      | nobody hsessions =>
        show loop.sessions.service.effects = _
        rw [hsessions]
        rfl
      | session hsessions =>
        simp only [ServiceRun.step, Option.ite_none_left_eq_some, Option.some.injEq] at hsessions
        show loop.sessions.service.effects = _
        rw [← hsessions.2]
        rfl
  | peeked id controlAlive ec chunk now =>
    simp only [step, Option.ite_none_right_eq_some, Option.some.injEq] at h
    obtain ⟨-, rfl⟩ := h
    have hpeeked := x.service.peeked_by id
      ((if controlAlive then x.capturedBy id else none).map
        (controlView jwt publicJwtKey identityOf now)) ec chunk
    rcases hpeeked.effects with hsame | hinform
    · exact absurd hsame hrecords
    · -- what a first read records is an announcement
      have heq := hinform.symm.trans hlink
      rw [List.append_cancel_left_eq] at heq
      cases heq
  | wrote source target ec =>
    simp only [step, Option.ite_none_right_eq_some, Option.some.injEq] at h
    obtain ⟨-, rfl⟩ := h
    exact absurd rfl hrecords
  | close id =>
    simp only [step, Option.ite_none_right_eq_some, Option.some.injEq] at h
    obtain ⟨-, rfl⟩ := h
    exact absurd rfl hrecords
  | turn i =>
    simp only [step] at h
    split at h
    · next t ts hi =>
      obtain rfl := Option.some.inj h
      obtain ⟨hlinking, hmem⟩ := Service.link_performed hlink
      exact ⟨⟨t :: ts, List.mem_of_getElem? hi, t, List.mem_cons_self, hlinking⟩, hmem⟩
    · cases h

/-- **Only an authorised publisher side is linked.**  In every run under connections of anybody,
    whenever `link` is executed both sides are in the table of the service, the publisher side is
    authorised for that client, and it is not announced before, then or later. -/
theorem link_authorised (hnul : RejectsNul jwt publicJwtKey) {setup : AcceptorSetup}
    {events rest : List TrafficEvent} {e : TrafficEvent} {u v : Traffic}
    (hrun : run (step jwt publicJwtKey identityOf) (begin setup) events = some u)
    (hstep : u.step jwt publicJwtKey identityOf e = some v)
    (hlink : v.service.effects = u.service.effects ++ [.link client publisher])
    (hrest : run (step jwt publicJwtKey identityOf) v rest = some x) :
    u.Authorised jwt publicJwtKey identityOf client publisher ∧
      client ∈ u.service.sessions ∧ publisher ∈ u.service.sessions ∧
      .inform publisher ∉ x.service.effects := by
  have hu : Guarded jwt publicJwtKey identityOf u :=
    run_preserves (fun _ _ _ hs h => hs.step hnul h) (guarded_begin setup) hrun
  obtain ⟨⟨p, hp, t, ht, hlinking⟩, hclient, hpublisher⟩ := link_step hstep hlink
  obtain ⟨hauthorised, hsilent⟩ := hu.linking p hp t ht client publisher hlinking
  refine ⟨hauthorised, hclient, hpublisher, ?_⟩
  -- silence is kept by the rest of the run
  have hkept : Guarded jwt publicJwtKey identityOf x ∧ x.Silent publisher := by
    refine run_preserves (I := fun x => Guarded jwt publicJwtKey identityOf x ∧
      x.Silent publisher) ?_ ⟨hu.step hnul hstep, hsilent.step hnul hu hstep⟩ hrest
    rintro s e s' ⟨hs, hsilent⟩ h
    exact ⟨hs.step hnul h, hsilent.step hnul hs h⟩
  exact hkept.2.unannounced

/-! ### A publisher side that is linked -/

/-- A signature scheme with one valid token, of `pub` and for the client `c`. -/
def jwtNamingC : Jwt Bytes where
  sign _ _ := tokenNaming "c"
  decode tokenData :=
    if tokenData = tokenNaming "c" then
      some ((((∅ : ClaimMap).assign "iss" (.string "tunnelBore")).assign
        "identity" (.string "pub")).assign "tunnelId" (.string "c"))
    else none
  signatureValid _ tokenData := tokenData = tokenNaming "c"
  datesAccepted _ _ _ _ := true

/-- A client and a publisher side connect to a service whose publisher has a control session,
    and the handler of the publisher side is about to link. -/
def eventsBeforeLink : List TrafficEvent :=
  [.acceptor (.completed (.accepted ⟨some (some 0), true, "c", true⟩)),
    .acceptor (.completed (.accepted ⟨some (some 0), true, "p", true⟩)),
    .peeked "c" true false (asciiString "x") 0,
    .peeked "p" true false (chunkNaming "c") 0,
    .turn 1, .turn 1]

/-- It links an authorised publisher side. -/
theorem link_authorised_namingC :
    ∃ u, run (step jwtNamingC "key" fun _ => "pub") (begin {}) eventsBeforeLink = some u ∧
      u.Authorised jwtNamingC "key" (fun _ => "pub") "c" "p" := by
  have hnul : RejectsNul jwtNamingC "key" := by
    intro tokenData hzero
    refine decide_eq_false ?_
    rintro rfl
    exact absurd hzero (by decide)
  have hsome : (run (step jwtNamingC "key" fun _ => "pub") (begin {})
      (eventsBeforeLink ++ [.turn 1])).isSome = true := by decide +kernel
  obtain ⟨v, hv⟩ := Option.isSome_iff_exists.mp hsome
  have hsplit := hv
  rw [run_append] at hsplit
  obtain ⟨u, hu, htail⟩ := Option.bind_eq_some_iff.mp hsplit
  obtain ⟨w, hw, rfl⟩ : ∃ w, u.step jwtNamingC "key" (fun _ => "pub") (.turn 1) = some w ∧
      w = v := by simpa using htail
  have heffects : ((run (step jwtNamingC "key" fun _ => "pub") (begin {})
        (eventsBeforeLink ++ [.turn 1])).map fun x => x.service.effects) =
      (run (step jwtNamingC "key" fun _ => "pub") (begin {}) eventsBeforeLink).map
        fun x => x.service.effects ++ [.link "c" "p"] := by decide +kernel
  rw [hv, hu, Option.map_some, Option.map_some, Option.some.injEq] at heffects
  have hrest : run (step jwtNamingC "key" fun _ => "pub") w [] = some w := rfl
  exact ⟨u, hu, (link_authorised hnul hu hw heffects hrest).1⟩

end Traffic

end TunnelBore.Broker
