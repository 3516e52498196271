import Mathlib.Algebra.Order.Group.Nat
import TunnelBore.Lib.Total
import TunnelBore.TypeScript.FirstData

namespace TunnelBore.TypeScript

open TunnelBore.Lib

/-!
# Where the sockets of the broker are

A socket that is accepted waits for its first data, is a side of a session, is destroyed with its
session or is ended.  The handlers move it from one place to the next.

* `Publisher.places` — in how many places a socket is;
* `Publisher.sides` — how often it waits or was written initial data to;
* `Moves` — what a handler may do to both, with one lemma for each handler;
* `socket_once` — in every run a socket is in one place at most: it is a side of one session only,
  it is destroyed once, and initial data is written to it once.
-/

variable {uuid : Nat → String} {parse : Bytes → Option Json} {keyOf : Json → Option String}

namespace PublishedService

/-- How often a socket is a side of a session of the service. -/
def holds (s : SocketId) (service : PublishedService) : Nat :=
  total (fun session => session.sockets.count s) service.sessions

end PublishedService

namespace Publisher

variable (p : Publisher) (s : SocketId)

/-- How often a socket is a side of a session. -/
def holds : Nat := total (PublishedService.holds s) p.services

/-- In how many places a socket is. -/
def places : Nat := p.waiting.keys.count s + p.holds s + p.freed.count s + p.ended.count s

/-- How often a socket waits or was written initial data to. -/
def sides : Nat := p.waiting.keys.count s + (p.written.map Prod.fst).count s

end Publisher

/-- What a handler may do with a socket: it is in `n` places more, or less. -/
structure Moves (s : SocketId) (n : Nat) (p p' : Publisher) : Prop where
  places : p'.places s ≤ p.places s + n
  sides : p'.sides s ≤ p.sides s + n

variable {p p' q : Publisher} {s socket : SocketId} {n m : Nat} {service : PublishedService}
variable {serviceId tunnelId : String}

theorem Moves.refl (s : SocketId) (p : Publisher) : Moves s 0 p p := ⟨le_rfl, le_rfl⟩

theorem Moves.trans (h : Moves s n p q) (h' : Moves s m q p') : Moves s (n + m) p p' :=
  ⟨h'.places.trans (by have := h.places; omega), h'.sides.trans (by have := h.sides; omega)⟩

theorem Moves.mono (h : Moves s n p q) (hle : n ≤ m) : Moves s m p q :=
  ⟨h.places.trans (by omega), h.sides.trans (by omega)⟩

/-! ### Sessions -/

/-- An own property is found in the table. -/
theorem lookup_of_property {α : Type} {object : PlainObject α} {key : String} {value : α}
    (h : property object key = .own value) : object.lookup key = some value := by
  unfold property at h
  cases hlookup : object.lookup key with
  | some found =>
    rw [hlookup] at h
    exact congrArg some (Property.own.inj h)
  | none =>
    simp only [hlookup] at h
    by_cases hkey : key ∈ prototypeKeys
    · rw [if_pos hkey] at h
      cases h
    · rw [if_neg hkey] at h
      cases h

/-- `freeSession` hands out the sockets of the session. -/
theorem holds_freeSession {service' : PublishedService} {sockets : List SocketId}
    (h : service.freeSession tunnelId = some (service', sockets)) (s : SocketId) :
    service'.holds s + sockets.count s = service.holds s := by
  unfold PublishedService.freeSession at h
  split at h
  · obtain ⟨rfl, rfl⟩ := Prod.mk.inj (Option.some.inj h)
    rfl
  · cases h
  · next session hown =>
    obtain ⟨rfl, rfl⟩ := Prod.mk.inj (Option.some.inj h)
    unfold PublishedService.holds
    rw [total_of_lookup (lookup_of_property hown), Nat.add_comm]

/-- So does `freeAll`, for all sessions. -/
theorem count_freeAll (service : PublishedService) (s : SocketId) :
    service.freeAll.count s = service.holds s := by
  unfold PublishedService.freeAll PublishedService.holds total
  rw [List.count_flatMap]
  rfl

/-- A service whose sessions change. -/
theorem holds_insert {service' : PublishedService} (h : p.services.lookup serviceId = some service)
    (s : SocketId) :
    total (PublishedService.holds s) (p.services.insert serviceId service') + service.holds s =
      p.holds s + service'.holds s := by
  unfold Publisher.holds
  rw [total_insert, total_of_lookup h]
  omega

/-- The sockets of a session that is freed are to be destroyed. -/
theorem places_freeSession {service' : PublishedService} {sockets : List SocketId}
    (hservice : p.services.lookup serviceId = some service)
    (hfree : service'.holds s + sockets.count s = service.holds s) :
    Publisher.places { p with
      services := p.services.insert serviceId service'
      freed := p.freed ++ sockets } s = p.places s := by
  have hmoved : total (PublishedService.holds s) (p.services.insert serviceId service') +
      service.holds s = p.holds s + service'.holds s := holds_insert hservice s
  show p.waiting.keys.count s + total (PublishedService.holds s)
      (p.services.insert serviceId service') + (p.freed ++ sockets).count s + p.ended.count s =
    p.waiting.keys.count s + p.holds s + p.freed.count s + p.ended.count s
  rw [List.count_append]
  omega

/-- A session that was deleted is not there to be deleted once more. -/
theorem erase_freeSession {service' : PublishedService} {sockets : List SocketId}
    (h : service.freeSession tunnelId = some (service', sockets)) :
    service'.sessions.erase tunnelId = service'.sessions := by
  refine erase_of_lookup_eq_none ?_
  unfold PublishedService.freeSession at h
  split at h
  · next hundefined =>
    obtain ⟨rfl, rfl⟩ := Prod.mk.inj (Option.some.inj h)
    cases hlookup : service.sessions.lookup tunnelId with
    | none => rfl
    | some session =>
      rw [property_of_some hlookup] at hundefined
      cases hundefined
  · cases h
  · obtain ⟨rfl, rfl⟩ := Prod.mk.inj (Option.some.inj h)
    exact AList.lookup_erase _ _

theorem places_onSessionFailed :
    (p.onSessionFailed serviceId tunnelId).publisher.places s = p.places s := by
  have hfailed : (p.freeSessionForService serviceId tunnelId).publisher.places s = p.places s := by
    unfold Publisher.freeSessionForService
    split
    · rfl
    · rfl
    · next service hservice =>
      split
      · rfl
      · next service' sockets hfree =>
        refine places_freeSession (lookup_of_property hservice) ?_
        rw [← holds_freeSession hfree s]
        unfold PublishedService.holds
        rw [erase_freeSession hfree]
  unfold Publisher.onSessionFailed
  split
  · rfl
  · exact hfailed

theorem places_onPublisherClose :
    (p.onPublisherClose serviceId tunnelId).publisher.places s = p.places s := by
  unfold Publisher.onPublisherClose
  split
  · rfl
  · next service hservice =>
    split
    · rfl
    · next service' sockets hfree => exact places_freeSession hservice (holds_freeSession hfree s)

/-- Nothing is written when a session is freed. -/
theorem sides_onSessionFailed (s : SocketId) :
    (p.onSessionFailed serviceId tunnelId).publisher.sides s = p.sides s := by
  unfold Publisher.onSessionFailed Publisher.freeSessionForService
  split
  · rfl
  · split
    · rfl
    · rfl
    · split
      · rfl
      · rfl

theorem sides_onPublisherClose (s : SocketId) :
    (p.onPublisherClose serviceId tunnelId).publisher.sides s = p.sides s := by
  unfold Publisher.onPublisherClose
  split
  · rfl
  · split
    · rfl
    · rfl

/-! ### Services -/

/-- The sockets of all sessions are to be destroyed. -/
theorem places_clearServices : p.clearServices.places s = p.places s := by
  have hfreed : (p.services.entries.flatMap fun entry => entry.2.freeAll).count s = p.holds s := by
    rw [List.count_flatMap]
    unfold Publisher.holds total
    exact congrArg List.sum (List.map_congr_left fun entry _ => count_freeAll entry.2 s)
  show p.waiting.keys.count s + 0 +
      (p.freed ++ p.services.entries.flatMap fun entry => entry.2.freeAll).count s +
      p.ended.count s = p.waiting.keys.count s + p.holds s + p.freed.count s + p.ended.count s
  rw [List.count_append, hfreed]
  omega

/-- What a new service is inserted into. -/
theorem addService_cases (p : Publisher) (info : ServiceInfo) :
    p.addService uuid info = { p with generated := p.generated + 1 } ∨
      ∃ service acceptors, PublishedService.sessions service = ∅ ∧
        p.addService uuid info = { p with
          generated := p.generated + 2
          acceptors := acceptors
          services := p.services.insert (uuid p.generated) service } := by
  unfold Publisher.addService Publisher.makeAcceptor
  by_cases hlimit : p.limit ≤ p.acceptors.length
  · refine .inl ?_
    simp only [hlimit, if_true]
  · simp only [hlimit, if_false]
    exact .inr ⟨_, _, rfl, rfl⟩

/-- A new service has no sessions. -/
theorem moves_addService (info : ServiceInfo) : Moves s 0 p (p.addService uuid info) := by
  rcases addService_cases p info with hsame | ⟨service, acceptors, hsessions, hadded⟩
  · rw [hsame]
    exact ⟨le_rfl, le_rfl⟩
  · rw [hadded]
    refine ⟨?_, le_rfl⟩
    have hholds : total (PublishedService.holds s) (p.services.insert (uuid p.generated) service) ≤
        service.holds s + p.holds s := total_insert_le _ _
    have hempty : service.holds s = 0 := by
      unfold PublishedService.holds
      rw [hsessions]
      rfl
    show p.waiting.keys.count s + total (PublishedService.holds s)
        (p.services.insert (uuid p.generated) service) + p.freed.count s + p.ended.count s ≤
      p.waiting.keys.count s + p.holds s + p.freed.count s + p.ended.count s + 0
    omega

theorem moves_setServices (infos : List ServiceInfo) : Moves s 0 p (p.setServices uuid infos) := by
  have hfold : ∀ q, Moves s 0 q (infos.foldl (fun q info => q.addService uuid info) q) := by
    induction infos with
    | nil => exact fun q => Moves.refl s q
    | cons info infos ih => exact fun q => (moves_addService info).trans (ih _)
  have hcleared : Moves s 0 p p.clearServices := ⟨places_clearServices.le, le_rfl⟩
  exact hcleared.trans (hfold _)

/-! ### Sockets that arrive -/

/-- A socket that is accepted is ended, or waits. -/
theorem moves_onConnect (sameAddress : Option Bool) :
    Moves s ([socket].count s) p (p.onConnect serviceId socket sameAddress).publisher := by
  -- the address of the socket may be one that cannot be parsed
  have hkept : Moves s ([socket].count s) p p := (Moves.refl s p).mono (Nat.zero_le _)
  have hwaits : ∀ accepted, Moves s ([socket].count s) p
      { p with waiting := p.waiting.insert socket accepted } := by
    intro accepted
    have hkeys : (p.waiting.insert socket accepted).keys.count s ≤
        [socket].count s + p.waiting.keys.count s := by
      rw [AList.keys_insert, ← List.singleton_append, List.count_append]
      exact Nat.add_le_add_left (List.erase_sublist.count_le s) _
    constructor
    · show (p.waiting.insert socket accepted).keys.count s + p.holds s + p.freed.count s +
        p.ended.count s ≤ p.waiting.keys.count s + p.holds s + p.freed.count s +
        p.ended.count s + [socket].count s
      omega
    · show (p.waiting.insert socket accepted).keys.count s + (p.written.map Prod.fst).count s ≤
        p.waiting.keys.count s + (p.written.map Prod.fst).count s + [socket].count s
      omega
  unfold Publisher.onConnect
  split
  · refine ⟨?_, Nat.le_add_right _ _⟩
    show p.waiting.keys.count s + p.holds s + p.freed.count s + (p.ended ++ [socket]).count s ≤
      p.waiting.keys.count s + p.holds s + p.freed.count s + p.ended.count s + [socket].count s
    rw [List.count_append]
    omega
  · split
    · exact hkept
    · exact hwaits _

/-- A socket whose listener was called does not wait any more. -/
theorem moves_unlisten {accepted : String × Bool} (h : p.waiting.lookup socket = some accepted)
    (hp : Moves s ([socket].count s) (p.unlisten socket) q) : Moves s 0 p q := by
  have hmem : socket ∈ p.waiting.keys := AList.mem_keys.mp (AList.lookup_isSome.mp (by
    rw [h]
    rfl))
  have hkeys : (p.waiting.erase socket).keys.count s + [socket].count s =
      p.waiting.keys.count s := by
    rw [AList.keys_erase, Nat.add_comm, ← List.count_append]
    exact (List.perm_cons_erase hmem).symm.count_eq s
  have hplaces := hp.places
  have hsides := hp.sides
  change _ ≤ (p.waiting.erase socket).keys.count s + p.holds s + p.freed.count s +
    p.ended.count s + [socket].count s at hplaces
  change _ ≤ (p.waiting.erase socket).keys.count s + (p.written.map Prod.fst).count s +
    [socket].count s at hsides
  constructor
  · show q.places s ≤ p.waiting.keys.count s + p.holds s + p.freed.count s + p.ended.count s + 0
    omega
  · show q.sides s ≤ p.waiting.keys.count s + (p.written.map Prod.fst).count s + 0
    omega

/-- A session is added to a service, or takes the place of another one. -/
theorem Moves.addSession {service' : PublishedService}
    (hservice : p.services.lookup serviceId = some service)
    (hadded : service'.holds s ≤ service.holds s + n) :
    Moves s n p { p with services := p.services.insert serviceId service' } := by
  refine ⟨?_, Nat.le_add_right _ _⟩
  have hmoved : total (PublishedService.holds s) (p.services.insert serviceId service') +
      service.holds s = p.holds s + service'.holds s := holds_insert hservice s
  show p.waiting.keys.count s + total (PublishedService.holds s)
      (p.services.insert serviceId service') + p.freed.count s + p.ended.count s ≤
    p.waiting.keys.count s + p.holds s + p.freed.count s + p.ended.count s + n
  omega

/-- A client becomes a side of a new session. -/
theorem moves_doInitialConnect (initialData : Bytes) :
    Moves s ([socket].count s) p
      (p.doInitialConnect uuid serviceId socket initialData).publisher := by
  have hkept : Moves s ([socket].count s) p p := (Moves.refl s p).mono (Nat.zero_le _)
  unfold Publisher.doInitialConnect
  split
  · exact hkept
  · exact ⟨hkept.places, hkept.sides⟩
  · next service hservice =>
    have hadded : PublishedService.holds s { service with
        sessions := service.sessions.insert (uuid p.generated) ⟨socket, none, initialData⟩ } ≤
          service.holds s + [socket].count s := by
      rw [Nat.add_comm]
      exact total_insert_le _ _
    have hmoves := Moves.addSession (lookup_of_property hservice) hadded
    exact ⟨hmoves.places, hmoves.sides⟩

/-- A publisher side joins a session that is half open. -/
theorem moves_doPublisherConnect (tunnelId' tokenId : Json) :
    Moves s ([socket].count s) p
      (p.doPublisherConnect keyOf socket tunnelId' tokenId).publisher := by
  have hkept : Moves s ([socket].count s) p p := (Moves.refl s p).mono (Nat.zero_le _)
  unfold Publisher.doPublisherConnect
  split
  · exact hkept
  · split
    · exact hkept
    · exact hkept
    · next service hservice =>
      split
      · exact hkept
      · next id _ =>
        unfold Publisher.addSocketToHalfOpenSession
        split
        · next session hsession =>
          split
          · next hhalf =>
            -- the session had one side, and now it has two
            have hnone : session.publisherSocket = none := Option.isNone_iff_eq_none.mp hhalf
            have hadded : PublishedService.holds s { service with
                sessions := service.sessions.insert id
                  { session with publisherSocket := some socket } } ≤
                    service.holds s + [socket].count s := by
              unfold PublishedService.holds
              rw [total_insert, total_of_lookup (lookup_of_property hsession)]
              have hsides : (Session.sockets { session with publisherSocket := some socket }).count
                  s = session.sockets.count s + [socket].count s := by
                unfold Session.sockets
                rw [hnone, ← List.count_append]
                rfl
              rw [hsides]
              omega
            have hmoves := Moves.addSession (lookup_of_property hservice) hadded
            refine ⟨hmoves.places, ?_⟩
            show p.waiting.keys.count s +
                ((p.written ++ [(socket, session.initialData)]).map Prod.fst).count s ≤
              p.waiting.keys.count s + (p.written.map Prod.fst).count s + [socket].count s
            rw [List.map_append, List.count_append]
            exact le_of_eq (Nat.add_assoc _ _ _).symm
          · exact hkept
        · exact hkept

theorem moves_onData {sameAddress : Bool} {peekBuffer : Bytes}
    (h : p.waiting.lookup socket = some (serviceId, sameAddress)) :
    Moves s 0 p (p.onData uuid parse keyOf socket serviceId sameAddress peekBuffer).publisher := by
  refine moves_unlisten h ?_
  unfold Publisher.onData
  simp only
  split
  · exact moves_doInitialConnect peekBuffer
  · next tunnelId' tokenId _ =>
    split
    · next hthrew =>
      -- after the exception nothing has changed
      have hsame := (doPublisherConnect_frame keyOf tunnelId' tokenId).2.2 hthrew
      show Moves s _ _ (Publisher.doInitialConnect uuid _ serviceId socket peekBuffer).publisher
      rw [hsame]
      exact moves_doInitialConnect peekBuffer
    · exact moves_doPublisherConnect tunnelId' tokenId

/-! ### Runs -/

/-- The sockets that an event accepts. -/
def Event.accepts : Event → List SocketId
  | .accepted _ socket _ => [socket]
  | _                    => []

/-- **Every event** moves the sockets that are there, and adds the one it accepts. -/
theorem moves_step {e : Event} (h : p.step uuid parse keyOf e = some p') :
    Moves s (e.accepts.count s) p p' := by
  unfold Publisher.step at h
  split at h
  · cases h
  · obtain ⟨handled, hhandled, rfl⟩ := Option.map_eq_some_iff.mp h
    -- that the process has ended is not a place
    suffices hmoves : Moves s (e.accepts.count s) p handled.publisher from
      ⟨hmoves.places, hmoves.sides⟩
    cases e with
    | accepted serviceId socket sameAddress =>
      obtain rfl := Option.some.inj hhandled
      exact moves_onConnect sameAddress
    | data socket peekBuffer =>
      obtain ⟨⟨serviceId, sameAddress⟩, hwaiting, rfl⟩ := Option.map_eq_some_iff.mp hhandled
      exact moves_onData hwaiting
    | services infos =>
      obtain rfl := Option.some.inj hhandled
      exact moves_setServices infos
    | newTunnelFailed serviceId tunnelId =>
      obtain rfl := Option.some.inj hhandled
      exact ⟨places_onSessionFailed.le, (sides_onSessionFailed s).le⟩
    | publisherClosed socket =>
      obtain ⟨session, -, rfl⟩ := Option.map_eq_some_iff.mp hhandled
      exact ⟨places_onPublisherClose.le, (sides_onPublisherClose s).le⟩
    | listenFailed acceptor =>
      obtain rfl := Option.some.inj hhandled
      exact ⟨le_rfl, le_rfl⟩
    | controlClosed =>
      obtain rfl := Option.some.inj hhandled
      have hcleared : p.clearServices.places s = p.places s := places_clearServices
      exact ⟨hcleared.le, le_rfl⟩

/-- What a run has done with a socket. -/
theorem moves_run {events : List Event} (hrun : run (Publisher.step uuid parse keyOf) p events =
    some p') (s : SocketId) : Moves s ((events.flatMap Event.accepts).count s) p p' := by
  induction events generalizing p with
  | nil =>
    obtain rfl := Option.some.inj hrun
    exact Moves.refl s p
  | cons e events ih =>
    obtain ⟨q, hq, htail⟩ := Option.bind_eq_some_iff.mp hrun
    rw [List.flatMap_cons, List.count_append]
    exact (moves_step hq).trans (ih htail)

/-- **A socket is in one place.**  In every run in which no socket is accepted twice, a socket
    waits for its first data, is a side of one session, is to be destroyed once or was ended once,
    and not two of these; and initial data is written to it at most once, and not before its
    first data has come. -/
theorem socket_once {limit : Nat} {events : List Event}
    (hrun : run (Publisher.step uuid parse keyOf) (start limit) events = some p)
    (hfresh : (events.flatMap Event.accepts).Nodup) (s : SocketId) :
    p.places s ≤ 1 ∧ p.sides s ≤ 1 := by
  have hmoves := moves_run hrun s
  have honce : (events.flatMap Event.accepts).count s ≤ 1 := List.nodup_iff_count_le_one.mp hfresh s
  have hplaces : p.places s ≤ 0 + (events.flatMap Event.accepts).count s := hmoves.places
  have hsides : p.sides s ≤ 0 + (events.flatMap Event.accepts).count s := hmoves.sides
  omega

/-! ### Nothing is lost -/

/-- Keys that will be generated are new: for services, and for the sessions of each service. -/
structure Keyed (uuid : Nat → String) (p : Publisher) : Prop where
  services : ∀ k, p.generated ≤ k → p.services.lookup (uuid k) = none
  sessions : ∀ id service, p.services.lookup id = some service → ∀ k, p.generated ≤ k →
    service.sessions.lookup (uuid k) = none

theorem keyed_start (limit : Nat) : Keyed uuid (start limit) where
  services _ _ := rfl
  sessions _ _ h := by cases h

/-- Services whose sessions were all there before keep new keys new. -/
theorem Keyed.insert (hp : Keyed uuid p) {service' : PublishedService}
    (hservice : p.services.lookup serviceId = some service)
    (hgenerated : p.generated ≤ p'.generated)
    (hservices : p'.services = p.services.insert serviceId service')
    (hnew : ∀ k, p'.generated ≤ k → service'.sessions.lookup (uuid k) = none) :
    Keyed uuid p' := by
  constructor
  · intro k hk
    have hbefore := hp.services k (hgenerated.trans hk)
    have hne : uuid k ≠ serviceId := by
      rintro rfl
      rw [hservice] at hbefore
      cases hbefore
    rw [hservices, AList.lookup_insert_ne hne]
    exact hbefore
  · intro id found hfound k hk
    rw [hservices] at hfound
    by_cases hid : id = serviceId
    · subst hid
      rw [AList.lookup_insert] at hfound
      obtain rfl := Option.some.inj hfound
      exact hnew k hk
    · rw [AList.lookup_insert_ne hid] at hfound
      exact hp.sessions id found hfound k (hgenerated.trans hk)

/-- A change that leaves the services alone, or only generates more. -/
theorem Keyed.congr (hp : Keyed uuid p) (hgenerated : p.generated ≤ p'.generated)
    (hservices : p'.services = p.services) : Keyed uuid p' := by
  constructor
  · intro k hk
    rw [hservices]
    exact hp.services k (hgenerated.trans hk)
  · intro id service hservice k hk
    rw [hservices] at hservice
    exact hp.sessions id service hservice k (hgenerated.trans hk)

theorem lookup_erase_eq_none {α : Type} {object : PlainObject α} {key other : String}
    (h : object.lookup key = none) : (object.erase other).lookup key = none := by
  by_cases hkey : key = other
  · rw [hkey, AList.lookup_erase]
  · rw [AList.lookup_erase_ne hkey, h]

/-- Freeing a session leaves new keys new. -/
theorem lookup_freeSession {service' : PublishedService} {sockets : List SocketId}
    (h : service.freeSession tunnelId = some (service', sockets)) {key : String}
    (hnew : service.sessions.lookup key = none) : service'.sessions.lookup key = none := by
  unfold PublishedService.freeSession at h
  split at h
  · obtain ⟨rfl, rfl⟩ := Prod.mk.inj (Option.some.inj h)
    exact hnew
  · cases h
  · obtain ⟨rfl, rfl⟩ := Prod.mk.inj (Option.some.inj h)
    exact lookup_erase_eq_none hnew

theorem keyed_onSessionFailed (hp : Keyed uuid p) :
    Keyed uuid (p.onSessionFailed serviceId tunnelId).publisher := by
  have hfailed : Keyed uuid (p.freeSessionForService serviceId tunnelId).publisher := by
    unfold Publisher.freeSessionForService
    split
    · exact hp
    · exact hp
    · next service hservice =>
      split
      · exact hp
      · next service' sockets hfree =>
        have hfound := lookup_of_property hservice
        refine hp.insert hfound le_rfl rfl fun k hk => ?_
        exact lookup_erase_eq_none
          (lookup_freeSession hfree (hp.sessions serviceId service hfound k hk))
  unfold Publisher.onSessionFailed
  split
  · exact hp
  · exact hfailed

theorem keyed_onPublisherClose (hp : Keyed uuid p) :
    Keyed uuid (p.onPublisherClose serviceId tunnelId).publisher := by
  unfold Publisher.onPublisherClose
  split
  · exact hp
  · next service hservice =>
    split
    · exact hp
    · next service' sockets hfree =>
      exact hp.insert hservice le_rfl rfl fun k hk =>
        lookup_freeSession hfree (hp.sessions serviceId service hservice k hk)

/-- A new service is in no place of another one. -/
theorem kept_addService (huuid : Function.Injective uuid) (hp : Keyed uuid p)
    (info : ServiceInfo) :
    (p.addService uuid info).places s = p.places s ∧ Keyed uuid (p.addService uuid info) := by
  rcases addService_cases p info with hsame | ⟨service, acceptors, hsessions, hadded⟩
  · rw [hsame]
    exact ⟨rfl, hp.congr (Nat.le_succ _) rfl⟩
  · rw [hadded]
    have hnew := hp.services p.generated le_rfl
    constructor
    · have hholds : total (PublishedService.holds s)
          (p.services.insert (uuid p.generated) service) = service.holds s + p.holds s :=
        total_insert_of_new hnew
      have hempty : service.holds s = 0 := by
        unfold PublishedService.holds
        rw [hsessions]
        rfl
      show p.waiting.keys.count s + total (PublishedService.holds s)
          (p.services.insert (uuid p.generated) service) + p.freed.count s + p.ended.count s =
        p.waiting.keys.count s + p.holds s + p.freed.count s + p.ended.count s
      omega
    · constructor
      · intro k hk
        change p.generated + 2 ≤ k at hk
        have hne : uuid k ≠ uuid p.generated := fun heq => by
          have := huuid heq
          omega
        show AList.lookup (uuid k) (p.services.insert (uuid p.generated) service) = none
        rw [AList.lookup_insert_ne hne]
        exact hp.services k (by omega)
      · intro id found hfound k hk
        change p.generated + 2 ≤ k at hk
        change AList.lookup id (p.services.insert (uuid p.generated) service) = some found at hfound
        by_cases hid : id = uuid p.generated
        · rw [hid, AList.lookup_insert, Option.some.injEq] at hfound
          rw [← hfound, hsessions]
          rfl
        · rw [AList.lookup_insert_ne hid] at hfound
          exact hp.sessions id found hfound k (by omega)

theorem kept_setServices (huuid : Function.Injective uuid) (infos : List ServiceInfo) :
    (p.setServices uuid infos).places s = p.places s ∧ Keyed uuid (p.setServices uuid infos) := by
  have hfold : ∀ q, Keyed uuid q →
      (infos.foldl (fun q info => q.addService uuid info) q).places s = q.places s ∧
        Keyed uuid (infos.foldl (fun q info => q.addService uuid info) q) := by
    induction infos with
    | nil => exact fun q hq => ⟨rfl, hq⟩
    | cons info infos ih =>
      intro q hq
      obtain ⟨hplaces, hkeyed⟩ := kept_addService (s := s) huuid hq info
      obtain ⟨hrest, hlast⟩ := ih _ hkeyed
      exact ⟨hrest.trans hplaces, hlast⟩
  have hcleared : Keyed uuid p.clearServices := ⟨fun _ _ => rfl, fun _ _ h => by cases h⟩
  obtain ⟨hplaces, hkeyed⟩ := hfold _ hcleared
  exact ⟨hplaces.trans places_clearServices, hkeyed⟩

/-- A client whose service is there is a side of a new session. -/
theorem kept_doInitialConnect (huuid : Function.Injective uuid) (hp : Keyed uuid p)
    {initialData : Bytes}
    (hreturned : (p.doInitialConnect uuid serviceId socket initialData).threw = false) :
    (p.doInitialConnect uuid serviceId socket initialData).publisher.places s =
        p.places s + [socket].count s ∧
      Keyed uuid (p.doInitialConnect uuid serviceId socket initialData).publisher := by
  unfold Publisher.doInitialConnect at hreturned ⊢
  split at hreturned
  · cases hreturned
  · cases hreturned
  · next service hproperty =>
    have hservice := lookup_of_property hproperty
    have hnew := hp.sessions serviceId service hservice
    let service' : PublishedService := { service with
      sessions := service.sessions.insert (uuid p.generated) ⟨socket, none, initialData⟩ }
    constructor
    · have hadded : service'.holds s = [socket].count s + service.holds s :=
        total_insert_of_new (hnew p.generated le_rfl)
      have hmoved : total (PublishedService.holds s) (p.services.insert serviceId service') +
          service.holds s = p.holds s + service'.holds s := holds_insert hservice s
      show p.waiting.keys.count s + total (PublishedService.holds s)
          (p.services.insert serviceId service') + p.freed.count s + p.ended.count s =
        p.waiting.keys.count s + p.holds s + p.freed.count s + p.ended.count s + [socket].count s
      omega
    · refine hp.insert hservice (Nat.le_succ _) rfl fun k hk => ?_
      change p.generated + 1 ≤ k at hk
      have hne : uuid k ≠ uuid p.generated := fun heq => by
        have := huuid heq
        omega
      show AList.lookup (uuid k) (service.sessions.insert (uuid p.generated) _) = none
      rw [AList.lookup_insert_ne hne]
      exact hnew k (by omega)

/-- First data names, as a publisher's, a session that has both sides. -/
def Publisher.namesTaken (parse : Bytes → Option Json) (keyOf : Json → Option String)
    (p : Publisher) (peekBuffer : Bytes) (sameAddress : Bool) : Bool :=
  match Publisher.publisherToken parse peekBuffer sameAddress with
  | none                     => false
  | some (tunnelId, tokenId) =>
    match keyOf tokenId, keyOf tunnelId with
    | some key, some id => (p.sessionAt key id).any fun session => !session.isHalfOpen
    | _, _              => false

/-- A publisher side joins a session, if the one that it names is half open. -/
theorem kept_doPublisherConnect (hp : Keyed uuid p) {tunnelId' tokenId : Json}
    (hreturned : (p.doPublisherConnect keyOf socket tunnelId' tokenId).threw = false)
    (hopen : ∀ key id session, keyOf tokenId = some key → keyOf tunnelId' = some id →
      p.sessionAt key id = some session → session.isHalfOpen = true) :
    (p.doPublisherConnect keyOf socket tunnelId' tokenId).publisher.places s =
        p.places s + [socket].count s ∧
      Keyed uuid (p.doPublisherConnect keyOf socket tunnelId' tokenId).publisher := by
  unfold Publisher.doPublisherConnect at hreturned ⊢
  split at hreturned
  · cases hreturned
  · next key hkey =>
    split at hreturned
    · cases hreturned
    · cases hreturned
    · next service hproperty =>
      have hservice := lookup_of_property hproperty
      split at hreturned
      · cases hreturned
      · next id hid =>
        unfold Publisher.addSocketToHalfOpenSession at hreturned ⊢
        split at hreturned
        · next session hown =>
          have hsession := lookup_of_property hown
          have hhalf : session.isHalfOpen = true := by
            refine hopen key id session hkey hid ?_
            unfold Publisher.sessionAt
            rw [hservice]
            exact hsession
          have hnone : session.publisherSocket = none := Option.isNone_iff_eq_none.mp hhalf
          let joined : Session := { session with publisherSocket := some socket }
          let service' : PublishedService :=
            { service with sessions := service.sessions.insert id joined }
          simp only [hhalf, if_true]
          constructor
          · have hsides : joined.sockets.count s = session.sockets.count s + [socket].count s := by
              show (session.clientSocket :: [socket]).count s =
                (session.clientSocket :: session.publisherSocket.toList).count s + [socket].count s
              rw [hnone, ← List.count_append]
              rfl
            have hadded : service'.holds s = service.holds s + [socket].count s := by
              have hbefore : service.holds s = session.sockets.count s +
                total (fun session => session.sockets.count s) (service.sessions.erase id) :=
                  total_of_lookup hsession
              have hafter : service'.holds s = joined.sockets.count s +
                total (fun session => session.sockets.count s) (service.sessions.erase id) :=
                  total_insert id joined
              omega
            have hmoved : total (PublishedService.holds s) (p.services.insert key service') +
                service.holds s = p.holds s + service'.holds s := holds_insert hservice s
            show p.waiting.keys.count s + total (PublishedService.holds s)
                (p.services.insert key service') + p.freed.count s + p.ended.count s =
              p.waiting.keys.count s + p.holds s + p.freed.count s + p.ended.count s +
                [socket].count s
            omega
          · refine hp.insert hservice le_rfl rfl fun k hk => ?_
            have hnew := hp.sessions key service hservice k hk
            have hne : uuid k ≠ id := by
              rintro rfl
              rw [hsession] at hnew
              cases hnew
            show AList.lookup (uuid k) (service.sessions.insert id joined) = none
            rw [AList.lookup_insert_ne hne]
            exact hnew
        · cases hreturned

/-- A socket that is new is ended, or waits. -/
theorem kept_onConnect (hp : Keyed uuid p) {sameAddress : Option Bool}
    (hreturned : (p.onConnect serviceId socket sameAddress).threw = false)
    (hnew : socket ∉ p.waiting) :
    (p.onConnect serviceId socket sameAddress).publisher.places s = p.places s + [socket].count s ∧
      Keyed uuid (p.onConnect serviceId socket sameAddress).publisher := by
  have hwaits : ∀ accepted, (p.waiting.insert socket accepted).keys.count s =
      p.waiting.keys.count s + [socket].count s := by
    intro accepted
    rw [AList.keys_insert, List.erase_of_not_mem (fun hmem => hnew (AList.mem_keys.mpr hmem)),
      ← List.singleton_append, List.count_append, Nat.add_comm]
  unfold Publisher.onConnect at hreturned ⊢
  split
  · refine ⟨?_, hp.congr le_rfl rfl⟩
    show p.waiting.keys.count s + p.holds s + p.freed.count s + (p.ended ++ [socket]).count s =
      p.waiting.keys.count s + p.holds s + p.freed.count s + p.ended.count s + [socket].count s
    rw [List.count_append]
    omega
  · next hother =>
    cases sameAddress with
    | none =>
      split at hreturned
      · next hundefined => exact absurd hundefined hother
      · cases hreturned
    | some sameAddress =>
      refine ⟨?_, hp.congr le_rfl rfl⟩
      show (p.waiting.insert socket (serviceId, sameAddress)).keys.count s + p.holds s +
          p.freed.count s + p.ended.count s =
        p.waiting.keys.count s + p.holds s + p.freed.count s + p.ended.count s + [socket].count s
      rw [hwaits]
      omega

/-- First data brings a socket from where it waits to a session. -/
theorem kept_onData (huuid : Function.Injective uuid) (hp : Keyed uuid p) {sameAddress : Bool}
    {peekBuffer : Bytes} (hwaiting : p.waiting.lookup socket = some (serviceId, sameAddress))
    (hreturned : (p.onData uuid parse keyOf socket serviceId sameAddress peekBuffer).threw = false)
    (hfree : p.namesTaken parse keyOf peekBuffer sameAddress = false) :
    (p.onData uuid parse keyOf socket serviceId sameAddress peekBuffer).publisher.places s =
        p.places s ∧
      Keyed uuid (p.onData uuid parse keyOf socket serviceId sameAddress peekBuffer).publisher := by
  have hmem : socket ∈ p.waiting.keys := AList.mem_keys.mp (AList.lookup_isSome.mp (by
    rw [hwaiting]
    rfl))
  have hunlisten : (p.unlisten socket).places s + [socket].count s = p.places s := by
    have hkeys : (p.waiting.erase socket).keys.count s + [socket].count s =
        p.waiting.keys.count s := by
      rw [AList.keys_erase, Nat.add_comm, ← List.count_append]
      exact (List.perm_cons_erase hmem).symm.count_eq s
    show (p.waiting.erase socket).keys.count s + p.holds s + p.freed.count s + p.ended.count s +
      [socket].count s = p.waiting.keys.count s + p.holds s + p.freed.count s + p.ended.count s
    omega
  have hkeyed : Keyed uuid (p.unlisten socket) := hp.congr le_rfl rfl
  rw [← hunlisten]
  unfold Publisher.onData at hreturned ⊢
  simp only at hreturned ⊢
  split at hreturned
  · exact kept_doInitialConnect huuid hkeyed hreturned
  · next tunnelId' tokenId htoken =>
    split at hreturned
    · next hthrew =>
      -- after the exception nothing has changed
      have hsame := (doPublisherConnect_frame keyOf tunnelId' tokenId).2.2 hthrew
      rw [if_pos hthrew]
      simp only [hsame] at hreturned ⊢
      exact kept_doInitialConnect huuid hkeyed hreturned
    · next hconnected =>
      rw [if_neg hconnected]
      refine kept_doPublisherConnect hkeyed hreturned fun key id session hkey hid hsession => ?_
      have hsession : p.sessionAt key id = some session := hsession
      unfold Publisher.namesTaken at hfree
      simp only [htoken, hkey, hid, hsession, Option.any_some] at hfree
      simpa using hfree

/-- So it does when it is the first data of a socket that waits. -/
def Publisher.takes (parse : Bytes → Option Json) (keyOf : Json → Option String) (p : Publisher) :
    Event → Bool
  | .data socket peekBuffer => (p.waiting.lookup socket).any fun accepted =>
    p.namesTaken parse keyOf peekBuffer accepted.2
  | _ => false

/-- An event that loses no socket: no exception ends the process, a socket that is accepted is new,
    and first data names no session that has both sides. -/
structure LosesNothing (uuid : Nat → String) (parse : Bytes → Option Json)
    (keyOf : Json → Option String) (p : Publisher) (e : Event) : Prop where
  returned : (p.handle uuid parse keyOf e).any Handled.threw = false
  fresh : ∀ socket ∈ e.accepts, socket ∉ p.waiting
  free : p.takes parse keyOf e = false

instance (e : Event) : Decidable (LosesNothing uuid parse keyOf p e) :=
  decidable_of_iff (_ ∧ _ ∧ _) ⟨fun h => ⟨h.1, h.2.1, h.2.2⟩, fun h => ⟨h.1, h.2, h.3⟩⟩

/-- **Every event that loses nothing** keeps the account of each socket. -/
theorem kept_step (huuid : Function.Injective uuid) (hp : Keyed uuid p) {e : Event}
    (hloses : LosesNothing uuid parse keyOf p e) (h : p.step uuid parse keyOf e = some p') :
    p'.places s = p.places s + e.accepts.count s ∧ Keyed uuid p' := by
  unfold Publisher.step at h
  split at h
  · cases h
  · obtain ⟨handled, hhandle, rfl⟩ := Option.map_eq_some_iff.mp h
    have hreturned : handled.threw = false := by
      have hany := hloses.returned
      rw [hhandle] at hany
      exact hany
    suffices hkept : handled.publisher.places s = p.places s + e.accepts.count s ∧
        Keyed uuid handled.publisher from ⟨hkept.1, hkept.2.congr le_rfl rfl⟩
    cases e with
    | accepted serviceId socket sameAddress =>
      obtain rfl := Option.some.inj hhandle
      exact kept_onConnect hp hreturned (hloses.fresh socket (List.mem_singleton_self _))
    | data socket peekBuffer =>
      obtain ⟨⟨serviceId, sameAddress⟩, hwaiting, rfl⟩ := Option.map_eq_some_iff.mp hhandle
      have hfree := hloses.free
      simp only [Publisher.takes, hwaiting, Option.any_some] at hfree
      exact kept_onData huuid hp hwaiting hreturned hfree
    | services infos =>
      obtain rfl := Option.some.inj hhandle
      exact kept_setServices huuid infos
    | newTunnelFailed serviceId tunnelId =>
      obtain rfl := Option.some.inj hhandle
      exact ⟨places_onSessionFailed, keyed_onSessionFailed hp⟩
    | publisherClosed socket =>
      obtain ⟨session, -, rfl⟩ := Option.map_eq_some_iff.mp hhandle
      exact ⟨places_onPublisherClose, keyed_onPublisherClose hp⟩
    | listenFailed acceptor =>
      obtain rfl := Option.some.inj hhandle
      exact ⟨rfl, hp.congr le_rfl rfl⟩
    | controlClosed =>
      obtain rfl := Option.some.inj hhandle
      have hcleared : p.clearServices.places s = p.places s := places_clearServices
      exact ⟨hcleared, fun _ _ => rfl, fun _ _ h => by cases h⟩

/-- What a run that loses nothing has done with a socket. -/
theorem kept_run {events : List Event} (huuid : Function.Injective uuid) (hp : Keyed uuid p)
    (hloses : Along (Publisher.step uuid parse keyOf) (LosesNothing uuid parse keyOf) p events)
    (hrun : run (Publisher.step uuid parse keyOf) p events = some p') (s : SocketId) :
    p'.places s = p.places s + (events.flatMap Event.accepts).count s := by
  induction events generalizing p with
  | nil =>
    obtain rfl := Option.some.inj hrun
    rfl
  | cons e events ih =>
    obtain ⟨q, hq, htail⟩ := Option.bind_eq_some_iff.mp hrun
    obtain ⟨hplaces, hkeyed⟩ := kept_step (s := s) huuid hp hloses.1 hq
    rw [ih hkeyed (hloses.2 q hq) htail, hplaces, List.flatMap_cons, List.count_append,
      Nat.add_assoc]

/-- **No socket is lost.**  In every run in which no exception ends the process and no connection of
    the publisher names a session that has both sides, every socket that was accepted is somewhere,
    exactly as often as it was accepted. -/
theorem socket_kept {limit : Nat} {events : List Event} (huuid : Function.Injective uuid)
    (hloses : Along (Publisher.step uuid parse keyOf) (LosesNothing uuid parse keyOf)
      (start limit) events)
    (hrun : run (Publisher.step uuid parse keyOf) (start limit) events = some p) (s : SocketId) :
    p.places s = (events.flatMap Event.accepts).count s := by
  have hstart : (start limit).places s = 0 := rfl
  rw [kept_run huuid (keyed_start limit) hloses hrun, hstart, Nat.zero_add]

/-! ### A client with two publisher sides -/

/-- Ids of one letter, one more each time. -/
def unaryUuid (n : Nat) : String := String.ofList (List.replicate (n + 1) 'i')

theorem injective_unaryUuid : Function.Injective unaryUuid := by
  intro m n h
  have hlists : List.replicate (m + 1) 'i' = List.replicate (n + 1) 'i' := by
    simpa [unaryUuid, String.ofList_inj] using h
  simpa using congrArg List.length hlists

/-- The token of the first session. -/
def firstToken : Bytes := asciiString "\x7b\"tunnelId\":\"iii\",\"serviceId\":\"i\"\x7d"

/-- A `JSON.parse` that reads this token. -/
def parseFirst (peekBuffer : Bytes) : Option Json :=
  if peekBuffer = firstToken then
    some (.object [("tunnelId", .string "iii"), ("serviceId", .string "i")])
  else none

/-- A client, and a connection of the publisher for it. -/
def joinedEvents : List Event :=
  [.services [⟨some "web", "tcp", 8080, 80, none⟩], .accepted "i" 0 (some false),
    .data 0 (asciiString "GET"), .accepted "i" 1 (some true), .data 1 firstToken]

/-- Then one more connection of the publisher for the same client. -/
def joinedTwiceEvents : List Event :=
  joinedEvents ++ [.accepted "i" 2 (some true), .data 2 firstToken]

theorem socket_once_joined :
    ∃ p, run (Publisher.step unaryUuid parseFirst Json.getString) (start 1) joinedEvents = some p ∧
      p.sides 1 ≤ 1 := by
  have hsome : (run (Publisher.step unaryUuid parseFirst Json.getString) (start 1)
      joinedEvents).isSome = true := by decide +kernel
  obtain ⟨p, hrun⟩ := Option.isSome_iff_exists.mp hsome
  exact ⟨p, hrun, (socket_once hrun (by decide) 1).2⟩

/-- The client and the first connection are somewhere. -/
theorem socket_kept_joined :
    ∃ p, run (Publisher.step unaryUuid parseFirst Json.getString) (start 1) joinedEvents = some p ∧
      p.places 1 = 1 := by
  have hsome : (run (Publisher.step unaryUuid parseFirst Json.getString) (start 1)
      joinedEvents).isSome = true := by decide +kernel
  obtain ⟨p, hrun⟩ := Option.isSome_iff_exists.mp hsome
  have hloses : Along (Publisher.step unaryUuid parseFirst Json.getString)
      (LosesNothing unaryUuid parseFirst Json.getString) (start 1) joinedEvents := by
    decide +kernel
  exact ⟨p, hrun, socket_kept injective_unaryUuid hloses hrun 1⟩

/-- The second one is not: nothing will end it or destroy it. -/
theorem socket_lost :
    (run (Publisher.step unaryUuid parseFirst Json.getString) (start 1) joinedTwiceEvents).map
      (fun p => (p.places 2, p.sides 2)) = some (0, 0) := by decide +kernel

end TunnelBore.TypeScript
