import Mathlib.Data.List.AList

namespace TunnelBore.Broker

/-!
# The broker's `Publisher`

One `Publisher` stands for one identity.  It holds the service table (`impl_->services`) and a
weak pointer to the control session it answers through.  `Service::start` and the generator of
service ids are outside: an `Offer` carries, with the announced `ServiceInfo`, the id that
`uuidGenerator.generate_id()` returns and whether `service->start()` succeeds.

* `addService_lookup` — an entry of the table survives any further `addService`.
* `addServices_lookup` — so it survives a whole handshake.
* `addServices_entry` — what is in the table after a handshake was there or was announced.
-/

/-- Which of the accepted control connections a session is. -/
abbrev SessionId := Nat

/-- The key of a service in the table, `Service::serviceId`. -/
abbrev ServiceId := String

/-- `ServiceInfo` as the broker reads it from a handshake. -/
structure ServiceInfo where
  name : Option String
  publicPort : UInt16
  hiddenPort : UInt16
  deriving DecidableEq, Repr

/-- One service of a handshake, with what the environment answers if it is started. -/
structure Offer where
  serviceInfo : ServiceInfo
  serviceId : ServiceId
  started : Bool
  deriving DecidableEq, Repr

/-- `Publisher::Implementation`: the table and the weak pointer to the control session. -/
structure Publisher where
  identity : String
  services : AList (fun _ : ServiceId => ServiceInfo) := ∅
  controlSession : Option SessionId := none
  deriving DecidableEq

namespace Publisher

/-- `Publisher::setCurrentControlSession` for a session that is alive. -/
def setCurrentControlSession (p : Publisher) (session : SessionId) : Publisher :=
  { p with controlSession := some session }

/-- `Publisher::clearServices`. -/
def clearServices (p : Publisher) : Publisher :=
  { p with services := ∅ }

/-- `Publisher::detachControlSession`.  It resets the pointer whichever session it names. -/
def detachControlSession (p : Publisher) (eraseServices : Bool) : Publisher :=
  let p := { p with controlSession := none }
  if eraseServices then p.clearServices else p

/-- Whether the table holds a service on this public port. -/
def hasPublicPort (p : Publisher) (publicPort : UInt16) : Bool :=
  p.services.entries.any fun entry => publicPort == entry.2.publicPort

/-- `Publisher::addService`.  The loop over the table returns `true` at the first service on the
    same public port, so that `recreatedServices` is empty whenever the loop is left and nothing
    is ever recreated. -/
def addService (p : Publisher) (offer : Offer) : Publisher × Bool :=
  if p.hasPublicPort offer.serviceInfo.publicPort then (p, true)
  else if offer.started then
    ({ p with services := p.services.insert offer.serviceId offer.serviceInfo }, true)
  else (p, false)

/-- `Publisher::addServices`.  The result of each start is only reported, not looked at. -/
def addServices (p : Publisher) (offers : List Offer) : Publisher :=
  offers.foldl (fun p offer => (p.addService offer).1) p

/-! ### What a handshake leaves as it was -/

variable (p : Publisher) (offer : Offer) (offers : List Offer)

@[simp] theorem detachControlSession_controlSession (eraseServices : Bool) :
    (p.detachControlSession eraseServices).controlSession = none := by
  cases eraseServices <;> rfl

@[simp] theorem detachControlSession_services :
    (p.detachControlSession true).services = ∅ := rfl

@[simp] theorem addService_controlSession :
    (p.addService offer).1.controlSession = p.controlSession := by
  unfold addService
  split
  · rfl
  · split <;> rfl

@[simp] theorem addServices_controlSession :
    (p.addServices offers).controlSession = p.controlSession := by
  unfold addServices
  induction offers generalizing p with
  | nil => rfl
  | cons offer offers ih =>
    rw [List.foldl_cons, ih]
    exact p.addService_controlSession offer

/-- An entry of the table survives `addService`, which writes under a generated id only. -/
theorem addService_lookup {p : Publisher} {offer : Offer} {id : ServiceId} {info : ServiceInfo}
    (h : p.services.lookup id = some info) (hid : id ≠ offer.serviceId) :
    (p.addService offer).1.services.lookup id = some info := by
  unfold addService
  split
  · exact h
  · split
    · show (p.services.insert offer.serviceId offer.serviceInfo).lookup id = some info
      rw [AList.lookup_insert_ne hid]
      exact h
    · exact h

/-- **A handshake removes nothing**: with ids the generator has not returned before, an entry
    of the table survives all its services. -/
theorem addServices_lookup {p : Publisher} {offers : List Offer} {id : ServiceId}
    {info : ServiceInfo} (h : p.services.lookup id = some info)
    (hid : ∀ offer ∈ offers, id ≠ offer.serviceId) :
    (p.addServices offers).services.lookup id = some info := by
  unfold addServices
  induction offers generalizing p with
  | nil => exact h
  | cons offer offers ih =>
    rw [List.foldl_cons]
    apply ih
    · exact addService_lookup h (hid offer List.mem_cons_self)
    · exact fun o ho => hid o (List.mem_cons_of_mem _ ho)

/-- `addService` adds no entry but that of its service. -/
theorem addService_entry {p : Publisher} {offer : Offer} {id : ServiceId} {info : ServiceInfo}
    (h : (p.addService offer).1.services.lookup id = some info) :
    p.services.lookup id = some info ∨ offer.serviceInfo = info := by
  unfold addService at h
  split at h
  · exact .inl h
  · split at h
    · change (p.services.insert offer.serviceId offer.serviceInfo).lookup id = some info at h
      by_cases hid : id = offer.serviceId
      · rw [hid, AList.lookup_insert] at h
        exact .inr (Option.some.inj h)
      · rw [AList.lookup_insert_ne hid] at h
        exact .inl h
    · exact .inl h

/-- **Where an entry comes from**: it was there, or it is one of the services announced. -/
theorem addServices_entry {p : Publisher} {offers : List Offer} {id : ServiceId}
    {info : ServiceInfo} (h : (p.addServices offers).services.lookup id = some info) :
    p.services.lookup id = some info ∨ ∃ offer ∈ offers, offer.serviceInfo = info := by
  unfold addServices at h
  induction offers generalizing p with
  | nil => exact .inl h
  | cons offer offers ih =>
    rcases ih h with hbefore | ⟨later, hmem, hinfo⟩
    · exact (addService_entry hbefore).imp_right fun hinfo => ⟨offer, List.mem_cons_self, hinfo⟩
    · exact .inr ⟨later, List.mem_cons_of_mem _ hmem, hinfo⟩

end Publisher

end TunnelBore.Broker
