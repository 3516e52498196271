import TunnelBore.Broker.Publisher
import TunnelBore.Lib.Run

namespace TunnelBore.Broker

open TunnelBore.Lib

/-!
# The control sessions of the broker

`PageAndControlProvider` keeps one slot per identity for the control session of that identity,
`Publisher` keeps a weak pointer to it and the table of services, and the destructor of a
control session detaches whatever session its publisher has and clears that table.

A run interleaves handlers.  An upgrade handler constructs a session, sets it up and stores it
in the slot; it holds the session until it returns (`left`).  A completion handler of a session
holds it between `entered` and `left` and may process handshakes or end the session in between.
A session is destroyed as soon as nothing holds it.

The guard `soleUpgrade` is: no session of an identity exists when a connection of that identity
is upgraded.  Under it

* `Registry` is the invariant, and `Registry.step` shows that every event keeps it;
* `registry_agrees` is the agreement of the three places;
* `registry_detached` is the reconnect that overtakes the disconnect.
-/

/-- `PageAndControlProvider::Implementation`, as far as control sessions go. -/
structure PageAndControlProvider where
  publishers : AList (fun _ : String => Publisher) := ∅
  controlSessions : AList (fun _ : String => SessionId) := ∅
  deriving DecidableEq

namespace PageAndControlProvider

/-- `PageAndControlProvider::obtainPublisher`: the publisher of that identity, a new one if
    there is none yet. -/
def obtainPublisher (m : PageAndControlProvider) (identity : String) : Publisher :=
  (m.publishers.lookup identity).getD { identity }

/-- Something done to the publisher that `obtainPublisher` returns, which it also stores. -/
def modifyPublisher (m : PageAndControlProvider) (identity : String)
    (f : Publisher → Publisher) : PageAndControlProvider :=
  { m with publishers := m.publishers.insert identity (f (m.obtainPublisher identity)) }

variable (m : PageAndControlProvider) (identity other : String) (f : Publisher → Publisher)

@[simp] theorem modifyPublisher_controlSessions :
    (m.modifyPublisher identity f).controlSessions = m.controlSessions := rfl

theorem obtainPublisher_modifyPublisher :
    (m.modifyPublisher identity f).obtainPublisher other =
      if other = identity then f (m.obtainPublisher identity) else m.obtainPublisher other := by
  unfold modifyPublisher
  show ((m.publishers.insert identity (f (m.obtainPublisher identity))).lookup other).getD _ = _
  split
  · next heq =>
    rw [heq, AList.lookup_insert]
    rfl
  · next hne =>
    rw [AList.lookup_insert_ne hne]
    rfl

end PageAndControlProvider

/-- The broker's control side: the provider, the sessions that exist with their identities, the
    handlers that hold one, and, for the record, the services each session's handshakes added. -/
structure ControlRun where
  provider : PageAndControlProvider := {}
  alive : AList (fun _ : SessionId => String) := ∅
  upgrading : List SessionId := []
  handling : List SessionId := []
  nextSession : SessionId := 0
  added : List (SessionId × Offer) := []

/-- What can happen next. -/
inductive ControlEvent
  /-- An upgrade handler constructs a session for a verified token and runs its `setup`. -/
  | upgraded (identity : String)
  /-- That handler stores the session in the slot of its identity. -/
  | stored (session : SessionId)
  /-- A completion handler of the session locks its weak pointer. -/
  | entered (session : SessionId)
  /-- The handler dispatches a handshake with these services. -/
  | handshake (session : SessionId) (offers : List Offer)
  /-- The handler calls `endSelf`. -/
  | endSelf (session : SessionId)
  /-- The handler that holds the session returns. -/
  | left (session : SessionId)
  deriving DecidableEq, Repr

namespace ControlRun

/-- The publisher of an identity. -/
def publisher (r : ControlRun) (identity : String) : Publisher :=
  r.provider.obtainPublisher identity

/-- The session in the slot of an identity. -/
def slot (r : ControlRun) (identity : String) : Option SessionId :=
  r.provider.controlSessions.lookup identity

/-- Whether a shared pointer to the session is left: in the slot or in a running handler. -/
def owned (r : ControlRun) (session : SessionId) (identity : String) : Bool :=
  r.slot identity == some session || session ∈ r.upgrading || session ∈ r.handling

/-- `ControlSession::~ControlSession`, run when the last shared pointer is gone. -/
def destroyIfUnowned (r : ControlRun) (session : SessionId) : ControlRun :=
  match r.alive.lookup session with
  | none => r
  | some identity =>
    if r.owned session identity then r
    else
      { r with
        alive := r.alive.erase session
        provider := r.provider.modifyPublisher identity (·.detachControlSession true) }

/-- The first part of the upgrade handler: `std::make_shared` and `ControlSession::setup`. -/
def upgrade (r : ControlRun) (identity : String) : ControlRun :=
  { r with
    alive := r.alive.insert r.nextSession identity
    provider := r.provider.modifyPublisher identity (·.setCurrentControlSession r.nextSession)
    upgrading := r.nextSession :: r.upgrading
    nextSession := r.nextSession + 1 }

/-- The rest of it: `controlSessions[identity] = cs`, which drops the session that was there. -/
def store (r : ControlRun) (session : SessionId) (identity : String) : ControlRun :=
  let stored : ControlRun :=
    { r with
      provider := { r.provider with
        controlSessions := r.provider.controlSessions.insert identity session }
      upgrading := r.upgrading.erase session
      handling := session :: r.handling }
  (r.slot identity).elim stored stored.destroyIfUnowned

/-- The subscription to `Handshake`: the services go to the publisher of the identity. -/
def processHandshake (r : ControlRun) (session : SessionId) (identity : String)
    (offers : List Offer) : ControlRun :=
  let provider := r.provider.modifyPublisher identity (·.addServices offers)
  let services := (provider.obtainPublisher identity).services
  { r with
    provider
    -- fresh ids: an offer that the table now holds under its id was added just now
    added := (offers.filter fun offer =>
      services.lookup offer.serviceId == some offer.serviceInfo).map (Prod.mk session) ++ r.added }

/-- The callback `endSelf`: it erases the slot of the identity, whichever session holds it. -/
def eraseSlot (r : ControlRun) (identity : String) : ControlRun :=
  let erased : ControlRun :=
    { r with provider := { r.provider with
        controlSessions := r.provider.controlSessions.erase identity } }
  (r.slot identity).elim erased erased.destroyIfUnowned

/-- The ids of a handshake's services are new: `uuidGenerator` repeats none. -/
def generated (r : ControlRun) (identity : String) (offers : List Offer) : Bool :=
  (offers.map Offer.serviceId).Nodup &&
    offers.all fun offer => ((r.publisher identity).services.lookup offer.serviceId).isNone

/-- One event; `none` when it cannot happen. -/
def step (r : ControlRun) : ControlEvent → Option ControlRun
  | .upgraded identity => some (r.upgrade identity)
  | .stored session =>
    if session ∈ r.upgrading then (r.alive.lookup session).map (r.store session) else none
  | .entered session =>
    (r.alive.lookup session).map fun _ => { r with handling := session :: r.handling }
  | .handshake session offers =>
    if session ∈ r.handling then
      (r.alive.lookup session).bind fun identity =>
        if r.generated identity offers then some (r.processHandshake session identity offers)
        else none
    else none
  | .endSelf session =>
    if session ∈ r.handling then (r.alive.lookup session).map r.eraseSlot else none
  | .left session =>
    if session ∈ r.handling then
      some (destroyIfUnowned { r with handling := r.handling.erase session } session)
    else none

/-- No handler is running. -/
def Quiescent (r : ControlRun) : Prop :=
  r.upgrading = [] ∧ r.handling = []

instance (r : ControlRun) : Decidable r.Quiescent :=
  inferInstanceAs (Decidable (r.upgrading = [] ∧ r.handling = []))

/-- The session is the current one of its publisher, and every service that one of its
    handshakes added is in the table. -/
def Attached (r : ControlRun) (session : SessionId) (identity : String) : Prop :=
  (r.publisher identity).controlSession = some session ∧
    ∀ offer, (session, offer) ∈ r.added →
      (r.publisher identity).services.lookup offer.serviceId = some offer.serviceInfo

/-- The three places agree about every slot that is taken. -/
def Agrees (r : ControlRun) : Prop :=
  ∀ identity session, r.slot identity = some session → r.Attached session identity

/-- The guard: when a connection of an identity is upgraded, no session of it exists. -/
def soleUpgrade (r : ControlRun) : ControlEvent → Bool
  | .upgraded identity => r.alive.entries.all fun entry => entry.2 != identity
  | _ => true

/-! ### What an event does to the publishers and the slots -/

variable {r r' : ControlRun} {e : ControlEvent} {session : SessionId} {identity : String}

/-- The ways an event changes the control side. -/
inductive Stepped (r : ControlRun) : ControlEvent → ControlRun → Prop
  | upgraded (identity : String) : Stepped r (.upgraded identity) (r.upgrade identity)
  | stored {session : SessionId} {identity : String}
      (halive : r.alive.lookup session = some identity) :
      Stepped r (.stored session) (r.store session identity)
  | entered (session : SessionId) :
      Stepped r (.entered session) { r with handling := session :: r.handling }
  | handshake {session : SessionId} {identity : String} {offers : List Offer}
      (halive : r.alive.lookup session = some identity)
      (hgenerated : r.generated identity offers = true) :
      Stepped r (.handshake session offers) (r.processHandshake session identity offers)
  | endSelf {session : SessionId} {identity : String}
      (halive : r.alive.lookup session = some identity) :
      Stepped r (.endSelf session) (r.eraseSlot identity)
  | left (session : SessionId) :
      Stepped r (.left session)
        (destroyIfUnowned { r with handling := r.handling.erase session } session)

theorem step_stepped (h : r.step e = some r') : r.Stepped e r' := by
  cases e with
  | upgraded identity =>
    obtain rfl := Option.some.inj h
    exact .upgraded identity
  | stored session =>
    simp only [ControlRun.step, Option.ite_none_right_eq_some] at h
    obtain ⟨identity, halive, rfl⟩ := Option.map_eq_some_iff.mp h.2
    exact .stored halive
  | entered session =>
    obtain ⟨_, -, rfl⟩ := Option.map_eq_some_iff.mp h
    exact .entered session
  | handshake session offers =>
    simp only [ControlRun.step, Option.ite_none_right_eq_some] at h
    obtain ⟨identity, halive, h⟩ := Option.bind_eq_some_iff.mp h.2
    simp only [Option.ite_none_right_eq_some, Option.some.injEq] at h
    obtain ⟨hgenerated, rfl⟩ := h
    exact .handshake halive hgenerated
  | endSelf session =>
    simp only [ControlRun.step, Option.ite_none_right_eq_some] at h
    obtain ⟨identity, halive, rfl⟩ := Option.map_eq_some_iff.mp h.2
    exact .endSelf halive
  | left session =>
    simp only [ControlRun.step, Option.ite_none_right_eq_some, Option.some.injEq] at h
    obtain ⟨-, rfl⟩ := h
    exact .left session

/-- The sessions that exist are those that existed, and the new one. -/
theorem alive_upgrade {t : SessionId} {i : String}
    (h : (r.upgrade identity).alive.lookup t = some i) :
    (t = r.nextSession ∧ i = identity) ∨ (t ≠ r.nextSession ∧ r.alive.lookup t = some i) := by
  change (r.alive.insert r.nextSession identity).lookup t = some i at h
  by_cases ht : t = r.nextSession
  · left
    rw [ht, AList.lookup_insert] at h
    exact ⟨ht, (Option.some.inj h).symm⟩
  · right
    rw [AList.lookup_insert_ne ht] at h
    exact ⟨ht, h⟩

/-- Under the guard no session of the identity exists yet. -/
theorem not_alive_of_soleUpgrade (h : r.soleUpgrade (.upgraded identity) = true)
    (t : SessionId) : r.alive.lookup t ≠ some identity := by
  intro ht
  have hmem := AList.mem_lookup_iff.mp (Option.mem_def.mpr ht)
  have := List.all_eq_true.mp h _ hmem
  simp at this

/-! ### The invariant of guarded runs -/

/-- One session per identity, attached to its publisher; the slots name sessions that exist. -/
structure Registry (r : ControlRun) : Prop where
  unique : ∀ s t i, r.alive.lookup s = some i → r.alive.lookup t = some i → s = t
  attached : ∀ s i, r.alive.lookup s = some i → r.Attached s i
  slotted : ∀ i s, r.slot i = some s → r.alive.lookup s = some i
  issued : ∀ s i, r.alive.lookup s = some i → s < r.nextSession
  recorded : ∀ s offer, (s, offer) ∈ r.added → s < r.nextSession

theorem registry_empty : Registry {} where
  unique _ _ _ h := by simp at h
  attached _ _ h := by simp at h
  slotted _ _ h := by simp [slot] at h
  issued _ _ h := by simp at h
  recorded _ _ h := by simp at h

/-- Destroying a session detaches no other: the publisher it detaches has no other session. -/
theorem Registry.destroyIfUnowned (hr : Registry r) (session : SessionId) :
    Registry (r.destroyIfUnowned session) := by
  unfold ControlRun.destroyIfUnowned
  cases halive : r.alive.lookup session with
  | none => exact hr
  | some identity =>
    show Registry (if r.owned session identity then r else _)
    split
    · exact hr
    · next hunowned =>
      have hslot : r.slot identity ≠ some session := by
        intro h
        simp [owned, h] at hunowned
      -- a session that is left exists before, is another one, and is of another identity
      have hleft : ∀ {t i}, (r.alive.erase session).lookup t = some i →
          r.alive.lookup t = some i ∧ i ≠ identity := by
        intro t i ht
        have hne : t ≠ session := by
          rintro rfl
          simp at ht
        rw [AList.lookup_erase_ne hne] at ht
        refine ⟨ht, ?_⟩
        rintro rfl
        exact hne (hr.unique t session i ht halive)
      constructor
      · intro s t i hs ht
        exact hr.unique s t i (hleft hs).1 (hleft ht).1
      · intro t i ht
        obtain ⟨hbefore, hne⟩ := hleft ht
        have hpublisher : (r.provider.modifyPublisher identity
            (·.detachControlSession true)).obtainPublisher i = r.publisher i := by
          rw [PageAndControlProvider.obtainPublisher_modifyPublisher, if_neg hne]
          rfl
        unfold Attached publisher
        rw [hpublisher]
        exact hr.attached t i hbefore
      · intro i t ht
        have hbefore := hr.slotted i t ht
        have hne : t ≠ session := by
          rintro rfl
          rw [halive] at hbefore
          obtain rfl := Option.some.inj hbefore
          exact hslot ht
        show (r.alive.erase session).lookup t = some i
        rw [AList.lookup_erase_ne hne]
        exact hbefore
      · intro t i ht
        exact hr.issued t i (hleft ht).1
      · exact hr.recorded

/-- Setting up a session detaches no other, as there is no other of its identity. -/
theorem Registry.upgrade (hr : Registry r) (hsole : ∀ t, r.alive.lookup t ≠ some identity) :
    Registry (r.upgrade identity) := by
  have hpublisher : ∀ i, (r.upgrade identity).publisher i =
      if i = identity then (r.publisher identity).setCurrentControlSession r.nextSession
      else r.publisher i :=
    fun i => PageAndControlProvider.obtainPublisher_modifyPublisher _ _ _ _
  constructor
  · intro s t i hs ht
    rcases alive_upgrade hs with ⟨rfl, rfl⟩ | ⟨-, hs⟩
    · rcases alive_upgrade ht with ⟨rfl, -⟩ | ⟨-, ht⟩
      · rfl
      · exact absurd ht (hsole t)
    · rcases alive_upgrade ht with ⟨-, heq⟩ | ⟨-, ht⟩
      · rw [heq] at hs
        exact absurd hs (hsole s)
      · exact hr.unique s t i hs ht
  · intro t i ht
    unfold Attached
    rw [hpublisher]
    rcases alive_upgrade ht with ⟨rfl, rfl⟩ | ⟨-, hbefore⟩
    · rw [if_pos rfl]
      refine ⟨rfl, fun offer hadded => ?_⟩
      exact absurd (hr.recorded _ offer hadded) (Nat.lt_irrefl _)
    · have hne : i ≠ identity := by
        rintro rfl
        exact hsole t hbefore
      rw [if_neg hne]
      exact hr.attached t i hbefore
  · intro i t ht
    have hbefore := hr.slotted i t ht
    have hne : t ≠ r.nextSession := Nat.ne_of_lt (hr.issued t i hbefore)
    show (r.alive.insert r.nextSession identity).lookup t = some i
    rw [AList.lookup_insert_ne hne]
    exact hbefore
  · intro t i ht
    show t < r.nextSession + 1
    rcases alive_upgrade ht with ⟨rfl, -⟩ | ⟨-, hbefore⟩
    · exact Nat.lt_succ_self _
    · exact Nat.lt_succ_of_lt (hr.issued t i hbefore)
  · intro t offer hadded
    exact Nat.lt_succ_of_lt (hr.recorded t offer hadded)

/-- Storing a session replaces no other: what the slot held is this very session. -/
theorem Registry.store (hr : Registry r) (halive : r.alive.lookup session = some identity) :
    Registry (r.store session identity) := by
  have hslot : ∀ i, (r.provider.controlSessions.insert identity session).lookup i =
      if i = identity then some session else r.slot i := by
    intro i
    split
    · next heq =>
      rw [heq, AList.lookup_insert]
    · next hne =>
      exact AList.lookup_insert_ne hne
  have hstored : Registry
      { r with
        provider := { r.provider with
          controlSessions := r.provider.controlSessions.insert identity session }
        upgrading := r.upgrading.erase session
        handling := session :: r.handling } := by
    refine ⟨hr.unique, hr.attached, fun i t ht => ?_, hr.issued, hr.recorded⟩
    change (r.provider.controlSessions.insert identity session).lookup i = some t at ht
    rw [hslot] at ht
    split at ht
    · next heq =>
      rw [← Option.some.inj ht, heq]
      exact halive
    · exact hr.slotted i t ht
  unfold ControlRun.store
  cases hold : r.slot identity with
  | none => exact hstored
  | some old => exact hstored.destroyIfUnowned old

/-- A handshake removes no service, and adds its own to the publisher of its session. -/
theorem Registry.processHandshake (hr : Registry r)
    (halive : r.alive.lookup session = some identity) {offers : List Offer}
    (hgenerated : r.generated identity offers = true) :
    Registry (r.processHandshake session identity offers) := by
  have hpublisher : ∀ i, (r.processHandshake session identity offers).publisher i =
      if i = identity then (r.publisher identity).addServices offers else r.publisher i :=
    fun i => PageAndControlProvider.obtainPublisher_modifyPublisher _ _ _ _
  have hadded : ∀ t offer, (t, offer) ∈ (r.processHandshake session identity offers).added →
      (t = session ∧ ((r.publisher identity).addServices offers).services.lookup offer.serviceId
        = some offer.serviceInfo) ∨ (t, offer) ∈ r.added := by
    intro t offer hmem
    rcases List.mem_append.mp hmem with hnew | hold
    · left
      simp only [List.mem_map, List.mem_filter, beq_iff_eq, Prod.mk.injEq] at hnew
      obtain ⟨_, ⟨-, hlookup⟩, rfl, rfl⟩ := hnew
      rw [PageAndControlProvider.obtainPublisher_modifyPublisher, if_pos rfl] at hlookup
      exact ⟨rfl, hlookup⟩
    · exact .inr hold
  refine ⟨hr.unique, fun t i ht => ?_, hr.slotted, hr.issued, fun t offer hmem => ?_⟩
  · obtain ⟨hcurrent, hkept⟩ := hr.attached t i ht
    unfold Attached
    rw [hpublisher]
    split
    · next heq =>
      subst heq
      refine ⟨by simpa using hcurrent, fun offer hmem => ?_⟩
      rcases hadded t offer hmem with ⟨-, hlookup⟩ | hold
      · exact hlookup
      · -- an older entry has an id that the generator does not return again
        refine Publisher.addServices_lookup (hkept offer hold) fun other hother heq => ?_
        have hfresh := (Bool.and_eq_true_iff.mp hgenerated).2
        have hnone := List.all_eq_true.mp hfresh other hother
        rw [← heq, hkept offer hold] at hnone
        simp at hnone
    · next hne =>
      refine ⟨hcurrent, fun offer hmem => ?_⟩
      rcases hadded t offer hmem with ⟨rfl, -⟩ | hold
      · -- the handshake's session is of another identity
        exact absurd (Option.some.inj (ht.symm.trans halive)) hne
      · exact hkept offer hold
  · rcases hadded t offer hmem with ⟨rfl, -⟩ | hold
    · exact hr.issued t identity halive
    · exact hr.recorded t offer hold

/-- The callback of a session's handler erases the slot; what was in it is that session. -/
theorem Registry.eraseSlot (hr : Registry r) (identity : String) :
    Registry (r.eraseSlot identity) := by
  have herased : Registry
      { r with provider := { r.provider with
          controlSessions := r.provider.controlSessions.erase identity } } := by
    refine ⟨hr.unique, hr.attached, fun i t ht => ?_, hr.issued, hr.recorded⟩
    change (r.provider.controlSessions.erase identity).lookup i = some t at ht
    by_cases heq : i = identity
    · rw [heq, AList.lookup_erase] at ht
      cases ht
    · rw [AList.lookup_erase_ne heq] at ht
      exact hr.slotted i t ht
  unfold ControlRun.eraseSlot
  cases r.slot identity with
  | none => exact herased
  | some old => exact herased.destroyIfUnowned old

/-- **Every event keeps the invariant**, an upgrade under the guard. -/
theorem Registry.step (hr : Registry r) (hguard : r.soleUpgrade e = true)
    (h : r.step e = some r') : Registry r' := by
  cases step_stepped h with
  | upgraded identity => exact hr.upgrade (not_alive_of_soleUpgrade hguard)
  | stored halive => exact hr.store halive
  | entered session => exact ⟨hr.unique, hr.attached, hr.slotted, hr.issued, hr.recorded⟩
  | handshake halive hgenerated => exact hr.processHandshake halive hgenerated
  | @endSelf _ identity => exact hr.eraseSlot identity
  | left session =>
    have hreleased : Registry { r with handling := r.handling.erase session } :=
      ⟨hr.unique, hr.attached, hr.slotted, hr.issued, hr.recorded⟩
    exact hreleased.destroyIfUnowned session

/-! ### The agreement, and the reconnect that overtakes the disconnect -/

/-- **The three places agree.**  In every run in which a connection is upgraded only when no
    session of its identity exists, the session in a slot is its publisher's current session
    with all its services; and so is every session that exists, so that no destruction ever
    detaches it. -/
theorem registry_agrees {events : List ControlEvent}
    (hguard : Along ControlRun.step (fun r e => r.soleUpgrade e = true) {} events)
    (hrun : run ControlRun.step {} events = some r) :
    r.Agrees ∧ ∀ session identity, r.alive.lookup session = some identity →
      r.Attached session identity := by
  have hr : Registry r :=
    run_invariant (fun _ _ _ hr hg h => hr.step hg h) registry_empty hguard hrun
  constructor
  · intro identity session hslot
    exact hr.attached session identity (hr.slotted identity session hslot)
  · exact hr.attached

/-- A service on port 80. -/
def offerWeb : Offer := ⟨⟨some "web", 80, 8080⟩, "service", true⟩

/-- A service on port 22. -/
def offerShell : Offer := ⟨⟨some "shell", 22, 2222⟩, "another", true⟩

/-- A connection of `pub` is upgraded and its handshake adds a service. -/
def eventsConnect : List ControlEvent :=
  [.upgraded "pub", .stored 0, .left 0, .entered 0, .handshake 0 [offerWeb], .left 0]

/-- The connection is lost and noticed before the next one is upgraded. -/
def eventsReconnect : List ControlEvent :=
  eventsConnect ++ [.entered 0, .endSelf 0, .left 0, .upgraded "pub", .stored 1, .left 1,
    .entered 1, .handshake 1 [offerWeb], .left 1]

/-- The next one is upgraded while the broker still has the old session. -/
def eventsOvertake : List ControlEvent :=
  eventsConnect ++ [.upgraded "pub", .entered 1, .handshake 1 [offerShell], .left 1,
    .stored 1, .left 1]

/-- A reconnect after the disconnect: the new session is attached. -/
theorem registry_agrees_reconnect :
    ∃ r, run ControlRun.step {} eventsReconnect = some r ∧ r.slot "pub" = some 1 ∧
      r.Attached 1 "pub" := by
  have hsome : (run ControlRun.step {} eventsReconnect).isSome = true := by decide +kernel
  obtain ⟨r, hrun⟩ := Option.isSome_iff_exists.mp hsome
  have hslot : (run ControlRun.step {} eventsReconnect).bind (slot · "pub") = some 1 := by
    decide +kernel
  rw [hrun] at hslot
  exact ⟨r, hrun, hslot, (registry_agrees (by decide +kernel) hrun).1 "pub" 1 hslot⟩

/-- A reconnect that overtakes the disconnect: no handler runs and the slot holds the new
    session, but its publisher has no session and the service its handshake added is gone. -/
theorem registry_detached :
    ∃ r, run ControlRun.step {} eventsOvertake = some r ∧ r.Quiescent ∧
      r.slot "pub" = some 1 ∧ (r.publisher "pub").controlSession = none ∧
      (1, offerShell) ∈ r.added ∧ (r.publisher "pub").services.lookup "another" = none ∧
      ¬r.Agrees := by
  refine ⟨_, Option.eq_some_of_isSome (o := run ControlRun.step {} eventsOvertake)
    (by decide +kernel), by decide +kernel, by decide +kernel, by decide +kernel,
    by decide +kernel, by decide +kernel, fun hagrees => ?_⟩
  have hcurrent := (hagrees "pub" 1 (by decide +kernel)).1
  exact absurd hcurrent (by decide +kernel)

end ControlRun

end TunnelBore.Broker
