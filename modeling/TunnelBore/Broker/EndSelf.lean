import Mathlib.Data.List.Induction
import TunnelBore.Broker.ControlRegistry

namespace TunnelBore.Broker

open TunnelBore.Lib

/-!
# `endSelf` and the slot of an identity

A control session ends itself through a callback, in three places: when a read has failed, when a
send has failed, and when a message could not be dispatched.  The callback knows the identity of
the session, not the session, and erases the slot of that identity.

Whether this hits the session itself depends on the order in which the handlers of all sessions
of the identity have run.  `SlotHistory` replays that order from the events alone:

* `Replayed` — the slots are what the replay says, in every run (`replayed_of_run`);
* `Unsuperseded` — of the sessions of its identity, none has been stored after this one and is
  still in the slot;
* `endSelf_only_itself_iff` — `endSelf` affects its own session alone, at every step of a run,
  exactly when it is called for unsuperseded sessions only.
-/

/-- What an order of events says of the slots: the identity of the n-th session, and which
    session was stored last for an identity, unless the slot was erased since. -/
structure SlotHistory where
  identities : List String := []
  holder : String → Option SessionId := fun _ => none

namespace SlotHistory

/-- One more event. -/
def note (h : SlotHistory) : ControlEvent → SlotHistory
  | .upgraded identity => { h with identities := h.identities ++ [identity] }
  | .stored session    =>
    match h.identities[session]? with
    | none          => h
    | some identity => { h with holder := Function.update h.holder identity (some session) }
  | .endSelf session   =>
    match h.identities[session]? with
    | none          => h
    | some identity => { h with holder := Function.update h.holder identity none }
  | _                  => h

/-- The history of a list of events. -/
def replay (events : List ControlEvent) : SlotHistory := events.foldl note {}

theorem replay_concat (events : List ControlEvent) (e : ControlEvent) :
    replay (events ++ [e]) = (replay events).note e := by
  unfold replay
  rw [List.foldl_append]
  rfl

/-- No other session of its identity is in the slot. -/
def Unsuperseded (h : SlotHistory) (session : SessionId) : Prop :=
  ∀ identity, h.identities[session]? = some identity →
    ∀ other, h.holder identity = some other → other = session

end SlotHistory

namespace ControlRun

open SlotHistory

variable {r r' : ControlRun} {h : SlotHistory} {session : SessionId} {identity : String}

/-! ### The slots are replayed -/

/-- A destruction ends a session at most, and leaves the slots alone. -/
structure Dwindles (r r' : ControlRun) : Prop where
  slots : r'.provider.controlSessions = r.provider.controlSessions
  alive : ∀ t i, r'.alive.lookup t = some i → r.alive.lookup t = some i
  nextSession : r'.nextSession = r.nextSession

theorem destroyIfUnowned_dwindles (r : ControlRun) (session : SessionId) :
    Dwindles r (r.destroyIfUnowned session) := by
  unfold destroyIfUnowned
  split
  · exact ⟨rfl, fun _ _ => id, rfl⟩
  · split
    · exact ⟨rfl, fun _ _ => id, rfl⟩
    · refine ⟨rfl, fun t i ht => ?_, rfl⟩
      by_cases hne : t = session
      · subst hne
        simp at ht
      · rwa [AList.lookup_erase_ne hne] at ht

/-- What becomes of the rest when the slot that held `old` is overwritten or erased. -/
theorem elim_dwindles (r : ControlRun) (old : Option SessionId) :
    Dwindles r (old.elim r r.destroyIfUnowned) := by
  cases old with
  | none => exact ⟨rfl, fun _ _ => id, rfl⟩
  | some old => exact destroyIfUnowned_dwindles r old

/-- The replay knows the identity of every session that exists, and every slot. -/
structure Replayed (h : SlotHistory) (r : ControlRun) : Prop where
  issued : h.identities.length = r.nextSession
  identity : ∀ s i, r.alive.lookup s = some i → h.identities[s]? = some i
  holder : ∀ i, r.slot i = h.holder i

theorem Replayed.dwindles (hr : Replayed h r) (hd : Dwindles r r') : Replayed h r' where
  issued := hr.issued.trans hd.nextSession.symm
  identity s i hs := hr.identity s i (hd.alive s i hs)
  holder i := by
    rw [← hr.holder i]
    unfold slot
    rw [hd.slots]

/-- The slots after one of them has been overwritten or erased. -/
theorem Replayed.update (hr : Replayed h r) {provider : PageAndControlProvider}
    {upgrading handling : List SessionId} {value : Option SessionId}
    (hslot : ∀ i, provider.controlSessions.lookup i =
      if i = identity then value else r.slot i) :
    Replayed { h with holder := Function.update h.holder identity value }
      { r with provider := provider, upgrading := upgrading, handling := handling } where
  issued := hr.issued
  identity := hr.identity
  holder i := by
    show provider.controlSessions.lookup i = Function.update h.holder identity value i
    rw [hslot, Function.update_apply, hr.holder]

/-- **One event.** -/
theorem Replayed.step (hr : Replayed h r) {e : ControlEvent} (hstep : r.step e = some r') :
    Replayed (h.note e) r' := by
  cases step_stepped hstep with
  | upgraded identity =>
    refine ⟨?_, fun s i hs => ?_, hr.holder⟩
    · show (h.identities ++ [identity]).length = r.nextSession + 1
      rw [List.length_append, hr.issued]
      rfl
    · show (h.identities ++ [identity])[s]? = some i
      rcases alive_upgrade hs with ⟨rfl, rfl⟩ | ⟨-, hbefore⟩
      · rw [← hr.issued, List.getElem?_concat_length]
      · have hknown := hr.identity s i hbefore
        rw [List.getElem?_append_left (List.getElem?_eq_some_iff.mp hknown).1]
        exact hknown
  | @stored session identity halive =>
    -- the session that was in the slot may be destroyed, which leaves the slots alone
    simp only [note, hr.identity session identity halive]
    refine (hr.update fun i => ?_).dwindles (elim_dwindles _ _)
    by_cases hi : i = identity
    · rw [if_pos hi, hi, AList.lookup_insert]
    · rw [if_neg hi, AList.lookup_insert_ne hi]
      rfl
  | entered session => exact ⟨hr.issued, hr.identity, hr.holder⟩
  | handshake => exact ⟨hr.issued, hr.identity, hr.holder⟩
  | @endSelf session identity halive =>
    simp only [note, hr.identity session identity halive]
    refine (hr.update fun i => ?_).dwindles (elim_dwindles _ _)
    by_cases hi : i = identity
    · rw [if_pos hi, hi, AList.lookup_erase]
    · rw [if_neg hi, AList.lookup_erase_ne hi]
      rfl
  | left session =>
    refine Replayed.dwindles ?_ (destroyIfUnowned_dwindles _ session)
    exact ⟨hr.issued, hr.identity, hr.holder⟩

/-- **Every run.**  The induction adds the last event. -/
theorem replayed_of_run {events : List ControlEvent}
    (hrun : run ControlRun.step {} events = some r) : Replayed (replay events) r := by
  induction events using List.reverseRecOn generalizing r with
  | nil =>
    obtain rfl : ({} : ControlRun) = r := Option.some.inj hrun
    exact ⟨rfl, fun s i hs => by simp at hs, fun _ => rfl⟩
  | append_singleton events e ih =>
    rw [run_append] at hrun
    obtain ⟨u, hu, hlast⟩ := Option.bind_eq_some_iff.mp hrun
    rw [replay_concat]
    refine (ih hu).step ?_
    simpa using hlast

/-! ### Whom `endSelf` ends -/

/-- `endSelf` of a session, from `r` to `r'`, leaves the slots as they are, unless the slot of
    its identity holds the session itself. -/
def EndsOnlyItself (session : SessionId) (r r' : ControlRun) : Prop :=
  r'.provider.controlSessions = r.provider.controlSessions ∨
    ∃ identity, r.alive.lookup session = some identity ∧ r.slot identity = some session

/-- The callback erases the slot of the identity. -/
theorem endSelf_slots (hstep : r.step (.endSelf session) = some r') :
    ∃ identity, r.alive.lookup session = some identity ∧
      r'.provider.controlSessions = r.provider.controlSessions.erase identity := by
  cases step_stepped hstep with
  | @endSelf _ identity halive =>
    exact ⟨identity, halive, (elim_dwindles _ (r.slot identity)).slots⟩

/-- One call of `endSelf`, against the order of the events before it. -/
theorem endsOnlyItself_iff (hr : Replayed h r) (hstep : r.step (.endSelf session) = some r') :
    EndsOnlyItself session r r' ↔ h.Unsuperseded session := by
  obtain ⟨identity, halive, hslots⟩ := endSelf_slots hstep
  have hidentity := hr.identity session identity halive
  constructor
  · intro hends i hi other hother
    obtain rfl : identity = i := Option.some.inj (hidentity.symm.trans hi)
    rw [← hr.holder identity] at hother
    rcases hends with hsame | ⟨j, hj, hslot⟩
    · -- nothing changed, so the slot that is erased was empty
      have hempty : r.slot identity = none := by
        unfold slot
        rw [← hsame, hslots, AList.lookup_erase]
      rw [hempty] at hother
      cases hother
    · obtain rfl : identity = j := Option.some.inj (halive.symm.trans hj)
      exact Option.some.inj (hother.symm.trans hslot)
  · intro hunsuperseded
    cases hslot : r.slot identity with
    | none =>
      -- nothing is erased
      refine .inl (hslots.trans ?_)
      have habsent : identity ∉ r.provider.controlSessions := AList.lookup_eq_none.mp hslot
      exact AList.ext (List.kerase_of_notMem_keys habsent)
    | some other =>
      obtain rfl := hunsuperseded identity hidentity other ((hr.holder identity).symm.trans hslot)
      exact .inr ⟨identity, halive, hslot⟩

/-- **When `endSelf` affects its own session alone.**  For every run, in any order of the
    handlers of any number of sessions: every call of `endSelf` leaves the slots unchanged unless
    the slot of the identity holds the calling session if and only if every call is made while no
    session of the identity has been stored after the caller and is still in the slot. -/
theorem endSelf_only_itself_iff {events : List ControlEvent}
    (hrun : run ControlRun.step {} events = some r) :
    (∀ before session after u v, events = before ++ .endSelf session :: after →
        run ControlRun.step {} before = some u → u.step (.endSelf session) = some v →
        EndsOnlyItself session u v) ↔
      ∀ before session after, events = before ++ .endSelf session :: after →
        (replay before).Unsuperseded session := by
  constructor
  · rintro hall before session after rfl
    rw [run_append] at hrun
    obtain ⟨u, hu, htail⟩ := Option.bind_eq_some_iff.mp hrun
    obtain ⟨v, hv, -⟩ := Option.bind_eq_some_iff.mp htail
    exact (endsOnlyItself_iff (replayed_of_run hu) hv).mp
      (hall before session after u v rfl hu hv)
  · intro hall before session after u v hsplit hu hv
    exact (endsOnlyItself_iff (replayed_of_run hu) hv).mpr (hall before session after hsplit)

/-- A connection is lost and followed by another: the session that ends is the one in the slot, and
    the next one stays in it. -/
theorem endSelf_only_itself_iff_reconnect :
    ∃ r, run ControlRun.step {} eventsReconnect = some r ∧ r.slot "pub" = some 1 ∧
      ∀ before session after u v, eventsReconnect = before ++ .endSelf session :: after →
        run ControlRun.step {} before = some u → u.step (.endSelf session) = some v →
          EndsOnlyItself session u v := by
  have hsome : (run ControlRun.step {} eventsReconnect).isSome = true := by decide +kernel
  obtain ⟨r, hrun⟩ := Option.isSome_iff_exists.mp hsome
  have hslot : (run ControlRun.step {} eventsReconnect).bind (slot · "pub") = some 1 := by
    decide +kernel
  rw [hrun] at hslot
  refine ⟨r, hrun, hslot, (endSelf_only_itself_iff hrun).mpr fun before session after hsplit => ?_⟩
  -- there is one call, of the first session
  obtain rfl : session = 0 := by
    have hmem : ControlEvent.endSelf session ∈ eventsReconnect := by
      rw [hsplit]
      exact List.mem_append_right _ List.mem_cons_self
    simpa [eventsReconnect, eventsConnect] using hmem
  have hat : eventsReconnect[before.length]? = some (.endSelf 0) := by
    rw [hsplit, List.getElem?_append_right le_rfl, Nat.sub_self]
    rfl
  have honly : ∀ n < eventsReconnect.length, eventsReconnect[n]? = some (.endSelf 0) → n = 7 := by
    decide
  have hlength : before.length = 7 := honly _ (List.getElem?_eq_some_iff.mp hat).1 hat
  obtain rfl : before = eventsReconnect.take 7 := by
    rw [hsplit, ← hlength, List.take_left]
  intro identity hidentity other hholder
  obtain rfl : "pub" = identity := Option.some.inj hidentity
  exact (Option.some.inj hholder).symm

/-! ### A read that fails before the next connection is stored -/

/-- A session is stored and a read of it fails; before the handler gets to `endSelf`, the session
    of the next connection is stored. -/
def eventsOverwritten : List ControlEvent :=
  [.upgraded "pub", .stored 0, .left 0, .entered 0, .upgraded "pub", .stored 1, .left 1]

/-- The older session erases the newer one from the slot. -/
theorem endSelf_erases_newer :
    ∃ u v, run ControlRun.step {} eventsOverwritten = some u ∧
      u.step (.endSelf 0) = some v ∧ u.slot "pub" = some 1 ∧ v.slot "pub" = none ∧
      ¬EndsOnlyItself 0 u v := by
  have hsome : (run ControlRun.step {} (eventsOverwritten ++ [.endSelf 0])).isSome = true := by
    decide +kernel
  obtain ⟨v, hv⟩ := Option.isSome_iff_exists.mp hsome
  have hsplit := hv
  rw [run_append] at hsplit
  obtain ⟨u, hu, htail⟩ := Option.bind_eq_some_iff.mp hsplit
  have hstep : u.step (.endSelf 0) = some v := by simpa using htail
  have hbefore : (run ControlRun.step {} eventsOverwritten).bind (slot · "pub") = some 1 := by
    decide +kernel
  have hafter : ((run ControlRun.step {} (eventsOverwritten ++ [.endSelf 0])).bind
      (slot · "pub")) = none := by decide +kernel
  rw [hu, Option.bind_some] at hbefore
  rw [hv, Option.bind_some] at hafter
  refine ⟨u, v, hu, hstep, hbefore, hafter, ?_⟩
  rintro (hsame | ⟨identity, halive, hslot⟩)
  · have hslots : v.slot "pub" = u.slot "pub" := congrArg (·.lookup "pub") hsame
    rw [hbefore, hafter] at hslots
    cases hslots
  · -- session 0 is of `pub`, whose slot holds session 1
    have hidentity := (replayed_of_run hu).identity 0 identity halive
    obtain rfl : "pub" = identity := Option.some.inj hidentity
    rw [hbefore] at hslot
    cases hslot

end ControlRun

end TunnelBore.Broker
