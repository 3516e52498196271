import TunnelBore.Broker.Publisher
import TunnelBore.Broker.ServiceRun

namespace TunnelBore.Broker

open TunnelBore.Lib

/-!
# The accept loop of a service

`Service::start` opens the acceptor and makes the first `async_accept`; from then on it is the
completion handler that makes the next one.  The state counts the operations the acceptor
waits for (`outstanding`) and those that `stop` has cancelled.

* `Listening` — the acceptor is open and waits for exactly one client;
* `Rearms` — the completions whose handler accepts again;
* `listening_along_iff` — after a successful `start` and before `stop`, the service listens
  between any two handlers exactly when every completion is such a one.

An accepted connection enters the sessions of the service (`ServiceRun`); `captured` remembers
which control session its `TunnelSession` was made with.
-/

/-- A service with its acceptor. -/
structure AcceptLoop where
  alive : Bool := true
  /-- `acceptor.is_open()`. -/
  isOpen : Bool := false
  outstanding : Nat := 0
  cancelled : Nat := 0
  sessions : ServiceRun := {}
  captured : List (TunnelId × SessionId) := []

/-- What the handler of an accepted connection finds. -/
structure Arrival where
  /-- `publisher.lock()`, and of that `getCurrentControlSession().lock()`. -/
  publisher : Option (Option SessionId)
  socketOpen : Bool
  /-- `uuidGenerator.generate_id()`. -/
  tunnelId : TunnelId
  /-- The constructor of `TunnelSession` can query the remote endpoint; else it throws. -/
  peerConnected : Bool
  deriving DecidableEq, Repr

/-- How an `async_accept` completes. -/
inductive AcceptCompletion
  /-- `operation_aborted`. -/
  | aborted
  /-- Any other error. -/
  | failed
  | accepted (arrival : Arrival)
  deriving DecidableEq, Repr

/-- Whether the four calls that set the acceptor up report no error. -/
structure AcceptorSetup where
  opened : Bool := true
  reuseAddress : Bool := true
  bound : Bool := true
  listening : Bool := true
  deriving DecidableEq, Repr

namespace AcceptLoop

variable (l : AcceptLoop)

/-- `Service::stop`: closing the acceptor cancels what it waits for. -/
def stop : AcceptLoop :=
  { l with isOpen := false, outstanding := 0, cancelled := l.cancelled + l.outstanding }

/-- `Service::acceptOnce`. -/
def acceptOnce : AcceptLoop :=
  if l.isOpen then { l with outstanding := l.outstanding + 1 } else l

/-- `Service::start`; an error leaves the acceptor in the state it has reached. -/
def start (setup : AcceptorSetup) : AcceptLoop × Bool :=
  let l := l.stop
  if setup.opened then
    let l := { l with isOpen := true }
    if setup.reuseAddress then
      if setup.bound then
        if setup.listening then (l.acceptOnce, true) else (l, false)
      else (l, false)
    else (l, false)
  else (l, false)

/-- The new session enters the map and starts to `peek`; `none` when the id was used before. -/
def addSession (id : TunnelId) (control : SessionId) : Option AcceptLoop :=
  (l.sessions.step (.accept id)).map fun sessions =>
    { l with sessions := sessions, captured := (id, control) :: l.captured }

/-- The completion handler of `async_accept`. -/
def acceptHandler : AcceptCompletion → Option AcceptLoop
  | .aborted          => some l
  | .failed           => some (if l.alive then l.acceptOnce else l)
  | .accepted arrival =>
    if ¬l.alive ∨ ¬l.isOpen then some l
    else
      match arrival.publisher with
      | none                => some l
      | some none           => some l
      | some (some control) =>
        if ¬arrival.socketOpen then some l.acceptOnce
        -- the exception leaves the handler before it gets to `acceptOnce`
        else if ¬arrival.peerConnected then some l
        else (l.addSession arrival.tunnelId control).map acceptOnce

end AcceptLoop

/-- What happens to a service. -/
inductive AcceptEvent
  | completed (completion : AcceptCompletion)
  /-- A completion of one of its sessions. -/
  | session (e : Event)
  | stop
  /-- `Service::~Service`. -/
  | destroy

namespace AcceptLoop

variable (l : AcceptLoop)

/-- One event; `none` when it cannot occur. -/
def step : AcceptEvent → Option AcceptLoop
  | .completed .aborted    =>
    if 0 < l.cancelled then some { l with cancelled := l.cancelled - 1 } else none
  | .completed completion  =>
    if 0 < l.outstanding then
      acceptHandler { l with outstanding := l.outstanding - 1 } completion
    else none
  | .session (.accept _)   => none
  | .session e             =>
    if l.alive then (l.sessions.step e).map fun sessions => { l with sessions := sessions }
    else none
  | .stop                  => if l.alive then some l.stop else none
  | .destroy               => if l.alive then some { l.stop with alive := false } else none

/-- The acceptor is open and waits for one client. -/
def Listening : Prop := l.isOpen = true ∧ l.outstanding = 1

instance : Decidable l.Listening := inferInstanceAs (Decidable (_ ∧ _))

end AcceptLoop

/-- The publisher and its control session are there, and if the socket is open its peer still
    is. -/
def Arrival.Servable (arrival : Arrival) : Prop :=
  (∃ control, arrival.publisher = some (some control)) ∧
    (arrival.socketOpen = true → arrival.peerConnected = true)

/-- A completion whose handler accepts again: an accepted connection has to be servable. -/
def AcceptEvent.Rearms : AcceptEvent → Prop
  | .completed (.accepted arrival) => arrival.Servable
  | _                              => True

/-- Neither `stop` nor the destructor, which calls it. -/
def AcceptEvent.Continues : AcceptEvent → Prop
  | .stop    => False
  | .destroy => False
  | _        => True

namespace AcceptLoop

variable {l l' : AcceptLoop}

/-! ### One handler -/

@[simp] theorem acceptOnce_isOpen : l.acceptOnce.isOpen = l.isOpen := by
  unfold acceptOnce
  split <;> rfl

@[simp] theorem acceptOnce_alive : l.acceptOnce.alive = l.alive := by
  unfold acceptOnce
  split <;> rfl

@[simp] theorem acceptOnce_sessions : l.acceptOnce.sessions = l.sessions := by
  unfold acceptOnce
  split <;> rfl

@[simp] theorem acceptOnce_captured : l.acceptOnce.captured = l.captured := by
  unfold acceptOnce
  split <;> rfl

theorem acceptOnce_outstanding (h : l.isOpen = true) :
    l.acceptOnce.outstanding = l.outstanding + 1 := by
  unfold acceptOnce
  rw [if_pos h]

/-- A new session is no concern of the acceptor. -/
theorem addSession_acceptor {id : TunnelId} {control : SessionId}
    (h : l.addSession id control = some l') :
    l'.isOpen = l.isOpen ∧ l'.outstanding = l.outstanding ∧ l'.alive = l.alive := by
  obtain ⟨sessions, -, rfl⟩ := Option.map_eq_some_iff.mp h
  exact ⟨rfl, rfl, rfl⟩

/-- The ways a handler ends: it returns, it only accepts again, or it adds a session and
    accepts again. -/
inductive Handled (l : AcceptLoop) : AcceptCompletion → AcceptLoop → Prop
  | leaves {completion : AcceptCompletion}
      (h : l.alive = true → l.isOpen = true → completion ≠ .aborted →
        ¬(AcceptEvent.completed completion).Rearms) : Handled l completion l
  | again {completion : AcceptCompletion} (h : (AcceptEvent.completed completion).Rearms) :
      Handled l completion l.acceptOnce
  | serves {arrival : Arrival} {control : SessionId} {k : AcceptLoop} (h : arrival.Servable)
      (hk : l.addSession arrival.tunnelId control = some k) :
      Handled l (.accepted arrival) k.acceptOnce

/-- **One handler.** -/
theorem acceptHandler_handled {completion : AcceptCompletion}
    (h : l.acceptHandler completion = some l') : l.Handled completion l' := by
  cases completion with
  | aborted =>
    obtain rfl := Option.some.inj h
    exact .leaves fun _ _ hne => absurd rfl hne
  | failed =>
    obtain rfl := Option.some.inj h
    split
    · exact .again trivial
    · next hdead => exact .leaves fun halive => absurd halive hdead
  | accepted arrival =>
    obtain ⟨publisher, socketOpen, tunnelId, peerConnected⟩ := arrival
    simp only [acceptHandler] at h
    split at h
    · next hclosed =>
      obtain rfl := Option.some.inj h
      refine .leaves fun halive hopen => ?_
      simp [halive, hopen] at hclosed
    · split at h
      · obtain rfl := Option.some.inj h
        refine .leaves fun _ _ _ => ?_
        rintro ⟨⟨control, hcontrol⟩, -⟩
        cases hcontrol
      · obtain rfl := Option.some.inj h
        refine .leaves fun _ _ _ => ?_
        rintro ⟨⟨control, hcontrol⟩, -⟩
        cases hcontrol
      · next control =>
        split at h
        · next hsocket =>
          -- a socket that is reported closed is passed over
          obtain rfl := Option.some.inj h
          exact .again ⟨⟨control, rfl⟩, fun hopen => absurd hopen hsocket⟩
        · next hsocket =>
          split at h
          · next hpeer =>
            -- the constructor of the session throws
            obtain rfl := Option.some.inj h
            refine .leaves fun _ _ _ => ?_
            rintro ⟨-, hconnected⟩
            exact hpeer (hconnected (not_not.mp hsocket))
          · next hpeer =>
            obtain ⟨k, hk, rfl⟩ := Option.map_eq_some_iff.mp h
            exact .serves ⟨⟨control, rfl⟩, fun _ => not_not.mp hpeer⟩ hk

/-- No handler destroys the service. -/
theorem acceptHandler_alive {completion : AcceptCompletion}
    (h : l.acceptHandler completion = some l') : l'.alive = l.alive := by
  cases acceptHandler_handled h with
  | leaves => rfl
  | again => exact acceptOnce_alive
  | serves _ hk => exact acceptOnce_alive.trans (addSession_acceptor hk).2.2

/-- Entered with an open acceptor that waits for nobody, a handler leaves it listening exactly
    when the completion rearms it. -/
theorem acceptHandler_listening {completion : AcceptCompletion} (halive : l.alive = true)
    (hopen : l.isOpen = true) (hnone : l.outstanding = 0) (hc : completion ≠ .aborted)
    (h : l.acceptHandler completion = some l') :
    l'.Listening ↔ (AcceptEvent.completed completion).Rearms := by
  cases acceptHandler_handled h with
  | leaves hleaves =>
    refine iff_of_false ?_ (hleaves halive hopen hc)
    rintro ⟨-, hone⟩
    omega
  | again hrearms =>
    refine iff_of_true ⟨?_, ?_⟩ hrearms
    · rw [acceptOnce_isOpen, hopen]
    · rw [acceptOnce_outstanding hopen, hnone]
  | @serves arrival control k hservable hk =>
    obtain ⟨hkopen, hkzero, -⟩ := addSession_acceptor hk
    refine iff_of_true ⟨?_, ?_⟩ hservable
    · rw [acceptOnce_isOpen, hkopen, hopen]
    · rw [acceptOnce_outstanding (hkopen.trans hopen), hkzero, hnone]

/-- The ways an event changes the service. -/
inductive Stepped (l : AcceptLoop) : AcceptEvent → AcceptLoop → Prop
  | aborted (h : 0 < l.cancelled) :
      Stepped l (.completed .aborted) { l with cancelled := l.cancelled - 1 }
  | handled {completion : AcceptCompletion} {k : AcceptLoop} (hc : completion ≠ .aborted)
      (hpos : 0 < l.outstanding)
      (h : acceptHandler { l with outstanding := l.outstanding - 1 } completion = some k) :
      Stepped l (.completed completion) k
  | session {e : Event} {sessions : ServiceRun} (halive : l.alive = true)
      (h : l.sessions.step e = some sessions) :
      Stepped l (.session e) { l with sessions := sessions }
  | stop (halive : l.alive = true) : Stepped l .stop l.stop
  | destroy (halive : l.alive = true) : Stepped l .destroy { l.stop with alive := false }

/-- **One event.** -/
theorem step_stepped {e : AcceptEvent} (h : l.step e = some l') : l.Stepped e l' := by
  cases e with
  | stop =>
    simp only [step, Option.ite_none_right_eq_some, Option.some.injEq] at h
    obtain ⟨halive, rfl⟩ := h
    exact .stop halive
  | destroy =>
    simp only [step, Option.ite_none_right_eq_some, Option.some.injEq] at h
    obtain ⟨halive, rfl⟩ := h
    exact .destroy halive
  | session e =>
    cases e with
    | accept id => cases h
    | _ =>
      simp only [step, Option.ite_none_right_eq_some, Option.map_eq_some_iff] at h
      obtain ⟨halive, sessions, hsessions, rfl⟩ := h
      exact .session halive hsessions
  | completed completion =>
    cases completion with
    | aborted =>
      simp only [step, Option.ite_none_right_eq_some, Option.some.injEq] at h
      obtain ⟨hpos, rfl⟩ := h
      exact .aborted hpos
    | _ =>
      simp only [step, Option.ite_none_right_eq_some] at h
      exact .handled (fun hc => by cases hc) h.1 h.2

/-! ### Whole runs -/

/-- A service that has neither been stopped nor destroyed, and listens. -/
def Serving (l : AcceptLoop) : Prop := l.alive = true ∧ l.Listening

/-- A successful `start` leaves the service listening. -/
theorem start_listening {setup : AcceptorSetup} (h : l.start setup = (l', true)) :
    l'.Listening ∧ l'.alive = l.alive := by
  unfold start at h
  -- the only branch that reports success is the one without an error
  repeat' split at h
  · obtain rfl := (Prod.mk.inj h).1
    exact ⟨⟨rfl, rfl⟩, rfl⟩
  all_goals simp at h

/-- `start` is no concern of the sessions. -/
theorem start_sessions (setup : AcceptorSetup) :
    (l.start setup).1.sessions = l.sessions ∧ (l.start setup).1.captured = l.captured := by
  unfold start
  repeat' split
  all_goals simp [stop]

/-- **From a service that serves**, an event leaves it serving exactly when it rearms the
    acceptor. -/
theorem serving_step (hl : l.Serving) {e : AcceptEvent} (he : e.Continues)
    (h : l.step e = some l') : l'.Serving ↔ e.Rearms := by
  obtain ⟨halive, hlistening⟩ := hl
  cases step_stepped h with
  | stop => exact he.elim
  | destroy => exact he.elim
  | session => exact iff_of_true ⟨halive, hlistening⟩ trivial
  | aborted => exact iff_of_true ⟨halive, hlistening⟩ trivial
  | handled hc _ hhandler =>
    -- the handler is entered with the one `async_accept` used up
    have hzero : l.outstanding - 1 = 0 := by rw [hlistening.2]
    refine (and_iff_right ?_).trans (acceptHandler_listening
      (l := { l with outstanding := l.outstanding - 1 }) halive hlistening.1 hzero hc hhandler)
    exact (acceptHandler_alive hhandler).trans halive

/-- Only the destructor ends a service. -/
theorem alive_step {e : AcceptEvent} (he : e.Continues) (hl : l.alive = true)
    (h : l.step e = some l') : l'.alive = true := by
  cases step_stepped h with
  | stop => exact he.elim
  | destroy => exact he.elim
  | session => exact hl
  | aborted => exact hl
  | handled _ _ hhandler => exact (acceptHandler_alive hhandler).trans hl

/-- **When the accept loop survives.**  After every successful `start` and along every run
    without `stop`, the acceptor is open and waits for exactly one client in each state between
    two handlers if and only if every accepted connection finds the publisher, its control
    session and its own peer still there. -/
theorem listening_along_iff {l r r' : AcceptLoop} {setup : AcceptorSetup}
    {events : List AcceptEvent} (halive : l.alive = true) (hstart : l.start setup = (r, true))
    (hevents : ∀ e ∈ events, e.Continues) (hrun : run step r events = some r') :
    (∀ k u, run step r (events.take k) = some u → u.Listening) ↔
      ∀ e ∈ events, e.Rearms := by
  obtain ⟨hlistening, hkept⟩ := start_listening hstart
  have hserving : r.Serving := ⟨hkept.trans halive, hlistening⟩
  have hexact := run_exact (I := Serving) (A := AcceptEvent.Continues)
    (G := fun _ e => e.Rearms) (fun s e t hs he ht => serving_step hs he ht) hserving hevents hrun
  rw [along_iff_forall hrun] at hexact
  rw [← hexact]
  refine forall₂_congr fun k u => imp_congr_right fun hu => ?_
  -- the service is not destroyed on the way
  have hcontinues : Along step (fun _ e => e.Continues) r (events.take k) :=
    (along_iff_forall hu).mpr fun e he => hevents e (List.mem_of_mem_take he)
  exact (and_iff_right (run_invariant (fun s e t hs he ht => alive_step he hs ht) hserving.1
    hcontinues hu)).symm

/-- Two clients that are served, one after a failed accept. -/
theorem listening_along_iff_served :
    (∀ k u, run step (({} : AcceptLoop).start {}).1
        ([.completed (.accepted ⟨some (some 0), true, "c", true⟩), .completed .failed,
          .completed (.accepted ⟨some (some 0), true, "d", true⟩)].take k) = some u →
        u.Listening) ↔
      ∀ e ∈ [.completed (.accepted ⟨some (some 0), true, "c", true⟩), .completed .failed,
          .completed (.accepted ⟨some (some 0), true, "d", true⟩)], AcceptEvent.Rearms e :=
  listening_along_iff rfl (show ({} : AcceptLoop).start {} = (_, true) from rfl)
    (by simp [AcceptEvent.Continues]) rfl

/-- A client that comes while there is no control session, or one that is gone before its
    session is made, is the last: the acceptor stays open and waits for nobody. -/
theorem listening_lost :
    ∃ r, ({} : AcceptLoop).start {} = (r, true) ∧
      ∀ arrival ∈ [(⟨some none, true, "c", true⟩ : Arrival), ⟨some (some 0), true, "c", false⟩],
        ∃ r', run step r [.completed (.accepted arrival)] = some r' ∧
          r'.isOpen = true ∧ r'.outstanding = 0 := by
  refine ⟨_, rfl, ?_⟩
  rintro arrival harrival
  rcases List.mem_pair.mp harrival with rfl | rfl
  · exact ⟨_, rfl, rfl, rfl⟩
  · exact ⟨_, rfl, rfl, rfl⟩

/-! ### The sessions -/

/-- The sessions after an event of the acceptor: as before, or with one more. -/
inductive Admits (l l' : AcceptLoop) : Prop
  | nobody (hsessions : l'.sessions = l.sessions) (hcaptured : l'.captured = l.captured)
  | session {id : TunnelId} {control : SessionId}
      (hsessions : l.sessions.step (.accept id) = some l'.sessions)
      (hcaptured : l'.captured = (id, control) :: l.captured)

/-- What a handler does to the sessions. -/
theorem acceptHandler_admits {completion : AcceptCompletion}
    (h : l.acceptHandler completion = some l') : l.Admits l' := by
  cases acceptHandler_handled h with
  | leaves => exact .nobody rfl rfl
  | again => exact .nobody acceptOnce_sessions acceptOnce_captured
  | @serves arrival control k _ hk =>
    obtain ⟨sessions, hsessions, rfl⟩ := Option.map_eq_some_iff.mp hk
    refine @Admits.session _ _ arrival.tunnelId control ?_ ?_
    · rw [acceptOnce_sessions]
      exact hsessions
    · rw [acceptOnce_captured]

/-- **What the acceptor does to the sessions.** -/
theorem step_admits {e : AcceptEvent} (he : ∀ s, e ≠ .session s) (h : l.step e = some l') :
    l.Admits l' := by
  cases step_stepped h with
  | stop => exact .nobody rfl rfl
  | destroy => exact .nobody rfl rfl
  | aborted => exact .nobody rfl rfl
  | session => exact absurd rfl (he _)
  | handled _ _ hhandler =>
    cases acceptHandler_admits hhandler with
    | nobody hsessions hcaptured => exact .nobody hsessions hcaptured
    | session hsessions hcaptured => exact .session hsessions hcaptured

/-- **The sessions are those of a service run.**  Whatever the acceptor does, the sessions
    are reached by the completions of `ServiceRun`. -/
theorem sessions_reached {events : List AcceptEvent} (hrun : run step l events = some l') :
    Relation.ReflTransGen (fun r r' : ServiceRun => ∃ e, r.step e = some r') l.sessions
      l'.sessions := by
  have hsimulates := run_simulates (R := fun l r => l.sessions = r)
    (T := fun r r' : ServiceRun => ∃ e, r.step e = some r') ?_ rfl hrun
  · obtain ⟨r, hr, rfl⟩ := hsimulates
    exact hr
  · rintro l r e l' rfl h
    cases e with
    | session e =>
      cases step_stepped h with
      | session _ hsessions => exact ⟨_, .single ⟨e, hsessions⟩, rfl⟩
    | _ =>
      cases step_admits (fun s hs => by cases hs) h with
      | nobody hsessions => exact ⟨l'.sessions, hsessions ▸ .refl, rfl⟩
      | session hsessions => exact ⟨l'.sessions, .single ⟨_, hsessions⟩, rfl⟩

end AcceptLoop

end TunnelBore.Broker
