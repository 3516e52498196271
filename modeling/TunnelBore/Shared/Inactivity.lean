import TunnelBore.Lib.Run
import TunnelBore.Lib.Watchdog

namespace TunnelBore

open TunnelBore.Lib

/-!
# Inactivity

The sessions of both programs have a `deadline_timer` that every transfer sets to 30 seconds, and
a handler that closes the session when a wait has expired.  A wait may expire, and then the timer
be set by a transfer on another thread, before the handler runs.  `TunnelSession` of the broker
looks at the expiry again in its handler; `ServiceSession` of the publisher does not.

* `TunnelTimer`, `ServiceTimer` — the two classes, as far as their timers go;
* `Timely` — the handler closes no session before 30 seconds after the timer was armed last;
* `Overtaken` — an end of an earlier wait is delivered to an active session before that;
* `inactivity_timely_iff` — the broker is timely in every run, the publisher in exactly those in
  which nothing is overtaken.
-/

/-- A time in microseconds, which a `deadline_timer` counts in. -/
abbrev Time := Nat

/-- `boost::posix_time::seconds`. -/
def seconds (n : Nat) : Time := n * 1000000

/-- What happens to a session and its timer. -/
inductive TimerEvent
  | resetTimer
  | advance (duration : Time)
  /-- The waits end whose time has come. -/
  | fire
  /-- The handler of a wait that has ended runs. -/
  | deliver (i : Nat)
  /-- `close` is called, not by the handler. -/
  | close
  /-- The destructor of the session runs. -/
  | destroy
  deriving DecidableEq, Repr

/-- When the handler closes a session in a step, 30 seconds have passed since the last call of
    `resetTimer` that armed the timer. -/
def ClosesTimely {σ : Type} (step : σ → TimerEvent → Option σ) (watchdog : σ → Watchdog)
    (isOpen : σ → Bool) (s : σ) (e : TimerEvent) : Prop :=
  ∀ i t, e = .deliver i → step s e = some t → isOpen s = true → isOpen t = false →
    (watchdog s).armedAt + seconds 30 ≤ (watchdog s).now

namespace Broker

/-- The parts of a `TunnelSession` that its timer depends on. -/
structure TunnelTimer where
  watchdog : Watchdog
  timerWasCancelled : Bool := false
  wasClosed : Bool := false
  /-- A `weak_ptr` to the session can be locked. -/
  alive : Bool := true
  deriving DecidableEq, Repr

namespace TunnelTimer

/-- `TunnelSession::InactivityTimeout`. -/
def InactivityTimeout : Time := seconds 30

variable (s : TunnelTimer)

/-- `TunnelSession::cancelTimer`. -/
def cancelTimer : TunnelTimer :=
  { s with watchdog := s.watchdog.cancel, timerWasCancelled := true }

/-- `TunnelSession::close`. -/
def close : TunnelTimer := { s.cancelTimer with wasClosed := true }

/-- `TunnelSession::~TunnelSession`. -/
def destroy : TunnelTimer := { s.cancelTimer.close with alive := false }

/-- `TunnelSession::resetTimer`. -/
def resetTimer : TunnelTimer :=
  if s.wasClosed then s
  else if s.timerWasCancelled then s
  else { s with watchdog := s.watchdog.arm InactivityTimeout }

/-- The handler of `TunnelSession::resetTimer`. -/
def onTimer (ended : WaitEnd) : TunnelTimer :=
  match ended with
  | .aborted => s
  | .expired =>
    if !s.alive then s
    -- a transfer may have moved the deadline
    else if s.watchdog.expiresAt ≤ s.watchdog.now then s.close
    else s

/-- One event; `none` when it cannot happen. -/
def step : TimerEvent → Option TunnelTimer
  | .resetTimer       => if s.alive then some s.resetTimer else none
  | .advance duration => some { s with watchdog := s.watchdog.advance duration }
  | .fire             => s.watchdog.fire.map fun watchdog => { s with watchdog := watchdog }
  | .deliver i        =>
    (s.watchdog.take i).map fun (ended, watchdog) =>
      onTimer { s with watchdog := watchdog } ended.2
  | .close            => if s.alive then some s.close else none
  | .destroy          => if s.alive then some s.destroy else none

/-- A new session. -/
def start (now : Time) : TunnelTimer where
  watchdog := { now := now }

/-- The handler closes no session early. -/
def Timely : TunnelTimer → TimerEvent → Prop :=
  ClosesTimely step watchdog fun s => !s.wasClosed

variable {s t : TunnelTimer} {e : TimerEvent}

/-- **One event of the broker** leaves the timer good. -/
theorem good_step (h : s.watchdog.Good InactivityTimeout) (hstep : s.step e = some t) :
    t.watchdog.Good InactivityTimeout := by
  cases e with
  | resetTimer =>
    simp only [step, Option.ite_none_right_eq_some, Option.some.injEq] at hstep
    obtain ⟨-, rfl⟩ := hstep
    unfold resetTimer
    split
    · exact h
    · split
      · exact h
      · exact h.arm
  | advance duration =>
    obtain rfl := Option.some.inj hstep
    exact h.advance duration
  | fire =>
    obtain ⟨watchdog, hfire, rfl⟩ := Option.map_eq_some_iff.mp hstep
    exact h.fire hfire
  | deliver i =>
    obtain ⟨⟨ended, watchdog⟩, htake, rfl⟩ := Option.map_eq_some_iff.mp hstep
    have htaken : watchdog.Good InactivityTimeout := h.take htake
    obtain ⟨k, ended⟩ := ended
    cases ended with
    | aborted => exact htaken
    | expired =>
      simp only [onTimer]
      split
      · exact htaken
      · split
        · exact htaken.cancel
        · exact htaken
  | close =>
    simp only [step, Option.ite_none_right_eq_some, Option.some.injEq] at hstep
    obtain ⟨-, rfl⟩ := hstep
    exact h.cancel
  | destroy =>
    simp only [step, Option.ite_none_right_eq_some, Option.some.injEq] at hstep
    obtain ⟨-, rfl⟩ := hstep
    exact h.cancel.cancel

/-- When the handler closes a session. -/
theorem wasClosed_onTimer (s : TunnelTimer) (ended : WaitEnd) :
    (s.onTimer ended).wasClosed = true ↔ s.wasClosed = true ∨
      (ended = .expired ∧ s.alive = true ∧ s.watchdog.expiresAt ≤ s.watchdog.now) := by
  cases ended with
  | aborted => simp [onTimer]
  | expired =>
    cases halive : s.alive with
    | false => simp [onTimer, halive]
    | true =>
      by_cases hdue : s.watchdog.expiresAt ≤ s.watchdog.now
      · simp [onTimer, halive, hdue, close]
      · simp [onTimer, halive, hdue]

/-- **The broker's handler** closes on an expiry that has passed, so it is never early. -/
theorem timely_of_good (h : s.watchdog.Good InactivityTimeout) : Timely s e := by
  rintro i t rfl hstep hopen hclosed
  obtain ⟨⟨⟨k, ended⟩, watchdog⟩, htake, rfl⟩ := Option.map_eq_some_iff.mp hstep
  obtain ⟨hqueued, rfl⟩ := Watchdog.take_eq_some.mp htake
  have hcause := (wasClosed_onTimer _ _).mp ((Bool.not_eq_false' _).mp hclosed)
  rcases hcause with hwas | ⟨hended, -, hdue⟩
  · -- it was closed before
    exact absurd hwas ((Bool.not_eq_true' _).mp hopen ▸ Bool.false_ne_true)
  · obtain rfl : ended = .expired := hended
    obtain ⟨-, hpos, -⟩ := h.expired k (List.mem_of_getElem? hqueued)
    have hset : s.watchdog.expiresAt = s.watchdog.armedAt + seconds 30 := h.expiresAt hpos
    rw [← hset]
    exact hdue

end TunnelTimer

end Broker

namespace Publisher

/-- The parts of a `ServiceSession` that its timer depends on. -/
structure ServiceTimer where
  watchdog : Watchdog
  active : Bool := true
  /-- A `weak_ptr` to the session can be locked. -/
  alive : Bool := true
  deriving DecidableEq, Repr

namespace ServiceTimer

variable (s : ServiceTimer)

/-- `ServiceSession::close`. -/
def close : ServiceTimer := { s with active := false }

/-- `ServiceSession::~ServiceSession`. -/
def destroy : ServiceTimer :=
  { close { s with watchdog := s.watchdog.cancel } with alive := false }

/-- `ServiceSession::resetTimer`. -/
def resetTimer : ServiceTimer := { s with watchdog := s.watchdog.arm (seconds 30) }

/-- The handler of `ServiceSession::resetTimer`. -/
def onTimer (ended : WaitEnd) : ServiceTimer :=
  match ended with
  | .aborted => s
  | .expired => if !s.alive then s else s.close

/-- One event; `none` when it cannot happen. -/
def step : TimerEvent → Option ServiceTimer
  | .resetTimer       => if s.alive then some s.resetTimer else none
  | .advance duration => some { s with watchdog := s.watchdog.advance duration }
  | .fire             => s.watchdog.fire.map fun watchdog => { s with watchdog := watchdog }
  | .deliver i        =>
    (s.watchdog.take i).map fun (ended, watchdog) =>
      onTimer { s with watchdog := watchdog } ended.2
  | .close            => if s.alive then some s.close else none
  | .destroy          => if s.alive then some s.destroy else none

/-- A new session. -/
def start (now : Time) : ServiceTimer where
  watchdog := { now := now }

/-- The handler closes no session early. -/
def Timely : ServiceTimer → TimerEvent → Prop := ClosesTimely step watchdog active

/-- A wait that expired before the timer was armed last is delivered to an active session within
    30 seconds of that. -/
def Overtaken (s : ServiceTimer) : TimerEvent → Prop
  | .deliver i =>
    ∃ k < s.watchdog.armings, s.watchdog.queued[i]? = some (k, .expired) ∧
      s.alive = true ∧ s.active = true ∧ s.watchdog.now < s.watchdog.armedAt + seconds 30
  | _ => False

variable {s t : ServiceTimer} {e : TimerEvent}

/-- **One event of the publisher** leaves the timer good. -/
theorem good_step (h : s.watchdog.Good (seconds 30)) (hstep : s.step e = some t) :
    t.watchdog.Good (seconds 30) := by
  cases e with
  | resetTimer =>
    simp only [step, Option.ite_none_right_eq_some, Option.some.injEq] at hstep
    obtain ⟨-, rfl⟩ := hstep
    exact h.arm
  | advance duration =>
    obtain rfl := Option.some.inj hstep
    exact h.advance duration
  | fire =>
    obtain ⟨watchdog, hfire, rfl⟩ := Option.map_eq_some_iff.mp hstep
    exact h.fire hfire
  | deliver i =>
    obtain ⟨⟨ended, watchdog⟩, htake, rfl⟩ := Option.map_eq_some_iff.mp hstep
    have htaken : watchdog.Good (seconds 30) := h.take htake
    obtain ⟨k, ended⟩ := ended
    cases ended with
    | aborted => exact htaken
    | expired =>
      simp only [onTimer]
      split
      · exact htaken
      · exact htaken
  | close =>
    simp only [step, Option.ite_none_right_eq_some, Option.some.injEq] at hstep
    obtain ⟨-, rfl⟩ := hstep
    exact h
  | destroy =>
    simp only [step, Option.ite_none_right_eq_some, Option.some.injEq] at hstep
    obtain ⟨-, rfl⟩ := hstep
    exact h.cancel

/-- When the handler closes a session. -/
theorem active_onTimer (s : ServiceTimer) (ended : WaitEnd) :
    (s.onTimer ended).active = false ↔
      s.active = false ∨ (ended = .expired ∧ s.alive = true) := by
  cases ended with
  | aborted => simp [onTimer]
  | expired =>
    cases halive : s.alive with
    | false => simp [onTimer, halive]
    | true => simp [onTimer, halive, close]

/-- **The publisher's handler** closes on every expired wait, so it is early exactly on one of an
    earlier arming. -/
theorem timely_iff_of_good (h : s.watchdog.Good (seconds 30)) : Timely s e ↔ ¬s.Overtaken e := by
  constructor
  · intro htimely hovertaken
    cases e with
    | deliver i =>
      obtain ⟨k, -, hqueued, halive, hactive, hearly⟩ := hovertaken
      have htake := Watchdog.take_eq_some.mpr ⟨hqueued, rfl⟩
      have hdue := htimely i _ rfl (Option.map_eq_some_iff.mpr ⟨_, htake, rfl⟩) hactive
        ((active_onTimer _ _).mpr (.inr ⟨rfl, halive⟩))
      omega
    | _ => exact hovertaken
  · rintro hnot i t rfl hstep hactive hclosed
    obtain ⟨⟨⟨k, ended⟩, watchdog⟩, htake, rfl⟩ := Option.map_eq_some_iff.mp hstep
    obtain ⟨hqueued, rfl⟩ := Watchdog.take_eq_some.mp htake
    rcases (active_onTimer _ _).mp hclosed with hinactive | ⟨hended, halive⟩
    · -- it was inactive before
      exact absurd hactive (Bool.eq_false_iff.mp hinactive)
    · obtain rfl : ended = .expired := hended
      have hmem : (k, WaitEnd.expired) ∈ s.watchdog.queued := List.mem_of_getElem? hqueued
      rcases h.latest_or_earlier hmem with rfl | hearlier
      · -- a wait of the last arming has had its time
        exact h.due hmem
      · by_contra hearly
        exact hnot ⟨k, hearlier, hqueued, halive, hactive, by omega⟩

end ServiceTimer

end Publisher

/-! ### The two together -/

/-- **Inactivity closes inactive sessions only**: in the broker in every run, in the publisher in
    exactly the runs in which no expired wait is overtaken. -/
theorem inactivity_timely_iff (now : Time) :
    (∀ events, Along Broker.TunnelTimer.step Broker.TunnelTimer.Timely (.start now) events) ∧
      ∀ events,
        Along Publisher.ServiceTimer.step Publisher.ServiceTimer.Timely (.start now) events ↔
          Along Publisher.ServiceTimer.step (fun s e => ¬s.Overtaken e) (.start now) events := by
  constructor
  · exact along_of_invariant (fun _ _ _ h hstep => Broker.TunnelTimer.good_step h hstep)
      (fun _ _ h => Broker.TunnelTimer.timely_of_good h) (Watchdog.good_start now)
  · exact along_congr (fun _ _ _ h hstep => Publisher.ServiceTimer.good_step h hstep)
      (fun _ _ h => Publisher.ServiceTimer.timely_iff_of_good h) (Watchdog.good_start now)

/-- A transfer arms the timer, 30 seconds pass, the wait expires, and before its handler runs
    another transfer arms the timer again. -/
def overtakenEvents : List TimerEvent :=
  [.resetTimer, .advance (seconds 30), .fire, .resetTimer, .deliver 0]

/-- The publisher's session is closed in the moment of a transfer; the broker's stays open. -/
theorem inactivity_overtaken :
    ¬Along Publisher.ServiceTimer.step Publisher.ServiceTimer.Timely (.start 0) overtakenEvents ∧
      (run Publisher.ServiceTimer.step (.start 0) overtakenEvents).map (fun s =>
        (s.active, s.watchdog.armedAt, s.watchdog.now)) =
          some (false, seconds 30, seconds 30) ∧
      (run Broker.TunnelTimer.step (.start 0) overtakenEvents).map
        Broker.TunnelTimer.wasClosed = some false := by
  refine ⟨?_, by decide, by decide⟩
  intro htimely
  -- in the state after the first four events the handler runs
  have hsplit : Along Publisher.ServiceTimer.step Publisher.ServiceTimer.Timely (.start 0)
      (overtakenEvents.take 4 ++ [.deliver 0]) := htimely
  have hlast := hsplit.of_run rfl
  exact absurd (hlast.1 0 _ rfl rfl rfl rfl) (by decide)

end TunnelBore
