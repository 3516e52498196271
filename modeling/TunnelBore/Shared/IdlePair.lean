import TunnelBore.Shared.Inactivity
import TunnelBore.Shared.PipeOperation
import Mathlib.Logic.Function.Basic

namespace TunnelBore

open TunnelBore.Lib

/-!
# Inactivity of a linked pair

Two linked sessions have a timer each, and two pipes set them.  A read sets the timer of the
session that was read and then that of the other one, where it is written; a write that is
complete sets both; a write that is not sets only that of the session written to.  So what goes
in one direction keeps both sessions open.

* `SessionTimer` — what the two programs' session classes have in common, with `TunnelTimer` and
  `ServiceTimer` as its instances;
* `TimedPair.step` — the clock, the timers and the pipes;
* `Keeps` — the invariant of one session of a pair, `Keeps.step_event` its step lemma;
* `inactive_pair_ends` — a session is closed only after 30 seconds without a transfer in either
  direction, and its end is under way after 30 seconds without a completion.
-/

/-! ### Sessions with a timer -/

/-- The time that an event takes. -/
def TimerEvent.elapsed : TimerEvent → Time
  | .advance duration => duration
  | _                 => 0

/-- What an event can do to the timer of a session. -/
inductive Turns (w : Watchdog) : TimerEvent → Watchdog → Prop
  | kept (e : TimerEvent) (h : e.elapsed = 0) : Turns w e w
  | armed : Turns w .resetTimer (w.arm (seconds 30))
  | advanced (duration : Time) : Turns w (.advance duration) (w.advance duration)
  | fired (v : Watchdog) (h : w.fire = some v) : Turns w .fire v
  | taken (i : Nat) (ended : Nat × WaitEnd) (v : Watchdog) (h : w.take i = some (ended, v)) :
      Turns w (.deliver i) v
  /-- It is cancelled after that. -/
  | cancelled (e : TimerEvent) (v : Watchdog) (h : Turns w e v) : Turns w e v.cancel

section
variable {w v : Watchdog} {e : TimerEvent}

theorem Turns.now (h : Turns w e v) : v.now = w.now + e.elapsed := by
  induction h with
  | kept e h => rw [h]; rfl
  | armed => rfl
  | advanced duration => rfl
  | fired v h =>
    simp only [Watchdog.fire, Option.ite_none_right_eq_some, Option.some.injEq] at h
    obtain ⟨-, rfl⟩ := h
    rfl
  | taken i ended v h =>
    obtain ⟨-, rfl⟩ := Watchdog.take_eq_some.mp h
    rfl
  | cancelled e v _ ih => exact ih

/-- Only `resetTimer` arms a timer. -/
theorem Turns.armedAt (h : Turns w e v) :
    w.armings ≤ v.armings ∧
      (v.armedAt = w.armedAt ∨ e = .resetTimer ∧ v.armedAt = w.now) := by
  induction h with
  | kept e h => exact ⟨Nat.le_refl _, .inl rfl⟩
  | armed => exact ⟨Nat.le_succ _, .inr ⟨rfl, rfl⟩⟩
  | advanced duration => exact ⟨Nat.le_refl _, .inl rfl⟩
  | fired v h =>
    simp only [Watchdog.fire, Option.ite_none_right_eq_some, Option.some.injEq] at h
    obtain ⟨-, rfl⟩ := h
    exact ⟨Nat.le_refl _, .inl rfl⟩
  | taken i ended v h =>
    obtain ⟨-, rfl⟩ := Watchdog.take_eq_some.mp h
    exact ⟨Nat.le_refl _, .inl rfl⟩
  | cancelled e v _ ih => exact ih

theorem Turns.good (h : Turns w e v) (hgood : w.Good (seconds 30)) : v.Good (seconds 30) := by
  induction h with
  | kept e h => exact hgood
  | armed => exact hgood.arm
  | advanced duration => exact hgood.advance duration
  | fired v h => exact hgood.fire h
  | taken i ended v h => exact hgood.take h
  | cancelled e v _ ih => exact ih.cancel

end

/-- A class of sessions with an inactivity timer. -/
structure SessionTimer (σ : Type) where
  step : σ → TimerEvent → Option σ
  watchdog : σ → Watchdog
  /-- The session exists and has not been closed. -/
  isOpen : σ → Bool

namespace SessionTimer

variable {σ : Type} (T : SessionTimer σ)

/-- A call through a weak pointer, which does nothing when the session is gone. -/
def apply (x : σ) (e : TimerEvent) : σ := (T.step x e).getD x

/-- What a pair needs of a class of sessions: its invariant, and the deliveries that close a
    session early. -/
structure Lawful (Inv : σ → Prop) (Early : σ → TimerEvent → Prop) : Prop where
  inv_step : ∀ {x y e}, Inv x → T.step x e = some y → Inv y
  turns : ∀ {x y e}, T.step x e = some y → Turns (T.watchdog x) e (T.watchdog y)
  clock : ∀ x duration, ∃ y, T.step x (.advance duration) = some y
  isOpen_step : ∀ {x y e}, T.step x e = some y → T.isOpen y = true → T.isOpen x = true
  /-- `resetTimer` arms the timer of an open session. -/
  reset : ∀ {x}, Inv x → T.isOpen x = true → ∃ y, T.step x .resetTimer = some y ∧
    T.watchdog y = (T.watchdog x).arm (seconds 30)
  /-- As long as a session is open its timer is watched. -/
  watched : ∀ {x y e}, (T.watchdog x).Good (seconds 30) → T.step x e = some y →
    T.isOpen y = true → (T.watchdog x).Watched → (T.watchdog y).Watched
  /-- The end of the last arming closes an open session. -/
  closes : ∀ {x i}, (T.watchdog x).Good (seconds 30) → T.isOpen x = true →
    (T.watchdog x).queued[i]? = some ((T.watchdog x).armings, .expired) →
      ∃ y, T.step x (.deliver i) = some y ∧ T.isOpen y = false
  timely : ∀ {x y i}, (T.watchdog x).Good (seconds 30) → ¬Early x (.deliver i) →
    T.step x (.deliver i) = some y → T.isOpen x = true → T.isOpen y = false →
      (T.watchdog x).armedAt + seconds 30 ≤ (T.watchdog x).now

end SessionTimer

/-! ### The broker -/

namespace Broker.TunnelTimer

/-- The sessions of the broker. -/
def sessionTimer : SessionTimer TunnelTimer where
  step := step
  watchdog := watchdog
  isOpen s := s.alive && !s.wasClosed

/-- The timer is cancelled for good by `close` only. -/
def ClosedIfCancelled (s : TunnelTimer) : Prop :=
  s.timerWasCancelled = true → s.wasClosed = true

/-- What an event does to a session. -/
inductive Steps (s : TunnelTimer) : TimerEvent → TunnelTimer → Prop
  | ignored (h : s.wasClosed = true ∨ s.timerWasCancelled = true) : Steps s .resetTimer s
  | armed : Steps s .resetTimer { s with watchdog := s.watchdog.arm InactivityTimeout }
  | advanced (duration : Time) :
      Steps s (.advance duration) { s with watchdog := s.watchdog.advance duration }
  | fired (v : Watchdog) (h : s.watchdog.fire = some v) : Steps s .fire { s with watchdog := v }
  /-- The handler finds nothing to do. -/
  | delivered (i : Nat) (ended : Nat × WaitEnd) (v : Watchdog)
      (h : s.watchdog.take i = some (ended, v))
      (hidle : ended.2 = .aborted ∨ s.alive = false ∨ v.now < v.expiresAt) :
      Steps s (.deliver i) { s with watchdog := v }
  | expired (i : Nat) (k : Nat) (v : Watchdog)
      (h : s.watchdog.take i = some ((k, .expired), v)) :
      Steps s (.deliver i) (close { s with watchdog := v })
  | closed : Steps s .close s.close
  | destroyed : Steps s .destroy s.destroy

variable {s t : TunnelTimer} {e : TimerEvent}

/-- **One event of a session.** -/
theorem steps_of_step (h : s.step e = some t) : Steps s e t := by
  cases e with
  | resetTimer =>
    simp only [step, Option.ite_none_right_eq_some, Option.some.injEq] at h
    obtain ⟨-, rfl⟩ := h
    unfold resetTimer
    split
    · next hclosed => exact .ignored (.inl hclosed)
    · split
      · next hcancelled => exact .ignored (.inr hcancelled)
      · exact .armed
  | advance duration =>
    obtain rfl := Option.some.inj h
    exact .advanced duration
  | fire =>
    obtain ⟨v, hfire, rfl⟩ := Option.map_eq_some_iff.mp h
    exact .fired v hfire
  | deliver i =>
    obtain ⟨⟨⟨k, ended⟩, v⟩, htake, rfl⟩ := Option.map_eq_some_iff.mp h
    cases ended with
    | aborted => exact .delivered i _ v htake (.inl rfl)
    | expired =>
      simp only [onTimer]
      split
      · next hgone => exact .delivered i _ v htake (.inr (.inl (by simpa using hgone)))
      · split
        · exact .expired i k v htake
        · next hearly => exact .delivered i _ v htake (.inr (.inr (Nat.lt_of_not_le hearly)))
  | close =>
    simp only [step, Option.ite_none_right_eq_some, Option.some.injEq] at h
    obtain ⟨-, rfl⟩ := h
    exact .closed
  | destroy =>
    simp only [step, Option.ite_none_right_eq_some, Option.some.injEq] at h
    obtain ⟨-, rfl⟩ := h
    exact .destroyed

theorem isOpen_eq_true : sessionTimer.isOpen s = true ↔ s.alive = true ∧ s.wasClosed = false := by
  simp [sessionTimer]

/-- What is closed is not open. -/
theorem isOpen_close (s : TunnelTimer) : sessionTimer.isOpen s.close = false := by
  simp [sessionTimer, close]

/-- **The broker's sessions** are closed by the last end of their timers, and never early. -/
theorem lawful : sessionTimer.Lawful ClosedIfCancelled fun _ _ => False where
  inv_step {s t e} h hstep := by
    cases steps_of_step hstep with
    | ignored | armed | advanced | fired | delivered => exact h
    | expired | closed | destroyed => exact fun _ => rfl
  turns {s t e} hstep := by
    cases steps_of_step hstep with
    | ignored => exact .kept _ rfl
    | armed => exact .armed
    | advanced duration => exact .advanced duration
    | fired v h => exact .fired v h
    | delivered i ended v h => exact .taken i ended v h
    | expired i k v h => exact .cancelled _ _ (.taken i _ v h)
    | closed => exact .cancelled _ _ (.kept _ rfl)
    | destroyed => exact .cancelled _ _ (.cancelled _ _ (.kept _ rfl))
  clock _ _ := ⟨_, rfl⟩
  isOpen_step {s t e} hstep hopen := by
    cases steps_of_step hstep with
    | ignored | armed | advanced | fired | delivered => exact hopen
    | expired | closed => exact absurd hopen (by rw [isOpen_close]; exact Bool.false_ne_true)
    | destroyed => exact absurd (isOpen_eq_true.mp hopen).1 Bool.false_ne_true
  reset {s} h hopen := by
    obtain ⟨halive, hclosed⟩ := isOpen_eq_true.mp hopen
    have hcancelled : s.timerWasCancelled = false := by
      cases hcancelled : s.timerWasCancelled with
      | false => rfl
      | true => exact absurd (hclosed.symm.trans (h hcancelled)) Bool.false_ne_true
    refine ⟨{ s with watchdog := s.watchdog.arm InactivityTimeout }, ?_, rfl⟩
    simp [sessionTimer, step, resetTimer, halive, hclosed, hcancelled]
  watched {s t e} hgood hstep hopen hwatched := by
    cases steps_of_step hstep with
    | ignored | advanced => exact hwatched
    | armed => exact Watchdog.watched_arm _ _
    | fired v h => exact hwatched.fire h
    | delivered i ended v h hidle =>
      refine hwatched.take h ?_
      rintro rfl
      -- the end of the last arming would have closed the session
      obtain ⟨hget, rfl⟩ := Watchdog.take_eq_some.mp h
      obtain ⟨-, -, hdue⟩ := hgood.expired _ (List.mem_of_getElem? hget)
      rcases hidle with hended | hgone | hearly
      · cases hended
      · exact absurd (hgone.symm.trans (isOpen_eq_true.mp hopen).1) Bool.false_ne_true
      · exact absurd (hdue rfl) (Nat.not_le_of_lt hearly)
    | expired | closed => exact absurd hopen (by rw [isOpen_close]; exact Bool.false_ne_true)
    | destroyed => exact absurd (isOpen_eq_true.mp hopen).1 Bool.false_ne_true
  closes {s i} hgood hopen hget := by
    obtain ⟨-, -, hdue⟩ := hgood.expired _ (List.mem_of_getElem? hget)
    have htake := Watchdog.take_eq_some.mpr ⟨hget, rfl⟩
    refine ⟨_, Option.map_eq_some_iff.mpr ⟨_, htake, rfl⟩, ?_⟩
    have halive : s.alive = true := (isOpen_eq_true.mp hopen).1
    simp only [onTimer, halive, Bool.not_true, Bool.false_eq_true, if_false]
    rw [if_pos (hdue rfl)]
    exact isOpen_close _
  timely {s t i} hgood _ hstep hopen hclosed := by
    have hbefore : (!s.wasClosed) = true := by rw [(isOpen_eq_true.mp hopen).2]; rfl
    refine timely_of_good hgood i t rfl hstep hbefore ?_
    have hsteps : Steps s (.deliver i) t := steps_of_step hstep
    cases hsteps with
    | delivered => exact absurd (hclosed.symm.trans hopen) Bool.false_ne_true
    | expired => rfl

end Broker.TunnelTimer

/-! ### The publisher -/

namespace Publisher.ServiceTimer

/-- The sessions of the publisher. -/
def sessionTimer : SessionTimer ServiceTimer where
  step := step
  watchdog := watchdog
  isOpen s := s.alive && s.active

/-- What an event does to a session. -/
inductive Steps (s : ServiceTimer) : TimerEvent → ServiceTimer → Prop
  | armed : Steps s .resetTimer s.resetTimer
  | advanced (duration : Time) :
      Steps s (.advance duration) { s with watchdog := s.watchdog.advance duration }
  | fired (v : Watchdog) (h : s.watchdog.fire = some v) : Steps s .fire { s with watchdog := v }
  /-- The handler finds nothing to do. -/
  | delivered (i : Nat) (ended : Nat × WaitEnd) (v : Watchdog)
      (h : s.watchdog.take i = some (ended, v)) (hidle : ended.2 = .aborted ∨ s.alive = false) :
      Steps s (.deliver i) { s with watchdog := v }
  | expired (i : Nat) (k : Nat) (v : Watchdog)
      (h : s.watchdog.take i = some ((k, .expired), v)) :
      Steps s (.deliver i) (close { s with watchdog := v })
  | closed : Steps s .close s.close
  | destroyed : Steps s .destroy s.destroy

variable {s t : ServiceTimer} {e : TimerEvent}

/-- **One event of a session.** -/
theorem steps_of_step (h : s.step e = some t) : Steps s e t := by
  cases e with
  | resetTimer =>
    simp only [step, Option.ite_none_right_eq_some, Option.some.injEq] at h
    obtain ⟨-, rfl⟩ := h
    exact .armed
  | advance duration =>
    obtain rfl := Option.some.inj h
    exact .advanced duration
  | fire =>
    obtain ⟨v, hfire, rfl⟩ := Option.map_eq_some_iff.mp h
    exact .fired v hfire
  | deliver i =>
    obtain ⟨⟨⟨k, ended⟩, v⟩, htake, rfl⟩ := Option.map_eq_some_iff.mp h
    cases ended with
    | aborted => exact .delivered i _ v htake (.inl rfl)
    | expired =>
      simp only [onTimer]
      split
      · next hgone => exact .delivered i _ v htake (.inr (by simpa using hgone))
      · exact .expired i k v htake
  | close =>
    simp only [step, Option.ite_none_right_eq_some, Option.some.injEq] at h
    obtain ⟨-, rfl⟩ := h
    exact .closed
  | destroy =>
    simp only [step, Option.ite_none_right_eq_some, Option.some.injEq] at h
    obtain ⟨-, rfl⟩ := h
    exact .destroyed

theorem isOpen_eq_true : sessionTimer.isOpen s = true ↔ s.alive = true ∧ s.active = true := by
  simp [sessionTimer]

/-- What is closed is not open. -/
theorem isOpen_close (s : ServiceTimer) : sessionTimer.isOpen s.close = false := by
  simp [sessionTimer, close]

/-- **The publisher's sessions** are closed by every end of their timers, and early by one that
    was overtaken. -/
theorem lawful : sessionTimer.Lawful (fun _ => True) Overtaken where
  inv_step _ _ := trivial
  turns {s t e} hstep := by
    cases steps_of_step hstep with
    | armed => exact .armed
    | advanced duration => exact .advanced duration
    | fired v h => exact .fired v h
    | delivered i ended v h => exact .taken i ended v h
    | expired i k v h => exact .taken i _ v h
    | closed => exact .kept _ rfl
    | destroyed => exact .cancelled _ _ (.kept _ rfl)
  clock _ _ := ⟨_, rfl⟩
  isOpen_step {s t e} hstep hopen := by
    cases steps_of_step hstep with
    | armed | advanced | fired | delivered => exact hopen
    | expired | closed => exact absurd hopen (by rw [isOpen_close]; exact Bool.false_ne_true)
    | destroyed => exact absurd (isOpen_eq_true.mp hopen).1 Bool.false_ne_true
  reset {s} _ hopen :=
    ⟨s.resetTimer, if_pos (isOpen_eq_true.mp hopen).1, rfl⟩
  watched {s t e} hgood hstep hopen hwatched := by
    cases steps_of_step hstep with
    | advanced => exact hwatched
    | armed => exact Watchdog.watched_arm _ _
    | fired v h => exact hwatched.fire h
    | delivered i ended v h hidle =>
      refine hwatched.take h ?_
      rintro rfl
      rcases hidle with hended | hgone
      · cases hended
      · exact absurd (hgone.symm.trans (isOpen_eq_true.mp hopen).1) Bool.false_ne_true
    | expired | closed => exact absurd hopen (by rw [isOpen_close]; exact Bool.false_ne_true)
    | destroyed => exact absurd (isOpen_eq_true.mp hopen).1 Bool.false_ne_true
  closes {s i} hgood hopen hget := by
    have htake := Watchdog.take_eq_some.mpr ⟨hget, rfl⟩
    refine ⟨_, Option.map_eq_some_iff.mpr ⟨_, htake, rfl⟩, ?_⟩
    have halive : s.alive = true := (isOpen_eq_true.mp hopen).1
    simp only [onTimer, halive, Bool.not_true, Bool.false_eq_true, if_false]
    exact isOpen_close _
  timely {s t i} hgood hearly hstep hopen hclosed := by
    refine (timely_iff_of_good hgood).mpr hearly i t rfl hstep (isOpen_eq_true.mp hopen).2 ?_
    have hsteps : Steps s (.deliver i) t := steps_of_step hstep
    cases hsteps with
    | delivered => exact absurd (hclosed.symm.trans hopen) Bool.false_ne_true
    | expired => rfl

end Publisher.ServiceTimer

/-! ### One session of a pair -/

namespace SessionTimer

variable {σ : Type} (T : SessionTimer σ) (Inv : σ → Prop)

/-- What holds of a session, when a chunk was carried last at `carried` and a pipe had a completion
    last at `stirred`. -/
structure Keeps (carried : Option Time) (stirred now : Time) (x : σ) : Prop where
  inv : Inv x
  good : (T.watchdog x).Good (seconds 30)
  clock : (T.watchdog x).now = now
  armed : 0 < (T.watchdog x).armings
  watched : T.isOpen x = true → (T.watchdog x).Watched
  carried : T.isOpen x = true → ∀ moved ∈ carried, moved ≤ (T.watchdog x).armedAt
  stirred : (T.watchdog x).armedAt ≤ stirred

variable {T Inv} {Early : σ → TimerEvent → Prop} (L : T.Lawful Inv Early)
variable {carried carried' : Option Time} {stirred now : Time} {x y : σ} {e : TimerEvent}
include L

/-- An event of the session itself. -/
theorem Keeps.step (h : T.Keeps Inv carried stirred now x) (hstep : T.step x e = some y)
    (hother : e ≠ .resetTimer) : T.Keeps Inv carried stirred (now + e.elapsed) y := by
  have hturns := L.turns hstep
  have harmedAt : (T.watchdog y).armedAt = (T.watchdog x).armedAt :=
    hturns.armedAt.2.resolve_right fun hreset => hother hreset.1
  exact
    { inv := L.inv_step h.inv hstep
      good := hturns.good h.good
      clock := by rw [hturns.now, h.clock]
      armed := Nat.lt_of_lt_of_le h.armed hturns.armedAt.1
      watched := fun hopen =>
        L.watched h.good hstep hopen (h.watched (L.isOpen_step hstep hopen))
      carried := fun hopen => harmedAt ▸ h.carried (L.isOpen_step hstep hopen)
      stirred := harmedAt ▸ h.stirred }

/-- Its timer is set. -/
theorem Keeps.reset (h : T.Keeps Inv carried stirred now x) (hpast : stirred ≤ now)
    (hcarried : ∀ moved ∈ carried', moved ≤ now) :
    T.Keeps Inv carried' now now (T.apply x .resetTimer) := by
  unfold apply
  cases hstep : T.step x .resetTimer with
  | none =>
    -- only a session that is not open can be gone
    have hclosed : ¬T.isOpen x = true := by
      intro hopen
      obtain ⟨y, hy, -⟩ := L.reset h.inv hopen
      cases hstep.symm.trans hy
    exact { h with
      carried := fun hopen => absurd hopen hclosed
      stirred := Nat.le_trans h.stirred hpast }
  | some y =>
    have hturns := L.turns hstep
    have hwas : T.isOpen y = true → (T.watchdog y).armedAt = now := by
      intro hopen
      obtain ⟨z, hz, harm⟩ := L.reset h.inv (L.isOpen_step hstep hopen)
      obtain rfl := Option.some.inj (hstep.symm.trans hz)
      rw [harm, ← h.clock]
      rfl
    exact
      { inv := L.inv_step h.inv hstep
        good := hturns.good h.good
        clock := hturns.now.trans h.clock
        armed := Nat.lt_of_lt_of_le h.armed hturns.armedAt.1
        watched := fun hopen =>
          L.watched h.good hstep hopen (h.watched (L.isOpen_step hstep hopen))
        carried := fun hopen moved hmoved => (hwas hopen).symm ▸ hcarried moved hmoved
        stirred := by
          rcases hturns.armedAt.2 with hsame | ⟨-, hnow⟩
          · exact hsame ▸ Nat.le_trans h.stirred hpast
          · exact Nat.le_of_eq (hnow.trans h.clock) }

omit L in
/-- A pipe has had a completion. -/
theorem Keeps.later (h : T.Keeps Inv carried stirred now x) (hpast : stirred ≤ now) :
    T.Keeps Inv carried now now x :=
  { h with stirred := Nat.le_trans h.stirred hpast }

/-- A call of `close`, or the clock goes on. -/
theorem Keeps.apply (h : T.Keeps Inv carried stirred now x) (e : TimerEvent)
    (hother : e ≠ .resetTimer) (hclock : T.step x e = none → e.elapsed = 0) :
    T.Keeps Inv carried stirred (now + e.elapsed) (T.apply x e) := by
  unfold SessionTimer.apply
  cases hstep : T.step x e with
  | none =>
    rw [hclock hstep]
    exact h
  | some y => exact h.step L hstep hother

end SessionTimer

/-! ### What a completion does to the timers -/

namespace PipeOperation

/-- A session of a pipe: the one it reads from, or the one it writes to. -/
def sideAt (p : PipeOperation) (original : Bool) : Side :=
  if original then p.sideOriginal else p.sideOther

/-- The handler calls `resetTimer` on this session, if it still exists. -/
def resets (p : PipeOperation) (e : Event) (original : Bool) : Bool :=
  match e with
  | .readDone _ _ => p.alive && p.sideOriginal.alive
  | .writeDone ec bytesWritten =>
    match p.pending with
    | .write _ expectedWrittenAmount close _ =>
      if !p.alive || bytesWritten > expectedWrittenAmount then false
      -- the rest is written, for which only the timer of the other session is set
      else if expectedWrittenAmount != bytesWritten then !original
      else !(ec || close)
    | _ => false
  | _ => false

/-- A chunk is read, or written completely. -/
def carries (p : PipeOperation) : Event → Bool
  | .readDone _ _ => p.alive && p.sideOriginal.alive
  | .writeDone ec bytesWritten =>
    match p.pending with
    | .write _ expectedWrittenAmount close _ =>
      p.alive && bytesWritten == expectedWrittenAmount && !(ec || close)
    | _ => false
  | _ => false

/-- **What is carried sets both timers.** -/
theorem resets_of_carries {p : PipeOperation} {e : Event} (h : p.carries e = true)
    (original : Bool) : p.resets e original = true := by
  cases e with
  | readDone ec chunk => exact h
  | writeDone ec bytesWritten =>
    unfold carries at h
    unfold resets
    cases hpending : p.pending with
    | write offset amount close retries =>
      simp only [hpending, Bool.and_eq_true, beq_iff_eq] at h ⊢
      obtain ⟨⟨halive, rfl⟩, hgoesOn⟩ := h
      simp [halive, hgoesOn]
    | none => simp [hpending] at h
    | read => simp [hpending] at h
  | _ => cases h

end PipeOperation

/-! ### The pair -/

/-- One of the two sessions of a pair. -/
inductive PairSide
  | first
  | second
  deriving DecidableEq, Repr

/-- Two linked sessions, and for each the pipe that reads from it. -/
structure TimedPair (σ : Type) where
  sessions : PairSide → σ
  pipes : PairSide → PipeOperation := fun _ => {}
  now : Time
  /-- When a chunk was read or written completely last. -/
  carried : Option Time := none
  /-- When a pipe had an event last. -/
  stirred : Time

/-- What happens to a pair. -/
inductive PairEvent
  | advance (duration : Time)
  /-- Its timer ends a session's waits or its handler runs, or the session is closed or destroyed,
      by somebody else than the pipes. -/
  | session (side : PairSide) (e : TimerEvent)
  /-- Something happens to the pipe that reads from this session. -/
  | pipe (side : PairSide) (e : PipeOperation.Event)
  deriving DecidableEq, Repr

namespace TimedPair

variable {σ : Type} (T : SessionTimer σ)

/-- What the event of a pipe `p`, which it has made `q`, does to one of its sessions. -/
def settle (p q : PipeOperation) (e : PipeOperation.Event) (original : Bool) (x : σ) : σ :=
  let x := if p.resets e original then T.apply x .resetTimer else x
  if (q.sideAt original).closed && !(p.sideAt original).closed then T.apply x .close else x

/-- A session that is destroyed is not found by the pipes. -/
def forget (s : TimedPair σ) (side : PairSide) : PairSide → PipeOperation := fun v =>
  ((s.pipes v).step (if v = side then .originalDied else .otherDied)).getD (s.pipes v)

/-- One event; `none` when it cannot happen. -/
def step (s : TimedPair σ) : PairEvent → Option (TimedPair σ)
  | .advance duration =>
    some { s with
      now := s.now + duration
      sessions := fun v => T.apply (s.sessions v) (.advance duration) }
  | .session side e =>
    match e with
    | .resetTimer | .advance _ => none
    | e =>
      (T.step (s.sessions side) e).map fun x =>
        { s with
          sessions := Function.update s.sessions side x
          pipes := if e = .destroy then s.forget side else s.pipes }
  | .pipe side e =>
    match e with
    | .originalDied | .otherDied => none
    | e =>
      ((s.pipes side).step e).map fun q =>
        { s with
          sessions := fun v => settle T (s.pipes side) q e (v = side) (s.sessions v)
          pipes := Function.update s.pipes side q
          carried := if (s.pipes side).carries e then some s.now else s.carried
          stirred := s.now }

/-- A delivery that is early for its session. -/
def EarlyAt (Early : σ → TimerEvent → Prop) (s : TimedPair σ) : PairEvent → Prop
  | .session side e => Early (s.sessions side) e
  | _               => False

/-- When the handler of a timer closes a session in a step, nothing was carried, in either
    direction, in the last 30 seconds. -/
def ClosesIdle (s : TimedPair σ) (e : PairEvent) : Prop :=
  ∀ side i t, e = .session side (.deliver i) → step T s e = some t →
    T.isOpen (s.sessions side) = true → T.isOpen (t.sessions side) = false →
      ∀ moved ∈ s.carried, moved + seconds 30 ≤ s.now

/-- When no pipe has had an event for 30 seconds, the end of an open session is under way: it is
    waited for and the time has come, or the handler that will close the session is queued. -/
def EndsIdle (s : TimedPair σ) : Prop :=
  ∀ side, T.isOpen (s.sessions side) = true → s.stirred + seconds 30 ≤ s.now →
    ((T.watchdog (s.sessions side)).armings ∈ (T.watchdog (s.sessions side)).waits ∧
        (T.watchdog (s.sessions side)).expiresAt ≤ s.now) ∨
      ∃ i y, T.step (s.sessions side) (.deliver i) = some y ∧ T.isOpen y = false

/-- The invariant of a pair. -/
structure Steady (Inv : σ → Prop) (s : TimedPair σ) : Prop where
  keeps : ∀ v, T.Keeps Inv s.carried s.stirred s.now (s.sessions v)
  carried : ∀ moved ∈ s.carried, moved ≤ s.now
  stirred : s.stirred ≤ s.now

variable {T} {s t : TimedPair σ} {e : PairEvent} {side : PairSide}

/-- An event of one session. -/
theorem session_step {e : TimerEvent} (h : step T s (.session side e) = some t) :
    e ≠ .resetTimer ∧ e.elapsed = 0 ∧ ∃ x, T.step (s.sessions side) e = some x ∧
      t.sessions = Function.update s.sessions side x ∧ t.now = s.now ∧
      t.carried = s.carried ∧ t.stirred = s.stirred := by
  cases e with
  | resetTimer => cases h
  | advance duration => cases h
  | _ =>
    obtain ⟨x, hx, rfl⟩ := Option.map_eq_some_iff.mp h
    exact ⟨TimerEvent.noConfusion, rfl, x, hx, rfl, rfl, rfl, rfl⟩

/-- An event of one pipe. -/
theorem pipe_step {e : PipeOperation.Event} (h : step T s (.pipe side e) = some t) :
    ∃ q, t = { s with
      sessions := fun v => settle T (s.pipes side) q e (v = side) (s.sessions v)
      pipes := Function.update s.pipes side q
      carried := if (s.pipes side).carries e then some s.now else s.carried
      stirred := s.now } := by
  cases e with
  | originalDied => cases h
  | otherDied => cases h
  | _ =>
    obtain ⟨q, -, rfl⟩ := Option.map_eq_some_iff.mp h
    exact ⟨q, rfl⟩

variable {Inv : σ → Prop} {Early : σ → TimerEvent → Prop} (L : T.Lawful Inv Early)
include L

/-- **One session at the event of a pipe**, which carries a chunk only if it sets the timer. -/
theorem keeps_settle {p q : PipeOperation} {pe : PipeOperation.Event} {original : Bool}
    (h : s.Steady T Inv) (v : PairSide) {carried : Option Time}
    (hcarried : ∀ moved ∈ carried, moved ≤ s.now)
    (hkept : p.resets pe original = false → carried = s.carried) :
    T.Keeps Inv carried s.now s.now (settle T p q pe original (s.sessions v)) := by
  have hset : T.Keeps Inv carried s.now s.now
      (if p.resets pe original then T.apply (s.sessions v) .resetTimer else s.sessions v) := by
    cases hresets : p.resets pe original with
    | true => exact (h.keeps v).reset L h.stirred hcarried
    | false =>
      rw [hkept hresets]
      exact (h.keeps v).later h.stirred
  unfold settle
  simp only
  split
  · exact hset.apply L .close TimerEvent.noConfusion fun _ => rfl
  · exact hset

/-- **One event of a pair.** -/
theorem Steady.step (h : s.Steady T Inv) (hstep : step T s e = some t) : t.Steady T Inv := by
  cases e with
  | advance duration =>
    obtain rfl := Option.some.inj hstep
    refine ⟨fun v => ?_, fun moved hmoved => ?_, ?_⟩
    · refine (h.keeps v).apply L (.advance duration) TimerEvent.noConfusion fun hnone => ?_
      obtain ⟨y, hy⟩ := L.clock (s.sessions v) duration
      cases hnone.symm.trans hy
    · exact Nat.le_add_right_of_le (h.carried moved hmoved)
    · exact Nat.le_add_right_of_le h.stirred
  | session side e =>
    -- the clock stands still, and the timer is not set
    obtain ⟨hother, helapsed, x, hx, hsessions, hnow, hcarried, hstirred⟩ := session_step hstep
    refine ⟨fun v => ?_, hcarried.symm ▸ hnow.symm ▸ h.carried,
      hstirred.symm ▸ hnow.symm ▸ h.stirred⟩
    rw [hsessions, hnow, hcarried, hstirred]
    by_cases hv : v = side
    · subst hv
      rw [Function.update_self]
      have hkeeps := (h.keeps v).step L hx hother
      rw [helapsed] at hkeeps
      exact hkeeps
    · rw [Function.update_of_ne hv]
      exact h.keeps v
  | pipe side e =>
    obtain ⟨q, rfl⟩ := pipe_step hstep
    have hcarried : ∀ moved ∈ if (s.pipes side).carries e then some s.now else s.carried,
        moved ≤ s.now := by
      split
      · exact fun moved hmoved => Nat.le_of_eq (Option.some.inj hmoved).symm
      · exact h.carried
    refine ⟨fun v => keeps_settle L h v hcarried fun hresets => if_neg fun hcarries => ?_,
      hcarried, Nat.le_refl _⟩
    exact absurd (hresets.symm.trans (PipeOperation.resets_of_carries hcarries _))
      Bool.false_ne_true

/-- A session that is closed by its timer was idle. -/
theorem Steady.closesIdle (h : s.Steady T Inv) (hearly : ¬EarlyAt Early s e) :
    ClosesIdle T s e := by
  rintro side i t rfl hstep hopen hclosed moved hmoved
  obtain ⟨-, -, x, hx, hsessions, -⟩ := session_step hstep
  rw [hsessions, Function.update_self] at hclosed
  have hkeeps := h.keeps side
  have hdue := L.timely hkeeps.good hearly hx hopen hclosed
  rw [hkeeps.clock] at hdue
  exact Nat.le_trans (Nat.add_le_add_right (hkeeps.carried hopen moved hmoved) _) hdue

/-- A session that is idle is closed by its timer. -/
theorem Steady.endsIdle (h : s.Steady T Inv) : EndsIdle T s := by
  intro side hopen hidle
  have hkeeps := h.keeps side
  rcases hkeeps.watched hopen with hwaits | hqueued
  · refine .inl ⟨hwaits, ?_⟩
    rw [hkeeps.good.expiresAt hkeeps.armed]
    exact Nat.le_trans (Nat.add_le_add_right hkeeps.stirred _) hidle
  · obtain ⟨i, hi⟩ := List.mem_iff_getElem?.mp hqueued
    obtain ⟨y, hy, hclosed⟩ := L.closes hkeeps.good hopen hi
    exact .inr ⟨i, y, hy, hclosed⟩

end TimedPair

/-! ### From the first arming on -/

namespace SessionTimer

variable {σ : Type} (T : SessionTimer σ)

/-- The timer of the session was armed once, and anything may have happened to it since. -/
def Accepted (fresh : Time → σ) (x : σ) : Prop :=
  ∃ began events, run T.step (T.apply (fresh began) .resetTimer) events = some x

variable {T} {Inv : σ → Prop} {Early : σ → TimerEvent → Prop} (L : T.Lawful Inv Early)
variable {fresh : Time → σ} {x : σ}
include L

/-- **What holds of an accepted session.** -/
theorem keeps_of_accepted
    (hfresh : ∀ began, Inv (fresh began) ∧ T.isOpen (fresh began) = true ∧
      T.watchdog (fresh began) = { now := began })
    (h : T.Accepted fresh x) :
    T.Keeps Inv none (T.watchdog x).now (T.watchdog x).now x := by
  obtain ⟨began, events, hrun⟩ := h
  obtain ⟨hinv, hopen, hnew⟩ := hfresh began
  obtain ⟨y, hy, harm⟩ := L.reset hinv hopen
  have happly : T.apply (fresh began) .resetTimer = y := by
    unfold apply
    rw [hy]
    rfl
  rw [happly] at hrun
  refine run_preserves
    (I := fun x => T.Keeps Inv none (T.watchdog x).now (T.watchdog x).now x) ?_ ?_ hrun
  · intro x e y h hstep
    have hnow := (L.turns hstep).now
    by_cases hreset : e = .resetTimer
    · subst hreset
      have hkeeps : T.Keeps Inv none _ _ (T.apply x .resetTimer) :=
        h.reset L (Nat.le_refl _) fun _ hmoved => (by cases hmoved)
      unfold apply at hkeeps
      rw [hstep] at hkeeps
      rw [hnow]
      exact hkeeps
    · have hkeeps := (h.step L hstep hreset).later (Nat.le_add_right _ _)
      rw [hnow]
      exact hkeeps
  · rw [harm, hnew]
    exact
      { inv := L.inv_step hinv hy
        good := by
          rw [harm, hnew]
          exact (Watchdog.good_start began).arm
        clock := by rw [harm, hnew]
        armed := by
          rw [harm]
          exact Nat.succ_pos _
        watched := fun _ => by
          rw [harm]
          exact Watchdog.watched_arm _ _
        carried := fun _ _ hmoved => (by cases hmoved)
        stirred := by
          rw [harm, hnew]
          exact Nat.le_refl began }

end SessionTimer

namespace TimedPair

variable {σ : Type} {T : SessionTimer σ} {Inv : σ → Prop} {Early : σ → TimerEvent → Prop}
variable {fresh : Time → σ} {s : TimedPair σ}

/-- Two accepted sessions that have just been linked. -/
structure Linked (T : SessionTimer σ) (fresh : Time → σ) (s : TimedPair σ) : Prop where
  accepted : ∀ v, T.Accepted fresh (s.sessions v)
  clock : ∀ v, (T.watchdog (s.sessions v)).now = s.now
  pipes : ∀ v, s.pipes v = {}
  carried : s.carried = none
  stirred : s.stirred = s.now

theorem Linked.steady (L : T.Lawful Inv Early)
    (hfresh : ∀ began, Inv (fresh began) ∧ T.isOpen (fresh began) = true ∧
      T.watchdog (fresh began) = { now := began })
    (h : s.Linked T fresh) : s.Steady T Inv where
  keeps v := by
    have hkeeps := SessionTimer.keeps_of_accepted L hfresh (h.accepted v)
    rw [h.clock v] at hkeeps
    rw [h.carried, h.stirred]
    exact hkeeps
  carried _ hmoved := by
    rw [h.carried] at hmoved
    cases hmoved
  stirred := Nat.le_of_eq h.stirred

/-- **A pair over a whole run.** -/
theorem Steady.along (L : T.Lawful Inv Early) (h : s.Steady T Inv) (events : List PairEvent) :
    (Along (TimedPair.step T) (fun s e => ¬EarlyAt Early s e) s events →
        Along (TimedPair.step T) (ClosesIdle T) s events) ∧
      ∀ t, run (TimedPair.step T) s events = some t → EndsIdle T t := by
  constructor
  · intro hearly
    have hboth :
        Along (TimedPair.step T) (fun s e => ¬EarlyAt Early s e ∧ ClosesIdle T s e) s events :=
      (along_congr (fun _ _ _ h hstep => Steady.step L h hstep)
        (fun _ _ h => ⟨fun hnot => ⟨hnot, h.closesIdle L hnot⟩, And.left⟩) h events).mp hearly
    exact hboth.mono fun _ _ => And.right
  · intro t hrun
    exact Steady.endsIdle L (run_preserves (fun _ _ _ h hstep => Steady.step L h hstep) h hrun)

end TimedPair

/-- Two sessions that were accepted and linked at once. -/
def linkedAtOnce {σ : Type} (T : SessionTimer σ) (fresh : Time → σ) : TimedPair σ where
  sessions _ := T.apply (fresh 0) .resetTimer
  now := 0
  stirred := 0

/-- A byte for the first session comes after 20 seconds, and then nothing for 30 seconds. -/
def download : List PairEvent :=
  [.pipe .second .doPipe, .advance (seconds 20), .pipe .second (.readDone false [120]),
    .pipe .second (.writeDone false 1), .advance (seconds 30)]

end TunnelBore
