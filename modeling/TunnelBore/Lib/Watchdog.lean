import Mathlib.Data.List.Basic

namespace TunnelBore.Lib

/-!
# Deadline timers

A timer has one expiry and any number of waits.  A wait ends when the expiry has passed, or it is
aborted when the expiry is set again or the timer is cancelled.  An end is queued before it is
delivered, and what is queued is not recalled: a wait that has expired may still be delivered
after the timer was armed anew.

* `Watchdog` counts how often the timer was armed; a wait is known by the number of its arming;
* `Good` — a wait that is open is of the last arming, and one that expired had its time;
* `Good.due` — so an expired wait of the last arming is never delivered early;
* `Watched` — the last arming is waited for until its end is delivered.
-/

/-- How a wait ends. -/
inductive WaitEnd
  | expired
  | aborted
  deriving DecidableEq, Repr

/-- A clock, a timer, and how often and when last the timer was armed. -/
structure Watchdog where
  now : Nat
  expiresAt : Nat := 0
  /-- The waits that have not ended. -/
  waits : List Nat := []
  /-- The ends that have not been delivered. -/
  queued : List (Nat × WaitEnd) := []
  armings : Nat := 0
  armedAt : Nat := 0
  deriving DecidableEq, Repr

namespace Watchdog

variable (w : Watchdog) (period : Nat)

/-- Cancel the timer: the open waits are aborted. -/
def cancel : Watchdog :=
  { w with
    waits := []
    queued := w.queued ++ w.waits.map fun k => (k, .aborted) }

/-- Set the expiry, which aborts the open waits. -/
def expiresFromNow : Watchdog :=
  { w.cancel with
    expiresAt := w.now + period
    armings := w.armings + 1
    armedAt := w.now }

/-- Wait for the expiry. -/
def asyncWait : Watchdog := { w with waits := w.waits ++ [w.armings] }

/-- Set the expiry and wait for it. -/
def arm : Watchdog := (w.expiresFromNow period).asyncWait

/-- The clock goes on. -/
def advance (duration : Nat) : Watchdog := { w with now := w.now + duration }

/-- The expiry has passed: the waits end. -/
def fire : Option Watchdog :=
  if w.expiresAt ≤ w.now then
    some { w with waits := [], queued := w.queued ++ w.waits.map fun k => (k, .expired) }
  else none

/-- An end is taken out of the queue for delivery. -/
def take (i : Nat) : Option ((Nat × WaitEnd) × Watchdog) :=
  w.queued[i]?.map fun ended => (ended, { w with queued := w.queued.eraseIdx i })

/-- The timer is only ever armed for `period`. -/
structure Good : Prop where
  open_latest : ∀ k ∈ w.waits, k = w.armings ∧ 0 < w.armings
  expiresAt : 0 < w.armings → w.expiresAt = w.armedAt + period
  expired : ∀ k, (k, .expired) ∈ w.queued →
    k ≤ w.armings ∧ 0 < w.armings ∧ (k = w.armings → w.expiresAt ≤ w.now)

variable {w period} {v : Watchdog}

theorem good_start (now : Nat) : Good { now := now } period where
  open_latest _ hk := absurd hk List.not_mem_nil
  expiresAt h := absurd h (Nat.lt_irrefl 0)
  expired _ hk := absurd hk List.not_mem_nil

/-- What is aborted is not expired. -/
theorem expired_mem_cancel {k : Nat} (h : (k, .expired) ∈ w.cancel.queued) :
    (k, .expired) ∈ w.queued := by
  rcases List.mem_append.mp h with h | h
  · exact h
  · obtain ⟨j, -, heq⟩ := List.mem_map.mp h
    cases heq

theorem Good.cancel (h : w.Good period) : w.cancel.Good period where
  open_latest _ hk := absurd hk List.not_mem_nil
  expiresAt := h.expiresAt
  expired k hk := h.expired k (expired_mem_cancel hk)

/-- **Arming the timer** makes all that has expired before an end of an earlier arming. -/
theorem Good.arm (h : w.Good period) : (w.arm period).Good period where
  open_latest k hk := by
    obtain rfl : k = w.armings + 1 := List.mem_singleton.mp hk
    exact ⟨rfl, Nat.succ_pos _⟩
  expiresAt _ := rfl
  expired k hk := by
    have hle := (h.expired k (expired_mem_cancel hk)).1
    show k ≤ w.armings + 1 ∧ 0 < w.armings + 1 ∧ (k = w.armings + 1 → _)
    refine ⟨by omega, by omega, fun heq => ?_⟩
    omega

theorem Good.advance (h : w.Good period) (duration : Nat) : (w.advance duration).Good period where
  open_latest := h.open_latest
  expiresAt := h.expiresAt
  expired k hk := by
    obtain ⟨hle, hpos, hdue⟩ := h.expired k hk
    exact ⟨hle, hpos, fun heq => Nat.le_add_right_of_le (hdue heq)⟩

/-- Waits expire after the expiry only. -/
theorem Good.fire (h : w.Good period) (hfire : w.fire = some v) : v.Good period := by
  simp only [Watchdog.fire, Option.ite_none_right_eq_some, Option.some.injEq] at hfire
  obtain ⟨hdue, rfl⟩ := hfire
  refine ⟨fun k hk => absurd hk List.not_mem_nil, h.expiresAt, fun k hk => ?_⟩
  rcases List.mem_append.mp hk with hk | hk
  · exact h.expired k hk
  · -- a wait that was open is of the last arming
    obtain ⟨j, hj, heq⟩ := List.mem_map.mp hk
    obtain rfl : j = k := congrArg Prod.fst heq
    obtain ⟨hlast, hpos⟩ := h.open_latest j hj
    exact ⟨Nat.le_of_eq hlast, hpos, fun _ => hdue⟩

theorem Good.take (h : w.Good period) {i : Nat} {ended : Nat × WaitEnd}
    (htake : w.take i = some (ended, v)) : v.Good period := by
  obtain ⟨_, -, heq⟩ := Option.map_eq_some_iff.mp htake
  obtain rfl := congrArg Prod.snd heq
  refine ⟨h.open_latest, h.expiresAt, fun k hk => ?_⟩
  exact h.expired k (List.mem_of_mem_eraseIdx hk)

/-- **An expired wait of the last arming is not early.** -/
theorem Good.due (h : w.Good period) (hmem : (w.armings, .expired) ∈ w.queued) :
    w.armedAt + period ≤ w.now := by
  obtain ⟨-, hpos, hdue⟩ := h.expired _ hmem
  have hset := h.expiresAt hpos
  have hle := hdue rfl
  omega

/-- An expired wait is of the last arming or of an earlier one. -/
theorem Good.latest_or_earlier (h : w.Good period) {k : Nat} (hmem : (k, .expired) ∈ w.queued) :
    k = w.armings ∨ k < w.armings := by
  have hle := (h.expired k hmem).1
  omega

theorem take_eq_some {i : Nat} {ended : Nat × WaitEnd} :
    w.take i = some (ended, v) ↔
      w.queued[i]? = some ended ∧ v = { w with queued := w.queued.eraseIdx i } := by
  unfold Watchdog.take
  rw [Option.map_eq_some_iff]
  constructor
  · rintro ⟨_, hget, heq⟩
    simp only [Prod.mk.injEq] at heq
    exact ⟨heq.1 ▸ hget, heq.2.symm⟩
  · rintro ⟨hget, rfl⟩
    exact ⟨ended, hget, rfl⟩

/-- The last arming is waited for, or its end has come. -/
def Watched (w : Watchdog) : Prop :=
  w.armings ∈ w.waits ∨ (w.armings, .expired) ∈ w.queued

theorem watched_arm (w : Watchdog) (period : Nat) : (w.arm period).Watched :=
  .inl (List.mem_append_right _ (List.mem_singleton_self _))

/-- Waits that end are queued. -/
theorem Watched.fire (h : w.Watched) (hfire : w.fire = some v) : v.Watched := by
  simp only [Watchdog.fire, Option.ite_none_right_eq_some, Option.some.injEq] at hfire
  obtain ⟨-, rfl⟩ := hfire
  rcases h with h | h
  · exact .inr (List.mem_append_right _ (List.mem_map_of_mem h))
  · exact .inr (List.mem_append_left _ h)

/-- Another end than that of the last arming is delivered. -/
theorem Watched.take (h : w.Watched) {i : Nat} {ended : Nat × WaitEnd}
    (htake : w.take i = some (ended, v)) (hother : ended ≠ (w.armings, .expired)) :
    v.Watched := by
  obtain ⟨hget, rfl⟩ := take_eq_some.mp htake
  rcases h with h | h
  · exact .inl h
  · -- the end of the last arming stands at another place
    obtain ⟨j, hj⟩ := List.mem_iff_getElem?.mp h
    have hne : j ≠ i := by
      rintro rfl
      exact hother (Option.some.inj (hget.symm.trans hj))
    exact .inr (List.mem_eraseIdx_iff_getElem?.mpr ⟨j, hne, hj⟩)

end Watchdog

end TunnelBore.Lib
