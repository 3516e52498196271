import TunnelBore.Lib.Backoff
import TunnelBore.Publisher.Handlers

namespace TunnelBore.Publisher

open TunnelBore.Lib

/-!
# How long the publisher waits to reconnect

`retryConnect` arms the reconnect timer with the delay that it has, and doubles it for the next
time; a connection that is established sets it back to a second.

* `Waits` — the control line, with the delays of the reconnect timer since the last connection;
* `waits_eq` — in every run they are the delays of a back-off, one second to begin with and never
  more than sixty.
-/

set_option linter.dupNamespace false

/-- `reconnectTime_`, in seconds. -/
def reconnectBackoff : Backoff := ⟨1, 60⟩

/-- The control line and the delays that the timer was armed with since the last connection. -/
structure Waits where
  line : Publisher := {}
  waits : List Nat := []
  deriving DecidableEq, Repr

namespace Publisher

/-- The members that reconnecting is about. -/
def timers (p : Publisher) : Nat × Bool × Bool :=
  (p.reconnectTime, p.reconnectTimer, p.isReconnecting)

theorem Queues.timers {p q : Publisher} (h : Queues p q) : q.timers = p.timers := by
  obtain ⟨_, _, _, _, rfl⟩ := h
  rfl

/-- Unless it is ignored, a retry arms the timer and doubles the delay. -/
theorem timers_retryConnect (p : Publisher) :
    p.retryConnect.timers =
      if p.isReconnecting then p.timers
      else (reconnectBackoff.double p.reconnectTime, true, true) := by
  unfold retryConnect
  split
  · rfl
  · have hdouble : (if p.reconnectTime * 2 > 60 then 60 else p.reconnectTime * 2) =
        reconnectBackoff.double p.reconnectTime := by
      unfold Backoff.double
      show _ = min (p.reconnectTime * 2) 60
      split <;> omega
    show ((if p.reconnectTime * 2 > 60 then 60 else p.reconnectTime * 2), true, true) = _
    rw [hdouble]

end Publisher

namespace Waits

/-- The reconnect timer is armed by an event: it was not armed before, or it has fired. -/
def arms (p p' : Publisher) : Publisher.Event → Bool
  | .reconnect _ => p'.reconnectTimer
  | _            => p'.reconnectTimer && !p.reconnectTimer

/-- An event that is neither a connection nor the reconnect timer. -/
def ordinary : Publisher.Event → Bool
  | .connected _ | .reconnect _ => false
  | _ => true

/-- What an event adds to the delays. -/
def record (x : Waits) (p' : Publisher) : Publisher.Event → List Nat
  | .connected _ => []
  | e            => x.waits ++ if arms x.line p' e then [x.line.reconnectTime] else []

/-- One event of the control line. -/
def step (x : Waits) (e : Publisher.Event) : Option Waits :=
  (x.line.step e).map fun p' => { line := p', waits := x.record p' e }

/-- The delays so far are those of the back-off, and so is the next one; the timer is armed exactly
    while the publisher is reconnecting. -/
structure Backs (x : Waits) : Prop where
  waits : x.waits = reconnectBackoff.delays x.waits.length
  next : x.line.reconnectTime = reconnectBackoff.delay x.waits.length
  timer : x.line.reconnectTimer = x.line.isReconnecting

theorem backs_empty : Backs {} := ⟨rfl, rfl, rfl⟩

variable {p : Publisher} {x y : Waits} {e : Publisher.Event}

/-- Nothing about reconnecting changes. -/
theorem Backs.keep (hx : Backs x) (h : p.timers = x.line.timers) :
    Backs { line := p, waits := x.waits } := by
  simp only [Publisher.timers, Prod.mk.injEq] at h
  obtain ⟨htime, htimer, hflag⟩ := h
  exact ⟨hx.waits, htime.trans hx.next, htimer.trans (hx.timer.trans hflag.symm)⟩

/-- The timer is armed with the delay that was next. -/
theorem Backs.arm (hx : Backs x)
    (h : p.timers = (reconnectBackoff.double x.line.reconnectTime, true, true)) :
    Backs { line := p, waits := x.waits ++ [x.line.reconnectTime] } := by
  simp only [Publisher.timers, Prod.mk.injEq] at h
  obtain ⟨htime, htimer, hflag⟩ := h
  have hlength : (x.waits ++ [x.line.reconnectTime]).length = x.waits.length + 1 := by simp
  refine ⟨?_, ?_, htimer.trans hflag.symm⟩
  · show x.waits ++ [x.line.reconnectTime] = _
    rw [hlength, Backoff.delays_succ, ← hx.waits, ← hx.next]
  · show p.reconnectTime = _
    rw [hlength, htime, hx.next, Backoff.double_delay]

/-- What an ordinary event adds to the delays. -/
theorem record_of_ordinary (he : ordinary e = true) :
    x.record p e = x.waits ++
      if p.reconnectTimer && !x.line.reconnectTimer then [x.line.reconnectTime] else [] := by
  cases e with
  | connected ws => cases he
  | reconnect authenticated => cases he
  | _ => rfl

/-- An ordinary event that reconnecting takes no notice of. -/
theorem Backs.idle (hx : Backs x) (he : ordinary e = true) (h : p.timers = x.line.timers) :
    Backs { line := p, waits := x.record p e } := by
  have htimer : p.reconnectTimer = x.line.reconnectTimer := congrArg (fun t => t.2.1) h
  rw [record_of_ordinary he, htimer, Bool.and_not_self, if_neg Bool.false_ne_true,
    List.append_nil]
  exact hx.keep h

/-- An ordinary event whose handler retries. -/
theorem Backs.retry (hx : Backs x) (he : ordinary e = true) {q : Publisher}
    (h : q.timers = x.line.timers) :
    Backs { line := q.retryConnect, waits := x.record q.retryConnect e } := by
  have hretry := q.timers_retryConnect
  have htime : q.reconnectTime = x.line.reconnectTime := congrArg (fun t => t.1) h
  have hflag : q.isReconnecting = x.line.isReconnecting := congrArg (fun t => t.2.2) h
  cases hignored : q.isReconnecting with
  | true =>
    rw [hignored, if_pos rfl] at hretry
    exact hx.idle he (hretry.trans h)
  | false =>
    rw [hignored, if_neg Bool.false_ne_true, htime] at hretry
    have harmed : q.retryConnect.reconnectTimer = true := congrArg (fun t => t.2.1) hretry
    have hbefore : x.line.reconnectTimer = false := by
      rw [hx.timer, ← hflag, hignored]
    rw [record_of_ordinary he, harmed, hbefore]
    exact hx.arm hretry

/-- **Every event** keeps the delays those of the back-off. -/
theorem Backs.step (hx : Backs x) (h : x.step e = some y) : Backs y := by
  obtain ⟨p', hp', rfl⟩ := Option.map_eq_some_iff.mp h
  cases e with
  | start authenticated =>
    simp only [Publisher.step, Option.ite_none_right_eq_some, Option.some.injEq] at hp'
    obtain ⟨-, rfl⟩ := hp'
    cases authenticated with
    | true => exact hx.idle rfl rfl
    | false => exact hx.retry rfl rfl
  | connected ws =>
    simp only [Publisher.step, Option.ite_none_right_eq_some, Option.some.injEq] at hp'
    obtain ⟨-, rfl⟩ := hp'
    -- the delays start again
    have hqueued := Publisher.Queues.timers (Publisher.queues_sendQueued
      (Publisher.doControlReading (Publisher.startAliveTimer { x.line with
        connecting := x.line.connecting.erase ws
        established := x.line.established ++ [ws]
        reconnectTime := 1 })) .handshake)
    simp only [Publisher.timers, Prod.mk.injEq] at hqueued
    obtain ⟨htime, htimer, hflag⟩ := hqueued
    exact ⟨rfl, htime, htimer.trans (hx.timer.trans hflag.symm)⟩
  | connectFailed ws =>
    simp only [Publisher.step, Option.ite_none_right_eq_some, Option.some.injEq] at hp'
    obtain ⟨-, rfl⟩ := hp'
    exact hx.retry rfl rfl
  | readDone ws replies threw =>
    simp only [Publisher.step, Option.ite_none_right_eq_some, Option.some.injEq] at hp'
    obtain ⟨-, rfl⟩ := hp'
    have hread : (replies.foldl Publisher.sendQueued
        { x.line with reading := x.line.reading.erase ws }).timers = x.line.timers :=
      (Publisher.queues_foldl_sendQueued replies
        { x.line with reading := x.line.reading.erase ws }).timers
    cases threw with
    | true => exact hx.idle rfl hread
    | false => exact hx.idle rfl hread
  | readFailed ws =>
    simp only [Publisher.step, Option.ite_none_right_eq_some, Option.some.injEq] at hp'
    obtain ⟨-, rfl⟩ := hp'
    exact hx.retry rfl rfl
  | sendDone ws =>
    simp only [Publisher.step, Option.ite_none_right_eq_some, Option.some.injEq] at hp'
    obtain ⟨-, rfl⟩ := hp'
    exact hx.idle rfl (Publisher.queues_sendOnceFromQueue
      { x.line with sending := x.line.sending.erase ws }).timers
  | sendFailed ws =>
    simp only [Publisher.step, Option.ite_none_right_eq_some, Option.some.injEq] at hp'
    obtain ⟨-, rfl⟩ := hp'
    exact hx.retry rfl rfl
  | reconnect authenticated =>
    simp only [Publisher.step, Option.ite_none_right_eq_some, Option.some.injEq] at hp'
    obtain ⟨-, rfl⟩ := hp'
    cases authenticated with
    | true =>
      have hnone : x.record (Publisher.authenticate { x.line with
          reconnectTimer := false, isReconnecting := false } true) (.reconnect true) = x.waits :=
        List.append_nil _
      rw [hnone]
      exact ⟨hx.waits, hx.next, rfl⟩
    | false =>
      -- the timer has fired, and is armed again at once
      exact hx.arm (Publisher.timers_retryConnect
        { x.line with reconnectTimer := false, isReconnecting := false })
  | pingAlive =>
    simp only [Publisher.step, Option.ite_none_right_eq_some, Option.some.injEq] at hp'
    obtain ⟨-, rfl⟩ := hp'
    exact hx.idle rfl (Publisher.queues_sendQueued x.line .ping).timers
  | lost ws =>
    simp only [Publisher.step, Option.ite_none_right_eq_some, Option.some.injEq] at hp'
    obtain ⟨-, rfl⟩ := hp'
    exact hx.idle rfl rfl

/-- Nothing is lost by looking at the delays. -/
theorem run_line (events : List Publisher.Event) (x : Waits) :
    (run step x events).map Waits.line = run Publisher.step x.line events := by
  induction events generalizing x with
  | nil => rfl
  | cons e events ih =>
    rw [run_cons, run_cons]
    show (((x.line.step e).map fun p' => { line := p', waits := x.record p' e }).bind
      fun y => run step y events).map Waits.line = _
    cases x.line.step e with
    | none => rfl
    | some p' => exact ih _

/-- **How long the publisher waits.**  In every run of the control line the delays since the last
    connection are one second, twice as long each time, and never more than sixty; the delay that
    comes next is the next one of these. -/
theorem waits_eq {events : List Publisher.Event} (hrun : run Publisher.step {} events = some p) :
    ∃ x, run step {} events = some x ∧ x.line = p ∧
      x.waits = reconnectBackoff.delays x.waits.length ∧ (∀ t ∈ x.waits, t ≤ 60) ∧
      p.reconnectTime = reconnectBackoff.delay x.waits.length := by
  have hline := run_line events {}
  rw [hrun] at hline
  obtain ⟨x, hx, rfl⟩ := Option.map_eq_some_iff.mp hline
  have hbacks : Backs x := run_preserves (fun _ _ _ hx h => hx.step h) backs_empty hx
  refine ⟨x, hx, rfl, hbacks.waits, fun t ht => ?_, hbacks.next⟩
  rw [hbacks.waits] at ht
  obtain ⟨n, -, rfl⟩ := List.mem_map.mp ht
  exact reconnectBackoff.delay_le_cap n

/-- The authority does not answer for a while. -/
def eventsUnanswered : List Publisher.Event :=
  .start false :: List.replicate 7 (.reconnect false)

theorem waits_eq_unanswered :
    ∃ x, run step {} eventsUnanswered = some x ∧ x.waits = [1, 2, 4, 8, 16, 32, 60, 60] ∧
      ∀ t ∈ x.waits, t ≤ 60 := by
  have hsome : (run Publisher.step {} eventsUnanswered).isSome = true := by decide
  obtain ⟨p, hrun⟩ := Option.isSome_iff_exists.mp hsome
  obtain ⟨x, hx, -, -, hcap, -⟩ := waits_eq hrun
  have hwaits : (run step {} eventsUnanswered).map Waits.waits =
      some [1, 2, 4, 8, 16, 32, 60, 60] := by decide
  rw [hx] at hwaits
  exact ⟨x, hx, Option.some.inj hwaits, hcap⟩

end Waits

end TunnelBore.Publisher
