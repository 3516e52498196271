import TunnelBore.Publisher.Handlers

namespace TunnelBore.Publisher

open TunnelBore.Lib

/-!
# Completions of a superseded websocket

After a reconnect the reads and sends of the earlier websocket may still complete.  Their
handlers know the publisher only: `retryConnect` closes `ws_` and `doControlReading` reads from
it, whichever websocket that is by then.

* `Harmless` — the current websocket is not closed, no reconnect is scheduled, and no read on
  the current websocket is added;
* `Tolerated` — a failure is met by a publisher that is reconnecting already, and a message that
  was read is one that `onControlRead` throws on;
* `harmless_iff` — what one handler does;
* `superseded_harmless_iff` — along a run.
-/

set_option linter.dupNamespace false

variable {ε : Type}

/-- The websocket that a read or a send belongs to. -/
def Completion.websocket : Completion → Option WsId
  | .readDone ws _ _ | .readFailed ws | .sendDone ws | .sendFailed ws => some ws
  | _ => none

namespace Publisher

/-- A read or send of a websocket other than the current one. -/
def Superseded (p : Publisher) (c : Completion) : Prop :=
  ∃ ws, c.websocket = some ws ∧ ws ≠ p.ws

/-- What may not happen to the current websocket between `p` and `q`. -/
structure Harmless (p q : Publisher) : Prop where
  /-- It is not closed. -/
  stays : p.ws ∈ p.established → p.ws ∈ q.established
  /-- No reconnect is scheduled. -/
  timer : q.reconnectTimer = true → p.reconnectTimer = true
  /-- No read on it is started. -/
  reads : q.reading.count p.ws ≤ p.reading.count p.ws

variable (parse : Bytes → Except ε Json) (cfg : Config)

/-- The condition: `retryConnect` is ignored, and reading is not resumed. -/
def Tolerated (p : Publisher) : Completion → Prop
  | .readDone _ message answers    => Unhandled parse cfg message answers
  | .readFailed _ | .sendFailed _ => p.isReconnecting = true
  | _ => True

variable {parse cfg} {p q : Publisher}

theorem Queues.harmless (h : Queues p q) : Harmless p q := by
  obtain ⟨_, _, _, _, rfl⟩ := h
  exact ⟨fun hmem => hmem, fun htimer => htimer, le_rfl⟩

/-- `retryConnect` is harmless exactly when it is ignored. -/
theorem retryConnect_harmless_iff (htimer : p.isReconnecting = false → p.reconnectTimer = false) :
    Harmless p p.retryConnect ↔ p.isReconnecting = true := by
  cases hflag : p.isReconnecting with
  | true =>
    rw [retryConnect_of_isReconnecting hflag]
    have hstopped : Harmless p p.stopAliveTimer :=
      ⟨fun hmem => hmem, fun htimer => htimer, le_rfl⟩
    exact iff_of_true hstopped rfl
  | false =>
    obtain ⟨_, heq⟩ := retryConnect_of_not_isReconnecting hflag
    rw [heq]
    refine iff_of_false (fun h => ?_) (by simp)
    -- the timer was not armed and now it is
    have harmed := h.timer rfl
    rw [htimer hflag] at harmed
    cases harmed

/-- A read that is started is one more. -/
theorem not_harmless_doControlReading (h : Queues p q) : ¬Harmless p q.doControlReading := by
  obtain ⟨_, _, _, _, rfl⟩ := h
  intro h
  have hreads := h.reads
  have hcount : (p.reading ++ [p.ws]).count p.ws = p.reading.count p.ws + 1 := by
    rw [List.count_append, List.count_singleton_self]
  change (p.reading ++ [p.ws]).count p.ws ≤ _ at hreads
  omega

/-- **One handler** of a superseded websocket is harmless exactly when it is tolerated. -/
theorem harmless_iff (htimer : p.isReconnecting = false → p.reconnectTimer = false)
    {c : Completion} (hc : p.Superseded c) :
    Harmless p (p.handle parse cfg c) ↔ p.Tolerated parse cfg c := by
  obtain ⟨ws, hws, -⟩ := hc
  cases c with
  | readDone ws message answers =>
    -- the replies are queued in any case; an exception keeps the handler from reading again
    have hreplies := queues_foldl_sendQueued (onControlRead parse cfg message answers).replies p
    show _ ↔ Unhandled parse cfg message answers
    rw [← onControlRead_threw_iff]
    simp only [handle]
    split
    · next hthrew => exact iff_of_true hreplies.harmless hthrew
    · next hthrew => exact iff_of_false (not_harmless_doControlReading hreplies) hthrew
  | readFailed ws => exact retryConnect_harmless_iff htimer
  | sendFailed ws => exact retryConnect_harmless_iff htimer
  | sendDone ws => exact iff_of_true (queues_sendOnceFromQueue p).harmless trivial
  | _ => cases hws

end Publisher

namespace Executor

variable (parse : Bytes → Except ε Json) (cfg : Config)

/-- A handler of a superseded websocket that takes effect is harmless. -/
def HarmlessTurn (x : Executor) : Turn → Prop
  | .handle c => x.line.Superseded c → x.line.Harmless (x.line.handle parse cfg c)
  | _ => True

/-- The condition on a turn. -/
def ToleratedTurn (x : Executor) : Turn → Prop
  | .handle c => x.line.Superseded c → x.line.Tolerated parse cfg c
  | _ => True

/-- **Superseded websockets.**  Along a run, every handler of a read or send of a superseded
    websocket leaves the current one alone if and only if, when it takes effect, it is a failure
    and the publisher is reconnecting already, or a message that `onControlRead` throws on, or
    a send that succeeded. -/
theorem superseded_harmless_iff (authenticated : Bool) (turns : List Turn) :
    Along (step parse cfg) (HarmlessTurn parse cfg) (start authenticated) turns ↔
      Along (step parse cfg) (ToleratedTurn parse cfg) (start authenticated) turns := by
  refine along_congr (I := Reconnecting) (fun x turn y hx h => hx.step h) ?_
    (reconnecting_start authenticated) turns
  intro x turn hx
  cases turn with
  | handle c =>
    show (x.line.Superseded c → _) ↔ (x.line.Superseded c → _)
    exact imp_congr_right fun hc => Publisher.harmless_iff hx.timer_eq_false hc
  | arrive c => exact Iff.rfl
  | lost ws => exact Iff.rfl

/-- The publisher connects, its connection is lost with the handshake on its way, and it
    connects again. -/
def turnsReconnect : List Turn :=
  [.arrive (.connected 1), .handle (.connected 1), .lost 1,
    .arrive (.readFailed 1), .handle (.readFailed 1),
    .arrive (.reconnect true), .handle (.reconnect true),
    .arrive (.connected 2), .handle (.connected 2)]

/-- Then the send of the handshake fails: the healthy connection is closed and the next
    reconnect is scheduled. -/
theorem superseded_closes :
    let parse : Bytes → Except Unit Json := fun _ => .error ()
    let cfg : Config := ⟨"pub", "localhost", []⟩
    ∃ x y, run (step parse cfg) (start true) (turnsReconnect ++ [.arrive (.sendFailed 1)]) =
        some x ∧
      step parse cfg x (.handle (.sendFailed 1)) = some y ∧
      x.line.Superseded (.sendFailed 1) ∧ x.line.ws ∈ x.line.established ∧
      x.line.ws ∉ y.line.established ∧ ¬x.line.Harmless y.line := by
  refine ⟨_, _, rfl, rfl, ⟨1, rfl, by decide⟩, by decide, by decide, ?_⟩
  intro h
  have htimer := h.timer rfl
  cases htimer

end Executor

end TunnelBore.Publisher
