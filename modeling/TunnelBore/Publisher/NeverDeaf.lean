import TunnelBore.Publisher.Handlers

namespace TunnelBore.Publisher

open TunnelBore.Lib

/-!
# When the publisher goes deaf

`Publisher::doControlReading` reads again after `onControlRead` has returned.  An exception in
`onControlRead` ends the callback before that, and nothing else starts a read but a connect.

* `Listening` — a read on the current websocket is outstanding, it is being connected, or the
  reconnect timer is armed;
* `Completion.Rearms` — the handlers that leave the publisher listening;
* `Attended` — the invariant: the publisher listens or such a handler is under way;
* `never_deaf` — runs in which no message that `onControlRead` throws on takes the last read;
* `deaf_of_unhandled` — such a message leaves the publisher deaf.
-/

set_option linter.dupNamespace false

variable {ε : Type}

/-- Something will come of it: a message, a connection, or the next attempt at one. -/
def Publisher.Listening (p : Publisher) : Prop :=
  p.ws ∈ p.reading ∨ p.ws ∈ p.connecting ∨ p.reconnectTimer = true

/-- A handler that reads again, connects, or has a reconnect scheduled. -/
def Completion.Rearms (parse : Bytes → Except ε Json) (cfg : Config) : Completion → Prop
  | .readDone _ message answers => ¬Unhandled parse cfg message answers
  | .sendDone _ | .pingAlive    => False
  | _ => True

namespace Publisher

variable {parse : Bytes → Except ε Json} {cfg : Config} {p q : Publisher}

theorem Listening.queues (h : Queues p q) (hp : p.Listening) : q.Listening := by
  obtain ⟨_, _, _, _, rfl⟩ := h
  exact hp

/-- A read that is started is on the current websocket. -/
theorem listening_doControlReading (p : Publisher) : p.doControlReading.Listening :=
  .inl (List.mem_append_right _ (List.mem_singleton_self _))

theorem listening_connectToBroker (p : Publisher) : p.connectToBroker.Listening :=
  .inr (.inl (List.mem_append_right _ (List.mem_singleton_self _)))

theorem listening_retryConnect (h : p.isReconnecting = false) : p.retryConnect.Listening := by
  obtain ⟨_, heq⟩ := retryConnect_of_not_isReconnecting h
  rw [heq]
  exact .inr (.inr rfl)

/-- Whatever the authority answers, the publisher connects or tries again later. -/
theorem listening_authenticate (p : Publisher) (h : p.isReconnecting = false)
    (authenticated : Bool) : (p.authenticate authenticated).Listening := by
  cases authenticated with
  | true => exact listening_connectToBroker p
  | false => exact listening_retryConnect h

end Publisher

namespace Executor

variable (parse : Bytes → Except ε Json) (cfg : Config)

/-- The publisher listens, or a handler that has started will see to it. -/
def Attended (x : Executor) : Prop :=
  x.line.Listening ∨ ∃ c ∈ x.running, c.Rearms parse cfg

/-- The condition: a message that `onControlRead` throws on is read on the current websocket only
    beside another read of it, while it is being connected, while the reconnect timer is armed,
    or beside a handler that rearms. -/
def Spared (x : Executor) : Turn → Prop
  | .arrive (.readDone ws message answers) =>
    Unhandled parse cfg message answers → ws = x.line.ws →
      1 < x.line.reading.count ws ∨ ws ∈ x.line.connecting ∨ x.line.reconnectTimer = true ∨
        ∃ c ∈ x.running, c.Rearms parse cfg
  | _ => True

variable {parse cfg} {x y : Executor}

theorem attended_start (authenticated : Bool) :
    (start authenticated).Attended parse cfg :=
  .inl (Publisher.listening_authenticate {} rfl authenticated)

/-- Handlers that rearm are under way until they take effect. -/
theorem rearms_erase {running : List Completion} {c : Completion} (hc : ¬c.Rearms parse cfg)
    (h : ∃ d ∈ running, d.Rearms parse cfg) : ∃ d ∈ running.erase c, d.Rearms parse cfg := by
  obtain ⟨d, hmem, hd⟩ := h
  have hne : d ≠ c := by
    rintro rfl
    exact hc hd
  exact ⟨d, (List.mem_erase_of_ne hne).mpr hmem, hd⟩

/-- A handler that does not rearm and changes no more than the queue. -/
theorem Attended.queues (hx : x.Attended parse cfg) {c : Completion}
    (hc : ¬c.Rearms parse cfg) {line : Publisher} (h : Publisher.Queues x.line line) :
    Attended parse cfg ⟨line, x.running.erase c⟩ := by
  rcases hx with hlistening | hrearms
  · exact .inl (hlistening.queues h)
  · exact .inr (rearms_erase hc hrearms)

/-- A failure is answered by `retryConnect`; where that is ignored a reconnect is under way. -/
theorem attended_retryConnect (hx : x.Reconnecting) {c : Completion}
    (hc : c.isReconnect = false) :
    Attended parse cfg ⟨x.line.retryConnect, x.running.erase c⟩ := by
  cases hflag : x.line.isReconnecting with
  | false => exact .inl (Publisher.listening_retryConnect hflag)
  | true =>
    rw [Publisher.retryConnect_of_isReconnecting hflag]
    rcases hx.timer_or hflag with htimer | ⟨authenticated, hmem⟩
    · exact .inl (.inr (.inr htimer))
    · have hne : Completion.reconnect authenticated ≠ c := by
        rintro rfl
        cases hc
      exact .inr ⟨_, (List.mem_erase_of_ne hne).mpr hmem, trivial⟩

/-- **Every handler** that takes effect leaves the publisher attended. -/
theorem attended_handle (hx : x.Attended parse cfg) (hreconnecting : x.Reconnecting)
    (c : Completion) : Attended parse cfg ⟨x.line.handle parse cfg c, x.running.erase c⟩ := by
  cases c with
  | connected ws =>
    have hread := Publisher.listening_doControlReading
      (Publisher.startAliveTimer { x.line with reconnectTime := 1 })
    exact .inl (hread.queues (Publisher.queues_sendQueued _ _))
  | connectFailed ws => exact attended_retryConnect hreconnecting rfl
  | readFailed ws => exact attended_retryConnect hreconnecting rfl
  | sendFailed ws => exact attended_retryConnect hreconnecting rfl
  | sendDone ws =>
    have hidle : ¬(Completion.sendDone ws).Rearms parse cfg := fun h => h
    exact hx.queues hidle (Publisher.queues_sendOnceFromQueue _)
  | pingAlive =>
    have hidle : ¬Completion.pingAlive.Rearms parse cfg := fun h => h
    have hqueued := hx.queues hidle (Publisher.queues_sendQueued x.line .ping)
    exact hqueued
  | readDone ws message answers =>
    have hreplies := Publisher.queues_foldl_sendQueued
      (onControlRead parse cfg message answers).replies x.line
    simp only [Publisher.handle]
    split
    · next hthrew =>
      have hunhandled := (onControlRead_threw_iff parse cfg message answers).mp hthrew
      have hidle : ¬(Completion.readDone ws message answers).Rearms parse cfg :=
        fun h => h hunhandled
      exact hx.queues hidle hreplies
    · exact .inl (Publisher.listening_doControlReading _)
  | reconnect authenticated =>
    exact .inl (Publisher.listening_authenticate { x.line with isReconnecting := false } rfl
      authenticated)

/-- A read completes with a message that `onControlRead` throws on.  Its handler will not read
    again, but something else is left to listen for. -/
theorem Attended.arrive_unhandled (hx : x.Attended parse cfg) {ws : WsId} {message : Bytes}
    {answers : Answers} (hunhandled : Unhandled parse cfg message answers)
    (hguard : x.Spared parse cfg (.arrive (.readDone ws message answers)))
    {running : List Completion} (hmore : ∀ c ∈ x.running, c ∈ running) :
    Attended parse cfg ⟨{ x.line with reading := x.line.reading.erase ws }, running⟩ := by
  by_cases hws : ws = x.line.ws
  · -- the read that is taken away was not the only thing that keeps the publisher listening
    rcases hguard hunhandled hws with hcount | hconnecting | htimer | ⟨d, hmem, hd⟩
    · refine .inl (.inl ?_)
      show x.line.ws ∈ x.line.reading.erase ws
      rw [← hws, ← List.count_pos_iff, List.count_erase_self]
      omega
    · refine .inl (.inr (.inl ?_))
      show x.line.ws ∈ x.line.connecting
      rw [← hws]
      exact hconnecting
    · exact .inl (.inr (.inr htimer))
    · exact .inr ⟨d, hmore d hmem, hd⟩
  · rcases hx with (hreading | hrest) | ⟨d, hmem, hd⟩
    · exact .inl (.inl ((List.mem_erase_of_ne fun heq => hws heq.symm).mpr hreading))
    · exact .inl (.inr hrest)
    · exact .inr ⟨d, hmore d hmem, hd⟩

/-- An operation that completes takes its place among the operations outstanding, and its
    handler is under way. -/
theorem Attended.arrive (hx : x.Attended parse cfg) {c : Completion}
    (hguard : x.Spared parse cfg (.arrive c)) {line : Publisher}
    (h : x.line.arrive c = some line) : Attended parse cfg ⟨line, x.running ++ [c]⟩ := by
  by_cases hc : c.Rearms parse cfg
  · exact .inr ⟨c, List.mem_append_right _ (List.mem_singleton_self c), hc⟩
  · have hmore : ∀ d ∈ x.running, d ∈ x.running ++ [c] := fun d => List.mem_append_left [c]
    have hkept : (∃ d ∈ x.running, d.Rearms parse cfg) →
        ∃ d ∈ x.running ++ [c], d.Rearms parse cfg := by
      rintro ⟨d, hmem, hd⟩
      exact ⟨d, hmore d hmem, hd⟩
    cases c with
    | readDone ws message answers =>
      simp only [Publisher.arrive, Option.ite_none_right_eq_some, Option.some.injEq] at h
      obtain ⟨-, rfl⟩ := h
      exact hx.arrive_unhandled (not_not.mp hc) hguard hmore
    | sendDone ws =>
      simp only [Publisher.arrive, Option.ite_none_right_eq_some, Option.some.injEq] at h
      obtain ⟨-, rfl⟩ := h
      exact hx.imp (fun hl => hl) hkept
    | pingAlive =>
      simp only [Publisher.arrive, Option.ite_none_right_eq_some, Option.some.injEq] at h
      obtain ⟨-, rfl⟩ := h
      exact hx.imp (fun hl => hl) hkept
    | _ => exact absurd trivial hc

/-- **One turn.** -/
theorem Attended.step (hx : x.Attended parse cfg) (hreconnecting : x.Reconnecting) {turn : Turn}
    (hguard : x.Spared parse cfg turn) (h : x.step parse cfg turn = some y) :
    y.Attended parse cfg := by
  cases turn with
  | arrive c =>
    obtain ⟨line, harrive, rfl⟩ := Option.map_eq_some_iff.mp h
    exact hx.arrive hguard harrive
  | handle c =>
    simp only [Executor.step, Option.ite_none_right_eq_some, Option.some.injEq] at h
    obtain ⟨-, rfl⟩ := h
    exact attended_handle hx hreconnecting c
  | lost ws =>
    simp only [Executor.step, Option.ite_none_right_eq_some, Option.some.injEq] at h
    obtain ⟨-, rfl⟩ := h
    exact hx

/-- **The publisher never goes deaf** in a run in which no message that `onControlRead` throws on
    takes the last thing it listens for: while no handler is running, a read is outstanding on
    the current websocket, it is being connected, or the reconnect timer is armed. -/
theorem never_deaf {authenticated : Bool} {turns : List Turn}
    (hguard : Along (step parse cfg) (Spared parse cfg) (start authenticated) turns)
    (hrun : run (step parse cfg) (start authenticated) turns = some x) (hidle : x.running = []) :
    x.line.Listening := by
  have hattended : x.Attended parse cfg ∧ x.Reconnecting := by
    refine run_invariant (I := fun x => x.Attended parse cfg ∧ x.Reconnecting)
      (fun _ _ _ hx hg h => ⟨hx.1.step hx.2 hg h, hx.2.step h⟩) ?_ hguard hrun
    exact ⟨attended_start authenticated, reconnecting_start authenticated⟩
  rcases hattended.1 with hlistening | ⟨c, hmem, -⟩
  · exact hlistening
  · rw [hidle] at hmem
    exact absurd hmem List.not_mem_nil

/-- **What the condition leaves out.**  While no handler is running, a message that
    `onControlRead` throws on and that takes the last thing the publisher listens for leaves it
    deaf when its handler has run. -/
theorem deaf_of_unhandled (hidle : x.running = []) (hread : x.line.ws ∈ x.line.reading)
    {message : Bytes} {answers : Answers}
    (hguard : ¬x.Spared parse cfg (.arrive (.readDone x.line.ws message answers))) :
    ∃ y, run (step parse cfg) x [.arrive (.readDone x.line.ws message answers),
        .handle (.readDone x.line.ws message answers)] = some y ∧
      y.running = [] ∧ ¬y.line.Listening := by
  have hspared : Unhandled parse cfg message answers ∧ ¬1 < x.line.reading.count x.line.ws ∧
      x.line.ws ∉ x.line.connecting ∧ x.line.reconnectTimer = false := by
    refine ⟨?_, ?_, ?_, ?_⟩
    · by_contra hhandled
      exact hguard fun hunhandled => absurd hunhandled hhandled
    · exact fun hcount => hguard fun _ _ => .inl hcount
    · exact fun hconnecting => hguard fun _ _ => .inr (.inl hconnecting)
    · rw [← Bool.not_eq_true]
      exact fun htimer => hguard fun _ _ => .inr (.inr (.inl htimer))
  obtain ⟨hunhandled, hcount, hconnecting, htimer⟩ := hspared
  have harrive : x.line.arrive (.readDone x.line.ws message answers) =
      some { x.line with reading := x.line.reading.erase x.line.ws } := if_pos hread
  have hhandle : Publisher.Queues { x.line with reading := x.line.reading.erase x.line.ws }
      (Publisher.handle { x.line with reading := x.line.reading.erase x.line.ws } parse cfg
        (.readDone x.line.ws message answers)) := by
    simp only [Publisher.handle]
    rw [if_pos ((onControlRead_threw_iff parse cfg message answers).mpr hunhandled)]
    exact Publisher.queues_foldl_sendQueued _ _
  refine ⟨⟨Publisher.handle { x.line with reading := x.line.reading.erase x.line.ws } parse cfg
    (.readDone x.line.ws message answers), []⟩, ?_, rfl, ?_⟩
  · simp only [run_cons, run_nil, Executor.step, harrive, hidle, Option.map_some,
      Option.bind_some, List.nil_append, List.mem_singleton, if_true, List.erase_cons_head]
  · obtain ⟨_, _, _, _, hline⟩ := hhandle
    rw [hline]
    rintro (hreading | hconnect | hdue)
    · have hzero : (x.line.reading.erase x.line.ws).count x.line.ws = 0 := by
        rw [List.count_erase_self]
        omega
      exact List.count_eq_zero.mp hzero hreading
    · exact hconnecting hconnect
    · exact absurd hdue (by rw [htimer]; exact Bool.false_ne_true)

def pongText : String := "\x7b\"type\":\"Pong\"\x7d"

/-- A `json::parse` that reads this text. -/
def parsePong (t : Bytes) : Except Unit Json :=
  if t = asciiString pongText then .ok (.object [("type", .string "Pong")]) else .error ()

/-- The first connection. -/
def turnsConnect : List Turn :=
  [.arrive (.connected 1), .handle (.connected 1)]

/-- A text is read on it. -/
def turnsRead (text : String) : List Turn :=
  let read := Completion.readDone 1 (asciiString text) ⟨(0, []), .failed⟩
  turnsConnect ++ [.arrive read, .handle read]

/-- A pong is read, and the publisher reads on. -/
theorem never_deaf_pong :
    ∃ x, run (step parsePong ⟨"pub", "localhost", []⟩) (start true) (turnsRead pongText) = some x ∧
      x.line.Listening := by
  have hhandled : ¬Unhandled parsePong ⟨"pub", "localhost", []⟩ (asciiString pongText)
      ⟨(0, []), .failed⟩ := by
    rw [← onControlRead_threw_iff]
    decide
  have hguard : Along (step parsePong ⟨"pub", "localhost", []⟩)
      (Spared parsePong ⟨"pub", "localhost", []⟩) (start true) (turnsRead pongText) :=
    ⟨trivial, fun _ _ => ⟨trivial, fun _ _ => ⟨fun h => absurd h hhandled,
      fun _ _ => ⟨trivial, fun _ _ => trivial⟩⟩⟩⟩
  have hrun : ∃ x, run (step parsePong ⟨"pub", "localhost", []⟩) (start true) (turnsRead pongText) =
      some x ∧ x.running = [] := ⟨_, rfl, rfl⟩
  obtain ⟨x, hx, hidle⟩ := hrun
  exact ⟨x, hx, never_deaf hguard hx hidle⟩

/-- A text that is not JSON is read: nothing is outstanding, armed or running any more. -/
theorem deaf_of_text :
    ∃ x, run (step parsePong ⟨"pub", "localhost", []⟩) (start true) (turnsRead "hello") = some x ∧
      x.running = [] ∧ ¬x.line.Listening := by
  refine ⟨_, rfl, rfl, ?_⟩
  unfold Publisher.Listening
  decide

end Executor

end TunnelBore.Publisher
