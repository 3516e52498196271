import TunnelBore.Lib.Run
import TunnelBore.Publisher.ControlRead

namespace TunnelBore.Publisher

open TunnelBore.Lib

/-!
# The completion handlers of the control line

`ControlLine` carries out a handler at the moment its operation completes.  The executor is a
pool of threads, so here the two are apart: an operation completes and its handler starts
(`arrive`), and later the handler takes effect (`handle`), on the members as they are then.  Any
number of handlers may be under way.  Reading handlers wait for the authority and the network,
and `retryConnect` and the handler of the reconnect timer wait for `reconnectMutex_`.

* `arrive_handle` — a handler that takes effect at once is the step of `ControlLine`;
* `Queues` — what the queue of messages to send leaves alone;
* `Reconnecting` — the invariant: `isReconnecting_` is set while the reconnect timer is armed or
  its handler has started, and only then.
-/

set_option linter.dupNamespace false

variable {ε : Type}

/-- An operation of the control line that completes. -/
inductive Completion
  | connected (ws : WsId)
  | connectFailed (ws : WsId)
  /-- A text is read; `answers` is what its handler is told from outside. -/
  | readDone (ws : WsId) (message : Bytes) (answers : Answers)
  | readFailed (ws : WsId)
  | sendDone (ws : WsId)
  | sendFailed (ws : WsId)
  /-- `reconnectTimer_`; the authority says whether the publisher is authenticated. -/
  | reconnect (authenticated : Bool)
  | pingAlive
  deriving DecidableEq, Repr

namespace Publisher

variable (p : Publisher)

/-- An operation completes: it is no longer outstanding. -/
def arrive : Completion → Option Publisher
  | .connected ws =>
    if ws ∈ p.connecting then
      some { p with
        connecting := p.connecting.erase ws
        established := p.established ++ [ws] }
    else none
  | .connectFailed ws =>
    if ws ∈ p.connecting then some { p with connecting := p.connecting.erase ws } else none
  | .readDone ws _ _ | .readFailed ws =>
    if ws ∈ p.reading then some { p with reading := p.reading.erase ws } else none
  | .sendDone ws | .sendFailed ws =>
    if ws ∈ p.sending then some { p with sending := p.sending.erase ws } else none
  | .reconnect _ => if p.reconnectTimer then some { p with reconnectTimer := false } else none
  | .pingAlive   => if p.pingAliveTimer then some { p with pingAliveTimer := false } else none

variable (parse : Bytes → Except ε Json) (cfg : Config)

/-- What the handler of a completion does. -/
def handle : Completion → Publisher
  | .connected _ =>
    let p := startAliveTimer { p with reconnectTime := 1 }
    p.doControlReading.sendQueued .handshake
  | .readDone _ message answers =>
    let handled := onControlRead parse cfg message answers
    let p := handled.replies.foldl sendQueued p
    -- an exception ends the callback before the next read
    if handled.threw then p else p.doControlReading
  | .connectFailed _ | .readFailed _ | .sendFailed _ => p.retryConnect
  | .sendDone _ => p.sendOnceFromQueue
  | .reconnect authenticated => authenticate { p with isReconnecting := false } authenticated
  | .pingAlive => (p.sendQueued .ping).startAliveTimer

end Publisher

/-- The publisher and the handlers that have started. -/
structure Executor where
  line : Publisher
  running : List Completion := []
  deriving DecidableEq, Repr

/-- What happens next. -/
inductive Turn
  | arrive (c : Completion)
  | handle (c : Completion)
  /-- The connection of a websocket is lost. -/
  | lost (ws : WsId)
  deriving DecidableEq, Repr

namespace Executor

/-- `main` has called `authenticate`. -/
def start (authenticated : Bool) : Executor where
  line := Publisher.authenticate {} authenticated

variable (parse : Bytes → Except ε Json) (cfg : Config)

/-- One turn; `none` when it cannot happen. -/
def step (x : Executor) : Turn → Option Executor
  | .arrive c => (x.line.arrive c).map fun line => ⟨line, x.running ++ [c]⟩
  | .handle c =>
    if c ∈ x.running then some ⟨x.line.handle parse cfg c, x.running.erase c⟩ else none
  | .lost ws =>
    if ws ∈ x.line.established then
      some { x with line := { x.line with established := x.line.established.erase ws } }
    else none

end Executor

/-! ### What the queue leaves alone -/

namespace Publisher

variable {p q r : Publisher}

/-- `q` is `p` but for the queue of messages to send. -/
def Queues (p q : Publisher) : Prop :=
  ∃ controlSendOperations sendInProgress sending handed, q = { p with
    controlSendOperations := controlSendOperations
    sendInProgress := sendInProgress
    sending := sending
    handed := handed }

theorem Queues.refl (p : Publisher) : Queues p p := ⟨_, _, _, _, rfl⟩

theorem Queues.trans (h : Queues p q) (h' : Queues q r) : Queues p r := by
  obtain ⟨_, _, _, _, rfl⟩ := h
  obtain ⟨_, _, _, _, rfl⟩ := h'
  exact ⟨_, _, _, _, rfl⟩

theorem queues_sendOnceFromQueue (p : Publisher) : Queues p p.sendOnceFromQueue := by
  unfold sendOnceFromQueue
  split
  · exact ⟨_, _, _, _, rfl⟩
  · exact ⟨_, _, _, _, rfl⟩

theorem queues_sendQueued (p : Publisher) (op : ControlMessage) : Queues p (p.sendQueued op) := by
  unfold sendQueued
  split
  · exact ⟨_, _, _, _, rfl⟩
  · have hqueued : Queues p
        { p with controlSendOperations := p.controlSendOperations ++ [op] } := ⟨_, _, _, _, rfl⟩
    exact hqueued.trans (queues_sendOnceFromQueue _)

theorem queues_foldl_sendQueued (replies : List ControlMessage) (p : Publisher) :
    Queues p (replies.foldl sendQueued p) := by
  induction replies generalizing p with
  | nil => exact Queues.refl p
  | cons op replies ih => exact (queues_sendQueued p op).trans (ih _)

/-- `retryConnect` while it is ignored. -/
theorem retryConnect_of_isReconnecting (h : p.isReconnecting = true) :
    p.retryConnect = p.stopAliveTimer := by
  unfold retryConnect
  exact if_pos h

/-- `retryConnect` otherwise closes the current websocket and arms the timer. -/
theorem retryConnect_of_not_isReconnecting (h : p.isReconnecting = false) :
    ∃ reconnectTime, p.retryConnect = { p with
      pingAliveTimer := false
      established := p.established.erase p.ws
      isReconnecting := true
      reconnectTimer := true
      reconnectTime := reconnectTime } := by
  refine ⟨if p.reconnectTime * 2 > 60 then 60 else p.reconnectTime * 2, ?_⟩
  unfold retryConnect
  rw [h]
  rfl

/-- The ping is queued whether or not its timer is still armed. -/
theorem startAliveTimer_sendQueued (p : Publisher) (op : ControlMessage) :
    (sendQueued { p with pingAliveTimer := false } op).startAliveTimer =
      (p.sendQueued op).startAliveTimer := by
  unfold sendQueued sendOnceFromQueue
  split
  · rfl
  · cases h : p.controlSendOperations ++ [op] with
    | nil => rfl
    | cons first rest => rfl

end Publisher

/-- The event of `ControlLine` that a completion is. -/
def Completion.event (parse : Bytes → Except ε Json) (cfg : Config) :
    Completion → Publisher.Event
  | .connected ws     => .connected ws
  | .connectFailed ws => .connectFailed ws
  | .readDone ws message answers =>
    let handled := onControlRead parse cfg message answers
    .readDone ws handled.replies handled.threw
  | .readFailed ws    => .readFailed ws
  | .sendDone ws      => .sendDone ws
  | .sendFailed ws    => .sendFailed ws
  | .reconnect authenticated => .reconnect authenticated
  | .pingAlive        => .pingAlive

/-- **A handler that takes effect at once** is the step of the control line. -/
theorem Publisher.arrive_handle (parse : Bytes → Except ε Json) (cfg : Config) (p : Publisher)
    (c : Completion) :
    (p.arrive c).map (fun q => q.handle parse cfg c) = p.step (c.event parse cfg) := by
  cases c with
  | pingAlive =>
    show Option.map _ (if p.pingAliveTimer then _ else none) = if p.pingAliveTimer then _ else none
    split
    · exact congrArg some (startAliveTimer_sendQueued p .ping)
    · rfl
  | _ =>
    simp only [arrive, step, Completion.event]
    split <;> rfl

/-! ### When a reconnect is under way -/

/-- The handler of the reconnect timer. -/
def Completion.isReconnect : Completion → Bool
  | .reconnect _ => true
  | _ => false

namespace Executor

variable {parse : Bytes → Except ε Json} {cfg : Config} {x y : Executor}

/-- The reconnect timer is armed or has fired: once while `isReconnecting_` is set, and else not
    at all. -/
def Reconnecting (x : Executor) : Prop :=
  x.line.reconnectTimer.toNat + x.running.countP Completion.isReconnect =
    x.line.isReconnecting.toNat

theorem reconnecting_start (authenticated : Bool) : (start authenticated).Reconnecting := by
  cases authenticated <;> rfl

theorem Reconnecting.retryConnect {line : Publisher} {running : List Completion}
    (h : Reconnecting ⟨line, running⟩) : Reconnecting ⟨line.retryConnect, running⟩ := by
  cases hflag : line.isReconnecting with
  | true =>
    rw [Publisher.retryConnect_of_isReconnecting hflag]
    exact h
  | false =>
    obtain ⟨_, heq⟩ := Publisher.retryConnect_of_not_isReconnecting hflag
    rw [heq]
    -- nothing was under way before
    have hnone : line.reconnectTimer.toNat + running.countP Completion.isReconnect = 0 := by
      unfold Reconnecting at h
      rw [h]
      show line.isReconnecting.toNat = 0
      rw [hflag]
      rfl
    show true.toNat + running.countP Completion.isReconnect = true.toNat
    omega

theorem Reconnecting.queues {p q : Publisher} {running : List Completion} (h : Publisher.Queues p q)
    (hp : Reconnecting ⟨p, running⟩) : Reconnecting ⟨q, running⟩ := by
  obtain ⟨_, _, _, _, rfl⟩ := h
  exact hp

/-- While `isReconnecting_` is set, the timer is armed or its handler has started. -/
theorem Reconnecting.timer_or (h : x.Reconnecting) (hflag : x.line.isReconnecting = true) :
    x.line.reconnectTimer = true ∨ ∃ authenticated, .reconnect authenticated ∈ x.running := by
  unfold Reconnecting at h
  cases htimer : x.line.reconnectTimer with
  | true => exact .inl rfl
  | false =>
    rw [htimer, hflag] at h
    have hpos : 0 < x.running.countP Completion.isReconnect := by
      simp only [Bool.toNat_false, Bool.toNat_true, Nat.zero_add] at h
      omega
    obtain ⟨c, hmem, hc⟩ := List.countP_pos_iff.mp hpos
    cases c with
    | reconnect authenticated => exact .inr ⟨authenticated, hmem⟩
    | _ => cases hc

/-- While it is not set, the timer is not armed. -/
theorem Reconnecting.timer_eq_false (h : x.Reconnecting) (hflag : x.line.isReconnecting = false) :
    x.line.reconnectTimer = false := by
  unfold Reconnecting at h
  rw [hflag] at h
  cases htimer : x.line.reconnectTimer with
  | false => rfl
  | true =>
    rw [htimer] at h
    simp only [Bool.toNat_false, Bool.toNat_true] at h
    omega

/-- When the timer fires, it is no longer armed and its handler has started. -/
theorem Reconnecting.arrive (hx : x.Reconnecting) {c : Completion} {line : Publisher}
    (h : x.line.arrive c = some line) : Reconnecting ⟨line, x.running ++ [c]⟩ := by
  unfold Reconnecting at hx ⊢
  rw [List.countP_append]
  cases c with
  | reconnect authenticated =>
    simp only [Publisher.arrive, Option.ite_none_right_eq_some, Option.some.injEq] at h
    obtain ⟨htimer, rfl⟩ := h
    rw [htimer] at hx
    simp only [Bool.toNat_true] at hx
    show false.toNat + (x.running.countP Completion.isReconnect + 1) =
      x.line.isReconnecting.toNat
    rw [← hx, Bool.toNat_false]
    omega
  | _ =>
    simp only [Publisher.arrive, Option.ite_none_right_eq_some, Option.some.injEq] at h
    obtain ⟨-, rfl⟩ := h
    exact hx

/-- A handler that takes effect is no longer under way; that of the timer was the only one. -/
theorem Reconnecting.handle (hx : x.Reconnecting) {c : Completion} (hmem : c ∈ x.running) :
    Reconnecting ⟨x.line.handle parse cfg c, x.running.erase c⟩ := by
  have hcount : x.running.countP Completion.isReconnect =
      (x.running.erase c).countP Completion.isReconnect + (if c.isReconnect then 1 else 0) := by
    rw [(List.perm_cons_erase hmem).countP_eq, List.countP_cons]
  -- every other handler leaves the count
  have hrest : c.isReconnect = false → Reconnecting ⟨x.line, x.running.erase c⟩ := by
    intro hc
    unfold Reconnecting at hx ⊢
    rw [hcount, hc] at hx
    exact hx
  cases c with
  | connected ws =>
    have hread : Reconnecting ⟨Publisher.doControlReading
        (Publisher.startAliveTimer { x.line with reconnectTime := 1 }), _⟩ := hrest rfl
    exact hread.queues (Publisher.queues_sendQueued _ _)
  | connectFailed ws => exact (hrest rfl).retryConnect
  | readFailed ws => exact (hrest rfl).retryConnect
  | sendFailed ws => exact (hrest rfl).retryConnect
  | sendDone ws => exact (hrest rfl).queues (Publisher.queues_sendOnceFromQueue _)
  | pingAlive =>
    have hqueued := (hrest rfl).queues (Publisher.queues_sendQueued x.line .ping)
    exact hqueued
  | readDone ws message answers =>
    have hreplies := (hrest rfl).queues (Publisher.queues_foldl_sendQueued
      (onControlRead parse cfg message answers).replies x.line)
    simp only [Publisher.handle]
    split
    · exact hreplies
    · exact hreplies
  | reconnect authenticated =>
    -- nothing is under way until it has authenticated
    have hnone : Reconnecting ⟨{ x.line with isReconnecting := false },
        x.running.erase (.reconnect authenticated)⟩ := by
      unfold Reconnecting at hx
      rw [hcount] at hx
      have hle : x.line.isReconnecting.toNat ≤ 1 := Bool.toNat_le _
      simp only [Completion.isReconnect, if_true] at hx
      show x.line.reconnectTimer.toNat +
        (x.running.erase (.reconnect authenticated)).countP Completion.isReconnect = 0
      omega
    cases authenticated with
    | true => exact hnone
    | false => exact hnone.retryConnect

/-- **Every turn** keeps the count. -/
theorem Reconnecting.step (hx : x.Reconnecting) {turn : Turn}
    (h : x.step parse cfg turn = some y) : y.Reconnecting := by
  cases turn with
  | arrive c =>
    obtain ⟨line, harrive, rfl⟩ := Option.map_eq_some_iff.mp h
    exact hx.arrive harrive
  | handle c =>
    simp only [Executor.step, Option.ite_none_right_eq_some, Option.some.injEq] at h
    obtain ⟨hmem, rfl⟩ := h
    exact hx.handle hmem
  | lost ws =>
    simp only [Executor.step, Option.ite_none_right_eq_some, Option.some.injEq] at h
    obtain ⟨-, rfl⟩ := h
    exact hx

end Executor

end TunnelBore.Publisher
