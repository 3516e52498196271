import TunnelBore.Lib.Run
import TunnelBore.Lib.SendQueue

namespace TunnelBore.Publisher

open TunnelBore.Lib

/-!
# The publisher's control line

`Publisher` keeps one websocket to the broker.  When it fails, a timer is armed, and the
publisher authenticates and connects again, with a new websocket.  Messages go through a queue
with one send at a time.  A run is a sequence of completion handlers; each of them runs as a
whole, and its one access to the queue is under `controlSendQueueMutex_`.

* `Publisher.sendState` reads the queue as a `SendQueue`; `sendState_sendQueued` and
  `sendState_sendOnceFromQueue` say that the functions of the source are its operations;
* `Publisher.pumped_step`: every handler keeps the queue pumped, except that of a failed send;
* `queue_never_stalls` is what follows for runs in which no send fails;
* `queue_stalls` is the run in which one does.
-/

-- the class `Publisher` of the namespace `Publisher`
set_option linter.dupNamespace false

/-- Which of the websockets created so far. -/
abbrev WsId := Nat

/-- The messages the publisher sends on its control line. -/
inductive ControlMessage
  /-- The identity and the services, sent after each connect. -/
  | handshake
  | ping
  | newTunnelFailed (serviceId tunnelId : String) (hiddenPort publicPort : Int)
      (socketType reason : String)
  deriving DecidableEq, Repr

/-- The members of `Publisher` that the control line uses, the operations whose completion
    handlers have not run yet, and the messages handed to a websocket. -/
structure Publisher where
  ws : WsId := 0
  nextWs : WsId := 1
  /-- The websockets that are connected. -/
  established : List WsId := []
  connecting : List WsId := []
  reading : List WsId := []
  sending : List WsId := []
  reconnectTimer : Bool := false
  pingAliveTimer : Bool := false
  isReconnecting : Bool := false
  reconnectTime : Nat := 1
  controlSendOperations : List ControlMessage := []
  sendInProgress : Bool := false
  handed : List (WsId × ControlMessage) := []
  deriving DecidableEq, Repr

namespace Publisher

/-- `Publisher::stopAliveTimer`. -/
def stopAliveTimer (p : Publisher) : Publisher :=
  { p with pingAliveTimer := false }

/-- `Publisher::startAliveTimer`. -/
def startAliveTimer (p : Publisher) : Publisher :=
  { p with pingAliveTimer := true }

/-- `Publisher::connectToBroker`: a new websocket takes the place of the old one. -/
def connectToBroker (p : Publisher) : Publisher :=
  { p with
    ws := p.nextWs
    nextWs := p.nextWs + 1
    connecting := p.connecting ++ [p.nextWs] }

/-- `Publisher::retryConnect`. -/
def retryConnect (p : Publisher) : Publisher :=
  if p.isReconnecting then p.stopAliveTimer
  else
    { p.stopAliveTimer with
      -- `ws_->close()`
      established := p.established.erase p.ws
      isReconnecting := true
      reconnectTimer := true
      reconnectTime := if p.reconnectTime * 2 > 60 then 60 else p.reconnectTime * 2 }

/-- `Publisher::authenticate`, with the answer of the authority. -/
def authenticate (p : Publisher) (authenticated : Bool) : Publisher :=
  if authenticated then p.connectToBroker else p.retryConnect

/-- `Publisher::sendOnceFromQueue`. -/
def sendOnceFromQueue (p : Publisher) : Publisher :=
  match p.controlSendOperations with
  | [] => { p with sendInProgress := false }
  | op :: rest =>
    { p with
      sendInProgress := true
      controlSendOperations := rest
      sending := p.sending ++ [p.ws]
      handed := p.handed ++ [(p.ws, op)] }

/-- `Publisher::sendQueued`. -/
def sendQueued (p : Publisher) (op : ControlMessage) : Publisher :=
  if p.sendInProgress then
    { p with controlSendOperations := p.controlSendOperations ++ [op] }
  else
    sendOnceFromQueue { p with controlSendOperations := p.controlSendOperations ++ [op] }

/-- `Publisher::doControlReading`, on the websocket that is current now. -/
def doControlReading (p : Publisher) : Publisher :=
  { p with reading := p.reading ++ [p.ws] }

/-- What can happen to the control line. -/
inductive Event
  /-- `main` calls `authenticate`. -/
  | start (authenticated : Bool)
  /-- A websocket is connected. -/
  | connected (ws : WsId)
  /-- A websocket could not be connected. -/
  | connectFailed (ws : WsId)
  /-- A message is read; `onControlRead` queues `replies` and may throw. -/
  | readDone (ws : WsId) (replies : List ControlMessage) (threw : Bool)
  /-- A read fails. -/
  | readFailed (ws : WsId)
  /-- A send succeeds. -/
  | sendDone (ws : WsId)
  /-- A send fails. -/
  | sendFailed (ws : WsId)
  /-- `reconnectTimer_` fires, and the publisher authenticates again. -/
  | reconnect (authenticated : Bool)
  /-- `pingAliveTimer_` fires. -/
  | pingAlive
  /-- The connection of a websocket is lost. -/
  | lost (ws : WsId)
  deriving DecidableEq, Repr

/-- One event; `none` when it cannot happen. -/
def step (p : Publisher) : Event → Option Publisher
  | .start authenticated => if p.nextWs = 1 ∧ p.reconnectTimer = false then
      some (p.authenticate authenticated) else none
  | .connected ws =>
    if ws ∈ p.connecting then
      let connected : Publisher :=
        { p with
          connecting := p.connecting.erase ws
          established := p.established ++ [ws]
          reconnectTime := 1 }
      some (connected.startAliveTimer.doControlReading.sendQueued .handshake)
    else none
  | .connectFailed ws =>
    if ws ∈ p.connecting then
      some (retryConnect { p with connecting := p.connecting.erase ws })
    else none
  | .readDone ws replies threw =>
    if ws ∈ p.reading then
      let read := replies.foldl sendQueued { p with reading := p.reading.erase ws }
      some (if threw then read else read.doControlReading)
    else none
  | .readFailed ws =>
    if ws ∈ p.reading then
      some (retryConnect { p with reading := p.reading.erase ws })
    else none
  | .sendDone ws =>
    if ws ∈ p.sending then
      some (sendOnceFromQueue { p with sending := p.sending.erase ws })
    else none
  | .sendFailed ws =>
    if ws ∈ p.sending then
      some (retryConnect { p with sending := p.sending.erase ws })
    else none
  | .reconnect authenticated =>
    if p.reconnectTimer then
      some (authenticate { p with reconnectTimer := false, isReconnecting := false } authenticated)
    else none
  | .pingAlive =>
    if p.pingAliveTimer then some ((p.sendQueued .ping).startAliveTimer) else none
  | .lost ws =>
    if ws ∈ p.established then some { p with established := p.established.erase ws } else none

/-- The control connection is established. -/
def Established (p : Publisher) : Prop := p.ws ∈ p.established

/-- The condition: no send fails. -/
def sendsSucceed : Event → Bool
  | .sendFailed _ => false
  | _ => true

/-! ### The queue of the source is a queue with one send at a time -/

variable {p p' : Publisher} {e : Event}

/-- The queue, with the websockets as carriers. -/
def sendState (p : Publisher) : SendQueue WsId ControlMessage where
  waiting := p.controlSendOperations
  inProgress := p.sendInProgress
  outstanding := p.sending.length
  handed := p.handed

theorem sendState_sendOnceFromQueue (p : Publisher) :
    p.sendOnceFromQueue.sendState = p.sendState.sendOnce p.ws := by
  unfold sendOnceFromQueue SendQueue.sendOnce sendState
  cases p.controlSendOperations with
  | nil => rfl
  | cons op rest =>
    show SendQueue.mk rest true (p.sending ++ [p.ws]).length _ = _
    rw [List.length_append]
    rfl

theorem sendState_sendQueued (p : Publisher) (op : ControlMessage) :
    (p.sendQueued op).sendState = p.sendState.enqueue p.ws op := by
  unfold sendQueued SendQueue.enqueue
  show _ = if p.sendInProgress then _ else _
  split
  · rfl
  · exact sendState_sendOnceFromQueue _

theorem sendState_retryConnect (p : Publisher) : p.retryConnect.sendState = p.sendState := by
  unfold retryConnect
  split <;> rfl

theorem sendState_authenticate (p : Publisher) (authenticated : Bool) :
    (p.authenticate authenticated).sendState = p.sendState := by
  cases authenticated with
  | true => rfl
  | false => exact p.sendState_retryConnect

/-- Replies to a message are queued one after the other. -/
theorem pumped_foldl_sendQueued (hp : p.sendState.Pumped) (replies : List ControlMessage) :
    (replies.foldl sendQueued p).sendState.Pumped := by
  induction replies generalizing p with
  | nil => exact hp
  | cons op replies ih =>
    rw [List.foldl_cons]
    apply ih
    rw [sendState_sendQueued]
    exact hp.enqueue p.ws op

/-- A send that succeeds is a completion of the queue. -/
theorem sendState_sendDone {ws : WsId} (h : ws ∈ p.sending) :
    (sendOnceFromQueue { p with sending := p.sending.erase ws }).sendState =
      p.sendState.completed p.ws := by
  rw [sendState_sendOnceFromQueue]
  show SendQueue.sendOnce { p.sendState with outstanding := (p.sending.erase ws).length } p.ws = _
  rw [List.length_erase_of_mem h]
  rfl

/-- A connect queues the handshake, whatever else it does. -/
theorem connected_eq_some {ws : WsId} (h : p.step (.connected ws) = some p') :
    p'.sendState = p.sendState.enqueue p.ws .handshake := by
  simp only [step, Option.ite_none_right_eq_some, Option.some.injEq] at h
  obtain ⟨-, rfl⟩ := h
  exact sendState_sendQueued _ _

/-- **Every handler keeps the queue pumped**, except that of a failed send. -/
theorem pumped_step (hp : p.sendState.Pumped) (hguard : sendsSucceed e = true)
    (h : p.step e = some p') : p'.sendState.Pumped := by
  cases e with
  | start authenticated =>
    simp only [step, Option.ite_none_right_eq_some, Option.some.injEq] at h
    obtain ⟨-, rfl⟩ := h
    rw [sendState_authenticate]
    exact hp
  | connected ws =>
    rw [connected_eq_some h]
    exact hp.enqueue p.ws .handshake
  | connectFailed ws =>
    simp only [step, Option.ite_none_right_eq_some, Option.some.injEq] at h
    obtain ⟨-, rfl⟩ := h
    rw [sendState_retryConnect]
    exact hp
  | readDone ws replies threw =>
    simp only [step, Option.ite_none_right_eq_some, Option.some.injEq] at h
    obtain ⟨-, rfl⟩ := h
    have hread : (replies.foldl sendQueued
        { p with reading := p.reading.erase ws }).sendState.Pumped :=
      @pumped_foldl_sendQueued { p with reading := p.reading.erase ws } hp replies
    cases threw with
    | true => exact hread
    | false => exact hread
  | readFailed ws =>
    simp only [step, Option.ite_none_right_eq_some, Option.some.injEq] at h
    obtain ⟨-, rfl⟩ := h
    rw [sendState_retryConnect]
    exact hp
  | sendDone ws =>
    simp only [step, Option.ite_none_right_eq_some, Option.some.injEq] at h
    obtain ⟨hsending, rfl⟩ := h
    rw [sendState_sendDone hsending]
    exact hp.completed (List.length_pos_of_mem hsending) p.ws
  | sendFailed ws => cases hguard
  | reconnect authenticated =>
    simp only [step, Option.ite_none_right_eq_some, Option.some.injEq] at h
    obtain ⟨-, rfl⟩ := h
    rw [sendState_authenticate]
    exact hp
  | pingAlive =>
    simp only [step, Option.ite_none_right_eq_some, Option.some.injEq] at h
    obtain ⟨-, rfl⟩ := h
    show (p.sendQueued .ping).sendState.Pumped
    rw [sendState_sendQueued]
    exact hp.enqueue p.ws .ping
  | lost ws =>
    simp only [step, Option.ite_none_right_eq_some, Option.some.injEq] at h
    obtain ⟨-, rfl⟩ := h
    exact hp

/-! ### The queue stalls exactly by a failed send -/

/-- **The queue never stalls** in a run in which no send fails: a waiting message has a send
    outstanding whose completion hands it to the current websocket, and the handshake of a
    connect is handed to it at once unless an earlier send is still outstanding. -/
theorem queue_never_stalls {events : List Event}
    (hguard : Along step (fun _ e => sendsSucceed e = true) {} events)
    (hrun : run step {} events = some p) :
    (∀ op rest, p.controlSendOperations = op :: rest → ∃ ws p', p.sending = [ws] ∧
      p.step (.sendDone ws) = some p' ∧ p'.handed = p.handed ++ [(p.ws, op)]) ∧
      ∀ ws p', p.sending = [] → p.step (.connected ws) = some p' →
        p'.handed = p.handed ++ [(p.ws, .handshake)] := by
  have hp : p.sendState.Pumped := by
    refine run_invariant (I := fun p => p.sendState.Pumped)
      (fun _ _ _ hp hg h => pumped_step hp hg h) ?_ hguard hrun
    exact ⟨(fun h => by cases h), fun _ => ⟨rfl, rfl⟩⟩
  constructor
  · intro op rest hwaiting
    have hone : p.sending.length = 1 := hp.outstanding_of_waiting (by
      show p.controlSendOperations ≠ []
      rw [hwaiting]
      simp)
    obtain ⟨ws, hws⟩ := List.length_eq_one_iff.mp hone
    have hmem : ws ∈ p.sending := by
      rw [hws]
      exact List.mem_singleton_self ws
    refine ⟨ws, _, hws, if_pos hmem, ?_⟩
    show (sendOnceFromQueue { p with sending := p.sending.erase ws }).sendState.handed = _
    rw [sendState_sendDone hmem]
    exact SendQueue.handed_completed hwaiting p.ws
  · intro ws p' hnone hconnected
    show p'.sendState.handed = _
    rw [connected_eq_some hconnected]
    exact hp.handed_enqueue (congrArg List.length hnone) p.ws .handshake

/-- The publisher connects and its handshake is sent; a ping is on its way. -/
def eventsConnect : List Event :=
  [.start true, .connected 1, .sendDone 1, .pingAlive]

/-- The ping is sent, the connection is lost, and the publisher connects again. -/
def eventsReconnect : List Event :=
  eventsConnect ++ [.sendDone 1, .lost 1, .readFailed 1, .reconnect true, .connected 2]

/-- The connection is lost with the ping on its way. -/
def eventsSendFailed : List Event :=
  eventsConnect ++ [.lost 1, .sendFailed 1, .readFailed 1, .reconnect true, .connected 2]

/-- After a reconnect without a failed send the handshake is with the new websocket. -/
theorem queue_never_stalls_reconnect :
    ∃ p, run step {} eventsReconnect = some p ∧ (2, .handshake) ∈ p.handed ∧
      (∀ op rest, p.controlSendOperations = op :: rest → ∃ ws p', p.sending = [ws] ∧
        p.step (.sendDone ws) = some p' ∧ p'.handed = p.handed ++ [(p.ws, op)]) := by
  have hguard : Along step (fun _ e => sendsSucceed e = true) {} eventsReconnect := by decide
  exact ⟨_, rfl, by decide, (queue_never_stalls hguard rfl).1⟩

/-- After one with a failed send the connection is established and the handshake waits, but no
    send is outstanding. -/
theorem queue_stalls :
    ∃ p, run step {} eventsSendFailed = some p ∧ p.Established ∧
      p.controlSendOperations = [.handshake] ∧ p.sending = [] := by
  refine ⟨_, rfl, ?_, rfl, rfl⟩
  unfold Established
  decide

/-! ### What is handed to a websocket stays handed to it -/

theorem handed_prefix_sendOnceFromQueue (p : Publisher) :
    p.handed <+: p.sendOnceFromQueue.handed := by
  show p.sendState.handed <+: p.sendOnceFromQueue.sendState.handed
  rw [sendState_sendOnceFromQueue]
  exact SendQueue.handed_prefix_sendOnce p.sendState p.ws

theorem handed_prefix_sendQueued (p : Publisher) (op : ControlMessage) :
    p.handed <+: (p.sendQueued op).handed := by
  show p.sendState.handed <+: (p.sendQueued op).sendState.handed
  rw [sendState_sendQueued]
  exact SendQueue.handed_prefix_enqueue p.sendState p.ws op

theorem handed_prefix_foldl_sendQueued (replies : List ControlMessage) (p : Publisher) :
    p.handed <+: (replies.foldl sendQueued p).handed := by
  induction replies generalizing p with
  | nil => exact List.prefix_rfl
  | cons op replies ih => exact (handed_prefix_sendQueued p op).trans (ih (p.sendQueued op))

theorem handed_prefix_retryConnect (p : Publisher) : p.handed <+: p.retryConnect.handed := by
  have hsame : p.retryConnect.handed = p.handed :=
    congrArg SendQueue.handed p.sendState_retryConnect
  exact hsame ▸ List.prefix_rfl

theorem handed_prefix_authenticate (p : Publisher) (authenticated : Bool) :
    p.handed <+: (p.authenticate authenticated).handed := by
  have hsame : (p.authenticate authenticated).handed = p.handed :=
    congrArg SendQueue.handed (p.sendState_authenticate authenticated)
  exact hsame ▸ List.prefix_rfl

/-- **No event takes a message back.** -/
theorem handed_prefix_step (h : p.step e = some p') : p.handed <+: p'.handed := by
  cases e with
  | start authenticated =>
    simp only [step, Option.ite_none_right_eq_some, Option.some.injEq] at h
    obtain ⟨-, rfl⟩ := h
    exact handed_prefix_authenticate _ _
  | connected ws =>
    simp only [step, Option.ite_none_right_eq_some, Option.some.injEq] at h
    obtain ⟨-, rfl⟩ := h
    exact handed_prefix_sendQueued (doControlReading (startAliveTimer { p with
      connecting := p.connecting.erase ws
      established := p.established ++ [ws]
      reconnectTime := 1 })) .handshake
  | connectFailed ws =>
    simp only [step, Option.ite_none_right_eq_some, Option.some.injEq] at h
    obtain ⟨-, rfl⟩ := h
    exact handed_prefix_retryConnect { p with connecting := p.connecting.erase ws }
  | readFailed ws =>
    simp only [step, Option.ite_none_right_eq_some, Option.some.injEq] at h
    obtain ⟨-, rfl⟩ := h
    exact handed_prefix_retryConnect { p with reading := p.reading.erase ws }
  | sendFailed ws =>
    simp only [step, Option.ite_none_right_eq_some, Option.some.injEq] at h
    obtain ⟨-, rfl⟩ := h
    exact handed_prefix_retryConnect { p with sending := p.sending.erase ws }
  | readDone ws replies threw =>
    simp only [step, Option.ite_none_right_eq_some, Option.some.injEq] at h
    obtain ⟨-, rfl⟩ := h
    have hread := handed_prefix_foldl_sendQueued replies
      { p with reading := p.reading.erase ws }
    cases threw with
    | true => exact hread
    | false => exact hread
  | sendDone ws =>
    simp only [step, Option.ite_none_right_eq_some, Option.some.injEq] at h
    obtain ⟨-, rfl⟩ := h
    exact handed_prefix_sendOnceFromQueue { p with sending := p.sending.erase ws }
  | reconnect authenticated =>
    simp only [step, Option.ite_none_right_eq_some, Option.some.injEq] at h
    obtain ⟨-, rfl⟩ := h
    exact handed_prefix_authenticate
      { p with reconnectTimer := false, isReconnecting := false } authenticated
  | pingAlive =>
    simp only [step, Option.ite_none_right_eq_some, Option.some.injEq] at h
    obtain ⟨-, rfl⟩ := h
    exact handed_prefix_sendQueued p .ping
  | lost ws =>
    simp only [step, Option.ite_none_right_eq_some, Option.some.injEq] at h
    obtain ⟨-, rfl⟩ := h
    exact List.prefix_rfl

end Publisher

end TunnelBore.Publisher
