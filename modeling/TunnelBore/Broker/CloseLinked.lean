import TunnelBore.Broker.CallThreads
import TunnelBore.Broker.SessionTable
import TunnelBore.Shared.Inactivity

namespace TunnelBore.Broker

open TunnelBore.Lib

/-!
# Closing a linked pair

`close` on one side of a tunnel closes the other side through the pipe operation, whose `close` is
called once more when it is let go of, and each side leaves the map by itself in the middle of
this.  The run of such a call is observed: which sockets are shut down, and what happens to the
timers.

* `Shut` — a session is closed, with its socket shut down and its timer cancelled for good;
* `shut_close` — so is an open session after `close`, and whatever runs then, it stays so;
* `PendingReset` — a closed session has no pipe operation, or its reset is still to come;
* `PairLinked.reaches` — `close` on X comes to a `close` on Y, which is open until then;
* `close_closes_pair` — `close` on X closes X and Y and touches nothing else.
-/

/-! ### What is observed -/

/-- The timers and the sockets of sessions. -/
structure SessionResources where
  timers : TunnelId → TunnelTimer
  /-- The sockets that were shut down, by the ids of their sessions. -/
  shutdowns : List TunnelId := []

namespace SessionResources

variable (r : SessionResources)

/-- `TunnelSession::cancelTimer` of a session. -/
def cancelTimer (id : TunnelId) : SessionResources :=
  { r with timers := Function.update r.timers id (r.timers id).cancelTimer }

/-- The session is marked as closed and its socket is shut down. -/
def shutDown (id : TunnelId) : SessionResources where
  timers := Function.update r.timers id { r.timers id with wasClosed := true }
  shutdowns := r.shutdowns ++ [id]

@[simp] theorem timers_cancelTimer_self (id : TunnelId) :
    (r.cancelTimer id).timers id = (r.timers id).cancelTimer := Function.update_self ..

@[simp] theorem timers_cancelTimer_of_ne {id j : TunnelId} (h : id ≠ j) :
    (r.cancelTimer j).timers id = r.timers id := Function.update_of_ne h ..

@[simp] theorem timers_shutDown_self (id : TunnelId) :
    (r.shutDown id).timers id = { r.timers id with wasClosed := true } := Function.update_self ..

@[simp] theorem timers_shutDown_of_ne {id j : TunnelId} (h : id ≠ j) :
    (r.shutDown j).timers id = r.timers id := Function.update_of_ne h ..

theorem count_shutDown_self (id : TunnelId) :
    (r.shutDown id).shutdowns.count id = r.shutdowns.count id + 1 := by
  show (r.shutdowns ++ [id]).count id = _
  rw [List.count_append, List.count_singleton_self]

theorem count_shutDown_of_ne {id j : TunnelId} (h : id ≠ j) :
    (r.shutDown j).shutdowns.count id = r.shutdowns.count id := by
  show (r.shutdowns ++ [j]).count id = _
  rw [List.count_append, List.count_singleton, if_neg (by simpa using h.symm), Nat.add_zero]

end SessionResources

namespace Service

/-- What the functions do to timers and sockets. -/
def touch (s : Service) : Act → SessionResources → SessionResources
  | .close id, r        => r.cancelTimer id
  | .destroy id, r      => r.cancelTimer id
  | .closeGuarded id, r => if id ∈ s.openIds then r.shutDown id else r
  | _, r                => r

/-- The functions, observed. -/
def expandObserved : Service × SessionResources → Act → (Service × SessionResources) × Program :=
  observed expand touch

end Service

namespace TunnelTimer

/-- A timer that was cancelled and for which nothing waits. -/
structure Cancelled (t : TunnelTimer) : Prop where
  cancelled : t.timerWasCancelled = true
  quiet : t.watchdog.waits = []

theorem cancelled_cancelTimer (t : TunnelTimer) : t.cancelTimer.Cancelled := ⟨rfl, rfl⟩

/-- **Cancelled for good**: nothing that happens to a session arms its timer again. -/
theorem Cancelled.step {t t' : TunnelTimer} {e : TimerEvent} (h : t.Cancelled)
    (hstep : t.step e = some t') : t'.Cancelled := by
  cases e with
  | resetTimer =>
    simp only [TunnelTimer.step, Option.ite_none_right_eq_some, Option.some.injEq] at hstep
    obtain ⟨-, rfl⟩ := hstep
    unfold resetTimer
    simp only [h.cancelled, if_true, ite_self]
    exact h
  | advance duration =>
    obtain rfl := Option.some.inj hstep
    exact ⟨h.cancelled, h.quiet⟩
  | fire =>
    obtain ⟨watchdog, hfire, rfl⟩ := Option.map_eq_some_iff.mp hstep
    simp only [Watchdog.fire, Option.ite_none_right_eq_some, Option.some.injEq] at hfire
    obtain ⟨-, rfl⟩ := hfire
    exact ⟨h.cancelled, rfl⟩
  | deliver i =>
    obtain ⟨⟨ended, watchdog⟩, htake, rfl⟩ := Option.map_eq_some_iff.mp hstep
    obtain ⟨-, rfl⟩ := Watchdog.take_eq_some.mp htake
    obtain ⟨k, ended⟩ := ended
    have htaken : Cancelled { t with watchdog := { t.watchdog with
        queued := t.watchdog.queued.eraseIdx i } } := ⟨h.cancelled, h.quiet⟩
    cases ended with
    | aborted => exact htaken
    | expired =>
      simp only [onTimer]
      split
      · exact htaken
      · split
        · exact ⟨rfl, rfl⟩
        · exact htaken
  | close =>
    simp only [TunnelTimer.step, Option.ite_none_right_eq_some, Option.some.injEq] at hstep
    obtain ⟨-, rfl⟩ := hstep
    exact ⟨rfl, rfl⟩
  | destroy =>
    simp only [TunnelTimer.step, Option.ite_none_right_eq_some, Option.some.injEq] at hstep
    obtain ⟨-, rfl⟩ := hstep
    exact ⟨rfl, rfl⟩

end TunnelTimer

namespace Service

variable {s : Service} {c c' : Service × SessionResources} {id : TunnelId} {n : Nat}

theorem touch_closeGuarded (s : Service) (id : TunnelId) (r : SessionResources) :
    s.touch (.closeGuarded id) r = if id ∈ s.openIds then r.shutDown id else r := rfl

/-- What an act does to the timer of a session. -/
theorem timers_touch (s : Service) (a : Act) (r : SessionResources) (id : TunnelId) :
    (s.touch a r).timers id = r.timers id ∨
      (id ∈ a.ids ∧ ((s.touch a r).timers id = (r.timers id).cancelTimer ∨
        (s.touch a r).timers id = { r.timers id with wasClosed := true })) := by
  have hcancel : ∀ j, (r.cancelTimer j).timers id = r.timers id ∨
      (id ∈ [j] ∧ (r.cancelTimer j).timers id = (r.timers id).cancelTimer) := by
    intro j
    by_cases hid : id = j
    · subst hid
      exact .inr ⟨List.mem_cons_self, r.timers_cancelTimer_self id⟩
    · exact .inl (r.timers_cancelTimer_of_ne hid)
  cases a with
  | close j => exact (hcancel j).imp_right fun h => ⟨h.1, .inl h.2⟩
  | destroy j => exact (hcancel j).imp_right fun h => ⟨h.1, .inl h.2⟩
  | closeGuarded j =>
    rw [touch_closeGuarded]
    split
    · by_cases hid : id = j
      · subst hid
        exact .inr ⟨List.mem_cons_self, .inr (r.timers_shutDown_self id)⟩
      · exact .inl (r.timers_shutDown_of_ne hid)
    · exact .inl rfl
  | _ => exact .inl rfl

/-- The socket of a session is shut down when the session is closed while open, and never else. -/
theorem shutdowns_touch (s : Service) (a : Act) (r : SessionResources) (id : TunnelId) :
    (s.touch a r).shutdowns.count id = r.shutdowns.count id ∨
      (id ∈ s.openIds ∧ a = .closeGuarded id) := by
  cases a with
  | closeGuarded j =>
    rw [touch_closeGuarded]
    split
    · next hopen =>
      by_cases hid : id = j
      · subst hid
        exact .inr ⟨hopen, rfl⟩
      · exact .inl (r.count_shutDown_of_ne hid)
    · exact .inl rfl
  | _ => exact .inl rfl

/-! ### A session that is shut -/

/-- The session is closed, its socket was shut down for the `n`th time and its timer cancelled. -/
structure Shut (id : TunnelId) (n : Nat) (c : Service × SessionResources) : Prop where
  notOpen : id ∉ c.1.openIds
  shutdowns : c.2.shutdowns.count id = n
  marked : (c.2.timers id).wasClosed = true
  timer : (c.2.timers id).Cancelled

/-- **A shut session stays shut**, whatever task is carried out: it is not open again, so that its
    socket is not shut down again. -/
theorem Shut.perform (h : Shut id n c) (t : Task Mutex Act) :
    Shut id n (perform expandObserved c t).1 := by
  cases t with
  | lock m => exact h
  | unlock m => exact h
  | act a =>
    refine ⟨fun hopen => h.notOpen ((shrinks_perform c.1 (.act a)).1 hopen), ?_, ?_, ?_⟩
    · show (c.1.touch a c.2).shutdowns.count id = n
      rcases shutdowns_touch c.1 a c.2 id with hsame | ⟨hopen, -⟩
      · rw [hsame]
        exact h.shutdowns
      · exact absurd hopen h.notOpen
    · show ((c.1.touch a c.2).timers id).wasClosed = true
      rcases timers_touch c.1 a c.2 id with hsame | ⟨-, hcancel | hmark⟩
      · exact hsame ▸ h.marked
      · exact hcancel ▸ h.marked
      · rw [hmark]
    · show ((c.1.touch a c.2).timers id).Cancelled
      rcases timers_touch c.1 a c.2 id with hsame | ⟨-, hcancel | hmark⟩
      · exact hsame ▸ h.timer
      · exact hcancel ▸ TunnelTimer.cancelled_cancelTimer _
      · rw [hmark]
        exact ⟨h.timer.cancelled, h.timer.quiet⟩

/-- So it does whatever program is run. -/
theorem Shut.executes (h : Shut id n c) {p : Program} (hrun : Executes expandObserved c p c') :
    Shut id n c' :=
  hrun.invariant (I := Shut id n) (T := fun _ => True)
    (fun _ t hc _ => ⟨hc.perform t, fun _ _ => trivial⟩) h fun _ _ => trivial

/-- **`close` shuts an open session.** -/
theorem shut_close (hopen : id ∈ c.1.openIds)
    (hrun : Executes expandObserved c [.act (.close id)] c') :
    Shut id (c.2.shutdowns.count id + 1) c' := by
  obtain ⟨t, ht, hclosed⟩ := c.1.mem_openIds.mp hopen
  -- the timer is cancelled, then the session is marked under its lock
  rw [executes_act] at hrun
  change Executes expandObserved (c.1, c.2.cancelTimer id)
    [.lock (.closeLock id), .act (.closeGuarded id)] c' at hrun
  rw [executes_lock, executes_act] at hrun
  refine Shut.executes ?_ hrun
  have hguarded : (c.1.closeGuarded id).1 =
      c.1.modify id fun t => { t with wasClosed := true } := by
    rw [closeGuarded_of_open ht hclosed]
  have htouch : c.1.touch (.closeGuarded id) (c.2.cancelTimer id) =
      (c.2.cancelTimer id).shutDown id := if_pos hopen
  have hstate : (expandObserved (c.1, c.2.cancelTimer id) (.closeGuarded id)).1 =
      (c.1.modify id fun t => { t with wasClosed := true }, (c.2.cancelTimer id).shutDown id) :=
    Prod.ext hguarded htouch
  rw [hstate]
  refine ⟨?_, ?_, ?_, ?_⟩
  · rw [mem_openIds, tunnel_modify]
    simp [ht]
  · exact (c.2.cancelTimer id).count_shutDown_self id
  · simp
  · simp only [SessionResources.timers_shutDown_self, SessionResources.timers_cancelTimer_self]
    exact ⟨rfl, rfl⟩

/-- `close` of a session that is not open cancels its timer and does nothing else. -/
theorem observed_close_of_notOpen (h : id ∉ c.1.openIds) :
    Executes expandObserved c [.act (.close id)] c' ↔ c' = (c.1, c.2.cancelTimer id) := by
  rw [executes_act]
  show Executes expandObserved (c.1, c.2.cancelTimer id)
    [.lock (.closeLock id), .act (.closeGuarded id)] c' ↔ _
  rw [executes_lock, executes_act]
  have hguarded : expandObserved (c.1, c.2.cancelTimer id) (.closeGuarded id) =
      ((c.1, c.2.cancelTimer id), [.unlock (.closeLock id)]) := by
    show ((_, c.1.touch (.closeGuarded id) _), (c.1.closeGuarded id).2) = _
    rw [touch_closeGuarded, if_neg h]
    show (((c.1.closeGuarded id).1, _), _) = _
    rw [closeGuarded_of_notOpen h]
  rw [hguarded, List.append_nil, executes_unlock, executes_nil]

/-! ### Letting go of the pipe operation -/

/-- Only `close` marks a session as closed. -/
theorem wasClosed_perform {t : Task Mutex Act} {after : TunnelSession}
    (h : (perform expand s t).1.tunnel id = some after) (hclosed : after.wasClosed = true) :
    t = .act (.closeGuarded id) ∨
      ∃ before, s.tunnel id = some before ∧ before.wasClosed = true := by
  obtain ⟨before, hbefore, -⟩ := perform_tunnel h
  have hkept : after.wasClosed = before.wasClosed →
      ∃ before, s.tunnel id = some before ∧ before.wasClosed = true :=
    fun heq => ⟨before, hbefore, heq ▸ hclosed⟩
  have hmodify : ∀ {j : TunnelId} {f : TunnelSession → TunnelSession},
      (s.modify j f).tunnel id = some after → (∀ t, (f t).wasClosed = t.wasClosed) →
        after.wasClosed = before.wasClosed := by
    intro j f hafter hf
    rw [tunnel_modify] at hafter
    split at hafter
    · next hj =>
      subst hj
      rw [hbefore, Option.map_some, Option.some.injEq] at hafter
      exact hafter ▸ hf before
    · rw [Option.some.inj (hafter.symm.trans hbefore)]
  have hout := outcome s t
  generalize perform expand s t = result at hout h
  cases hout with
  | @closes j =>
    obtain ⟨t, ht, rfl | ⟨rfl, -⟩⟩ := tunnel_modify_cases h
    · exact .inr ⟨after, ht, hclosed⟩
    · exact .inl rfl
  | @pipeClose _ _ ends =>
    rw [tunnel_foldl_acquire ends hbefore, Option.some.injEq] at h
    exact .inr (hkept (h ▸ rfl))
  | pipeReset => exact .inr (hkept (hmodify h fun _ => rfl))
  | pipeAssign => exact .inr (hkept (hmodify h fun _ => rfl))
  | release _ _ hs' =>
    subst hs'
    exact .inr (hkept (hmodify h fun _ => rfl))
  | @free j =>
    have htunnel : (s.free j).1.tunnel id = some after := h
    rw [tunnel_free] at htunnel
    split at htunnel
    · cases htunnel
    · exact .inr ⟨after, htunnel, hclosed⟩
  | erase _ hs' =>
    subst hs'
    exact .inr ⟨after, h, hclosed⟩
  | @linkWrite j other =>
    have hacquired := tunnel_foldl_acquire [j, other] hbefore
    rw [show [j, other].foldl acquire s = (s.acquire j).acquire other from rfl] at hacquired
    have hsame : some after = _ := h.symm.trans hacquired
    exact .inr (hkept (Option.some.inj hsame ▸ rfl))
  | _ => exact .inr ⟨after, h, hclosed⟩

/-- A session that is closed has let go of its pipe operation, or is still to do so. -/
def PendingReset (id : TunnelId) (s : Service) (p : Program) : Prop :=
  ∀ t, s.tunnel id = some t → t.wasClosed = true → t.pipeOperation ≠ none →
    .act (.pipeReset id) ∈ p

theorem PendingReset.perform {t : Task Mutex Act} {ts : Program}
    (h : PendingReset id s (t :: ts)) (ht : Calm t) :
    PendingReset id (perform expand s t).1 ((perform expand s t).2 ++ ts) := by
  intro after hafter hclosed hpipe
  obtain ⟨before, hbefore, hevolves⟩ := perform_tunnel hafter
  obtain ⟨other, hother⟩ := Option.ne_none_iff_exists'.mp hpipe
  -- a calm task does not set the operation, so it was there before
  have hbeforePipe : before.pipeOperation = some other := by
    rcases hevolves.pipe other hother with hsame | rfl
    · exact hsame
    · exact ht.elim
  have hpending : before.wasClosed = true → t ≠ .act (.pipeReset id) →
      .act (.pipeReset id) ∈ ts := by
    intro hwas hne
    have hmem := h before hbefore hwas (by simp [hbeforePipe])
    exact (List.mem_cons.mp hmem).resolve_left hne.symm
  rw [List.mem_append]
  by_cases hreset : t = .act (.pipeReset id)
  · -- the reset itself clears the operation
    subst hreset
    have hcleared : (s.pipeReset id).1.tunnel id = some after := hafter
    rw [pipeReset, hbefore, Option.bind_some, hbeforePipe] at hcleared
    rw [show (s.modify id fun t => { t with pipeOperation := none }, _).1.tunnel id = _ from
      tunnel_modify .., if_pos rfl, hbefore, Option.map_some, Option.some.injEq] at hcleared
    exact absurd (hcleared ▸ rfl) hpipe
  · rcases wasClosed_perform hafter hclosed with rfl | ⟨was, hwas, hwasClosed⟩
    · cases hopen : before.wasClosed with
      | true => exact .inr (hpending hopen hreset)
      | false =>
        refine .inl ?_
        show _ ∈ (s.closeGuarded id).2
        rw [closeGuarded_of_open hbefore hopen, hbeforePipe]
        simp
    · obtain rfl : before = was := Option.some.inj (hbefore.symm.trans hwas)
      exact .inr (hpending hwasClosed hreset)

/-- **A session that was closed has let go of its pipe operation** when the calls have returned. -/
theorem released_of_executes {s' : Service} {p : Program} (h : Executes expand s p s')
    (hcalm : ∀ t ∈ p, Calm t) (hopen : id ∈ s.openIds) (hclosed : id ∉ s'.openIds) :
    s'.pipeOf id = none := by
  have hrule := h.stack_invariant
    (J := fun u p => (∀ t ∈ p, Calm t) ∧ PendingReset id u p) ?_ ⟨hcalm, ?_⟩
  · cases ht : s'.tunnel id with
    | none => rw [pipeOf, ht, Option.bind_none]
    | some t =>
      rw [pipeOf, ht, Option.bind_some]
      by_contra hpipe
      refine absurd (hrule.2 t ht ?_ hpipe) List.not_mem_nil
      by_contra hwas
      exact hclosed (s'.mem_openIds.mpr ⟨t, ht, by simpa using hwas⟩)
  · rintro u t ts ⟨hts, hpending⟩
    obtain ⟨ht, hrest⟩ := List.forall_mem_cons.mp hts
    exact ⟨List.forall_mem_append.mpr ⟨fun _ => calm_pushed ht, hrest⟩, hpending.perform ht⟩
  · intro t ht hwas
    obtain ⟨t', ht', hnot⟩ := s.mem_openIds.mp hopen
    rw [Option.some.inj (ht.symm.trans ht'), hnot] at hwas
    cases hwas

/-! ### The pair -/

/-- One end of a link: an open session of the table with a pipe operation to `other`. -/
structure LinkedEnd (s : Service) (id other : TunnelId) : Prop where
  entry : id ∈ s.sessions
  isOpen : id ∈ s.openIds
  pipe : s.pipeOf id = some other

/-- Two sessions that are linked with each other. -/
structure PairLinked (s : Service) (x y : TunnelId) : Prop where
  ne : x ≠ y
  left : s.LinkedEnd x y
  right : s.LinkedEnd y x

variable {x y : TunnelId} {r : SessionResources}

theorem LinkedEnd.alive (h : s.LinkedEnd x y) : s.alive x = true := by
  obtain ⟨t, ht, -⟩ := s.mem_openIds.mp h.isOpen
  exact s.alive_iff.mpr ⟨t, ht, .inl h.entry⟩

/-- With both ends alive, closing the pipe operation closes them one after the other. -/
theorem pipeClose_of_alive (hx : s.alive x = true) (hy : s.alive y = true) :
    s.pipeClose x y = ([x, y].foldl acquire s,
      [.act (.close x), .act (.close y), .act (.release y), .act (.release x)]) := by
  have hends : [x, y].filter s.alive = [x, y] := by simp [hx, hy]
  unfold pipeClose
  rw [hends]
  rfl

/-- X after its `close` has locked both ends. -/
def halfClosed (s : Service) (x y : TunnelId) : Service :=
  [x, y].foldl acquire (s.modify x fun t => { t with wasClosed := true })

/-- What is left to do then. -/
def halfClosedRest (x y : TunnelId) : Program :=
  [.act (.release y), .act (.release x), .act (.pipeReset x), .unlock (.closeLock x),
    .act (.closeTunnelSide x true)]

/-- `close` of one end gets to the two closings by its pipe operation. -/
theorem PairLinked.executes_close (h : s.PairLinked x y)
    (hrun : Executes expandObserved (s, r) [.act (.close x)] c') :
    Executes expandObserved (s.halfClosed x y, (r.cancelTimer x).shutDown x)
      (.act (.close x) :: .act (.close y) :: halfClosedRest x y) c' := by
  obtain ⟨t, ht, hopen⟩ := s.mem_openIds.mp h.left.isOpen
  have hpipe : t.pipeOperation = some y := by
    have hpipe := h.left.pipe
    rwa [pipeOf, ht, Option.bind_some] at hpipe
  have hclosed : s.closeGuarded x = (s.modify x fun t => { t with wasClosed := true },
      [.act (.pipeClose x y), .act (.pipeReset x), .unlock (.closeLock x),
        .act (.closeTunnelSide x true)]) := by
    rw [closeGuarded_of_open ht hopen, hpipe]
    rfl
  -- X is marked and its socket shut down
  have hguarded : expandObserved (s, r.cancelTimer x) (.closeGuarded x) =
      ((s.modify x fun t => { t with wasClosed := true }, (r.cancelTimer x).shutDown x),
        [.act (.pipeClose x y), .act (.pipeReset x), .unlock (.closeLock x),
          .act (.closeTunnelSide x true)]) := by
    show (((s.closeGuarded x).1, s.touch (.closeGuarded x) _), (s.closeGuarded x).2) = _
    rw [hclosed, touch_closeGuarded, if_pos h.left.isOpen]
  -- the pipe operation finds both ends alive
  have halive : ∀ j, (s.modify x fun t => { t with wasClosed := true }).alive j = s.alive j :=
    alive_modify _ _ _ fun _ => rfl
  have hpipeClose := pipeClose_of_alive ((halive x).trans h.left.alive)
    ((halive y).trans h.right.alive)
  rw [executes_act] at hrun
  change Executes expandObserved (s, r.cancelTimer x)
    [.lock (.closeLock x), .act (.closeGuarded x)] c' at hrun
  rw [executes_lock, executes_act, hguarded, List.append_nil, executes_act] at hrun
  change Executes expandObserved
    (((s.modify x fun t => { t with wasClosed := true }).pipeClose x y).1, _)
    (((s.modify x fun t => { t with wasClosed := true }).pipeClose x y).2 ++ _) c' at hrun
  rw [hpipeClose] at hrun
  exact hrun

theorem PairLinked.notMem_openIds_halfClosed (h : s.PairLinked x y) :
    x ∉ (s.halfClosed x y).openIds := by
  obtain ⟨t, ht, -⟩ := s.mem_openIds.mp h.left.isOpen
  have hmarked : (s.modify x fun t => { t with wasClosed := true }).tunnel x =
      some { t with wasClosed := true } := by
    rw [tunnel_modify, if_pos rfl, ht, Option.map_some]
  intro hmem
  obtain ⟨t', ht', hopen⟩ := (s.halfClosed x y).mem_openIds.mp hmem
  rw [halfClosed, tunnel_foldl_acquire _ hmarked, Option.some.injEq] at ht'
  rw [← ht'] at hopen
  cases hopen

theorem PairLinked.mem_openIds_halfClosed (h : s.PairLinked x y) :
    y ∈ (s.halfClosed x y).openIds := by
  obtain ⟨t, ht, hopen⟩ := s.mem_openIds.mp h.right.isOpen
  have hkept : (s.modify x fun t => { t with wasClosed := true }).tunnel y = some t := by
    rw [tunnel_modify, if_neg h.ne.symm, ht]
  exact (s.halfClosed x y).mem_openIds.mpr ⟨_, tunnel_foldl_acquire _ hkept, hopen⟩

/-- `close` of one end comes to a `close` of the other end, which is open until then. -/
theorem PairLinked.reaches (h : s.PairLinked x y)
    (hrun : Executes expandObserved (s, r) [.act (.close x)] c') :
    ∃ u v : Service × SessionResources, y ∈ u.1.openIds ∧
      u.2.shutdowns.count y = r.shutdowns.count y ∧
      Executes expandObserved u [.act (.close y)] v ∧
      Executes expandObserved v (halfClosedRest x y) c' := by
  -- the first `close` of the pipe operation finds X closed, the second one is that of Y
  obtain ⟨w, hcloseX, hrest⟩ := executes_top.mp (h.executes_close hrun)
  have hnotOpen : x ∉ (s.halfClosed x y, (r.cancelTimer x).shutDown x).1.openIds :=
    h.notMem_openIds_halfClosed
  obtain rfl := (observed_close_of_notOpen hnotOpen).mp hcloseX
  obtain ⟨v, hcloseY, hrest⟩ := executes_top.mp hrest
  refine ⟨(s.halfClosed x y, ((r.cancelTimer x).shutDown x).cancelTimer x), v,
    h.mem_openIds_halfClosed, ?_, hcloseY, hrest⟩
  exact (r.cancelTimer x).count_shutDown_of_ne h.ne.symm

/-- **The frame, observed.**  Calls about sessions of `R` leave every other session alone, its
    entry, its socket and its timer. -/
theorem agreeOutside_of_executes_observed {R : Set TunnelId} (h : PipeClosed R c.1) {p : Program}
    (hp : ∀ t ∈ p, Within R t) (hrun : Executes expandObserved c p c') {j : TunnelId}
    (hj : j ∉ R) : c'.2.timers j = c.2.timers j ∧
      c'.2.shutdowns.count j = c.2.shutdowns.count j := by
  have hrule := hrun.invariant (T := Within R) (I := fun u => PipeClosed R u.1 ∧
    u.2.timers j = c.2.timers j ∧ u.2.shutdowns.count j = c.2.shutdowns.count j) ?_
    ⟨h, rfl, rfl⟩ hp
  · exact hrule.2
  rintro u t ⟨hclosed, htimers, hshutdowns⟩ ht
  obtain ⟨hstate, hpushed⟩ : (perform expandObserved u t).1.1 = (perform expand u.1 t).1 ∧
      (perform expandObserved u t).2 = (perform expand u.1 t).2 := perform_observed u t
  have hconfined := confined_perform hclosed ht
  refine ⟨⟨hstate ▸ hconfined.closed, ?_⟩, hpushed ▸ hconfined.within⟩
  cases t with
  | lock m => exact ⟨htimers, hshutdowns⟩
  | unlock m => exact ⟨htimers, hshutdowns⟩
  | act a =>
    constructor
    · show (u.1.touch a u.2).timers j = _
      rcases timers_touch u.1 a u.2 j with hsame | ⟨hmem, -⟩
      · exact hsame.trans htimers
      · exact absurd (ht j hmem) hj
    · show (u.1.touch a u.2).shutdowns.count j = _
      rcases shutdowns_touch u.1 a u.2 j with hsame | ⟨-, rfl⟩
      · exact hsame.trans hshutdowns
      · exact absurd (ht j List.mem_cons_self) hj

/-- A session that somebody owns is not destroyed. -/
theorem Owned.of_executes {s' : Service} {p : Program} (h : Owned id s p)
    (hrun : Executes expand s p s') : ∃ t, s'.tunnel id = some t := by
  have hend := hrun.stack_invariant (J := Owned id) (fun _ _ _ howned => howned.perform) h
  obtain ⟨t, ht, -⟩ := hend.owner
  exact ⟨t, ht⟩

/-- What is left of one end. -/
structure EndClosed (id : TunnelId) (c c' : Service × SessionResources) : Prop where
  closed : id ∉ c'.1.openIds
  released : c'.1.pipeOf id = none
  gone : id ∉ c'.1.sessions
  shutdown : c'.2.shutdowns.count id = c.2.shutdowns.count id + 1
  marked : (c'.2.timers id).wasClosed = true
  /-- Its timer is cancelled, whatever happens to it from now on. -/
  timer : ∀ events t, run TunnelTimer.step (c'.2.timers id) events = some t → t.Cancelled
  /-- It still exists if somebody else owns it. -/
  kept : ∀ t, c.1.tunnel id = some t → 0 < t.owners → ∃ t', c'.1.tunnel id = some t'

theorem EndClosed.of_shut {p : Program} (hopen : id ∈ c.1.openIds)
    (hp : ∀ t ∈ p, ∃ j, t = .act (.close j)) (hrun : Executes expandObserved c p c')
    (hshut : Shut id (c.2.shutdowns.count id + 1) c') (hgone : id ∉ c'.1.sessions) :
    EndClosed id c c' where
  closed := hshut.notOpen
  released := by
    refine released_of_executes hrun.of_observed (fun t ht => ?_) hopen hshut.notOpen
    obtain ⟨j, rfl⟩ := hp t ht
    trivial
  gone := hgone
  shutdown := hshut.shutdowns
  marked := hshut.marked
  timer events t ht := run_preserves (I := TunnelTimer.Cancelled)
    (fun _ _ _ hcancelled hstep => hcancelled.step hstep) hshut.timer ht
  kept t ht howned := by
    have hnone : ∀ u : Task Mutex Act, (∀ j, u ≠ .act (.close j)) → u ∉ p := by
      intro u hne hmem
      obtain ⟨j, hj⟩ := hp u hmem
      exact hne j hj
    refine Owned.of_executes ⟨⟨t, ht, ?_⟩, hnone _ (by simp), hnone _ (by simp)⟩
      hrun.of_observed
    rw [List.count_eq_zero_of_not_mem (hnone _ (by simp))]
    exact howned

/-- Closing sessions that are not open does nothing to the service and the sockets. -/
theorem closings_of_notOpen {ids : List TunnelId} (h : ∀ id ∈ ids, id ∉ c.1.openIds)
    (hrun : Executes expandObserved c (ids.map fun id => .act (.close id)) c') :
    c'.1 = c.1 ∧ c'.2.shutdowns = c.2.shutdowns := by
  induction ids generalizing c with
  | nil =>
    obtain rfl := executes_nil.mp hrun
    exact ⟨rfl, rfl⟩
  | cons id ids ih =>
    obtain ⟨hid, hids⟩ := List.forall_mem_cons.mp h
    obtain ⟨u, hclose, hrest⟩ := executes_top.mp hrun
    obtain rfl := (observed_close_of_notOpen hid).mp hclose
    exact ih (c := (c.1, c.2.cancelTimer id)) hids hrest

/-- **Closing one side closes the pair.**  In every service in which X and Y are linked and open,
    `close` on X returns; then both are closed, with their pipe operations released, their sockets
    shut down once and their timers cancelled for good, exactly their entries have left the table,
    and nothing else has changed.  Closing them again changes neither service nor sockets. -/
theorem close_closes_pair (h : s.PairLinked x y) (r : SessionResources) :
    ∃ after : Service × SessionResources, s.execute [.act (.close x)] = some after.1 ∧
      Executes expandObserved (s, r) [.act (.close x)] after ∧
      EndClosed x (s, r) after ∧ EndClosed y (s, r) after ∧
      after.1.sessions = s.sessions \ {x, y} ∧
      (∀ j, j ≠ x → j ≠ y → after.1.tunnel j = s.tunnel j ∧
        after.2.timers j = r.timers j ∧ after.2.shutdowns.count j = r.shutdowns.count j) ∧
      ∀ ids : List TunnelId, (∀ id ∈ ids, id = x ∨ id = y) → ∀ again,
        Executes expandObserved after (ids.map fun id => .act (.close id)) again →
          again.1 = after.1 ∧ again.2.shutdowns = after.2.shutdowns := by
  obtain ⟨s', hreturns⟩ := s.execute_isSome [.act (.close x)]
  have hexecutes := execute_eq_some.mp hreturns
  obtain ⟨r', hrun⟩ : ∃ r', Executes expandObserved (s, r) [.act (.close x)] (s', r') :=
    hexecutes.exists_observed r
  have hcloses : ∀ t ∈ ([.act (.close x)] : Program), ∃ j, t = .act (.close j) :=
    fun t ht => ⟨x, List.mem_singleton.mp ht⟩
  -- X is closed by the call itself, Y by the one inside
  have hshutX := shut_close (c := (s, r)) h.left.isOpen hrun
  obtain ⟨u, v, hopenY, hcount, hcloseY, hrest⟩ := h.reaches hrun
  have hshutY : Shut y (r.shutdowns.count y + 1) (s', r') := by
    have hshut := (shut_close hopenY hcloseY).executes hrest
    rwa [hcount] at hshut
  have hgoneX : x ∉ s'.sessions := (close_of_open h.left.isOpen hexecutes).2
  have hgoneY : y ∉ s'.sessions := fun hmem =>
    (close_of_open hopenY hcloseY.of_observed).2
      (sessions_subset_of_executes hrest.of_observed hmem)
  have hwithin : ∀ t ∈ ([.act (.close x)] : Program), Within {x, y} t := by
    simp [Within, Act.ids]
  have hpiped : PipeClosed {x, y} s := pipeClosed_pair h.left.pipe h.right.pipe
  have hagree := (agreeOutside_of_executes hpiped hwithin hexecutes).1
  have hclosedX : EndClosed x (s, r) (s', r') :=
    .of_shut h.left.isOpen hcloses hrun hshutX hgoneX
  have hclosedY : EndClosed y (s, r) (s', r') :=
    .of_shut h.right.isOpen hcloses hrun hshutY hgoneY
  refine ⟨(s', r'), hreturns, hrun, hclosedX, hclosedY, ?_, ?_, ?_⟩
  · ext j
    by_cases hj : j ∈ ({x, y} : Set TunnelId)
    · have hgone : j ∉ s'.sessions := by
        rcases hj with rfl | rfl
        · exact hgoneX
        · exact hgoneY
      have hpair : j ∈ ({x, y} : Finset TunnelId) := by simpa using hj
      simp only [Finset.mem_sdiff, hpair, hgone, not_true, and_false]
    · have hpair : j ∉ ({x, y} : Finset TunnelId) := by simpa using hj
      rw [Finset.mem_sdiff, (hagree j hj).2]
      exact (and_iff_left hpair).symm
  · intro j hx hy
    have hj : j ∉ ({x, y} : Set TunnelId) := by simp [hx, hy]
    exact ⟨(hagree j hj).1, agreeOutside_of_executes_observed hpiped hwithin hrun hj⟩
  · intro ids hids again hagain
    refine closings_of_notOpen (fun id hid => ?_) hagain
    rcases hids id hid with rfl | rfl
    · exact hshutX.notOpen
    · exact hshutY.notOpen

/-- Two linked sessions, one of them owned by a handler, and a third one. -/
def linkedPair : Service where
  tunnels := [("x", { pipeOperation := some "y", owners := 1 }),
    ("y", { pipeOperation := some "x" }), ("z", {})]
  sessions := {"x", "y", "z"}

theorem close_closes_pair_linkedPair :
    ∃ after : Service × SessionResources, linkedPair.execute [.act (.close "x")] =
        some after.1 ∧ after.1.sessions = {"z"} ∧ after.1.tunnel "x" ≠ none ∧
      after.1.pipeOf "y" = none ∧ after.2.shutdowns.count "y" = 1 := by
  have hpair : linkedPair.PairLinked "x" "y" := by
    refine ⟨by decide, ⟨Finset.mem_insert_self .., ?_, rfl⟩,
      ⟨Finset.mem_insert_of_mem (Finset.mem_insert_self ..), ?_, rfl⟩⟩
    · exact (mem_openIds _).mpr ⟨_, rfl, rfl⟩
    · exact (mem_openIds _).mpr ⟨_, rfl, rfl⟩
  obtain ⟨after, hreturns, -, hx, hy, hsessions, -⟩ :=
    close_closes_pair hpair { timers := fun _ => .start 0 }
  obtain ⟨t, ht⟩ := hx.kept _ rfl (by decide)
  exact ⟨after, hreturns, hsessions.trans (by decide), by simp [ht], hy.released, hy.shutdown⟩

end Service

end TunnelBore.Broker
