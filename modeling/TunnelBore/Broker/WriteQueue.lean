import TunnelBore.Lib.Run
import TunnelBore.Lib.SendQueue
import TunnelBore.Lib.Threads

namespace TunnelBore.Broker

open TunnelBore.Lib

/-!
# The write queue of a control session

Any thread may call `writeJson`.  It queues the payload and, if no write is in progress, calls
`writeOnce`, which hands the first payload to the websocket; the handler of a successful send
calls `writeOnce` again.  Everything is done under the recursive `writeGuard`, but the flag is set
by one call and cleared by another one, and handlers run on any thread, also within the call that
has sent.

* `WriteEvent`, `step` — the calls and the completions of sends, interleaved task by task;
* `Phase` — nothing that could send is under way, or exactly one `writeOnce` is, with no send
  outstanding, or a send has failed;
* `writeQueue_fifo` — what is handed to the websocket and what waits is together what was written,
  in order.
-/

inductive WriteMutex
  | writeGuard
  deriving DecidableEq, Repr

/-- The queue of a control session and its websocket; `ι` are the threads, `α` the payloads. -/
structure WriteQueue (ι α : Type*) where
  pendingMessages : List α := []
  writeInProgress : Bool := false
  /-- The sends that have not completed. -/
  outstanding : Nat := 0
  /-- The payloads that were handed to `send`. -/
  sent : List α := []
  /-- Some send has failed. -/
  failed : Bool := false
  /-- The payloads that were queued, with the threads that called `writeJson`. -/
  written : List (ι × α) := []

inductive WriteAct (ι α : Type*)
  /-- `ControlSession::writeJson`. -/
  | writeJson (caller : ι) (payload : α)
  /-- The body of `writeJson` under `writeGuard`. -/
  | push (caller : ι) (payload : α)
  /-- `ControlSession::writeOnce`. -/
  | writeOnce
  /-- The body of `writeOnce` under `writeGuard`. -/
  | send
  deriving DecidableEq, Repr

/-- A call stack of these functions. -/
abbrev WriteProgram (ι α : Type*) := List (Task WriteMutex (WriteAct ι α))

/-- Threads that use one control session. -/
abbrev WriteThreads (ι α : Type*) := Threads ι (WriteQueue ι α) WriteMutex (WriteAct ι α)

inductive WriteEvent (ι α : Type*)
  /-- A thread calls `writeJson`. -/
  | call (i : ι) (payload : α)
  /-- A thread carries out its next task. -/
  | task (i : ι)
  /-- A send has succeeded, and its handler is called on a thread. -/
  | succeed (i : ι)
  /-- A send has failed. -/
  | fail
  deriving DecidableEq, Repr

namespace WriteQueue

variable {ι α : Type*}

/-- `writeJson` under the lock. -/
def push (q : WriteQueue ι α) (caller : ι) (payload : α) : WriteQueue ι α × WriteProgram ι α :=
  ({ q with
      pendingMessages := q.pendingMessages ++ [payload]
      written := q.written ++ [(caller, payload)] },
    (if q.writeInProgress then [] else [.act .writeOnce]) ++ [.unlock .writeGuard])

/-- `writeOnce` under the lock. -/
def send (q : WriteQueue ι α) : WriteQueue ι α × WriteProgram ι α :=
  match q.pendingMessages with
  | []          => ({ q with writeInProgress := false }, [.unlock .writeGuard])
  | msg :: rest =>
    ({ q with
        writeInProgress := true
        pendingMessages := rest
        outstanding := q.outstanding + 1
        sent := q.sent ++ [msg] },
      [.unlock .writeGuard])

/-- One call, up to its first inner call. -/
def expand (q : WriteQueue ι α) : WriteAct ι α → WriteQueue ι α × WriteProgram ι α
  | .writeJson caller payload => (q, [.lock .writeGuard, .act (.push caller payload)])
  | .push caller payload      => q.push caller payload
  | .writeOnce                => (q, [.lock .writeGuard, .act .send])
  | .send                     => q.send

/-- The mutex with which a body is entered. -/
def guard : WriteAct ι α → Option WriteMutex
  | .push .. => some .writeGuard
  | .send    => some .writeGuard
  | _        => none

/-- No thread has called anything. -/
def start : WriteThreads ι α where
  state := {}
  stack _ := []
  held _ := []

/-- One event; `none` when it cannot happen.  A thread makes its next call when the last one has
    returned; the handler of a send may also be called in the middle of one. -/
def step [DecidableEq ι] [Fintype ι] (c : WriteThreads ι α) :
    WriteEvent ι α → Option (WriteThreads ι α)
  | .call i payload =>
    if (c.stack i).isEmpty then
      some { c with stack := Function.update c.stack i [.act (.writeJson i payload)] }
    else none
  | .task i         => c.step expand i
  | .succeed i      =>
    if 0 < c.state.outstanding then some
      { state := { c.state with outstanding := c.state.outstanding - 1 }
        stack := Function.update c.stack i (.act .writeOnce :: c.stack i)
        held := c.held }
    else none
  -- the session ends itself and writes no more
  | .fail           =>
    if 0 < c.state.outstanding then some
      { c with state :=
          { c.state with outstanding := c.state.outstanding - 1, failed := true } }
    else none

/-- The queue without its record. -/
def queue (q : WriteQueue ι α) : SendQueue Unit α where
  waiting := q.pendingMessages
  inProgress := q.writeInProgress
  outstanding := q.outstanding
  handed := q.sent.map fun msg => ((), msg)

variable {q : WriteQueue ι α} {p : WriteProgram ι α}

/-- `writeOnce` sends once. -/
theorem queue_send (q : WriteQueue ι α) : q.send.1.queue = q.queue.sendOnce () := by
  unfold send SendQueue.sendOnce
  rw [show q.queue.waiting = q.pendingMessages from rfl]
  cases q.pendingMessages with
  | nil => rfl
  | cons msg rest => simp [queue]

/-- What `send` leaves besides. -/
theorem send_cases (q : WriteQueue ι α) :
    q.send.2 = [.unlock .writeGuard] ∧ q.send.1.failed = q.failed ∧
      q.send.1.written = q.written ∧
      q.send.1.sent ++ q.send.1.pendingMessages = q.sent ++ q.pendingMessages := by
  unfold send
  cases q.pendingMessages with
  | nil => exact ⟨rfl, rfl, rfl, rfl⟩
  | cons msg rest => exact ⟨rfl, rfl, rfl, by simp⟩

/-! ### The lock -/

/-- Both bodies release the lock with which they are entered. -/
theorem paired_guard : Paired (guard (ι := ι) (α := α)) expand := by
  refine paired_of_pays fun q a => ?_
  cases a with
  | writeJson caller payload => exact .entry rfl rfl
  | push caller payload =>
    refine .body rfl ?_ (by simp)
    split <;> simp [guard]
  | writeOnce => exact .entry rfl rfl
  | send =>
    show Pays guard _ q.send.2
    rw [(send_cases q).1]
    exact .body (p := []) rfl (by simp) (by simp)

/-! ### One write at a time -/

/-- Nothing on the stack is about to send. -/
def Quiet (p : WriteProgram ι α) : Prop := .act .writeOnce ∉ p ∧ .act .send ∉ p

/-- The top of the stack is a `writeOnce`, or as much of it as is left before it sends. -/
inductive Starting : WriteProgram ι α → Prop
  | called {p : WriteProgram ι α} (hp : Quiet p) : Starting (.act .writeOnce :: p)
  | locking {p : WriteProgram ι α} (hp : Quiet p) :
      Starting (.lock .writeGuard :: .act .send :: p)
  | sending {p : WriteProgram ι α} (hp : Quiet p) : Starting (.act .send :: p)

theorem quiet_nil : Quiet ([] : WriteProgram ι α) := ⟨List.not_mem_nil, List.not_mem_nil⟩

theorem quiet_cons {t : Task WriteMutex (WriteAct ι α)} :
    Quiet (t :: p) ↔ t ≠ .act .writeOnce ∧ t ≠ .act .send ∧ Quiet p := by
  unfold Quiet
  rw [List.mem_cons, List.mem_cons, not_or, not_or, eq_comm, @eq_comm _ _ t]
  tauto

theorem Starting.not_quiet (h : Starting p) : ¬Quiet p := by
  intro hquiet
  cases h with
  | called => exact hquiet.1 List.mem_cons_self
  | locking => exact hquiet.2 (List.mem_cons_of_mem _ List.mem_cons_self)
  | sending => exact hquiet.2 List.mem_cons_self

/-- How writing stands: nobody is about to send, and the queue is pumped; exactly one thread is,
    and no send is outstanding; or a send has failed, after which nobody sends any more. -/
inductive Phase (c : WriteThreads ι α) : Prop
  | pumped (hall : ∀ j, Quiet (c.stack j)) (hfailed : c.state.failed = false)
      (hqueue : c.state.queue.Pumped) : Phase c
  | starting {i : ι} (htop : Starting (c.stack i)) (hothers : ∀ j, j ≠ i → Quiet (c.stack j))
      (hfailed : c.state.failed = false) (hout : c.state.outstanding = 0)
      (hguard : c.state.writeInProgress = true ∨ .writeGuard ∈ c.held i) : Phase c
  | stopped (hall : ∀ j, Quiet (c.stack j)) (hfailed : c.state.failed = true)
      (hout : c.state.outstanding = 0) (hflag : c.state.writeInProgress = true) : Phase c

/-- At most one send is outstanding. -/
theorem Phase.outstanding_le {c : WriteThreads ι α} (hc : Phase c) :
    c.state.outstanding ≤ 1 := by
  cases hc with
  | pumped _ _ hqueue =>
    cases hflag : c.state.writeInProgress with
    | true => exact (hqueue.busy hflag).le
    | false => exact (hqueue.idle hflag).2.le.trans (Nat.zero_le 1)
  | starting _ _ _ hout => omega
  | stopped _ _ hout => omega

variable [DecidableEq ι] {c c' : WriteThreads ι α} {i : ι}

/-- Each mutex has one holder, and each thread holds what it will release. -/
structure Locked (c : WriteThreads ι α) : Prop where
  exclusive : c.Exclusive
  settled : ∀ j, Settled guard (c.held j) (c.stack j)

omit [DecidableEq ι] in
/-- A quiet thread that is not about to send leaves its stack quiet, or starts a `writeOnce` on
    an idle queue. -/
theorem quiet_pushed {t : Task WriteMutex (WriteAct ι α)} (ht : t ≠ .act .writeOnce)
    (hsend : t ≠ .act .send) (hp : Quiet p) :
    ((perform expand q t).1.outstanding = q.outstanding ∧
      (perform expand q t).1.failed = q.failed ∧
      (perform expand q t).1.writeInProgress = q.writeInProgress) ∧
    (((∃ caller payload, t = .act (.push caller payload)) ∧ q.writeInProgress = false ∧
        Starting ((perform expand q t).2 ++ p)) ∨
      (Quiet ((perform expand q t).2 ++ p) ∧
        (q.writeInProgress = true ∨ (perform expand q t).1 = q))) := by
  cases t with
  | lock m => exact ⟨⟨rfl, rfl, rfl⟩, .inr ⟨hp, .inr rfl⟩⟩
  | unlock m => exact ⟨⟨rfl, rfl, rfl⟩, .inr ⟨hp, .inr rfl⟩⟩
  | act a =>
    cases a with
    | writeJson caller payload =>
      exact ⟨⟨rfl, rfl, rfl⟩, .inr ⟨quiet_cons.mpr ⟨by simp, by simp, quiet_cons.mpr
        ⟨by simp, by simp, hp⟩⟩, .inr rfl⟩⟩
    | push caller payload =>
      refine ⟨⟨rfl, rfl, rfl⟩, ?_⟩
      have hunlock : Quiet (.unlock .writeGuard :: p) := quiet_cons.mpr ⟨by simp, by simp, hp⟩
      show _ ∨ (Quiet ((q.push caller payload).2 ++ p) ∧ _)
      cases hflag : q.writeInProgress with
      | true =>
        refine .inr ⟨?_, .inl rfl⟩
        simp only [push, hflag, if_true, List.nil_append]
        exact hunlock
      | false =>
        refine .inl ⟨⟨caller, payload, rfl⟩, rfl, ?_⟩
        show Starting ((q.push caller payload).2 ++ p)
        simp only [push, hflag, Bool.false_eq_true, if_false]
        exact .called hunlock
    | writeOnce => exact absurd rfl ht
    | send => exact absurd rfl hsend

/-- A step of a thread that is not about to send. -/
theorem Phase.step_quiet {t : Task WriteMutex (WriteAct ι α)} {ts : WriteProgram ι α}
    (hc : Phase c) (hlocked : Locked c) (hquiet : Quiet (c.stack i))
    (hpops : c.Pops expand i t ts c') : Phase c' := by
  rw [hpops.stack, quiet_cons] at hquiet
  obtain ⟨ht, hsend, hts⟩ := hquiet
  obtain ⟨⟨hout, hfailed, hflag⟩, hpushed⟩ := quiet_pushed (q := c.state) ht hsend hts
  rw [← hpops.state'] at hout hfailed hflag hpushed
  rw [← hpops.stack'] at hpushed
  have hstacks : Quiet (c'.stack i) → ∀ j, (j ≠ i → Quiet (c.stack j)) → Quiet (c'.stack j) := by
    intro hi j hj
    by_cases hji : j = i
    · exact hji ▸ hi
    · exact (hpops.others j hji).1 ▸ hj hji
  cases hc with
  | pumped hall hfail hqueue =>
    rcases hpushed with ⟨⟨caller, payload, rfl⟩, hidle, hstart⟩ | ⟨hquiet, hsame⟩
    · -- a payload is queued while no write is in progress: this thread starts one
      have hheld : .writeGuard ∈ c.held i :=
        (hpops.stack ▸ hlocked.settled i).mem_held_top rfl
      refine .starting hstart (fun j hj => (hpops.others j hj).1 ▸ hall j) (hfailed.trans hfail)
        (hout.trans (hqueue.idle hidle).2) (.inr ?_)
      rw [hpops.held']
      exact hheld
    · -- a write is in progress already, or nothing is queued
      refine .pumped (fun j => hstacks hquiet j fun _ => hall j) (hfailed.trans hfail) ?_
      rcases hsame with hbusy | hsame
      · refine ⟨fun _ => hout.trans (hqueue.busy hbusy), fun hidle => ?_⟩
        have hbusy' : c'.state.writeInProgress = true := hflag.trans hbusy
        rw [show c'.state.writeInProgress = false from hidle] at hbusy'
        cases hbusy'
      · exact hsame ▸ hqueue
  | @starting k htop hothers hfail hzero hguard =>
    -- the thread that is about to send is another one
    have hne : i ≠ k := by
      rintro rfl
      exact htop.not_quiet (hpops.stack ▸ quiet_cons.mpr ⟨ht, hsend, hts⟩)
    have hguard' : c.state.writeInProgress = true ∨ .writeGuard ∈ c'.held k := by
      rwa [(hpops.others k hne.symm).2]
    rcases hpushed with ⟨⟨caller, payload, rfl⟩, hidle, -⟩ | ⟨hquiet, -⟩
    · -- the thread that starts a write on an idle queue would hold the lock, too
      have hheld : .writeGuard ∈ c.held i :=
        (hpops.stack ▸ hlocked.settled i).mem_held_top rfl
      have hheld' : .writeGuard ∈ c.held k := by
        rcases hguard with hbusy | hheld'
        · rw [hidle] at hbusy
          cases hbusy
        · exact hheld'
      exact absurd (hlocked.exclusive i k _ hheld hheld') hne
    · refine .starting (i := k) ((hpops.others k hne.symm).1 ▸ htop) (fun j hj => ?_)
        (hfailed.trans hfail) (hout.trans hzero) ?_
      · exact hstacks hquiet j fun _ => hothers j hj
      · rwa [hflag]
  | stopped hall hfail hzero hbusy =>
    rcases hpushed with ⟨-, hidle, -⟩ | ⟨hquiet, -⟩
    · rw [hidle] at hbusy
      cases hbusy
    · exact .stopped (fun j => hstacks hquiet j fun _ => hall j) (hfailed.trans hfail)
        (hout.trans hzero) (hflag.trans hbusy)

omit [DecidableEq ι] in
/-- A step of the thread that is about to send. -/
theorem Phase.step_starting {t : Task WriteMutex (WriteAct ι α)} {ts : WriteProgram ι α}
    (htop : Starting (c.stack i)) (hothers : ∀ j, j ≠ i → Quiet (c.stack j))
    (hfailed : c.state.failed = false) (hout : c.state.outstanding = 0)
    (hguard : c.state.writeInProgress = true ∨ .writeGuard ∈ c.held i)
    (hpops : c.Pops expand i t ts c') : Phase c' := by
  have hothers' : ∀ j, j ≠ i → Quiet (c'.stack j) :=
    fun j hj => (hpops.others j hj).1 ▸ hothers j hj
  have hstate := hpops.state'
  have hstack' := hpops.stack'
  have hheld' := hpops.held'
  rw [hpops.stack] at htop
  cases htop with
  | called hp =>
    -- `writeOnce` comes to its lock
    change c'.stack i = .lock .writeGuard :: .act .send :: ts at hstack'
    change c'.state = c.state at hstate
    change c'.held i = c.held i at hheld'
    rw [← hstate, ← hheld'] at hguard
    exact .starting (hstack' ▸ .locking hp) hothers' (hstate ▸ hfailed) (hstate ▸ hout) hguard
  | locking hp =>
    -- from now on the thread holds the lock
    change c'.state = c.state at hstate
    refine .starting (hstack' ▸ .sending hp) hothers' (hstate ▸ hfailed) (hstate ▸ hout) (.inr ?_)
    rw [hheld']
    exact List.mem_cons_self
  | sending hp =>
    obtain ⟨hpushed, hfail, -, -⟩ := send_cases c.state
    change c'.state = c.state.send.1 at hstate
    -- a queue with nothing outstanding is pumped once it has sent
    refine .pumped ?_ (by rw [hstate, hfail, hfailed]) ?_
    · apply hpops.forall_threads (P := fun _ p _ => Quiet p)
      · show Quiet (c.state.send.2 ++ ts)
        rw [hpushed]
        exact quiet_cons.mpr ⟨by simp, by simp, hp⟩
      · exact hothers
    · rw [hstate, queue_send]
      exact SendQueue.pumped_sendOnce hout ()

variable [Fintype ι] {e : WriteEvent ι α} {payload : α}

theorem step_call (h : step c (.call i payload) = some c') :
    c.stack i = [] ∧
      c' = { c with stack := Function.update c.stack i [.act (.writeJson i payload)] } := by
  simp only [step, Option.ite_none_right_eq_some, Option.some.injEq, List.isEmpty_iff] at h
  exact ⟨h.1, h.2.symm⟩

theorem step_succeed (h : step c (.succeed i) = some c') :
    0 < c.state.outstanding ∧ c' =
      { state := { c.state with outstanding := c.state.outstanding - 1 }
        stack := Function.update c.stack i (.act .writeOnce :: c.stack i)
        held := c.held } := by
  simp only [step, Option.ite_none_right_eq_some, Option.some.injEq] at h
  exact ⟨h.1, h.2.symm⟩

theorem step_fail (h : step c .fail = some c') :
    0 < c.state.outstanding ∧ c' =
      { c with state :=
          { c.state with outstanding := c.state.outstanding - 1, failed := true } } := by
  simp only [step, Option.ite_none_right_eq_some, Option.some.injEq] at h
  exact ⟨h.1, h.2.symm⟩

theorem Locked.step (hc : Locked c) (h : step c e = some c') : Locked c' := by
  -- a call on top of a stack holds nothing more
  have hcall : ∀ {k : ι} {a : WriteAct ι α}, guard a = none →
      ∀ j, Settled guard (c.held j) (Function.update c.stack k (.act a :: c.stack k) j) := by
    intro k a ha
    apply (Function.forall_update_iff c.stack fun j p => Settled guard (c.held j) p).mpr
    exact ⟨(hc.settled k).call ha, fun j _ => hc.settled j⟩
  cases e with
  | call k payload =>
    obtain ⟨hempty, rfl⟩ := step_call h
    refine ⟨hc.exclusive, ?_⟩
    have hsettled := hcall (k := k) (a := .writeJson k payload) rfl
    rwa [hempty] at hsettled
  | task k => exact ⟨hc.exclusive.step h, Threads.settled_step paired_guard hc.settled h⟩
  | succeed k =>
    obtain ⟨-, rfl⟩ := step_succeed h
    exact ⟨hc.exclusive, hcall rfl⟩
  | fail =>
    obtain ⟨-, rfl⟩ := step_fail h
    exact ⟨hc.exclusive, hc.settled⟩

omit [DecidableEq ι] [Fintype ι] in
/-- While a send is outstanding nobody is about to send. -/
theorem Phase.of_outstanding (hc : Phase c) (hout : 0 < c.state.outstanding) :
    (∀ j, Quiet (c.stack j)) ∧ c.state.failed = false ∧ c.state.queue.Pumped := by
  cases hc with
  | pumped hall hfailed hqueue => exact ⟨hall, hfailed, hqueue⟩
  | starting _ _ _ hzero => omega
  | stopped _ _ hzero => omega

omit [Fintype ι] in
/-- A call by a thread that is not in one. -/
theorem Phase.call {k : ι} (hc : Phase c) (hempty : c.stack k = []) (payload : α) :
    Phase { c with stack := Function.update c.stack k [.act (.writeJson k payload)] } := by
  have hquiet : Quiet [.act (.writeJson k payload)] :=
    quiet_cons.mpr ⟨by simp, by simp, quiet_nil⟩
  have hstacks : ∀ j, Quiet (c.stack j) →
      Quiet (Function.update c.stack k [.act (.writeJson k payload)] j) := by
    intro j hj
    by_cases hjk : j = k
    · rw [hjk, Function.update_self]
      exact hquiet
    · rwa [Function.update_of_ne hjk]
  cases hc with
  | pumped hall hfailed hqueue => exact .pumped (fun j => hstacks j (hall j)) hfailed hqueue
  | @starting i htop hothers hfailed hout hguard =>
    -- the thread that is about to send has something on its stack
    have hne : i ≠ k := by
      rintro rfl
      rw [hempty] at htop
      exact htop.not_quiet quiet_nil
    refine .starting (i := i) ?_ (fun j hj => hstacks j (hothers j hj)) hfailed hout hguard
    show Starting (Function.update c.stack k _ i)
    rwa [Function.update_of_ne hne]
  | stopped hall hfailed hout hflag =>
    exact .stopped (fun j => hstacks j (hall j)) hfailed hout hflag

/-- A task of any thread. -/
theorem Phase.task (hc : Phase c) (hlocked : Locked c) (h : c.step expand i = some c') :
    Phase c' := by
  obtain ⟨t, ts, hpops⟩ := Threads.step_pops h
  cases hc with
  | pumped hall hfailed hqueue =>
    exact Phase.step_quiet (.pumped hall hfailed hqueue) hlocked (hall i) hpops
  | @starting k htop hothers hfailed hout hguard =>
    by_cases hk : i = k
    · subst hk
      exact Phase.step_starting htop hothers hfailed hout hguard hpops
    · exact Phase.step_quiet (.starting htop hothers hfailed hout hguard) hlocked
        (hothers i hk) hpops
  | stopped hall hfailed hout hflag =>
    exact Phase.step_quiet (.stopped hall hfailed hout hflag) hlocked (hall i) hpops

/-- **One event** leads from one phase to another. -/
theorem Phase.step (hc : Phase c) (hlocked : Locked c) (h : step c e = some c') : Phase c' := by
  cases e with
  | call k payload =>
    obtain ⟨hempty, rfl⟩ := step_call h
    exact hc.call hempty payload
  | task k => exact hc.task hlocked h
  | succeed k =>
    obtain ⟨hpos, rfl⟩ := step_succeed h
    obtain ⟨hall, hfailed, hqueue⟩ := hc.of_outstanding hpos
    -- the handler is the one thread that is about to send
    have hbusy := hqueue.inProgress_iff.mpr hpos
    refine .starting (i := k) ?_ (fun j hj => ?_) hfailed ?_ (.inl hbusy)
    · show Starting (Function.update c.stack k _ k)
      rw [Function.update_self]
      exact .called (hall k)
    · show Quiet (Function.update c.stack k _ j)
      rw [Function.update_of_ne hj]
      exact hall j
    · have hone : c.state.outstanding = 1 := hqueue.busy hbusy
      show c.state.outstanding - 1 = 0
      omega
  | fail =>
    obtain ⟨hpos, rfl⟩ := step_fail h
    obtain ⟨hall, -, hqueue⟩ := hc.of_outstanding hpos
    -- the flag stays set, so nobody starts a write again
    have hbusy := hqueue.inProgress_iff.mpr hpos
    have hone : c.state.outstanding = 1 := hqueue.busy hbusy
    refine .stopped hall rfl ?_ hbusy
    show c.state.outstanding - 1 = 0
    omega

/-! ### Order -/

/-- What is handed over and what waits is what was written. -/
def InOrder (c : WriteThreads ι α) : Prop :=
  c.state.written.map Prod.snd = c.state.sent ++ c.state.pendingMessages

theorem InOrder.step (hc : InOrder c) (h : step c e = some c') : InOrder c' := by
  cases e with
  | call k payload =>
    obtain ⟨-, rfl⟩ := step_call h
    exact hc
  | succeed k =>
    obtain ⟨-, rfl⟩ := step_succeed h
    exact hc
  | fail =>
    obtain ⟨-, rfl⟩ := step_fail h
    exact hc
  | task k =>
    obtain ⟨t, ts, hpops⟩ := Threads.step_pops h
    unfold InOrder at hc ⊢
    rw [hpops.state']
    cases t with
    | lock m => exact hc
    | unlock m => exact hc
    | act a =>
      cases a with
      | writeJson caller payload => exact hc
      | writeOnce => exact hc
      | push caller payload =>
        show (c.state.written ++ [(caller, payload)]).map Prod.snd =
          c.state.sent ++ (c.state.pendingMessages ++ [payload])
        rw [List.map_append, hc, List.append_assoc]
        rfl
      | send =>
        obtain ⟨-, -, hwritten, hkept⟩ := send_cases c.state
        show c.state.send.1.written.map Prod.snd = _
        rw [hwritten, hc]
        exact hkept.symm

/-- The payload that a task is about to queue, with its caller. -/
def request : Task WriteMutex (WriteAct ι α) → Option (ι × α)
  | .act (.writeJson caller payload) => some (caller, payload)
  | .act (.push caller payload)      => some (caller, payload)
  | _                                => none

/-- The payloads a thread has written and is about to write. -/
def requests (i : ι) (c : WriteThreads ι α) : List (ι × α) :=
  c.state.written.filter (fun w => w.1 = i) ++ (c.stack i).filterMap request

/-- The payload a thread writes in an event. -/
def called (i : ι) : WriteEvent ι α → List (ι × α)
  | .call j payload => if j = i then [(j, payload)] else []
  | _               => []

/-- Each thread is about to write in its own name only. -/
def Named (c : WriteThreads ι α) : Prop :=
  ∀ j, ∀ t ∈ c.stack j, ∀ w, request t = some w → w.1 = j

omit [DecidableEq ι] [Fintype ι] in
/-- What one task queues and what it leaves to be queued. -/
theorem requests_perform {t : Task WriteMutex (WriteAct ι α)} (q : WriteQueue ι α) :
    ∃ queued left : List (ι × α), (perform expand q t).1.written = q.written ++ queued ∧
      (perform expand q t).2.filterMap request = left ∧
      queued ++ left = (request t).toList := by
  cases t with
  | lock m => exact ⟨[], [], (List.append_nil _).symm, rfl, rfl⟩
  | unlock m => exact ⟨[], [], (List.append_nil _).symm, rfl, rfl⟩
  | act a =>
    cases a with
    | writeJson caller payload =>
      exact ⟨[], [(caller, payload)], (List.append_nil _).symm, rfl, rfl⟩
    | push caller payload =>
      refine ⟨[(caller, payload)], [], rfl, ?_, rfl⟩
      show (q.push caller payload).2.filterMap request = []
      unfold push
      split <;> rfl
    | writeOnce => exact ⟨[], [], (List.append_nil _).symm, rfl, rfl⟩
    | send =>
      obtain ⟨hpushed, -, hwritten, -⟩ := send_cases q
      refine ⟨[], [], ?_, ?_, rfl⟩
      · show q.send.1.written = _
        rw [hwritten, List.append_nil]
      · show q.send.2.filterMap request = []
        rw [hpushed]
        rfl

theorem Named.step (hc : Named c) (h : step c e = some c') : Named c' := by
  -- the thread that steps, and the others
  have hupdate : ∀ {k : ι} {p : WriteProgram ι α}, (∀ t ∈ p, ∀ w, request t = some w → w.1 = k) →
      ∀ j, ∀ t ∈ Function.update c.stack k p j, ∀ w, request t = some w → w.1 = j := by
    intro k p hp
    apply (Function.forall_update_iff c.stack fun j p =>
      ∀ t ∈ p, ∀ w, request t = some w → w.1 = j).mpr
    exact ⟨hp, fun j _ => hc j⟩
  cases e with
  | call k payload =>
    obtain ⟨-, rfl⟩ := step_call h
    refine hupdate fun t ht w hw => ?_
    obtain rfl := List.mem_singleton.mp ht
    obtain rfl := Option.some.inj hw
    rfl
  | succeed k =>
    obtain ⟨-, rfl⟩ := step_succeed h
    refine hupdate fun t ht w hw => ?_
    rcases List.mem_cons.mp ht with rfl | ht
    · cases hw
    · exact hc k t ht w hw
  | fail =>
    obtain ⟨-, rfl⟩ := step_fail h
    exact hc
  | task k =>
    obtain ⟨t, ts, hpops⟩ := Threads.step_pops h
    apply hpops.forall_threads (P := fun j p _ => ∀ u ∈ p, ∀ w, request u = some w → w.1 = j)
    · intro u hu w hw
      have htop := hc k
      rw [hpops.stack] at htop
      rcases List.mem_append.mp hu with hu | hu
      · -- what is pushed is what was about to be queued
        obtain ⟨queued, left, -, hleft, hsum⟩ := requests_perform (t := t) c.state
        have hmem : w ∈ left := hleft ▸ List.mem_filterMap.mpr ⟨u, hu, hw⟩
        have hmem' : w ∈ (request t).toList := hsum ▸ List.mem_append_right _ hmem
        exact htop t List.mem_cons_self w (Option.mem_toList.mp hmem')
      · exact htop u (List.mem_cons_of_mem _ hu) w hw
    · exact fun j _ => hc j

/-- **One event** adds to what a thread has written or is about to write what it writes in it. -/
theorem requests_step (hc : Named c) (h : step c e = some c') (i : ι) :
    requests i c' = requests i c ++ called i e := by
  unfold requests
  cases e with
  | call k payload =>
    obtain ⟨hempty, rfl⟩ := step_call h
    show _ ++ (Function.update c.stack k _ i).filterMap request = _ ++ if k = i then _ else _
    by_cases hk : k = i
    · subst hk
      rw [Function.update_self, hempty, if_pos rfl]
      simp [request]
    · rw [Function.update_of_ne (Ne.symm hk), if_neg hk, List.append_nil]
  | succeed k =>
    obtain ⟨-, rfl⟩ := step_succeed h
    show _ ++ (Function.update c.stack k _ i).filterMap request = _ ++ []
    rw [List.append_nil]
    by_cases hk : k = i
    · subst hk
      rw [Function.update_self]
      rfl
    · rw [Function.update_of_ne (Ne.symm hk)]
  | fail =>
    obtain ⟨-, rfl⟩ := step_fail h
    exact (List.append_nil _).symm
  | task k =>
    obtain ⟨t, ts, hpops⟩ := Threads.step_pops h
    obtain ⟨queued, left, hwritten, hleft, hsum⟩ := requests_perform (t := t) c.state
    show _ = _ ++ []
    rw [List.append_nil, hpops.state', hwritten, List.filter_append]
    have hname : ∀ w ∈ queued, w.1 = k := by
      intro w hw
      have hmem : w ∈ (request t).toList := hsum ▸ List.mem_append_left _ hw
      exact hc k t (hpops.stack ▸ List.mem_cons_self) w (Option.mem_toList.mp hmem)
    by_cases hk : i = k
    · subst hk
      have hall : queued.filter (fun w => w.1 = i) = queued := by
        rw [List.filter_eq_self]
        simpa using hname
      have htop : (t :: ts).filterMap request = (request t).toList ++ ts.filterMap request := by
        rw [List.filterMap_cons]
        cases request t <;> rfl
      rw [hpops.stack, hpops.stack', List.filterMap_append, hleft, hall, htop, ← hsum,
        List.append_assoc, List.append_assoc]
    · have hnone : queued.filter (fun w => w.1 = i) = [] := by
        rw [List.filter_eq_nil_iff]
        intro w hw
        simpa [hname w hw] using Ne.symm hk
      rw [hnone, List.append_nil, (hpops.others i hk).1]

/-! ### Every run -/

omit [DecidableEq ι] [Fintype ι] in
theorem phase_start : Phase (start : WriteThreads ι α) :=
  .pumped (fun _ => quiet_nil) rfl ⟨(fun h => by cases h), fun _ => ⟨rfl, rfl⟩⟩

omit [DecidableEq ι] [Fintype ι] in
theorem locked_start : Locked (start : WriteThreads ι α) where
  exclusive _ _ _ h _ := absurd h List.not_mem_nil
  settled _ := ⟨trivial, fun _ => rfl⟩

/-- **The write queue is FIFO without loss.**  However the calls of any number of threads and the
    completions of sends are interleaved: at most one send is outstanding; what was handed to the
    websocket and what waits is together what was written; every thread's payloads are written in
    the order of its calls, each once, the one it is about to write excepted; and up to the first
    failed send nothing waits without a send outstanding when no call is in progress. -/
theorem writeQueue_fifo {events : List (WriteEvent ι α)} (hrun : run step start events = some c) :
    c.state.outstanding ≤ 1 ∧
      c.state.written.map Prod.snd = c.state.sent ++ c.state.pendingMessages ∧
      (∀ i, c.state.written.filter (fun w => w.1 = i) ++ (c.stack i).filterMap request =
        events.flatMap (called i)) ∧
      ((∀ i, c.stack i = []) → c.state.failed = false → c.state.pendingMessages ≠ [] →
        c.state.outstanding = 1) := by
  obtain ⟨-, hphase⟩ := run_preserves (I := fun c => Locked c ∧ Phase c)
    (fun _ _ _ hc hstep => ⟨hc.1.step hstep, hc.2.step hc.1 hstep⟩) ⟨locked_start, phase_start⟩
    hrun
  have hstart : InOrder (start : WriteThreads ι α) := rfl
  have horder := run_preserves (I := InOrder) (fun _ _ _ hc hstep => hc.step hstep) hstart hrun
  have hnamed : Named (start : WriteThreads ι α) := fun _ _ ht => absurd ht List.not_mem_nil
  have hrequests : ∀ i, requests i c = events.flatMap (called i) := fun i =>
    run_accumulates (f := requests i) (fun _ _ _ hc hstep =>
      ⟨hc.step hstep, requests_step hc hstep i⟩) hnamed hrun
  refine ⟨hphase.outstanding_le, horder, hrequests, fun hempty hfailed hwaiting => ?_⟩
  cases hphase with
  | pumped _ _ hqueue => exact hqueue.outstanding_of_waiting hwaiting
  | @starting i htop =>
    rw [hempty i] at htop
    cases htop
  | stopped _ hfail =>
    rw [hfailed] at hfail
    cases hfail

/-- Two threads write; the first send completes within the call that sent it, while the other
    thread waits for the lock. -/
def eventsInline : List (WriteEvent Bool String) :=
  [.call false "a", .task false, .task false, .task false, .task false, .task false, .task false,
    .call true "b", .task true, .succeed false, .task false, .task false, .task false,
    .task false, .task false, .task false, .task true, .task true, .task true, .task true,
    .task true, .task true, .task true, .call true "c", .task true, .task true, .task true,
    .task true]

theorem writeQueue_fifo_inline :
    ∃ c, run step start eventsInline = some c ∧ c.state.sent = ["a", "b"] ∧
      c.state.pendingMessages = ["c"] ∧ c.state.outstanding = 1 := by
  have hend : (run step start eventsInline).map (fun c => (c.stack false ++ c.stack true,
      c.state.sent, c.state.pendingMessages, c.state.failed)) =
        some ([], ["a", "b"], ["c"], false) := by decide +kernel
  obtain ⟨c, hrun, hvalues⟩ := Option.map_eq_some_iff.mp hend
  simp only [Prod.mk.injEq, List.append_eq_nil_iff] at hvalues
  obtain ⟨⟨hfirst, hsecond⟩, hsent, hwaiting, hfailed⟩ := hvalues
  have hempty : ∀ i, c.stack i = [] := by
    intro i
    cases i with
    | false => exact hfirst
    | true => exact hsecond
  obtain ⟨-, -, -, houtstanding⟩ := writeQueue_fifo hrun
  exact ⟨c, hrun, hsent, hwaiting, houtstanding hempty hfailed (by simp [hwaiting])⟩

end WriteQueue

end TunnelBore.Broker
