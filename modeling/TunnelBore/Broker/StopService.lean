import TunnelBore.Broker.AcceptLoop
import TunnelBore.Lib.Run
import TunnelBore.Lib.Threads

namespace TunnelBore.Broker

open TunnelBore.Lib

/-!
# Stopping a service

`Service::stop` closes the acceptor under `acceptorStopGuard`.  A client may have been accepted by
then whose handler has not run, or is running on another thread: it looks at the acceptor under
the same mutex before it makes a session, releases the mutex, and accepts again under it.

`AcceptLoop` has each handler run in one piece.  Here the handlers, `stop`, `start`,
`removeService` and the ends of sessions run task by task on any number of threads.

* `ServiceState.expand` — the functions; a completion waits in `queued` until it is delivered;
* `Deciding` — a thread that is past its look at the acceptor, and before what it does then;
* `Orderly` — such a thread holds the mutex, and the acceptor is open;
* `stop_is_final` — after `stop` nothing is accepted, and what was accepted stays.
-/

inductive ServiceMutex
  | acceptorStopGuard
  | sessionGuard
  /-- `serviceGuard` of the publisher. -/
  | serviceGuard
  deriving DecidableEq, Repr

/-- What is called on a service. -/
inductive ServiceFunction
  | start (setup : AcceptorSetup)
  | stop
  | acceptOnce
  /-- The completion handler of `async_accept`, for a connection that was accepted. -/
  | accepted (arrival : Arrival)
  | closeTunnelSide (id : TunnelId)
  deriving DecidableEq, Repr

/-- The functions, with the blocks of their bodies. -/
inductive ServiceAct
  /-- A pointer to the service is locked or copied, and a function called on it. -/
  | hold (f : ServiceFunction)
  /-- A pointer goes out of scope. -/
  | release
  /-- The end of `Service::~Service`: the members are destroyed. -/
  | destroyed
  | call (f : ServiceFunction)
  /-- `acceptor.open`. -/
  | openAcceptor (setup : AcceptorSetup)
  /-- The rest of the setup. -/
  | listen (setup : AcceptorSetup)
  /-- `stop` under `acceptorStopGuard`. -/
  | close
  /-- `acceptOnce` under `acceptorStopGuard`, up to the look at the acceptor. -/
  | checkOpen
  /-- The rest of it: `acceptor.async_accept`. -/
  | asyncAccept
  /-- The completion handler of `async_accept`. -/
  | handler (completion : AcceptCompletion)
  /-- Its block under `acceptorStopGuard`. -/
  | guarded (arrival : Arrival)
  /-- `sessions[tunnelId] = …`, under `sessionGuard`. -/
  | insert (id : TunnelId)
  /-- `sessions[tunnelId]->peek()`. -/
  | peek (id : TunnelId)
  /-- `Publisher::removeService`. -/
  | removeService
  /-- Its body under `serviceGuard`. -/
  | find
  /-- `services.erase`, or `services.clear`. -/
  | erase
  /-- `closeTunnelSide` under `sessionGuard`. -/
  | eraseSession (id : TunnelId)
  deriving DecidableEq, Repr

/-- A call stack of these functions. -/
abbrev ServiceProgram := List (Task ServiceMutex ServiceAct)

/-- A service, its acceptor, and the record of a run. -/
structure ServiceState where
  /-- `acceptor.is_open()`. -/
  isOpen : Bool := false
  /-- The `async_accept`s that have not completed. -/
  outstanding : Nat := 0
  /-- The completions whose handlers have not been called. -/
  queued : List AcceptCompletion := []
  /-- The keys of `sessions`. -/
  sessions : List TunnelId := []
  /-- The service is in the table of the publisher. -/
  listed : Bool := true
  /-- How many `shared_ptr`s own the service. -/
  owners : Nat := 1
  /-- The sessions that were inserted. -/
  inserted : List TunnelId := []
  /-- The sessions that started to peek. -/
  peeked : List TunnelId := []
  /-- How often `async_accept` was called. -/
  armed : Nat := 0

namespace ServiceState

variable (s : ServiceState)

/-- `acceptor.open` fails on an acceptor that is open. -/
def openAcceptor (setup : AcceptorSetup) : ServiceState × ServiceProgram :=
  if setup.opened = true ∧ s.isOpen = false then
    ({ s with isOpen := true }, [.act (.listen setup)])
  else (s, [])

/-- `set_option`, `bind` and `listen`, which fail on an acceptor that is closed. -/
def listen (setup : AcceptorSetup) : ServiceProgram :=
  if s.isOpen ∧ setup.reuseAddress ∧ setup.bound ∧ setup.listening then
    [.act (.call .acceptOnce)]
  else []

/-- `acceptor.close()`: the operations it waits for are aborted, those that have completed are
    not. -/
def close : ServiceState :=
  { s with
    isOpen := false
    outstanding := 0
    queued := s.queued ++ List.replicate s.outstanding .aborted }

/-- The block of the handler under `acceptorStopGuard`, and what follows it. -/
def guarded (arrival : Arrival) : ServiceProgram :=
  if s.isOpen = false then [.unlock .acceptorStopGuard]
  else
    match arrival.publisher with
    | none          => [.unlock .acceptorStopGuard]
    | some none     => [.unlock .acceptorStopGuard]
    | some (some _) =>
      if arrival.socketOpen = false then
        [.act (.call .acceptOnce), .unlock .acceptorStopGuard]
      -- an exception leaves the handler
      else if arrival.peerConnected = false then [.unlock .acceptorStopGuard]
      else
        [.lock .sessionGuard, .act (.insert arrival.tunnelId), .unlock .acceptorStopGuard,
          .act (.call .acceptOnce)]

/-- The completion handler. -/
def handler : AcceptCompletion → ServiceProgram
  | .aborted          => []
  | .failed           => [.act (.hold .acceptOnce)]
  | .accepted arrival => [.act (.hold (.accepted arrival))]

/-- One call, up to its first inner call. -/
def call : ServiceFunction → ServiceProgram
  | .start setup        => [.act (.call .stop), .act (.openAcceptor setup)]
  | .stop               => [.lock .acceptorStopGuard, .act .close]
  | .acceptOnce         => [.lock .acceptorStopGuard, .act .checkOpen]
  | .accepted arrival   => [.lock .acceptorStopGuard, .act (.guarded arrival)]
  | .closeTunnelSide id => [.lock .sessionGuard, .act (.eraseSession id)]

/-- One call or one block, up to its first inner call. -/
def expand : ServiceAct → ServiceState × ServiceProgram
  | .hold f             =>
    if 0 < s.owners then ({ s with owners := s.owners + 1 }, [.act (.call f), .act .release])
    else (s, [])
  -- the destructor stops the service
  | .release            =>
    ({ s with owners := s.owners - 1 },
      if s.owners - 1 = 0 then [.act (.call .stop), .act .destroyed] else [])
  | .destroyed          => ({ s with sessions := [] }, [])
  | .call f             => (s, call f)
  | .openAcceptor setup => s.openAcceptor setup
  | .listen setup       => (s, s.listen setup)
  | .close              => (s.close, [.unlock .acceptorStopGuard])
  | .checkOpen          =>
    (s, if s.isOpen then [.act .asyncAccept] else [.unlock .acceptorStopGuard])
  | .asyncAccept        =>
    ({ s with outstanding := s.outstanding + 1, armed := s.armed + 1 },
      [.unlock .acceptorStopGuard])
  | .handler completion => (s, handler completion)
  | .guarded arrival    => (s, s.guarded arrival)
  | .insert id          =>
    ({ s with sessions := s.sessions.insert id, inserted := s.inserted ++ [id] }, [.act (.peek id)])
  | .peek id            => ({ s with peeked := s.peeked ++ [id] }, [.unlock .sessionGuard])
  | .removeService      => (s, [.lock .serviceGuard, .act .find])
  | .find               =>
    (s, (if s.listed then [.act (.call .stop), .act .erase] else []) ++ [.unlock .serviceGuard])
  | .erase              =>
    if s.listed then ({ s with listed := false }, [.act .release]) else (s, [])
  | .eraseSession id    => ({ s with sessions := s.sessions.erase id }, [.unlock .sessionGuard])

/-- The mutex with which a body is entered. -/
def guard : ServiceAct → Option ServiceMutex
  | .close          => some .acceptorStopGuard
  | .checkOpen      => some .acceptorStopGuard
  | .asyncAccept    => some .acceptorStopGuard
  | .guarded _      => some .acceptorStopGuard
  | .insert _       => some .sessionGuard
  | .peek _         => some .sessionGuard
  | .find           => some .serviceGuard
  | .eraseSession _ => some .sessionGuard
  | _               => none

end ServiceState

/-! ### Threads -/

/-- Threads that use a service. -/
abbrev ServiceThreads (ι : Type*) := Threads ι ServiceState ServiceMutex ServiceAct

/-- What a thread may call. -/
inductive ServiceCall
  | start (setup : AcceptorSetup)
  | stop
  | removeService
  | clearServices
  /-- A handler of one of the sessions closes it. -/
  | closeTunnelSide (id : TunnelId)
  deriving DecidableEq, Repr

/-- The call itself. -/
def ServiceCall.act : ServiceCall → ServiceAct
  | .start setup        => .hold (.start setup)
  | .stop               => .hold .stop
  | .removeService      => .removeService
  | .clearServices      => .erase
  | .closeTunnelSide id => .hold (.closeTunnelSide id)

inductive ServiceTurn (ι : Type*)
  /-- A thread that is in no call makes one. -/
  | call (i : ι) (call : ServiceCall)
  /-- A thread carries out its next task. -/
  | task (i : ι)
  /-- An accept completes, with success or an error. -/
  | complete (completion : AcceptCompletion)
  /-- A thread of the executor runs the handler of a completion. -/
  | deliver (i : ι) (completion : AcceptCompletion)
  deriving DecidableEq, Repr

namespace ServiceState

variable {ι : Type*} [DecidableEq ι] [Fintype ι]

/-- One turn; `none` when it cannot happen. -/
def step (c : ServiceThreads ι) : ServiceTurn ι → Option (ServiceThreads ι)
  | .call i call            =>
    if (c.stack i).isEmpty then
      some { c with stack := Function.update c.stack i [.act call.act] }
    else none
  | .task i                 => c.step expand i
  | .complete completion    =>
    if 0 < c.state.outstanding ∧ completion ≠ .aborted then
      some { c with state := { c.state with
        outstanding := c.state.outstanding - 1
        queued := c.state.queued ++ [completion] } }
    else none
  | .deliver i completion   =>
    if (c.stack i).isEmpty ∧ completion ∈ c.state.queued then
      some
        { state := { c.state with queued := c.state.queued.erase completion }
          stack := Function.update c.stack i [.act (.handler completion)]
          held := c.held }
    else none

omit [DecidableEq ι] [Fintype ι] in
/-- No thread has called anything. -/
def init : ServiceThreads ι where
  state := {}
  stack _ := []
  held _ := []

/-! ### The mutexes -/

/-- The handler returns, or it has seen that the acceptor is open. -/
theorem guarded_cases (s : ServiceState) (arrival : Arrival) :
    s.guarded arrival = [.unlock .acceptorStopGuard] ∨
      (s.isOpen = true ∧
        s.guarded arrival = [.act (.call .acceptOnce), .unlock .acceptorStopGuard]) ∨
      (s.isOpen = true ∧ s.guarded arrival =
        [.lock .sessionGuard, .act (.insert arrival.tunnelId), .unlock .acceptorStopGuard,
          .act (.call .acceptOnce)]) := by
  unfold guarded
  split
  · exact .inl rfl
  · next hopen =>
    have hopen : s.isOpen = true := by simpa using hopen
    split
    · exact .inl rfl
    · exact .inl rfl
    · split
      · exact .inr (.inl ⟨hopen, rfl⟩)
      · split
        · exact .inl rfl
        · exact .inr (.inr ⟨hopen, rfl⟩)

/-- Every body releases what it takes and what it was entered with. -/
theorem paired_guard : Paired guard expand := by
  refine paired_of_pays fun s a => ?_
  have hproceed : ∀ {a b : ServiceAct}, guard a = guard b → Pays guard a [.act b] := by
    intro a b hab
    refine ⟨fun m => ?_, fun m => ?_, trivial⟩
    · simp [debt, hab]
    · simp only [owed_cons, debt, owed_nil]
      split <;> simp
  cases a with
  | hold f =>
    refine .plain rfl ?_
    simp only [expand]
    split <;> simp [guard]
  | release =>
    refine .plain rfl ?_
    simp only [expand]
    split <;> simp [guard]
  | destroyed => exact .plain rfl (by simp [expand])
  | call f =>
    cases f with
    | start setup => exact .plain rfl (by simp [expand, call, guard])
    | stop => exact .entry rfl rfl
    | acceptOnce => exact .entry rfl rfl
    | accepted arrival => exact .entry rfl rfl
    | closeTunnelSide id => exact .entry rfl rfl
  | openAcceptor setup =>
    refine .plain rfl ?_
    simp only [expand, openAcceptor]
    split <;> simp [guard]
  | listen setup =>
    refine .plain rfl ?_
    simp only [expand, listen]
    split <;> simp [guard]
  | close => exact .body (p := []) rfl (by simp) (by simp)
  | checkOpen =>
    simp only [expand]
    split
    · exact hproceed rfl
    · exact .body (p := []) rfl (by simp) (by simp)
  | asyncAccept => exact .body (p := []) rfl (by simp) (by simp)
  | handler completion =>
    refine .plain rfl ?_
    cases completion <;> simp [expand, handler, guard]
  | guarded arrival =>
    show Pays guard _ (s.guarded arrival)
    rcases guarded_cases s arrival with h | ⟨-, h⟩ | ⟨-, h⟩
    · rw [h]
      exact .body (p := []) rfl (by simp) (by simp)
    · rw [h]
      exact .body (p := ([.act (.call .acceptOnce)] : ServiceProgram)) rfl (by simp [guard])
        (by simp)
    · rw [h]
      refine ⟨fun m => ?_, fun m => ?_, fun m => ?_, fun m => ?_, fun m => ?_, trivial⟩ <;>
        cases m <;> simp [debt, guard]
  | insert id => exact hproceed rfl
  | peek id => exact .body (p := []) rfl (by simp) (by simp)
  | removeService => exact .entry rfl rfl
  | find =>
    refine .body rfl ?_ (by simp)
    split <;> simp [guard]
  | erase =>
    refine .plain rfl ?_
    simp only [expand]
    split <;> simp [guard]
  | eraseSession id => exact .body (p := []) rfl (by simp) (by simp)

/-! ### Between the look at the acceptor and what follows from it -/

/-- The task makes a session, lets it peek, or accepts. -/
def Decided : Task ServiceMutex ServiceAct → Prop
  | .act .asyncAccept => True
  | .act (.insert _)  => True
  | .act (.peek _)    => True
  | _                 => False

/-- Nothing on the stack does so before it has looked at the acceptor. -/
def Calm (p : ServiceProgram) : Prop := ∀ t ∈ p, ¬Decided t

/-- The thread has seen an open acceptor, and has still to do what it does then. -/
inductive Deciding : ServiceProgram → Prop
  | arming {p : ServiceProgram} (hp : Calm p) : Deciding (.act .asyncAccept :: p)
  | locking {id : TunnelId} {p : ServiceProgram} (hp : Calm p) :
      Deciding (.lock .sessionGuard :: .act (.insert id) :: .unlock .acceptorStopGuard :: p)
  | inserting {id : TunnelId} {p : ServiceProgram} (hp : Calm p) :
      Deciding (.act (.insert id) :: .unlock .acceptorStopGuard :: p)
  | peeking {id : TunnelId} {p : ServiceProgram} (hp : Calm p) :
      Deciding (.act (.peek id) :: .unlock .acceptorStopGuard :: p)

theorem calm_nil : Calm [] := fun _ h => absurd h List.not_mem_nil

theorem calm_cons {t : Task ServiceMutex ServiceAct} {p : ServiceProgram} :
    Calm (t :: p) ↔ ¬Decided t ∧ Calm p := List.forall_mem_cons

theorem calm_append {p q : ServiceProgram} : Calm (p ++ q) ↔ Calm p ∧ Calm q :=
  List.forall_mem_append

/-- A thread that is deciding holds `acceptorStopGuard`. -/
theorem Deciding.mem_held {p : ServiceProgram} {held : List ServiceMutex} (h : Deciding p)
    (hsettled : Settled guard held p) : .acceptorStopGuard ∈ held := by
  apply hsettled.mem_held
  cases h with
  | @arming p _ =>
    have hrest := hsettled.releasing.2.owed_nonneg .acceptorStopGuard
    simp only [owed_cons, debt, guard, if_true]
    omega
  | @locking id p _ =>
    have hrest := hsettled.releasing.2.2.2.owed_nonneg .acceptorStopGuard
    simp [debt, guard]
    omega
  | @inserting id p _ =>
    have hrest := hsettled.releasing.2.2.owed_nonneg .acceptorStopGuard
    simp [debt, guard]
    omega
  | @peeking id p _ =>
    have hrest := hsettled.releasing.2.2.owed_nonneg .acceptorStopGuard
    simp [debt, guard]
    omega

/-- What a run has done. -/
def record (s : ServiceState) : List TunnelId × List TunnelId × Nat :=
  (s.inserted, s.peeked, s.armed)

variable {s : ServiceState} {p : ServiceProgram}

/-- The task opens the acceptor. -/
def opens : Task ServiceMutex ServiceAct → Bool
  | .act (.openAcceptor _) => true
  | _                      => false

/-- **The acceptor** is opened and closed by its own tasks only. -/
theorem perform_isOpen (s : ServiceState) (t : Task ServiceMutex ServiceAct) :
    (perform expand s t).1.isOpen = s.isOpen ∨
      (t = .act .close ∧ (perform expand s t).1.isOpen = false) ∨
      (opens t = true ∧ (perform expand s t).1.isOpen = true) := by
  cases t with
  | lock m => exact .inl rfl
  | unlock m => exact .inl rfl
  | act a =>
    cases a with
    | close => exact .inr (.inl ⟨rfl, rfl⟩)
    | openAcceptor setup =>
      simp only [perform, expand, openAcceptor]
      split
      · exact .inr (.inr ⟨rfl, rfl⟩)
      · exact .inl rfl
    | hold f =>
      apply Or.inl
      simp only [perform, expand]
      split <;> rfl
    | erase =>
      apply Or.inl
      simp only [perform, expand]
      split <;> rfl
    | _ => exact .inl rfl

/-- Only what was decided enters the record. -/
theorem record_perform {t : Task ServiceMutex ServiceAct} (ht : ¬Decided t) :
    record (perform expand s t).1 = record s := by
  cases t with
  | lock m => rfl
  | unlock m => rfl
  | act a =>
    cases a with
    | asyncAccept => exact absurd trivial ht
    | insert id => exact absurd trivial ht
    | peek id => exact absurd trivial ht
    | hold f =>
      simp only [perform, expand]
      split <;> rfl
    | openAcceptor setup =>
      simp only [perform, expand, openAcceptor]
      split <;> rfl
    | erase =>
      simp only [perform, expand]
      split <;> rfl
    | _ => rfl

/-- The two places where the acceptor is looked at. -/
def Looks : ServiceAct → Prop
  | .checkOpen => True
  | .guarded _ => True
  | _          => False

/-- Elsewhere nothing is decided. -/
theorem calm_expand {a : ServiceAct} (ha : ¬Decided (.act a)) (hlooks : ¬Looks a) :
    Calm (s.expand a).2 := by
  cases a with
  | asyncAccept => exact absurd trivial ha
  | insert id => exact absurd trivial ha
  | peek id => exact absurd trivial ha
  | checkOpen => exact absurd trivial hlooks
  | guarded arrival => exact absurd trivial hlooks
  | call f =>
    show Calm (call f)
    cases f <;> simp [call, Calm, Decided]
  | handler completion =>
    show Calm (handler completion)
    cases completion <;> simp [handler, Calm, Decided]
  | hold f =>
    simp only [expand]
    split <;> simp [Calm, Decided]
  | release =>
    simp only [expand]
    split <;> simp [Calm, Decided]
  | openAcceptor setup =>
    simp only [expand, openAcceptor]
    split <;> simp [Calm, Decided]
  | listen setup =>
    simp only [expand, listen]
    split <;> simp [Calm, Decided]
  | find =>
    simp only [expand]
    split <;> simp [Calm, Decided]
  | erase =>
    simp only [expand]
    split <;> simp [Calm, Decided]
  | destroyed => exact calm_nil
  | close => simp [expand, Calm, Decided]
  | removeService => simp [expand, Calm, Decided]
  | eraseSession id => simp [expand, Calm, Decided]

/-- **What a task pushes** on a calm stack: calm tasks, or a decision on an acceptor that is
    open. -/
theorem calm_pushed {t : Task ServiceMutex ServiceAct} (ht : ¬Decided t) (hp : Calm p) :
    Calm ((perform expand s t).2 ++ p) ∨
      (Deciding ((perform expand s t).2 ++ p) ∧ s.isOpen = true ∧
        (perform expand s t).1.isOpen = true) := by
  -- a body of calm tasks
  have hcalm : ∀ {q : ServiceProgram}, Calm q → Calm (q ++ p) := fun hq => calm_append.mpr ⟨hq, hp⟩
  cases t with
  | lock m => exact .inl hp
  | unlock m => exact .inl hp
  | act a =>
    by_cases hlooks : Looks a
    · cases a with
      | checkOpen =>
        simp only [perform, expand]
        split
        · next hopen => exact .inr ⟨.arming hp, hopen, hopen⟩
        · exact .inl (hcalm (by simp [Calm, Decided]))
      | guarded arrival =>
        show Calm (s.guarded arrival ++ p) ∨ Deciding (s.guarded arrival ++ p) ∧ _
        rcases guarded_cases s arrival with h | ⟨-, h⟩ | ⟨hopen, h⟩
        · rw [h]
          exact .inl (hcalm (by simp [Calm, Decided]))
        · rw [h]
          exact .inl (hcalm (by simp [Calm, Decided]))
        · rw [h]
          exact .inr ⟨.locking (calm_cons.mpr ⟨by simp [Decided], hp⟩), hopen, hopen⟩
      | _ => exact absurd hlooks not_false
    · exact .inl (hcalm (calm_expand ht hlooks))

/-- **A decision** is carried out to its end, with the acceptor as it is. -/
theorem deciding_pushed {t : Task ServiceMutex ServiceAct} (h : Deciding (t :: p)) :
    (perform expand s t).1.isOpen = s.isOpen ∧
      (Calm ((perform expand s t).2 ++ p) ∨ Deciding ((perform expand s t).2 ++ p)) := by
  have hunlock : ∀ {m : ServiceMutex} {q : ServiceProgram}, Calm q → Calm (.unlock m :: q) :=
    fun hq => calm_cons.mpr ⟨by simp [Decided], hq⟩
  cases h with
  | arming hp => exact ⟨rfl, .inl (hunlock hp)⟩
  | locking hp => exact ⟨rfl, .inr (.inserting hp)⟩
  | inserting hp => exact ⟨rfl, .inr (.peeking hp)⟩
  | peeking hp => exact ⟨rfl, .inl (hunlock (hunlock hp))⟩

/-! ### One turn -/

variable {c c' : ServiceThreads ι} {i : ι} {turn : ServiceTurn ι}

/-- The turns that carry out a task, and the others: an idle thread enters a function or a handler,
    or a completion is queued. -/
inductive Turned (c : ServiceThreads ι) : ServiceTurn ι → ServiceThreads ι → Prop
  | task {c' : ServiceThreads ι} {i : ι} {t : Task ServiceMutex ServiceAct} {ts : ServiceProgram}
      (hpops : c.Pops expand i t ts c') : Turned c (.task i) c'
  | enters {turn : ServiceTurn ι} {i : ι} {a : ServiceAct} {s' : ServiceState}
      (hturn : ∀ j, turn ≠ .task j) (hempty : c.stack i = []) (ha : guard a = none)
      (hdecided : ¬Decided (.act a)) (hopen : s'.isOpen = c.state.isOpen)
      (hrecord : record s' = record c.state) (hsessions : s'.sessions = c.state.sessions) :
      Turned c turn { state := s', stack := Function.update c.stack i [.act a], held := c.held }
  | queues {turn : ServiceTurn ι} {s' : ServiceState} (hturn : ∀ j, turn ≠ .task j)
      (hopen : s'.isOpen = c.state.isOpen) (hrecord : record s' = record c.state)
      (hsessions : s'.sessions = c.state.sessions) : Turned c turn { c with state := s' }

/-- **One turn.** -/
theorem step_turned (h : step c turn = some c') : Turned c turn c' := by
  cases turn with
  | call i call =>
    simp only [step, Option.ite_none_right_eq_some, Option.some.injEq, List.isEmpty_iff] at h
    obtain ⟨hempty, rfl⟩ := h
    refine .enters (fun j hj => by cases hj) hempty ?_ ?_ rfl rfl rfl
    · cases call <;> rfl
    · cases call <;> exact id
  | task i =>
    obtain ⟨t, ts, hpops⟩ := Threads.step_pops h
    exact .task hpops
  | complete completion =>
    simp only [step, Option.ite_none_right_eq_some, Option.some.injEq] at h
    obtain ⟨-, rfl⟩ := h
    exact .queues (fun j hj => by cases hj) rfl rfl rfl
  | deliver i completion =>
    simp only [step, Option.ite_none_right_eq_some, Option.some.injEq, List.isEmpty_iff] at h
    obtain ⟨⟨hempty, -⟩, rfl⟩ := h
    exact .enters (fun j hj => by cases hj) hempty rfl id rfl rfl rfl

/-- A thread that is past its look at the acceptor holds the mutex, and the acceptor is open. -/
structure Orderly (c : ServiceThreads ι) : Prop where
  exclusive : c.Exclusive
  settled : ∀ j, Settled guard (c.held j) (c.stack j)
  decided : ∀ j, Calm (c.stack j) ∨ (Deciding (c.stack j) ∧ c.state.isOpen = true)

/-- The task that a turn carries out. -/
def next (c : ServiceThreads ι) : ServiceTurn ι → Option (Task ServiceMutex ServiceAct)
  | .task j => (c.stack j).head?
  | _       => none

/-- No `start` opens the acceptor in this turn. -/
def NoStart (c : ServiceThreads ι) (turn : ServiceTurn ι) : Prop :=
  ∀ t ∈ next c turn, opens t = false

instance (turn : ServiceTurn ι) : Decidable (NoStart c turn) :=
  inferInstanceAs (Decidable (∀ t ∈ next c turn, opens t = false))

/-- **Every turn is orderly**: only the holder of the mutex closes the acceptor. -/
theorem Orderly.step (hc : Orderly c) (h : step c turn = some c') : Orderly c' := by
  cases step_turned h with
  | @task _ i t ts hpops =>
    refine ⟨hc.exclusive.step h, Threads.settled_step paired_guard hc.settled h, ?_⟩
    have hsettled := hc.settled i
    have hdecided := hc.decided i
    rw [hpops.stack] at hsettled hdecided
    -- what this thread leaves on its stack
    have htop : Calm (c'.stack i) ∨ (Deciding (c'.stack i) ∧ c'.state.isOpen = true) := by
      rw [hpops.stack', hpops.state']
      rcases hdecided with hcalm | ⟨hdeciding, hopen⟩
      · obtain ⟨ht, hts⟩ := calm_cons.mp hcalm
        obtain hpushed | ⟨hpushed, -, hopen⟩ := calm_pushed (s := c.state) ht hts
        · exact .inl hpushed
        · exact .inr ⟨hpushed, hopen⟩
      · obtain ⟨hkept, hpushed | hpushed⟩ := deciding_pushed (s := c.state) hdeciding
        · exact .inl hpushed
        · exact .inr ⟨hpushed, hkept.trans hopen⟩
    intro j
    by_cases hj : j = i
    · exact hj ▸ htop
    · rw [(hpops.others j hj).1]
      refine (hc.decided j).imp_right ?_
      rintro ⟨hdeciding, hopen⟩
      refine ⟨hdeciding, ?_⟩
      rw [hpops.state']
      rcases perform_isOpen c.state t with hkept | ⟨rfl, -⟩ | ⟨-, hopened⟩
      · exact hkept.trans hopen
      · -- the thread that closes the acceptor would hold the mutex, too
        have hheld : .acceptorStopGuard ∈ c.held i := hsettled.mem_held_top rfl
        exact absurd (hc.exclusive j i _ (hdeciding.mem_held (hc.settled j)) hheld) hj
      · exact hopened
  | @enters _ i a s' _ hempty ha hd hopen =>
    refine ⟨hc.exclusive, ?_, ?_⟩
    · show ∀ j, Settled guard (c.held j) (Function.update c.stack i [.act a] j)
      apply (Function.forall_update_iff c.stack fun j p => Settled guard (c.held j) p).mpr
      have hsettled := (hc.settled i).call ha
      rw [hempty] at hsettled
      exact ⟨hsettled, fun j _ => hc.settled j⟩
    · show ∀ j, Calm (Function.update c.stack i [.act a] j) ∨
        (Deciding (Function.update c.stack i [.act a] j) ∧ s'.isOpen = true)
      rw [hopen]
      apply (Function.forall_update_iff c.stack fun _ p =>
        Calm p ∨ (Deciding p ∧ c.state.isOpen = true)).mpr
      exact ⟨.inl (calm_cons.mpr ⟨hd, calm_nil⟩), fun j _ => hc.decided j⟩
  | @queues _ s' _ hopen =>
    refine ⟨hc.exclusive, hc.settled, ?_⟩
    show ∀ j, Calm (c.stack j) ∨ (Deciding (c.stack j) ∧ s'.isOpen = true)
    rw [hopen]
    exact hc.decided

omit [DecidableEq ι] [Fintype ι] in
theorem orderly_init : Orderly (init : ServiceThreads ι) where
  exclusive _ _ _ h _ := absurd h List.not_mem_nil
  settled _ := ⟨trivial, fun _ => rfl⟩
  decided _ := .inl calm_nil

/-! ### After `stop` -/

/-- The acceptor is closed, and the record is the one given. -/
structure Stopped (r : List TunnelId × List TunnelId × Nat) (c : ServiceThreads ι) : Prop where
  orderly : Orderly c
  closed : c.state.isOpen = false
  record_eq : record c.state = r

/-- **Nothing is accepted** by a service that is stopped, and it stays so. -/
theorem Stopped.step {r : List TunnelId × List TunnelId × Nat} (hc : Stopped r c)
    (hstart : NoStart c turn) (h : step c turn = some c') : Stopped r c' := by
  refine ⟨hc.orderly.step h, ?_, ?_⟩
  · cases step_turned h with
    | @task _ i t ts hpops =>
      have hopens : opens t = false := hstart t (by simp [next, hpops.stack])
      rw [hpops.state']
      rcases perform_isOpen c.state t with hkept | ⟨-, hclosed⟩ | ⟨hopened, -⟩
      · exact hkept.trans hc.closed
      · exact hclosed
      · exact absurd hopened (by simp [hopens])
    | enters _ _ _ _ hopen => exact hopen.trans hc.closed
    | queues _ hopen => exact hopen.trans hc.closed
  · cases step_turned h with
    | @task _ i t ts hpops =>
      rcases hc.orderly.decided i with hcalm | ⟨-, hopen⟩
      · rw [hpops.stack, calm_cons] at hcalm
        rw [hpops.state', record_perform hcalm.1, hc.record_eq]
      · rw [hc.closed] at hopen
        cases hopen
    | enters _ _ _ _ _ hrecord => exact hrecord.trans hc.record_eq
    | queues _ _ hrecord => exact hrecord.trans hc.record_eq

/-- What is left of a call of `stop`, and whether the acceptor is open. -/
inductive Stopping : ServiceProgram → Bool → Prop
  | called {isOpen : Bool} : Stopping [.act (.call .stop)] isOpen
  | locking {isOpen : Bool} : Stopping [.lock .acceptorStopGuard, .act .close] isOpen
  | closing {isOpen : Bool} : Stopping [.act .close] isOpen
  | releasing : Stopping [.unlock .acceptorStopGuard] false
  | returned : Stopping [] false

/-- The turn takes a session out of the map. -/
def Loses (c : ServiceThreads ι) (turn : ServiceTurn ι) (id : TunnelId) : Prop :=
  id ∈ c.state.sessions ∧ ∃ c', step c turn = some c' ∧ id ∉ c'.state.sessions

/-- In this turn, thread `j` closes the session, or destroys the service. -/
def Removes (j : ι) (c : ServiceThreads ι) (turn : ServiceTurn ι) (id : TunnelId) : Prop :=
  turn = .task j ∧
    (next c turn = some (.act (.eraseSession id)) ∨ next c turn = some (.act .destroyed))

/-- **The sessions** are removed by their own tasks only. -/
theorem perform_sessions {id : TunnelId} (hid : id ∈ s.sessions)
    (t : Task ServiceMutex ServiceAct) :
    id ∈ (perform expand s t).1.sessions ∨ t = .act (.eraseSession id) ∨ t = .act .destroyed := by
  cases t with
  | lock m => exact .inl hid
  | unlock m => exact .inl hid
  | act a =>
    cases a with
    | destroyed => exact .inr (.inr rfl)
    | eraseSession other =>
      by_cases hother : id = other
      · exact .inr (.inl (by rw [hother]))
      · exact .inl ((List.mem_erase_of_ne hother).mpr hid)
    | insert other => exact .inl (List.mem_insert_of_mem hid)
    | hold f =>
      apply Or.inl
      simp only [perform, expand]
      split <;> exact hid
    | openAcceptor setup =>
      apply Or.inl
      simp only [perform, expand, openAcceptor]
      split <;> exact hid
    | erase =>
      apply Or.inl
      simp only [perform, expand]
      split <;> exact hid
    | _ => exact .inl hid

/-- A session that is lost was removed. -/
theorem Loses.removes {id : TunnelId} (h : Loses c turn id) : ∃ j, Removes j c turn id := by
  obtain ⟨hid, c', hstep, hlost⟩ := h
  cases step_turned hstep with
  | @task _ i t ts hpops =>
    rw [hpops.state'] at hlost
    have hnext : next c (.task i) = some t := by simp [next, hpops.stack]
    rcases perform_sessions hid t with hkept | rfl | rfl
    · exact absurd hkept hlost
    · exact ⟨i, rfl, .inl hnext⟩
    · exact ⟨i, rfl, .inr hnext⟩
  | enters _ _ _ _ _ _ hsessions => exact absurd (hsessions ▸ hid) hlost
  | queues _ _ _ hsessions => exact absurd (hsessions ▸ hid) hlost

omit [DecidableEq ι] [Fintype ι] in
/-- Others do not disturb a call of `stop` unless they open the acceptor. -/
theorem Stopping.mono {o o' : Bool} (h : Stopping p o) (ho : o = false → o' = false) :
    Stopping p o' := by
  cases h with
  | called => exact .called
  | locking => exact .locking
  | closing => exact .closing
  | releasing => exact ho rfl ▸ .releasing
  | returned => exact ho rfl ▸ .returned

/-- The next task of a call of `stop`. -/
theorem Stopping.pop {o : Bool} {t : Task ServiceMutex ServiceAct} (h : Stopping (t :: p) o)
    (ho : s.isOpen = o) :
    Stopping ((perform expand s t).2 ++ p) (perform expand s t).1.isOpen ∧
      ∀ id, t ≠ .act (.eraseSession id) ∧ t ≠ .act .destroyed := by
  cases h with
  | called => exact ⟨.locking, fun _ => ⟨by simp, by simp⟩⟩
  | locking => exact ⟨.closing, fun _ => ⟨by simp, by simp⟩⟩
  | closing => exact ⟨.releasing, fun _ => ⟨by simp, by simp⟩⟩
  | releasing =>
    refine ⟨?_, fun _ => ⟨by simp, by simp⟩⟩
    show Stopping [] s.isOpen
    rw [ho]
    exact .returned

/-- **A turn while thread `i` is in `stop`.** -/
theorem stopping_step {p rest : ServiceProgram} (hp : Stopping p c.state.isOpen)
    (hstack : c.stack i = p ++ rest) (hrest : c.stack i ≠ rest) (hstart : NoStart c turn)
    (h : step c turn = some c') :
    (∃ p', Stopping p' c'.state.isOpen ∧ c'.stack i = p' ++ rest) ∧
      ∀ id, ¬Removes i c turn id := by
  obtain ⟨t, q, rfl⟩ : ∃ t q, p = t :: q := by
    cases p with
    | nil => exact absurd hstack hrest
    | cons t q => exact ⟨t, q, rfl⟩
  have hnext : next c (.task i) = some t := by simp [next, hstack]
  cases step_turned h with
  | @task _ k u us hpops =>
    by_cases hk : k = i
    · subst hk
      obtain ⟨rfl, rfl⟩ := List.cons.inj (hpops.stack.symm.trans hstack)
      obtain ⟨hpopped, hothers⟩ := hp.pop rfl
      rw [← hpops.state'] at hpopped
      refine ⟨⟨_, hpopped, hpops.stack'.trans (List.append_assoc _ _ _).symm⟩, ?_⟩
      rintro id ⟨-, hremoves⟩
      rw [hnext] at hremoves
      rcases hremoves with hremoves | hremoves
      · exact (hothers id).1 (Option.some.inj hremoves)
      · exact (hothers id).2 (Option.some.inj hremoves)
    · have hopens : opens u = false := hstart u (by simp [next, hpops.stack])
      refine ⟨⟨t :: q, hp.mono fun hclosed => ?_, ?_⟩, ?_⟩
      · rw [hpops.state']
        rcases perform_isOpen c.state u with hkept | ⟨-, hclosed'⟩ | ⟨hopened, -⟩
        · exact hkept.trans hclosed
        · exact hclosed'
        · exact absurd hopened (by simp [hopens])
      · rw [(hpops.others i (Ne.symm hk)).1, hstack]
      · rintro id ⟨hturn, -⟩
        exact hk (ServiceTurn.task.inj hturn)
  | @enters _ k a s' hturn hempty _ _ hopen =>
    have hk : i ≠ k := by
      rintro rfl
      rw [hstack] at hempty
      cases hempty
    refine ⟨⟨t :: q, hopen ▸ hp, ?_⟩, fun id hremoves => hturn i hremoves.1⟩
    show Function.update c.stack k [.act a] i = _
    rw [Function.update_of_ne hk, hstack]
  | queues hturn hopen =>
    exact ⟨⟨t :: q, hopen ▸ hp, hstack⟩, fun id hremoves => hturn i hremoves.1⟩

/-- The call of `stop` that thread `i` makes in `c` returns after these turns. -/
structure Returns (i : ι) (rest : ServiceProgram) (c : ServiceThreads ι)
    (during : List (ServiceTurn ι)) (c₁ : ServiceThreads ι) : Prop where
  called : c.stack i = .act (.call .stop) :: rest
  run_eq : run step c during = some c₁
  returned : c₁.stack i = rest
  /-- It does not return before. -/
  first : ∀ k < during.length, (run step c (during.take k)).map (fun c => c.stack i) ≠ some rest

/-- **A call of `stop`** leaves the acceptor closed, and removes no session. -/
theorem stopping_run {p rest : ServiceProgram} {during : List (ServiceTurn ι)}
    (hp : Stopping p c.state.isOpen) (hstack : c.stack i = p ++ rest)
    (hrun : run step c during = some c') (hreturned : c'.stack i = rest)
    (hfirst : ∀ k < during.length,
      (run step c (during.take k)).map (fun c => c.stack i) ≠ some rest)
    (hstart : Along step NoStart c during) :
    c'.state.isOpen = false ∧
      Along step (fun c turn => ∀ id, ¬Removes i c turn id) c during := by
  induction during generalizing c p with
  | nil =>
    obtain rfl : c = c' := by simpa using hrun
    obtain rfl : p = [] := by simpa [hreturned] using hstack
    refine ⟨?_, trivial⟩
    generalize c.state.isOpen = o at hp ⊢
    cases hp
    rfl
  | cons turn during ih =>
    obtain ⟨u, hu, htail⟩ := Option.bind_eq_some_iff.mp hrun
    have hrest : c.stack i ≠ rest := by simpa using hfirst 0 (by simp)
    obtain ⟨⟨p', hp', hstack'⟩, hkeeps⟩ := stopping_step hp hstack hrest hstart.1 hu
    have hfirst' : ∀ k < during.length,
        (run step u (during.take k)).map (fun c => c.stack i) ≠ some rest := by
      intro k hk
      have hlater := hfirst (k + 1) (by simpa using hk)
      rwa [List.take_succ_cons, run_cons, hu] at hlater
    obtain ⟨hclosed, halong⟩ := ih hp' hstack' htail hfirst' (hstart.2 u hu)
    refine ⟨hclosed, hkeeps, fun v hv => ?_⟩
    obtain rfl : u = v := Option.some.inj (hu.symm.trans hv)
    exact halong

/-- **Stopping is final.**  However the turns of the threads are interleaved, from the return of a
    call of `stop` on, whoever made it, no session is inserted, none starts to peek and no accept is
    made until a `start` opens the acceptor; and every session that is lost during the call is
    removed by another thread, which closes it or destroys the service. -/
theorem stop_is_final {before during later : List (ServiceTurn ι)} {c₀ c₁ c₂ : ServiceThreads ι}
    {rest : ServiceProgram} (hbefore : run step init before = some c₀)
    (hstop : Returns i rest c₀ during c₁) (hduring : Along step NoStart c₀ during)
    (hlater : run step c₁ later = some c₂) (hstart : Along step NoStart c₁ later) :
    (c₂.state.inserted = c₁.state.inserted ∧ c₂.state.peeked = c₁.state.peeked ∧
        c₂.state.armed = c₁.state.armed) ∧
      Along step (fun c turn => ∀ id, Loses c turn id → ∃ j, j ≠ i ∧ Removes j c turn id) c₀
        during := by
  have horderly : ∀ {c c' : ServiceThreads ι} {turns}, Orderly c → run step c turns = some c' →
      Orderly c' := fun hc hrun => run_preserves (fun _ _ _ hc h => hc.step h) hc hrun
  obtain ⟨hclosed, hkeeps⟩ := stopping_run (p := [.act (.call .stop)]) .called hstop.called
    hstop.run_eq hstop.returned hstop.first hduring
  have hstopped : Stopped (record c₁.state) c₁ :=
    ⟨horderly (horderly orderly_init hbefore) hstop.run_eq, hclosed, rfl⟩
  have hend := run_invariant (fun _ _ _ hc hG h => hc.step hG h) hstopped hstart hlater
  have hrecord : record c₂.state = record c₁.state := hend.record_eq
  simp only [record, Prod.mk.injEq] at hrecord
  refine ⟨hrecord, hkeeps.mono fun c turn hother id hlost => ?_⟩
  obtain ⟨j, hremoves⟩ := hlost.removes
  refine ⟨j, ?_, hremoves⟩
  rintro rfl
  exact hother id hremoves

/-- A service has one session, and another client is accepted; `removeService` comes to `stop`. -/
def removal : List (ServiceTurn Bool) :=
  .call false (.start {}) :: List.replicate 14 (.task false) ++
    [.complete (.accepted ⟨some (some 0), true, "c", true⟩),
      .deliver false (.accepted ⟨some (some 0), true, "c", true⟩)] ++
    List.replicate 16 (.task false) ++
    [.complete (.accepted ⟨some (some 0), true, "d", true⟩), .call true .removeService,
      .task true, .task true, .task true]

/-- The handler of that client runs up to the mutex while `stop` holds it, and to its end after
    that. -/
theorem stop_is_final_removed :
    ∃ c₀ c₁ c₂ : ServiceThreads Bool, run step init removal = some c₀ ∧
      c₀.state.sessions = ["c"] ∧ c₂.state.sessions = ["c"] ∧
      c₂.state.inserted = c₁.state.inserted ∧ c₂.state.armed = c₁.state.armed ∧
      c₂.stack false = [] := by
  let during : List (ServiceTurn Bool) :=
    [.task true, .task true, .deliver false (.accepted ⟨some (some 0), true, "d", true⟩),
      .task false, .task false, .task true, .task true]
  let later : List (ServiceTurn Bool) := List.replicate 5 (.task false)
  let c₀ := (run step init removal).getD init
  let c₁ := (run step c₀ during).getD init
  let c₂ := (run step c₁ later).getD init
  have hsome : ∀ {o : Option (ServiceThreads Bool)}, o.isSome → o = some (o.getD init) := by
    intro o ho
    obtain ⟨c, rfl⟩ := Option.isSome_iff_exists.mp ho
    rfl
  have hbefore : run step init removal = some c₀ := hsome (by decide +kernel)
  have hduring : run step c₀ during = some c₁ := hsome (by decide +kernel)
  have hlater : run step c₁ later = some c₂ := hsome (by decide +kernel)
  have hstop : Returns true (c₁.stack true) c₀ during c₁ :=
    { called := by decide +kernel
      run_eq := hduring
      returned := rfl
      first := by decide +kernel }
  obtain ⟨⟨hinserted, -, harmed⟩, -⟩ :=
    stop_is_final hbefore hstop (by decide +kernel) hlater (by decide +kernel)
  exact ⟨c₀, c₁, c₂, hbefore, by decide +kernel, by decide +kernel, hinserted, harmed,
    by decide +kernel⟩

end ServiceState

end TunnelBore.Broker
