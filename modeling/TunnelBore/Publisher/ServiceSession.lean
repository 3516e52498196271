import Mathlib.Data.Finset.Basic
import TunnelBore.Lib.Threads

namespace TunnelBore.Publisher

open TunnelBore.Lib

/-!
# The sessions of a publisher's service

`Service` keeps a pair of `ServiceSession`s for each tunnel, with the pipe operations between
them.  A session is closed by the handlers of both pipe operations and by its timer; when the
second one of a pair has been closed, the callback closes the pipes and erases the entry, whose
end closes pipes and sessions once more.  These functions call each other through three classes,
so they are tasks of a call stack; every block under a mutex is a task of its own.

A session exists as long as the entry or another `shared_ptr` owns it.  The pipe operation that
reads from a session is named by that session.
-/

/-- The two sessions of a `ServiceSessionPair`. -/
inductive PairSide
  | inward
  | outward
  deriving DecidableEq, Repr

/-- A `ServiceSession`, by the tunnel it was created for. -/
structure ServiceSession where
  tunnelId : String
  side : PairSide
  deriving DecidableEq, Repr

/-- The other session of the pair. -/
def ServiceSession.other (x : ServiceSession) : ServiceSession where
  tunnelId := x.tunnelId
  side :=
    match x.side with
    | .inward  => .outward
    | .outward => .inward

/-- The mutexes these functions take. -/
inductive SessionMutex
  | mutex (x : ServiceSession)
  | sessionGuard
  deriving DecidableEq, Repr

/-- What a run leaves in the record. -/
inductive SessionEffect
  /-- `socket.shutdown`. -/
  | shutdown (x : ServiceSession)
  /-- `PipeOperation::close` of the pipe that reads from `x`. -/
  | pipeClose (x : ServiceSession)
  /-- `sessions_.erase`, with an iterator that is valid or not. -/
  | erase (tunnelId : String) (valid : Bool)
  deriving DecidableEq, Repr

/-- The tunnel an effect is about. -/
def SessionEffect.tunnelId : SessionEffect → String
  | .shutdown x  => x.tunnelId
  | .pipeClose x => x.tunnelId
  | .erase t _   => t

/-- The part of a `Service` that concerns its sessions. -/
structure ServiceSessions where
  /-- The tunnels with an entry in `sessions_`. -/
  sessions : Finset String := ∅
  active : ServiceSession → Bool := fun _ => false
  /-- How many `shared_ptr`s besides the entry's own a session. -/
  owners : ServiceSession → Nat := fun _ => 0
  effects : List SessionEffect := []

/-- The functions, with the blocks of their bodies. -/
inductive SessionAct
  /-- A handler of a pipe operation or of the timer locks its `weak_ptr` and closes the session. -/
  | handler (x : ServiceSession)
  /-- `ServiceSession::close`. -/
  | close (x : ServiceSession)
  /-- The first block of `close`. -/
  | check (x : ServiceSession)
  /-- The second one. -/
  | shutdown (x : ServiceSession)
  /-- The third one. -/
  | deactivate (x : ServiceSession)
  /-- The callback that `createSession` sets. -/
  | onClose (tunnelId : String)
  /-- The callback under `sessionGuard_`. -/
  | onCloseGuarded (tunnelId : String)
  /-- `PipeOperation::close`, also the destructor's. -/
  | pipeClose (x : ServiceSession)
  /-- `sessions_.erase(it)`. -/
  | erase (tunnelId : String)
  /-- A `shared_ptr` to the session goes out of scope. -/
  | release (x : ServiceSession)
  /-- `ServiceSession::~ServiceSession`. -/
  | destroy (x : ServiceSession)
  deriving DecidableEq, Repr

/-- The tunnel an act is about. -/
def SessionAct.tunnelId : SessionAct → String
  | .handler x        => x.tunnelId
  | .close x          => x.tunnelId
  | .check x          => x.tunnelId
  | .shutdown x       => x.tunnelId
  | .deactivate x     => x.tunnelId
  | .onClose t        => t
  | .onCloseGuarded t => t
  | .pipeClose x      => x.tunnelId
  | .erase t          => t
  | .release x        => x.tunnelId
  | .destroy x        => x.tunnelId

/-- A call stack of these functions. -/
abbrev SessionProgram := List (Task SessionMutex SessionAct)

namespace ServiceSessions

variable (s : ServiceSessions)

/-- `weak_ptr::lock` would succeed. -/
def alive (x : ServiceSession) : Bool := x.tunnelId ∈ s.sessions || 0 < s.owners x

/-- One more `shared_ptr` owns the session. -/
def acquire (x : ServiceSession) : ServiceSessions :=
  { s with owners := Function.update s.owners x (s.owners x + 1) }

/-- Add to the record. -/
def record (e : SessionEffect) : ServiceSessions := { s with effects := s.effects ++ [e] }

/-- Neither session of the tunnel is active. -/
def Inactive (t : String) : Prop :=
  s.active ⟨t, .inward⟩ = false ∧ s.active ⟨t, .outward⟩ = false

instance (t : String) : Decidable (s.Inactive t) := inferInstanceAs (Decidable (_ ∧ _))

/-- `PipeOperation::close`: both sides are locked first, then closed, and the two `shared_ptr`s
    go out of scope at the end. -/
def pipeClose (x : ServiceSession) : ServiceSessions × SessionProgram :=
  let ends := [x, x.other].filter s.alive
  ((ends.foldl acquire s).record (.pipeClose x),
    ends.map (fun y => .act (.close y)) ++ ends.reverse.map fun y => .act (.release y))

/-- `sessions_.erase(it)`: the entry is taken out, then its members are destroyed, last first. -/
def erase (t : String) : ServiceSessions × SessionProgram :=
  if t ∈ s.sessions then
    (((({ s with sessions := s.sessions.erase t }).acquire ⟨t, .inward⟩).acquire
        ⟨t, .outward⟩).record (.erase t true),
      [.act (.pipeClose ⟨t, .outward⟩), .act (.pipeClose ⟨t, .inward⟩),
        .act (.release ⟨t, .outward⟩), .act (.release ⟨t, .inward⟩)])
  else
    (s.record (.erase t false), [])

/-- One owner less; the destructor runs when it was the last one. -/
def release (x : ServiceSession) : ServiceSessions × SessionProgram :=
  let s' := { s with owners := Function.update s.owners x (s.owners x - 1) }
  (s', if s'.alive x then [] else [.act (.destroy x)])

/-- One call or one block, up to its first inner call. -/
def expand : SessionAct → ServiceSessions × SessionProgram
  | .handler x        =>
    if s.alive x then (s.acquire x, [.act (.close x), .act (.release x)]) else (s, [])
  | .close x          => (s, [.lock (.mutex x), .act (.check x)])
  | .check x          =>
    (s, .unlock (.mutex x) ::
      if s.active x then [.lock (.mutex x), .act (.shutdown x)] else [])
  | .shutdown x       =>
    (s.record (.shutdown x), [.unlock (.mutex x), .lock (.mutex x), .act (.deactivate x)])
  | .deactivate x     =>
    ({ s with active := Function.update s.active x false },
      [.unlock (.mutex x), .act (.onClose x.tunnelId)])
  | .onClose t        => (s, [.lock .sessionGuard, .act (.onCloseGuarded t)])
  | .onCloseGuarded t =>
    (s, (if t ∈ s.sessions ∧ s.Inactive t then
          [.act (.pipeClose ⟨t, .inward⟩), .act (.pipeClose ⟨t, .outward⟩), .act (.erase t)]
        else []) ++ [.unlock .sessionGuard])
  | .pipeClose x      => s.pipeClose x
  | .erase t          => s.erase t
  | .release x        => s.release x
  -- the timer is cancelled under the mutex
  | .destroy x        => (s, [.lock (.mutex x), .unlock (.mutex x), .act (.close x)])

/-- The end of `createSession`: a pair of new sessions is put into the map. -/
def emplace (t : String) : ServiceSessions where
  sessions := insert t s.sessions
  active := Function.update (Function.update s.active ⟨t, .inward⟩ true) ⟨t, .outward⟩ true
  owners := s.owners
  effects := s.effects

/-! ### What one task does to each part -/

theorem sessions_foldl_acquire (l : List ServiceSession) :
    (l.foldl acquire s).sessions = s.sessions := by
  induction l generalizing s with
  | nil => rfl
  | cons x l ih => exact ih (s.acquire x)

theorem active_foldl_acquire (l : List ServiceSession) :
    (l.foldl acquire s).active = s.active := by
  induction l generalizing s with
  | nil => rfl
  | cons x l ih => exact ih (s.acquire x)

theorem effects_foldl_acquire (l : List ServiceSession) :
    (l.foldl acquire s).effects = s.effects := by
  induction l generalizing s with
  | nil => rfl
  | cons x l ih => exact ih (s.acquire x)

/-- Only `erase` takes an entry out. -/
theorem sessions_expand (a : SessionAct) :
    (s.expand a).1.sessions =
      match a with
      | .erase t => s.sessions.erase t
      | _        => s.sessions := by
  cases a with
  | handler x =>
    simp only [expand]
    split <;> rfl
  | pipeClose x => exact s.sessions_foldl_acquire _
  | erase t =>
    show (s.erase t).1.sessions = _
    unfold erase
    split
    · rfl
    · next hgone => exact (Finset.erase_eq_of_notMem hgone).symm
  | _ => rfl

/-- Only the third block of `close` deactivates a session, and nothing activates one. -/
theorem active_expand (a : SessionAct) :
    (s.expand a).1.active =
      match a with
      | .deactivate x => Function.update s.active x false
      | _             => s.active := by
  cases a with
  | handler x =>
    simp only [expand]
    split <;> rfl
  | pipeClose x => exact s.active_foldl_acquire _
  | erase t =>
    show (s.erase t).1.active = _
    unfold erase
    split <;> rfl
  | _ => rfl

/-- What one task adds to the record. -/
def newEffects : SessionAct → List SessionEffect
  | .shutdown x  => [.shutdown x]
  | .pipeClose x => [.pipeClose x]
  | .erase t     => [.erase t (decide (t ∈ s.sessions))]
  | _            => []

theorem effects_expand (a : SessionAct) :
    (s.expand a).1.effects = s.effects ++ s.newEffects a := by
  cases a with
  | handler x =>
    simp only [expand, newEffects, List.append_nil]
    split <;> rfl
  | shutdown x => rfl
  | pipeClose x =>
    show (List.foldl acquire s _).effects ++ [.pipeClose x] = _
    rw [effects_foldl_acquire]
    rfl
  | erase t =>
    show (s.erase t).1.effects = _
    unfold erase newEffects
    split
    · next hmem =>
      simp only [hmem, decide_true]
      rfl
    · next hgone =>
      simp only [hgone, decide_false]
      rfl
  | _ => exact (List.append_nil _).symm

/-- What a task pushes is about the tunnel it is about. -/
theorem tunnelId_of_pushed {a b : SessionAct} (h : .act b ∈ (s.expand a).2) :
    b.tunnelId = a.tunnelId := by
  cases a with
  | handler x =>
    simp only [expand] at h
    split at h
    · rcases List.mem_pair.mp h with h | h <;> exact (Task.act.inj h) ▸ rfl
    · exact absurd h List.not_mem_nil
  | check x =>
    simp only [expand] at h
    split at h
    · simp only [List.mem_cons, reduceCtorEq, Task.act.injEq, List.not_mem_nil, or_false,
        false_or] at h
      exact h ▸ rfl
    · simp at h
  | onCloseGuarded t =>
    simp only [expand] at h
    split at h
    · simp only [List.mem_append, List.mem_cons, reduceCtorEq, Task.act.injEq, List.not_mem_nil,
        or_false] at h
      rcases h with rfl | rfl | rfl <;> rfl
    · simp at h
  | pipeClose x =>
    have hend : ∀ y ∈ [x, x.other].filter s.alive, y.tunnelId = x.tunnelId := by
      intro y hy
      rcases List.mem_pair.mp (List.mem_of_mem_filter hy) with rfl | rfl <;> rfl
    rcases List.mem_append.mp h with h | h
    · obtain ⟨y, hy, hb⟩ := List.mem_map.mp h
      exact Task.act.inj hb ▸ hend y hy
    · obtain ⟨y, hy, hb⟩ := List.mem_map.mp h
      exact Task.act.inj hb ▸ hend y (List.mem_reverse.mp hy)
  | erase t =>
    change _ ∈ (s.erase t).2 at h
    unfold erase at h
    split at h
    · simp only [List.mem_cons, Task.act.injEq, List.not_mem_nil, or_false] at h
      rcases h with rfl | rfl | rfl | rfl <;> rfl
    · exact absurd h List.not_mem_nil
  | release x =>
    change _ ∈ (s.release x).2 at h
    simp only [release] at h
    split at h
    · exact absurd h List.not_mem_nil
    · exact Task.act.inj (List.mem_singleton.mp h) ▸ rfl
  | _ =>
    simp only [expand, List.mem_cons, reduceCtorEq, Task.act.injEq, List.not_mem_nil, or_false,
      false_or] at h
    exact h ▸ rfl

end ServiceSessions

end TunnelBore.Publisher
