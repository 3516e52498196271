import TunnelBore.Lib.Run
import TunnelBore.Publisher.ServiceSession

namespace TunnelBore.Publisher

open TunnelBore.Lib

/-!
# A pair of sessions is cleaned up once

`close` looks at `active`, shuts the socket down and clears `active` in three blocks, so two
threads may both get past the first one, on one session or on both sides.  Whichever callback
runs last finds both sides inactive; it erases the entry, and what is called meanwhile comes back
at once.

* `Stage` — where a thread is: outside the callback, entering it, or erasing with `sessionGuard_`
  held, with nothing above the erasure that could lead out of it;
* `Orderly` — the invariant of the mutexes and stages;
* `Attended` — nothing is forgotten: an active session that was called has a `close` under way, an
  entry with two inactive sessions a callback;
* `session_pair_cleaned_once` — any number of threads close any sessions, in any interleaving.
-/

namespace ServiceSessions

variable {s s' : ServiceSessions} {held : List SessionMutex} {p : SessionProgram}

/-- A service between calls: no entry has two inactive sessions. -/
def Live (s : ServiceSessions) : Prop := ∀ t ∈ s.sessions, ¬s.Inactive t

theorem live_empty : Live {} := fun _ h => absurd h (Finset.notMem_empty _)

/-- A new pair is active. -/
theorem Live.emplace (h : s.Live) (t : String) : (s.emplace t).Live := by
  intro t' ht' hinactive
  have hout : (s.emplace t).active ⟨t', .outward⟩ = false := hinactive.2
  by_cases heq : t' = t
  · subst heq
    rw [show (s.emplace t').active ⟨t', .outward⟩ = true from Function.update_self ..] at hout
    cases hout
  · apply h t' ((Finset.mem_insert.mp ht').resolve_left heq)
    have hsame : ∀ side, (s.emplace t).active ⟨t', side⟩ = s.active ⟨t', side⟩ := by
      intro side
      have hne : ∀ side', (⟨t', side⟩ : ServiceSession) ≠ ⟨t, side'⟩ := by simp [heq]
      show Function.update (Function.update _ _ _) _ _ _ = _
      rw [Function.update_of_ne (hne _), Function.update_of_ne (hne _)]
    exact ⟨hsame .inward ▸ hinactive.1, hsame .outward ▸ hout⟩

/-! ### One task -/

/-- Inactive sessions stay inactive. -/
theorem inactive_perform {x : ServiceSession} (t : Task SessionMutex SessionAct)
    (h : s.active x = false) : (perform expand s t).1.active x = false := by
  cases t with
  | lock m => exact h
  | unlock m => exact h
  | act a =>
    show (s.expand a).1.active x = false
    rw [active_expand]
    split
    · next y =>
      by_cases hxy : x = y
      · rw [hxy, Function.update_self]
      · rw [Function.update_of_ne hxy, h]
    · exact h

/-- A session that is active was active before. -/
theorem active_of_perform {x : ServiceSession} {t : Task SessionMutex SessionAct}
    (h : (perform expand s t).1.active x = true) : s.active x = true := by
  by_contra hnot
  rw [inactive_perform t (Bool.not_eq_true _ ▸ hnot)] at h
  cases h

theorem Inactive.perform {t : String} (u : Task SessionMutex SessionAct) (h : s.Inactive t) :
    (perform expand s u).1.Inactive t :=
  ⟨inactive_perform u h.1, inactive_perform u h.2⟩

/-- An entry leaves the map only when it is erased. -/
theorem mem_sessions_perform {u : Task SessionMutex SessionAct} {t : String} :
    t ∈ (perform expand s u).1.sessions ↔ t ∈ s.sessions ∧ u ≠ .act (.erase t) := by
  cases u with
  | lock m => simp [perform]
  | unlock m => simp [perform]
  | act a =>
    show t ∈ (s.expand a).1.sessions ↔ _
    rw [sessions_expand]
    split
    · next t' =>
      rw [Finset.mem_erase, and_comm, Ne, Ne, Task.act.injEq, SessionAct.erase.injEq, eq_comm]
    · next hne =>
      refine (and_iff_left ?_).symm
      intro hu
      exact hne t (Task.act.inj hu)

/-! ### Stages -/

/-- A task that neither is in the callback nor erases. -/
def Plain : Task SessionMutex SessionAct → Prop
  | .act (.onCloseGuarded _) => False
  | .act (.erase _)          => False
  | _                        => True

/-- What runs between the callback's check and its erasure: the ends of the two pipes close
    sessions that are inactive. -/
def Inside (t : String) : Task SessionMutex SessionAct → Prop
  | .lock (.mutex _)     => True
  | .unlock (.mutex _)   => True
  | .act (.pipeClose x)  => x.tunnelId = t
  | .act (.close x)      => x.tunnelId = t
  | .act (.check x)      => x.tunnelId = t
  | .act (.release x)    => x.tunnelId = t
  | _                    => False

/-- Where a thread is. -/
inductive Stage (s : ServiceSessions) (held : List SessionMutex) : SessionProgram → Prop
  | outside {p : SessionProgram} (hp : ∀ u ∈ p, Plain u) : Stage s held p
  | entering {t : String} {p : SessionProgram} (hp : ∀ u ∈ p, Plain u) :
      Stage s held (.lock .sessionGuard :: .act (.onCloseGuarded t) :: p)
  | entered {t : String} {p : SessionProgram} (hheld : .sessionGuard ∈ held)
      (hp : ∀ u ∈ p, Plain u) : Stage s held (.act (.onCloseGuarded t) :: p)
  | erasing {t : String} {p pre post : SessionProgram} (hp : p = pre ++ .act (.erase t) :: post)
      (hheld : .sessionGuard ∈ held) (hmem : t ∈ s.sessions) (hinactive : s.Inactive t)
      (hpre : ∀ u ∈ pre, Inside t u) (hpost : ∀ u ∈ post, Plain u) : Stage s held p

/-- A thread that erases holds the mutex, and the entry is there with two inactive sessions. -/
theorem Stage.of_erase {t : String} (h : Stage s held (.act (.erase t) :: p)) :
    .sessionGuard ∈ held ∧ t ∈ s.sessions ∧ s.Inactive t := by
  cases h with
  | outside hp => exact (hp _ List.mem_cons_self).elim
  | @erasing t' _ pre _ hp hheld hmem hinactive hpre _ =>
    cases pre with
    | nil =>
      obtain ⟨heq, -⟩ := List.cons.inj hp
      obtain rfl : t = t' := by simpa using heq
      exact ⟨hheld, hmem, hinactive⟩
    | cons u pre =>
      obtain ⟨rfl, -⟩ := List.cons.inj hp
      exact (hpre _ List.mem_cons_self).elim

/-- What another thread does keeps a stage, unless it erases while the mutex is held. -/
theorem Stage.of_state (h : Stage s held p)
    (hsessions : .sessionGuard ∈ held → ∀ t ∈ s.sessions, t ∈ s'.sessions)
    (hinactive : ∀ t, s.Inactive t → s'.Inactive t) : Stage s' held p := by
  cases h with
  | outside hp => exact .outside hp
  | entering hp => exact .entering hp
  | entered hheld hp => exact .entered hheld hp
  | erasing hp hheld hmem hboth hpre hpost =>
    exact .erasing hp hheld (hsessions hheld _ hmem) (hinactive _ hboth) hpre hpost

/-- Outside the callback only `onClose` pushes something special. -/
theorem plain_pushed {a : SessionAct} (hclose : ∀ t, a ≠ .onClose t)
    (hguarded : ∀ t, a ≠ .onCloseGuarded t) : ∀ u ∈ (s.expand a).2, Plain u := by
  cases a with
  | handler x =>
    simp only [expand]
    split <;> simp [Plain]
  | check x =>
    simp only [expand]
    split <;> simp [Plain]
  | onClose t => exact absurd rfl (hclose t)
  | onCloseGuarded t => exact absurd rfl (hguarded t)
  | pipeClose x =>
    intro u hu
    rcases List.mem_append.mp hu with hu | hu <;>
    · obtain ⟨y, -, rfl⟩ := List.mem_map.mp hu
      trivial
  | erase t =>
    show ∀ u ∈ (s.erase t).2, Plain u
    unfold erase
    split <;> simp [Plain]
  | release x =>
    show ∀ u ∈ (s.release x).2, Plain u
    simp only [release]
    split <;> simp [Plain]
  | _ => simp [expand, Plain]

/-- What runs inside the callback stays inside: `close` finds its session inactive, and the entry
    keeps both sessions alive. -/
theorem Inside.perform {t : String} {u : Task SessionMutex SessionAct} (hu : Inside t u)
    (hheld : .sessionGuard ∈ held) (hmem : t ∈ s.sessions) (hinactive : s.Inactive t) :
    (∀ v ∈ (perform expand s u).2, Inside t v) ∧ .sessionGuard ∈ u.holding held := by
  cases u with
  | lock m => exact ⟨fun _ hv => absurd hv List.not_mem_nil, List.mem_cons_of_mem m hheld⟩
  | unlock m =>
    cases m with
    | mutex x =>
      exact ⟨fun _ hv => absurd hv List.not_mem_nil,
        (List.mem_erase_of_ne (by simp)).mpr hheld⟩
    | sessionGuard => exact hu.elim
  | act a =>
    refine ⟨?_, hheld⟩
    show ∀ v ∈ (s.expand a).2, Inside t v
    cases a with
    | close x =>
      obtain rfl : x.tunnelId = t := hu
      simp [expand, Inside]
    | check x =>
      obtain rfl : x.tunnelId = t := hu
      have hfalse : s.active x = false := by
        obtain ⟨t, side⟩ := x
        cases side with
        | inward => exact hinactive.1
        | outward => exact hinactive.2
      simp [expand, hfalse, Inside]
    | pipeClose x =>
      obtain rfl : x.tunnelId = t := hu
      have hend : ∀ y ∈ [x, x.other].filter s.alive, y.tunnelId = x.tunnelId := by
        intro y hy
        rcases List.mem_pair.mp (List.mem_of_mem_filter hy) with rfl | rfl <;> rfl
      intro v hv
      rcases List.mem_append.mp hv with hv | hv
      · obtain ⟨y, hy, rfl⟩ := List.mem_map.mp hv
        exact hend y hy
      · obtain ⟨y, hy, rfl⟩ := List.mem_map.mp hv
        exact hend y (List.mem_reverse.mp hy)
    | release x =>
      obtain rfl : x.tunnelId = t := hu
      show ∀ v ∈ (s.release x).2, Inside x.tunnelId v
      simp only [release]
      rw [if_pos (by simp [alive, hmem])]
      exact fun _ hv => absurd hv List.not_mem_nil
    | _ => exact hu.elim

/-- **One task and its thread.** -/
theorem Stage.perform {u : Task SessionMutex SessionAct} (h : Stage s held (u :: p)) :
    Stage (perform expand s u).1 (u.holding held) ((perform expand s u).2 ++ p) := by
  generalize hstack : u :: p = stack at h
  cases h with
  | outside hp =>
    subst hstack
    obtain ⟨hu, hrest⟩ := List.forall_mem_cons.mp hp
    cases u with
    | lock m => exact .outside hrest
    | unlock m => exact .outside hrest
    | act a =>
      by_cases hclose : ∃ t, a = .onClose t
      · -- the callback is entered
        obtain ⟨t, rfl⟩ := hclose
        exact .entering hrest
      · refine .outside (List.forall_mem_append.mpr ⟨plain_pushed ?_ ?_, hrest⟩)
        · exact fun t ht => hclose ⟨t, ht⟩
        · rintro t rfl
          exact hu
  | entering hp =>
    obtain ⟨rfl, rfl⟩ := List.cons.inj hstack
    exact .entered List.mem_cons_self hp
  | @entered t _ hheld hp =>
    obtain ⟨rfl, rfl⟩ := List.cons.inj hstack
    show Stage s held (((if _ then _ else _) ++ [.unlock .sessionGuard]) ++ _)
    split
    · next hboth =>
      -- the pipes of the entry are to be closed, then it is erased
      have hpre : ∀ u ∈ ([.act (.pipeClose ⟨t, .inward⟩), .act (.pipeClose ⟨t, .outward⟩)] :
          SessionProgram), Inside t u := by simp [Inside]
      have hpost : ∀ u ∈ (.unlock .sessionGuard :: p : SessionProgram), Plain u :=
        List.forall_mem_cons.mpr ⟨trivial, hp⟩
      exact .erasing rfl hheld hboth.1 hboth.2 hpre hpost
    · exact .outside (List.forall_mem_cons.mpr ⟨trivial, hp⟩)
  | @erasing t _ pre post hp hheld hmem hinactive hpre hpost =>
    rw [hp] at hstack
    cases pre with
    | nil =>
      obtain ⟨rfl, rfl⟩ := List.cons.inj hstack
      have hpushed : ∀ v ∈ (s.expand (.erase t)).2, Plain v := plain_pushed (by simp) (by simp)
      exact .outside (List.forall_mem_append.mpr ⟨hpushed, hpost⟩)
    | cons v pre =>
      obtain ⟨rfl, rfl⟩ := List.cons.inj hstack
      obtain ⟨hu, hpre⟩ := List.forall_mem_cons.mp hpre
      obtain ⟨hpushed, hkeep⟩ := hu.perform hheld hmem hinactive
      refine .erasing (List.append_assoc ..).symm hkeep ?_ (hinactive.perform u)
        (List.forall_mem_append.mpr ⟨hpushed, hpre⟩) hpost
      refine mem_sessions_perform.mpr ⟨hmem, ?_⟩
      rintro rfl
      exact hu

end ServiceSessions

/-! ### All threads -/

/-- Threads in one service. -/
abbrev SessionThreads (ι : Type*) := Threads ι ServiceSessions SessionMutex SessionAct

namespace SessionThreads

open ServiceSessions

variable {ι : Type*} [DecidableEq ι] [Fintype ι] {c c' : SessionThreads ι} {i : ι}
variable {s : ServiceSessions} {x : ServiceSession} {t : String}

/-- The mutexes have one holder, every thread is at a stage, and only the pipes of inactive pairs
    are closed. -/
structure Orderly (c : SessionThreads ι) : Prop where
  exclusive : c.Exclusive
  stages : ∀ i, Stage c.state (c.held i) (c.stack i)
  pipes : ∀ x, c.Pending (.act (.pipeClose x)) → c.state.Inactive x.tunnelId

omit [DecidableEq ι] [Fintype ι] in
/-- A thread that erases is alone in doing so, and right to do so. -/
theorem Orderly.of_erase {ts : SessionProgram} (hc : c.Orderly)
    (hstack : c.stack i = .act (.erase t) :: ts) :
    (∀ j, .sessionGuard ∈ c.held j → j = i) ∧ t ∈ c.state.sessions ∧ c.state.Inactive t := by
  obtain ⟨hheld, hmem, hinactive⟩ := (hstack ▸ hc.stages i).of_erase
  exact ⟨fun j hj => hc.exclusive j i _ hj hheld, hmem, hinactive⟩

omit [DecidableEq ι] [Fintype ι] in
/-- Closing a pipe is decided on when both sessions are inactive. -/
theorem Orderly.pipeClose_pushed {u : Task SessionMutex SessionAct} {ts : SessionProgram}
    (hc : c.Orderly) (hstack : c.stack i = u :: ts)
    (hpushed : .act (.pipeClose x) ∈ (perform expand c.state u).2) :
    c.state.Inactive x.tunnelId := by
  cases u with
  | lock m => exact absurd hpushed List.not_mem_nil
  | unlock m => exact absurd hpushed List.not_mem_nil
  | act a =>
    have htunnel := tunnelId_of_pushed _ hpushed
    change _ ∈ (c.state.expand a).2 at hpushed
    cases a with
    | onCloseGuarded t =>
      obtain rfl : x.tunnelId = t := htunnel
      simp only [expand] at hpushed
      split at hpushed
      · next hboth => exact hboth.2
      · simp at hpushed
    | erase t =>
      obtain rfl : x.tunnelId = t := htunnel
      exact (hc.of_erase hstack).2.2
    | handler y =>
      simp only [expand] at hpushed
      split at hpushed <;> simp at hpushed
    | check y =>
      simp only [expand] at hpushed
      split at hpushed <;> simp at hpushed
    | pipeClose y => simp [expand, ServiceSessions.pipeClose] at hpushed
    | release y =>
      simp only [expand, release] at hpushed
      split at hpushed <;> simp at hpushed
    | _ => simp [expand] at hpushed

/-- **One step of one thread.** -/
theorem Orderly.step (hc : c.Orderly) (h : c.step expand i = some c') : c'.Orderly := by
  obtain ⟨u, ts, hpops⟩ := Threads.step_pops h
  have hinactive : ∀ t, c.state.Inactive t → c'.state.Inactive t := by
    intro t ht
    rw [hpops.state']
    exact ht.perform u
  refine ⟨hc.exclusive.step h, ?_, fun x hx => ?_⟩
  · apply hpops.forall_threads (P := fun _ p held => Stage c'.state held p)
    · rw [hpops.state']
      exact (hpops.stack ▸ hc.stages i).perform
    · -- the entry another thread is about to erase stays, as that thread holds the mutex
      intro j hj
      refine (hc.stages j).of_state (fun hheld t ht => ?_) hinactive
      rw [hpops.state', mem_sessions_perform]
      refine ⟨ht, ?_⟩
      rintro rfl
      exact hj ((hc.of_erase hpops.stack).1 j hheld)
  · rcases hpops.pending_cases hx with hpushed | hpending
    · exact hinactive _ (hc.pipeClose_pushed hpops.stack hpushed)
    · exact hinactive _ (hc.pipes x hpending)

/-! ### Nothing is forgotten -/

/-- The parts of a `close` up to the moment in which the session is inactive. -/
def closingActs (x : ServiceSession) : List SessionAct :=
  [.handler x, .close x, .check x, .shutdown x, .deactivate x]

/-- The parts of the callback up to the moment in which the entry is gone. -/
def notifyingActs (t : String) : List SessionAct := [.onClose t, .onCloseGuarded t, .erase t]

/-- A called session that is still active is being closed, and the callback is under way for an
    entry with two inactive sessions. -/
structure Attended (called : ServiceSession → Prop) (c : SessionThreads ι) : Prop where
  closing : ∀ x, called x → x.tunnelId ∈ c.state.sessions → c.state.active x = true →
    ∃ a ∈ closingActs x, c.Pending (.act a)
  notifying : ∀ t ∈ c.state.sessions, c.state.Inactive t →
    ∃ a ∈ notifyingActs t, c.Pending (.act a)

/-- One part of a `close` is followed by the next one, or the session is inactive. -/
theorem closing_pushed {a : SessionAct} (ha : a ∈ closingActs x) (hmem : x.tunnelId ∈ s.sessions)
    (hactive : (s.expand a).1.active x = true) :
    ∃ b ∈ closingActs x, .act b ∈ (s.expand a).2 := by
  have hbefore : s.active x = true := active_of_perform (t := .act a) hactive
  simp only [closingActs, List.mem_cons, List.not_mem_nil, or_false] at ha
  rcases ha with rfl | rfl | rfl | rfl | rfl
  · have halive : s.alive x = true := by simp [alive, hmem]
    exact ⟨.close x, by simp [closingActs], by simp [expand, halive]⟩
  · exact ⟨.check x, by simp [closingActs], by simp [expand]⟩
  · exact ⟨.shutdown x, by simp [closingActs], by simp [expand, hbefore]⟩
  · exact ⟨.deactivate x, by simp [closingActs], by simp [expand]⟩
  · -- the last part makes the session inactive
    have hafter : (s.expand (.deactivate x)).1.active x = false := Function.update_self ..
    rw [hafter] at hactive
    cases hactive

/-- One part of the callback is followed by the next one, or the entry is gone. -/
theorem notifying_pushed {a : SessionAct} (ha : a ∈ notifyingActs t)
    (hmem : t ∈ (s.expand a).1.sessions) (hinactive : s.Inactive t) :
    ∃ b ∈ notifyingActs t, .act b ∈ (s.expand a).2 := by
  simp only [notifyingActs, List.mem_cons, List.not_mem_nil, or_false] at ha
  rcases ha with rfl | rfl | rfl
  · exact ⟨.onCloseGuarded t, by simp [notifyingActs], by simp [expand]⟩
  · have hfound : t ∈ s.sessions := hmem
    exact ⟨.erase t, by simp [notifyingActs], by simp [expand, hfound, hinactive]⟩
  · rw [sessions_expand] at hmem
    exact absurd hmem (Finset.notMem_erase t _)

/-- A pair becomes inactive when one of its sessions is deactivated, and then the callback is
    called. -/
theorem onClose_pushed {u : Task SessionMutex SessionAct} (hbefore : ¬s.Inactive t)
    (hafter : (perform expand s u).1.Inactive t) : .act (.onClose t) ∈ (perform expand s u).2 := by
  cases u with
  | lock m => exact absurd hafter hbefore
  | unlock m => exact absurd hafter hbefore
  | act a =>
    by_cases hdeactivate : ∃ y, a = .deactivate y
    · obtain ⟨y, rfl⟩ := hdeactivate
      have hy : y.tunnelId = t := by
        -- a session of another pair leaves this one as it was
        by_contra hne
        have hsame : ∀ side, (s.expand (.deactivate y)).1.active ⟨t, side⟩ =
            s.active ⟨t, side⟩ := by
          intro side
          rw [active_expand]
          apply Function.update_of_ne
          rintro rfl
          exact hne rfl
        exact hbefore ⟨hsame .inward ▸ hafter.1, hsame .outward ▸ hafter.2⟩
      subst hy
      show _ ∈ (s.expand (.deactivate y)).2
      simp [expand]
    · have hsame : (s.expand a).1.active = s.active := by
        rw [active_expand]
        split
        · next y => exact absurd ⟨y, rfl⟩ hdeactivate
        · rfl
      change (s.expand a).1.Inactive t at hafter
      unfold Inactive at hafter
      rw [hsame] at hafter
      exact absurd hafter hbefore

/-- **Nothing is forgotten** in one step of one thread. -/
theorem Attended.step {called : ServiceSession → Prop} (hc : c.Attended called)
    (h : c.step expand i = some c') : c'.Attended called := by
  obtain ⟨u, ts, hpops⟩ := Threads.step_pops h
  refine ⟨fun x hx hmem hactive => ?_, fun t hmem hinactive => ?_⟩
  · rw [hpops.state'] at hmem hactive
    have hmem' := (mem_sessions_perform.mp hmem).1
    have hactive' : c.state.active x = true := active_of_perform hactive
    obtain ⟨a, ha, hpending⟩ := hc.closing x hx hmem' hactive'
    by_cases hu : Task.act a = u
    · -- this part is done, so the next one is pending
      subst hu
      obtain ⟨b, hb, hpushed⟩ := closing_pushed ha hmem' hactive
      exact ⟨b, hb, hpops.pending_pushed hpushed⟩
    · exact ⟨a, ha, hpops.pending_of_ne hpending hu⟩
  · rw [hpops.state'] at hmem hinactive
    by_cases hbefore : c.state.Inactive t
    · obtain ⟨a, ha, hpending⟩ := hc.notifying t (mem_sessions_perform.mp hmem).1 hbefore
      by_cases hu : Task.act a = u
      · subst hu
        obtain ⟨b, hb, hpushed⟩ := notifying_pushed ha hmem hbefore
        exact ⟨b, hb, hpops.pending_pushed hpushed⟩
      · exact ⟨a, ha, hpops.pending_of_ne hpending hu⟩
    · -- the second session of the pair has just become inactive
      exact ⟨.onClose t, by simp [notifyingActs],
        hpops.pending_pushed (onClose_pushed hbefore hinactive)⟩

/-! ### The record -/

/-- What has become of the entries of `s`: each is recorded as erased exactly if it is gone, and
    it went, and its pipes were closed, with both sessions inactive. -/
structure Ledger (s : ServiceSessions) (c : SessionThreads ι) : Prop where
  once : ∀ t, c.state.effects.count (.erase t true) + (if t ∈ c.state.sessions then 1 else 0) =
    s.effects.count (.erase t true) + if t ∈ s.sessions then 1 else 0
  valid : ∀ t, c.state.effects.count (.erase t false) = s.effects.count (.erase t false)
  pipes : ∀ x, .pipeClose x ∈ c.state.effects →
    .pipeClose x ∈ s.effects ∨ c.state.Inactive x.tunnelId
  gone : ∀ t ∈ s.sessions, t ∉ c.state.sessions → c.state.Inactive t

omit [DecidableEq ι] [Fintype ι] in
theorem ledger_start (c : SessionThreads ι) : Ledger c.state c where
  once _ := rfl
  valid _ := rfl
  pipes _ := .inl
  gone _ hmem hgone := absurd hmem hgone

omit [DecidableEq ι] [Fintype ι] in
/-- What an act adds to the record; an erasure finds its entry. -/
theorem Orderly.newEffects_cases {a : SessionAct} {ts : SessionProgram} (hc : c.Orderly)
    (hstack : c.stack i = .act a :: ts) :
    c.state.newEffects a = [] ∨ (∃ x, c.state.newEffects a = [.shutdown x]) ∨
      (∃ x, a = .pipeClose x ∧ c.state.newEffects a = [.pipeClose x]) ∨
      ∃ t, a = .erase t ∧ c.state.newEffects a = [.erase t true] := by
  cases a with
  | shutdown x => exact .inr (.inl ⟨x, rfl⟩)
  | pipeClose x => exact .inr (.inr (.inl ⟨x, rfl, rfl⟩))
  | erase t =>
    refine .inr (.inr (.inr ⟨t, rfl, ?_⟩))
    have hmem := (hc.of_erase hstack).2.1
    simp only [newEffects, hmem, decide_true]
  | _ => exact .inl rfl

omit [DecidableEq ι] [Fintype ι] in
/-- One act erases an entry exactly if it records it so. -/
theorem Orderly.erase_accounted {a : SessionAct} {ts : SessionProgram} (hc : c.Orderly)
    (hstack : c.stack i = .act a :: ts) (t : String) :
    (c.state.newEffects a).count (.erase t true) +
      (if t ∈ (c.state.expand a).1.sessions then 1 else 0) =
        if t ∈ c.state.sessions then 1 else 0 := by
  by_cases ha : a = .erase t
  · -- the entry goes, and is recorded
    subst ha
    have hmem := (hc.of_erase hstack).2.1
    have hgone : t ∉ (c.state.expand (.erase t)).1.sessions := by
      rw [sessions_expand]
      exact Finset.notMem_erase t _
    rw [if_pos hmem, if_neg hgone]
    simp [newEffects, hmem]
  · -- it stays where it is, and no erasure of it is recorded
    have hzero : (c.state.newEffects a).count (.erase t true) = 0 := by
      rcases hc.newEffects_cases hstack with hnew | ⟨x, hnew⟩ | ⟨x, -, hnew⟩ | ⟨t', rfl, hnew⟩
      · simp [hnew]
      · simp [hnew]
      · simp [hnew]
      · have hne : t' ≠ t := fun heq => ha (heq ▸ rfl)
        simp [hnew, hne]
    have hsame : t ∈ (c.state.expand a).1.sessions ↔ t ∈ c.state.sessions := by
      refine Iff.trans (mem_sessions_perform (u := .act a)) (and_iff_left ?_)
      exact fun heq => ha (Task.act.inj heq)
    rw [hzero, Nat.zero_add]
    simp only [hsame]

theorem Ledger.step (hl : Ledger s c) (hc : c.Orderly) (h : c.step expand i = some c') :
    Ledger s c' := by
  obtain ⟨u, ts, hpops⟩ := Threads.step_pops h
  have hinactive : ∀ t, c.state.Inactive t → c'.state.Inactive t := by
    intro t ht
    rw [hpops.state']
    exact ht.perform u
  have hquiet : c'.state = c.state → Ledger s c' := by
    intro hsame
    exact ⟨hsame ▸ hl.once, hsame ▸ hl.valid, hsame ▸ hl.pipes, hsame ▸ hl.gone⟩
  cases u with
  | lock m => exact hquiet hpops.state'
  | unlock m => exact hquiet hpops.state'
  | act a =>
    have hstate : c'.state = (c.state.expand a).1 := hpops.state'
    have heffects : c'.state.effects = c.state.effects ++ c.state.newEffects a := by
      rw [hstate, effects_expand]
    have hsessions : ∀ t, t ∈ c'.state.sessions ↔ t ∈ c.state.sessions ∧ a ≠ .erase t := by
      intro t
      rw [hpops.state', mem_sessions_perform]
      simp
    -- what is erased is in the map
    have hfound : ∀ t, a = .erase t → t ∈ c.state.sessions ∧ c.state.Inactive t := by
      rintro t rfl
      exact (hc.of_erase hpops.stack).2
    have hnew := hc.newEffects_cases hpops.stack
    refine ⟨fun t => ?_, fun t => ?_, fun x hx => ?_, fun t hmem hgone => ?_⟩
    · have honce := hl.once t
      have haccounted := hc.erase_accounted hpops.stack t
      rw [← hstate] at haccounted
      rw [heffects, List.count_append]
      omega
    · have hzero : (c.state.newEffects a).count (.erase t false) = 0 := by
        rcases hnew with hnew | ⟨x, hnew⟩ | ⟨x, -, hnew⟩ | ⟨t', -, hnew⟩ <;> simp [hnew]
      rw [heffects, List.count_append, hzero, Nat.add_zero, hl.valid]
    · rw [heffects] at hx
      rcases List.mem_append.mp hx with hx | hx
      · exact (hl.pipes x hx).imp_right (hinactive _)
      · rcases hnew with hnew | ⟨y, hnew⟩ | ⟨y, rfl, hnew⟩ | ⟨t, -, hnew⟩
        · simp [hnew] at hx
        · simp [hnew] at hx
        · -- only pipes of inactive pairs are pending
          obtain rfl : x = y := by simpa [hnew] using hx
          exact .inr (hinactive _ (hc.pipes x hpops.pending_top))
        · simp [hnew] at hx
    · by_cases hbefore : t ∈ c.state.sessions
      · have ha : a = .erase t := by
          by_contra hne
          exact hgone ((hsessions t).mpr ⟨hbefore, hne⟩)
        exact hinactive t (hfound t ha).2
      · exact hinactive t (hl.gone t hmem hbefore)

/-! ### Other tunnels -/

/-- Nothing about the tunnel has changed: its entry, its sessions and what was done to them and
    their pipes. -/
structure Untouched (t : String) (s s' : ServiceSessions) : Prop where
  entry : t ∈ s'.sessions ↔ t ∈ s.sessions
  active : ∀ side, s'.active ⟨t, side⟩ = s.active ⟨t, side⟩
  effects : s'.effects.filter (fun e => e.tunnelId = t) = s.effects.filter fun e => e.tunnelId = t

theorem Untouched.expand {s₀ : ServiceSessions} {a : SessionAct} (h : Untouched t s₀ s)
    (ha : a.tunnelId ≠ t) : Untouched t s₀ (s.expand a).1 where
  entry := by
    rw [← h.entry, sessions_expand]
    split
    · next t' => exact (Finset.mem_erase.trans (and_iff_right (Ne.symm ha)))
    · exact Iff.rfl
  active side := by
    rw [← h.active, active_expand]
    split
    · next y =>
      apply Function.update_of_ne
      rintro rfl
      exact ha rfl
    · rfl
  effects := by
    have hnew : (s.newEffects a).filter (fun e => e.tunnelId = t) = [] := by
      rw [List.filter_eq_nil_iff]
      intro e he
      have htunnel : e.tunnelId = a.tunnelId := by
        unfold newEffects at he
        split at he
        · exact List.mem_singleton.mp he ▸ rfl
        · exact List.mem_singleton.mp he ▸ rfl
        · exact List.mem_singleton.mp he ▸ rfl
        · exact absurd he List.not_mem_nil
      simpa [htunnel] using ha
    rw [effects_expand, List.filter_append, hnew, List.append_nil, h.effects]

/-- No thread has anything to do with the tunnel. -/
structure Apart (t : String) (s : ServiceSessions) (c : SessionThreads ι) : Prop where
  untouched : Untouched t s c.state
  acts : ∀ a, c.Pending (.act a) → a.tunnelId ≠ t

theorem Apart.step (hc : Apart t s c) (h : c.step expand i = some c') : Apart t s c' := by
  obtain ⟨u, ts, hpops⟩ := Threads.step_pops h
  have hu : ∀ a, u = .act a → a.tunnelId ≠ t := by
    rintro a rfl
    exact hc.acts a hpops.pending_top
  refine ⟨?_, fun b hb => ?_⟩
  · rw [hpops.state']
    cases u with
    | lock m => exact hc.untouched
    | unlock m => exact hc.untouched
    | act a => exact hc.untouched.expand (hu a rfl)
  · rcases hpops.pending_cases hb with hpushed | hpending
    · cases u with
      | lock m => exact absurd hpushed List.not_mem_nil
      | unlock m => exact absurd hpushed List.not_mem_nil
      | act a => exact tunnelId_of_pushed _ hpushed ▸ hu a rfl
    · exact hc.acts b hpending

end SessionThreads

/-! ### Any number of calls -/

namespace ServiceSessions

open SessionThreads

variable {ι : Type*} [DecidableEq ι] [Fintype ι] {s : ServiceSessions}
variable {calls : ι → List ServiceSession} {schedule : List ι} {c : SessionThreads ι}

/-- Each thread is about to close the sessions of its list, one after the other. -/
def calling (s : ServiceSessions) (calls : ι → List ServiceSession) : SessionThreads ι where
  state := s
  stack i := (calls i).map fun x => .act (.handler x)
  held _ := []

omit [DecidableEq ι] [Fintype ι] in
theorem pending_calling {a : SessionAct} :
    (s.calling calls).Pending (.act a) ↔ ∃ x, (∃ i, x ∈ calls i) ∧ a = .handler x := by
  constructor
  · rintro ⟨i, hi⟩
    obtain ⟨x, hx, heq⟩ := List.mem_map.mp hi
    exact ⟨x, ⟨i, hx⟩, (Task.act.inj heq).symm⟩
  · rintro ⟨x, ⟨i, hx⟩, rfl⟩
    exact ⟨i, List.mem_map.mpr ⟨x, hx, rfl⟩⟩

omit [DecidableEq ι] [Fintype ι] in
theorem orderly_calling : (s.calling calls).Orderly where
  exclusive _ _ _ h _ := absurd h List.not_mem_nil
  stages i := by
    refine .outside fun u hu => ?_
    obtain ⟨x, -, rfl⟩ := List.mem_map.mp hu
    trivial
  pipes x h := by
    obtain ⟨y, -, hy⟩ := pending_calling.mp h
    cases hy

omit [DecidableEq ι] [Fintype ι] in
theorem Live.attended (h : s.Live) : (s.calling calls).Attended fun x => ∃ i, x ∈ calls i where
  closing x hx _ _ := ⟨.handler x, List.mem_cons_self, pending_calling.mpr ⟨x, hx, rfl⟩⟩
  notifying t ht hinactive := absurd hinactive (h t ht)

/-- What the calls have made of an entry: it is erased at most once, when both sessions are
    inactive, and its pipes are closed only then; and when all calls have returned and each
    session has been closed, it is gone. -/
structure CleanedOnce (s : ServiceSessions) (calls : ι → List ServiceSession) (t : String)
    (c : SessionThreads ι) : Prop where
  once : c.state.effects.count (.erase t true) + (if t ∈ c.state.sessions then 1 else 0) =
    s.effects.count (.erase t true) + 1
  valid : c.state.effects.count (.erase t false) = s.effects.count (.erase t false)
  inactive : ∀ i c', c.step expand i = some c' → t ∈ c.state.sessions →
    t ∉ c'.state.sessions → c.state.Inactive t
  pipes : ∀ side, .pipeClose ⟨t, side⟩ ∈ c.state.effects →
    .pipeClose ⟨t, side⟩ ∈ s.effects ∨ c.state.Inactive t
  done : (∀ i, c.stack i = []) →
    (∀ side, s.active ⟨t, side⟩ = false ∨ ∃ i, ⟨t, side⟩ ∈ calls i) → t ∉ c.state.sessions

/-- **The session pair is cleaned up once.**  Whatever sessions any number of threads close and
    however they are interleaved: each entry is erased at most once and only with both sessions
    inactive, tunnels none of whose sessions is closed are left alone with their pipes, and when
    all calls have returned, no entry has two inactive sessions. -/
theorem session_pair_cleaned_once (hlive : s.Live)
    (hrun : run (Threads.step expand) (s.calling calls) schedule = some c) :
    (∀ t ∈ s.sessions, CleanedOnce s calls t c) ∧
      (∀ t, (∀ i, ∀ x ∈ calls i, x.tunnelId ≠ t) → Untouched t s c.state) ∧
      ((∀ i, c.stack i = []) → c.state.Live) := by
  obtain ⟨horderly, hledger⟩ := run_preserves (I := fun c => c.Orderly ∧ Ledger s c)
    (fun _ _ _ hc hstep => ⟨hc.1.step hstep, hc.2.step hc.1 hstep⟩)
    ⟨orderly_calling, ledger_start (s.calling calls)⟩ hrun
  have hattended := run_preserves (I := Attended fun x => ∃ i, x ∈ calls i)
    (fun _ _ _ hc hstep => hc.step hstep) hlive.attended hrun
  -- with empty stacks nothing is under way any more
  have hidle : (∀ i, c.stack i = []) → ∀ u, ¬c.Pending u := by
    rintro hempty u ⟨i, hu⟩
    rw [hempty] at hu
    exact absurd hu List.not_mem_nil
  have hreturned : (∀ i, c.stack i = []) → c.state.Live := by
    intro hempty t ht hinactive
    obtain ⟨a, -, hpending⟩ := hattended.notifying t ht hinactive
    exact hidle hempty _ hpending
  refine ⟨fun t ht => ⟨?_, hledger.valid t, ?_, fun side => hledger.pipes ⟨t, side⟩, ?_⟩, ?_,
    hreturned⟩
  · have honce := hledger.once t
    rwa [if_pos ht] at honce
  · intro i c' hstep hmem hgone
    obtain ⟨u, ts, hpops⟩ := Threads.step_pops hstep
    rw [hpops.state', mem_sessions_perform, not_and_not_right] at hgone
    obtain rfl := hgone hmem
    exact (horderly.of_erase hpops.stack).2.2
  · intro hempty hclosed hmem
    refine hreturned hempty t hmem ?_
    have hinactive : ∀ side, c.state.active ⟨t, side⟩ = false := by
      intro side
      by_contra hactive
      rw [Bool.not_eq_false] at hactive
      rcases hclosed side with hbefore | hcalled
      · have hstays := run_preserves (I := fun c => c.state.active ⟨t, side⟩ = false)
          (fun c i c' hc hstep => by
            obtain ⟨u, ts, hpops⟩ := Threads.step_pops hstep
            rw [hpops.state']
            exact inactive_perform u hc) hbefore hrun
        rw [hstays] at hactive
        cases hactive
      · obtain ⟨a, -, hpending⟩ := hattended.closing ⟨t, side⟩ hcalled hmem hactive
        exact hidle hempty _ hpending
    exact ⟨hinactive .inward, hinactive .outward⟩
  · intro t huncalled
    have hapart := run_preserves (I := Apart t s) (fun _ _ _ hc hstep => hc.step hstep)
      ⟨⟨Iff.rfl, fun _ => rfl, rfl⟩, fun a ha => ?_⟩ hrun
    · exact hapart.untouched
    · obtain ⟨x, ⟨i, hx⟩, rfl⟩ := pending_calling.mp ha
      exact huncalled i x hx

/-- Two tunnels with new sessions. -/
def twoTunnels : ServiceSessions := (emplace {} "a").emplace "b"

/-- Two threads close one side of the first tunnel each, and get past the first block together. -/
def closeBoth : Bool → List ServiceSession
  | false => [⟨"a", .inward⟩]
  | true  => [⟨"a", .outward⟩]

/-- Both sessions are deactivated before either callback runs. -/
def scheduleTogether : List Bool :=
  List.replicate 11 false ++ List.replicate 70 true ++ List.replicate 12 false

theorem session_pair_cleaned_once_together :
    ∃ c, run (Threads.step expand) (twoTunnels.calling closeBoth) scheduleTogether = some c ∧
      "a" ∉ c.state.sessions ∧ c.state.effects.count (.erase "a" true) = 1 ∧
      Untouched "b" twoTunnels c.state := by
  have hreturns : (run (Threads.step expand) (twoTunnels.calling closeBoth) scheduleTogether).map
      (fun c => (c.stack false, c.stack true)) = some ([], []) := by decide +kernel
  obtain ⟨c, hrun, hstacks⟩ := Option.map_eq_some_iff.mp hreturns
  obtain ⟨hfirst, hsecond⟩ := Prod.mk.inj hstacks
  have hlive : twoTunnels.Live := (live_empty.emplace "a").emplace "b"
  obtain ⟨hcleaned, huntouched, -⟩ := session_pair_cleaned_once hlive hrun
  have ha := hcleaned "a" (by decide)
  have hgone : "a" ∉ c.state.sessions := by
    apply ha.done
    · intro i
      cases i with
      | false => exact hfirst
      | true => exact hsecond
    · intro side
      cases side with
      | inward => exact .inr ⟨false, List.mem_singleton_self _⟩
      | outward => exact .inr ⟨true, List.mem_singleton_self _⟩
  have honce := ha.once
  rw [if_neg hgone] at honce
  refine ⟨c, hrun, hgone, honce, huntouched "b" fun i x hx => ?_⟩
  cases i with
  | false => exact List.mem_singleton.mp hx ▸ by decide
  | true => exact List.mem_singleton.mp hx ▸ by decide

end ServiceSessions

end TunnelBore.Publisher
