import TunnelBore.Broker.Connect
import TunnelBore.Lib.Threads

namespace TunnelBore.Broker

open TunnelBore.Lib

/-!
# Two threads in one service

The io context runs on a pool of threads and the handlers of a session have no strand, so two
calls into the same service run side by side.  `Service.twoCalls` is the state in which two
threads have just made their calls; they are interleaved task by task.

* `paired_guard` — every function releases the mutexes it takes;
* `pushed_special` — which function takes a mutex, and which one can destroy a session;
* `Owned` — a session that somebody outside the two calls owns: it is not destroyed, whatever
  they do (`Owned.perform`).
-/

/-- The mutex with which an act is entered. -/
def Act.guard : Act → Option Mutex
  | .closeGuarded id           => some (.closeLock id)
  | .closeTunnelSideGuarded .. => some .sessionGuard
  | .connectTunnelsGuarded ..  => some .sessionGuard
  | _                          => none

/-- An act that is entered without a mutex and is no part of a destructor. -/
def Act.plain : Act → Bool
  | .destroy _ => false
  | .free _    => false
  | a          => a.guard.isNone

/-- The calls another thread makes into the service. -/
inductive Call
  | close (id : TunnelId)
  | closeTunnelSide (id : TunnelId) (wasPreclosed : Bool)
  | connectTunnels (client publisher : TunnelId)
  deriving DecidableEq, Repr

/-- The function called. -/
def Call.act : Call → Act
  | .close id                        => .close id
  | .closeTunnelSide id wasPreclosed => .closeTunnelSide id wasPreclosed
  | .connectTunnels client publisher => .connectTunnels client publisher

/-- Two threads in a service. -/
abbrev CallThreads := Threads Bool Service Mutex Act

namespace Service

variable {s s' : Service} {id : TunnelId}

/-- One thread has called `first`, the other one `second`. -/
def twoCalls (s : Service) (first second : Call) : CallThreads where
  state := s
  stack i := [.act (if i then second else first).act]
  held _ := []

/-! ### Mutexes -/

/-- A stack of such acts. -/
def Plain (p : Program) : Prop := ∀ t ∈ p, ∃ a : Act, t = .act a ∧ a.plain = true

/-- The bodies of these functions: a call that takes a mutex and goes on with it, a body that
    takes none, one that releases the mutex it was entered with, a destructor that has to run,
    and the destructor. -/
inductive Shape (a : Act) : Service × Program → Prop
  | entry {s' : Service} {n : Mutex} {b : Act} (ha : a.guard = none) (hb : b.guard = some n)
      (hn : n = .sessionGuard ∨ ∃ id, a = .close id ∧ n = .closeLock id) :
      Shape a (s', [.lock n, .act b])
  | plain {s' : Service} {p : Program} (ha : a.guard = none) (hp : Plain p) : Shape a (s', p)
  | body {s' : Service} {n : Mutex} {p q : Program} (ha : a.guard = some n) (hp : Plain p)
      (hq : Plain q) : Shape a (s', p ++ .unlock n :: q)
  | unowned {s' : Service} {id : TunnelId} (ha : a = .release id ∨ a = .erase id)
      (hdead : s'.alive id = false) : Shape a (s', [.act (.destroy id)])
  | destructor {s' : Service} {id : TunnelId} (ha : a = .destroy id) :
      Shape a (s', [.act (.close id), .act (.free id)])

theorem plain_nil : Plain [] := fun _ h => absurd h List.not_mem_nil

theorem DropsPipe.plain {p : Program} (hp : s.DropsPipe id p) : Plain p := by
  rcases hp with ⟨-, rfl⟩ | ⟨other, -, rfl⟩ <;> simp [Plain, Act.plain, Act.guard]

theorem shape_destroyIfUnowned {a : Act} (ha : a = .release id ∨ a = .erase id) :
    Shape a (s, s.destroyIfUnowned id) := by
  unfold destroyIfUnowned
  split
  · next hdead => exact .unowned ha (by simpa using hdead.2)
  · refine .plain ?_ plain_nil
    rcases ha with rfl | rfl <;> rfl

/-- **What a function pushes.** -/
theorem shape_expand (s : Service) (a : Act) : Shape a (s.expand a) := by
  have hout : Outcome s (.act a) (s.expand a) := outcome s (.act a)
  generalize s.expand a = result at hout ⊢
  cases hout with
  | close id => exact .entry rfl rfl (.inr ⟨id, rfl, rfl⟩)
  | closeTunnelSide => exact .entry rfl rfl (.inl rfl)
  | connectTunnels => exact .entry rfl rfl (.inl rfl)
  | wasClosed => exact .body (p := []) rfl plain_nil plain_nil
  | closes _ _ hpipe =>
    refine .body rfl ?_ (by simp [Plain, Act.plain, Act.guard])
    rcases hpipe with rfl | ⟨other, -, rfl⟩ <;> simp [Plain, Act.plain, Act.guard]
  | sideGone => exact .body (p := []) rfl plain_nil plain_nil
  | @sideFound id pre =>
    rw [← List.singleton_append (l := [Task.unlock Mutex.sessionGuard]), ← List.append_assoc]
    exact .body rfl (by cases pre <;> simp [Plain, Act.plain, Act.guard]) plain_nil
  | @clientGone _ publisher =>
    exact .body (p := [.act (.closeTunnelSide publisher false)]) rfl
      (by simp [Plain, Act.plain, Act.guard]) plain_nil
  | @publisherGone client =>
    exact .body (p := [.act (.closeTunnelSide client false)]) rfl
      (by simp [Plain, Act.plain, Act.guard]) plain_nil
  | @link client publisher =>
    exact .body
      (p := [.act (.linkHalf client publisher), .act (.linkHalf publisher client)]) rfl
      (by simp [Plain, Act.plain, Act.guard]) plain_nil
  | pipeClose =>
    refine .plain rfl fun t ht => ?_
    rcases List.mem_append.mp ht with ht | ht
    · obtain ⟨j, -, rfl⟩ := List.mem_map.mp ht
      exact ⟨.close j, rfl, rfl⟩
    · obtain ⟨j, -, rfl⟩ := List.mem_map.mp ht
      exact ⟨.release j, rfl, rfl⟩
  | pipeAssign hp => exact .plain rfl hp.plain
  | free hp => exact .plain rfl hp.plain
  | release => exact shape_destroyIfUnowned (.inl rfl)
  | erase => exact shape_destroyIfUnowned (.inr rfl)
  | destroy => exact .destructor rfl
  | pipeReset => exact .plain rfl (by simp [Plain, Act.plain, Act.guard])
  | linkPipe => exact .plain rfl (by simp [Plain, Act.plain, Act.guard])
  | noPipe => exact .plain rfl plain_nil
  | notOwned => exact .plain rfl plain_nil
  | eraseInvalid => exact .plain rfl plain_nil
  | linkMissing => exact .plain rfl plain_nil
  | linkWrite => exact .plain rfl plain_nil
  | linkDead => exact .plain rfl plain_nil

theorem guard_of_plain {a : Act} (h : a.plain = true) : a.guard = none := by
  cases a <;> first | rfl | cases h

theorem Plain.unguarded {p : Program} (hp : Plain p) :
    ∀ t ∈ p, ∃ a : Act, t = .act a ∧ a.guard = none := by
  intro t ht
  obtain ⟨a, rfl, ha⟩ := hp t ht
  exact ⟨a, rfl, guard_of_plain ha⟩

/-- A body owes the mutex its act was entered with and no other, and it takes none that it does
    not release. -/
theorem Shape.pays {a : Act} {result : Service × Program} (h : Shape a result) :
    Pays Act.guard a result.2 := by
  cases h with
  | entry ha hb _ => exact .entry ha hb
  | plain ha hp => exact .plain ha hp.unguarded
  | body ha hp hq => exact .body ha hp.unguarded hq.unguarded
  | unowned ha _ =>
    refine .plain ?_ (by simp [Act.guard])
    rcases ha with rfl | rfl <;> rfl
  | destructor ha =>
    subst ha
    exact .plain rfl (by simp [Act.guard])

/-- **Every function releases the mutexes it takes.** -/
theorem paired_guard : Paired Act.guard expand :=
  paired_of_pays fun s a => (shape_expand s a).pays

/-- What the special tasks on a stack come from: mutexes are taken by `close` and the functions
    of the service, destructors run for sessions that nobody owns any more. -/
theorem pushed_special {t u : Task Mutex Act} (h : u ∈ (perform expand s t).2) :
    (∀ m, u = .lock m → m = .sessionGuard ∨ ∃ id, t = .act (.close id) ∧ m = .closeLock id) ∧
    (∀ id, u = .act (.destroy id) →
      (t = .act (.release id) ∨ t = .act (.erase id)) ∧
        (perform expand s t).1.alive id = false) ∧
    ∀ id, u = .act (.free id) → t = .act (.destroy id) := by
  have hplain : ∀ {p : Program}, Plain p → u ∈ p →
      (∀ m, u ≠ .lock m) ∧ (∀ id, u ≠ .act (.destroy id)) ∧ ∀ id, u ≠ .act (.free id) := by
    intro p hp hmem
    obtain ⟨a, rfl, ha⟩ := hp u hmem
    refine ⟨by simp, ?_, ?_⟩ <;> rintro id heq <;> obtain rfl := Task.act.inj heq <;> cases ha
  cases t with
  | lock n => exact absurd h List.not_mem_nil
  | unlock n => exact absurd h List.not_mem_nil
  | act a =>
    change u ∈ (s.expand a).2 at h
    show _ ∧ (∀ id, _ → _ ∧ (s.expand a).1.alive id = false) ∧ _
    have hshape := shape_expand s a
    generalize s.expand a = result at h hshape
    cases hshape with
    | @entry s' n b _ hb hn =>
      rcases List.mem_pair.mp h with rfl | rfl
      · refine ⟨?_, by simp, by simp⟩
        rintro m hm
        obtain rfl := Task.lock.inj hm
        simpa using hn
      · refine ⟨by simp, ?_, ?_⟩ <;> rintro id heq <;> obtain rfl := Task.act.inj heq <;> cases hb
    | plain _ hp =>
      obtain ⟨hlock, hdestroy, hfree⟩ := hplain hp h
      exact ⟨fun m hm => absurd hm (hlock m), fun id hid => absurd hid (hdestroy id),
        fun id hid => absurd hid (hfree id)⟩
    | body _ hp hq =>
      rcases List.mem_append.mp h with h | h
      · obtain ⟨hlock, hdestroy, hfree⟩ := hplain hp h
        exact ⟨fun m hm => absurd hm (hlock m), fun id hid => absurd hid (hdestroy id),
          fun id hid => absurd hid (hfree id)⟩
      · rcases List.mem_cons.mp h with rfl | h
        · simp
        · obtain ⟨hlock, hdestroy, hfree⟩ := hplain hq h
          exact ⟨fun m hm => absurd hm (hlock m), fun id hid => absurd hid (hdestroy id),
            fun id hid => absurd hid (hfree id)⟩
    | unowned ha hdead =>
      obtain rfl := List.mem_singleton.mp h
      refine ⟨by simp, ?_, by simp⟩
      rintro id heq
      obtain rfl : _ = id := by simpa using heq
      exact ⟨by simpa using ha, hdead⟩
    | destructor ha =>
      subst ha
      rcases List.mem_pair.mp h with rfl | rfl
      · simp
      · refine ⟨by simp, by simp, ?_⟩
        rintro id heq
        obtain rfl : _ = id := by simpa using heq
        rfl

/-! ### Ownership -/

/-- Besides the releases that are pending, somebody owns the session, and it is not being
    destroyed. -/
structure Owned (id : TunnelId) (s : Service) (pending : Program) : Prop where
  owner : ∃ t, s.tunnel id = some t ∧ pending.count (.act (.release id)) < t.owners
  intact : .act (.destroy id) ∉ pending
  inPlace : .act (.free id) ∉ pending

/-- The order of the pending tasks does not matter. -/
theorem Owned.perm {pending pending' : Program} (h : Owned id s pending)
    (hperm : pending.Perm pending') : Owned id s pending' := by
  obtain ⟨t, ht, hcount⟩ := h.owner
  refine ⟨⟨t, ht, ?_⟩, ?_, ?_⟩
  · rwa [← hperm.count_eq]
  · exact fun hmem => h.intact (hperm.mem_iff.mpr hmem)
  · exact fun hmem => h.inPlace (hperm.mem_iff.mpr hmem)

/-- What a task does to the owners of a session that it neither releases nor frees: it adds at
    least as many as it leaves to release. -/
def KeepsOwners (id : TunnelId) (s : Service) (result : Service × Program) : Prop :=
  ∀ before, s.tunnel id = some before → ∃ after, result.1.tunnel id = some after ∧
    before.owners + result.2.count (.act (.release id)) ≤ after.owners

theorem KeepsOwners.same {p : Program} (htunnel : s'.tunnel id = s.tunnel id)
    (hp : .act (.release id) ∉ p) : KeepsOwners id s (s', p) := by
  intro before hbefore
  refine ⟨before, htunnel.trans hbefore, ?_⟩
  rw [List.count_eq_zero_of_not_mem hp]
  omega

theorem KeepsOwners.modify {j : TunnelId} {f : TunnelSession → TunnelSession} {p : Program}
    (hf : ∀ t, t.owners ≤ (f t).owners) (hp : .act (.release id) ∉ p) :
    KeepsOwners id s (s.modify j f, p) := by
  intro before hbefore
  rw [List.count_eq_zero_of_not_mem hp]
  rw [show (s.modify j f, p).1.tunnel id = _ from tunnel_modify ..]
  split
  · next hj =>
    subst hj
    exact ⟨f before, by rw [hbefore, Option.map_some], hf before⟩
  · exact ⟨before, hbefore, le_rfl⟩

theorem release_notMem_destroyIfUnowned {j : TunnelId} :
    Task.act (.release id) ∉ s.destroyIfUnowned j := by
  unfold destroyIfUnowned
  split <;> simp

theorem DropsPipe.release_notMem {j : TunnelId} {p : Program} (hp : s.DropsPipe j p) :
    .act (.release id) ∉ p := by
  rcases hp with ⟨-, rfl⟩ | ⟨other, -, rfl⟩ <;> simp

/-- **Owners.**  Only `release` and the end of its session take an owner away. -/
theorem keepsOwners_perform {t : Task Mutex Act} (hrelease : t ≠ .act (.release id))
    (hfree : t ≠ .act (.free id)) : KeepsOwners id s (perform expand s t) := by
  have hout := outcome s t
  generalize perform expand s t = result at hout ⊢
  cases hout with
  | closes _ _ hpipe =>
    refine .modify (fun _ => le_rfl) ?_
    rcases hpipe with rfl | ⟨other, -, rfl⟩ <;> simp
  | @pipeClose _ _ ends =>
    intro before hbefore
    refine ⟨_, tunnel_foldl_acquire _ hbefore, ?_⟩
    -- every end that was locked is released once
    have hinjective : Function.Injective fun j => (Task.act (.release j) : Task Mutex Act) := by
      intro j k h
      simpa using h
    have hcloses : Task.act (.release id) ∉
        ends.map fun j => (Task.act (.close j) : Task Mutex Act) := by simp
    rw [List.count_append, List.count_eq_zero_of_not_mem hcloses, Nat.zero_add,
      List.count_map_of_injective _ _ hinjective, List.count_reverse]
  | pipeReset => exact .modify (fun _ => le_rfl) (by simp)
  | pipeAssign hp => exact .modify (fun _ => le_rfl) hp.release_notMem
  | @release j _ _ _ _ hs' =>
    have hne : id ≠ j := by
      rintro rfl
      exact hrelease rfl
    subst hs'
    exact .same (by rw [tunnel_modify, if_neg hne]) release_notMem_destroyIfUnowned
  | @free j _ hp =>
    have hne : id ≠ j := by
      rintro rfl
      exact hfree rfl
    have htunnel : (s.free j).1.tunnel id = s.tunnel id := by rw [tunnel_free, if_neg hne]
    exact .same htunnel hp.release_notMem
  | erase _ hs' =>
    subst hs'
    exact .same rfl release_notMem_destroyIfUnowned
  | @sideFound _ pre => exact .same rfl (by cases pre <;> simp)
  | @linkWrite j other =>
    intro before hbefore
    exact ⟨_, tunnel_foldl_acquire [j, other] hbefore, by simp⟩
  | _ => exact .same rfl (by simp)

/-- **An owned session stays owned** and is not destroyed, whatever is done. -/
theorem Owned.perform {t : Task Mutex Act} {rest : Program} (h : Owned id s (t :: rest)) :
    Owned id (perform expand s t).1 ((perform expand s t).2 ++ rest) := by
  obtain ⟨before, hbefore, hcount⟩ := h.owner
  have hfree : t ≠ .act (.free id) := by
    rintro rfl
    exact h.inPlace List.mem_cons_self
  have howner : ∃ after, (Lib.perform expand s t).1.tunnel id = some after ∧
      ((Lib.perform expand s t).2 ++ rest).count (.act (.release id)) < after.owners := by
    by_cases hrelease : t = .act (.release id)
    · -- one owner less, one release less
      subst hrelease
      rw [List.count_cons_self] at hcount
      refine ⟨{ before with owners := before.owners - 1 }, ?_, ?_⟩
      · have howned : 0 < before.owners := by omega
        show (s.release id).1.tunnel id = _
        unfold release
        rw [if_pos (by simpa [hbefore] using howned)]
        show (s.modify id _).tunnel id = _
        rw [tunnel_modify, if_pos rfl, hbefore, Option.map_some]
      · rw [List.count_append, List.count_eq_zero_of_not_mem]
        · show 0 + _ < before.owners - 1
          omega
        · show _ ∉ (s.release id).2
          unfold release
          split
          · exact release_notMem_destroyIfUnowned
          · exact List.not_mem_nil
    · obtain ⟨after, hafter, hle⟩ := keepsOwners_perform hrelease hfree before hbefore
      refine ⟨after, hafter, ?_⟩
      rw [List.count_cons_of_ne hrelease] at hcount
      rw [List.count_append]
      omega
  obtain ⟨after, hafter, hlt⟩ := howner
  refine ⟨⟨after, hafter, hlt⟩, fun hmem => ?_, fun hmem => ?_⟩
  · rcases List.mem_append.mp hmem with hmem | hmem
    · -- a destructor is pushed only for a session that nobody owns
      obtain ⟨-, hdead⟩ := (pushed_special hmem).2.1 id rfl
      have halive := (alive_iff _).mpr ⟨after, hafter, .inr (Nat.zero_lt_of_lt hlt)⟩
      rw [halive] at hdead
      cases hdead
    · exact h.intact (List.mem_cons_of_mem _ hmem)
  · rcases List.mem_append.mp hmem with hmem | hmem
    · obtain rfl := (pushed_special hmem).2.2 id rfl
      exact h.intact List.mem_cons_self
    · exact h.inPlace (List.mem_cons_of_mem _ hmem)

/-- An owned session leaves the table without being destroyed. -/
theorem Owned.erase_pushes {p : Program} (h : Owned id s p) : (s.erase id).2 = [] := by
  obtain ⟨t, ht, hlt⟩ := h.owner
  have hout : Outcome s (.act (.erase id)) (s.erase id) := outcome s _
  generalize s.erase id = result at hout ⊢
  cases hout with
  | erase _ hs' =>
    subst hs'
    apply destroyIfUnowned_of_alive
    exact (alive_iff _).mpr ⟨t, ht, .inr (Nat.zero_lt_of_lt hlt)⟩
  | eraseInvalid => rfl

end Service

end TunnelBore.Broker
