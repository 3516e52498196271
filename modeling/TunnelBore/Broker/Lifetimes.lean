import TunnelBore.Broker.CloseLinked
import TunnelBore.Broker.OneToOne

namespace TunnelBore.Broker

open TunnelBore.Lib

/-!
# How long a session lives

A session is owned by the table and by whoever works with it: the handler of a read, a `close` that
goes through a pipe operation, the completion handler of an initial write.  When the last owner lets
go, its destructor runs.

* `Accounted` — the ledger of a call stack: every owner is a release that is pending or a write in
  flight, and what nobody owns is about to be destroyed;
* `Entered` — what is closed is about to leave the table, and nothing else leaves it;
* `Kept` — both between the completions, when the stack is empty;
* `sparing` — the condition under which `link` does not use a session after its end;
* `session_lifetimes` — so in every run the sessions that exist are those of the table, which are
  open, and those of a write in flight, and in a run that meets the condition no function uses a
  session that does not exist.
-/

namespace Service

variable {s s' : Service} {t : Task Mutex Act} {p rest : Program} {j : TunnelId}

/-! ### The owners -/

/-- How many owners of a session the initial writes in flight are. -/
def holds (s : Service) (j : TunnelId) : Nat :=
  (s.initialWrites.flatMap fun w => [w.1, w.2]).count j

/-- What a call does to the owners of a session: it adds one for each release that it leaves to be
    done and one for its part in a write that it starts. -/
def Balanced (j : TunnelId) (s : Service) (result : Service × Program) : Prop :=
  ∀ after, result.1.tunnel j = some after → ∃ before, s.tunnel j = some before ∧
    after.owners + s.holds j =
      before.owners + result.2.count (.act (.release j)) + result.1.holds j

theorem Balanced.same (htunnel : ∀ after, s'.tunnel j = some after → s.tunnel j = some after)
    (hwrites : s'.initialWrites = s.initialWrites) (hp : .act (.release j) ∉ p) :
    Balanced j s (s', p) := by
  intro after hafter
  refine ⟨after, htunnel after hafter, ?_⟩
  rw [List.count_eq_zero_of_not_mem hp]
  show _ + (s.initialWrites.flatMap _).count j = _ + 0 + (s'.initialWrites.flatMap _).count j
  rw [hwrites, Nat.add_zero]

theorem Balanced.modify {id : TunnelId} {f : TunnelSession → TunnelSession}
    (hf : ∀ t, (f t).owners = t.owners) (hp : .act (.release j) ∉ p) :
    Balanced j s (s.modify id f, p) := by
  intro after hafter
  rw [List.count_eq_zero_of_not_mem hp]
  obtain ⟨before, hbefore, rfl | ⟨rfl, rfl⟩⟩ := tunnel_modify_cases hafter
  · exact ⟨after, hbefore, rfl⟩
  · refine ⟨before, hbefore, ?_⟩
    rw [hf, Nat.add_zero]
    rfl

theorem tunnel_of_foldl_acquire {ends : List TunnelId} {after : TunnelSession}
    (h : (ends.foldl acquire s).tunnel j = some after) :
    ∃ before, s.tunnel j = some before ∧ after.owners = before.owners + ends.count j := by
  obtain ⟨before, hbefore, -⟩ := evolves_foldl_acquire (t := .lock .sessionGuard) ends h
  rw [tunnel_foldl_acquire ends hbefore, Option.some.injEq] at h
  exact ⟨before, hbefore, by rw [← h]⟩

/-- **One task and the owners.** -/
theorem balanced_perform (hrelease : t ≠ .act (.release j)) :
    Balanced j s (perform expand s t) := by
  have hout := outcome s t
  generalize perform expand s t = result at hout ⊢
  cases hout with
  | closes _ _ hpipe =>
    refine .modify (fun _ => rfl) ?_
    rcases hpipe with rfl | ⟨other, -, rfl⟩ <;> simp
  | @pipeClose _ _ ends =>
    intro after hafter
    obtain ⟨before, hbefore, howners⟩ := tunnel_of_foldl_acquire hafter
    refine ⟨before, hbefore, ?_⟩
    -- every end that was locked is released once
    have hinjective : Function.Injective fun j => (Task.act (.release j) : Task Mutex Act) := by
      intro j k h
      simpa using h
    have hcloses : Task.act (.release j) ∉
        ends.map fun j => (Task.act (.close j) : Task Mutex Act) := by simp
    rw [howners, List.count_append, List.count_eq_zero_of_not_mem hcloses, Nat.zero_add,
      List.count_map_of_injective _ _ hinjective, List.count_reverse]
    unfold holds
    rw [foldl_acquire_initialWrites]
  | pipeReset => exact .modify (fun _ => rfl) (by simp)
  | pipeAssign hp => exact .modify (fun _ => rfl) hp.release_notMem
  | @release id _ _ _ _ hs' =>
    have hne : j ≠ id := by
      rintro rfl
      exact hrelease rfl
    subst hs'
    refine .same (fun after hafter => ?_) rfl release_notMem_destroyIfUnowned
    rwa [tunnel_modify, if_neg hne] at hafter
  | @free id _ hp =>
    refine .same (fun after hafter => ?_) rfl hp.release_notMem
    have htunnel : (s.free id).1.tunnel j = some after := hafter
    rw [tunnel_free] at htunnel
    split at htunnel
    · cases htunnel
    · exact htunnel
  | erase _ hs' =>
    subst hs'
    exact .same (fun _ h => h) rfl release_notMem_destroyIfUnowned
  | @sideFound _ pre => exact .same (fun _ h => h) rfl (by cases pre <;> simp)
  | @linkWrite id other =>
    -- the completion handler of the write owns both sides
    intro after hafter
    have hacquired : ([id, other].foldl acquire s).tunnel j = some after := hafter
    obtain ⟨before, hbefore, howners⟩ := tunnel_of_foldl_acquire hacquired
    refine ⟨before, hbefore, ?_⟩
    show _ = _ + 0 + ((s.initialWrites ++ [(id, other)]).flatMap fun w => [w.1, w.2]).count j
    rw [List.flatMap_append, List.count_append, howners]
    show _ + s.holds j = _ + 0 + (s.holds j + [id, other].count j)
    omega
  | _ => exact .same (fun _ h => h) rfl (by simp)

/-! ### The ledger -/

/-- **The ledger of a call stack.** -/
structure Accounted (s : Service) (p : Program) : Prop where
  /-- Every owner is a release that is pending or a write in flight. -/
  owners : ∀ j t, s.tunnel j = some t → t.owners = p.count (.act (.release j)) + s.holds j
  /-- What nobody owns is about to be destroyed, ... -/
  dying : ∀ j, (s.tunnel j).isSome → s.alive j = false →
    .act (.destroy j) ∈ p ∨ .act (.free j) ∈ p
  /-- ... and nothing else is. -/
  dead : ∀ j, .act (.destroy j) ∈ p ∨ .act (.free j) ∈ p → s.alive j = false
  entries : ∀ j ∈ s.sessions, s.alive j = true
  held : ∀ j, 0 < s.holds j → s.alive j = true

theorem alive_false_of_shrinks (h : Shrinks s s') (hdead : s.alive j = false) :
    s'.alive j = false := by
  by_contra halive
  have hmem := h.2 (s'.mem_aliveIds.mpr (by simpa using halive))
  rw [mem_aliveIds, hdead] at hmem
  cases hmem

theorem exists_of_alive (h : s.alive j = true) : (s.tunnel j).isSome := by
  obtain ⟨t, ht, -⟩ := s.alive_iff.mp h
  rw [ht]
  rfl

theorem exists_modify {id : TunnelId} {f : TunnelSession → TunnelSession} :
    ((s.modify id f).tunnel j).isSome = (s.tunnel j).isSome := by
  rw [tunnel_modify]
  split
  · next hj =>
    subst hj
    exact Option.isSome_map
  · rfl

theorem exists_foldl_acquire (ends : List TunnelId) :
    ((ends.foldl acquire s).tunnel j).isSome = (s.tunnel j).isSome := by
  induction ends generalizing s with
  | nil => rfl
  | cons id ends ih => exact ih.trans exists_modify

/-- Only the end of its destructor ends a session. -/
theorem exists_perform (hfree : t ≠ .act (.free j)) :
    ((perform expand s t).1.tunnel j).isSome = (s.tunnel j).isSome := by
  have hout := outcome s t
  generalize perform expand s t = result at hout ⊢
  cases hout with
  | closes => exact exists_modify
  | @pipeClose _ _ ends => exact exists_foldl_acquire ends
  | pipeReset => exact exists_modify
  | pipeAssign => exact exists_modify
  | release _ _ hs' =>
    subst hs'
    exact exists_modify
  | @free id =>
    have hne : j ≠ id := by
      rintro rfl
      exact hfree rfl
    show ((s.free id).1.tunnel j).isSome = _
    rw [tunnel_free, if_neg hne]
  | erase _ hs' =>
    subst hs'
    rfl
  | @linkWrite id other => exact exists_foldl_acquire [id, other]
  | _ => rfl

/-- A session that a task takes the last owner from is about to be destroyed. -/
theorem alive_perform (halive : s.alive j = true)
    (hexists : ((perform expand s t).1.tunnel j).isSome) :
    (perform expand s t).1.alive j = true ∨
      .act (.destroy j) ∈ (perform expand s t).2 := by
  have hfold : ∀ {ends : List TunnelId} {u : Service}, (∀ k ∈ ends, u.alive k = true) →
      (ends.foldl acquire u).alive j = u.alive j := by
    intro ends
    induction ends with
    | nil => exact fun _ => rfl
    | cons id ends ih =>
      intro u hu
      obtain ⟨hid, hends⟩ := List.forall_mem_cons.mp hu
      rw [List.foldl_cons, ih fun k hk => (alive_acquire u id hid k).trans (hends k hk)]
      exact alive_acquire u id hid j
  have hmodify : ∀ {id : TunnelId} {f : TunnelSession → TunnelSession},
      (∀ t, (f t).owners = t.owners) → (s.modify id f).alive j = true :=
    fun hf => (alive_modify s _ _ hf j).trans halive
  -- whoever loses an owner is looked at right away
  have hunowned : ∀ {u : Service} {id : TunnelId}, (u.tunnel j).isSome →
      (j ≠ id → u.alive j = true) →
        u.alive j = true ∨ .act (.destroy j) ∈ u.destroyIfUnowned id := by
    intro u id hsome hother
    by_cases hj : j = id
    · subst hj
      by_cases hlives : u.alive j = true
      · exact .inl hlives
      · unfold destroyIfUnowned
        rw [if_pos ⟨hsome, hlives⟩]
        exact .inr List.mem_cons_self
    · exact .inl (hother hj)
  have hout := outcome s t
  generalize perform expand s t = result at hout hexists ⊢
  cases hout with
  | closes => exact .inl (hmodify fun _ => rfl)
  | pipeClose _ hends => exact .inl ((hfold hends).trans halive)
  | pipeReset => exact .inl (hmodify fun _ => rfl)
  | pipeAssign => exact .inl (hmodify fun _ => rfl)
  | @release id _ _ _ _ hs' =>
    subst hs'
    refine hunowned hexists fun hne => ?_
    obtain ⟨t, ht, hor⟩ := s.alive_iff.mp halive
    refine (alive_iff _).mpr ⟨t, ?_, hor⟩
    rw [tunnel_modify, if_neg hne, ht]
  | @free id =>
    obtain ⟨t, ht, hor⟩ := s.alive_iff.mp halive
    have hsome : ((s.free id).1.tunnel j).isSome := hexists
    have hfree := s.tunnel_free id j
    split at hfree
    · rw [hfree] at hsome
      cases hsome
    · exact .inl ((alive_iff _).mpr ⟨t, hfree.trans ht, hor⟩)
  | @erase id _ _ hs' =>
    subst hs'
    refine hunowned hexists fun hne => ?_
    obtain ⟨t, ht, hor⟩ := s.alive_iff.mp halive
    exact (alive_iff _).mpr ⟨t, ht, hor.imp_left fun hmem => Finset.mem_erase.mpr ⟨hne, hmem⟩⟩
  | @linkWrite id other _ _ _ hid hother =>
    have hends : ∀ k ∈ [id, other], s.alive k = true := by simp [hid, hother]
    exact .inl ((hfold hends).trans halive)
  | _ => exact .inl halive

/-- A `release` takes one owner away. -/
theorem release_of_owned {before : TunnelSession} (hbefore : s.tunnel j = some before)
    (howned : 0 < before.owners) :
    (s.release j).1.tunnel j = some { before with owners := before.owners - 1 } ∧
      (s.release j).1.initialWrites = s.initialWrites ∧ .act (.release j) ∉ (s.release j).2 := by
  unfold release
  rw [if_pos (by simpa [hbefore] using howned)]
  refine ⟨?_, rfl, release_notMem_destroyIfUnowned⟩
  show (s.modify j _).tunnel j = _
  rw [tunnel_modify, if_pos rfl, hbefore, Option.map_some]

/-- No task puts an entry into the table. -/
theorem sessions_perform (h : j ∈ (perform expand s t).1.sessions) : j ∈ s.sessions := by
  obtain ⟨-, -, -, hsessions⟩ := perform_effects s t
  rw [hsessions] at h
  split at h
  · exact Finset.mem_of_mem_erase h
  · exact h

/-- Nobody but the sides of a new write is held. -/
theorem held_perform (h : 0 < (perform expand s t).1.holds j) :
    0 < s.holds j ∨ s.alive j = true := by
  unfold holds at h
  rw [(perform_transfers s t).2, List.flatMap_append, List.count_append] at h
  by_cases hold : 0 < s.holds j
  · exact .inl hold
  have hnew : 0 < (((newTransfers s t).filterMap Effect.inFlight).flatMap
      fun w => [w.1, w.2]).count j := by
    unfold holds at hold
    omega
  rw [List.count_pos_iff, List.mem_flatMap] at hnew
  obtain ⟨w, hw, hj⟩ := hnew
  obtain ⟨e, he, hew⟩ := List.mem_filterMap.mp hw
  unfold newTransfers at he
  split at he
  · -- a link alone is no write
    split at he
    · obtain rfl := List.mem_singleton.mp he
      cases hew
    · cases he
  · next id other =>
    split at he
    · cases he
    · split at he
      · next halive =>
        obtain rfl := List.mem_singleton.mp he
        obtain rfl := Option.some.inj hew
        right
        rcases List.mem_pair.mp hj with rfl | rfl
        · exact halive.2.1
        · exact halive.2.2
      · cases he
  · cases he

/-- **Every task keeps the ledger.** -/
theorem Accounted.perform (h : Accounted s (t :: rest)) :
    Accounted (Lib.perform expand s t).1 ((Lib.perform expand s t).2 ++ rest) := by
  have hshrinks := shrinks_perform s t
  -- what is alive is not freed
  have hnotFree : ∀ j, s.alive j = true → t ≠ .act (.free j) := by
    rintro j halive rfl
    rw [h.dead j (.inr List.mem_cons_self)] at halive
    cases halive
  have hexists : ∀ j, s.alive j = true →
      ∃ after, (Lib.perform expand s t).1.tunnel j = some after :=
    fun j halive => Option.isSome_iff_exists.mp
      ((exists_perform (hnotFree j halive)).trans (exists_of_alive halive))
  have howners : ∀ j after, (Lib.perform expand s t).1.tunnel j = some after → after.owners =
      ((Lib.perform expand s t).2 ++ rest).count (.act (.release j)) +
        (Lib.perform expand s t).1.holds j := by
    intro j after hafter
    rw [List.count_append]
    by_cases hrelease : t = .act (.release j)
    · -- one owner less, one release less
      subst hrelease
      obtain ⟨before, hbefore, -⟩ := perform_tunnel hafter
      have hcount := h.owners j before hbefore
      rw [List.count_cons_self] at hcount
      obtain ⟨htunnel, hwrites, hpushed⟩ := release_of_owned hbefore (by omega)
      have hsame : some after = some _ := hafter.symm.trans htunnel
      obtain rfl := Option.some.inj hsame
      have hholds : (Lib.perform expand s (.act (.release j))).1.holds j = s.holds j := by
        unfold holds
        rw [show (Lib.perform expand s (.act (.release j))).1.initialWrites = _ from hwrites]
      rw [hholds, show (Lib.perform expand s (.act (.release j))).2.count _ = 0 from
        List.count_eq_zero_of_not_mem hpushed]
      show before.owners - 1 = _
      omega
    · obtain ⟨before, hbefore, hbalance⟩ := balanced_perform hrelease after hafter
      have hcount := h.owners j before hbefore
      rw [List.count_cons_of_ne hrelease] at hcount
      omega
  refine ⟨howners, ?_, ?_, ?_, ?_⟩
  · intro j hsome hdead
    have hfree : t ≠ .act (.free j) := by
      rintro rfl
      have hgone : (s.free j).1.tunnel j = none := by rw [tunnel_free, if_pos rfl]
      rw [show (Lib.perform expand s (.act (.free j))).1.tunnel j = none from hgone] at hsome
      cases hsome
    cases halive : s.alive j with
    | true =>
      rcases alive_perform halive hsome with hlives | hpushed
      · rw [hlives] at hdead
        cases hdead
      · exact .inl (List.mem_append_left _ hpushed)
    | false =>
      rw [exists_perform hfree] at hsome
      rcases h.dying j hsome halive with hmem | hmem
      · rcases List.mem_cons.mp hmem with rfl | hmem
        · -- the destructor has closed the session, and then frees it
          exact .inr (List.mem_append_left _ (by simp [Lib.perform, expand]))
        · exact .inl (List.mem_append_right _ hmem)
      · exact .inr (List.mem_append_right _ ((List.mem_cons.mp hmem).resolve_left hfree.symm))
  · rintro j (hmem | hmem)
    · rcases List.mem_append.mp hmem with hmem | hmem
      · exact ((pushed_special hmem).2.1 j rfl).2
      · exact alive_false_of_shrinks hshrinks (h.dead j (.inl (List.mem_cons_of_mem _ hmem)))
    · rcases List.mem_append.mp hmem with hmem | hmem
      · obtain rfl := (pushed_special hmem).2.2 j rfl
        exact alive_false_of_shrinks hshrinks (h.dead j (.inl List.mem_cons_self))
      · exact alive_false_of_shrinks hshrinks (h.dead j (.inr (List.mem_cons_of_mem _ hmem)))
  · intro j hmem
    have hbefore : j ∈ s.sessions := sessions_perform hmem
    obtain ⟨after, hafter⟩ := hexists j (h.entries j hbefore)
    exact (alive_iff _).mpr ⟨after, hafter, .inl hmem⟩
  · intro j hheld
    have halive : s.alive j = true := by
      rcases held_perform hheld with hold | halive
      · exact h.held j hold
      · exact halive
    obtain ⟨after, hafter⟩ := hexists j halive
    refine (alive_iff _).mpr ⟨after, hafter, .inr ?_⟩
    rw [howners j after hafter]
    omega

/-! ### The table -/

/-- The session that a task is to take out of the table without closing it. -/
def leaves : Task Mutex Act → Option TunnelId
  | .act (.closeTunnelSide id true)        => some id
  | .act (.closeTunnelSideGuarded id true) => some id
  | .act (.erase id)                       => some id
  | _                                      => none

/-- The session that a task closes. -/
def closes : Task Mutex Act → Option TunnelId
  | .act (.close id)        => some id
  | .act (.closeGuarded id) => some id
  | _                       => none

/-- A stack that takes out of the table what was closed before it, the sessions of `closed`, and
    what it has closed itself by then. -/
def ClosedFirst : Set TunnelId → Program → Prop
  | _,      []     => True
  | closed, t :: p =>
    (∀ id, leaves t = some id → id ∈ closed) ∧ ClosedFirst {id | id ∈ closed ∨ closes t = some id} p

theorem ClosedFirst.mono {closed closed' : Set TunnelId} (h : ClosedFirst closed p)
    (hsub : closed ⊆ closed') : ClosedFirst closed' p := by
  induction p generalizing closed closed' with
  | nil => trivial
  | cons t p ih =>
    refine ⟨fun id hid => hsub (h.1 id hid), ih h.2 ?_⟩
    rintro id (hid | hid)
    · exact .inl (hsub hid)
    · exact .inr hid

theorem ClosedFirst.append {closed : Set TunnelId} (hp : ClosedFirst closed p)
    (hrest : ClosedFirst closed rest) : ClosedFirst closed (p ++ rest) := by
  induction p generalizing closed with
  | nil => exact hrest
  | cons t p ih => exact ⟨hp.1, ih hp.2 (hrest.mono fun _ => .inl)⟩

theorem closedFirst_of_leaves {closed : Set TunnelId} (h : ∀ t ∈ p, leaves t = none) :
    ClosedFirst closed p := by
  induction p generalizing closed with
  | nil => trivial
  | cons t p ih =>
    obtain ⟨ht, hp⟩ := List.forall_mem_cons.mp h
    exact ⟨fun id hid => absurd (ht.symm.trans hid) (by simp), ih hp⟩

/-- **The table and the stack.** -/
structure Entered (s : Service) (p : Program) : Prop where
  /-- What is closed is about to leave the table. -/
  leaving : ∀ j ∈ s.sessions, j ∉ s.openIds → ∃ t ∈ p, leaves t = some j
  /-- What is open is in the table. -/
  present : s.openIds ⊆ s.sessions
  closedFirst : ClosedFirst {j | j ∉ s.openIds} p

/-- What is open stays so until `close` marks it. -/
theorem open_perform (hopen : j ∈ s.openIds) (hguarded : t ≠ .act (.closeGuarded j))
    (hfree : t ≠ .act (.free j)) : j ∈ (perform expand s t).1.openIds := by
  obtain ⟨before, hbefore, hnot⟩ := s.mem_openIds.mp hopen
  have hsome : ((perform expand s t).1.tunnel j).isSome := by
    rw [exists_perform hfree, hbefore]
    rfl
  obtain ⟨after, hafter⟩ := Option.isSome_iff_exists.mp hsome
  refine (mem_openIds _).mpr ⟨after, hafter, ?_⟩
  by_contra hclosed
  rcases wasClosed_perform hafter (by simpa using hclosed) with rfl | ⟨t', ht', hwas⟩
  · exact hguarded rfl
  · obtain rfl := Option.some.inj (hbefore.symm.trans ht')
    rw [hnot] at hwas
    cases hwas

/-- `close` marks the session. -/
theorem notMem_openIds_closeGuarded : j ∉ (s.closeGuarded j).1.openIds := by
  by_cases hopen : j ∈ s.openIds
  · obtain ⟨t, ht, hnot⟩ := s.mem_openIds.mp hopen
    rw [closeGuarded_of_open ht hnot]
    intro hmem
    obtain ⟨t', ht', hnot'⟩ := (mem_openIds _).mp hmem
    rw [tunnel_modify, if_pos rfl, ht, Option.map_some] at ht'
    obtain rfl := Option.some.inj ht'
    cases hnot'
  · rw [closeGuarded_of_notOpen hopen]
    exact hopen

/-- What a task pushes takes nothing out of the table that is open by then. -/
theorem closedFirst_pushed (h : ∀ id, leaves t = some id → id ∉ s.openIds) :
    ClosedFirst {j | j ∉ (perform expand s t).1.openIds} (perform expand s t).2 := by
  have hdestroy : ∀ {u : Service} {id : TunnelId}, ∀ t ∈ u.destroyIfUnowned id,
      leaves t = none := by
    intro u id
    unfold destroyIfUnowned
    split <;> simp [leaves]
  have hdrops : ∀ {id : TunnelId} {p : Program}, s.DropsPipe id p → ∀ t ∈ p, leaves t = none := by
    rintro id p (⟨-, rfl⟩ | ⟨other, -, rfl⟩) <;> simp [leaves]
  have hout := outcome s t
  generalize perform expand s t = result at hout ⊢
  cases hout with
  | @closes id t ht hopen pipe hpipe =>
    refine .append (closedFirst_of_leaves ?_) ⟨fun _ hid => (by cases hid), ?_, trivial⟩
    · rcases hpipe with rfl | ⟨other, -, rfl⟩ <;> simp [leaves]
    · -- the session has just been marked
      rintro _ ⟨⟩
      have hmarked : id ∉ (s.closeGuarded id).1.openIds := notMem_openIds_closeGuarded
      rw [closeGuarded_of_open ht hopen] at hmarked
      exact .inl hmarked
  | pipeClose =>
    refine closedFirst_of_leaves fun t' ht' => ?_
    rcases List.mem_append.mp ht' with ht' | ht' <;>
    · obtain ⟨_, -, rfl⟩ := List.mem_map.mp ht'
      rfl
  | pipeAssign hp => exact closedFirst_of_leaves (hdrops hp)
  | free hp => exact closedFirst_of_leaves (hdrops hp)
  | release => exact closedFirst_of_leaves hdestroy
  | erase => exact closedFirst_of_leaves hdestroy
  | @closeTunnelSide id pre =>
    refine ⟨fun _ hid => (by cases hid), fun j hj => ?_, trivial⟩
    cases pre with
    | true => exact .inl (h j hj)
    | false => cases hj
  | @sideFound id pre =>
    cases pre with
    | true =>
      refine ⟨?_, fun _ hid => (by cases hid), trivial⟩
      rintro _ ⟨⟩
      exact h id rfl
    | false =>
      -- the session is closed first
      refine ⟨fun _ hid => (by cases hid), ?_, fun _ hid => (by cases hid), trivial⟩
      rintro _ ⟨⟩
      exact .inr rfl
  | _ => exact closedFirst_of_leaves (by simp [leaves])

/-- **Every task keeps the table and the stack together.** -/
theorem Entered.perform (h : Entered s (t :: rest)) (ha : Accounted s (t :: rest)) :
    Entered (Lib.perform expand s t).1 ((Lib.perform expand s t).2 ++ rest) := by
  have hshrinks := shrinks_perform s t
  have hnow := h.closedFirst.1
  refine ⟨?_, ?_, ?_⟩
  · intro j hmem hclosed
    have hbefore := sessions_perform hmem
    have hfree : t ≠ .act (.free j) := by
      rintro rfl
      have hdead := ha.dead j (.inr List.mem_cons_self)
      rw [ha.entries j hbefore] at hdead
      cases hdead
    by_cases hopen : j ∈ s.openIds
    · -- it is closed just now
      have hguarded : t = .act (.closeGuarded j) := by
        by_contra hne
        exact hclosed (open_perform hopen hne hfree)
      subst hguarded
      obtain ⟨u, hu, hnot⟩ := s.mem_openIds.mp hopen
      refine ⟨.act (.closeTunnelSide j true), List.mem_append_left _ ?_, rfl⟩
      show _ ∈ (s.closeGuarded j).2
      rw [closeGuarded_of_open hu hnot]
      simp
    · obtain ⟨u, hu, hleaves⟩ := h.leaving j hbefore hopen
      rcases List.mem_cons.mp hu with rfl | hu
      · -- the next step of the same way out
        unfold leaves at hleaves
        split at hleaves
        · obtain rfl := Option.some.inj hleaves
          exact ⟨_, List.mem_append_left _ (List.mem_cons_of_mem _ List.mem_cons_self), rfl⟩
        · next id =>
          obtain rfl := Option.some.inj hleaves
          refine ⟨.act (.erase id), List.mem_append_left _ ?_, rfl⟩
          show _ ∈ (s.closeTunnelSideGuarded id true).2
          unfold closeTunnelSideGuarded
          rw [if_pos hbefore]
          simp
        · next id =>
          obtain rfl := Option.some.inj hleaves
          obtain ⟨-, -, -, hsessions⟩ := perform_effects s (.act (.erase id))
          rw [hsessions] at hmem
          exact absurd hmem (Finset.notMem_erase id _)
        · cases hleaves
      · exact ⟨u, List.mem_append_right _ hu, hleaves⟩
  · intro j hopen
    have hbefore := hshrinks.1 hopen
    have hmem := h.present hbefore
    obtain ⟨-, -, -, hsessions⟩ := perform_effects s t
    rw [hsessions]
    split
    · next id =>
      -- only what is closed is erased
      refine Finset.mem_erase.mpr ⟨?_, hmem⟩
      rintro rfl
      exact hnow j rfl hbefore
    · exact hmem
  · by_cases hclose : ∃ id, t = .act (.close id)
    · obtain ⟨id, rfl⟩ := hclose
      refine ⟨fun _ hid => (by cases hid), fun _ hid => (by cases hid), h.closedFirst.2.mono ?_⟩
      rintro j (hj | hj)
      · exact .inl (.inl hj)
      · exact .inr hj
    · refine .append (closedFirst_pushed hnow) (h.closedFirst.2.mono ?_)
      rintro j (hj | hj)
      · exact fun hopen => hj (hshrinks.1 hopen)
      · -- the session was marked by this task
        unfold closes at hj
        split at hj
        · exact absurd ⟨_, rfl⟩ hclose
        · next id =>
          obtain rfl := Option.some.inj hj
          exact notMem_openIds_closeGuarded
        · cases hj

/-- What every task keeps is kept by a call that runs to its end. -/
theorem Accounted.executes (ha : Accounted s p) (he : Entered s p) (h : Executes expand s p s') :
    Accounted s' [] ∧ Entered s' [] := by
  refine h.stack_invariant (J := fun u q => Accounted u q ∧ Entered u q) ?_ ⟨ha, he⟩
  rintro u t ts ⟨hau, heu⟩
  exact ⟨hau.perform, heu.perform hau⟩

/-- No task makes a session. -/
theorem exists_of_executes (h : Executes expand s p s') (hsome : (s'.tunnel j).isSome) :
    (s.tunnel j).isSome := by
  refine h.invariant (I := fun u => (u.tunnel j).isSome → (s.tunnel j).isSome)
    (T := fun _ => True) ?_ id (fun _ _ => trivial) hsome
  intro u t hu _
  refine ⟨fun hafter => ?_, fun _ _ => trivial⟩
  obtain ⟨after, hafter⟩ := Option.isSome_iff_exists.mp hafter
  obtain ⟨before, hbefore, -⟩ := perform_tunnel hafter
  exact hu (by rw [hbefore]; rfl)

/-! ### How a handler begins -/

section
variable {id : TunnelId} {f : TunnelSession → TunnelSession}

/-- A handler that owns a session changes nobody's liveness. -/
theorem alive_enter (halive : s.alive id = true) (hf : ∀ t, (f t).owners = t.owners + 1)
    (j : TunnelId) : (s.modify id f).alive j = s.alive j := by
  rw [Bool.eq_iff_iff, alive_iff, alive_iff, tunnel_modify]
  by_cases hj : j = id
  · subst hj
    obtain ⟨t, ht, hor⟩ := s.alive_iff.mp halive
    simp [ht, hor, hf]
  · simp [hj]

/-- **The ledger when a handler begins** that owns a session and lets go of it at its end. -/
theorem Accounted.enter (h : Accounted s []) (halive : s.alive id = true)
    (hf : ∀ t, (f t).owners = t.owners + 1)
    (hp : ∀ j, .act (.release j) ∉ p ∧ .act (.destroy j) ∉ p ∧ .act (.free j) ∉ p) :
    Accounted (s.modify id f) (p ++ [.act (.release id)]) := by
  have hsame : ∀ j, (s.modify id f).alive j = s.alive j := alive_enter halive hf
  have hcount : ∀ j, List.count (.act (.release j)) (p ++ [.act (.release id)] : Program) =
      if j = id then 1 else 0 := by
    intro j
    rw [List.count_append, List.count_eq_zero_of_not_mem (hp j).1, Nat.zero_add]
    by_cases hj : j = id
    · rw [if_pos hj, hj, List.count_singleton_self]
    · rw [if_neg hj, List.count_eq_zero]
      simpa using hj
  refine ⟨fun j t ht => ?_, fun j hsome hdead => ?_, fun j hmem => ?_, fun j hmem => ?_,
    fun j hheld => ?_⟩
  · rw [hcount]
    show t.owners = _ + s.holds j
    rw [tunnel_modify] at ht
    split at ht
    · next hj =>
      subst hj
      obtain ⟨before, hbefore, rfl⟩ := Option.map_eq_some_iff.mp ht
      have howners := h.owners j before hbefore
      rw [List.count_nil] at howners
      rw [hf, if_pos rfl]
      omega
    · next hj =>
      have howners := h.owners j t ht
      rw [List.count_nil] at howners
      rwa [if_neg hj]
  · rw [hsame] at hdead
    rw [exists_modify] at hsome
    rcases h.dying j hsome hdead with hno | hno <;> cases hno
  · rcases hmem with hmem | hmem <;> rcases List.mem_append.mp hmem with hmem | hmem
    · exact absurd hmem (hp j).2.1
    · cases List.mem_singleton.mp hmem
    · exact absurd hmem (hp j).2.2
    · cases List.mem_singleton.mp hmem
  · rw [hsame]
    exact h.entries j hmem
  · rw [hsame]
    exact h.held j hheld

theorem openIds_modify (hf : ∀ t, (f t).wasClosed = t.wasClosed) :
    (s.modify id f).openIds = s.openIds := by
  ext j
  rw [mem_openIds, mem_openIds, tunnel_modify]
  split
  · next hj =>
    subst hj
    cases s.tunnel j with
    | none => simp
    | some t => simp [hf]
  · rfl

theorem Entered.enter (h : Entered s []) (hf : ∀ t, (f t).wasClosed = t.wasClosed)
    (hp : ∀ t ∈ p, leaves t = none) : Entered (s.modify id f) p := by
  have hopen : (s.modify id f).openIds = s.openIds := openIds_modify hf
  refine ⟨fun j hmem hclosed => ?_, ?_, closedFirst_of_leaves hp⟩
  · rw [hopen] at hclosed
    obtain ⟨t, hno, -⟩ := h.leaving j hmem hclosed
    cases hno
  · rw [hopen]
    exact h.present

end

/-- The ledger when a write has completed: what it held is to be released. -/
theorem Accounted.wrote (h : Accounted s []) {source target : TunnelId} (ec : Bool)
    (hmem : (source, target) ∈ s.initialWrites) :
    Accounted (s.wrote source target ec).1 (s.wrote source target ec).2 := by
  have hholds : ∀ j,
      s.holds j = [source, target].count j + (s.wrote source target ec).1.holds j := by
    intro j
    have hperm := (List.perm_cons_erase hmem).flatMap_right fun w => [w.1, w.2]
    have hcount := hperm.count_eq j
    rw [List.flatMap_cons, List.count_append] at hcount
    exact hcount
  have hreleases : ∀ j, (s.wrote source target ec).2.count (.act (.release j)) =
      [source, target].count j := by
    intro j
    cases ec <;> simp [Service.wrote, List.count_cons] <;> omega
  refine ⟨fun j t ht => ?_, fun j hsome hdead => ?_, fun j hno => ?_, h.entries, fun j hheld => ?_⟩
  · have hcount := h.owners j t ht
    rw [List.count_nil, hholds j] at hcount
    rw [hreleases]
    omega
  · rcases h.dying j hsome hdead with hno | hno <;> cases hno
  · rcases hno with hno | hno <;> cases ec <;> simp [Service.wrote] at hno
  · refine h.held j ?_
    rw [hholds j]
    omega

end Service

/-! ### Runs -/

namespace ServiceRun

open Service

variable {r r' : ServiceRun} {e : Event}

/-- **Between the completions.** -/
structure Kept (r : ServiceRun) : Prop where
  accounted : Accounted r.service []
  entered : Entered r.service []
  accepted : ∀ j, (r.service.tunnel j).isSome → j ∈ r.accepted

theorem kept_empty : Kept {} where
  accounted := by
    refine ⟨fun j t h => ?_, fun j h => ?_, fun j h => ?_, fun j h => ?_, fun j h => ?_⟩
    · cases h
    · cases h
    · rcases h with h | h <;> cases h
    · exact absurd h (Finset.notMem_empty j)
    · cases h
  entered := by
    refine ⟨fun j h => absurd h (Finset.notMem_empty j), fun j h => ?_, trivial⟩
    obtain ⟨t, ht, -⟩ := (mem_openIds _).mp h
    cases ht
  accepted j h := by cases h

/-- A handler that is run to its end. -/
theorem Kept.handle {handler : Service × Program} {peeking : Finset TunnelId}
    (hr : Kept r) (ha : Accounted handler.1 handler.2) (he : Entered handler.1 handler.2)
    (hexists : ∀ j, (handler.1.tunnel j).isSome → (r.service.tunnel j).isSome)
    (h : r.handle handler peeking = some r') : Kept r' := by
  obtain ⟨s, hrun, rfl⟩ := handle_eq_some.mp h
  obtain ⟨hs, hentered⟩ := ha.executes he hrun
  exact ⟨hs, hentered, fun j hj => hr.accepted j (hexists j (exists_of_executes hrun hj))⟩

theorem tunnel_accept (s : Service) (id j : TunnelId) :
    (s.accept id).tunnel j = if j = id then some {} else s.tunnel j := by
  unfold Service.tunnel Service.accept
  rw [List.lookup_cons]
  by_cases hj : j = id
  · rw [beq_iff_eq.mpr hj, if_pos hj]
  · rw [beq_eq_false_iff_ne.mpr hj, if_neg hj]

theorem alive_accept (s : Service) (id j : TunnelId) :
    (s.accept id).alive j = true ↔ j = id ∨ s.alive j = true := by
  rw [alive_iff, alive_iff, tunnel_accept]
  show (∃ t, _ ∧ (j ∈ insert id s.sessions ∨ _)) ↔ _
  rw [Finset.mem_insert]
  by_cases hj : j = id
  · rw [if_pos hj]
    exact iff_of_true ⟨_, rfl, .inl (.inl hj)⟩ (.inl hj)
  · rw [if_neg hj]
    refine Iff.trans ?_ (or_iff_right hj).symm
    exact exists_congr fun _ => and_congr_right fun _ => or_congr_left (or_iff_right hj)

theorem mem_openIds_accept (s : Service) (id j : TunnelId) :
    j ∈ (s.accept id).openIds ↔ j = id ∨ j ∈ s.openIds := by
  rw [mem_openIds, mem_openIds, tunnel_accept]
  by_cases hj : j = id
  · rw [if_pos hj]
    exact iff_of_true ⟨_, rfl, rfl⟩ (.inl hj)
  · rw [if_neg hj, or_iff_right hj]

/-- A new session is in the table, open and owned by nobody else. -/
theorem Kept.accept (hr : Kept r) {id : TunnelId} (h : r.step (.accept id) = some r') :
    Kept r' := by
  simp only [step, Option.ite_none_left_eq_some, Option.some.injEq] at h
  obtain ⟨hnew, rfl⟩ := h
  have hnone : r.service.tunnel id = none := by
    cases ht : r.service.tunnel id with
    | none => rfl
    | some t => exact absurd (hr.accepted id (by rw [ht]; rfl)) hnew
  have hholds : r.service.holds id = 0 := by
    by_contra hheld
    have hsome := exists_of_alive (hr.accounted.held id (Nat.pos_of_ne_zero hheld))
    rw [hnone] at hsome
    cases hsome
  have halive := alive_accept r.service id
  have hopen := mem_openIds_accept r.service id
  refine ⟨⟨fun j t ht => ?_, fun j hsome hdead => ?_, fun j hno => ?_, fun j hmem => ?_,
    fun j hheld => ?_⟩, ⟨fun j hmem hclosed => ?_, fun j hj => ?_, trivial⟩, fun j hsome => ?_⟩
  · rw [tunnel_accept] at ht
    split at ht
    · next hj =>
      obtain rfl := Option.some.inj ht
      subst hj
      show 0 = 0 + r.service.holds j
      rw [hholds]
    · exact hr.accounted.owners j t ht
  · have hnot := (halive j).not.mp (by simp [hdead])
    rw [tunnel_accept, if_neg fun hj => hnot (.inl hj)] at hsome
    exact hr.accounted.dying j hsome (by simpa using fun h => hnot (.inr h))
  · rcases hno with hno | hno <;> cases hno
  · exact (halive j).mpr ((Finset.mem_insert.mp hmem).imp_right (hr.accounted.entries j))
  · exact (halive j).mpr (.inr (hr.accounted.held j hheld))
  · have hnot := (hopen j).not.mp hclosed
    have hold := (Finset.mem_insert.mp hmem).resolve_left fun hj => hnot (.inl hj)
    exact hr.entered.leaving j hold fun h => hnot (.inr h)
  · exact Finset.mem_insert.mpr (((hopen j).mp hj).imp_right fun h => hr.entered.present h)
  · rw [tunnel_accept] at hsome
    split at hsome
    · next hj => exact Finset.mem_insert.mpr (.inl hj)
    · exact Finset.mem_insert_of_mem (hr.accepted j hsome)

/-- The handlers that run for a completion. -/
theorem Kept.step (hr : Kept r) (h : r.step e = some r') : Kept r' := by
  cases e with
  | accept id => exact hr.accept h
  | peeked id control ec chunk =>
    simp only [step, Option.ite_none_right_eq_some] at h
    obtain ⟨-, h⟩ := h
    have hkept : ∀ {peeking : Finset TunnelId}, r.handle (r.service, []) peeking = some r' →
        Kept r' := fun h => hr.handle hr.accounted hr.entered (fun _ hj => hj) h
    unfold Service.peeked at h
    cases ht : r.service.tunnel id with
    | none =>
      simp only [ht] at h
      exact hkept h
    | some t =>
      simp only [ht] at h
      split at h
      · next halive =>
        have hframe := fun t => peekHandler_frame t control ec chunk
        have hstart : ∀ p : Program,
            (∀ j, .act (.release j) ∉ p ∧ .act (.destroy j) ∉ p ∧ .act (.free j) ∉ p) →
            (∀ t ∈ p ++ [.act (.release id)], leaves t = none) →
            Accounted (r.service.peekedState id control ec chunk) (p ++ [.act (.release id)]) ∧
              Entered (r.service.peekedState id control ec chunk) (p ++ [.act (.release id)]) :=
          fun p hp hleaves =>
            ⟨hr.accounted.enter halive (fun _ => rfl) hp,
              hr.entered.enter (fun t => (hframe t).1) hleaves⟩
        have hexists : ∀ j, ((r.service.peekedState id control ec chunk).tunnel j).isSome →
            (r.service.tunnel j).isSome := fun j hj => exists_modify ▸ hj
        cases haction : (t.peekHandler control ec chunk).2 with
        | close =>
          simp only [haction] at h
          obtain ⟨ha, he⟩ := hstart [.act (.close id)] (by simp) (by simp [leaves])
          exact hr.handle ha he hexists h
        | connectTunnels client =>
          simp only [haction] at h
          obtain ⟨ha, he⟩ := hstart [.act (.connectTunnels client id)] (by simp) (by simp [leaves])
          exact hr.handle ha he hexists h
        | informAboutConnection =>
          simp only [haction] at h
          obtain ⟨ha, he⟩ := hstart [] (by simp) (by simp [leaves])
          -- the announcement changes the record only
          have ha' :
              Accounted ((r.service.peekedState id control ec chunk).record (.inform id)) _ :=
            ⟨ha.owners, ha.dying, ha.dead, ha.entries, ha.held⟩
          have he' : Entered ((r.service.peekedState id control ec chunk).record (.inform id)) _ :=
            ⟨he.leaving, he.present, he.closedFirst⟩
          exact hr.handle ha' he' hexists h
      · exact hkept h
  | wrote source target ec =>
    simp only [step, Option.ite_none_right_eq_some] at h
    obtain ⟨hmem, h⟩ := h
    refine hr.handle (hr.accounted.wrote ec hmem) ?_ (fun _ hj => hj) h
    refine ⟨fun j hj hclosed => ?_, hr.entered.present, closedFirst_of_leaves ?_⟩
    · obtain ⟨t, hno, -⟩ := hr.entered.leaving j hj hclosed
      cases hno
    · cases ec <;> simp [Service.wrote, leaves]
  | close id =>
    simp only [step, Option.ite_none_right_eq_some] at h
    obtain ⟨halive, h⟩ := h
    have ha : Accounted (r.service.acquire id) ([.act (.close id)] ++ [.act (.release id)]) :=
      hr.accounted.enter halive (fun _ => rfl) (by simp)
    have he : Entered (r.service.acquire id) ([.act (.close id)] ++ [.act (.release id)]) :=
      hr.entered.enter (fun _ => rfl) (by simp [leaves])
    exact hr.handle ha he (fun j hj => exists_modify ▸ hj) h

/-! ### Nothing is used after its end -/

/-- No function has used a session that does not exist. -/
def Sound (s : Service) : Prop := ∀ j, .dangling j ∉ s.effects

/-- Only `link` uses a session without having looked it up. -/
theorem Sound.perform {s : Service} {t : Task Mutex Act} (h : Sound s) (ht : Quiet t) :
    Sound (Lib.perform expand s t).1 := by
  have hrecord : ∀ {e : Effect}, (∀ j, e ≠ .dangling j) → Sound (s.record e) := by
    intro e he j hmem
    rcases List.mem_append.mp hmem with hmem | hmem
    · exact h j hmem
    · exact he j (List.mem_singleton.mp hmem).symm
  have hout := outcome s t
  generalize Lib.perform expand s t = result at hout ⊢
  cases hout with
  | pipeClose =>
    intro j
    rw [foldl_acquire_effects]
    exact h j
  | release _ _ hs' =>
    subst hs'
    exact h
  | erase _ hs' =>
    subst hs'
    exact hrecord (by simp)
  | eraseInvalid => exact hrecord (by simp)
  | link => exact ht.elim
  | linkMissing => exact ht.elim
  | linkWrite => exact ht.elim
  | linkDead => exact ht.elim
  | _ => exact h

theorem Sound.executes {s s' : Service} {p : Program} (h : Sound s) (hp : ∀ t ∈ p, Quiet t)
    (hrun : Executes expand s p s') : Sound s' :=
  hrun.invariant (T := Quiet) (fun _ _ hu ht => ⟨hu.perform ht, fun _ => quiet_pushed ht⟩) h hp

/-- One half of `link`, for two sessions that exist, and that are alive or no bytes are waiting. -/
theorem Sound.linkHalf {s s' : Service} {id other : TunnelId} {t : TunnelSession} (h : Sound s)
    (ht : s.tunnel id = some t) (hother : (s.tunnel other).isSome)
    (hok : t.peekBuffer = [] ∨ s.alive id = true ∧ s.alive other = true)
    (hrun : Executes expand s [.act (.linkHalf id other)] s') : Sound s' := by
  rw [executes_act, List.append_nil, expand, Service.linkHalf] at hrun
  simp only [ht, hother, if_true] at hrun
  split at hrun
  · exact h.executes (by simp [Quiet]) hrun
  · next hbytes =>
    rw [if_pos (hok.resolve_left hbytes)] at hrun
    refine Sound.executes (fun j hmem => ?_) (by simp) hrun
    rcases List.mem_append.mp hmem with hmem | hmem
    · exact h j hmem
    · cases List.mem_singleton.mp hmem

/-- `connectTunnels` in the handler of the publisher side, which owns it, for a client whose half of
    `link` replaces no pipe operation, or that is this publisher side. -/
theorem Sound.connect {s s' : Service} {client publisher : TunnelId} (h : Sound s)
    (hentries : ∀ j ∈ s.sessions, s.alive j = true)
    (hempty : ∀ t, s.tunnel publisher = some t → t.peekBuffer = [])
    (howned : ∃ t, s.tunnel publisher = some t ∧ 0 < t.owners)
    (hspares : client = publisher ∨ ∀ t, client ∈ s.sessions → s.tunnel client = some t →
      t.peekBuffer = [] → t.pipeOperation = none)
    (hrun : Executes expand s [.act (.connectTunnels client publisher), .act (.release publisher)]
      s') : Sound s' := by
  by_cases hmem : client ∉ s.sessions ∨ publisher ∉ s.sessions
  · rw [executes_connect_failure hmem] at hrun
    exact h.executes (by simp [Quiet]) hrun
  obtain ⟨hclient, hpublisher⟩ := not_or.mp hmem
  rw [not_not] at hclient hpublisher
  have hc := hentries client hclient
  have hp := hentries publisher hpublisher
  obtain ⟨t, ht, -⟩ := s.alive_iff.mp hc
  obtain ⟨t', ht', hpos⟩ := howned
  -- the two halves of `link` run one after the other
  rw [executes_act, expand, List.cons_append, executes_lock, List.cons_append, List.nil_append,
    executes_act, expand, connectTunnelsGuarded, if_neg (not_not.mpr hclient),
    if_neg (not_not.mpr hpublisher), List.cons_append, executes_top] at hrun
  obtain ⟨u, hfirst, hrun⟩ := hrun
  rw [List.cons_append, executes_top] at hrun
  obtain ⟨v, hsecond, hrun⟩ := hrun
  have hrecorded : Sound (s.record (.link client publisher)) := by
    intro j hmem
    rcases List.mem_append.mp hmem with hmem | hmem
    · exact h j hmem
    · cases List.mem_singleton.mp hmem
  have hsound : Sound u := by
    refine hrecorded.linkHalf (s := s.record (.link client publisher)) ht ?_ (.inr ⟨hc, hp⟩) hfirst
    rw [tunnel_record, ht']
    rfl
  -- the publisher side outlives the first half, because its handler owns it
  have hkept : Owned publisher (s.record (.link client publisher))
      [.act (.linkHalf client publisher)] := ⟨⟨t', ht', by simpa using hpos⟩, by simp, by simp⟩
  obtain ⟨t'', ht''⟩ := hkept.of_executes hfirst
  -- and so does the client, because nothing was closed
  have hother : (u.tunnel client).isSome := by
    rcases hspares with rfl | hspares
    · rw [ht'']
      rfl
    · have hnone : t.peekBuffer = [] → s.pipeOf client = none := by
        intro hbytes
        unfold pipeOf
        rw [ht]
        exact hspares t hclient ht hbytes
      have hleft := executes_nil.mp ((executes_linkHalf (s := s.record (.link client publisher)) ht
        hc hp hnone).mp hfirst)
      refine exists_of_alive ?_
      rw [hleft, alive_halfLinked (s := s.record (.link client publisher)) hc hp]
      exact hc
  have hbuffer := peekBuffer_kept hfirst hempty t'' ht''
  exact (hsound.linkHalf ht'' hother (.inl hbuffer) hsecond).executes (by simp [Quiet]) hrun

/-- **The condition.**  A client that a completion names, if it is in the table, has bytes that are
    written first, or no pipe operation that its half of `link` would replace. -/
def sparing (r : ServiceRun) (e : Event) : Bool :=
  (r.names e).all fun named => named.1 ∉ r.service.sessions ||
    (r.service.tunnel named.1).all fun t => t.peekBuffer ≠ [] || t.pipeOperation = none

/-- What the condition says of the client. -/
theorem pipeOperation_of_sparing {client publisher : TunnelId} {t : TunnelSession}
    (h : r.sparing e = true) (hnames : r.names e = some (client, publisher))
    (hmem : client ∈ r.service.sessions) (ht : r.service.tunnel client = some t)
    (hbytes : t.peekBuffer = []) : t.pipeOperation = none := by
  unfold sparing at h
  simpa [hnames, ht, hmem, hbytes] using h

/-- **No completion that meets the condition uses a session after its end.** -/
theorem Sound.step (hs : Sound r.service) (hr : Kept r) (hspares : r.sparing e = true)
    (h : r.step e = some r') : Sound r'.service := by
  have hhandle : ∀ {handler : Service × Program} {peeking : Finset TunnelId},
      handler.1.effects = r.service.effects ∨
        (∃ id, handler.1.effects = r.service.effects ++ [.inform id]) →
      (∀ t ∈ handler.2, Quiet t) → r.handle handler peeking = some r' → Sound r'.service := by
    intro handler peeking heffects hquiet h
    obtain ⟨s, hrun, rfl⟩ := handle_eq_some.mp h
    refine Sound.executes (fun j hmem => ?_) hquiet hrun
    rcases heffects with hsame | ⟨id, hnew⟩
    · rw [hsame] at hmem
      exact hs j hmem
    · rw [hnew] at hmem
      rcases List.mem_append.mp hmem with hmem | hmem
      · exact hs j hmem
      · cases List.mem_singleton.mp hmem
  cases e with
  | accept id =>
    simp only [step, Option.ite_none_left_eq_some, Option.some.injEq] at h
    obtain ⟨-, rfl⟩ := h
    exact hs
  | peeked id control ec chunk =>
    simp only [step, Option.ite_none_right_eq_some] at h
    obtain ⟨⟨hpeeking, hlength⟩, h⟩ := h
    unfold Service.peeked at h
    cases ht : r.service.tunnel id with
    | none =>
      simp only [ht] at h
      exact hhandle (.inl rfl) (by simp) h
    | some t =>
      simp only [ht] at h
      split at h
      · next halive =>
        cases haction : (t.peekHandler control ec chunk).2 with
        | close =>
          simp only [haction] at h
          exact hhandle (.inl rfl) (by simp [Quiet]) h
        | informAboutConnection =>
          simp only [haction] at h
          exact hhandle (.inr ⟨id, rfl⟩) (by simp [Quiet]) h
        | connectTunnels client =>
          simp only [haction] at h
          obtain ⟨s, hrun, rfl⟩ := handle_eq_some.mp h
          have hnames : r.names (.peeked id control ec chunk) = some (client, id) :=
            names_eq_some.mpr ⟨control, ec, chunk, t, rfl, hpeeking, hlength, halive, ht, haction⟩
          have howned : ∃ u, (r.service.peekedState id control ec chunk).tunnel id = some u ∧
              0 < u.owners := by
            unfold peekedState
            rw [tunnel_modify, if_pos rfl, ht]
            exact ⟨_, rfl, Nat.succ_pos _⟩
          refine Sound.connect (s := r.service.peekedState id control ec chunk) hs
            (fun j hj => (alive_enter halive (fun _ => rfl) j).trans (hr.accounted.entries j hj))
            (peekBuffer_peekedState ht haction) howned ?_ hrun
          refine or_iff_not_imp_left.mpr fun hne after hclient hafter hbytes => ?_
          unfold peekedState at hafter
          rw [tunnel_modify, if_neg hne] at hafter
          exact pipeOperation_of_sparing hspares hnames hclient hafter hbytes
      · exact hhandle (.inl rfl) (by simp) h
  | wrote source target ec =>
    simp only [step, Option.ite_none_right_eq_some] at h
    exact hhandle (.inl rfl) (by cases ec <;> simp [Service.wrote, Quiet]) h.2
  | close id =>
    simp only [step, Option.ite_none_right_eq_some] at h
    exact hhandle (.inl rfl) (by simp [Quiet]) h.2

/-- **The lifetimes of the sessions.**  In every run, whatever is closed or fails and in whichever
    order: a session that exists is open and in the table, or it is closed, out of the table, and
    owned by the initial writes in flight and by nobody else; and what is in the table or owned by a
    write exists.  If moreover every completion meets the condition, no function has used a session
    that does not. -/
theorem session_lifetimes {events : List Event} {r : ServiceRun}
    (hrun : run ServiceRun.step {} events = some r) :
    (∀ j t, r.service.tunnel j = some t → t.owners = r.service.holds j ∧
        ((t.wasClosed = false ∧ j ∈ r.service.sessions) ∨
          (t.wasClosed = true ∧ j ∉ r.service.sessions ∧ 0 < r.service.holds j))) ∧
      (∀ j, j ∈ r.service.sessions ∨ 0 < r.service.holds j → ∃ t, r.service.tunnel j = some t) ∧
      (Along ServiceRun.step (fun r e => r.sparing e = true) {} events → Sound r.service) := by
  have hkept : Kept r := run_preserves (fun _ _ _ hr h => hr.step h) kept_empty hrun
  have hsound : Along ServiceRun.step (fun r e => r.sparing e = true) {} events →
      Sound r.service := fun hspares =>
    (run_invariant (I := fun r => Kept r ∧ Sound r.service)
      (fun _ _ _ hr hg h => ⟨hr.1.step h, hr.2.step hr.1 hg h⟩)
      ⟨kept_empty, fun _ h => by cases h⟩ hspares hrun).2
  obtain ⟨haccounted, hentered, -⟩ := hkept
  refine ⟨fun j t ht => ?_, fun j hj => ?_, hsound⟩
  · have howners := haccounted.owners j t ht
    rw [List.count_nil, Nat.zero_add] at howners
    refine ⟨howners, ?_⟩
    cases hclosed : t.wasClosed with
    | false => exact .inl ⟨rfl, hentered.present ((mem_openIds _).mpr ⟨t, ht, hclosed⟩)⟩
    | true =>
      have hnotOpen : j ∉ r.service.openIds := by
        intro hopen
        obtain ⟨t', ht', hnot⟩ := (mem_openIds _).mp hopen
        rw [Option.some.inj (ht.symm.trans ht'), hnot] at hclosed
        cases hclosed
      -- nothing is about to leave the table, ...
      have hgone : j ∉ r.service.sessions := by
        intro hmem
        obtain ⟨_, hno, -⟩ := hentered.leaving j hmem hnotOpen
        cases hno
      -- ... and nothing is about to be destroyed, so the session is alive
      have halive : r.service.alive j = true := by
        by_contra hdead
        rcases haccounted.dying j (by rw [ht]; rfl) (by simpa using hdead) with hno | hno <;>
          cases hno
      obtain ⟨t', ht', hor⟩ := (alive_iff _).mp halive
      rw [← Option.some.inj (ht.symm.trans ht'), howners] at hor
      exact .inr ⟨rfl, hgone, hor.resolve_left hgone⟩
  · have halive : r.service.alive j = true :=
      hj.elim (haccounted.entries j) (haccounted.held j)
    obtain ⟨t, ht, -⟩ := (alive_iff _).mp halive
    exact ⟨t, ht⟩

/-- The condition is needed: a publisher side that is piped already is named, and `link` uses it
    after its end. -/
example : (run ServiceRun.step {} eventsLinkingPublisher).map
    (fun r => decide (.dangling "p" ∈ r.service.effects)) = some true := by decide +kernel

/-- A client is closed while its initial bytes are being written. -/
def eventsClosedWhileWriting : List Event :=
  [.accept "c", .accept "p",
    .peeked "c" (some (viewNaming "c")) false (asciiString "x"),
    .peeked "p" (some (viewNaming "c")) false (chunkNaming "c"),
    .close "c"]

/-- It has left the table, and the write owns it. -/
theorem session_lifetimes_closedWhileWriting :
    ∃ r t, run ServiceRun.step {} eventsClosedWhileWriting = some r ∧
      r.service.tunnel "c" = some t ∧ t.wasClosed = true ∧ t.owners = 1 ∧
      "c" ∉ r.service.sessions ∧ 0 < r.service.holds "c" ∧ Sound r.service := by
  have hsome : ∃ r t, run ServiceRun.step {} eventsClosedWhileWriting = some r ∧
      r.service.tunnel "c" = some t ∧ t.wasClosed = true ∧ r.service.holds "c" = 1 :=
    ⟨_, _, Option.eq_some_of_isSome (by decide +kernel),
      Option.eq_some_of_isSome (by decide +kernel), by decide +kernel, by decide +kernel⟩
  obtain ⟨r, t, hrun, ht, hclosed, hheld⟩ := hsome
  obtain ⟨hsessions, -, hsound⟩ := session_lifetimes hrun
  obtain ⟨howners, hstate⟩ := hsessions "c" t ht
  rcases hstate with ⟨hopen, -⟩ | ⟨-, hgone, hpos⟩
  · rw [hopen] at hclosed
    cases hclosed
  · exact ⟨r, t, hrun, ht, hclosed, howners.trans hheld, hgone, hpos,
      hsound (by decide +kernel)⟩

end ServiceRun

end TunnelBore.Broker
