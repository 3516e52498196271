import TunnelBore.Broker.Closing

namespace TunnelBore.Broker

open TunnelBore.Lib

/-!
# Removing a session from the table

`closeTunnelSide(id, wasPreclosed)` looks the session up, closes it unless it is closed
already, and erases the iterator it found.  This file says what a call of it does to the
table, in every state.

* `AgreeOutside R` — the frame: tasks about the sessions of a set `R` that pipe operations do
  not lead out of leave every other session and entry alone (`confined_perform`);
* `count_erase` — an entry is erased as often as it leaves the table;
* `ValidErases` — the stacks on which every iterator is still valid when it is erased;
* `safeRemoval_iff` — a call removes safely exactly when the session was closed before or is
  not in the table: `close` of an open session erases the entry itself, under the iterator of
  the call that closes it.
-/

namespace Service

variable {s s' u : Service} {id : TunnelId} {R : Set TunnelId}

/-! ### The frame -/

/-- The `sideOther` of a session's pipe operation. -/
def pipeOf (s : Service) (j : TunnelId) : Option TunnelId :=
  (s.tunnel j).bind TunnelSession.pipeOperation

/-- The pipe operations of the sessions in `R` lead to sessions in `R`. -/
def PipeClosed (R : Set TunnelId) (s : Service) : Prop := ∀ j ∈ R, ∀ k, s.pipeOf j = some k → k ∈ R

/-- The pipe operations of two sessions that are piped to each other stay between them. -/
theorem pipeClosed_pair {s : Service} {x y : TunnelId} (hx : s.pipeOf x = some y)
    (hy : s.pipeOf y = some x) : PipeClosed {x, y} s := by
  rintro j (rfl | rfl) k hk
  · rw [hx] at hk
    exact .inr (Option.some.inj hk).symm
  · rw [hy] at hk
    exact .inl (Option.some.inj hk).symm

/-- Sessions outside `R` and their entries are the same. -/
def AgreeOutside (R : Set TunnelId) (s s' : Service) : Prop :=
  ∀ j, j ∉ R → s'.tunnel j = s.tunnel j ∧ (j ∈ s'.sessions ↔ j ∈ s.sessions)

theorem AgreeOutside.refl (R : Set TunnelId) (s : Service) : AgreeOutside R s s :=
  fun _ _ => ⟨rfl, Iff.rfl⟩

theorem AgreeOutside.trans (h : AgreeOutside R s s') (h' : AgreeOutside R s' u) :
    AgreeOutside R s u :=
  fun j hj => ⟨(h' j hj).1.trans (h j hj).1, (h' j hj).2.trans (h j hj).2⟩

theorem agreeOutside_modify (hid : id ∈ R) (f : TunnelSession → TunnelSession) :
    AgreeOutside R s (s.modify id f) := by
  intro j hj
  have hne : j ≠ id := by rintro rfl; exact hj hid
  rw [tunnel_modify, if_neg hne]
  exact ⟨rfl, Iff.rfl⟩

theorem agreeOutside_of_tunnel (htunnel : s'.tunnel = s.tunnel)
    (hsessions : ∀ j, j ∉ R → (j ∈ s'.sessions ↔ j ∈ s.sessions)) : AgreeOutside R s s' :=
  fun j hj => ⟨by rw [htunnel], hsessions j hj⟩

theorem pipeOf_modify (f : TunnelSession → TunnelSession) (j : TunnelId) :
    (s.modify id f).pipeOf j =
      if j = id then (s.tunnel id).bind fun t => (f t).pipeOperation else s.pipeOf j := by
  unfold pipeOf
  rw [tunnel_modify]
  split
  · cases s.tunnel id <;> rfl
  · rfl

/-- A change that leaves the pipe operation alone keeps a set closed. -/
theorem PipeClosed.modify (h : PipeClosed R s) {f : TunnelSession → TunnelSession}
    (hf : ∀ t, (f t).pipeOperation = t.pipeOperation) : PipeClosed R (s.modify id f) := by
  intro j hj k hk
  rw [pipeOf_modify] at hk
  split at hk
  · next hji =>
    subst hji
    simp only [hf] at hk
    exact h j hj k hk
  · exact h j hj k hk

theorem PipeClosed.of_tunnel (h : PipeClosed R s) (htunnel : s'.tunnel = s.tunnel) :
    PipeClosed R s' := by
  intro j hj k hk
  rw [pipeOf, htunnel] at hk
  exact h j hj k hk

end Service

/-- The sessions an act is about. -/
def Act.ids : Act → List TunnelId
  | .close id                    => [id]
  | .closeGuarded id             => [id]
  | .pipeClose original other    => [original, other]
  | .pipeReset id                => [id]
  | .pipeAssign id other         => [id, other]
  | .release id                  => [id]
  | .destroy id                  => [id]
  | .free id                     => [id]
  | .closeTunnelSide id _        => [id]
  | .closeTunnelSideGuarded id _ => [id]
  | .erase id                    => [id]
  | .connectTunnels client publisher => [client, publisher]
  | .connectTunnelsGuarded client publisher => [client, publisher]
  | .linkHalf id other           => [id, other]

/-- A task that is only about sessions in `R`. -/
def Within (R : Set TunnelId) : Task Mutex Act → Prop
  | .act a => ∀ id ∈ a.ids, id ∈ R
  | _      => True

namespace Service

variable {s s' u : Service} {id : TunnelId} {R : Set TunnelId}

/-- What the frame says of one call: nothing outside `R` changes, `R` stays closed, and the
    pushed tasks are about `R` again. -/
structure Confined (R : Set TunnelId) (s : Service) (result : Service × Program) : Prop where
  agree : AgreeOutside R s result.1
  closed : PipeClosed R result.1
  within : ∀ t ∈ result.2, Within R t

/-- A call that changes nothing and pushes tasks about `R` is confined. -/
theorem Confined.same (h : PipeClosed R s) {p : Program} (hp : ∀ t ∈ p, Within R t) :
    Confined R s (s, p) :=
  ⟨AgreeOutside.refl R s, h, hp⟩

/-- The record is not part of the frame. -/
theorem Confined.record (h : PipeClosed R s) (e : Effect) {p : Program}
    (hp : ∀ t ∈ p, Within R t) : Confined R s (s.record e, p) :=
  ⟨agreeOutside_of_tunnel rfl fun _ _ => Iff.rfl, h.of_tunnel rfl, hp⟩

/-- Pushing a destructor of a session in `R` stays within `R`. -/
theorem within_destroyIfUnowned (hid : id ∈ R) : ∀ t ∈ s.destroyIfUnowned id, Within R t := by
  unfold destroyIfUnowned
  split <;> simp [Within, Act.ids, hid]

/-- So does pushing the end of its pipe operation. -/
theorem DropsPipe.within {p : Program} (hp : s.DropsPipe id p) (h : PipeClosed R s)
    (hid : id ∈ R) : ∀ t ∈ p, Within R t := by
  rcases hp with ⟨-, rfl⟩ | ⟨other, hother, rfl⟩
  · simp
  · have hmem : other ∈ R := h id hid other hother
    simp [Within, Act.ids, hid, hmem]

theorem confined_foldl_acquire (h : PipeClosed R s) (l : List TunnelId) (hl : ∀ j ∈ l, j ∈ R) :
    AgreeOutside R s (l.foldl acquire s) ∧ PipeClosed R (l.foldl acquire s) := by
  induction l generalizing s with
  | nil => exact ⟨AgreeOutside.refl R s, h⟩
  | cons j l ih =>
    obtain ⟨hj, hl⟩ := List.forall_mem_cons.mp hl
    have hacquire : PipeClosed R (s.acquire j) := h.modify fun _ => rfl
    obtain ⟨hagree, hclosed⟩ := ih hacquire hl
    exact ⟨(agreeOutside_modify hj _).trans hagree, hclosed⟩

/-- Setting a pipe to a session in `R`, or clearing it, keeps `R` closed. -/
theorem PipeClosed.setPipe (h : PipeClosed R s) {pipe : Option TunnelId}
    (hpipe : ∀ k, pipe = some k → k ∈ R) :
    PipeClosed R (s.modify id fun t => { t with pipeOperation := pipe }) := by
  intro j hj k hk
  rw [pipeOf_modify] at hk
  split at hk
  · obtain ⟨t, -, hk⟩ := Option.bind_eq_some_iff.mp hk
    exact hpipe k hk
  · exact h j hj k hk

theorem PipeClosed.free (h : PipeClosed R s) : PipeClosed R (s.free id).1 := by
  intro j hj k hk
  rw [pipeOf, tunnel_free] at hk
  split at hk
  · simp at hk
  · exact h j hj k hk

theorem agreeOutside_free (hid : id ∈ R) : AgreeOutside R s (s.free id).1 := by
  intro j hj
  have hne : j ≠ id := by rintro rfl; exact hj hid
  rw [tunnel_free, if_neg hne]
  exact ⟨rfl, Iff.rfl⟩

/-- **The frame of one task.** -/
theorem confined_perform (h : PipeClosed R s) {t : Task Mutex Act} (ht : Within R t) :
    Confined R s (perform expand s t) := by
  have hout := outcome s t
  generalize perform expand s t = result at hout ⊢
  -- a task about a session is about a session in `R`
  cases hout with
  | closes htunnel _ hpipe =>
    have hid := ht _ List.mem_cons_self
    refine ⟨agreeOutside_modify hid _, h.modify fun _ => rfl, ?_⟩
    rcases hpipe with rfl | ⟨other, hpipe, rfl⟩
    · simp [Within, Act.ids, hid]
    · have hother : other ∈ R := h _ hid other (by rw [pipeOf, htunnel]; exact hpipe)
      simp [Within, Act.ids, hid, hother]
  | @pipeClose original other ends hends =>
    have hmem : ∀ j ∈ ends, j ∈ R := fun j hj => ht j (hends.subset hj)
    obtain ⟨hagree, hclosed⟩ := confined_foldl_acquire h ends hmem
    refine ⟨hagree, hclosed, fun t ht' => ?_⟩
    rcases List.mem_append.mp ht' with ht' | ht'
    · obtain ⟨j, hj, rfl⟩ := List.mem_map.mp ht'
      simpa [Within, Act.ids] using hmem j hj
    · obtain ⟨j, hj, rfl⟩ := List.mem_map.mp ht'
      simpa [Within, Act.ids] using hmem j (List.mem_reverse.mp hj)
  | @pipeReset id other hpipe =>
    have hid := ht id List.mem_cons_self
    have hother : other ∈ R := h id hid other hpipe
    refine ⟨agreeOutside_modify hid _, h.setPipe fun _ hk => absurd hk (by simp), ?_⟩
    simp [Within, Act.ids, hid, hother]
  | @pipeAssign id other p hp =>
    have hid := ht id (by simp [Act.ids])
    have hother := ht other (by simp [Act.ids])
    refine ⟨agreeOutside_modify hid _, h.setPipe fun k hk => ?_, hp.within h hid⟩
    exact Option.some.inj hk ▸ hother
  | release _ _ hs' =>
    subst hs'
    have hid := ht _ List.mem_cons_self
    exact ⟨agreeOutside_modify hid _, h.modify fun _ => rfl, within_destroyIfUnowned hid⟩
  | free hp =>
    have hid := ht _ List.mem_cons_self
    exact ⟨agreeOutside_free hid, h.free, hp.within h hid⟩
  | @erase id _ _ hs' =>
    subst hs'
    have hid := ht id List.mem_cons_self
    refine ⟨agreeOutside_of_tunnel rfl fun j hj => ?_, h.of_tunnel rfl,
      within_destroyIfUnowned hid⟩
    have hne : j ≠ id := by rintro rfl; exact hj hid
    simp [hne]
  | @linkWrite id other =>
    obtain ⟨hagree, hclosed⟩ := confined_foldl_acquire h [id, other] ht
    exact ⟨hagree, hclosed.of_tunnel rfl, by simp⟩
  | link => exact Confined.record h _ (by simpa [Within, Act.ids, and_comm] using ht)
  | eraseInvalid => exact Confined.record h _ (by simp)
  | linkMissing => exact Confined.record h _ (by simp)
  | linkDead => exact Confined.record h _ (by simp)
  | lock => exact Confined.same h (by simp)
  | unlock => exact Confined.same h (by simp)
  | noPipe => exact Confined.same h (by simp)
  | notOwned => exact Confined.same h (by simp)
  | wasClosed => exact Confined.same h (by simp [Within])
  | sideGone => exact Confined.same h (by simp [Within])
  | @sideFound id pre => exact Confined.same h (by cases pre <;> simpa [Within, Act.ids] using ht)
  | close => exact Confined.same h (by simpa [Within, Act.ids] using ht)
  | destroy => exact Confined.same h (by simpa [Within, Act.ids] using ht)
  | closeTunnelSide => exact Confined.same h (by simpa [Within, Act.ids] using ht)
  | connectTunnels => exact Confined.same h (by simpa [Within, Act.ids] using ht)
  | linkPipe => exact Confined.same h (by simpa [Within, Act.ids] using ht)
  | @clientGone client publisher =>
    exact Confined.same h (by simpa [Within, Act.ids] using ht publisher (by simp [Act.ids]))
  | @publisherGone client publisher =>
    exact Confined.same h (by simpa [Within, Act.ids] using ht client (by simp [Act.ids]))

/-- **The frame.**  A stack of tasks about `R` changes nothing outside `R`. -/
theorem agreeOutside_of_executes (h : PipeClosed R s) {p : Program} (hp : ∀ t ∈ p, Within R t)
    (hrun : Executes expand s p s') : AgreeOutside R s s' ∧ PipeClosed R s' := by
  refine Executes.invariant (I := fun u => AgreeOutside R s u ∧ PipeClosed R u) (T := Within R)
    ?_ hrun ⟨AgreeOutside.refl R s, h⟩ hp
  intro u t ⟨hagree, hclosed⟩ ht
  have hstep := confined_perform hclosed ht
  exact ⟨⟨hagree.trans hstep.agree, hstep.closed⟩, hstep.within⟩

/-! ### The record of erasures -/

@[simp] theorem foldl_acquire_sessions (l : List TunnelId) :
    (l.foldl acquire s).sessions = s.sessions := by
  induction l generalizing s with
  | nil => rfl
  | cons j l ih => exact ih

@[simp] theorem foldl_acquire_effects (l : List TunnelId) :
    (l.foldl acquire s).effects = s.effects := by
  induction l generalizing s with
  | nil => rfl
  | cons j l ih => exact ih

/-- The entries one task takes out of the table. -/
def erased (s : Service) : Task Mutex Act → List Effect
  | .act (.erase id) => [.erase id (decide (id ∈ s.sessions))]
  | _                => []

/-- What one task does to the record and the table: only `erase` takes an entry out or
    records an erasure, of the entry it is called for. -/
theorem perform_effects (s : Service) (t : Task Mutex Act) :
    ∃ others, (perform expand s t).1.effects = s.effects ++ erased s t ++ others ∧
      (∀ id valid, Effect.erase id valid ∉ others) ∧
      (perform expand s t).1.sessions =
        match t with
        | .act (.erase id) => s.sessions.erase id
        | _                => s.sessions := by
  have hquiet : ∀ {u : Service}, u.effects = s.effects → u.sessions = s.sessions →
      ∃ others, u.effects = s.effects ++ [] ++ others ∧
        (∀ id valid, Effect.erase id valid ∉ others) ∧ u.sessions = s.sessions :=
    fun he hs => ⟨[], by simp [he], by simp, hs⟩
  have hrecord : ∀ {u : Service} {e : Effect}, u.effects = s.effects ++ [e] →
      u.sessions = s.sessions → (∀ id valid, e ≠ .erase id valid) →
      ∃ others, u.effects = s.effects ++ [] ++ others ∧
        (∀ id valid, Effect.erase id valid ∉ others) ∧ u.sessions = s.sessions :=
    fun he hs hne => ⟨[_], by rw [he, List.append_nil],
      fun id valid hmem => hne id valid (List.mem_singleton.mp hmem).symm, hs⟩
  have hout := outcome s t
  generalize perform expand s t = result at hout ⊢
  cases hout with
  | pipeClose => exact hquiet (foldl_acquire_effects _) (foldl_acquire_sessions _)
  | release _ _ hs' => exact hquiet (by rw [hs']; rfl) (by rw [hs']; rfl)
  | erase hmem hs' =>
    subst hs'
    exact ⟨[], by simp [erased, hmem], by simp, rfl⟩
  | eraseInvalid hgone =>
    exact ⟨[], by simp [erased, hgone], by simp, (Finset.erase_eq_of_notMem hgone).symm⟩
  | link => exact hrecord rfl rfl (by simp)
  | linkMissing => exact hrecord rfl rfl (by simp)
  | linkWrite => exact hrecord rfl rfl (by simp)
  | linkDead => exact hrecord rfl rfl (by simp)
  | _ => exact hquiet rfl rfl

/-- No task puts an entry into the table. -/
theorem sessions_subset_of_executes {p : Program} (h : Executes expand s p s') :
    s'.sessions ⊆ s.sessions := by
  refine h.invariant (I := fun u => u.sessions ⊆ s.sessions) (T := fun _ => True) ?_ subset_rfl
    fun _ _ => trivial
  intro u t hu _
  refine ⟨?_, fun _ _ => trivial⟩
  obtain ⟨-, -, -, hsessions⟩ := perform_effects u t
  rw [hsessions]
  split
  · exact (Finset.erase_subset _ _).trans hu
  · exact hu

/-- **An entry is erased as often as it leaves the table.** -/
theorem count_erase {p : Program} (h : Executes expand s p s') (id : TunnelId) :
    s'.effects.count (.erase id true) + (if id ∈ s'.sessions then 1 else 0) =
      s.effects.count (.erase id true) + (if id ∈ s.sessions then 1 else 0) := by
  refine h.invariant (T := fun _ => True) (I := fun u =>
    u.effects.count (.erase id true) + (if id ∈ u.sessions then 1 else 0) =
      s.effects.count (.erase id true) + (if id ∈ s.sessions then 1 else 0)) ?_ rfl
    fun _ _ => trivial
  intro u t hu _
  refine ⟨?_, fun _ _ => trivial⟩
  obtain ⟨others, heffects, hothers, hsessions⟩ := perform_effects u t
  rw [heffects, List.count_append, List.count_append,
    List.count_eq_zero_of_not_mem (hothers id true), hsessions, ← hu]
  unfold erased
  split
  · next j =>
    by_cases hj : j = id
    · subst hj
      by_cases hmem : j ∈ u.sessions <;> simp [hmem]
    · have hne : Effect.erase j (decide (j ∈ u.sessions)) ≠ .erase id true := by simp [hj]
      simp [List.count_cons_of_ne hne, Ne.symm hj]
  · next hne =>
    simp only [List.count_nil, Nat.add_zero]

/-- Erasures through an invalid iterator stay in the record. -/
theorem count_invalid_le {p : Program} (h : Executes expand s p s') (id : TunnelId) :
    s.effects.count (.erase id false) ≤ s'.effects.count (.erase id false) := by
  refine h.invariant (T := fun _ => True) (I := fun u =>
    s.effects.count (.erase id false) ≤ u.effects.count (.erase id false)) ?_ le_rfl
    fun _ _ => trivial
  intro u t hu _
  refine ⟨?_, fun _ _ => trivial⟩
  obtain ⟨others, heffects, -, -⟩ := perform_effects u t
  rw [heffects, List.count_append, List.count_append]
  omega

end Service

/-! ### Stacks with valid iterators -/

/-- A task that erases only iterators it has just found: `erase` itself is not one, and
    neither is a `closeTunnelSide` that closes first. -/
def Tidy : Task Mutex Act → Prop
  | .act (.erase _)                       => False
  | .act (.closeTunnelSide _ pre)         => pre = true
  | .act (.closeTunnelSideGuarded _ pre)  => pre = true
  | .act (.connectTunnels ..)             => False
  | .act (.connectTunnelsGuarded ..)      => False
  | _                                     => True

namespace Service

variable {s s' u : Service} {id : TunnelId} {R : Set TunnelId}

/-- A stack of tidy tasks, possibly with the erasure of an entry that is in the table on
    top. -/
def ValidErases (s : Service) (p : Program) : Prop :=
  (∀ t ∈ p, Tidy t) ∨
    ∃ id rest, p = .act (.erase id) :: rest ∧ id ∈ s.sessions ∧ ∀ t ∈ rest, Tidy t

theorem tidy_destroyIfUnowned : ∀ t ∈ s.destroyIfUnowned id, Tidy t := by
  unfold destroyIfUnowned
  split <;> simp [Tidy]

theorem DropsPipe.tidy {p : Program} (hp : s.DropsPipe id p) : ∀ t ∈ p, Tidy t := by
  rcases hp with ⟨-, rfl⟩ | ⟨other, -, rfl⟩ <;> simp [Tidy]

/-- A tidy task pushes tidy tasks, or an erasure of an entry it has just found. -/
theorem tidy_perform {t : Task Mutex Act} (ht : Tidy t) :
    (∀ t' ∈ (perform expand s t).2, Tidy t') ∨
      ∃ id, id ∈ s.sessions ∧
        perform expand s t = (s, [.act (.erase id), .unlock .sessionGuard]) := by
  have hout := outcome s t
  generalize perform expand s t = result at hout ⊢
  cases hout with
  | closes _ _ hpipe => rcases hpipe with rfl | ⟨other, -, rfl⟩ <;> exact .inl (by simp [Tidy])
  | pipeClose =>
    refine .inl fun t' ht' => ?_
    rcases List.mem_append.mp ht' with ht' | ht' <;>
    · obtain ⟨j, -, rfl⟩ := List.mem_map.mp ht'
      trivial
  | pipeAssign hp => exact .inl hp.tidy
  | free hp => exact .inl hp.tidy
  | release => exact .inl tidy_destroyIfUnowned
  | closeTunnelSide => exact .inl (by simpa [Tidy] using ht)
  | @sideFound id pre hmem =>
    obtain rfl : pre = true := ht
    exact .inr ⟨id, hmem, rfl⟩
  | erase => exact ht.elim
  | eraseInvalid => exact ht.elim
  | connectTunnels => exact ht.elim
  | clientGone => exact ht.elim
  | publisherGone => exact ht.elim
  | link => exact ht.elim
  | _ => exact .inl (by simp [Tidy])

/-- **Tidy stacks never erase through an invalid iterator.** -/
theorem count_invalid_of_validErases {p : Program} (hp : ValidErases s p)
    (h : Executes expand s p s') (id : TunnelId) :
    s'.effects.count (.erase id false) = s.effects.count (.erase id false) := by
  have hrule := h.stack_invariant (J := fun u p =>
    u.effects.count (.erase id false) = s.effects.count (.erase id false) ∧ ValidErases u p)
    ?_ ⟨rfl, hp⟩
  · exact hrule.1
  rintro u t ts ⟨hcount, hvalid⟩
  obtain ⟨others, heffects, hothers, -⟩ := perform_effects u t
  have hcount' : erased u t = [] ∨ (∃ j, erased u t = [.erase j true]) →
      (perform expand u t).1.effects.count (.erase id false) =
        s.effects.count (.erase id false) := by
    intro herased
    have hzero : (erased u t).count (.erase id false) = 0 := by
      rcases herased with h | ⟨j, h⟩ <;> simp [h]
    rw [heffects, List.count_append, List.count_append, hzero,
      List.count_eq_zero_of_not_mem (hothers id false), hcount, Nat.add_zero]
  rcases hvalid with htidy | ⟨j, rest, hstack, hmem, htidy⟩
  · obtain ⟨ht, hts⟩ := List.forall_mem_cons.mp htidy
    constructor
    · refine hcount' (.inl ?_)
      unfold erased
      split
      · exact ht.elim
      · rfl
    · rcases tidy_perform (s := u) ht with hpush | ⟨j, hmem, hperform⟩
      · exact .inl (List.forall_mem_append.mpr ⟨hpush, hts⟩)
      · rw [hperform]
        exact .inr ⟨j, _, rfl, hmem, List.forall_mem_cons.mpr ⟨trivial, hts⟩⟩
  · obtain ⟨rfl, rfl⟩ := List.cons.inj hstack
    constructor
    · exact hcount' (.inr ⟨j, by simp [erased, hmem]⟩)
    · refine .inl (List.forall_mem_append.mpr ⟨?_, htidy⟩)
      show ∀ t' ∈ (u.erase j).2, Tidy t'
      unfold erase
      rw [if_pos hmem]
      exact tidy_destroyIfUnowned

/-! ### Closing an open session removes its entry -/

/-- The guarded part of `close` of an open session. -/
theorem closeGuarded_of_open {t : TunnelSession} (ht : s.tunnel id = some t)
    (hopen : t.wasClosed = false) :
    s.closeGuarded id = (s.modify id fun t => { t with wasClosed := true },
      (match t.pipeOperation with
        | none       => []
        | some other => [.act (.pipeClose id other), .act (.pipeReset id)]) ++
      [.unlock (.closeLock id), .act (.closeTunnelSide id true)]) := by
  unfold closeGuarded
  cases hpipe : t.pipeOperation with
  | none => simp [ht, hopen, hpipe]
  | some other => simp [ht, hopen, hpipe]

/-- After `close` of an open session the session is not open and its entry is gone. -/
theorem close_of_open (hopen : id ∈ s.openIds) (h : Executes expand s [.act (.close id)] u) :
    id ∉ u.openIds ∧ id ∉ u.sessions := by
  obtain ⟨t, ht, hclosed⟩ := s.mem_openIds.mp hopen
  -- what `closeGuarded` pushes before leaving the map does not matter
  rw [executes_act, expand, List.append_nil, executes_lock, executes_act, List.append_nil, expand,
    closeGuarded_of_open ht hclosed] at h
  constructor
  · intro hmem
    have hshrunk := (shrinks_of_executes h).1 hmem
    rw [mem_openIds, tunnel_modify, if_pos rfl, ht] at hshrunk
    simp at hshrunk
  · obtain ⟨v, -, hlast⟩ := executes_append.mp h
    rw [executes_unlock, executes_act, expand, List.append_nil, executes_lock, executes_act,
      List.append_nil, expand, closeTunnelSideGuarded] at hlast
    split at hlast
    · rw [if_pos rfl, List.nil_append, executes_cons] at hlast
      intro hmem
      obtain ⟨-, -, -, hsessions⟩ := perform_effects v (.act (.erase id))
      have := sessions_subset_of_executes hlast hmem
      rw [hsessions] at this
      exact absurd this (Finset.notMem_erase id _)
    · next hnot => exact fun hmem => hnot (sessions_subset_of_executes hlast hmem)

/-! ### Safe removal -/

/-- The sessions the pipe operations of `id` lead to. -/
inductive PipedFrom (s : Service) (id : TunnelId) : TunnelId → Prop
  | direct {j : TunnelId} (h : s.pipeOf id = some j) : PipedFrom s id j
  | further {j k : TunnelId} (h : PipedFrom s id j) (hk : s.pipeOf j = some k) : PipedFrom s id k

/-- What removing the entry of `id` should do to the table: only valid iterators are erased,
    the entry leaves the table once if it was there, it leaves a closed session behind when it
    was to be closed, and only the sessions it is piped to are touched besides. -/
structure SafeRemoval (id : TunnelId) (wasPreclosed : Bool) (s s' : Service) : Prop where
  valid : ∀ j, s'.effects.count (.erase j false) = s.effects.count (.erase j false)
  once : s'.effects.count (.erase id true) =
    s.effects.count (.erase id true) + if id ∈ s.sessions then 1 else 0
  gone : id ∉ s'.sessions
  closed : id ∈ s.sessions → wasPreclosed = false → id ∉ s'.openIds
  others : ∀ j, j ≠ id → ¬PipedFrom s id j →
    s'.tunnel j = s.tunnel j ∧ (j ∈ s'.sessions ↔ j ∈ s.sessions)

/-- The call of `closeTunnelSide`, unfolded to the lookup. -/
theorem executes_closeTunnelSide {wasPreclosed : Bool} :
    Executes expand s [.act (.closeTunnelSide id wasPreclosed)] s' ↔
      if id ∈ s.sessions then
        Executes expand s ((if wasPreclosed then [] else [.act (.close id)]) ++
          [.act (.erase id), .unlock .sessionGuard]) s'
      else s' = s := by
  rw [executes_act, expand, List.append_nil, executes_lock, executes_act, List.append_nil, expand,
    closeTunnelSideGuarded]
  split
  · rfl
  · rw [executes_unlock, executes_nil]

/-- The guarded part of `close` of a session that is not open. -/
theorem closeGuarded_of_notOpen (h : id ∉ s.openIds) :
    s.closeGuarded id = (s, [.unlock (.closeLock id)]) := by
  unfold closeGuarded
  cases ht : s.tunnel id with
  | none => rfl
  | some t =>
    have hclosed : t.wasClosed = true := by
      by_contra hopen
      exact h (s.mem_openIds.mpr ⟨t, ht, by simpa using hopen⟩)
    simp [hclosed]

/-- `close` of a session that is not open does nothing. -/
theorem close_of_notOpen (h : id ∉ s.openIds) (p : Program) :
    Executes expand s (.act (.close id) :: p) s' ↔ Executes expand s p s' := by
  rw [executes_act, expand, List.cons_append, executes_lock, List.cons_append, List.nil_append,
    executes_act, expand, closeGuarded_of_notOpen h, List.cons_append, executes_unlock,
    List.nil_append]

/-- The entry is erased by the call itself: the removal is safe. -/
theorem safeRemoval_of_erase {wasPreclosed : Bool} (hmem : id ∈ s.sessions)
    (hclosed : wasPreclosed = false → id ∉ s.openIds)
    (h : Executes expand s [.act (.erase id), .unlock .sessionGuard] s') :
    SafeRemoval id wasPreclosed s s' := by
  have hgone : id ∉ s'.sessions := by
    rw [executes_act] at h
    intro hin
    obtain ⟨-, -, -, hsessions⟩ := perform_effects s (.act (.erase id))
    have := sessions_subset_of_executes h hin
    rw [show (expand s (.erase id)).1.sessions = s.sessions.erase id from hsessions] at this
    exact absurd this (Finset.notMem_erase id _)
  have hpiped : PipeClosed {j | j = id ∨ PipedFrom s id j} s := by
    rintro j (rfl | hj) k hk
    · exact .inr (.direct hk)
    · exact .inr (.further hj hk)
  refine ⟨fun j => ?_, ?_, hgone, ?_, ?_⟩
  · exact count_invalid_of_validErases (.inr ⟨id, _, rfl, hmem, by simp [Tidy]⟩) h j
  · have hcount := count_erase h id
    rw [if_neg hgone, Nat.add_zero] at hcount
    exact hcount
  · intro _ hpre hopen
    exact hclosed hpre ((shrinks_of_executes h).1 hopen)
  · intro j hne hnot
    refine (agreeOutside_of_executes hpiped ?_ h).1 j (by simp [hne, hnot])
    simp [Within, Act.ids]

/-- **When a removal is safe.**  `closeTunnelSide` always returns, and it removes safely exactly
    when there is no entry, or it is told that the session was closed, or the session was. -/
theorem safeRemoval_iff (s : Service) (id : TunnelId) (wasPreclosed : Bool) :
    (∃ s', s.execute [.act (.closeTunnelSide id wasPreclosed)] = some s' ∧
        SafeRemoval id wasPreclosed s s') ↔
      id ∉ s.sessions ∨ wasPreclosed = true ∨ id ∉ s.openIds := by
  simp only [execute_eq_some, executes_closeTunnelSide]
  by_cases hmem : id ∈ s.sessions
  · simp only [hmem, if_true, not_true, false_or]
    constructor
    · rintro ⟨s', hrun, hsafe⟩
      by_contra hcond
      obtain ⟨hpre, hopen⟩ := not_or.mp hcond
      rw [Bool.not_eq_true] at hpre
      rw [not_not] at hopen
      -- `close` takes the entry out, so the outer erasure finds its iterator invalid
      simp only [hpre, Bool.false_eq_true, if_false] at hrun
      obtain ⟨u, hclose, herase⟩ := executes_append.mp hrun
      have hgone := (close_of_open hopen hclose).2
      rw [executes_act, expand, erase, if_neg hgone, List.nil_append] at herase
      have hbefore := count_invalid_le hclose id
      have hafter := count_invalid_le herase id
      rw [effects_record, List.count_append, List.count_singleton_self] at hafter
      have := hsafe.valid id
      omega
    · intro hcond
      obtain ⟨s', hs'⟩ := s.execute_isSome [.act (.erase id), .unlock .sessionGuard]
      rw [execute_eq_some] at hs'
      refine ⟨s', ?_, safeRemoval_of_erase hmem ?_ hs'⟩
      · cases wasPreclosed with
        | true => exact hs'
        | false => exact (close_of_notOpen (by simpa using hcond) _).mpr hs'
      · intro hpre
        simpa [hpre] using hcond
  · simp only [hmem, if_false, not_false_iff, true_or, iff_true]
    refine ⟨s, rfl, ⟨fun _ => rfl, by simp [hmem], hmem, fun h => absurd h hmem, ?_⟩⟩
    exact fun j _ _ => ⟨rfl, Iff.rfl⟩

/-- Both failure branches of `connectTunnels` are a `closeTunnelSide` of the side that is
    left. -/
theorem executes_connectTunnels_failure {client publisher : TunnelId}
    (h : client ∉ s.sessions ∨ publisher ∉ s.sessions) :
    Executes expand s [.act (.connectTunnels client publisher)] s' ↔
      Executes expand s [.act (.closeTunnelSide
        (if client ∉ s.sessions then publisher else client) false)] s' := by
  have hguarded : s.connectTunnelsGuarded client publisher =
      (s, [.act (.closeTunnelSide (if client ∉ s.sessions then publisher else client) false),
        .unlock .sessionGuard]) := by
    unfold connectTunnelsGuarded
    split
    · rfl
    · next hclient => rw [if_pos (h.resolve_left hclient)]
  rw [executes_act, expand, List.append_nil, executes_lock, executes_act, List.append_nil, expand,
    hguarded, ← List.singleton_append (l := [Task.unlock Mutex.sessionGuard]), executes_append]
  simp

/-- **Removal from the session table.**  In every state: a call of `closeTunnelSide` removes
    safely exactly when there is no entry for the id, the caller says the session was closed
    before, or it was; and so do the two failure branches of `connectTunnels`, which never say
    so. -/
theorem removal_safe_iff (s : Service) :
    (∀ id wasPreclosed, (∃ s', s.execute [.act (.closeTunnelSide id wasPreclosed)] = some s' ∧
        SafeRemoval id wasPreclosed s s') ↔
      id ∉ s.sessions ∨ wasPreclosed = true ∨ id ∉ s.openIds) ∧
    (∀ client publisher, client ∉ s.sessions →
      ((∃ s', s.execute [.act (.connectTunnels client publisher)] = some s' ∧
        SafeRemoval publisher false s s') ↔
        publisher ∉ s.sessions ∨ publisher ∉ s.openIds)) ∧
    (∀ client publisher, client ∈ s.sessions → publisher ∉ s.sessions →
      ((∃ s', s.execute [.act (.connectTunnels client publisher)] = some s' ∧
        SafeRemoval client false s s') ↔ client ∉ s.openIds)) := by
  refine ⟨safeRemoval_iff s, ?_, ?_⟩
  · intro client publisher hclient
    have hiff := safeRemoval_iff s publisher false
    simp only [execute_eq_some, executes_connectTunnels_failure (.inl hclient), hclient,
      not_false_iff, if_true] at hiff ⊢
    simpa using hiff
  · intro client publisher hclient hpublisher
    have hiff := safeRemoval_iff s client false
    simp only [execute_eq_some, executes_connectTunnels_failure (.inr hpublisher), hclient,
      not_true, if_false] at hiff ⊢
    simpa using hiff

/-- A publisher side arrives for a client that is gone: its entry is erased by `close` and once
    more through the iterator of the call that closed it. -/
theorem removal_erases_twice :
    let s : Service :=
      { tunnels := [("p", { peekBuffer := [], isPublisherSide := true, owners := 1 })]
        sessions := {"p"} }
    ¬∃ s', s.execute [.act (.connectTunnels "c" "p")] = some s' ∧
      SafeRemoval "p" false s s' := by
  intro s
  rintro ⟨s', hrun, hsafe⟩
  have hrecord : (s.execute [.act (.connectTunnels "c" "p")]).map
      (fun s' => s'.effects.count (.erase "p" false)) = some 1 := by decide
  rw [hrun, Option.map_some, Option.some.injEq, hsafe.valid] at hrecord
  exact absurd hrecord (by decide)

end Service

end TunnelBore.Broker
