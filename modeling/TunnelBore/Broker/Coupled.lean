import TunnelBore.Broker.Lifetimes

namespace TunnelBore.Broker

open TunnelBore.Lib

/-!
# The two sides of a tunnel go together

When one side of a tunnel is closed its pipe operation closes the other one.  The client's side has
no pipe operation while its initial bytes are written: if it is closed then, the publisher's side
stays, until the write has completed.

* `doomed_of_pipe` — no pipe operation ends without closing its sides;
* `linkable_of_connect` — `connectTunnels` leaves two sessions in the table only if it could link
  them;
* `PairState` — the three states of a linked pair: writing, piped, gone;
* `PairState.close`, `PairState.wrote`, `PairState.connect` — what the completions make of a pair;
* `Coupled` — the invariant of runs in which only sessions without a link are linked.
-/

namespace Service

variable {s s' u : Service} {x y c p : TunnelId} {t : Task Mutex Act} {rest : Program}

/-! ### The end of a pipe operation -/

/-- A task that closes `x`, by itself or as a side of a pipe operation. -/
def ClosesSide (x : TunnelId) (t : Task Mutex Act) : Prop :=
  closes t = some x ∨ ∃ original other, t = .act (.pipeClose original other) ∧
    (x = original ∨ x = other)

/-- The session is about to be closed, or it is, or nobody owns it any more. -/
def Doomed (x : TunnelId) (s : Service) (p : Program) : Prop :=
  (∃ t ∈ p, ClosesSide x t) ∨ x ∉ s.openIds ∨ s.alive x = false

/-- A pipe operation that a task takes from its session is closed next. -/
theorem pipe_perform (hpipe : s.pipeOf x = some y) :
    (perform expand s t).1.pipeOf x = some y ∨
      .act (.pipeClose x y) ∈ (perform expand s t).2 := by
  have hmodify : ∀ {id : TunnelId} {f : TunnelSession → TunnelSession},
      (∀ t, (f t).pipeOperation = t.pipeOperation) → (s.modify id f).pipeOf x = some y := by
    intro id f hf
    rw [pipeOf_modify]
    split
    · next hx =>
      subst hx
      simp only [hf]
      exact hpipe
    · exact hpipe
  have hother : ∀ {id : TunnelId} {f : TunnelSession → TunnelSession}, x ≠ id →
      (s.modify id f).pipeOf x = some y := by
    intro id f hx
    rw [pipeOf_modify, if_neg hx]
    exact hpipe
  have hdrops : ∀ {p : Program}, s.DropsPipe x p → .act (.pipeClose x y) ∈ p := by
    rintro p (⟨hnone, -⟩ | ⟨other, hsome, rfl⟩)
    · cases hnone.symm.trans hpipe
    · obtain rfl := Option.some.inj (hsome.symm.trans hpipe)
      exact List.mem_singleton_self _
  have hout := outcome s t
  generalize perform expand s t = result at hout ⊢
  cases hout with
  | closes => exact .inl (hmodify fun _ => rfl)
  | @pipeClose _ _ ends => exact .inl ((pipeOf_foldl_acquire ends).trans hpipe)
  | @pipeReset id other hsome =>
    by_cases hx : x = id
    · subst hx
      obtain rfl := Option.some.inj (hsome.symm.trans hpipe)
      exact .inr (List.mem_singleton_self _)
    · exact .inl (hother hx)
  | @pipeAssign id other p hp =>
    by_cases hx : x = id
    · subst hx
      exact .inr (hdrops hp)
    · exact .inl (hother hx)
  | release _ _ hs' =>
    subst hs'
    exact .inl (hmodify fun _ => rfl)
  | @free id p hp =>
    by_cases hx : x = id
    · subst hx
      exact .inr (hdrops hp)
    · left
      show ((s.free id).1.tunnel x).bind _ = _
      rw [tunnel_free, if_neg hx]
      exact hpipe
  | erase _ hs' =>
    subst hs'
    exact .inl hpipe
  | @linkWrite id other => exact .inl ((pipeOf_foldl_acquire [id, other]).trans hpipe)
  | _ => exact .inl hpipe

theorem Doomed.perform (h : Doomed x s (t :: rest)) :
    Doomed x (Lib.perform expand s t).1 ((Lib.perform expand s t).2 ++ rest) := by
  have hshrinks := shrinks_perform s t
  rcases h with ⟨u, hu, hcloses⟩ | hclosed | hdead
  · rcases List.mem_cons.mp hu with rfl | hu
    · rcases hcloses with hcloses | ⟨original, other, rfl, hside⟩
      · unfold closes at hcloses
        split at hcloses
        · obtain rfl := Option.some.inj hcloses
          exact .inl
            ⟨_, List.mem_append_left _ (List.mem_cons_of_mem _ List.mem_cons_self), .inl rfl⟩
        · obtain rfl := Option.some.inj hcloses
          exact .inr (.inl notMem_openIds_closeGuarded)
        · cases hcloses
      · -- the operation locks its `weak_ptr`s and closes those that are alive
        cases halive : s.alive x with
        | false => exact .inr (.inr (alive_false_of_shrinks hshrinks halive))
        | true =>
          refine .inl ⟨.act (.close x), List.mem_append_left _ ?_, .inl rfl⟩
          refine List.mem_append_left _ (List.mem_map.mpr ⟨x, ?_, rfl⟩)
          exact List.mem_filter.mpr ⟨by simpa using hside, halive⟩
    · exact .inl ⟨u, List.mem_append_right _ hu, hcloses⟩
  · exact .inr (.inl fun hmem => hclosed (hshrinks.1 hmem))
  · exact .inr (.inr (alive_false_of_shrinks hshrinks hdead))

/-- What is doomed has left the table when the calls have returned. -/
theorem Doomed.notMem {p : Program} (h : Doomed x s p) (hrun : Executes expand s p s')
    (hopen : s'.sessions ⊆ s'.openIds) : x ∉ s'.sessions := by
  intro hmem
  obtain ⟨t, ht, -⟩ := (mem_openIds _).mp (hopen hmem)
  rcases hrun.stack_invariant (J := Doomed x) (fun _ _ _ hj => hj.perform) h with
    ⟨_, hno, -⟩ | hclosed | hdead
  · cases hno
  · exact hclosed (hopen hmem)
  · rw [(alive_iff _).mpr ⟨t, ht, .inl hmem⟩] at hdead
    cases hdead

/-- **A pipe operation stays, or its sides are closed.** -/
theorem doomed_of_pipe {p : Program} {z : TunnelId} (hpipe : s.pipeOf x = some y)
    (hz : z = x ∨ z = y) (h : Executes expand s p s') :
    s'.pipeOf x = some y ∨ Doomed z s' [] := by
  refine h.stack_invariant (J := fun u p => u.pipeOf x = some y ∨ Doomed z u p) ?_ (.inl hpipe)
  rintro u t ts (hthere | hdoomed)
  · rcases pipe_perform (t := t) hthere with hkept | hpushed
    · exact .inl hkept
    · exact .inr (.inl ⟨_, List.mem_append_left _ hpushed, .inr ⟨x, y, rfl, hz⟩⟩)
  · exact .inr hdoomed.perform

/-- **No pipe operation ends without closing its `sideOther`**, when the calls have returned. -/
theorem notMem_of_pipe_ended {p : Program} (hpipe : s.pipeOf x = some y)
    (h : Executes expand s p s') (hended : s'.pipeOf x ≠ some y)
    (hopen : s'.sessions ⊆ s'.openIds) : y ∉ s'.sessions :=
  ((doomed_of_pipe hpipe (.inr rfl) h).resolve_left hended).notMem (executes_nil.mpr rfl) hopen

/-- What a stack closes has left the table when the calls have returned. -/
theorem notMem_of_close {p : Program} (hmem : .act (.close x) ∈ p) (h : Executes expand s p s')
    (hopen : s'.sessions ⊆ s'.openIds) : x ∉ s'.openIds ∧ x ∉ s'.sessions := by
  have hclosed : x ∉ s'.openIds := by
    obtain ⟨before, after, rfl⟩ := List.append_of_mem hmem
    obtain ⟨u, -, hrest⟩ := executes_append.mp h
    obtain ⟨v, hclose, hrest⟩ := executes_top.mp hrest
    intro hlater
    have hv := (shrinks_of_executes hrest).1 hlater
    by_cases hu : x ∈ u.openIds
    · exact (close_of_open hu hclose).1 hv
    · exact hu ((shrinks_of_executes hclose).1 hv)
  exact ⟨hclosed, fun hin => hclosed (hopen hin)⟩

/-- A pipe operation is set where there is one already: the session goes. -/
theorem doomed_of_replaced (hpipe : s.pipeOf x = some y) {z : TunnelId} :
    Doomed x (s.pipeAssign x z).1 ((s.pipeAssign x z).2 ++ rest) := by
  refine .inl ⟨.act (.pipeClose x y), List.mem_append_left _ ?_, .inr ⟨x, y, rfl, .inl rfl⟩⟩
  unfold pipeAssign
  rw [show (s.tunnel x).bind TunnelSession.pipeOperation = some y from hpipe]
  exact List.mem_singleton_self _

/-- One half of `link`, for a session without bytes that has a pipe operation: it goes, or the other
    one is gone. -/
theorem notMem_of_linkHalf {t : TunnelSession} (ht : s.tunnel x = some t)
    (hbytes : t.peekBuffer = []) (hpipe : s.pipeOf x = some y) {z : TunnelId}
    (hrun : Executes expand s (.act (.linkHalf x z) :: rest) s')
    (hopen : s'.sessions ⊆ s'.openIds) : x ∉ s'.sessions ∨ z ∉ s'.sessions := by
  cases hother : s.tunnel z with
  | none =>
    right
    intro hmem
    obtain ⟨t', ht', -⟩ := (mem_openIds _).mp (hopen hmem)
    have hsome := exists_of_executes hrun (j := z) (by rw [ht']; rfl)
    rw [hother] at hsome
    cases hsome
  | some t' =>
    left
    rw [executes_act, expand, Service.linkHalf] at hrun
    simp only [ht, hbytes, hother, Option.isSome_some, if_true] at hrun
    rw [List.cons_append, List.nil_append, executes_act, expand] at hrun
    exact (doomed_of_replaced hpipe).notMem hrun hopen

/-- **Which sessions `connectTunnels` leaves in the table**: two that could be linked. -/
theorem linkable_of_connect (hc : c ∈ s.sessions) (hp : p ∈ s.sessions)
    (hentries : ∀ j ∈ s.sessions, s.alive j = true)
    (hempty : ∀ t, s.tunnel p = some t → t.peekBuffer = [])
    (hrun : Executes expand s (.act (.connectTunnels c p) :: rest) s')
    (hopen : s'.sessions ⊆ s'.openIds) (hc' : c ∈ s'.sessions) (hp' : p ∈ s'.sessions) :
    s.Linkable c p := by
  obtain ⟨t, ht, -⟩ := s.alive_iff.mp (hentries c hc)
  obtain ⟨t', ht', -⟩ := s.alive_iff.mp (hentries p hp)
  rw [executes_act, expand, List.cons_append, executes_lock, List.cons_append, List.nil_append,
    executes_act, expand, connectTunnelsGuarded, if_neg (not_not.mpr hc),
    if_neg (not_not.mpr hp), List.cons_append] at hrun
  change Executes expand (s.record (.link c p)) _ s' at hrun
  obtain ⟨u, hfirst, hsecond⟩ := executes_top.mp hrun
  -- the publisher side in its own half of `link`
  have hlast : ∀ k, u.pipeOf p ≠ some k := by
    intro k hpipe
    obtain ⟨t'', ht'', -⟩ := Option.bind_eq_some_iff.mp hpipe
    rcases notMem_of_linkHalf ht'' (peekBuffer_kept hfirst hempty t'' ht'') hpipe hsecond hopen
      with hgone | hgone
    · exact hgone hp'
    · exact hgone hc'
  have hpublisherFree : s.pipeOf p = none := by
    cases hpipe : s.pipeOf p with
    | none => rfl
    | some k =>
      rcases doomed_of_pipe (s := s.record (.link c p)) hpipe (.inl rfl) hfirst
        with hkept | hdoomed
      · exact absurd hkept (hlast k)
      · have hlater : Doomed p u ([.act (.linkHalf p c), .unlock .sessionGuard] ++ rest) := by
          refine .inr (hdoomed.resolve_left ?_)
          rintro ⟨_, hno, -⟩
          cases hno
        exact absurd hp' (hlater.notMem hsecond hopen)
  have hne : c ≠ p := by
    rintro rfl
    -- the first half has set the pipe operation that the second one replaces
    have hleft := executes_nil.mp ((executes_linkHalf (s := s.record (.link c c)) ht
      (hentries c hc) (hentries c hc) fun _ => hpublisherFree).mp hfirst)
    refine hlast c ?_
    rw [hleft, pipeOf_halfLinked (by rw [tunnel_record, ht]; rfl), if_pos ⟨rfl, hempty t ht⟩]
  refine ⟨hc, hp, hne, hpublisherFree, or_iff_not_imp_left.mpr fun hbytes => ?_⟩
  have hbytes : t.peekBuffer = [] := by
    by_contra hne
    exact hbytes ⟨t, ht, hne⟩
  cases hpipe : s.pipeOf c with
  | none => rfl
  | some k =>
    rcases notMem_of_linkHalf (s := s.record (.link c p)) ht hbytes hpipe hrun hopen
      with hgone | hgone
    · exact absurd hc' hgone
    · exact absurd hp' hgone

/-! ### The states of a pair -/

/-- **The states of a linked pair.** -/
inductive PairState (s : Service) (c p : TunnelId) : Prop
  /-- The client's initial bytes are being written. -/
  | writing (hwrite : (c, p) ∈ s.initialWrites) (hpipe : s.pipeOf c = none)
      (hclient : c ∈ s.sessions → p ∈ s.sessions) (hback : p ∈ s.sessions → s.pipeOf p = some c)
  /-- Both sides are piped to each other. -/
  | piped (hwrite : (c, p) ∉ s.initialWrites) (hc : c ∈ s.sessions) (hp : p ∈ s.sessions)
      (hpipe : s.pipeOf c = some p) (hback : s.pipeOf p = some c)
  /-- Both sides have left the table. -/
  | gone (hwrite : (c, p) ∉ s.initialWrites) (hc : c ∉ s.sessions) (hp : p ∉ s.sessions)

/-- What leaves the two sides alone leaves the pair alone. -/
theorem PairState.of_same (h : PairState s c p) (hc : c ∈ s'.sessions ↔ c ∈ s.sessions)
    (hp : p ∈ s'.sessions ↔ p ∈ s.sessions) (hpipe : s'.pipeOf c = s.pipeOf c)
    (hback : s'.pipeOf p = s.pipeOf p)
    (hwrite : (c, p) ∈ s'.initialWrites ↔ (c, p) ∈ s.initialWrites) : PairState s' c p := by
  cases h with
  | writing hwrite' hnone hclient hback' =>
    refine .writing (hwrite.mpr hwrite') (hpipe.trans hnone) (fun h => ?_) (fun h => ?_)
    · exact hp.mpr (hclient (hc.mp h))
    · exact hback.trans (hback' (hp.mp h))
  | piped hwrite' hc' hp' hpipe' hback' =>
    exact .piped (hwrite.not.mpr hwrite') (hc.mpr hc') (hp.mpr hp') (hpipe.trans hpipe')
      (hback.trans hback')
  | gone hwrite' hc' hp' =>
    exact .gone (hwrite.not.mpr hwrite') (hc.not.mpr hc') (hp.not.mpr hp')

theorem PairState.unmoved (h : PairState s c p) (hsame : Unmoved s s') : PairState s' c p :=
  h.of_same (by rw [hsame.sessions]) (by rw [hsame.sessions]) (by rw [hsame.pipes])
    (by rw [hsame.pipes]) (by rw [hsame.writes])

/-- **A pair, one side of which is closed.**  The other one is closed with it, or it is the
    publisher's and waits for the write of the client's initial bytes. -/
theorem PairState.close (h : PairState s c p) (hne : c ≠ p) (hopen : s.sessions ⊆ s.openIds)
    (hopen' : s'.sessions ⊆ s'.openIds) (hx : x = c ∨ x = p)
    (hrun : Executes expand s [.act (.close x), .act (.release x)] s') : PairState s' c p := by
  have hcalm : ∀ t ∈ ([.act (.close x), .act (.release x)] : Program), Calm t := by simp [Calm]
  have hwrites : s'.initialWrites = s.initialWrites :=
    (transfers_of_quiet (fun t ht => quiet_of_calm (hcalm t ht)) hrun).2
  have hsub := sessions_subset_of_executes hrun
  obtain ⟨hclosed, hgone⟩ := notMem_of_close (x := x) (by simp) hrun hopen'
  -- the pipe operation of a session that is closed ends
  have hother : ∀ y, x ∈ s.sessions → s.pipeOf x = some y → y ∉ s'.sessions := by
    intro y hmem hpipe
    refine notMem_of_pipe_ended hpipe hrun ?_ hopen'
    rw [released_of_executes hrun hcalm (hopen hmem) hclosed]
    simp
  have hnone : s.pipeOf c = none → s'.pipeOf c = none := by
    intro hnone
    cases hpipe : s'.pipeOf c with
    | none => rfl
    | some y =>
      rcases pipeOf_of_executes (E := fun _ _ => False) (fun t ht => connects_of_calm (hcalm t ht))
        hrun hpipe with hold | hno
      · cases hnone.symm.trans hold
      · exact hno.elim
  cases h with
  | writing hwrite hpipe hclient hback =>
    rw [← hwrites] at hwrite
    rcases hx with rfl | rfl
    · -- the client has no pipe operation, so nothing else is closed
      have hpiped : PipeClosed {x} s := by
        rintro j rfl k hk
        cases hpipe.symm.trans hk
      have hframe := (agreeOutside_of_executes hpiped (by simp [Within, Act.ids]) hrun).1 p
        (by simpa using hne.symm)
      refine .writing hwrite (hnone hpipe) (fun h => absurd h hgone) (fun h => ?_)
      unfold pipeOf
      rw [hframe.1]
      exact hback (hframe.2.mp h)
    · refine .writing hwrite (hnone hpipe) (fun h => ?_) (fun h => absurd h hgone)
      have hp := hclient (hsub h)
      exact absurd h (hother c hp (hback hp))
  | piped hwrite hc hp hpipe hback =>
    rw [← hwrites] at hwrite
    rcases hx with rfl | rfl
    · exact .gone hwrite hgone (hother p hc hpipe)
    · exact .gone hwrite (hother c hp hback) hgone
  | gone hwrite hc hp =>
    rw [← hwrites] at hwrite
    exact .gone hwrite (fun h => hc (hsub h)) (fun h => hp (hsub h))

/-- An initial write completes between two sessions of the table: the client gets its pipe
    operation, and nothing else changes. -/
theorem piped_of_wrote (hpipe : s.pipeOf c = none) (hexists : (s.tunnel c).isSome)
    (hc : c ∈ s.sessions) (hp : p ∈ s.sessions)
    (hrun : Executes expand (s.wrote c p false).1 (s.wrote c p false).2 s') :
    s'.sessions = s.sessions ∧ ∀ j, s'.pipeOf j = if j = c then some p else s.pipeOf j := by
  -- the start state of the handler
  obtain ⟨u, hu⟩ : ∃ u, u = (s.wrote c p false).1 := ⟨_, rfl⟩
  have hstart : (∀ j, u.tunnel j = s.tunnel j) ∧ u.sessions = s.sessions := by
    rw [hu]
    exact ⟨fun _ => rfl, rfl⟩
  obtain ⟨htunnel, hsessions⟩ := hstart
  have hsame : ∀ j, u.pipeOf j = s.pipeOf j := by
    intro j
    unfold pipeOf
    rw [htunnel]
  rw [← hu] at hrun
  change Executes expand u (.act (.pipeAssign c p) :: _) s' at hrun
  rw [executes_pipeAssign ((hsame c).trans hpipe)] at hrun
  obtain ⟨v, htarget, hsource⟩ := executes_top.mp hrun
  have hrelease : Unmoved (u.assign c p) v :=
    .release (.inl (show p ∈ u.sessions from hsessions ▸ hp)) htarget
  have hunmoved : Unmoved (u.assign c p) s' := by
    refine hrelease.trans (.release (.inl ?_) hsource)
    rw [hrelease.sessions]
    show c ∈ u.sessions
    rw [hsessions]
    exact hc
  refine ⟨hunmoved.sessions.trans hsessions, fun j => ?_⟩
  rw [hunmoved.pipes, pipeOf_assign (by rw [htunnel]; exact hexists), hsame]

/-- **A pair whose initial write completes.**  The client gets its pipe operation; if it was closed
    in between, it is destroyed now, and closes the publisher's side at last. -/
theorem PairState.wrote (h : PairState s c p) (hne : c ≠ p) {ec : Bool}
    (hmem : (c, p) ∈ s.initialWrites) (hnodup : s.initialWrites.Nodup)
    (hexists : (s.tunnel c).isSome) (hopen' : s'.sessions ⊆ s'.openIds)
    (hended : c ∉ s'.sessions → s'.tunnel c = none)
    (hrun : Executes expand (s.wrote c p ec).1 (s.wrote c p ec).2 s') : PairState s' c p := by
  have hwrite : (c, p) ∉ s'.initialWrites := by
    have hquiet : ∀ t ∈ (s.wrote c p ec).2, Quiet t := by cases ec <;> simp [Service.wrote, Quiet]
    rw [(transfers_of_quiet hquiet hrun).2]
    exact hnodup.not_mem_erase
  have hsub : s'.sessions ⊆ (s.wrote c p ec).1.sessions := sessions_subset_of_executes hrun
  change s'.sessions ⊆ s.sessions at hsub
  cases h with
  | piped hno => exact absurd hmem hno
  | gone hno => exact absurd hmem hno
  | writing _ hpipe hclient hback =>
    cases ec with
    | true =>
      exact .gone hwrite (notMem_of_close (by simp [Service.wrote]) hrun hopen').2
        (notMem_of_close (by simp [Service.wrote]) hrun hopen').2
    | false =>
      by_cases hc : c ∈ s.sessions
      · have hp := hclient hc
        obtain ⟨hsessions, hpiped⟩ := piped_of_wrote hpipe hexists hc hp hrun
        refine .piped hwrite (hsessions ▸ hc) (hsessions ▸ hp) ((hpiped c).trans (if_pos rfl)) ?_
        rw [hpiped, if_neg hne.symm]
        exact hback hp
      · -- the client was closed, and its pipe operation ends with it
        refine .gone hwrite (fun h => hc (hsub h)) ?_
        have hunpiped : (s.wrote c p false).1.pipeOf c = none := hpipe
        change Executes expand (s.wrote c p false).1 (.act (.pipeAssign c p) :: _) s' at hrun
        rw [executes_pipeAssign hunpiped] at hrun
        refine notMem_of_pipe_ended (x := c) ?_ hrun ?_ hopen'
        · exact (pipeOf_assign (s := (s.wrote c p false).1) hexists c).trans (if_pos rfl)
        · unfold pipeOf
          rw [hended fun h => hc (hsub h)]
          simp

/-- **Two sessions that are linked** are a pair from then on. -/
theorem PairState.connect (h : s.Linkable c p) (hnone : s.pipeOf c = none) {bytes : Bytes}
    (hconnected : Connected c p bytes s s') (hunlinked : (c, p) ∉ s.initialWrites) :
    PairState s' c p := by
  have hback : s'.pipeOf p = some c := (hconnected.pipes p).trans (if_pos rfl)
  have hpipe : s'.pipeOf c = if bytes = [] then some p else none := by
    rw [hconnected.pipes, if_neg h.ne, hnone]
    simp only [true_and]
  have hsame := hconnected.sessions
  by_cases hbytes : bytes = []
  · rw [if_pos hbytes] at hpipe
    refine .piped ?_ (hsame ▸ h.clientThere) (hsame ▸ h.publisherThere) hpipe hback
    rw [hconnected.writes, if_pos hbytes, List.append_nil]
    exact hunlinked
  · rw [if_neg hbytes] at hpipe
    refine .writing ?_ hpipe (fun _ => hsame ▸ h.publisherThere) fun _ => hback
    rw [hconnected.writes, if_neg hbytes]
    exact List.mem_append_right _ (List.mem_singleton_self _)

/-- What a call transfers, and which of it is in flight then. -/
theorem transfers_of_executes {p : Program} (h : Executes expand s p s') :
    ∃ new, s'.transfers = s.transfers ++ new ∧
      s'.initialWrites = s.initialWrites ++ new.filterMap Effect.inFlight := by
  refine h.invariant (T := fun _ => True) (I := fun u => ∃ new,
    u.transfers = s.transfers ++ new ∧
      u.initialWrites = s.initialWrites ++ new.filterMap Effect.inFlight)
    ?_ ⟨[], by simp, by simp⟩ fun _ _ => trivial
  rintro u t ⟨new, htransfers, hwrites⟩ -
  obtain ⟨htransfers', hwrites'⟩ := perform_transfers u t
  refine ⟨⟨new ++ newTransfers u t, ?_, ?_⟩, fun _ _ => trivial⟩
  · rw [htransfers', htransfers, List.append_assoc]
  · rw [hwrites', hwrites, List.filterMap_append, List.append_assoc]

end Service

/-! ### Runs -/

namespace ServiceRun

open Service

variable {r r' : ServiceRun} {e : Event} {c p x : TunnelId}

/-- A completion that links, if at all, two sessions that have no link. -/
def FreshNaming (r : ServiceRun) (e : Event) : Prop :=
  ∀ c p, r.names e = some (c, p) → c ≠ p ∧ Unlinked r.service c ∧ Unlinked r.service p

/-- **The invariant**: every session is a side of at most one pair, and every pair is in one of its
    states. -/
structure Coupled (r : ServiceRun) : Prop where
  kept : Kept r
  linkage : Linkage r
  nodup : r.service.initialWrites.Nodup
  directed : ∀ c p, (c, p) ∈ r.service.initialWrites → r.service.Linked c p
  clients : ∀ c p, r.service.Linked c p → c ∈ r.accepted ∧ c ≠ p
  apart : ∀ c p c' p', r.service.Linked c p → r.service.Linked c' p' →
    ∀ x, x = c ∨ x = p → x = c' ∨ x = p' → c = c' ∧ p = p'
  pairs : ∀ c p, r.service.Linked c p → PairState r.service c p

theorem coupled_empty : Coupled {} where
  kept := kept_empty
  linkage := linkage_empty
  nodup := List.nodup_nil
  directed c p h := by cases h
  clients c p h := absurd h (by simp [Linked, transfers])
  apart c p _ _ h := absurd h (by simp [Linked, transfers])
  pairs c p h := absurd h (by simp [Linked, transfers])

/-- A session and the other side of its pair. -/
def sides (s : Service) (x : TunnelId) : Set TunnelId := {y | y = x ∨ s.Linked x y ∨ s.Linked y x}

theorem Kept.sessions_subset (hr : Kept r) : r.service.sessions ⊆ r.service.openIds := by
  intro j hmem
  by_contra hclosed
  obtain ⟨_, hno, -⟩ := hr.entered.leaving j hmem hclosed
  cases hno

namespace Coupled

/-- Pipes do not lead out of a pair. -/
theorem pipeClosed_sides (hr : Coupled r) (x : TunnelId) :
    PipeClosed (sides r.service x) r.service := by
  intro j hj k hk
  -- two pairs that share `j` are the same
  have hlinked := hr.linkage.pipes j k hk
  rcases hj with rfl | hj | hj
  · exact .inr hlinked
  · rcases hlinked with hto | hfrom
    · obtain ⟨rfl, -⟩ := hr.apart _ _ _ _ hj hto j (.inr rfl) (.inl rfl)
      exact absurd rfl (hr.clients _ _ hj).2
    · obtain ⟨rfl, -⟩ := hr.apart _ _ _ _ hj hfrom j (.inr rfl) (.inr rfl)
      exact .inl rfl
  · rcases hlinked with hto | hfrom
    · obtain ⟨-, rfl⟩ := hr.apart _ _ _ _ hj hto j (.inl rfl) (.inl rfl)
      exact .inl rfl
    · obtain ⟨-, rfl⟩ := hr.apart _ _ _ _ hj hfrom j (.inl rfl) (.inr rfl)
      exact absurd rfl (hr.clients _ _ hj).2

/-- The sides of another pair are none of these. -/
theorem notMem_sides (hr : Coupled r) (hlinked : r.service.Linked c p) (hc : c ≠ x) (hp : p ≠ x) :
    ∀ y, y = c ∨ y = p → y ∉ sides r.service x := by
  rintro y hy (rfl | hmem | hmem)
  · rcases hy with rfl | rfl
    · exact hc rfl
    · exact hp rfl
  · obtain ⟨rfl, -⟩ := hr.apart _ _ _ _ hlinked hmem y hy (.inr rfl)
    exact hc rfl
  · obtain ⟨-, rfl⟩ := hr.apart _ _ _ _ hlinked hmem y hy (.inl rfl)
    exact hp rfl

/-- **The frame of a pair.**  What a handler does to other sessions leaves it alone. -/
theorem frame (hr : Coupled r) (hlinked : r.service.Linked c p) {R : Set TunnelId}
    {u s' : Service} {q : Program} (hclosed : PipeClosed R r.service)
    (hpipes : u.pipeOf = r.service.pipeOf) (hagree : AgreeOutside R r.service u)
    (hq : ∀ t ∈ q, Within R t) (hrun : Executes expand u q s') (hout : ∀ y, y = c ∨ y = p → y ∉ R)
    (hwrites : (c, p) ∈ s'.initialWrites ↔ (c, p) ∈ r.service.initialWrites) :
    PairState s' c p := by
  have hclosed' : PipeClosed R u := by
    intro j hj k hk
    rw [hpipes] at hk
    exact hclosed j hj k hk
  have hall := hagree.trans (agreeOutside_of_executes hclosed' hq hrun).1
  have hsame : ∀ y, y = c ∨ y = p →
      (y ∈ s'.sessions ↔ y ∈ r.service.sessions) ∧ s'.pipeOf y = r.service.pipeOf y := by
    intro y hy
    refine ⟨(hall y (hout y hy)).2, ?_⟩
    unfold pipeOf
    rw [(hall y (hout y hy)).1]
  obtain ⟨hc, hpipe⟩ := hsame c (.inl rfl)
  obtain ⟨hp, hback⟩ := hsame p (.inr rfl)
  exact (hr.pairs c p hlinked).of_same hc hp hpipe hback hwrites

/-- A completion that links nothing. -/
theorem quiet (hr : Coupled r) (h : r.step e = some r')
    (htransfers : r'.service.transfers = r.service.transfers)
    (hwrites : r'.service.initialWrites.Sublist r.service.initialWrites)
    (hpairs : Kept r' → ∀ c p, r.service.Linked c p → PairState r'.service c p) :
    Coupled r' := by
  have hlinked : ∀ c p, r'.service.Linked c p ↔ r.service.Linked c p := by
    intro c p
    unfold Linked
    rw [htransfers]
  have hkept := hr.kept.step h
  obtain ⟨haccepted, -⟩ := step_peeking h
  refine ⟨hkept, hr.linkage.step h, hr.nodup.sublist hwrites, fun c p hw => ?_, fun c p hl => ?_,
    fun c p c' p' hl hl' => ?_, fun c p hl => hpairs hkept c p ((hlinked c p).mp hl)⟩
  · exact (hlinked c p).mpr (hr.directed c p (hwrites.subset hw))
  · obtain ⟨hacc, hne⟩ := hr.clients c p ((hlinked c p).mp hl)
    exact ⟨haccepted hacc, hne⟩
  · exact hr.apart c p c' p' ((hlinked c p).mp hl) ((hlinked c' p').mp hl')

/-- A handler that closes the session it owns. -/
theorem closeHandler (hr : Coupled r) {f : TunnelSession → TunnelSession}
    {peeking : Finset TunnelId} (h : r.step e = some r')
    (hhandle : r.handle (r.service.modify x f, [.act (.close x), .act (.release x)]) peeking =
      some r')
    (hf : ∀ t, (f t).pipeOperation = t.pipeOperation ∧ (f t).wasClosed = t.wasClosed) :
    Coupled r' := by
  have hunmoved : Unmoved r.service (r.service.modify x f) := .modify fun t => (hf t).1
  obtain ⟨s, hrun, rfl⟩ := handle_eq_some.mp hhandle
  obtain ⟨htransfers, hwrites⟩ := transfers_of_quiet (by simp [Quiet]) hrun
  refine hr.quiet h htransfers (hwrites ▸ List.Sublist.refl _) fun hkept c p hlinked => ?_
  obtain ⟨-, hne⟩ := hr.clients c p hlinked
  by_cases hx : x = c ∨ x = p
  · refine ((hr.pairs c p hlinked).unmoved hunmoved).close hne ?_ hkept.sessions_subset hx hrun
    show r.service.sessions ⊆ (r.service.modify x f).openIds
    rw [openIds_modify fun t => (hf t).2]
    exact hr.kept.sessions_subset
  · obtain ⟨hc, hp⟩ := not_or.mp hx
    refine hr.frame hlinked (hr.pipeClosed_sides x) hunmoved.pipes
      (agreeOutside_modify (.inl rfl) f) ?_ hrun
      (hr.notMem_sides hlinked (Ne.symm hc) (Ne.symm hp)) (by rw [hwrites]; rfl)
    simp [Within, Act.ids, sides]

/-- A handler that links two sessions, or closes the one that is left. -/
theorem connectHandler (hr : Coupled r) {u : Service} {peeking : Finset TunnelId}
    (h : r.step e = some r')
    (hhandle : r.handle (u, [.act (.connectTunnels c p), .act (.release p)]) peeking = some r')
    (hunmoved : Unmoved r.service u) (htransfers : u.transfers = r.service.transfers)
    (hagree : AgreeOutside {p} r.service u) (halive : ∀ j, u.alive j = r.service.alive j)
    (hempty : ∀ t, u.tunnel p = some t → t.peekBuffer = []) (hne : c ≠ p)
    (hc : Unlinked r.service c) (hp : Unlinked r.service p) : Coupled r' := by
  obtain ⟨s, hrun, rfl⟩ := handle_eq_some.mp hhandle
  have hpipeless : PipeClosed {c, p} r.service := by
    rintro j hj k hk
    have hnone : r.service.pipeOf j = none := by
      rcases hj with rfl | rfl
      · exact hr.linkage.pipeOf_eq_none hc
      · exact hr.linkage.pipeOf_eq_none hp
    cases hnone.symm.trans hk
  have hagree' : AgreeOutside {c, p} r.service u := fun j hj => hagree j fun hmem => hj (.inr hmem)
  have hwithin : ∀ t ∈ ([.act (.connectTunnels c p), .act (.release p)] : Program),
      Within {c, p} t := by simp [Within, Act.ids]
  -- the sides of a pair have a link, and these two have none
  have hout : ∀ c' p', r.service.Linked c' p' →
      ∀ y, y = c' ∨ y = p' → y ∉ ({c, p} : Set TunnelId) := by
    rintro c' p' hlinked y (rfl | rfl) (rfl | rfl)
    · exact (hc p').1 hlinked
    · exact (hp p').1 hlinked
    · exact (hc c').2 hlinked
    · exact (hp c').2 hlinked
  obtain ⟨new, hnew, hinFlight⟩ := transfers_of_executes hrun
  rw [hunmoved.writes] at hinFlight
  rcases transfers_of_connect (by simp [Quiet]) hempty hrun
    with ⟨hsame, hwrites, -⟩ | ⟨hclient, hpublisher, writes, hlinks, hone, -⟩
  · -- one of the two sides is not in the table
    rw [hunmoved.writes] at hwrites
    refine hr.quiet h (hsame.trans htransfers) (hwrites ▸ List.Sublist.refl _) ?_
    intro _ c' p' hlinked
    exact hr.frame hlinked hpipeless hunmoved.pipes hagree' hwithin hrun (hout c' p' hlinked)
      (by rw [hwrites])
  · obtain rfl : new = .link c p :: writes :=
      List.append_cancel_left (hnew.symm.trans hlinks)
    have hlinked : ∀ c' p', s.Linked c' p' ↔ r.service.Linked c' p' ∨ (c' = c ∧ p' = p) := by
      intro c' p'
      unfold Linked
      rw [hnew, htransfers]
      rcases hone with rfl | ⟨bytes, rfl⟩ <;> simp
    have hnotYet : (c, p) ∉ r.service.initialWrites := fun hw => (hc p).1 (hr.directed c p hw)
    have hwrites : s.initialWrites = r.service.initialWrites ∨
        s.initialWrites = r.service.initialWrites ++ [(c, p)] := by
      rw [hinFlight]
      rcases hone with rfl | ⟨bytes, rfl⟩
      · exact .inl (List.append_nil _)
      · exact .inr rfl
    have hothers : ∀ c' p', r.service.Linked c' p' →
        ((c', p') ∈ s.initialWrites ↔ (c', p') ∈ r.service.initialWrites) := by
      intro c' p' hl
      have hne' : (c', p') ≠ (c, p) := by
        intro heq
        obtain ⟨rfl, rfl⟩ := Prod.mk.inj heq
        exact (hc p').1 hl
      rcases hwrites with hw | hw <;> simp [hw, hne']
    have hkept := hr.kept.step h
    obtain ⟨haccepted, -⟩ := step_peeking h
    refine ⟨hkept, hr.linkage.step h, ?_, fun c' p' hw => ?_, fun c' p' hl => ?_, ?_,
      fun c' p' hl => ?_⟩
    · rcases hwrites with hw | hw
      · exact hw ▸ hr.nodup
      · show s.initialWrites.Nodup
        rw [hw, List.nodup_append_comm, List.singleton_append, List.nodup_cons]
        exact ⟨hnotYet, hr.nodup⟩
    · refine (hlinked c' p').mpr ?_
      rcases hwrites with hsame | hsame
      · exact .inl (hr.directed c' p' (hsame ▸ hw))
      · change (c', p') ∈ s.initialWrites at hw
        rw [hsame] at hw
        rcases List.mem_append.mp hw with hw | hw
        · exact .inl (hr.directed c' p' hw)
        · exact .inr (Prod.mk.inj (List.mem_singleton.mp hw))
    · rcases (hlinked c' p').mp hl with hl | ⟨rfl, rfl⟩
      · obtain ⟨hacc, hne'⟩ := hr.clients c' p' hl
        exact ⟨haccepted hacc, hne'⟩
      · refine ⟨haccepted (hr.kept.accepted c' ?_), hne⟩
        refine exists_of_alive (hr.kept.accounted.entries c' ?_)
        rw [← hunmoved.sessions]
        exact hclient
    · intro c₁ p₁ c₂ p₂ hl₁ hl₂ y hy₁ hy₂
      rcases (hlinked c₁ p₁).mp hl₁ with hl₁ | ⟨rfl, rfl⟩ <;>
        rcases (hlinked c₂ p₂).mp hl₂ with hl₂ | ⟨rfl, rfl⟩
      · exact hr.apart _ _ _ _ hl₁ hl₂ y hy₁ hy₂
      · exact absurd hy₂ (hout c₁ p₁ hl₁ y hy₁)
      · exact absurd hy₁ (hout c₂ p₂ hl₂ y hy₂)
      · exact ⟨rfl, rfl⟩
    · rcases (hlinked c' p').mp hl with hl | ⟨rfl, rfl⟩
      · exact hr.frame hl hpipeless hunmoved.pipes hagree' hwithin hrun (hout c' p' hl)
          (hothers c' p' hl)
      · have hentries : ∀ j ∈ u.sessions, u.alive j = true := by
          intro j hj
          rw [halive]
          rw [hunmoved.sessions] at hj
          exact hr.kept.accounted.entries j hj
        have hnone : ∀ j, r.service.Unlinked j → u.pipeOf j = none := by
          intro j hj
          rw [hunmoved.pipes]
          exact hr.linkage.pipeOf_eq_none hj
        have hlinkable : u.Linkable c' p' :=
          ⟨hclient, hpublisher, hne, hnone p' hp, .inr (hnone c' hc)⟩
        obtain ⟨t, ht, -⟩ := u.alive_iff.mp (hentries c' hclient)
        refine PairState.connect hlinkable (hnone c' hc)
          (executes_connect hlinkable hentries hempty ht hrun) ?_
        rw [hunmoved.writes]
        exact hnotYet

/-- A write holds the session it writes the bytes of. -/
theorem holds_pos {s : Service} (hw : (c, p) ∈ s.initialWrites) : 0 < s.holds c := by
  unfold holds
  rw [List.count_pos_iff, List.mem_flatMap]
  exact ⟨(c, p), hw, List.mem_cons_self⟩

/-- The handler of an initial write. -/
theorem wroteHandler (hr : Coupled r) {ec : Bool} (h : r.step (.wrote c p ec) = some r') :
    Coupled r' := by
  have hhandle := h
  simp only [step, Option.ite_none_right_eq_some] at hhandle
  obtain ⟨hmem, hhandle⟩ := hhandle
  obtain ⟨s, hrun, rfl⟩ := handle_eq_some.mp hhandle
  have hquiet : ∀ t ∈ (r.service.wrote c p ec).2, Quiet t := by
    cases ec <;> simp [Service.wrote, Quiet]
  obtain ⟨htransfers, hwrites⟩ := transfers_of_quiet hquiet hrun
  change s.transfers = r.service.transfers at htransfers
  change s.initialWrites = r.service.initialWrites.erase (c, p) at hwrites
  have hlinked := hr.directed c p hmem
  obtain ⟨-, hne⟩ := hr.clients c p hlinked
  refine hr.quiet h htransfers (hwrites ▸ List.erase_sublist) fun hkept c' p' hlinked' => ?_
  by_cases hpair : c' = c ∧ p' = p
  · obtain ⟨rfl, rfl⟩ := hpair
    refine (hr.pairs c' p' hlinked).wrote hne hmem hr.nodup
      (exists_of_alive (hr.kept.accounted.held c' (holds_pos hmem))) hkept.sessions_subset ?_ hrun
    -- the write was the last owner of the client
    intro hgone
    cases ht : s.tunnel c' with
    | none => rfl
    | some t =>
      exfalso
      have hunheld : s.holds c' = 0 := by
        by_contra hheld
        obtain ⟨w, hw, hside⟩ := List.mem_flatMap.mp
          (List.count_pos_iff.mp (Nat.pos_of_ne_zero hheld))
        rw [hwrites] at hw
        have hlinkedw := hr.directed w.1 w.2 (List.mem_of_mem_erase hw)
        have hside' : c' = w.1 ∨ c' = w.2 := by simpa using hside
        obtain ⟨hw₁, hw₂⟩ := hr.apart _ _ _ _ hlinked hlinkedw c' (.inl rfl) hside'
        refine hr.nodup.not_mem_erase (a := (c', p')) ?_
        have hsame : w = (c', p') := Prod.ext hw₁.symm hw₂.symm
        exact hsame ▸ hw
      have howners := hkept.accounted.owners c' t ht
      rw [List.count_nil] at howners
      change t.owners = 0 + s.holds c' at howners
      have hdead : s.alive c' = false := by
        by_contra halive
        obtain ⟨t', ht', hor⟩ := s.alive_iff.mp (by simpa using halive)
        obtain rfl := Option.some.inj (ht.symm.trans ht')
        rcases hor with hin | hpos
        · exact hgone hin
        · omega
      rcases hkept.accounted.dying c' (by rw [ht]; rfl) hdead with hno | hno <;> cases hno
  · have hsides : ∀ y, y = c' ∨ y = p' → y ∉ sides r.service c := by
      -- a shared side would make it the same pair
      rintro y hy hmem'
      have hy' : y = c ∨ y = p := by
        rcases hmem' with rfl | hl | hl
        · exact .inl rfl
        · obtain ⟨-, rfl⟩ := hr.apart _ _ _ _ hl hlinked c (.inl rfl) (.inl rfl)
          exact .inr rfl
        · obtain ⟨rfl, -⟩ := hr.apart _ _ _ _ hl hlinked c (.inr rfl) (.inl rfl)
          exact .inl rfl
      exact hpair (hr.apart _ _ _ _ hlinked' hlinked y hy hy')
    refine hr.frame hlinked' (u := (r.service.wrote c p ec).1) (hr.pipeClosed_sides c) rfl ?_ ?_
      hrun hsides ?_
    · exact fun _ _ => ⟨rfl, Iff.rfl⟩
    · cases ec <;> simp [Service.wrote, Within, Act.ids, sides, hlinked]
    · rw [hwrites]
      refine List.mem_erase_of_ne fun heq => hpair ?_
      exact Prod.mk.inj heq

/-- **Every completion keeps the invariant.** -/
theorem step (hr : Coupled r) (hfresh : FreshNaming r e) (h : r.step e = some r') :
    Coupled r' := by
  have hkept : ∀ {peeking : Finset TunnelId}, r.handle (r.service, []) peeking = some r' →
      Coupled r' := by
    intro peeking hhandle
    obtain ⟨s, hrun, rfl⟩ := handle_eq_some.mp hhandle
    obtain rfl := executes_nil.mp hrun
    exact hr.quiet h rfl (List.Sublist.refl _) fun _ => hr.pairs
  cases e with
  | accept id =>
    have hstep := h
    simp only [ServiceRun.step, Option.ite_none_left_eq_some, Option.some.injEq] at hstep
    obtain ⟨hnew, rfl⟩ := hstep
    refine hr.quiet h rfl (List.Sublist.refl _) fun _ c p hlinked => ?_
    have hsame : ∀ y, y ∈ r.accepted →
        (y ∈ (r.service.accept id).sessions ↔ y ∈ r.service.sessions) ∧
          (r.service.accept id).pipeOf y = r.service.pipeOf y := by
      intro y hy
      have hne : y ≠ id := by
        rintro rfl
        exact hnew hy
      constructor
      · show y ∈ insert id r.service.sessions ↔ _
        simp [hne]
      · unfold pipeOf
        rw [tunnel_accept, if_neg hne]
    obtain ⟨hc, hpipe⟩ := hsame c (hr.clients c p hlinked).1
    obtain ⟨hp, hback⟩ := hsame p (hr.linkage.served c p hlinked).1
    exact (hr.pairs c p hlinked).of_same hc hp hpipe hback Iff.rfl
  | wrote source target ec => exact hr.wroteHandler h
  | close id =>
    have hstep := h
    simp only [ServiceRun.step, Option.ite_none_right_eq_some] at hstep
    exact hr.closeHandler h hstep.2 fun _ => ⟨rfl, rfl⟩
  | peeked id control ec chunk =>
    have hstep := h
    simp only [ServiceRun.step, Option.ite_none_right_eq_some] at hstep
    obtain ⟨⟨hpeeking, hlength⟩, hhandle⟩ := hstep
    unfold Service.peeked at hhandle
    cases ht : r.service.tunnel id with
    | none =>
      simp only [ht] at hhandle
      exact hkept hhandle
    | some t =>
      simp only [ht] at hhandle
      split at hhandle
      · next halive =>
        have hframe := fun t => peekHandler_frame t control ec chunk
        have hunmoved : Unmoved r.service (r.service.peekedState id control ec chunk) :=
          .modify fun t => (hframe t).2.1
        cases haction : (t.peekHandler control ec chunk).2 with
        | close =>
          simp only [haction] at hhandle
          exact hr.closeHandler h hhandle fun t => ⟨(hframe t).2.1, (hframe t).1⟩
        | informAboutConnection =>
          simp only [haction] at hhandle
          obtain ⟨s, hrun, rfl⟩ := handle_eq_some.mp hhandle
          obtain ⟨htransfers, hwrites⟩ := transfers_of_quiet (by simp [Quiet]) hrun
          -- the handler is not the last owner
          have howned : id ∈ r.service.sessions ∨
              ∃ u, (r.service.peekedState id control ec chunk).tunnel id = some u ∧
                1 < u.owners := by
            obtain ⟨t', ht', hor⟩ := (alive_iff _).mp halive
            refine hor.imp_right fun hpos => ?_
            unfold peekedState
            rw [tunnel_modify, if_pos rfl, ht', Option.map_some]
            exact ⟨_, rfl, Nat.succ_lt_succ hpos⟩
          have hreleased : Unmoved (r.service.peekedState id control ec chunk) s := by
            have hlater := Unmoved.release
              (s := (r.service.peekedState id control ec chunk).record (.inform id)) howned hrun
            exact ⟨hlater.sessions, hlater.pipes, hlater.writes⟩
          refine hr.quiet h (htransfers.trans ?_) ?_ fun _ c p hlinked =>
            ((hr.pairs c p hlinked).unmoved hunmoved).unmoved hreleased
          · simp [transfers, Effect.isTransfer, peekedState]
          · rw [show s.initialWrites = _ from hreleased.writes, hunmoved.writes]
        | connectTunnels client =>
          simp only [haction] at hhandle
          have hnames : r.names (.peeked id control ec chunk) = some (client, id) :=
            names_eq_some.mpr
              ⟨control, ec, chunk, t, rfl, hpeeking, hlength, halive, ht, haction⟩
          obtain ⟨hne, hc, hp⟩ := hfresh client id hnames
          exact hr.connectHandler h hhandle hunmoved rfl
            (agreeOutside_modify (Set.mem_singleton id) _) (alive_enter halive fun _ => rfl)
            (peekBuffer_peekedState ht haction) hne hc hp
      · exact hkept hhandle

end Coupled

end ServiceRun

end TunnelBore.Broker
