import TunnelBore.Broker.ServiceRun

namespace TunnelBore.Broker

open TunnelBore.Lib

/-!
# What `connectTunnels` leaves

`connectTunnels` looks two sessions up and calls `link`, which sets up a pipe operation on each side
or, where bytes of the first read are waiting, starts to write these first.  Setting a pipe
operation where there is one destroys the old one, and that closes its sides.

* `Unmoved` — nothing that pipes and links are about has changed;
* `release_later` — an owner that is not the last one lets go;
* `executes_linkHalf` — one half of `link`, where nothing is replaced;
* `Linkable` — two sessions that `link` joins without replacing anything;
* `executes_connect` — what `connectTunnels` leaves of two such sessions.
-/

namespace Service

variable {s s' u : Service} {id x y c p : TunnelId} {rest : Program}

/-! ### What leaves pipes and links alone -/

theorem tunnel_foldl_acquire (l : List TunnelId) {before : TunnelSession}
    (hbefore : s.tunnel id = some before) :
    (l.foldl acquire s).tunnel id =
      some { before with owners := before.owners + l.count id } := by
  induction l generalizing s before with
  | nil => simpa using hbefore
  | cons j l ih =>
    rw [List.foldl_cons, List.count_cons]
    by_cases hj : j = id
    · subst hj
      have hacquired : (s.acquire j).tunnel j =
          some { before with owners := before.owners + 1 } := by
        rw [tunnel_acquire, if_pos rfl, hbefore, Option.map_some]
      rw [ih hacquired]
      simp only [beq_self_eq_true, if_true, Option.some.injEq, TunnelSession.mk.injEq, true_and]
      omega
    · rw [ih (by rw [tunnel_acquire, if_neg (Ne.symm hj), hbefore])]
      simp [hj]

/-- The destructor does not run while somebody owns the session. -/
theorem destroyIfUnowned_of_alive (h : s.alive id = true) : s.destroyIfUnowned id = [] := by
  unfold destroyIfUnowned
  rw [if_neg]
  exact fun hdead => hdead.2 h

@[simp] theorem foldl_acquire_initialWrites (ends : List TunnelId) :
    (ends.foldl acquire s).initialWrites = s.initialWrites := by
  induction ends generalizing s with
  | nil => rfl
  | cons _ ends ih => exact ih

theorem pipeOf_foldl_acquire (ends : List TunnelId) :
    (ends.foldl acquire s).pipeOf x = s.pipeOf x := by
  induction ends generalizing s with
  | nil => rfl
  | cons id ends ih =>
    refine ih.trans ?_
    show (s.modify id _).pipeOf x = _
    rw [pipeOf_modify]
    split
    · next hx =>
      subst hx
      rfl
    · rfl

/-- Nothing that pipes and links are about has changed. -/
structure Unmoved (s s' : Service) : Prop where
  sessions : s'.sessions = s.sessions
  pipes : s'.pipeOf = s.pipeOf
  writes : s'.initialWrites = s.initialWrites

theorem Unmoved.trans (h : Unmoved s s') (h' : Unmoved s' u) : Unmoved s u where
  sessions := h'.sessions.trans h.sessions
  pipes := h'.pipes.trans h.pipes
  writes := h'.writes.trans h.writes

theorem Unmoved.modify {f : TunnelSession → TunnelSession}
    (hf : ∀ t, (f t).pipeOperation = t.pipeOperation) : Unmoved s (s.modify x f) where
  sessions := rfl
  pipes := by
    funext j
    rw [pipeOf_modify]
    split
    · next hj =>
      subst hj
      simp only [hf]
      rfl
    · rfl
  writes := rfl

/-- **An owner that is not the last one lets go.** -/
theorem release_later (hlater : x ∈ s.sessions ∨ ∃ t, s.tunnel x = some t ∧ 1 < t.owners)
    (h : Executes expand s [.act (.release x)] s') :
    s' = s ∨ s' = s.modify x fun t => { t with owners := t.owners - 1 } := by
  rw [executes_act, List.append_nil, expand, Service.release] at h
  split at h
  · next howned =>
    obtain ⟨t, ht, hpos⟩ := (Option.any_eq_true _ _).mp howned
    have halive : (s.modify x fun t => { t with owners := t.owners - 1 }).alive x = true := by
      refine (alive_iff _).mpr ⟨{ t with owners := t.owners - 1 }, ?_, ?_⟩
      · rw [tunnel_modify, if_pos rfl, ht, Option.map_some]
      · refine hlater.imp_right ?_
        rintro ⟨t', ht', hmore⟩
        obtain rfl := Option.some.inj (ht.symm.trans ht')
        show 0 < t.owners - 1
        omega
    have hpushed := destroyIfUnowned_of_alive halive
    simp only [hpushed, executes_nil] at h
    exact .inr h
  · exact .inl (executes_nil.mp h)

theorem Unmoved.release (hlater : x ∈ s.sessions ∨ ∃ t, s.tunnel x = some t ∧ 1 < t.owners)
    (h : Executes expand s [.act (.release x)] s') : Unmoved s s' := by
  rcases release_later hlater h with rfl | rfl
  · exact ⟨rfl, rfl, rfl⟩
  · exact Unmoved.modify fun _ => rfl

/-! ### One half of `link` -/

/-- A pipe operation is set. -/
def assign (s : Service) (x y : TunnelId) : Service :=
  s.modify x fun t => { t with pipeOperation := some y }

theorem pipeOf_assign (hsome : (s.tunnel x).isSome) (j : TunnelId) :
    (s.assign x y).pipeOf j = if j = x then some y else s.pipeOf j := by
  obtain ⟨t, ht⟩ := Option.isSome_iff_exists.mp hsome
  unfold assign
  rw [pipeOf_modify, ht, Option.bind_some]

/-- A pipe is started where there was none. -/
theorem executes_pipeAssign (hnone : s.pipeOf x = none) :
    Executes expand s (.act (.pipeAssign x y) :: rest) s' ↔
      Executes expand (s.assign x y) rest s' := by
  have hassign : s.pipeAssign x y = (s.assign x y, []) := by
    unfold pipeAssign
    rw [show (s.tunnel x).bind TunnelSession.pipeOperation = none from hnone]
    rfl
  rw [executes_act, expand, hassign, List.nil_append]

/-- What one half of `link` leaves, for a session with these bytes in its peek buffer: the pipe is
    in place, or the bytes are on the way. -/
def halfLinked (s : Service) (x y : TunnelId) (bytes : Bytes) : Service :=
  if bytes = [] then s.assign x y else s.startInitialWrite x y bytes

theorem executes_linkHalf {t : TunnelSession} (ht : s.tunnel x = some t) (hx : s.alive x = true)
    (hy : s.alive y = true) (hnone : t.peekBuffer = [] → s.pipeOf x = none) :
    Executes expand s (.act (.linkHalf x y) :: rest) s' ↔
      Executes expand (s.halfLinked x y t.peekBuffer) rest s' := by
  have hother : (s.tunnel y).isSome := by
    obtain ⟨t', ht', -⟩ := s.alive_iff.mp hy
    rw [ht']
    rfl
  rw [executes_act, expand, Service.linkHalf, halfLinked]
  simp only [ht, hother, if_true]
  split
  · next hbytes =>
    -- nothing waits, and there is no pipe operation that this one would replace
    rw [List.cons_append, List.nil_append, executes_pipeAssign (hnone hbytes)]
  · rw [if_pos ⟨hx, hy⟩, List.nil_append]

section
variable (s x y) (bytes : Bytes)

@[simp] theorem sessions_halfLinked : (s.halfLinked x y bytes).sessions = s.sessions := by
  unfold halfLinked
  split <;> rfl

theorem initialWrites_halfLinked : (s.halfLinked x y bytes).initialWrites =
    s.initialWrites ++ if bytes = [] then [] else [(x, y)] := by
  unfold halfLinked
  split
  · exact (List.append_nil _).symm
  · rfl

theorem transfers_halfLinked : (s.halfLinked x y bytes).transfers =
    s.transfers ++ if bytes = [] then [] else [.initialWrite x y bytes] := by
  unfold halfLinked
  split
  · exact (List.append_nil _).symm
  · simp [transfers, startInitialWrite, Effect.isTransfer]

variable {s x y bytes}

theorem pipeOf_halfLinked (hx : (s.tunnel x).isSome) (j : TunnelId) :
    (s.halfLinked x y bytes).pipeOf j = if j = x ∧ bytes = [] then some y else s.pipeOf j := by
  unfold halfLinked
  split
  · next hbytes => simp only [pipeOf_assign hx, hbytes, and_true]
  · next hbytes =>
    rw [if_neg fun h => hbytes h.2]
    exact pipeOf_foldl_acquire [x, y]

theorem alive_halfLinked (hx : s.alive x = true) (hy : s.alive y = true) (j : TunnelId) :
    (s.halfLinked x y bytes).alive j = s.alive j := by
  unfold halfLinked
  split
  · exact alive_modify _ _ (fun t => { t with pipeOperation := some y }) (fun _ => rfl) j
  · show ((s.acquire x).acquire y).alive j = _
    rw [alive_acquire _ _ (by rwa [alive_acquire _ _ hx]), alive_acquire _ _ hx]

theorem peekBuffer_halfLinked {j : TunnelId} {after : TunnelSession}
    (h : (s.halfLinked x y bytes).tunnel j = some after) :
    ∃ before, s.tunnel j = some before ∧ after.peekBuffer = before.peekBuffer := by
  unfold halfLinked at h
  split at h
  · obtain ⟨before, hbefore, rfl | ⟨-, rfl⟩⟩ := tunnel_modify_cases h
    · exact ⟨after, hbefore, rfl⟩
    · exact ⟨before, hbefore, rfl⟩
  · obtain ⟨before, hbefore, hevolves⟩ :=
      evolves_foldl_acquire (t := .lock .sessionGuard) [x, y] h
    exact ⟨before, hbefore, hevolves.peekBuffer⟩

end

/-! ### Both halves -/

/-- Two sessions that `link` joins: both are in the table, and no pipe operation is replaced. -/
structure Linkable (s : Service) (client publisher : TunnelId) : Prop where
  clientThere : client ∈ s.sessions
  publisherThere : publisher ∈ s.sessions
  ne : client ≠ publisher
  publisherFree : s.pipeOf publisher = none
  /-- The client's own half writes first, or it starts a pipe where there is none. -/
  clientFree : (∃ t, s.tunnel client = some t ∧ t.peekBuffer ≠ []) ∨ s.pipeOf client = none

/-- What `link` leaves of a client with these bytes in its peek buffer and a publisher side with
    none. -/
structure Connected (client publisher : TunnelId) (bytes : Bytes) (s s' : Service) : Prop where
  sessions : s'.sessions = s.sessions
  transfers : s'.transfers = s.transfers ++ .link client publisher ::
    if bytes = [] then [] else [.initialWrite client publisher bytes]
  writes : s'.initialWrites = s.initialWrites ++ if bytes = [] then [] else [(client, publisher)]
  pipes : ∀ j, s'.pipeOf j = if j = publisher then some client
    else if j = client ∧ bytes = [] then some publisher else s.pipeOf j

/-- **What `connectTunnels` leaves** of two sessions that can be linked. -/
theorem executes_connect (h : s.Linkable c p) (hentries : ∀ j ∈ s.sessions, s.alive j = true)
    (hempty : ∀ t, s.tunnel p = some t → t.peekBuffer = []) {t : TunnelSession}
    (ht : s.tunnel c = some t)
    (hrun : Executes expand s [.act (.connectTunnels c p), .act (.release p)] s') :
    Connected c p t.peekBuffer s s' := by
  have hc := hentries c h.clientThere
  have hp := hentries p h.publisherThere
  have hfree : t.peekBuffer = [] → s.pipeOf c = none := by
    intro hbytes
    refine h.clientFree.resolve_left ?_
    rintro ⟨t', ht', hne⟩
    obtain rfl := Option.some.inj (ht.symm.trans ht')
    exact hne hbytes
  -- the client's half
  rw [executes_act, expand, List.cons_append, executes_lock, List.cons_append, List.nil_append,
    executes_act, expand, connectTunnelsGuarded, if_neg (not_not.mpr h.clientThere),
    if_neg (not_not.mpr h.publisherThere), List.cons_append] at hrun
  have hfirst := (executes_linkHalf (s := s.record (.link c p)) ht hc hp hfree).mp hrun
  obtain ⟨u, hu⟩ : ∃ u, u = (s.record (.link c p)).halfLinked c p t.peekBuffer := ⟨_, rfl⟩
  have halive : ∀ j, u.alive j = s.alive j := by
    rw [hu]
    exact alive_halfLinked (s := s.record (.link c p)) hc hp
  have hpipes : ∀ j, u.pipeOf j = if j = c ∧ t.peekBuffer = [] then some p else s.pipeOf j := by
    rw [hu]
    exact pipeOf_halfLinked (s := s.record (.link c p)) (by rw [tunnel_record, ht]; rfl)
  have hbuffer : ∀ t, u.tunnel p = some t → t.peekBuffer = [] := by
    intro after hafter
    rw [hu] at hafter
    obtain ⟨before, hbefore, heq⟩ := peekBuffer_halfLinked hafter
    exact heq.trans (hempty before hbefore)
  -- the publisher side's half, and the end of its handler
  obtain ⟨t', ht', -⟩ := u.alive_iff.mp ((halive p).trans hp)
  have hnone : u.pipeOf p = none := by
    rw [hpipes, if_neg fun heq => h.ne heq.1.symm]
    exact h.publisherFree
  rw [← hu, List.cons_append, executes_linkHalf ht' ((halive p).trans hp) ((halive c).trans hc)
    fun _ => hnone, hbuffer t' ht', List.cons_append, List.nil_append, executes_unlock] at hfirst
  have hsessions : u.sessions = s.sessions := by
    rw [hu]
    exact sessions_halfLinked _ _ _ _
  obtain ⟨v, hv⟩ : ∃ v, v = u.halfLinked p c [] := ⟨_, rfl⟩
  rw [← hv] at hfirst
  have hquiet : Unmoved v s' := by
    refine .release (.inl ?_) hfirst
    rw [hv, sessions_halfLinked, hsessions]
    exact h.publisherThere
  have hlast : s'.transfers = v.transfers := by
    rcases release_later (.inl (by rw [hv, sessions_halfLinked, hsessions]; exact h.publisherThere))
      hfirst with rfl | rfl <;> rfl
  refine ⟨?_, ?_, ?_, fun j => ?_⟩
  · rw [hquiet.sessions, hv, sessions_halfLinked, hsessions]
  · rw [hlast, hv, transfers_halfLinked, if_pos rfl, List.append_nil, hu, transfers_halfLinked]
    simp only [transfers, effects_record, List.filter_append, List.append_assoc]
    rfl
  · rw [hquiet.writes, hv, initialWrites_halfLinked, if_pos rfl, List.append_nil, hu,
      initialWrites_halfLinked]
    rfl
  · rw [hquiet.pipes, hv, pipeOf_halfLinked (by rw [ht']; rfl), hpipes]
    simp only [and_true]

end Service

end TunnelBore.Broker
