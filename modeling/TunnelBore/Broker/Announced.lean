import TunnelBore.Broker.OneToOne

namespace TunnelBore.Broker

open TunnelBore.Lib

/-!
# Whom a service announces

`informAboutConnection` is called in the handler of a first read, for the session that was read
from.  A session has one first read, so it is announced at most once.

* `announced` — the sessions that were announced, in order;
* `step_announced` — what one completion adds to them;
* `Introduced` — the invariant: nobody is announced before the first read or twice, and a session
  that has not been read from has a fresh buffer;
* `Apart` — the publisher side of a link was not announced.
-/

/-- The session an effect announces. -/
def Effect.announces : Effect → Option TunnelId
  | .inform id => some id
  | _          => none

namespace Service

variable {s s' : Service}

/-- The sessions that were announced. -/
def announced (s : Service) : List TunnelId := s.effects.filterMap Effect.announces

/-- No task announces anybody. -/
theorem announced_perform (s : Service) (t : Task Mutex Act) :
    (perform expand s t).1.announced = s.announced := by
  have hout := outcome s t
  generalize perform expand s t = result at hout ⊢
  unfold announced
  cases hout with
  | pipeClose => rw [foldl_acquire_effects]
  | release _ _ hs' =>
    subst hs'
    rfl
  | erase _ hs' =>
    subst hs'
    simp [record, Effect.announces]
  | eraseInvalid => simp [record, Effect.announces]
  | link => simp [record, Effect.announces]
  | linkMissing => simp [record, Effect.announces]
  | linkWrite => simp [startInitialWrite, Effect.announces]
  | linkDead => simp [record, Effect.announces]
  | _ => rfl

/-- Nor does a stack. -/
theorem announced_of_executes {p : Program} (h : Executes expand s p s') :
    s'.announced = s.announced := by
  refine h.invariant (I := fun u => u.announced = s.announced) (T := fun _ => True) ?_ rfl
    fun _ _ => trivial
  intro u t hu _
  exact ⟨(announced_perform u t).trans hu, fun _ _ => trivial⟩

/-- What the handler of a first read does before its stack runs: it announces its session or
    nobody, and the other sessions keep their buffers. -/
theorem peeked_before (s : Service) (id : TunnelId) (control : Option ControlView) (ec : Bool)
    (chunk : Bytes) :
    ((s.peeked id control ec chunk).1.announced = s.announced ∨
        (s.peeked id control ec chunk).1.announced = s.announced ++ [id]) ∧
      ∀ j, j ≠ id → (s.peeked id control ec chunk).1.tunnel j = s.tunnel j := by
  have hstate : ∀ j, j ≠ id → (s.peekedState id control ec chunk).tunnel j = s.tunnel j := by
    intro j hj
    unfold peekedState
    rw [tunnel_modify, if_neg hj]
  unfold peeked
  cases s.tunnel id with
  | none => exact ⟨.inl rfl, fun _ _ => rfl⟩
  | some t =>
    simp only
    split
    · cases (t.peekHandler control ec chunk).2 with
      | informAboutConnection =>
        refine ⟨.inr ?_, hstate⟩
        simp [announced, peekedState, record, Effect.announces]
      | close => exact ⟨.inl rfl, hstate⟩
      | connectTunnels client => exact ⟨.inl rfl, hstate⟩
    · exact ⟨.inl rfl, fun _ _ => rfl⟩

end Service

namespace ServiceRun

open Service

variable {r r' : ServiceRun} {e : Event} {c p : TunnelId}

/-- Nobody is announced before its first read or twice, and before its first read a session has a
    fresh buffer. -/
structure Introduced (r : ServiceRun) : Prop where
  nodup : r.service.announced.Nodup
  peeking : r.peeking ⊆ r.accepted
  read : ∀ id ∈ r.service.announced, id ∈ r.accepted ∧ id ∉ r.peeking
  fresh : ∀ id ∈ r.peeking, ∀ t, r.service.tunnel id = some t →
    t.peekBuffer = List.replicate 4096 0

theorem introduced_empty : Introduced {} where
  nodup := List.nodup_nil
  peeking := subset_rfl
  read _ h := by cases h
  fresh _ h := absurd h (Finset.notMem_empty _)

/-- A completion announces nobody, or the session whose first read it is. -/
theorem step_announced (h : r.step e = some r') :
    r'.service.announced = r.service.announced ∨
      ∃ id, id ∈ r.peeking ∧ id ∉ r'.peeking ∧
        r'.service.announced = r.service.announced ++ [id] := by
  cases e with
  | accept id =>
    simp only [step, Option.ite_none_left_eq_some, Option.some.injEq] at h
    obtain ⟨-, rfl⟩ := h
    exact .inl rfl
  | peeked id control ec chunk =>
    simp only [step, Option.ite_none_right_eq_some] at h
    obtain ⟨⟨hpeeking, -⟩, hhandle⟩ := h
    obtain ⟨s', hrun, rfl⟩ := handle_eq_some.mp hhandle
    have hkept := announced_of_executes hrun
    rcases (peeked_before r.service id control ec chunk).1 with hsame | hnew
    · exact .inl (hkept.trans hsame)
    · exact .inr ⟨id, hpeeking, Finset.notMem_erase _ _, hkept.trans hnew⟩
  | wrote source target ec =>
    simp only [step, Option.ite_none_right_eq_some] at h
    obtain ⟨s', hrun, rfl⟩ := handle_eq_some.mp h.2
    have hkept := announced_of_executes hrun
    exact .inl hkept
  | close id =>
    simp only [step, Option.ite_none_right_eq_some] at h
    obtain ⟨s', hrun, rfl⟩ := handle_eq_some.mp h.2
    have hkept := announced_of_executes hrun
    exact .inl hkept

/-- A session that is still to be read from was accepted just now, or was to be read from before
    and has its buffer from then. -/
theorem step_fresh (hr : Introduced r) (h : r.step e = some r') {id : TunnelId}
    (hid : id ∈ r'.peeking) : ∀ t, r'.service.tunnel id = some t →
      t.peekBuffer = List.replicate 4096 0 := by
  cases e with
  | accept new =>
    simp only [step, Option.ite_none_left_eq_some, Option.some.injEq] at h
    obtain ⟨-, rfl⟩ := h
    intro t ht
    change List.lookup id ((new, {}) :: r.service.tunnels) = some t at ht
    rw [List.lookup_cons] at ht
    by_cases hnew : id = new
    · rw [beq_iff_eq.mpr hnew] at ht
      obtain rfl := Option.some.inj ht
      rfl
    · rw [beq_eq_false_iff_ne.mpr hnew] at ht
      exact hr.fresh id ((Finset.mem_insert.mp hid).resolve_left hnew) t ht
  | peeked read control ec chunk =>
    simp only [step, Option.ite_none_right_eq_some] at h
    obtain ⟨s', hrun, rfl⟩ := handle_eq_some.mp h.2
    obtain ⟨hne, hpeeking⟩ := Finset.mem_erase.mp hid
    refine peekBuffer_kept hrun fun t ht => ?_
    rw [(peeked_before r.service read control ec chunk).2 id hne] at ht
    exact hr.fresh id hpeeking t ht
  | wrote source target ec =>
    simp only [step, Option.ite_none_right_eq_some] at h
    obtain ⟨s', hrun, rfl⟩ := handle_eq_some.mp h.2
    exact peekBuffer_kept hrun (hr.fresh id hid)
  | close closed =>
    simp only [step, Option.ite_none_right_eq_some] at h
    obtain ⟨s', hrun, rfl⟩ := handle_eq_some.mp h.2
    refine peekBuffer_kept hrun fun t ht => ?_
    obtain ⟨before, hbefore, rfl | ⟨rfl, rfl⟩⟩ := tunnel_modify_cases ht
    · exact hr.fresh id hid t hbefore
    · exact hr.fresh id hid before hbefore

/-- **Every completion keeps the invariant.** -/
theorem Introduced.step (hr : Introduced r) (h : r.step e = some r') : Introduced r' := by
  obtain ⟨haccepted, hpeeking, hhandled, -⟩ := step_peeking h
  have hread : ∀ id ∈ r.service.announced, id ∈ r'.accepted ∧ id ∉ r'.peeking := by
    intro id hid
    obtain ⟨hacc, hnot⟩ := hr.read id hid
    exact ⟨haccepted hacc, hhandled id hacc hnot⟩
  refine ⟨?_, hpeeking hr.peeking, ?_, fun id hid => step_fresh hr h hid⟩
  · rcases step_announced h with hsame | ⟨id, hid, -, hnew⟩
    · rw [hsame]
      exact hr.nodup
    · -- its first read was outstanding, so it was not announced before
      rw [hnew, List.nodup_append_comm, List.singleton_append, List.nodup_cons]
      exact ⟨fun hbefore => (hr.read id hbefore).2 hid, hr.nodup⟩
  · rcases step_announced h with hsame | ⟨id, hid, hnot, hnew⟩
    · rw [hsame]
      exact hread
    · rw [hnew]
      intro j hj
      rcases List.mem_append.mp hj with hj | hj
      · exact hread j hj
      · obtain rfl := List.mem_singleton.mp hj
        exact ⟨haccepted (hr.peeking hid), hnot⟩

/-! ### Who is announced and who names -/

/-- No publisher side of a link was announced. -/
def Apart (r : ServiceRun) : Prop := ∀ c p, r.service.Linked c p → p ∉ r.service.announced

/-- A handler that names a client announces nobody. -/
theorem announced_of_names (h : r.step e = some r') (hnames : r.names e = some (c, p)) :
    r'.service.announced = r.service.announced := by
  obtain ⟨control, ec, chunk, t, rfl, hpeeking, hlength, halive, ht, haction⟩ :=
    names_eq_some.mp hnames
  simp only [step, if_pos (And.intro hpeeking hlength)] at h
  obtain ⟨s, hrun, rfl⟩ := handle_eq_some.mp h
  have hkept := announced_of_executes hrun
  simp only [peeked, ht, halive, if_true, haction] at hkept
  exact hkept

theorem Apart.step (hr : Apart r) (hlinkage : Linkage r) (hintroduced : Introduced r)
    (h : r.step e = some r') : Apart r' := by
  intro c p hlinked hannounced
  rcases step_cases h with hquiet | ⟨client, publisher, hnames, hlinking⟩
  · have hbefore : r.service.Linked c p := by
      unfold Service.Linked at hlinked ⊢
      rwa [hquiet.transfers] at hlinked
    rcases step_announced h with hsame | ⟨id, hpeeking, -, hnew⟩
    · rw [hsame] at hannounced
      exact hr c p hbefore hannounced
    · rw [hnew] at hannounced
      rcases List.mem_append.mp hannounced with hold | hself
      · exact hr c p hbefore hold
      · -- its first read is over since it was linked
        obtain rfl := List.mem_singleton.mp hself
        exact (hlinkage.served c p hbefore).2 hpeeking
  · rw [announced_of_names h hnames] at hannounced
    rcases hlinking.linked_iff.mp hlinked with hbefore | ⟨rfl, rfl⟩
    · exact hr c p hbefore hannounced
    · obtain ⟨_, _, _, _, _, hpeeking, -⟩ := names_eq_some.mp hnames
      exact (hintroduced.read p hannounced).2 hpeeking

end ServiceRun

end TunnelBore.Broker
