import TunnelBore.Broker.Connect

namespace TunnelBore.Broker

open TunnelBore.Lib

/-!
# A tunnel is 1:1

`connectTunnels` decides from a claim alone which client to link.  The claim may name any session of
the table: a client that is linked already, the publisher side of another tunnel, or a session whose
own first read is still outstanding.  `link` replaces the pipe operations of a session that is
linked already, and that closes what was established.

* `step_cases` — what one completion can add to the links, the initial writes and the pipes:
  those of the client it names and nothing else;
* `Linkage` — the invariant: pipes and writes in flight run along links, and a publisher side
  is linked once, from its first read;
* `firstNaming` — the condition: of the client that is named and the publisher side that names it,
  each one that is still in the table was never linked, on neither side;
* `naming_undisturbed` — such a naming leaves every session that is linked already as it is;
* `tunnel_oneToOne` — so in every run in which all namings are such, every session has at most one
  link and writes its initial bytes at most once, and no pipe is ever replaced by another one.
-/

/-- A link with `id` on one of its sides. -/
def Effect.links (id : TunnelId) : Effect → Bool
  | .link client publisher => client = id || publisher = id
  | _                      => false

/-- An initial write of the bytes of `id`. -/
def Effect.writesFrom (id : TunnelId) : Effect → Bool
  | .initialWrite source _ _ => source = id
  | _                        => false

namespace Service

variable {s s' : Service}

/-- `link` was executed with this client and this publisher side. -/
def Linked (s : Service) (client publisher : TunnelId) : Prop :=
  .link client publisher ∈ s.transfers

/-- A session that is no side of a link. -/
def Unlinked (s : Service) (id : TunnelId) : Prop :=
  ∀ other, ¬s.Linked id other ∧ ¬s.Linked other id

/-- How often `id` was linked, on either side. -/
def linkCount (s : Service) (id : TunnelId) : Nat := s.transfers.countP (Effect.links id)

/-- How often initial bytes of `id` were written. -/
def writeCount (s : Service) (id : TunnelId) : Nat := s.transfers.countP (Effect.writesFrom id)

theorem linkCount_eq_zero {id : TunnelId} : s.linkCount id = 0 ↔ s.Unlinked id := by
  unfold linkCount Unlinked Linked
  rw [List.countP_eq_zero]
  constructor
  · intro h other
    exact ⟨fun hmem => h _ hmem (by simp [Effect.links]),
      fun hmem => h _ hmem (by simp [Effect.links])⟩
  · intro h e he hlinks
    cases e <;> simp [Effect.links] at hlinks
    next client publisher =>
      rcases hlinks with rfl | rfl
      · exact (h publisher).1 he
      · exact (h client).2 he

/-- The two sides of the links of a session that has only one. -/
theorem linked_unique {x y z : TunnelId} (hone : s.linkCount x ≤ 1)
    (hy : s.Linked x y ∨ s.Linked y x) (hz : s.Linked x z ∨ s.Linked z x) : z = y := by
  -- the two links are the same entry
  have hsame : ∀ e e', e ∈ s.transfers → e' ∈ s.transfers → e.links x = true →
      e'.links x = true → e = e' := by
    intro e e' he he' hx hx'
    have hfilter : (s.transfers.filter (Effect.links x)).length ≤ 1 := by
      rw [← List.countP_eq_length_filter]
      exact hone
    have hmem := List.mem_filter.mpr ⟨he, hx⟩
    have hmem' := List.mem_filter.mpr ⟨he', hx'⟩
    obtain ⟨only, honly⟩ := List.length_eq_one_iff.mp
      (Nat.le_antisymm hfilter (List.length_pos_of_mem hmem))
    rw [honly, List.mem_singleton] at hmem hmem'
    exact hmem.trans hmem'.symm
  rcases hy with hy | hy <;> rcases hz with hz | hz
  all_goals
    obtain ⟨hleft, hright⟩ :=
      Effect.link.inj (hsame _ _ hy hz (by simp [Effect.links]) (by simp [Effect.links]))
  · exact hright.symm
  · exact hleft.symm.trans hright.symm
  · exact hright.symm.trans hleft.symm
  · exact hleft.symm

/-! ### Stacks that connect along a relation -/

/-- A task that may connect only sessions related by `E`. -/
def Connects (E : TunnelId → TunnelId → Prop) : Task Mutex Act → Prop
  | .act (.pipeAssign id other)            => E id other
  | .act (.linkHalf id other)              => E id other
  | .act (.connectTunnels client publisher) => E client publisher ∧ E publisher client
  | .act (.connectTunnelsGuarded client publisher) => E client publisher ∧ E publisher client
  | _                                      => True

theorem connects_of_calm {E : TunnelId → TunnelId → Prop} {t : Task Mutex Act} (h : Calm t) :
    Connects E t := by
  unfold Calm at h
  unfold Connects
  split <;> trivial

/-- What a connecting task pushes connects along the same relation. -/
theorem connects_pushed {E : TunnelId → TunnelId → Prop} {t t' : Task Mutex Act}
    (ht : Connects E t) (h : t' ∈ (perform expand s t).2) : Connects E t' := by
  rcases pushed_perform h with hcalm | ⟨id, other, rfl, rfl⟩ | ⟨client, publisher, rfl, rfl⟩ |
    ⟨client, publisher, rfl, -, -, rfl | rfl⟩
  · exact connects_of_calm hcalm
  · exact ht
  · exact ht
  · exact ht.1
  · exact ht.2

/-- The pipes after a stack are pipes from before or along the relation. -/
theorem pipeOf_of_executes {E : TunnelId → TunnelId → Prop} {p : Program}
    (hp : ∀ t ∈ p, Connects E t) (h : Executes expand s p s') {x y : TunnelId}
    (hpipe : s'.pipeOf x = some y) : s.pipeOf x = some y ∨ E x y := by
  refine h.invariant (I := fun u => ∀ y, u.pipeOf x = some y → s.pipeOf x = some y ∨ E x y)
    (T := Connects E) ?_ (fun _ => .inl) hp y hpipe
  intro u t hu ht
  refine ⟨fun y hy => ?_, fun t' => connects_pushed ht⟩
  obtain ⟨after, hafter, hpipe⟩ := Option.bind_eq_some_iff.mp hy
  obtain ⟨before, hbefore, hevolves⟩ := perform_tunnel hafter
  rcases hevolves.pipe y hpipe with hold | rfl
  · exact hu y (by rw [pipeOf, hbefore]; exact hold)
  · exact .inr ht

/-- A task of a stack that only closes and starts pipes. -/
def Quiet : Task Mutex Act → Prop
  | .act (.connectTunnels ..)        => False
  | .act (.connectTunnelsGuarded ..) => False
  | .act (.linkHalf ..)              => False
  | _                                => True

theorem quiet_of_calm {t : Task Mutex Act} (h : Calm t) : Quiet t := by
  unfold Calm at h
  unfold Quiet
  split <;> trivial

/-- A quiet task pushes quiet tasks only. -/
theorem quiet_pushed {t t' : Task Mutex Act} (ht : Quiet t) (h : t' ∈ (perform expand s t).2) :
    Quiet t' := by
  rcases pushed_perform h with hcalm | ⟨id, other, rfl, rfl⟩ | ⟨client, publisher, rfl, -⟩ |
    ⟨client, publisher, rfl, -⟩
  · exact quiet_of_calm hcalm
  · trivial
  · -- the steps of `connectTunnels` are not quiet
    exact ht.elim
  · exact ht.elim

/-- A quiet stack links nothing and writes nothing. -/
theorem transfers_of_quiet {p : Program} (hp : ∀ t ∈ p, Quiet t) (h : Executes expand s p s') :
    s'.transfers = s.transfers ∧ s'.initialWrites = s.initialWrites := by
  refine h.invariant (I := fun u =>
    u.transfers = s.transfers ∧ u.initialWrites = s.initialWrites) (T := Quiet) ?_ ⟨rfl, rfl⟩ hp
  intro u t ⟨htransfers, hwrites⟩ ht
  obtain ⟨htransfers', hwrites'⟩ := perform_transfers u t
  have hnew : newTransfers u t = [] := by
    unfold newTransfers
    unfold Quiet at ht
    split <;> first | rfl | exact ht.elim
  rw [hnew, List.append_nil] at htransfers'
  rw [hnew, List.filterMap_nil, List.append_nil] at hwrites'
  exact ⟨⟨htransfers'.trans htransfers, hwrites'.trans hwrites⟩, fun t' => quiet_pushed ht⟩

/-- A stack changes no peek buffer, and makes no session. -/
theorem peekBuffer_kept {p : Program} (h : Executes expand s p s') {id : TunnelId} {buffer : Bytes}
    (hbuffer : ∀ t, s.tunnel id = some t → t.peekBuffer = buffer) :
    ∀ t, s'.tunnel id = some t → t.peekBuffer = buffer := by
  refine h.invariant (I := fun u => ∀ t, u.tunnel id = some t → t.peekBuffer = buffer)
    (T := fun _ => True) ?_ hbuffer fun _ _ => trivial
  intro u t hu _
  refine ⟨fun after hafter => ?_, fun _ _ => trivial⟩
  obtain ⟨before, hbefore, hevolves⟩ := perform_tunnel hafter
  rw [hevolves.peekBuffer]
  exact hu before hbefore

/-- One half of `link`, run to its end. -/
theorem transfers_of_linkHalf {id other : TunnelId}
    (h : Executes expand s [.act (.linkHalf id other)] s') :
    s'.transfers = s.transfers ++ newTransfers s (.act (.linkHalf id other)) ∧
      s'.initialWrites = s.initialWrites ++
        (newTransfers s (.act (.linkHalf id other))).filterMap Effect.inFlight := by
  rw [executes_cons, List.append_nil] at h
  have hquiet : ∀ t ∈ (perform expand s (.act (.linkHalf id other))).2, Quiet t := by
    intro t ht
    rcases pushed_perform ht with hcalm | ⟨_, _, -, rfl⟩ | ⟨_, _, heq, -⟩ | ⟨_, _, heq, -⟩
    · exact quiet_of_calm hcalm
    · trivial
    · exact absurd heq (by simp)
    · exact absurd heq (by simp)
  obtain ⟨htransfers, hwrites⟩ := transfers_of_quiet hquiet h
  rw [htransfers, hwrites]
  exact perform_transfers s (.act (.linkHalf id other))

/-- A failing `connectTunnels`, whatever follows it, is a `closeTunnelSide`. -/
theorem executes_connect_failure {client publisher : TunnelId} {rest : Program}
    (h : client ∉ s.sessions ∨ publisher ∉ s.sessions) :
    Executes expand s (.act (.connectTunnels client publisher) :: rest) s' ↔
      Executes expand s (.act (.closeTunnelSide
        (if client ∉ s.sessions then publisher else client) false) :: rest) s' := by
  rw [executes_top, @executes_top _ _ _ expand s s' _ rest]
  exact exists_congr fun u => and_congr_left fun _ => executes_connectTunnels_failure h

/-- One half of `link` starts at most one initial write. -/
theorem newTransfers_linkHalf (s : Service) (id other : TunnelId) :
    newTransfers s (.act (.linkHalf id other)) = [] ∨
      ∃ bytes, newTransfers s (.act (.linkHalf id other)) = [.initialWrite id other bytes] := by
  unfold newTransfers
  simp only
  split
  · exact .inl rfl
  · split
    · exact .inr ⟨_, rfl⟩
    · exact .inl rfl

/-- **What `connectTunnels` transfers**, for a publisher side with an empty peek buffer: if both
    sides are in the table, one link and at most one initial write, of the client's bytes;
    else nothing. -/
theorem transfers_of_connect {client publisher : TunnelId} {rest : Program}
    (hrest : ∀ t ∈ rest, Quiet t)
    (hempty : ∀ t, s.tunnel publisher = some t → t.peekBuffer = [])
    (h : Executes expand s (.act (.connectTunnels client publisher) :: rest) s') :
    (s'.transfers = s.transfers ∧ s'.initialWrites = s.initialWrites ∧
        (client ∉ s.sessions ∨ publisher ∉ s.sessions)) ∨
      (client ∈ s.sessions ∧ publisher ∈ s.sessions ∧ ∃ writes,
        s'.transfers = s.transfers ++ .link client publisher :: writes ∧
        (writes = [] ∨ ∃ bytes, writes = [.initialWrite client publisher bytes]) ∧
        ∀ w ∈ s'.initialWrites, w ∈ s.initialWrites ∨ w = (client, publisher)) := by
  by_cases hmem : client ∉ s.sessions ∨ publisher ∉ s.sessions
  · left
    rw [executes_connect_failure hmem] at h
    have hquiet : ∀ t ∈ Task.act (.closeTunnelSide
        (if client ∉ s.sessions then publisher else client) false) :: rest, Quiet t := by
      intro t ht
      rcases List.mem_cons.mp ht with rfl | ht
      · trivial
      · exact hrest t ht
    obtain ⟨htransfers, hwrites⟩ := transfers_of_quiet hquiet h
    exact ⟨htransfers, hwrites, hmem⟩
  · right
    obtain ⟨hclient, hpublisher⟩ := not_or.mp hmem
    rw [not_not] at hclient hpublisher
    refine ⟨hclient, hpublisher, ?_⟩
    -- the two halves of `link` run one after the other
    rw [executes_act, expand, List.cons_append, executes_lock, List.cons_append, List.nil_append,
      executes_act, expand, connectTunnelsGuarded, if_neg (not_not.mpr hclient),
      if_neg (not_not.mpr hpublisher), List.cons_append, executes_top] at h
    obtain ⟨u, hfirst, h⟩ := h
    change Executes expand (s.record (.link client publisher)) _ u at hfirst
    rw [List.cons_append, executes_top] at h
    obtain ⟨v, hsecond, h⟩ := h
    rw [List.cons_append, List.nil_append, executes_unlock] at h
    obtain ⟨hlast, hlastWrites⟩ := transfers_of_quiet hrest h
    obtain ⟨htransfers, hwrites⟩ := transfers_of_linkHalf hfirst
    obtain ⟨htransfers', hwrites'⟩ := transfers_of_linkHalf hsecond
    -- the publisher side has nothing to write
    have hnone : newTransfers u (.act (.linkHalf publisher client)) = [] := by
      unfold newTransfers
      simp only
      cases ht : u.tunnel publisher with
      | none => rfl
      | some t =>
        have := peekBuffer_kept hfirst hempty t ht
        simp [this]
    rw [hnone, List.append_nil] at htransfers'
    rw [hnone, List.filterMap_nil, List.append_nil] at hwrites'
    have hnew := newTransfers_linkHalf (s.record (.link client publisher)) client publisher
    refine ⟨_, ?_, hnew, ?_⟩
    · rw [hlast, htransfers', htransfers, transfers, effects_record, List.filter_append,
        List.append_assoc]
      rfl
    · rw [hlastWrites, hwrites', hwrites]
      intro w hw
      rcases List.mem_append.mp hw with hw | hw
      · exact .inl hw
      · right
        rcases hnew with hnil | ⟨bytes, hone⟩
        · simp [hnil] at hw
        · simpa [hone, Effect.inFlight] using hw

end Service


/-! ### What one completion can do -/

namespace ServiceRun

open Service

variable {r r' : ServiceRun} {e : Event}

/-- What a completion that links nothing leaves: no link and no initial write, and pipes that
    were there or were waiting for their initial write. -/
structure Quieted (s s' : Service) : Prop where
  transfers : s'.transfers = s.transfers
  writes : ∀ w ∈ s'.initialWrites, w ∈ s.initialWrites
  pipes : ∀ x y, s'.pipeOf x = some y → s.pipeOf x = some y ∨ (x, y) ∈ s.initialWrites

/-- What a completion that links leaves: the link of the client it names, at most one initial
    write of that client's bytes, and pipes between the two. -/
structure Linking (client publisher : TunnelId) (s s' : Service) : Prop where
  clientThere : client ∈ s.sessions
  publisherThere : publisher ∈ s.sessions
  transfers : ∃ writes, s'.transfers = s.transfers ++ .link client publisher :: writes ∧
    (writes = [] ∨ ∃ bytes, writes = [.initialWrite client publisher bytes])
  writes : ∀ w ∈ s'.initialWrites, w ∈ s.initialWrites ∨ w = (client, publisher)
  pipes : ∀ x y, s'.pipeOf x = some y → s.pipeOf x = some y ∨
    (x = client ∧ y = publisher) ∨ (x = publisher ∧ y = client)

/-- A handler that changes no pipe at first and then runs a calm stack. -/
theorem quieted_of_calm {s u s' : Service} {p : Program} (h : Executes expand u p s')
    (htransfers : u.transfers = s.transfers)
    (hwrites : ∀ w ∈ u.initialWrites, w ∈ s.initialWrites) (hpipes : u.pipeOf = s.pipeOf)
    (hp : ∀ t ∈ p, Calm t) : Quieted s s' := by
  obtain ⟨htransfers', hwrites'⟩ := transfers_of_quiet (fun t ht => quiet_of_calm (hp t ht)) h
  refine ⟨htransfers'.trans htransfers, by rw [hwrites']; exact hwrites, fun x y hxy => ?_⟩
  rcases pipeOf_of_executes (E := fun _ _ => False) (fun t ht => connects_of_calm (hp t ht)) h
    hxy with hold | hno
  · exact .inl (by rw [← hpipes]; exact hold)
  · exact hno.elim

section
variable (s : Service) (id : TunnelId) (control : Option ControlView) (ec : Bool) (chunk : Bytes)

theorem pipeOf_peekedState : (s.peekedState id control ec chunk).pipeOf = s.pipeOf := by
  funext j
  unfold peekedState
  rw [pipeOf_modify]
  split
  · next hj =>
    subst hj
    unfold pipeOf
    cases s.tunnel j with
    | none => rfl
    | some t => exact (peekHandler_frame t control ec chunk).2.1
  · rfl

variable {s id control ec chunk}

/-- The publisher side that asks for a link has an empty peek buffer from then on. -/
theorem peekBuffer_peekedState {t : TunnelSession} {client : TunnelId}
    (ht : s.tunnel id = some t)
    (haction : (t.peekHandler control ec chunk).2 = .connectTunnels client) :
    ∀ t', (s.peekedState id control ec chunk).tunnel id = some t' → t'.peekBuffer = [] := by
  intro t' ht'
  unfold peekedState at ht'
  rw [tunnel_modify, if_pos rfl, ht] at ht'
  obtain rfl := Option.some.inj ht'
  exact (peekBuffer_of_connectTunnels haction).1

end

/-- A new session is connected with nothing. -/
theorem quieted_accept (s : Service) (id : TunnelId) : Quieted s (s.accept id) := by
  refine ⟨rfl, fun w hw => hw, fun x y hxy => .inl ?_⟩
  unfold pipeOf Service.tunnel at hxy ⊢
  unfold Service.accept at hxy
  rw [List.lookup_cons] at hxy
  by_cases hx : x = id
  · simp only [hx, beq_self_eq_true, Option.bind_some] at hxy
    cases hxy
  · simpa only [beq_eq_false_iff_ne.mpr hx] using hxy

/-- The handler of a first read links nothing, or it links the client that it names. -/
theorem peeked_cases {s' : Service} {id : TunnelId} {control : Option ControlView} {ec : Bool}
    {chunk : Bytes} (hpeeking : id ∈ r.peeking) (hlength : chunk.length ≤ 4096)
    (hrun : Executes expand (r.service.peeked id control ec chunk).1
      (r.service.peeked id control ec chunk).2 s') :
    Quieted r.service s' ∨
      ∃ client, r.names (.peeked id control ec chunk) = some (client, id) ∧
        Linking client id r.service s' := by
  unfold peeked at hrun
  cases ht : r.service.tunnel id with
  | none =>
    simp only [ht] at hrun
    exact .inl (quieted_of_calm hrun rfl (fun _ h => h) rfl (by simp))
  | some t =>
    simp only [ht] at hrun
    split at hrun
    · next halive =>
      have hpipes := pipeOf_peekedState r.service id control ec chunk
      cases haction : (t.peekHandler control ec chunk).2 with
      | close =>
        simp only [haction] at hrun
        exact .inl (quieted_of_calm hrun rfl (fun _ h => h) hpipes (by simp [Calm]))
      | informAboutConnection =>
        simp only [haction] at hrun
        refine .inl (quieted_of_calm hrun ?_ (fun _ h => h) hpipes (by simp [Calm]))
        simp [transfers, Effect.isTransfer, peekedState]
      | connectTunnels client =>
        simp only [haction] at hrun
        have hnames : r.names (.peeked id control ec chunk) = some (client, id) :=
          names_eq_some.mpr ⟨control, ec, chunk, t, rfl, hpeeking, hlength, halive, ht, haction⟩
        rcases transfers_of_connect (by simp [Quiet]) (peekBuffer_peekedState ht haction) hrun
          with ⟨-, -, hfailed⟩ | ⟨hclient, hpublisher, writes, htransfers, hwrites, hinFlight⟩
        · -- one of the two sides is not in the table, and the other one is closed
          rw [executes_connect_failure hfailed] at hrun
          exact .inl (quieted_of_calm hrun rfl (fun _ h => h) hpipes (by simp [Calm]))
        · refine .inr ⟨client, hnames, hclient, hpublisher, ⟨writes, htransfers, hwrites⟩,
            hinFlight, fun x y hxy => ?_⟩
          have hpipe := pipeOf_of_executes
            (E := fun x y => (x = client ∧ y = id) ∨ (x = id ∧ y = client))
            (by simp [Connects]) hrun hxy
          rwa [hpipes] at hpipe
    · -- the session has gone while it was read from
      exact .inl (quieted_of_calm hrun rfl (fun _ h => h) rfl (by simp))

/-- The handler of an initial write starts the pipe that was waiting for it. -/
theorem quieted_wrote {s s' : Service} {source target : TunnelId} {ec : Bool}
    (hmem : (source, target) ∈ s.initialWrites)
    (hrun : Executes expand (s.wrote source target ec).1 (s.wrote source target ec).2 s') :
    Quieted s s' := by
  have hquiet : ∀ t ∈ (s.wrote source target ec).2, Quiet t := by
    cases ec <;> simp [wrote, Quiet]
  obtain ⟨htransfers, hwrites⟩ := transfers_of_quiet hquiet hrun
  refine ⟨htransfers, fun w hw => ?_, fun x y hxy => ?_⟩
  · rw [hwrites] at hw
    exact List.mem_of_mem_erase hw
  · have hpipe := pipeOf_of_executes (E := fun x y => x = source ∧ y = target)
      (by cases ec <;> simp [wrote, Connects]) hrun hxy
    exact hpipe.imp_right fun hends => by rw [hends.1, hends.2]; exact hmem

/-- **One completion.**  It links nothing, or it links the client it names, which is then in
    the table. -/
theorem step_cases (h : r.step e = some r') :
    Quieted r.service r'.service ∨
      ∃ client publisher, r.names e = some (client, publisher) ∧
        Linking client publisher r.service r'.service := by
  cases e with
  | accept id =>
    simp only [step, Option.ite_none_left_eq_some, Option.some.injEq] at h
    obtain ⟨-, rfl⟩ := h
    exact .inl (quieted_accept r.service id)
  | peeked id control ec chunk =>
    simp only [step, Option.ite_none_right_eq_some] at h
    obtain ⟨⟨hpeeking, hlength⟩, hhandle⟩ := h
    obtain ⟨s', hrun, rfl⟩ := handle_eq_some.mp hhandle
    exact (peeked_cases hpeeking hlength hrun).imp_right
      fun ⟨client, hnames, hlinking⟩ => ⟨client, id, hnames, hlinking⟩
  | wrote source target ec =>
    simp only [step, Option.ite_none_right_eq_some] at h
    obtain ⟨s', hrun, rfl⟩ := handle_eq_some.mp h.2
    exact .inl (quieted_wrote h.1 hrun)
  | close id =>
    simp only [step, Option.ite_none_right_eq_some] at h
    obtain ⟨s', hrun, rfl⟩ := handle_eq_some.mp h.2
    refine .inl (quieted_of_calm hrun rfl (fun _ h => h) ?_ (by simp [Calm]))
    -- one more owner
    funext j
    show (r.service.modify id _).pipeOf j = _
    rw [pipeOf_modify]
    split
    · next hj =>
      subst hj
      rfl
    · rfl

/-- Ids stay given out, a first read that was handled stays handled, and the one of a publisher
    side that names a client is handled from then on. -/
theorem step_peeking (h : r.step e = some r') :
    r.accepted ⊆ r'.accepted ∧ (r.peeking ⊆ r.accepted → r'.peeking ⊆ r'.accepted) ∧
      (∀ y ∈ r.accepted, y ∉ r.peeking → y ∉ r'.peeking) ∧
      ∀ client publisher, r.names e = some (client, publisher) → publisher ∉ r'.peeking := by
  cases e with
  | accept id =>
    simp only [step] at h
    split at h
    · simp at h
    · next hfresh =>
      obtain rfl := Option.some.inj h
      refine ⟨Finset.subset_insert _ _, Finset.insert_subset_insert id, ?_, ?_⟩
      · intro y hy hnot
        have hne : y ≠ id := by rintro rfl; exact hfresh hy
        simp [hne, hnot]
      · intro client publisher hnames
        simp [names] at hnames
  | peeked id control ec chunk =>
    simp only [step] at h
    split at h
    · obtain ⟨s', -, rfl⟩ := handle_eq_some.mp h
      refine ⟨subset_rfl, fun hsub => (Finset.erase_subset _ _).trans hsub,
        fun y _ hnot hmem => hnot (Finset.mem_of_mem_erase hmem), ?_⟩
      intro client publisher hnames
      obtain ⟨_, _, _, _, heq, -⟩ := names_eq_some.mp hnames
      obtain ⟨rfl, -⟩ := Event.peeked.inj heq
      exact Finset.notMem_erase _ _
    · simp at h
  | wrote source target ec =>
    simp only [step] at h
    split at h
    · obtain ⟨s', -, rfl⟩ := handle_eq_some.mp h
      exact ⟨subset_rfl, id, fun _ _ hnot => hnot, fun _ _ hnames => by simp [names] at hnames⟩
    · simp at h
  | close id =>
    simp only [step] at h
    split at h
    · obtain ⟨s', -, rfl⟩ := handle_eq_some.mp h
      exact ⟨subset_rfl, fun h => h, fun _ _ hnot => hnot,
        fun _ _ hnames => by simp [names] at hnames⟩
    · simp at h

/-! ### The invariant -/

/-- Pipes and initial writes run along links, and a publisher side is linked once, by the
    handler of its first read. -/
structure Linkage (r : ServiceRun) : Prop where
  peeking : r.peeking ⊆ r.accepted
  pipes : ∀ x y, r.service.pipeOf x = some y → r.service.Linked x y ∨ r.service.Linked y x
  writes : ∀ x y, (x, y) ∈ r.service.initialWrites → r.service.Linked x y ∨ r.service.Linked y x
  served : ∀ x y, r.service.Linked x y → y ∈ r.accepted ∧ y ∉ r.peeking
  unique : ∀ x x' y, r.service.Linked x y → r.service.Linked x' y → x = x'

theorem linkage_empty : Linkage {} where
  peeking := subset_rfl
  pipes _ _ h := absurd h (by simp [pipeOf, Service.tunnel])
  writes _ _ h := absurd h (by simp)
  served _ _ h := absurd h (by simp [Linked, transfers])
  unique _ _ _ h := absurd h (by simp [Linked, transfers])

/-- A linking completion adds exactly one link. -/
theorem Linking.linked_iff {client publisher x y : TunnelId} {s s' : Service}
    (h : Linking client publisher s s') :
    s'.Linked x y ↔ s.Linked x y ∨ (x = client ∧ y = publisher) := by
  obtain ⟨writes, htransfers, hwrites⟩ := h.transfers
  have hno : Effect.link x y ∉ writes := by
    rcases hwrites with rfl | ⟨bytes, rfl⟩ <;> simp
  unfold Linked
  rw [htransfers, List.mem_append, List.mem_cons]
  simp [hno]

/-- **Every completion keeps the invariant.** -/
theorem Linkage.step (hr : Linkage r) (h : r.step e = some r') : Linkage r' := by
  obtain ⟨haccepted, hpeeking, hhandled, hnamed⟩ := step_peeking h
  rcases step_cases h with hquiet | ⟨client, publisher, hnames, hlinking⟩
  · have hlinked : ∀ x y, r'.service.Linked x y ↔ r.service.Linked x y := by
      intro x y
      unfold Linked
      rw [hquiet.transfers]
    refine ⟨hpeeking hr.peeking, fun x y hxy => ?_, fun x y hxy => ?_, fun x y hxy => ?_,
      fun x x' y hxy hxy' => ?_⟩
    · rw [hlinked, hlinked]
      exact (hquiet.pipes x y hxy).elim (hr.pipes x y) (hr.writes x y)
    · rw [hlinked, hlinked]
      exact hr.writes x y (hquiet.writes _ hxy)
    · obtain ⟨hacc, hnot⟩ := hr.served x y ((hlinked x y).mp hxy)
      exact ⟨haccepted hacc, hhandled y hacc hnot⟩
    · exact hr.unique x x' y ((hlinked _ _).mp hxy) ((hlinked _ _).mp hxy')
  · -- the publisher side's first read was outstanding until now, so it had no link before
    obtain ⟨_, _, _, _, _, hwaiting, -⟩ := names_eq_some.mp hnames
    have hfirst : ∀ x, ¬r.service.Linked x publisher :=
      fun x hx => (hr.served x publisher hx).2 hwaiting
    refine ⟨hpeeking hr.peeking, fun x y hxy => ?_, fun x y hxy => ?_, fun x y hxy => ?_,
      fun x x' y hxy hxy' => ?_⟩
    · rw [hlinking.linked_iff, hlinking.linked_iff]
      rcases hlinking.pipes x y hxy with hold | hnew | ⟨hx, hy⟩
      · exact (hr.pipes x y hold).imp .inl .inl
      · exact .inl (.inr hnew)
      · exact .inr (.inr ⟨hy, hx⟩)
    · rw [hlinking.linked_iff, hlinking.linked_iff]
      rcases hlinking.writes _ hxy with hold | hnew
      · exact (hr.writes x y hold).imp .inl .inl
      · exact .inl (.inr (Prod.mk.inj hnew))
    · rcases hlinking.linked_iff.mp hxy with hold | ⟨rfl, rfl⟩
      · obtain ⟨hacc, hnot⟩ := hr.served x y hold
        exact ⟨haccepted hacc, hhandled y hacc hnot⟩
      · exact ⟨haccepted (hr.peeking hwaiting), hnamed _ _ hnames⟩
    · rcases hlinking.linked_iff.mp hxy with hold | ⟨rfl, rfl⟩ <;>
        rcases hlinking.linked_iff.mp hxy' with hold' | ⟨rfl, hy⟩
      · exact hr.unique x x' y hold hold'
      · exact absurd (hy ▸ hold) (hfirst x)
      · exact absurd hold' (hfirst x')
      · rfl

/-! ### Naming a client -/

/-- Of the client that a completion names and the publisher side, each one that is still in the
    table was never linked, on neither side. -/
def firstNaming (r : ServiceRun) (e : Event) : Bool :=
  (r.names e).all fun named =>
    (named.1 ∉ r.service.sessions || r.service.linkCount named.1 = 0) &&
      (named.2 ∉ r.service.sessions || r.service.linkCount named.2 = 0)

theorem firstNaming_iff : r.firstNaming e = true ↔
    ∀ client publisher, r.names e = some (client, publisher) →
      (client ∈ r.service.sessions → r.service.Unlinked client) ∧
        (publisher ∈ r.service.sessions → r.service.Unlinked publisher) := by
  unfold firstNaming
  cases hnamed : r.names e with
  | none => simp
  | some named =>
    simp only [Option.all_some, Bool.and_eq_true, Bool.or_eq_true, decide_eq_true_eq,
      linkCount_eq_zero, Option.some.injEq]
    constructor
    · rintro ⟨hclient, hpublisher⟩ client publisher rfl
      exact ⟨hclient.resolve_left ∘ not_not.mpr, hpublisher.resolve_left ∘ not_not.mpr⟩
    · intro h
      obtain ⟨hclient, hpublisher⟩ := h named.1 named.2 rfl
      exact ⟨or_iff_not_imp_left.mpr fun h => hclient (not_not.mp h),
        or_iff_not_imp_left.mpr fun h => hpublisher (not_not.mp h)⟩

/-- A session as it was: its pipe operation, whether it was closed, and its place in the table. -/
structure Undisturbed (s s' : Service) (x : TunnelId) : Prop where
  pipe : s'.pipeOf x = s.pipeOf x
  closed : (s'.tunnel x).map TunnelSession.wasClosed = (s.tunnel x).map TunnelSession.wasClosed
  inTable : x ∈ s'.sessions ↔ x ∈ s.sessions

namespace Undisturbed

variable {s s' u : Service} {x : TunnelId}

theorem trans (h : Undisturbed s s' x) (h' : Undisturbed s' u x) : Undisturbed s u x where
  pipe := h'.pipe.trans h.pipe
  closed := h'.closed.trans h.closed
  inTable := h'.inTable.trans h.inTable

theorem of_agreeOutside {R : Set TunnelId} (h : AgreeOutside R s s') (hx : x ∉ R) :
    Undisturbed s s' x where
  pipe := by
    unfold pipeOf
    rw [(h x hx).1]
  closed := by rw [(h x hx).1]
  inTable := (h x hx).2

theorem modify {id : TunnelId} {f : TunnelSession → TunnelSession}
    (hf : ∀ t, (f t).pipeOperation = t.pipeOperation ∧ (f t).wasClosed = t.wasClosed) :
    Undisturbed s (s.modify id f) x where
  pipe := by rw [(Unmoved.modify fun t => (hf t).1).pipes]
  closed := by
    rw [tunnel_modify]
    split
    · next hx =>
      subst hx
      rw [Option.map_map]
      exact congrArg (Option.map · _) (funext fun t => (hf t).2)
    · rfl
  inTable := Iff.rfl

end Undisturbed

/-- A session without a link has no pipe operation. -/
theorem Linkage.pipeOf_eq_none (hr : Linkage r) {x : TunnelId} (hx : r.service.Unlinked x) :
    r.service.pipeOf x = none := by
  cases hpipe : r.service.pipeOf x with
  | none => rfl
  | some y =>
    rcases hr.pipes x y hpipe with hto | hfrom
    · exact absurd hto (hx y).1
    · exact absurd hfrom (hx y).2

/-- **A naming that meets the condition disturbs nobody who is linked.**  What it links, or closes
    because the other side has gone, has no link and so no pipe operation; a publisher side that has
    left the table itself only lets go of its handler. -/
theorem naming_undisturbed (hr : Linkage r) (hguard : r.firstNaming e = true)
    (h : r.step e = some r') {client publisher x : TunnelId}
    (hnames : r.names e = some (client, publisher)) (hlinked : ¬r.service.Unlinked x) :
    Undisturbed r.service r'.service x := by
  obtain ⟨hclient, hpublisher⟩ := firstNaming_iff.mp hguard client publisher hnames
  obtain ⟨control, ec, chunk, t, rfl, hwaiting, hlength, halive, ht, haction⟩ :=
    names_eq_some.mp hnames
  simp only [ServiceRun.step, if_pos (And.intro hwaiting hlength)] at h
  obtain ⟨s', hrun, rfl⟩ := handle_eq_some.mp h
  simp only [peeked, ht, halive, if_true, haction] at hrun
  obtain ⟨u, hu⟩ : ∃ u, u = r.service.peekedState publisher control ec chunk := ⟨_, rfl⟩
  have hbefore : Undisturbed r.service u x := by
    rw [hu]
    exact .modify fun t => ⟨(peekHandler_frame t control ec chunk).2.1,
      (peekHandler_frame t control ec chunk).1⟩
  have hsessions : u.sessions = r.service.sessions := by rw [hu]; rfl
  -- a call about sessions without a link
  have hframe : ∀ {R : Set TunnelId} {p : Program} {v : Service},
      (∀ j ∈ R, r.service.Unlinked j) → (∀ t ∈ p, Within R t) → Executes expand u p v →
        AgreeOutside R u v ∧ x ∉ R := by
    intro R p v hR hp hcall
    refine ⟨(agreeOutside_of_executes (fun j hj k hk => ?_) hp hcall).1, fun hx =>
      hlinked (hR x hx)⟩
    rw [hu, pipeOf_peekedState, hr.pipeOf_eq_none (hR j hj)] at hk
    cases hk
  refine hbefore.trans ?_
  rw [← hu] at hrun
  by_cases hmem : publisher ∈ r.service.sessions
  · by_cases hthere : client ∈ r.service.sessions
    · obtain ⟨hagree, hx⟩ := hframe (R := {client, publisher})
        (by rintro j (rfl | rfl); exacts [hclient hthere, hpublisher hmem])
        (by simp [Within, Act.ids]) hrun
      exact .of_agreeOutside hagree hx
    · rw [executes_connect_failure (.inl (hsessions ▸ hthere)),
        if_pos (hsessions ▸ hthere)] at hrun
      obtain ⟨hagree, hx⟩ := hframe (R := {publisher})
        (by rintro j rfl; exact hpublisher hmem) (by simp [Within, Act.ids]) hrun
      exact .of_agreeOutside hagree hx
  · rw [executes_connect_failure (.inr (hsessions ▸ hmem)), executes_top] at hrun
    obtain ⟨v, hclose, hrelease⟩ := hrun
    have hside : Undisturbed u v x ∧ v.tunnel publisher = u.tunnel publisher := by
      by_cases hthere : client ∈ r.service.sessions
      · rw [if_neg (not_not.mpr (hsessions ▸ hthere))] at hclose
        obtain ⟨hagree, hx⟩ := hframe (R := {client})
          (by rintro j rfl; exact hclient hthere) (by simp [Within, Act.ids]) hclose
        refine ⟨.of_agreeOutside hagree hx, (hagree publisher ?_).1⟩
        rintro rfl
        exact hmem hthere
      · -- neither of the two is in the table
        rw [if_pos (hsessions ▸ hthere), executes_act, expand, List.append_nil, executes_lock,
          executes_act, expand, closeTunnelSideGuarded, if_neg (hsessions ▸ hmem), List.append_nil,
          executes_unlock, executes_nil] at hclose
        subst hclose
        exact ⟨⟨rfl, rfl, Iff.rfl⟩, rfl⟩
    -- somebody else owns the publisher side, too
    have howned : ∃ t, v.tunnel publisher = some t ∧ 1 < t.owners := by
      obtain ⟨t', ht', hor⟩ := (alive_iff _).mp halive
      rw [hside.2, hu]
      unfold peekedState
      rw [tunnel_modify, if_pos rfl, ht', Option.map_some]
      exact ⟨_, rfl, Nat.succ_lt_succ (hor.resolve_left hmem)⟩
    rcases release_later (.inr howned) hrelease with rfl | rfl
    · exact hside.1
    · exact hside.1.trans
        (.modify (f := fun t => { t with owners := t.owners - 1 }) fun _ => ⟨rfl, rfl⟩)

/-- Naming a client that is linked already links nothing and writes nothing. -/
theorem naming_transfers (hguard : r.firstNaming e = true) (h : r.step e = some r')
    {client publisher : TunnelId} (hnames : r.names e = some (client, publisher))
    (hlinked : ¬r.service.Unlinked client) : r'.service.transfers = r.service.transfers := by
  rcases step_cases h with hquiet | ⟨client', publisher', hnames', hlinking⟩
  · exact hquiet.transfers
  · obtain ⟨rfl, rfl⟩ := Prod.mk.inj (Option.some.inj (hnames.symm.trans hnames'))
    exact absurd ((firstNaming_iff.mp hguard _ _ hnames).1 hlinking.clientThere) hlinked

/-! ### One to one -/

/-- What a guarded run keeps: sessions are linked at most once and served at most as often. -/
structure OneToOne (s : Service) : Prop where
  links : ∀ id, s.linkCount id ≤ 1
  writes : ∀ id, s.writeCount id ≤ s.linkCount id

theorem OneToOne.step (hs : OneToOne r.service) (hguard : r.firstNaming e = true)
    (h : r.step e = some r') : OneToOne r'.service := by
  rcases step_cases h with hquiet | ⟨client, publisher, hnames, hlinking⟩
  · constructor
    · intro id
      unfold linkCount
      rw [hquiet.transfers]
      exact hs.links id
    · intro id
      unfold writeCount linkCount
      rw [hquiet.transfers]
      exact hs.writes id
  · obtain ⟨hclient, hpublisher⟩ := firstNaming_iff.mp hguard client publisher hnames
    have hzero : ∀ id, client = id ∨ publisher = id → r.service.linkCount id = 0 := by
      rintro id (rfl | rfl)
      · exact linkCount_eq_zero.mpr (hclient hlinking.clientThere)
      · exact linkCount_eq_zero.mpr (hpublisher hlinking.publisherThere)
    obtain ⟨writes, htransfers, hwrites⟩ := hlinking.transfers
    have hlinks : ∀ id, r'.service.linkCount id =
        r.service.linkCount id + if client = id ∨ publisher = id then 1 else 0 := by
      intro id
      have hno : writes.countP (Effect.links id) = 0 := by
        rcases hwrites with rfl | ⟨bytes, rfl⟩ <;> simp [Effect.links]
      unfold linkCount
      rw [htransfers, List.countP_append, List.countP_cons, hno]
      simp [Effect.links]
    have hserved : ∀ id, r'.service.writeCount id ≤
        r.service.writeCount id + if client = id then 1 else 0 := by
      intro id
      have hone : writes.countP (Effect.writesFrom id) ≤ if client = id then 1 else 0 := by
        rcases hwrites with rfl | ⟨bytes, rfl⟩
        · simp
        · simp [Effect.writesFrom, List.countP_cons]
      unfold writeCount
      rw [htransfers, List.countP_append, List.countP_cons]
      simpa [Effect.writesFrom] using hone
    constructor
    · intro id
      rw [hlinks]
      split
      · next hside => rw [hzero id hside]
      · exact hs.links id
    · intro id
      have hbefore := hs.writes id
      have hafter := hserved id
      rw [hlinks]
      by_cases hclient : client = id
      · rw [if_pos hclient] at hafter
        rw [if_pos (.inl hclient)]
        omega
      · rw [if_neg hclient] at hafter
        omega

/-- **A tunnel is 1:1.**  In every run in which each completion that names a client meets the
    condition, every session is linked at most once, on whichever side, and its initial bytes are
    written at most once; no completion replaces a pipe by one to another session; and a publisher
    side that names a client disturbs no session that is linked already, and, if that client is,
    links and writes nothing. -/
theorem tunnel_oneToOne {events : List Event} {r : ServiceRun}
    (hguard : Along ServiceRun.step (fun r e => r.firstNaming e = true) {} events)
    (hrun : run ServiceRun.step {} events = some r) :
    (∀ id, r.service.linkCount id ≤ 1 ∧ r.service.writeCount id ≤ 1) ∧
      ∀ e r', r.firstNaming e = true → r.step e = some r' →
        (∀ x y z, r.service.pipeOf x = some y → r'.service.pipeOf x = some z → z = y) ∧
        ∀ client publisher, r.names e = some (client, publisher) →
          (∀ x, 0 < r.service.linkCount x → Undisturbed r.service r'.service x) ∧
            (0 < r.service.linkCount client → r'.service.transfers = r.service.transfers) := by
  have hlinkage : Linkage r := run_preserves (fun _ _ _ hr h => hr.step h) linkage_empty hrun
  have hcounts : OneToOne r.service := by
    refine run_invariant (I := fun r => OneToOne r.service)
      (fun _ _ _ hr hg h => hr.step hg h) ?_ hguard hrun
    exact ⟨fun _ => Nat.zero_le _, fun _ => le_rfl⟩
  have hunlinked : ∀ x, 0 < r.service.linkCount x → ¬r.service.Unlinked x := by
    intro x hpos hnone
    rw [linkCount_eq_zero.mpr hnone] at hpos
    exact absurd hpos (lt_irrefl 0)
  refine ⟨fun id => ⟨hcounts.links id, (hcounts.writes id).trans (hcounts.links id)⟩,
    fun e r' hfirst hstep => ⟨fun x y z hy hz => ?_, fun client publisher hnames => ⟨fun x hx => ?_,
      fun hpos => ?_⟩⟩⟩
  · -- both pipes run along the one link of `x`, which is still there
    have hkeeps : ∀ {x y}, r.service.Linked x y → r'.service.Linked x y := by
      intro x y hxy
      rcases step_cases hstep with hquiet | ⟨_, _, -, hlinking⟩
      · unfold Linked at hxy ⊢
        rwa [hquiet.transfers]
      · exact hlinking.linked_iff.mpr (.inl hxy)
    exact linked_unique ((hcounts.step hfirst hstep).links x)
      ((hlinkage.pipes x y hy).imp hkeeps hkeeps) ((hlinkage.step hstep).pipes x z hz)
  · exact naming_undisturbed hlinkage hfirst hstep hnames (hunlinked x hx)
  · exact naming_transfers hfirst hstep hnames (hunlinked client hpos)

/-! ### A client named twice -/

/-- A client and two publisher sides connect; the first is linked to the client. -/
def eventsLinkingOnce : List Event :=
  [.accept "c", .accept "p", .accept "q",
    .peeked "c" (some (viewNaming "c")) false (asciiString "x"),
    .peeked "p" (some (viewNaming "c")) false (chunkNaming "c"),
    .wrote "c" "p" false]

/-- Then the second names the same client. -/
def eventsLinkingTwice : List Event :=
  eventsLinkingOnce ++
    [.peeked "q" (some (viewNaming "c")) false (chunkNaming "c"), .wrote "c" "q" false]

/-- Or it names the publisher side of the tunnel. -/
def eventsLinkingPublisher : List Event :=
  eventsLinkingOnce ++ [.peeked "q" (some (viewNaming "p")) false (chunkNaming "p")]

/-- Or it names nobody who is there. -/
def namingGone : Event := .peeked "q" (some (viewNaming "d")) false (chunkNaming "d")

/-- A client that is gone is named while a tunnel is established: the tunnel stays. -/
theorem tunnel_oneToOne_once :
    ∃ r r', run ServiceRun.step {} eventsLinkingOnce = some r ∧ r.service.linkCount "c" ≤ 1 ∧
      r.names namingGone = some ("d", "q") ∧
      r.step namingGone = some r' ∧
      r'.service.pipeOf "c" = some "p" ∧ r'.service.pipeOf "p" = some "c" := by
  have hsome : ∃ r r', run ServiceRun.step {} eventsLinkingOnce = some r ∧
      r.names namingGone = some ("d", "q") ∧
      r.firstNaming namingGone = true ∧
      r.step namingGone = some r' ∧
      0 < r.service.linkCount "c" ∧ 0 < r.service.linkCount "p" ∧
      r.service.pipeOf "c" = some "p" ∧ r.service.pipeOf "p" = some "c" :=
    ⟨_, _, Option.eq_some_of_isSome (by decide +kernel), by decide +kernel, by decide +kernel,
      Option.eq_some_of_isSome (by decide +kernel), by decide +kernel⟩
  obtain ⟨r, r', hrun, hnames, hfirst, hstep, hc, hp, hpipe, hback⟩ := hsome
  have hone := tunnel_oneToOne (by decide +kernel) hrun
  obtain ⟨-, hnaming⟩ := hone.2 _ _ hfirst hstep
  obtain ⟨hsame, -⟩ := hnaming "d" "q" hnames
  exact ⟨r, r', hrun, (hone.1 "c").1, hnames, hstep, (hsame "c" hc).pipe.trans hpipe,
    (hsame "p" hp).pipe.trans hback⟩

/-- The run that names the client twice links it twice and writes its initial bytes twice, and the
    pipes that were established are gone.  So are they when the publisher side is named, which the
    second half of `link` then uses after its end. -/
theorem tunnel_linkedTwice :
    (∃ r, run ServiceRun.step {} eventsLinkingOnce = some r ∧
      r.service.pipeOf "c" = some "p" ∧ r.service.pipeOf "p" = some "c") ∧
      (∃ r, run ServiceRun.step {} eventsLinkingTwice = some r ∧
        r.service.linkCount "c" = 2 ∧ r.service.writeCount "c" = 2 ∧
        r.service.pipeOf "c" = none ∧ r.service.pipeOf "p" = none) ∧
      ∃ r, run ServiceRun.step {} eventsLinkingPublisher = some r ∧
        r.service.linkCount "p" = 2 ∧ r.service.pipeOf "c" = none ∧
        r.service.pipeOf "p" = none ∧ .dangling "p" ∈ r.service.effects := by
  refine ⟨?_, ?_, ?_⟩
  · exact ⟨_, Option.eq_some_of_isSome (by decide +kernel), by decide +kernel⟩
  · exact ⟨_, Option.eq_some_of_isSome (by decide +kernel), by decide +kernel⟩
  · exact ⟨_, Option.eq_some_of_isSome (by decide +kernel), by decide +kernel⟩

end ServiceRun

end TunnelBore.Broker
