import TunnelBore.Broker.CallThreads

namespace TunnelBore.Broker

open TunnelBore.Lib

/-!
# When closing a tunnel deadlocks

`TunnelSession::close` keeps its `closeLock` while it closes the other side, which takes the
`closeLock` of that side and then the `sessionGuard`; the functions of the service keep the
`sessionGuard` while they close.  There is no order among these mutexes: two threads that
close the two sides of a tunnel each take their own `closeLock` and wait for the other one
(`close_deadlocks`).  What does not deadlock:

* `ClosingStage` — two threads that close the same side: whoever waits for the first
  `closeLock` or for the `sessionGuard` at the end holds nothing, and only one thread is in
  between;
* `Separated` — a call that can close only sessions from which no pipe leads to the tunnel
  (`Apart`, `mayClose`): then the two threads have nothing but the `sessionGuard` in common.

`close_never_deadlocks` puts the two together.
-/

namespace Service

variable {s s' : Service} {c c' : CallThreads} {x y : TunnelId} {i j : Bool}

/-! ### Both threads close the same side -/

/-- Where a thread is in `close` of the session `x`, by its stack. -/
inductive ClosingStage (x : TunnelId) : Program → Prop
  | called : ClosingStage x [.act (.close x)]
  | locking : ClosingStage x [.lock (.closeLock x), .act (.closeGuarded x)]
  | locked : ClosingStage x [.act (.closeGuarded x)]
  | wasClosed : ClosingStage x [.unlock (.closeLock x)]
  /-- The pipe operation is being closed. -/
  | nested {inner : Program} (h : Releasing Act.guard inner) :
      ClosingStage x (inner ++ [.unlock (.closeLock x), .act (.closeTunnelSide x true)])
  | leaving : ClosingStage x [.act (.closeTunnelSide x true)]
  | leavingLocking :
      ClosingStage x [.lock .sessionGuard, .act (.closeTunnelSideGuarded x true)]
  | leavingLocked : ClosingStage x [.act (.closeTunnelSideGuarded x true)]
  | erasing : ClosingStage x [.act (.erase x), .unlock .sessionGuard]
  | erased : ClosingStage x [.unlock .sessionGuard]
  | done : ClosingStage x []

/-- The block of `close` under its lock. -/
theorem closingStage_closeGuarded (s : Service) (x : TunnelId) :
    ClosingStage x (s.closeGuarded x).2 := by
  have hout : Outcome s (.act (.closeGuarded x)) (s.closeGuarded x) := outcome s _
  generalize s.closeGuarded x = result at hout ⊢
  cases hout with
  | wasClosed => exact .wasClosed
  | closes _ _ hpipe =>
    apply ClosingStage.nested
    refine (owes_nothing ?_).2
    rcases hpipe with rfl | ⟨other, -, rfl⟩ <;> simp [Act.guard]

/-- A thread goes from stage to stage, as long as it does not destroy the session. -/
theorem ClosingStage.perform {t : Task Mutex Act} {ts rest : Program}
    (h : ClosingStage x (t :: ts)) (howned : Owned x s (t :: rest)) :
    ClosingStage x ((Lib.perform expand s t).2 ++ ts) := by
  generalize hp : t :: ts = p at h
  cases h with
  | called =>
    obtain ⟨rfl, rfl⟩ := List.cons.inj hp
    exact .locking
  | locking =>
    obtain ⟨rfl, rfl⟩ := List.cons.inj hp
    exact .locked
  | locked =>
    obtain ⟨rfl, rfl⟩ := List.cons.inj hp
    rw [List.append_nil]
    exact closingStage_closeGuarded s x
  | wasClosed =>
    obtain ⟨rfl, rfl⟩ := List.cons.inj hp
    exact .done
  | @nested inner hinner =>
    cases inner with
    | nil =>
      obtain ⟨rfl, rfl⟩ := List.cons.inj hp
      exact .leaving
    | cons u inner =>
      obtain ⟨rfl, rfl⟩ := List.cons.inj hp
      show ClosingStage x ((Lib.perform expand s t).2 ++ (inner ++ _))
      rw [← List.append_assoc]
      exact .nested (hinner.perform paired_guard)
  | leaving =>
    obtain ⟨rfl, rfl⟩ := List.cons.inj hp
    exact .leavingLocking
  | leavingLocking =>
    obtain ⟨rfl, rfl⟩ := List.cons.inj hp
    exact .leavingLocked
  | leavingLocked =>
    obtain ⟨rfl, rfl⟩ := List.cons.inj hp
    show ClosingStage x ((s.closeTunnelSideGuarded x true).2 ++ [])
    rw [List.append_nil]
    unfold closeTunnelSideGuarded
    split
    · exact .erasing
    · exact .erased
  | erasing =>
    obtain ⟨rfl, rfl⟩ := List.cons.inj hp
    show ClosingStage x ((s.erase x).2 ++ [.unlock .sessionGuard])
    rw [howned.erase_pushes]
    exact .erased
  | erased =>
    obtain ⟨rfl, rfl⟩ := List.cons.inj hp
    exact .done
  | done => cases hp

/-- A thread that waits in `close` holds nothing, or it is closing the pipe operation. -/
theorem ClosingStage.held_of_wanted {p : Program} {held : List Mutex} {m : Mutex}
    (h : ClosingStage x p) (hsettled : Settled Act.guard held p) (hwanted : wanted p = some m) :
    held = [] ∨ .closeLock x ∈ held := by
  cases h with
  | locking =>
    left
    apply hsettled.held_eq_nil
    intro n
    by_cases hn : Mutex.closeLock x = n <;> simp [debt, Act.guard, hn]
  | leavingLocking =>
    left
    apply hsettled.held_eq_nil
    intro n
    by_cases hn : Mutex.sessionGuard = n <;> simp [debt, Act.guard, hn]
  | nested hinner =>
    right
    apply hsettled.mem_held
    have hnonneg := hinner.owed_nonneg (.closeLock x)
    rw [owed_append]
    simp only [owed_cons, owed_nil, debt, Act.guard, if_true]
    simp only [reduceCtorEq, if_false]
    omega
  | called => cases hwanted
  | locked => cases hwanted
  | wasClosed => cases hwanted
  | leaving => cases hwanted
  | leavingLocked => cases hwanted
  | erasing => cases hwanted
  | erased => cases hwanted
  | done => cases hwanted

/-- Everything that is still to be done. -/
def pending (c : CallThreads) : Program := c.stack false ++ c.stack true

/-- What is pending, seen from the thread that takes the next step. -/
theorem pending_perm {t : Task Mutex Act} {ts : Program} (h : c.Pops expand i t ts c') :
    ∃ rest, (pending c).Perm (t :: rest) ∧
      (pending c').Perm ((perform expand c.state t).2 ++ rest) := by
  refine ⟨ts ++ c.stack !i, ?_, ?_⟩
  · unfold pending
    cases i with
    | false =>
      rw [h.stack]
      exact List.Perm.refl _
    | true =>
      rw [h.stack]
      exact List.perm_append_comm
  · unfold pending
    rw [← List.append_assoc]
    cases i with
    | false =>
      rw [h.stack', (h.others true (by decide)).1]
      exact List.Perm.refl _
    | true =>
      rw [h.stack', (h.others false (by decide)).1]
      exact List.perm_append_comm

/-- An owned session stays owned when a thread takes a step. -/
theorem Owned.step {id : TunnelId} {t : Task Mutex Act} {ts : Program}
    (h : c.Pops expand i t ts c') (howned : Owned id c.state (pending c)) :
    Owned id c'.state (pending c') := by
  obtain ⟨rest, hbefore, hafter⟩ := pending_perm h
  rw [h.state']
  exact (howned.perm hbefore).perform.perm hafter.symm

/-- Both threads are closing `x`. -/
structure BothClosing (x : TunnelId) (c : CallThreads) : Prop where
  exclusive : c.Exclusive
  settled : ∀ i, Settled Act.guard (c.held i) (c.stack i)
  stage : ∀ i, ClosingStage x (c.stack i)
  owned : Owned x c.state (pending c)

theorem BothClosing.step (hc : BothClosing x c) (h : c.step expand i = some c') :
    BothClosing x c' := by
  obtain ⟨t, ts, hpops⟩ := Threads.step_pops h
  refine ⟨hc.exclusive.step h, Threads.settled_step paired_guard hc.settled h, ?_,
    hc.owned.step hpops⟩
  apply hpops.forall_threads (P := fun _ p _ => ClosingStage x p)
  · obtain ⟨rest, hbefore, -⟩ := pending_perm hpops
    have hstage := hc.stage i
    rw [hpops.stack] at hstage
    exact hstage.perform (hc.owned.perm hbefore)
  · exact fun j _ => hc.stage j

/-- **Two threads that close the same side do not wait for each other.** -/
theorem BothClosing.not_mutualWait (hc : BothClosing x c) : ¬c.MutualWait i j := by
  rintro ⟨⟨hne, m, hwanted, hheld⟩, -, n, hwanted', hheld'⟩
  -- each of them holds something, so each is closing the pipe operation, under one `closeLock`
  rcases (hc.stage i).held_of_wanted (hc.settled i) hwanted with hnil | hi
  · rw [hnil] at hheld'
    exact absurd hheld' List.not_mem_nil
  · rcases (hc.stage j).held_of_wanted (hc.settled j) hwanted' with hnil | hj
    · rw [hnil] at hheld
      exact absurd hheld List.not_mem_nil
    · exact hne (hc.exclusive i j _ hi hj)

/-! ### The other call stays apart from the tunnel -/

/-- A session that can be linked without closing anything: it has no pipe operation, or its
    peek buffer is written first and the pipe only started afterwards. -/
def linksQuietly (s : Service) (id : TunnelId) : Bool :=
  (s.tunnel id).all fun t => t.peekBuffer ≠ [] || t.pipeOperation.isNone

/-- Somebody besides the map owns the session. -/
def isOwned (s : Service) (id : TunnelId) : Bool := (s.tunnel id).any fun t => 0 < t.owners

/-- The sessions that a call can come to close while another thread closes `x` and `y`, those
    they are piped to not counted.  A side that leaves the table meanwhile makes
    `connectTunnels` close the other one. -/
def mayClose (s : Service) (x y : TunnelId) : Call → List TunnelId
  | .close id => [id]
  | .closeTunnelSide id wasPreclosed =>
    if id ∈ s.sessions ∧ (wasPreclosed = false ∨ s.isOwned id = false) then [id] else []
  | .connectTunnels client publisher =>
    (if publisher ∈ s.sessions ∧ (client ∉ s.sessions ∨ client = x ∨ client = y) then [publisher]
      else []) ++
    (if client ∈ s.sessions ∧ (publisher ∉ s.sessions ∨ publisher = x ∨ publisher = y)
      then [client] else []) ++
    (if client ∈ s.sessions ∧ publisher ∈ s.sessions ∧
        ¬(client ≠ publisher ∧ s.linksQuietly client ∧ s.linksQuietly publisher)
      then [client, publisher] else [])

/-- The sessions of a list and all that they are piped to. -/
def reach (s : Service) (ids : List TunnelId) : Set TunnelId :=
  {j | ∃ id ∈ ids, j = id ∨ PipedFrom s id j}

/-- No session of the list is `x` or `y`, or is piped to them, also through others. -/
def Apart (s : Service) (x y : TunnelId) (ids : List TunnelId) : Prop :=
  x ∉ s.reach ids ∧ y ∉ s.reach ids

/-- Pipe operations do not lead out of what is reached. -/
theorem pipeClosed_reach (s : Service) (ids : List TunnelId) : PipeClosed (s.reach ids) s := by
  rintro j ⟨id, hid, rfl | hj⟩ k hk
  · exact ⟨j, hid, .inr (.direct hk)⟩
  · exact ⟨id, hid, .inr (.further hj hk)⟩

/-- The mutexes of the sessions in `R`. -/
def Locks (R : Set TunnelId) : Set Mutex := {m | ∀ id, m = .closeLock id → id ∈ R}

theorem sessionGuard_mem_locks (R : Set TunnelId) : .sessionGuard ∈ Locks R :=
  fun _ h => absurd h (by simp)

/-- Sets without a common session have the `sessionGuard` in common. -/
theorem locks_inter_subsingleton {X R : Set TunnelId} (hdisjoint : ∀ id ∈ X, id ∉ R) :
    (Locks X ∩ Locks R).Subsingleton := by
  have honly : ∀ m ∈ Locks X ∩ Locks R, m = .sessionGuard := by
    rintro m ⟨hX, hR⟩
    cases m with
    | sessionGuard => rfl
    | closeLock id => exact absurd (hR id rfl) (hdisjoint id (hX id rfl))
  intro m hm n hn
  rw [honly m hm, honly n hn]

/-- A task about sessions in `R` that takes only their mutexes. -/
def Bounded (R : Set TunnelId) (t : Task Mutex Act) : Prop :=
  Within R t ∧ ∀ m, t = .lock m → m ∈ Locks R

section
variable {R X : Set TunnelId} {t u : Task Mutex Act} {p : Program}

/-- A call on a session of `R` is bounded. -/
theorem bounded_act {a : Act} {id : TunnelId} (hids : a.ids = [id]) (hid : id ∈ R) :
    Bounded R (.act a) := by
  refine ⟨fun other hother => ?_, fun m hm => by cases hm⟩
  rw [hids] at hother
  rwa [List.mem_singleton.mp hother]

/-- What a bounded task pushes is bounded. -/
theorem Bounded.perform (h : Bounded R t) (hclosed : PipeClosed R s)
    (hu : u ∈ (Lib.perform expand s t).2) : Bounded R u := by
  refine ⟨(confined_perform hclosed h.1).within u hu, ?_⟩
  rintro m rfl
  rcases (pushed_special hu).1 m rfl with rfl | ⟨id, rfl, rfl⟩
  · exact sessionGuard_mem_locks R
  · intro j hj
    obtain rfl := Mutex.closeLock.inj hj
    exact h.1 id (by simp [Act.ids])

/-- A calm task starts no pipe. -/
theorem pipeOf_of_perform {id k : TunnelId} (h : (Lib.perform expand s t).1.pipeOf id = some k) :
    s.pipeOf id = some k ∨ t = .act (.pipeAssign id k) := by
  obtain ⟨after, hafter, hpipe⟩ := Option.bind_eq_some_iff.mp h
  obtain ⟨before, hbefore, hevolves⟩ := perform_tunnel hafter
  refine (hevolves.pipe k hpipe).imp_left fun hold => ?_
  rw [pipeOf, hbefore]
  exact hold

/-- A task that starts no pipe in `X` keeps `X` closed. -/
theorem PipeClosed.perform (hclosed : PipeClosed X s)
    (ht : ∀ id k, t = .act (.pipeAssign id k) → id ∉ X) :
    PipeClosed X (Lib.perform expand s t).1 := by
  intro id hid k hk
  rcases pipeOf_of_perform hk with hold | hassign
  · exact hclosed id hid k hold
  · exact absurd hid (ht id k hassign)

/-! #### A call that closes nothing -/

/-- The session gets no pipe, or gets it in place of none and is not in `X`. -/
def QuietLink (X : Set TunnelId) (s : Service) (id : TunnelId) : Prop :=
  ∀ t, s.tunnel id = some t → t.peekBuffer ≠ [] ∨ (id ∉ X ∧ t.pipeOperation = none)

/-- A task that closes nothing and takes only the `sessionGuard`, in a state in which `p` is
    pending. -/
def Harmless (X : Set TunnelId) (s : Service) (p : Program) : Task Mutex Act → Prop
  | .lock m                               => m = .sessionGuard
  | .unlock _                             => True
  | .act (.closeTunnelSide id pre)        => id ∉ s.sessions ∨ (pre = true ∧ Owned id s p)
  | .act (.closeTunnelSideGuarded id pre) => id ∉ s.sessions ∨ (pre = true ∧ Owned id s p)
  | .act (.erase id)                      => Owned id s p
  | .act (.linkHalf id _)                 => QuietLink X s id
  | .act (.pipeAssign id _)               => id ∉ X ∧ s.pipeOf id = none
  | _                                     => False

/-- The session a task is going to pipe. -/
def source : Task Mutex Act → Option TunnelId
  | .act (.linkHalf id _)   => some id
  | .act (.pipeAssign id _) => some id
  | _                       => none

/-- Linking stays quiet as long as nobody pipes the session. -/
theorem QuietLink.perform {id : TunnelId} (h : QuietLink X s id)
    (ht : ∀ k, t ≠ .act (.pipeAssign id k)) : QuietLink X (Lib.perform expand s t).1 id := by
  intro after hafter
  obtain ⟨before, hbefore, hevolves⟩ := perform_tunnel hafter
  rw [hevolves.peekBuffer]
  refine (h before hbefore).imp_right fun hnone => ⟨hnone.1, ?_⟩
  rw [Option.eq_none_iff_forall_ne_some]
  intro k hk
  rcases hevolves.pipe k hk with hold | hassign
  · rw [hnone.2] at hold
    cases hold
  · exact ht k hassign

/-- No task puts an entry into the table. -/
theorem sessions_perform_subset : (Lib.perform expand s t).1.sessions ⊆ s.sessions := by
  obtain ⟨-, -, -, hsessions⟩ := perform_effects s t
  rw [hsessions]
  split
  · exact Finset.erase_subset _ _
  · exact subset_rfl

/-- **Harmless tasks stay harmless**, unless their session is piped. -/
theorem Harmless.perform {p' : Program} (h : Harmless X s p u)
    (howned : ∀ id, Owned id s p → Owned id (Lib.perform expand s t).1 p')
    (ht : ∀ id k, source u = some id → t ≠ .act (.pipeAssign id k)) :
    Harmless X (Lib.perform expand s t).1 p' u := by
  have hside : ∀ {id : TunnelId} {pre : Bool}, (id ∉ s.sessions ∨ (pre = true ∧ Owned id s p)) →
      id ∉ (Lib.perform expand s t).1.sessions ∨
        (pre = true ∧ Owned id (Lib.perform expand s t).1 p') := by
    intro id pre h
    refine h.imp (fun hnot hmem => hnot (sessions_perform_subset hmem)) ?_
    exact And.imp_right (howned id)
  cases u with
  | lock m => exact h
  | unlock m => trivial
  | act a =>
    cases a with
    | closeTunnelSide id pre => exact hside h
    | closeTunnelSideGuarded id pre => exact hside h
    | erase id => exact howned id h
    | linkHalf id other => exact QuietLink.perform h fun k => ht id k rfl
    | pipeAssign id other =>
      refine ⟨h.1, ?_⟩
      rw [Option.eq_none_iff_forall_ne_some]
      intro k hk
      rcases pipeOf_of_perform hk with hold | hassign
      · rw [h.2] at hold
        cases hold
      · exact ht id k rfl hassign
    | close id => exact h.elim
    | closeGuarded id => exact h.elim
    | pipeClose id other => exact h.elim
    | pipeReset id => exact h.elim
    | release id => exact h.elim
    | destroy id => exact h.elim
    | free id => exact h.elim
    | connectTunnels client publisher => exact h.elim
    | connectTunnelsGuarded client publisher => exact h.elim

/-- What a harmless task pushes is harmless, and is about to pipe no other session. -/
theorem Harmless.pushes {p' : Program} (h : Harmless X s p t)
    (howned : ∀ id, Owned id s p → Owned id (Lib.perform expand s t).1 p') :
    (∀ u ∈ (Lib.perform expand s t).2, Harmless X (Lib.perform expand s t).1 p' u) ∧
      ((Lib.perform expand s t).2.filterMap source).Sublist (source t).toList := by
  have hnone : ∀ {s' : Service}, (∀ u ∈ ([] : Program), Harmless X s' p' u) ∧
      (([] : Program).filterMap source).Sublist (source t).toList :=
    fun {_} => ⟨by simp, List.nil_sublist _⟩
  have hout := outcome s t
  generalize Lib.perform expand s t = result at hout howned ⊢
  cases hout with
  | lock => exact hnone
  | unlock => exact hnone
  | closeTunnelSide id pre =>
    refine ⟨fun u hu => ?_, List.nil_sublist _⟩
    rcases List.mem_pair.mp hu with rfl | rfl
    · rfl
    · exact h.imp_right (And.imp_right (howned id))
  | sideGone =>
    refine ⟨fun u hu => ?_, List.nil_sublist _⟩
    obtain rfl := List.mem_singleton.mp hu
    trivial
  | @sideFound id pre hmem =>
    -- the session is there, so it was closed before and somebody owns it
    obtain ⟨rfl, howner⟩ := h.resolve_left (not_not.mpr hmem)
    refine ⟨fun u hu => ?_, List.nil_sublist _⟩
    rcases List.mem_pair.mp hu with rfl | rfl
    · exact howned id howner
    · trivial
  | @erase id _ s' hs' =>
    obtain ⟨t, ht, hlt⟩ := (howned id h).owner
    have hpushes : s'.destroyIfUnowned id = [] :=
      destroyIfUnowned_of_alive ((alive_iff _).mpr ⟨t, ht, .inr (Nat.zero_lt_of_lt hlt)⟩)
    rw [hpushes]
    exact hnone
  | eraseInvalid => exact hnone
  | linkMissing => exact hnone
  | @linkPipe id other t ht hempty =>
    refine ⟨fun u hu => ?_, List.Sublist.refl _⟩
    obtain rfl := List.mem_singleton.mp hu
    obtain ⟨hX, hpipe⟩ := (h t ht).resolve_left (not_not.mpr hempty)
    refine ⟨hX, ?_⟩
    rw [pipeOf, ht]
    exact hpipe
  | linkWrite => exact hnone
  | linkDead => exact hnone
  | @pipeAssign id other _ hp =>
    rcases hp with ⟨-, rfl⟩ | ⟨old, hold, -⟩
    · exact hnone
    · rw [show (s.tunnel id).bind TunnelSession.pipeOperation = none from h.2] at hold
      cases hold
  | _ => exact h.elim

/-! #### A call of `connectTunnels` -/

/-- What makes a call of `connectTunnels` safe before it has the `sessionGuard`: the side it
    closes is in `R`, also if the other side has left the table by then, and what it links is in
    `R` or linked quietly. -/
structure ConnectSafe (X R : Set TunnelId) (s : Service) (client publisher : TunnelId) :
    Prop where
  noClient : publisher ∈ s.sessions → client ∉ s.sessions ∨ client ∈ X → publisher ∈ R
  noPublisher : client ∈ s.sessions → publisher ∉ s.sessions ∨ publisher ∈ X → client ∈ R
  both : client ∈ s.sessions → publisher ∈ s.sessions → (client ∈ R ∧ publisher ∈ R) ∨
    (client ≠ publisher ∧ QuietLink X s client ∧ QuietLink X s publisher)

/-- What the first thread does to the table concerns entries of `X` only. -/
theorem notMem_sessions_perform {id : TunnelId} (ht : Within X t)
    (hnot : id ∉ (Lib.perform expand s t).1.sessions) : id ∉ s.sessions ∨ id ∈ X := by
  obtain ⟨-, -, -, hsessions⟩ := perform_effects s t
  rw [hsessions] at hnot
  split at hnot
  · next j =>
    by_cases hj : id = j
    · subst hj
      exact .inr (ht id (by simp [Act.ids]))
    · left
      intro hmem
      exact hnot (Finset.mem_erase.mpr ⟨hj, hmem⟩)
  · exact .inl hnot

theorem ConnectSafe.perform {client publisher : TunnelId} (h : ConnectSafe X R s client publisher)
    (ht : Within X t) (hcalm : Calm t) :
    ConnectSafe X R (Lib.perform expand s t).1 client publisher := by
  have hsub := sessions_perform_subset (s := s) (t := t)
  have hgone : ∀ {id : TunnelId}, (id ∉ (Lib.perform expand s t).1.sessions ∨ id ∈ X) →
      id ∉ s.sessions ∨ id ∈ X :=
    fun h => h.elim (notMem_sessions_perform ht) .inr
  have hlink : ∀ {id : TunnelId}, QuietLink X s id →
      QuietLink X (Lib.perform expand s t).1 id := by
    intro id hquiet
    apply hquiet.perform
    rintro k rfl
    exact hcalm
  refine ⟨fun hp hc => h.noClient (hsub hp) (hgone hc),
    fun hc hp => h.noPublisher (hsub hc) (hgone hp),
    fun hc hp => ?_⟩
  exact (h.both (hsub hc) (hsub hp)).imp_right (And.imp_right (And.imp hlink hlink))

end

/-! #### The two threads together -/

/-- What the second thread is doing: closing sessions of `R`, nothing that closes, or waiting
    for the `sessionGuard` in `connectTunnels`. -/
inductive Second (X R : Set TunnelId) (c : CallThreads) : Prop
  | closing (hclosed : PipeClosed R c.state) (hstack : ∀ t ∈ c.stack true, Bounded R t)
  | harmless (hstack : ∀ t ∈ c.stack true, Harmless X c.state (pending c) t)
      (hsources : ((c.stack true).filterMap source).Nodup)
  | entering {client publisher : TunnelId} (hclosed : PipeClosed R c.state)
      (hsafe : ConnectSafe X R c.state client publisher)
      (hstack : c.stack true = [.act (.connectTunnels client publisher)] ∨
        c.stack true =
          [.lock .sessionGuard, .act (.connectTunnelsGuarded client publisher)] ∨
        c.stack true = [.act (.connectTunnelsGuarded client publisher)])

/-- The first thread closes sessions of `X`, and the second one keeps away from them. -/
structure Separated (X R : Set TunnelId) (c : CallThreads) : Prop where
  exclusive : c.Exclusive
  held : ∀ i, ∀ m ∈ c.held i, m ∈ Locks (if i then R else X)
  closed : PipeClosed X c.state
  first : ∀ t ∈ c.stack false, Bounded X t ∧ Calm t
  second : Second X R c

section
variable {X R : Set TunnelId}

/-- The mutexes the threads take. -/
theorem Separated.footprint (hc : Separated X R c) :
    c.Footprint fun i => Locks (if i then R else X) := by
  refine ⟨hc.held, fun i m hm => ?_⟩
  cases i with
  | false => exact (hc.first _ hm).1.2 m rfl
  | true =>
    cases hc.second with
    | closing _ hstack => exact (hstack _ hm).2 m rfl
    | harmless hstack _ =>
      obtain rfl : m = .sessionGuard := hstack _ hm
      exact sessionGuard_mem_locks R
    | entering _ _ hstack =>
      rcases hstack with hstack | hstack | hstack <;> rw [hstack] at hm
      · simp at hm
      · obtain rfl : m = .sessionGuard := by simpa using hm
        exact sessionGuard_mem_locks R
      · simp at hm

/-- The second thread pipes no session of `X`. -/
theorem Second.pipeAssign_notMem (h : Second X R c) (hdisjoint : ∀ id ∈ X, id ∉ R)
    {t : Task Mutex Act} {ts : Program} (hstack : c.stack true = t :: ts) {id k : TunnelId}
    (ht : t = .act (.pipeAssign id k)) : id ∉ X := by
  subst ht
  have hmem : .act (.pipeAssign id k) ∈ c.stack true := by
    rw [hstack]
    exact List.mem_cons_self
  cases h with
  | closing _ h =>
    have hwithin : Within R (.act (.pipeAssign id k)) := (h _ hmem).1
    exact fun hX => hdisjoint id hX (hwithin id (by simp [Act.ids]))
  | harmless h _ =>
    have hharmless : id ∉ X ∧ c.state.pipeOf id = none := h _ hmem
    exact hharmless.1
  | entering _ _ h => rcases h with h | h | h <;> rw [h] at hstack <;> simp at hstack

/-- The second thread does not mind what the first one does. -/
theorem Second.first_step (h : Second X R c) {t : Task Mutex Act} {ts : Program}
    (hpops : c.Pops expand false t ts c') (ht : Within X t) (hcalm : Calm t) : Second X R c' := by
  have hstate := hpops.state'
  have hother := (hpops.others true (by decide)).1
  have hassign : ∀ id k, t ≠ .act (.pipeAssign id k) := by
    rintro id k rfl
    exact hcalm
  cases h with
  | closing hclosed hstack =>
    refine .closing ?_ (by rwa [hother])
    rw [hstate]
    exact hclosed.perform fun id k heq => absurd heq (hassign id k)
  | harmless hstack hsources =>
    refine .harmless (fun u hu => ?_) (by rwa [hother])
    rw [hother] at hu
    rw [hstate]
    refine (hstack u hu).perform (fun id howner => ?_) fun id k _ => hassign id k
    rw [← hstate]
    exact howner.step hpops
  | entering hclosed hsafe hstack =>
    refine .entering ?_ ?_ (by rwa [hother])
    · rw [hstate]
      exact hclosed.perform fun id k heq => absurd heq (hassign id k)
    · rw [hstate]
      exact hsafe.perform ht hcalm

/-- `connectTunnels` under the `sessionGuard` closes in `R` or nothing. -/
theorem Second.of_connectTunnelsGuarded {client publisher : TunnelId} {s : Service}
    (hclosed : PipeClosed R s) (hsafe : ConnectSafe X R s client publisher)
    (hstate : c.state = (s.connectTunnelsGuarded client publisher).1)
    (hstack : c.stack true = (s.connectTunnelsGuarded client publisher).2) : Second X R c := by
  have hout : Outcome s (.act (.connectTunnelsGuarded client publisher))
      (s.connectTunnelsGuarded client publisher) := outcome s _
  generalize s.connectTunnelsGuarded client publisher = result at hout hstate hstack
  cases hout with
  | clientGone hclient =>
    by_cases hpublisher : publisher ∈ s.sessions
    · have hp := hsafe.noClient hpublisher (.inl hclient)
      refine .closing (by rw [hstate]; exact hclosed) ?_
      rw [hstack]
      simp [Bounded, Within, Act.ids, hp]
    · refine .harmless (fun u hu => ?_) ?_
      · rw [hstack] at hu
        rw [hstate]
        rcases List.mem_pair.mp hu with rfl | rfl
        · exact .inl hpublisher
        · trivial
      · rw [hstack]
        exact List.nodup_nil
  | publisherGone hclient hpublisher =>
    have hc := hsafe.noPublisher hclient (.inl hpublisher)
    refine .closing (by rw [hstate]; exact hclosed) ?_
    rw [hstack]
    simp [Bounded, Within, Act.ids, hc]
  | link hclient hpublisher =>
    rcases hsafe.both hclient hpublisher with ⟨hc, hp⟩ | ⟨hne, hc, hp⟩
    · refine .closing (by rw [hstate]; exact hclosed.of_tunnel rfl) ?_
      rw [hstack]
      simp [Bounded, Within, Act.ids, hc, hp]
    · refine .harmless (fun u hu => ?_) ?_
      · rw [hstack] at hu
        rw [hstate]
        simp only [List.mem_cons, List.not_mem_nil, or_false] at hu
        rcases hu with rfl | rfl | rfl
        · exact hc
        · exact hp
        · trivial
      · rw [hstack]
        show [client, publisher].Nodup
        simp [hne]

/-- The second thread takes a step. -/
theorem Second.second_step (h : Second X R c) {t : Task Mutex Act} {ts : Program}
    (hpops : c.Pops expand true t ts c') : Second X R c' := by
  have hstate := hpops.state'
  have hstack' := hpops.stack'
  cases h with
  | closing hclosed hstack =>
    rw [hpops.stack] at hstack
    obtain ⟨ht, hts⟩ := List.forall_mem_cons.mp hstack
    refine .closing ?_ ?_
    · rw [hstate]
      exact (confined_perform hclosed ht.1).closed
    · rw [hstack']
      exact List.forall_mem_append.mpr ⟨fun u hu => ht.perform hclosed hu, hts⟩
  | harmless hstack hsources =>
    rw [hpops.stack] at hstack hsources
    obtain ⟨ht, hts⟩ := List.forall_mem_cons.mp hstack
    have howned : ∀ id, Owned id c.state (pending c) →
        Owned id (perform expand c.state t).1 (pending c') := by
      intro id howner
      rw [← hstate]
      exact howner.step hpops
    obtain ⟨hpushes, hsublist⟩ := ht.pushes howned
    refine .harmless ?_ ?_
    · rw [hstack', hstate]
      refine List.forall_mem_append.mpr ⟨hpushes, fun u hu => (hts u hu).perform howned ?_⟩
      -- a session that is piped now has no other pipe coming
      rintro id k hsource rfl
      have hmem : id ∈ ts.filterMap source := List.mem_filterMap.mpr ⟨u, hu, hsource⟩
      exact (List.nodup_cons.mp hsources).1 hmem
    · rw [hstack', List.filterMap_append]
      refine (hsublist.append (List.Sublist.refl _)).nodup ?_
      rw [List.filterMap_cons] at hsources
      cases hsource : source t with
      | none => simpa [hsource] using hsources
      | some id => simpa [hsource] using hsources
  | @entering client publisher hclosed hsafe hstack =>
    rw [hpops.stack] at hstack
    rcases hstack with hstack | hstack | hstack <;> obtain ⟨rfl, rfl⟩ := List.cons.inj hstack
    · exact .entering (by rw [hstate]; exact hclosed) (by rw [hstate]; exact hsafe)
        (.inr (.inl hstack'))
    · exact .entering (by rw [hstate]; exact hclosed) (by rw [hstate]; exact hsafe)
        (.inr (.inr hstack'))
    · rw [List.append_nil] at hstack'
      exact .of_connectTunnelsGuarded hclosed hsafe hstate hstack'

/-- **The threads stay separated.** -/
theorem Separated.step (hc : Separated X R c) (hdisjoint : ∀ id ∈ X, id ∉ R)
    (h : c.step expand i = some c') : Separated X R c' := by
  obtain ⟨t, ts, hpops⟩ := Threads.step_pops h
  have hfirst := hc.first
  refine ⟨hc.exclusive.step h, hc.footprint.held_step h, ?_, ?_, ?_⟩
  · rw [hpops.state']
    apply hc.closed.perform
    intro id k ht
    cases i with
    | false =>
      rw [hpops.stack] at hfirst
      have hcalm := (hfirst t List.mem_cons_self).2
      rw [ht] at hcalm
      exact hcalm.elim
    | true => exact hc.second.pipeAssign_notMem hdisjoint hpops.stack ht
  · cases i with
    | false =>
      rw [hpops.stack] at hfirst
      obtain ⟨⟨hbounded, hcalm⟩, hrest⟩ := List.forall_mem_cons.mp hfirst
      rw [hpops.stack']
      exact List.forall_mem_append.mpr
        ⟨fun u hu => ⟨hbounded.perform hc.closed hu, calm_pushed hcalm hu⟩, hrest⟩
    | true => rwa [(hpops.others false (by decide)).1]
  · cases i with
    | false =>
      rw [hpops.stack] at hfirst
      obtain ⟨hbounded, hcalm⟩ := hfirst t List.mem_cons_self
      exact hc.second.first_step hpops hbounded.1 hcalm
    | true => exact hc.second.second_step hpops

/-- Separated threads do not wait for each other. -/
theorem Separated.not_mutualWait (hc : Separated X R c) (hdisjoint : ∀ id ∈ X, id ∉ R) :
    ¬c.MutualWait false true :=
  hc.footprint.not_mutualWait hc.exclusive (locks_inter_subsingleton hdisjoint)

theorem isOwned_iff {s : Service} {id : TunnelId} :
    s.isOwned id = true ↔ ∃ t, s.tunnel id = some t ∧ 0 < t.owners := by
  unfold isOwned
  cases s.tunnel id <;> simp

/-- When two calls start, an owned session is owned. -/
theorem owned_twoCalls {s : Service} {id : TunnelId} (h : s.isOwned id = true)
    (first second : Call) : Owned id s (pending (s.twoCalls first second)) := by
  obtain ⟨t, ht, howners⟩ := isOwned_iff.mp h
  refine ⟨⟨t, ht, ?_⟩, ?_, ?_⟩
  · cases first <;> cases second <;> simpa [pending, twoCalls, Call.act] using howners
  · cases first <;> cases second <;> simp [pending, twoCalls, Call.act]
  · cases first <;> cases second <;> simp [pending, twoCalls, Call.act]

/-- A side of the tunnel has a pipe operation, so it links quietly only by a write. -/
theorem quietLink_of_linksQuietly {s : Service} {id : TunnelId} (h : s.linksQuietly id = true)
    (hX : id ∈ X → ∃ k, s.pipeOf id = some k) : QuietLink X s id := by
  intro t ht
  by_cases hempty : t.peekBuffer = []
  · right
    have hnone : t.pipeOperation = none := by
      unfold linksQuietly at h
      simpa [ht, hempty] using h
    refine ⟨fun hid => ?_, hnone⟩
    obtain ⟨k, hk⟩ := hX hid
    rw [pipeOf, ht] at hk
    rw [show t.pipeOperation = some k from hk] at hnone
    cases hnone
  · exact .inl hempty

/-- A call that stays apart from the tunnel is separated from the one that closes it. -/
theorem separated_twoCalls {s : Service} {side : TunnelId} {call : Call}
    (hx : s.pipeOf x = some y) (hy : s.pipeOf y = some x) (hside : side = x ∨ side = y) :
    Separated {x, y} (s.reach (s.mayClose x y call)) (s.twoCalls (.close side) call) := by
  have hmem : ∀ {id : TunnelId}, id ∈ s.mayClose x y call →
      id ∈ s.reach (s.mayClose x y call) := fun h => ⟨_, h, .inl rfl⟩
  have hpiped : ∀ {id : TunnelId}, id ∈ ({x, y} : Set TunnelId) → ∃ k, s.pipeOf id = some k := by
    rintro id (rfl | rfl)
    · exact ⟨_, hx⟩
    · exact ⟨_, hy⟩
  have hreach := pipeClosed_reach s (s.mayClose x y call)
  refine ⟨?_, ?_, ?_, ?_, ?_⟩
  · intro i j m hm
    exact absurd hm List.not_mem_nil
  · intro i m hm
    exact absurd hm List.not_mem_nil
  · exact pipeClosed_pair hx hy
  · intro t ht
    obtain rfl := List.mem_singleton.mp ht
    exact ⟨bounded_act rfl hside, trivial⟩
  · cases call with
    | close id =>
      refine .closing hreach fun t ht => ?_
      obtain rfl := List.mem_singleton.mp ht
      exact bounded_act rfl (hmem (by simp [mayClose]))
    | closeTunnelSide id pre =>
      by_cases hcloses : id ∈ s.sessions ∧ (pre = false ∨ s.isOwned id = false)
      · refine .closing hreach fun t ht => ?_
        obtain rfl := List.mem_singleton.mp ht
        exact bounded_act rfl (hmem (by simp [mayClose, hcloses]))
      · refine .harmless (fun t ht => ?_) List.nodup_nil
        obtain rfl := List.mem_singleton.mp ht
        show id ∉ s.sessions ∨ (pre = true ∧ Owned id s _)
        rw [not_and_or, not_or, Bool.not_eq_false, Bool.not_eq_false] at hcloses
        exact hcloses.imp_right (And.imp_right fun h => owned_twoCalls h _ _)
    | connectTunnels client publisher =>
      refine .entering hreach ⟨fun hp hc => ?_, fun hc hp => ?_, fun hc hp => ?_⟩ (.inl rfl)
      · apply hmem
        have hcloses : publisher ∈ s.sessions ∧ (client ∉ s.sessions ∨ client = x ∨ client = y) :=
          ⟨hp, hc⟩
        simp [mayClose, hcloses]
      · apply hmem
        have hcloses : client ∈ s.sessions ∧
            (publisher ∉ s.sessions ∨ publisher = x ∨ publisher = y) := ⟨hc, hp⟩
        simp [mayClose, hcloses]
      · by_cases hquiet : client ≠ publisher ∧ s.linksQuietly client ∧ s.linksQuietly publisher
        · right
          exact ⟨hquiet.1, quietLink_of_linksQuietly hquiet.2.1 hpiped,
            quietLink_of_linksQuietly hquiet.2.2 hpiped⟩
        · left
          have hboth : ∀ id ∈ [client, publisher],
              id ∈ s.mayClose x y (.connectTunnels client publisher) := by
            intro id hid
            simp only [mayClose, List.mem_append]
            right
            rwa [if_pos ⟨hc, hp, hquiet⟩]
          exact ⟨hmem (hboth client (by simp)), hmem (hboth publisher (by simp))⟩

end

/-- **Closing a tunnel and a call that stays apart never deadlock.**  While a thread closes a
    side of a tunnel, another one calls into the same service: it closes the same side, which a
    handler owns, or it makes a call that can close no session from which a pipe leads to the
    tunnel.  Then in no interleaving does each of them wait for a mutex the other one holds. -/
theorem close_never_deadlocks {s : Service} {side : TunnelId} {call : Call}
    (hx : s.pipeOf x = some y) (hy : s.pipeOf y = some x) (hside : side = x ∨ side = y)
    (hcall : (call = .close side ∧ s.isOwned side = true) ∨
      s.Apart x y (s.mayClose x y call))
    {schedule : List Bool}
    (hrun : run (Threads.step expand) (s.twoCalls (.close side) call) schedule = some c) :
    ¬c.MutualWait false true := by
  rcases hcall with ⟨rfl, howned⟩ | hapart
  · have hstart : BothClosing side (s.twoCalls (.close side) (.close side)) := by
      refine ⟨?_, fun i => ?_, fun i => ?_, owned_twoCalls howned _ _⟩
      · intro i j m hm
        exact absurd hm List.not_mem_nil
      · have hnothing : (∀ m, owed Act.guard m [.act (.close side)] = 0) ∧
            Releasing Act.guard [.act (.close side)] := owes_nothing (by simp [Act.guard])
        cases i <;> exact ⟨hnothing.2, fun m => (hnothing.1 m).symm⟩
      · cases i <;> exact .called
    have hreached := run_preserves (I := BothClosing side) (fun _ _ _ hc h => hc.step h) hstart hrun
    exact hreached.not_mutualWait
  · have hdisjoint : ∀ id ∈ ({x, y} : Set TunnelId), id ∉ s.reach (s.mayClose x y call) := by
      rintro j (rfl | rfl)
      · exact hapart.1
      · exact hapart.2
    have hreached := run_preserves
      (I := Separated {x, y} (s.reach (s.mayClose x y call)))
      (fun _ _ _ hc h => hc.step hdisjoint h) (separated_twoCalls hx hy hside) hrun
    exact hreached.not_mutualWait hdisjoint

/-- Sessions without a pipe operation reach nothing else. -/
theorem apart_of_pipeOf_none {s : Service} {ids : List TunnelId}
    (h : ∀ id ∈ ids, s.pipeOf id = none ∧ id ≠ x ∧ id ≠ y) : s.Apart x y ids := by
  have hends : ∀ id ∈ ids, ∀ j, ¬PipedFrom s id j := by
    intro id hid j hpiped
    induction hpiped with
    | direct hj =>
      rw [(h id hid).1] at hj
      cases hj
    | further _ _ ih => exact ih
  constructor
  · rintro ⟨id, hid, rfl | hpiped⟩
    · exact (h x hid).2.1 rfl
    · exact hends id hid x hpiped
  · rintro ⟨id, hid, rfl | hpiped⟩
    · exact (h y hid).2.2 rfl
    · exact hends id hid y hpiped

/-- A linked tunnel and a new publisher side. -/
def linkedTunnel : Service where
  tunnels :=
    [("x", { peekBuffer := asciiString "hi", pipeOperation := some "y", owners := 1 }),
      ("y", { peekBuffer := [], isPublisherSide := true, pipeOperation := some "x", owners := 1 }),
      ("q", { peekBuffer := [], isPublisherSide := true, owners := 1 })]
  sessions := {"x", "y", "q"}

/-- While one side is being closed, a publisher side may name the client once more. -/
theorem close_never_deadlocks_naming :
    ∃ c, run (Threads.step expand)
        (linkedTunnel.twoCalls (.close "x") (.connectTunnels "x" "q"))
        (List.replicate 4 true ++ List.replicate 10 false) = some c ∧
      ¬c.MutualWait false true := by
  have hsome : (run (Threads.step expand)
      (linkedTunnel.twoCalls (.close "x") (.connectTunnels "x" "q"))
      (List.replicate 4 true ++ List.replicate 10 false)).isSome = true := by decide +kernel
  obtain ⟨c, hrun⟩ := Option.isSome_iff_exists.mp hsome
  have hmayClose : linkedTunnel.mayClose "x" "y" (.connectTunnels "x" "q") = ["q"] := by
    decide +kernel
  refine ⟨c, hrun, close_never_deadlocks (x := "x") (y := "y") (by decide +kernel)
    (by decide +kernel) (.inl rfl) (.inr ?_) hrun⟩
  rw [hmayClose]
  exact apart_of_pipeOf_none (by decide +kernel)

/-- Two threads that close the two sides of a tunnel: each has its own `closeLock` and waits for
    the other one. -/
theorem close_deadlocks :
    linkedTunnel.pipeOf "x" = some "y" ∧ linkedTunnel.pipeOf "y" = some "x" ∧
      ∃ c, run (Threads.step expand) (linkedTunnel.twoCalls (.close "x") (.close "y"))
          (List.replicate 9 false ++ List.replicate 9 true) = some c ∧
        c.MutualWait false true := by
  refine ⟨by decide +kernel, by decide +kernel, ?_⟩
  have hwaits : (run (Threads.step expand) (linkedTunnel.twoCalls (.close "x") (.close "y"))
      (List.replicate 9 false ++ List.replicate 9 true)).map
        (fun c => (wanted (c.stack false), c.held false, wanted (c.stack true), c.held true)) =
      some (some (.closeLock "y"), [.closeLock "x"], some (.closeLock "x"), [.closeLock "y"]) := by
    decide +kernel
  obtain ⟨c, hrun, hobserved⟩ := Option.map_eq_some_iff.mp hwaits
  simp only [Prod.mk.injEq] at hobserved
  obtain ⟨hwanted, hheld, hwanted', hheld'⟩ := hobserved
  refine ⟨c, hrun, ⟨by decide, _, hwanted, ?_⟩, by decide, _, hwanted', ?_⟩
  · rw [hheld']
    exact List.mem_singleton_self _
  · rw [hheld]
    exact List.mem_singleton_self _

end Service

end TunnelBore.Broker
