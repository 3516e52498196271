import TunnelBore.Broker.Peek
import TunnelBore.Broker.SessionTable
import TunnelBore.Lib.Run

namespace TunnelBore.Broker

open TunnelBore.Lib

/-!
# Runs of a service

A run of one `Service` is a sequence of completions: a connection is accepted, the first read
of a connection completes, the initial write of a link completes, a session is closed by
some handler.  Each runs its handler to the end (`Service.execute`, which always returns).

`ServiceRun` adds to the service which ids were given out and which first reads are
outstanding.  The second half of the file says what one task can do to a session, to the
record and to the writes in flight; invariants of runs are derived from these inversions.
-/

namespace Service

variable (s : Service)

/-- The accept handler: a new session enters the map and starts to `peek`. -/
def accept (id : TunnelId) : Service :=
  { s with tunnels := (id, {}) :: s.tunnels, sessions := insert id s.sessions }

/-- The session of a first read after its handler has looked at the chunk; the handler owns the
    session while it runs. -/
def peekedState (id : TunnelId) (control : Option ControlView) (ec : Bool) (chunk : Bytes) :
    Service :=
  s.modify id fun t => { (t.peekHandler control ec chunk).1 with owners := t.owners + 1 }

/-- The completion handler of the first read. -/
def peeked (id : TunnelId) (control : Option ControlView) (ec : Bool) (chunk : Bytes) :
    Service × Program :=
  match s.tunnel id with
  | none   => (s, [])
  | some t =>
    if s.alive id then
      let s' := s.peekedState id control ec chunk
      match (t.peekHandler control ec chunk).2 with
      | .close                 => (s', [.act (.close id), .act (.release id)])
      | .connectTunnels client => (s', [.act (.connectTunnels client id), .act (.release id)])
      | .informAboutConnection => (s'.record (.inform id), [.act (.release id)])
    else
      (s, [])

/-- The completion handler of an initial write, which owns both sessions. -/
def wrote (source target : TunnelId) (ec : Bool) : Service × Program :=
  ({ s with initialWrites := s.initialWrites.erase (source, target) },
    (if ec then [.act (.close source), .act (.close target)]
      else [.act (.pipeAssign source target)]) ++
    [.act (.release target), .act (.release source)])

end Service

/-- A service, the ids it has given out, and the sessions whose first read is outstanding. -/
structure ServiceRun where
  service : Service := {}
  accepted : Finset TunnelId := ∅
  peeking : Finset TunnelId := ∅

/-- The completions a service reacts to. -/
inductive Event
  /-- A connection is accepted and gets a new id. -/
  | accept (id : TunnelId)
  /-- The first read of a session completes. -/
  | peeked (id : TunnelId) (control : Option ControlView) (ec : Bool) (chunk : Bytes)
  /-- An initial write completes. -/
  | wrote (source target : TunnelId) (ec : Bool)
  /-- A handler that owns the session closes it: a pipe, a timer, a failed read. -/
  | close (id : TunnelId)

namespace ServiceRun

variable (r : ServiceRun)

/-- Run a handler to its end. -/
def handle (handler : Service × Program) (peeking : Finset TunnelId) : Option ServiceRun :=
  (handler.1.execute handler.2).map fun s => { r with service := s, peeking := peeking }

/-- One completion; `none` when it cannot occur. -/
def step : Event → Option ServiceRun
  | .accept id =>
    if id ∈ r.accepted then none
    else some
      { service := r.service.accept id
        accepted := insert id r.accepted
        peeking := insert id r.peeking }
  | .peeked id control ec chunk =>
    if id ∈ r.peeking ∧ chunk.length ≤ 4096 then
      r.handle (r.service.peeked id control ec chunk) (r.peeking.erase id)
    else none
  | .wrote source target ec =>
    if (source, target) ∈ r.service.initialWrites then
      r.handle (r.service.wrote source target ec) r.peeking
    else none
  | .close id =>
    if r.service.alive id then
      r.handle (r.service.acquire id, [.act (.close id), .act (.release id)]) r.peeking
    else none

/-- The client that a completion asks to link, and the publisher side that asks: the handler
    of a first read that ends in `connectTunnels`. -/
def names : Event → Option (TunnelId × TunnelId)
  | .peeked id control ec chunk =>
    if id ∈ r.peeking ∧ chunk.length ≤ 4096 ∧ r.service.alive id then
      (r.service.tunnel id).bind fun t =>
        match (t.peekHandler control ec chunk).2 with
        | .connectTunnels client => some (client, id)
        | _                      => none
    else none
  | _ => none

variable {r}

/-- A completed handler leaves what its stack leaves. -/
theorem handle_eq_some {handler : Service × Program} {peeking : Finset TunnelId}
    {r' : ServiceRun} :
    r.handle handler peeking = some r' ↔
      ∃ s, Executes Service.expand handler.1 handler.2 s ∧
        r' = { r with service := s, peeking := peeking } := by
  unfold handle
  rw [Option.map_eq_some_iff]
  simp only [Service.execute_eq_some]
  exact exists_congr fun s => and_congr_right fun _ => eq_comm

/-- What naming a client takes. -/
theorem names_eq_some {e : Event} {client publisher : TunnelId} :
    r.names e = some (client, publisher) ↔
      ∃ control ec chunk t, e = .peeked publisher control ec chunk ∧
        publisher ∈ r.peeking ∧ chunk.length ≤ 4096 ∧ r.service.alive publisher = true ∧
        r.service.tunnel publisher = some t ∧
        (t.peekHandler control ec chunk).2 = .connectTunnels client := by
  cases e with
  | peeked id control ec chunk =>
    simp only [names, Event.peeked.injEq]
    constructor
    · intro h
      split at h
      · next hcond =>
        obtain ⟨t, ht, haction⟩ := Option.bind_eq_some_iff.mp h
        split at haction
        · next c hc =>
          obtain ⟨rfl, rfl⟩ := Prod.mk.inj (Option.some.inj haction)
          exact ⟨control, ec, chunk, t, ⟨rfl, rfl, rfl, rfl⟩, hcond.1, hcond.2.1, hcond.2.2, ht,
            hc⟩
        · simp at haction
      · simp at h
    · rintro ⟨_, _, _, t, ⟨rfl, rfl, rfl, rfl⟩, hpeeking, hlength, halive, ht, haction⟩
      rw [if_pos ⟨hpeeking, hlength, halive⟩, ht]
      simp [haction]
  | accept id => simp [names]
  | wrote source target ec => simp [names]
  | close id => simp [names]

end ServiceRun

/-! ### What one task can do -/

/-- A link or an initial write. -/
def Effect.isTransfer : Effect → Bool
  | .link ..         => true
  | .initialWrite .. => true
  | _                => false

/-- The sides of an initial write. -/
def Effect.inFlight : Effect → Option (TunnelId × TunnelId)
  | .initialWrite source target _ => some (source, target)
  | _                             => none

namespace Service

variable {s s' : Service}

theorem tunnel_modify_cases {id j : TunnelId} {f : TunnelSession → TunnelSession}
    {after : TunnelSession} (h : (s.modify id f).tunnel j = some after) :
    ∃ before, s.tunnel j = some before ∧ (after = before ∨ (j = id ∧ after = f before)) := by
  rw [tunnel_modify] at h
  split at h
  · next hj =>
    subst hj
    obtain ⟨before, hbefore, rfl⟩ := Option.map_eq_some_iff.mp h
    exact ⟨before, hbefore, .inr ⟨rfl, rfl⟩⟩
  · exact ⟨after, h, .inl rfl⟩

/-- What one task leaves of a session: its peek buffer and role stay, and it has a pipe
    operation that it did not have only after a `pipeAssign`. -/
structure Evolves (t : Task Mutex Act) (j : TunnelId) (before after : TunnelSession) : Prop where
  peekBuffer : after.peekBuffer = before.peekBuffer
  isPublisherSide : after.isPublisherSide = before.isPublisherSide
  pipe : ∀ k, after.pipeOperation = some k →
    before.pipeOperation = some k ∨ t = .act (.pipeAssign j k)

theorem Evolves.refl (t : Task Mutex Act) (j : TunnelId) (before : TunnelSession) :
    Evolves t j before before := ⟨rfl, rfl, fun _ => .inl⟩

/-- A change that keeps the peek buffer, the role and the pipe operation. -/
theorem evolves_modify {t : Task Mutex Act} {id j : TunnelId} {f : TunnelSession → TunnelSession}
    {after : TunnelSession} (h : (s.modify id f).tunnel j = some after)
    (hf : ∀ before, Evolves t id before (f before)) :
    ∃ before, s.tunnel j = some before ∧ Evolves t j before after := by
  obtain ⟨before, hbefore, rfl | ⟨rfl, rfl⟩⟩ := tunnel_modify_cases h
  · exact ⟨after, hbefore, Evolves.refl t j after⟩
  · exact ⟨before, hbefore, hf before⟩

theorem evolves_foldl_acquire {t : Task Mutex Act} (l : List TunnelId) {j : TunnelId}
    {after : TunnelSession} (h : (l.foldl acquire s).tunnel j = some after) :
    ∃ before, s.tunnel j = some before ∧ Evolves t j before after := by
  induction l generalizing s with
  | nil => exact ⟨after, h, Evolves.refl t j after⟩
  | cons id l ih =>
    obtain ⟨mid, hmid, hevolves⟩ := ih h
    obtain ⟨before, hbefore, rfl | ⟨rfl, rfl⟩⟩ := tunnel_modify_cases hmid
    · exact ⟨mid, hbefore, hevolves⟩
    · exact ⟨before, hbefore, hevolves.peekBuffer, hevolves.isPublisherSide, hevolves.pipe⟩

/-- **One task and a session.** -/
theorem perform_tunnel {t : Task Mutex Act} {j : TunnelId} {after : TunnelSession}
    (h : (perform expand s t).1.tunnel j = some after) :
    ∃ before, s.tunnel j = some before ∧ Evolves t j before after := by
  have hout := outcome s t
  generalize perform expand s t = result at hout h
  cases hout with
  | closes => exact evolves_modify h fun _ => ⟨rfl, rfl, fun _ => .inl⟩
  | pipeClose => exact evolves_foldl_acquire _ h
  | pipeReset => exact evolves_modify h fun _ => ⟨rfl, rfl, fun _ hk => absurd hk (by simp)⟩
  | pipeAssign =>
    refine evolves_modify h fun _ => ⟨rfl, rfl, fun k hk => .inr ?_⟩
    rw [Option.some.inj hk]
  | release _ _ hs' =>
    subst hs'
    exact evolves_modify h fun _ => ⟨rfl, rfl, fun _ => .inl⟩
  | @free id =>
    have htunnel : (s.free id).1.tunnel j = some after := h
    rw [tunnel_free] at htunnel
    split at htunnel
    · cases htunnel
    · exact ⟨after, htunnel, Evolves.refl _ j after⟩
  | erase _ hs' =>
    subst hs'
    exact ⟨after, h, Evolves.refl _ j after⟩
  | @linkWrite id other => exact evolves_foldl_acquire [id, other] h
  | _ => exact ⟨after, h, Evolves.refl _ j after⟩

/-- The links and the initial writes of a run so far. -/
def transfers (s : Service) : List Effect := s.effects.filter Effect.isTransfer

/-- The links and initial writes of one task. -/
def newTransfers (s : Service) : Task Mutex Act → List Effect
  | .act (.connectTunnelsGuarded client publisher) =>
    if client ∈ s.sessions ∧ publisher ∈ s.sessions then [.link client publisher] else []
  | .act (.linkHalf id other) =>
    match s.tunnel id with
    | none   => []
    | some t =>
      if t.peekBuffer ≠ [] ∧ s.alive id ∧ s.alive other then
        [.initialWrite id other t.peekBuffer]
      else []
  | _ => []

/-- **One task and the transfers.**  Only `connectTunnels` links and only `link` writes; a
    write is in flight from then on. -/
theorem perform_transfers (s : Service) (t : Task Mutex Act) :
    (perform expand s t).1.transfers = s.transfers ++ newTransfers s t ∧
      (perform expand s t).1.initialWrites =
        s.initialWrites ++ (newTransfers s t).filterMap Effect.inFlight := by
  have hquiet : ∀ {u : Service}, u.effects = s.effects → u.initialWrites = s.initialWrites →
      u.transfers = s.transfers ++ [] ∧ u.initialWrites = s.initialWrites ++ [] :=
    fun he hw => ⟨by rw [transfers, transfers, he, List.append_nil], by rw [hw, List.append_nil]⟩
  have hfold : ∀ (l : List TunnelId) (u : Service),
      (l.foldl acquire u).initialWrites = u.initialWrites := by
    intro l
    induction l with
    | nil => exact fun _ => rfl
    | cons _ l ih => exact fun u => ih _
  have hout := outcome s t
  generalize perform expand s t = result at hout ⊢
  cases hout with
  | pipeClose => exact hquiet (foldl_acquire_effects _) (hfold _ _)
  | release _ _ hs' => exact hquiet (by rw [hs']; rfl) (by rw [hs']; rfl)
  | erase _ hs' =>
    subst hs'
    simp [newTransfers, transfers, Effect.isTransfer, record]
  | eraseInvalid => simp [newTransfers, transfers, Effect.isTransfer, record]
  | clientGone hclient => simp [newTransfers, hclient]
  | publisherGone _ hpublisher => simp [newTransfers, hpublisher]
  | link hclient hpublisher =>
    simp [newTransfers, hclient, hpublisher, transfers, Effect.isTransfer, Effect.inFlight, record]
  | linkMissing ht => simp [newTransfers, ht, transfers, Effect.isTransfer, record]
  | linkPipe ht hempty => simp [newTransfers, ht, hempty]
  | linkWrite ht hbytes hid hother =>
    simp [newTransfers, ht, hbytes, hid, hother, transfers, startInitialWrite, Effect.isTransfer,
      Effect.inFlight]
  | linkDead ht hdead =>
    simp [newTransfers, ht, hdead, transfers, Effect.isTransfer, record]
  | _ => exact hquiet rfl rfl

/-- A task that neither connects nor starts a pipe. -/
def Calm : Task Mutex Act → Prop
  | .act (.pipeAssign ..)            => False
  | .act (.connectTunnels ..)        => False
  | .act (.connectTunnelsGuarded ..) => False
  | .act (.linkHalf ..)              => False
  | _                                => True

theorem calm_destroyIfUnowned {id : TunnelId} : ∀ t ∈ s.destroyIfUnowned id, Calm t := by
  unfold destroyIfUnowned
  split <;> simp [Calm]

theorem DropsPipe.calm {id : TunnelId} {p : Program} (hp : s.DropsPipe id p) :
    ∀ t ∈ p, Calm t := by
  rcases hp with ⟨-, rfl⟩ | ⟨other, -, rfl⟩ <;> simp [Calm]

/-- **What a task pushes.**  All but the steps of `connectTunnels` push calm tasks only. -/
theorem pushed_perform {t t' : Task Mutex Act} (h : t' ∈ (perform expand s t).2) :
    Calm t' ∨
      (∃ id other, t = .act (.linkHalf id other) ∧ t' = .act (.pipeAssign id other)) ∨
      (∃ client publisher, t = .act (.connectTunnels client publisher) ∧
        t' = .act (.connectTunnelsGuarded client publisher)) ∨
      ∃ client publisher, t = .act (.connectTunnelsGuarded client publisher) ∧
        client ∈ s.sessions ∧ publisher ∈ s.sessions ∧
        (t' = .act (.linkHalf client publisher) ∨ t' = .act (.linkHalf publisher client)) := by
  have hcalm : ∀ {p : Program}, (∀ u ∈ p, Calm u) → t' ∈ p → Calm t' := fun hp h => hp _ h
  have hout := outcome s t
  generalize perform expand s t = result at hout h
  cases hout with
  | closes _ _ hpipe =>
    rcases hpipe with rfl | ⟨other, -, rfl⟩ <;> exact .inl (hcalm (by simp [Calm]) h)
  | pipeClose =>
    rcases List.mem_append.mp h with h | h <;>
    · obtain ⟨j, -, rfl⟩ := List.mem_map.mp h
      exact .inl trivial
  | pipeAssign hp => exact .inl (hp.calm _ h)
  | free hp => exact .inl (hp.calm _ h)
  | release => exact .inl (calm_destroyIfUnowned _ h)
  | erase => exact .inl (calm_destroyIfUnowned _ h)
  | @sideFound _ pre => exact .inl (hcalm (by cases pre <;> simp [Calm]) h)
  | connectTunnels client publisher =>
    rcases List.mem_pair.mp h with rfl | rfl
    · exact .inl trivial
    · exact .inr (.inr (.inl ⟨client, publisher, rfl, rfl⟩))
  | @link client publisher hclient hpublisher =>
    simp only [List.mem_cons, List.not_mem_nil, or_false] at h
    rcases h with rfl | rfl | rfl
    · exact .inr (.inr (.inr ⟨client, publisher, rfl, hclient, hpublisher, .inl rfl⟩))
    · exact .inr (.inr (.inr ⟨client, publisher, rfl, hclient, hpublisher, .inr rfl⟩))
    · exact .inl trivial
  | @linkPipe id other => exact .inr (.inl ⟨id, other, rfl, List.mem_singleton.mp h⟩)
  | _ => exact .inl (hcalm (by simp [Calm]) h)

/-- A calm task pushes calm tasks only. -/
theorem calm_pushed {t t' : Task Mutex Act} (ht : Calm t) (h : t' ∈ (perform expand s t).2) :
    Calm t' := by
  rcases pushed_perform h with hcalm | ⟨_, _, rfl, -⟩ | ⟨_, _, rfl, -⟩ | ⟨_, _, rfl, -⟩
  · exact hcalm
  · -- the steps of `connectTunnels` are not calm
    exact ht.elim
  · exact ht.elim
  · exact ht.elim

end Service

end TunnelBore.Broker
