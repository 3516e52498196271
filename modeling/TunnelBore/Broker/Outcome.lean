import TunnelBore.Broker.TunnelSession

namespace TunnelBore.Broker

open TunnelBore.Lib

/-!
# What one task does

`Outcome s t result` lists the branches of the functions: which task, in which state, leaves
which state and pushes what.  `outcome` says that `perform` takes one of them; it is the only
place that unfolds the functions.  What the tasks keep, what they push and what they record is
proved in the later files by cases on the outcome.
-/

namespace Service

/-- The stack `p` destroys the pipe operation that `id` has, if it has one. -/
def DropsPipe (s : Service) (id : TunnelId) (p : Program) : Prop :=
  ((s.tunnel id).bind TunnelSession.pipeOperation = none ∧ p = []) ∨
    ∃ other, (s.tunnel id).bind TunnelSession.pipeOperation = some other ∧
      p = [.act (.pipeClose id other)]

/-- The branches. -/
inductive Outcome (s : Service) : Task Mutex Act → Service × Program → Prop
  | lock (m : Mutex) : Outcome s (.lock m) (s, [])
  | unlock (m : Mutex) : Outcome s (.unlock m) (s, [])
  | close (id : TunnelId) :
      Outcome s (.act (.close id)) (s, [.lock (.closeLock id), .act (.closeGuarded id)])
  | wasClosed {id : TunnelId} (hclosed : ∀ t, s.tunnel id = some t → t.wasClosed = true) :
      Outcome s (.act (.closeGuarded id)) (s, [.unlock (.closeLock id)])
  | closes {id : TunnelId} {t : TunnelSession} (ht : s.tunnel id = some t)
      (hopen : t.wasClosed = false) {pipe : Program}
      (hpipe : pipe = [] ∨ ∃ other, t.pipeOperation = some other ∧
        pipe = [.act (.pipeClose id other), .act (.pipeReset id)]) :
      Outcome s (.act (.closeGuarded id))
        (s.modify id fun t => { t with wasClosed := true },
          pipe ++ [.unlock (.closeLock id), .act (.closeTunnelSide id true)])
  | pipeClose {original other : TunnelId} {ends : List TunnelId}
      (hends : ends.Sublist [original, other]) (halive : ∀ j ∈ ends, s.alive j = true) :
      Outcome s (.act (.pipeClose original other))
        (ends.foldl acquire s, ends.map (fun id => .act (.close id)) ++
          ends.reverse.map fun id => .act (.release id))
  | noPipe {id : TunnelId} : Outcome s (.act (.pipeReset id)) (s, [])
  | pipeReset {id other : TunnelId}
      (hpipe : (s.tunnel id).bind TunnelSession.pipeOperation = some other) :
      Outcome s (.act (.pipeReset id))
        (s.modify id fun t => { t with pipeOperation := none }, [.act (.pipeClose id other)])
  | pipeAssign {id other : TunnelId} {p : Program} (hp : s.DropsPipe id p) :
      Outcome s (.act (.pipeAssign id other))
        (s.modify id fun t => { t with pipeOperation := some other }, p)
  | notOwned {id : TunnelId} : Outcome s (.act (.release id)) (s, [])
  | release {id : TunnelId} {t : TunnelSession} (ht : s.tunnel id = some t)
      (howned : 0 < t.owners) {s' : Service}
      (hs' : s' = s.modify id fun t => { t with owners := t.owners - 1 }) :
      Outcome s (.act (.release id)) (s', s'.destroyIfUnowned id)
  | destroy (id : TunnelId) :
      Outcome s (.act (.destroy id)) (s, [.act (.close id), .act (.free id)])
  | free {id : TunnelId} {p : Program} (hp : s.DropsPipe id p) :
      Outcome s (.act (.free id))
        ({ s with tunnels := s.tunnels.filter fun entry => entry.1 ≠ id }, p)
  | closeTunnelSide (id : TunnelId) (pre : Bool) :
      Outcome s (.act (.closeTunnelSide id pre))
        (s, [.lock .sessionGuard, .act (.closeTunnelSideGuarded id pre)])
  | sideGone {id : TunnelId} {pre : Bool} (hgone : id ∉ s.sessions) :
      Outcome s (.act (.closeTunnelSideGuarded id pre)) (s, [.unlock .sessionGuard])
  | sideFound {id : TunnelId} {pre : Bool} (hmem : id ∈ s.sessions) :
      Outcome s (.act (.closeTunnelSideGuarded id pre))
        (s, (if pre then [] else [.act (.close id)]) ++ [.act (.erase id), .unlock .sessionGuard])
  | erase {id : TunnelId} (hmem : id ∈ s.sessions) {s' : Service}
      (hs' : s' = { s with sessions := s.sessions.erase id }.record (.erase id true)) :
      Outcome s (.act (.erase id)) (s', s'.destroyIfUnowned id)
  | eraseInvalid {id : TunnelId} (hgone : id ∉ s.sessions) :
      Outcome s (.act (.erase id)) (s.record (.erase id false), [])
  | connectTunnels (client publisher : TunnelId) :
      Outcome s (.act (.connectTunnels client publisher))
        (s, [.lock .sessionGuard, .act (.connectTunnelsGuarded client publisher)])
  | clientGone {client publisher : TunnelId} (hclient : client ∉ s.sessions) :
      Outcome s (.act (.connectTunnelsGuarded client publisher))
        (s, [.act (.closeTunnelSide publisher false), .unlock .sessionGuard])
  | publisherGone {client publisher : TunnelId} (hclient : client ∈ s.sessions)
      (hpublisher : publisher ∉ s.sessions) :
      Outcome s (.act (.connectTunnelsGuarded client publisher))
        (s, [.act (.closeTunnelSide client false), .unlock .sessionGuard])
  | link {client publisher : TunnelId} (hclient : client ∈ s.sessions)
      (hpublisher : publisher ∈ s.sessions) :
      Outcome s (.act (.connectTunnelsGuarded client publisher))
        (s.record (.link client publisher),
          [.act (.linkHalf client publisher), .act (.linkHalf publisher client),
            .unlock .sessionGuard])
  | linkMissing {id other : TunnelId} (ht : s.tunnel id = none) :
      Outcome s (.act (.linkHalf id other)) (s.record (.dangling id), [])
  | linkPipe {id other : TunnelId} {t : TunnelSession} (ht : s.tunnel id = some t)
      (hempty : t.peekBuffer = []) (hother : (s.tunnel other).isSome) :
      Outcome s (.act (.linkHalf id other)) (s, [.act (.pipeAssign id other)])
  | linkWrite {id other : TunnelId} {t : TunnelSession} (ht : s.tunnel id = some t)
      (hbytes : t.peekBuffer ≠ []) (hid : s.alive id = true) (hother : s.alive other = true) :
      Outcome s (.act (.linkHalf id other)) (s.startInitialWrite id other t.peekBuffer, [])
  | linkDead {id other : TunnelId} {t : TunnelSession} (ht : s.tunnel id = some t)
      (hdead : ¬(s.alive id = true ∧ s.alive other = true)) :
      Outcome s (.act (.linkHalf id other)) (s.record (.dangling other), [])

variable {s : Service}

/-- The match on the pipe operation in `pipeAssign` and in the destructor. -/
theorem dropsPipe_match (s : Service) (id : TunnelId) :
    s.DropsPipe id (match (s.tunnel id).bind TunnelSession.pipeOperation with
      | none       => []
      | some other => [.act (.pipeClose id other)]) := by
  cases hpipe : (s.tunnel id).bind TunnelSession.pipeOperation with
  | none => exact .inl ⟨hpipe, rfl⟩
  | some other => exact .inr ⟨other, hpipe, rfl⟩

theorem outcome_closeGuarded (s : Service) (id : TunnelId) :
    Outcome s (.act (.closeGuarded id)) (s.closeGuarded id) := by
  unfold closeGuarded
  split
  · next hnone => exact .wasClosed fun t ht => absurd (hnone.symm.trans ht) (by simp)
  · next t ht =>
    split
    · next hclosed =>
      refine .wasClosed fun t' ht' => ?_
      obtain rfl := Option.some.inj (ht.symm.trans ht')
      exact hclosed
    · next hopen =>
      refine .closes ht (by simpa using hopen) ?_
      cases hpipe : t.pipeOperation with
      | none => exact .inl rfl
      | some other => exact .inr ⟨other, rfl, rfl⟩

theorem outcome_pipeClose (s : Service) (original other : TunnelId) :
    Outcome s (.act (.pipeClose original other)) (s.pipeClose original other) := by
  apply Outcome.pipeClose List.filter_sublist
  intro j hj
  exact (List.mem_filter.mp hj).2

theorem outcome_release (s : Service) (id : TunnelId) :
    Outcome s (.act (.release id)) (s.release id) := by
  unfold release
  split
  · next howned =>
    cases ht : s.tunnel id with
    | none => simp [ht] at howned
    | some t => exact .release ht (by simpa [ht] using howned) rfl
  · exact .notOwned

theorem outcome_connectTunnelsGuarded (s : Service) (client publisher : TunnelId) :
    Outcome s (.act (.connectTunnelsGuarded client publisher))
      (s.connectTunnelsGuarded client publisher) := by
  unfold connectTunnelsGuarded
  split
  · next hclient => exact .clientGone hclient
  · next hclient =>
    split
    · next hpublisher => exact .publisherGone (not_not.mp hclient) hpublisher
    · next hpublisher => exact .link (not_not.mp hclient) (not_not.mp hpublisher)

theorem outcome_linkHalf (s : Service) (id other : TunnelId) :
    Outcome s (.act (.linkHalf id other)) (s.linkHalf id other) := by
  unfold linkHalf
  split
  · next ht => exact .linkMissing ht
  · next t ht =>
    split
    · next hempty =>
      split
      · next hother => exact .linkPipe ht hempty hother
      · next hgone =>
        refine .linkDead ht fun halive => hgone ?_
        obtain ⟨t', ht', -⟩ := (Option.any_eq_true _ _).mp halive.2
        rw [ht']
        rfl
    · next hbytes =>
      split
      · next halive => exact .linkWrite ht hbytes halive.1 halive.2
      · next hdead => exact .linkDead ht hdead

/-- **What one task does.** -/
theorem outcome (s : Service) (t : Task Mutex Act) : Outcome s t (perform expand s t) := by
  cases t with
  | lock m => exact .lock m
  | unlock m => exact .unlock m
  | act a =>
    cases a with
    | close id => exact .close id
    | closeGuarded id => exact outcome_closeGuarded s id
    | pipeClose original other => exact outcome_pipeClose s original other
    | pipeReset id =>
      show Outcome s _ (s.pipeReset id)
      unfold pipeReset
      split
      · exact .noPipe
      · next other hpipe => exact .pipeReset hpipe
    | pipeAssign id other => exact .pipeAssign (dropsPipe_match s id)
    | release id => exact outcome_release s id
    | destroy id => exact .destroy id
    | free id => exact .free (dropsPipe_match s id)
    | closeTunnelSide id pre => exact .closeTunnelSide id pre
    | closeTunnelSideGuarded id pre =>
      show Outcome s _ (s.closeTunnelSideGuarded id pre)
      unfold closeTunnelSideGuarded
      split
      · next hmem => exact .sideFound hmem
      · next hgone => exact .sideGone hgone
    | erase id =>
      show Outcome s _ (s.erase id)
      unfold erase
      split
      · next hmem => exact .erase hmem rfl
      · next hgone => exact .eraseInvalid hgone
    | connectTunnels client publisher => exact .connectTunnels client publisher
    | connectTunnelsGuarded client publisher =>
      exact outcome_connectTunnelsGuarded s client publisher
    | linkHalf id other => exact outcome_linkHalf s id other

end Service

end TunnelBore.Broker
