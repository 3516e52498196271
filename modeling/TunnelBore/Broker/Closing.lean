import TunnelBore.Broker.Outcome

namespace TunnelBore.Broker

open TunnelBore.Lib

/-!
# Closing terminates

`close`, `PipeOperation::close`, `closeTunnelSide` and the destructors call each other in a
circle.  The circle is broken twice: `wasClosed` lets each session be closed once, and a
session is destroyed once.  `rank` counts the open and the alive sessions, `weight` bounds the
tasks a call pushes in between, and every task decreases the sum (`rank_perform_lt`), so a
call started in any state returns (`returns`).
-/

namespace Service

variable (s : Service) (id : TunnelId)

/-! ### Looking up after an update -/

theorem tunnel_modify (f : TunnelSession → TunnelSession) (j : TunnelId) :
    (s.modify id f).tunnel j = if j = id then (s.tunnel id).map f else s.tunnel j := by
  unfold tunnel modify
  simp only
  induction s.tunnels with
  | nil => simp
  | cons entry rest ih =>
    obtain ⟨key, t⟩ := entry
    rw [List.map_cons]
    by_cases hkey : key = id
    · subst hkey
      rw [if_pos rfl, List.lookup_cons, List.lookup_cons, List.lookup_cons]
      by_cases hj : j = key
      · subst hj
        simp
      · simp only [beq_eq_false_iff_ne.mpr hj, hj, if_false] at ih ⊢
        exact ih
    · rw [if_neg hkey, List.lookup_cons, List.lookup_cons, List.lookup_cons]
      by_cases hj : j = key
      · subst hj
        simp [hkey]
      · simp only [beq_eq_false_iff_ne.mpr hj, beq_eq_false_iff_ne.mpr (Ne.symm hkey)]
        exact ih

@[simp] theorem sessions_modify (f : TunnelSession → TunnelSession) :
    (s.modify id f).sessions = s.sessions := rfl
@[simp] theorem effects_modify (f : TunnelSession → TunnelSession) :
    (s.modify id f).effects = s.effects := rfl
@[simp] theorem sessions_acquire : (s.acquire id).sessions = s.sessions := rfl
@[simp] theorem effects_acquire : (s.acquire id).effects = s.effects := rfl
@[simp] theorem sessions_record (e : Effect) : (s.record e).sessions = s.sessions := rfl
@[simp] theorem tunnel_record (e : Effect) : (s.record e).tunnel = s.tunnel := rfl
@[simp] theorem effects_record (e : Effect) : (s.record e).effects = s.effects ++ [e] := rfl
@[simp] theorem alive_record (e : Effect) : (s.record e).alive = s.alive := rfl

theorem tunnel_acquire (j : TunnelId) :
    (s.acquire id).tunnel j =
      if j = id then (s.tunnel id).map fun t => { t with owners := t.owners + 1 }
      else s.tunnel j := s.tunnel_modify id _ j

/-- Only the freed session is gone. -/
theorem tunnel_free (j : TunnelId) :
    (s.free id).1.tunnel j = if j = id then none else s.tunnel j := by
  unfold tunnel free
  simp only
  induction s.tunnels with
  | nil => simp
  | cons entry rest ih =>
    obtain ⟨key, t⟩ := entry
    by_cases hkey : key = id
    · subst hkey
      rw [List.filter_cons_of_neg (by simp), ih, List.lookup_cons]
      by_cases hj : j = key
      · simp [hj]
      · simp [hj, beq_eq_false_iff_ne.mpr hj]
    · rw [List.filter_cons_of_pos (by simpa using hkey), List.lookup_cons, List.lookup_cons, ih]
      by_cases hj : j = key
      · subst hj
        simp [hkey]
      · simp only [beq_eq_false_iff_ne.mpr hj]

theorem alive_iff {j : TunnelId} :
    s.alive j = true ↔ ∃ t, s.tunnel j = some t ∧ (j ∈ s.sessions ∨ 0 < t.owners) := by
  unfold alive
  cases s.tunnel j with
  | none => simp
  | some t => simp

/-- A change that keeps the owners keeps a session alive. -/
theorem alive_modify (f : TunnelSession → TunnelSession) (hf : ∀ t, (f t).owners = t.owners)
    (j : TunnelId) : (s.modify id f).alive j = s.alive j := by
  unfold alive
  rw [tunnel_modify]
  split
  · next hj =>
    subst hj
    cases s.tunnel j with
    | none => rfl
    | some t =>
      rw [Option.map_some, Option.any_some, Option.any_some, hf]
      rfl
  · rfl

/-- Acquiring a session that is alive changes nobody's liveness. -/
theorem alive_acquire (h : s.alive id = true) (j : TunnelId) :
    (s.acquire id).alive j = s.alive j := by
  rw [Bool.eq_iff_iff, alive_iff, alive_iff, tunnel_acquire]
  by_cases hj : j = id
  · subst hj
    obtain ⟨t, ht, hor⟩ := (s.alive_iff).mp h
    simp [ht, hor]
  · simp [hj]

/-! ### The rank of a state -/

/-- The sessions that exist. -/
def ids : Finset TunnelId := (s.tunnels.map Prod.fst).toFinset

/-- The sessions that exist and were not closed. -/
def openIds : Finset TunnelId := s.ids.filter fun j => (s.tunnel j).any fun t => !t.wasClosed

/-- The sessions a `weak_ptr` can be locked for. -/
def aliveIds : Finset TunnelId := s.ids.filter fun j => s.alive j

theorem mem_ids_of_tunnel {j : TunnelId} {t : TunnelSession} (h : s.tunnel j = some t) :
    j ∈ s.ids := by
  unfold tunnel at h
  unfold ids
  rw [List.mem_toFinset, List.mem_map]
  generalize s.tunnels = l at h
  induction l with
  | nil => simp at h
  | cons entry rest ih =>
    rw [List.lookup_cons] at h
    by_cases hj : j = entry.1
    · exact ⟨entry, List.mem_cons_self, hj.symm⟩
    · simp only [beq_eq_false_iff_ne.mpr hj] at h
      obtain ⟨e, he, hkey⟩ := ih h
      exact ⟨e, List.mem_cons_of_mem _ he, hkey⟩

theorem mem_openIds {j : TunnelId} :
    j ∈ s.openIds ↔ ∃ t, s.tunnel j = some t ∧ t.wasClosed = false := by
  unfold openIds
  rw [Finset.mem_filter]
  constructor
  · rintro ⟨-, h⟩
    cases ht : s.tunnel j with
    | none => simp [ht] at h
    | some t => exact ⟨t, rfl, by simpa [ht] using h⟩
  · rintro ⟨t, ht, hopen⟩
    exact ⟨s.mem_ids_of_tunnel ht, by simp [ht, hopen]⟩

theorem mem_aliveIds {j : TunnelId} : j ∈ s.aliveIds ↔ s.alive j = true := by
  unfold aliveIds
  rw [Finset.mem_filter]
  constructor
  · exact fun h => h.2
  · intro h
    obtain ⟨t, ht, -⟩ := s.alive_iff.mp h
    exact ⟨s.mem_ids_of_tunnel ht, h⟩

/-- How much closing and destroying a state still has in it. -/
def rank : Nat := 32 * s.openIds.card + 17 * s.aliveIds.card

end Service

/-- A bound on the tasks a task pushes, closings and destructions apart. -/
def weight : Task Mutex Act → Nat
  | .lock _                          => 1
  | .unlock _                        => 1
  | .act (.release _)                => 1
  | .act (.erase _)                  => 1
  | .act (.closeGuarded _)           => 2
  | .act (.close _)                  => 4
  | .act (.closeTunnelSideGuarded ..) => 7
  | .act (.closeTunnelSide ..)       => 9
  | .act (.pipeClose ..)             => 11
  | .act (.pipeReset _)              => 12
  | .act (.pipeAssign ..)            => 12
  | .act (.free _)                   => 12
  | .act (.linkHalf ..)              => 13
  | .act (.destroy _)                => 17
  | .act (.connectTunnelsGuarded ..) => 28
  | .act (.connectTunnels ..)        => 30

/-- The weight of a call stack. -/
def Program.weight (p : Program) : Nat := (p.map Broker.weight).sum

namespace Service

variable {s s' : Service} {id : TunnelId}

/-- Nothing is opened and nothing comes to life. -/
def Shrinks (s s' : Service) : Prop := s'.openIds ⊆ s.openIds ∧ s'.aliveIds ⊆ s.aliveIds

theorem Shrinks.refl (s : Service) : Shrinks s s := ⟨subset_rfl, subset_rfl⟩

theorem Shrinks.rank_le (h : Shrinks s s') : s'.rank ≤ s.rank := by
  have hopen := Finset.card_le_card h.1
  have halive := Finset.card_le_card h.2
  unfold rank
  omega

/-- Closing one session takes 32 off the rank. -/
theorem Shrinks.rank_lt_of_closed (h : Shrinks s s') (hopen : id ∈ s.openIds)
    (hclosed : id ∉ s'.openIds) : s'.rank + 32 ≤ s.rank := by
  have hlt := Finset.card_lt_card (Finset.ssubset_iff_of_subset h.1 |>.mpr ⟨id, hopen, hclosed⟩)
  have halive := Finset.card_le_card h.2
  unfold rank
  omega

/-- The death of one session takes 17 off the rank. -/
theorem Shrinks.rank_lt_of_dead (h : Shrinks s s') (halive : s.alive id = true)
    (hdead : s'.alive id = false) : s'.rank + 17 ≤ s.rank := by
  have hopen := Finset.card_le_card h.1
  have hlt : s'.aliveIds.card < s.aliveIds.card := by
    refine Finset.card_lt_card (Finset.ssubset_iff_of_subset h.2 |>.mpr
      ⟨id, s.mem_aliveIds.mpr halive, ?_⟩)
    rw [mem_aliveIds, hdead]
    decide
  unfold rank
  omega

/-- A change to one session that does not reopen it and does not add owners shrinks. -/
theorem shrinks_modify {f : TunnelSession → TunnelSession}
    (hclosed : ∀ t, t.wasClosed = true → (f t).wasClosed = true)
    (howners : ∀ t, (f t).owners ≤ t.owners) : Shrinks s (s.modify id f) := by
  constructor
  · intro j hj
    rw [mem_openIds] at hj ⊢
    obtain ⟨t, ht, hopen⟩ := hj
    rw [tunnel_modify] at ht
    split at ht
    · next hji =>
      subst hji
      obtain ⟨t₀, ht₀, rfl⟩ := Option.map_eq_some_iff.mp ht
      refine ⟨t₀, ht₀, ?_⟩
      by_contra hne
      rw [hclosed t₀ (by simpa using hne)] at hopen
      exact absurd hopen (by decide)
    · exact ⟨t, ht, hopen⟩
  · intro j hj
    rw [mem_aliveIds, alive_iff] at hj ⊢
    obtain ⟨t, ht, hor⟩ := hj
    rw [tunnel_modify] at ht
    split at ht
    · next hji =>
      subst hji
      obtain ⟨t₀, ht₀, rfl⟩ := Option.map_eq_some_iff.mp ht
      exact ⟨t₀, ht₀, hor.imp id (lt_of_lt_of_le · (howners t₀))⟩
    · exact ⟨t, ht, hor⟩

/-- Acquiring a session that is alive shrinks. -/
theorem shrinks_acquire (h : s.alive id = true) : Shrinks s (s.acquire id) := by
  constructor
  · intro j hj
    rw [mem_openIds] at hj ⊢
    obtain ⟨t, ht, hopen⟩ := hj
    rw [tunnel_acquire] at ht
    split at ht
    · next hji =>
      subst hji
      obtain ⟨t₀, ht₀, rfl⟩ := Option.map_eq_some_iff.mp ht
      exact ⟨t₀, ht₀, hopen⟩
    · exact ⟨t, ht, hopen⟩
  · intro j hj
    rw [mem_aliveIds] at hj ⊢
    rwa [alive_acquire _ _ h] at hj

theorem Shrinks.trans {u : Service} (h : Shrinks s s') (h' : Shrinks s' u) : Shrinks s u :=
  ⟨h'.1.trans h.1, h'.2.trans h.2⟩

/-- Acquiring a list of sessions that are alive shrinks. -/
theorem shrinks_foldl_acquire (l : List TunnelId) (h : ∀ j ∈ l, s.alive j = true) :
    Shrinks s (l.foldl acquire s) := by
  induction l generalizing s with
  | nil => exact Shrinks.refl s
  | cons j l ih =>
    obtain ⟨hj, hl⟩ := List.forall_mem_cons.mp h
    refine (shrinks_acquire hj).trans (ih fun k hk => ?_)
    rw [alive_acquire _ _ hj]
    exact hl k hk

/-- Marking a session closed shrinks. -/
theorem shrinks_markClosed (s : Service) (id : TunnelId) :
    Shrinks s (s.modify id fun t => { t with wasClosed := true }) :=
  shrinks_modify (fun _ _ => rfl) (fun _ => le_rfl)

/-- Setting or clearing a pipe operation shrinks. -/
theorem shrinks_setPipe (s : Service) (id : TunnelId) (pipe : Option TunnelId) :
    Shrinks s (s.modify id fun t => { t with pipeOperation := pipe }) :=
  shrinks_modify (fun _ h => h) (fun _ => le_rfl)

/-- One owner less shrinks. -/
theorem shrinks_disown (s : Service) (id : TunnelId) :
    Shrinks s (s.modify id fun t => { t with owners := t.owners - 1 }) :=
  shrinks_modify (fun _ h => h) (fun _ => Nat.sub_le _ _)

/-- Leaving the map shrinks. -/
theorem shrinks_of_tunnel (htunnel : s'.tunnel = s.tunnel) (hsessions : s'.sessions ⊆ s.sessions) :
    Shrinks s s' := by
  constructor
  · intro j hj
    rw [mem_openIds] at hj ⊢
    rwa [htunnel] at hj
  · intro j hj
    rw [mem_aliveIds, alive_iff] at hj ⊢
    obtain ⟨t, ht, hor⟩ := hj
    exact ⟨t, htunnel ▸ ht, hor.imp (fun h => hsessions h) id⟩

theorem shrinks_record (e : Effect) : Shrinks s (s.record e) :=
  shrinks_of_tunnel rfl subset_rfl

theorem shrinks_free (s : Service) (id : TunnelId) : Shrinks s (s.free id).1 := by
  have htunnel : ∀ {j : TunnelId} {t : TunnelSession}, (s.free id).1.tunnel j = some t →
      s.tunnel j = some t := by
    intro j t h
    rw [tunnel_free] at h
    split at h
    · simp at h
    · exact h
  constructor
  · intro j hj
    rw [mem_openIds] at hj ⊢
    obtain ⟨t, ht, hopen⟩ := hj
    exact ⟨t, htunnel ht, hopen⟩
  · intro j hj
    rw [mem_aliveIds, alive_iff] at hj ⊢
    obtain ⟨t, ht, hor⟩ := hj
    exact ⟨t, htunnel ht, hor⟩

theorem shrinks_startInitialWrite {other : TunnelId} (hid : s.alive id = true)
    (hother : s.alive other = true) (bytes : Bytes) :
    Shrinks s (s.startInitialWrite id other bytes) := by
  have hfirst : Shrinks s (s.acquire id) := shrinks_acquire hid
  have hsecond : Shrinks (s.acquire id) ((s.acquire id).acquire other) :=
    shrinks_acquire (by rw [alive_acquire _ _ hid]; exact hother)
  exact hfirst.trans (hsecond.trans (shrinks_of_tunnel rfl subset_rfl))

/-- No task opens a session or brings one to life. -/
theorem shrinks_perform (s : Service) (t : Task Mutex Act) :
    Shrinks s (perform expand s t).1 := by
  have h := outcome s t
  generalize perform expand s t = result at h ⊢
  cases h with
  | closes => exact shrinks_markClosed s _
  | pipeClose _ halive => exact shrinks_foldl_acquire _ halive
  | pipeReset => exact shrinks_setPipe s _ none
  | pipeAssign => exact shrinks_setPipe s _ _
  | release _ _ hs' => exact hs' ▸ shrinks_disown s _
  | free => exact shrinks_free s _
  | erase _ hs' => exact hs' ▸ shrinks_of_tunnel rfl (Finset.erase_subset _ _)
  | eraseInvalid => exact shrinks_record _
  | link => exact shrinks_record _
  | linkMissing => exact shrinks_record _
  | linkWrite _ _ hid hother => exact shrinks_startInitialWrite hid hother _
  | linkDead => exact shrinks_record _
  | _ => exact Shrinks.refl s

theorem shrinks_of_executes {p : Program} (h : Executes expand s p s') : Shrinks s s' :=
  h.invariant (I := Shrinks s) (T := fun _ => True)
    (fun u t hu _ => ⟨hu.trans (shrinks_perform u t), fun _ _ => trivial⟩) (Shrinks.refl s)
    fun _ _ => trivial

/-! ### Every task decreases -/

/-- A session that is no longer open is paid for by the rank. -/
theorem rank_markClosed {t : TunnelSession} (ht : s.tunnel id = some t)
    (hopen : t.wasClosed = false) :
    (s.modify id fun t => { t with wasClosed := true }).rank + 32 ≤ s.rank := by
  apply (shrinks_markClosed s id).rank_lt_of_closed (s.mem_openIds.mpr ⟨t, ht, hopen⟩)
  rw [mem_openIds, tunnel_modify]
  simp [ht]

/-- A session that dies is paid for by the rank, and only then is a destructor pushed. -/
theorem rank_destroyIfUnowned (h : Shrinks s s') (halive : (s'.tunnel id).isSome → s.alive id) :
    s'.rank + Program.weight (s'.destroyIfUnowned id) ≤ s.rank := by
  unfold destroyIfUnowned
  split
  · next hdead =>
    have hrank := h.rank_lt_of_dead (halive hdead.1) (by simpa using hdead.2)
    simp only [Program.weight, weight, List.map_cons, List.map_nil, List.sum_cons, List.sum_nil]
    omega
  · have hrank := h.rank_le
    simpa [Program.weight] using hrank

theorem DropsPipe.weight_le {p : Program} (h : s.DropsPipe id p) : p.weight ≤ 11 := by
  rcases h with ⟨-, rfl⟩ | ⟨other, -, rfl⟩ <;> simp [Program.weight, weight]

/-- **Every task decreases** the rank of the state plus the weight of the stack. -/
theorem rank_perform_lt (s : Service) (t : Task Mutex Act) :
    (perform expand s t).1.rank + ((perform expand s t).2.map weight).sum <
      s.rank + weight t := by
  have hshrinks := shrinks_perform s t
  have hle := hshrinks.rank_le
  have h := outcome s t
  generalize perform expand s t = result at h hshrinks hle ⊢
  show result.1.rank + Program.weight result.2 < _
  cases h with
  | closes ht hopen hpipe =>
    have hrank := rank_markClosed ht hopen
    rcases hpipe with rfl | ⟨other, -, rfl⟩ <;> simp [Program.weight, weight] <;> omega
  | @pipeClose _ _ ends hends =>
    have hlength := hends.length_le
    have hcloses : Program.weight (ends.map fun id => .act (.close id)) = 4 * ends.length := by
      simp [Program.weight, weight, Function.comp_def, Nat.mul_comm]
    have hreleases :
        Program.weight (ends.reverse.map fun id => .act (.release id)) = ends.length := by
      simp [Program.weight, weight, Function.comp_def]
    simp only [Program.weight, List.map_append, List.sum_append, List.length_cons,
      List.length_nil] at hcloses hreleases hlength hle ⊢
    simp only [weight]
    omega
  | pipeAssign hp =>
    have hweight := hp.weight_le
    simp only [weight] at hweight hle ⊢
    omega
  | free hp =>
    have hweight := hp.weight_le
    simp only [weight] at hweight hle ⊢
    omega
  | release ht howned hs' =>
    have hrank := rank_destroyIfUnowned hshrinks
      fun _ => s.alive_iff.mpr ⟨_, ht, .inr howned⟩
    simp only [weight] at hrank ⊢
    omega
  | @erase id hmem s' hs' =>
    have htunnel : s'.tunnel = s.tunnel := by rw [hs']; rfl
    have halive : (s'.tunnel id).isSome → s.alive id := by
      intro hsome
      obtain ⟨t, ht⟩ := Option.isSome_iff_exists.mp hsome
      exact s.alive_iff.mpr ⟨t, htunnel ▸ ht, .inl hmem⟩
    have hrank := rank_destroyIfUnowned hshrinks halive
    simp only [weight] at hrank ⊢
    omega
  | @sideFound _ pre => cases pre <;> simp [Program.weight, weight]
  | _ =>
    simp only [Program.weight, weight, List.map_cons, List.map_nil, List.sum_cons,
      List.sum_nil] at hle ⊢
    omega

/-- Run a call stack to its end, on as much fuel as its rank and weight. -/
def execute (s : Service) (p : Program) : Option Service :=
  exec expand (s.rank + p.weight) s p

/-- **Every call returns**: the mutual recursion of closing is well founded in every state. -/
theorem execute_isSome (s : Service) (p : Program) : ∃ s', s.execute p = some s' :=
  exec_eq_some_of_rank rank_perform_lt le_rfl

theorem execute_eq_some {p : Program} : s.execute p = some s' ↔ Executes expand s p s' := by
  constructor
  · exact executes_of_exec
  · intro h
    obtain ⟨u, hu⟩ := s.execute_isSome p
    rw [hu, (executes_of_exec hu).unique h]

end Service

end TunnelBore.Broker
