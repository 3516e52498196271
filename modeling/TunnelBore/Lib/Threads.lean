import Mathlib.Data.Fintype.Basic
import TunnelBore.Lib.Tasks

namespace TunnelBore.Lib

/-!
# Threads that share recursive mutexes

Several call stacks over one state, interleaved task by task.  A thread whose next task takes
a mutex that another thread holds waits; a mutex it holds itself it may take again.

* `Threads.step` — one thread carries out its next task; `step_pops` is its inversion;
* `Pending` — a task that some thread has still to carry out; it stays so until it is popped;
* `Exclusive` — a mutex has at most one holder, in every state that is reached;
* `Footprint` — each thread takes mutexes of a set of its own only.  Threads whose sets share
  at most one mutex never wait for each other (`Footprint.not_mutualWait`);
* `Settled` — a thread holds exactly what its stack still has to release, if the body of every
  act releases what it takes and what it was entered with (`Paired`; `Pays` is that of one body).
-/

/-- Threads `ι` with their call stacks and the mutexes they hold, a mutex once for each time it
    was taken. -/
structure Threads (ι σ μ α : Type*) where
  state : σ
  stack : ι → List (Task μ α)
  held : ι → List μ

/-- What a thread holds after a task. -/
def Task.holding {μ α : Type*} [DecidableEq μ] : Task μ α → List μ → List μ
  | .lock m,   held => m :: held
  | .unlock m, held => held.erase m
  | .act _,    held => held

/-- The mutex a thread asks for next. -/
def wanted {μ α : Type*} : List (Task μ α) → Option μ
  | .lock m :: _ => some m
  | _            => none

/-- What a thread asks for is on its stack. -/
theorem mem_of_wanted {μ α : Type*} {ts : List (Task μ α)} {m : μ}
    (h : wanted ts = some m) : .lock m ∈ ts := by
  unfold wanted at h
  split at h
  · next n ts =>
    obtain rfl := Option.some.inj h
    exact List.mem_cons_self
  · simp at h

namespace Threads

variable {ι σ μ α : Type*} [DecidableEq ι] [DecidableEq μ]
variable (expand : σ → α → σ × List (Task μ α))
variable {c c' : Threads ι σ μ α} {i j : ι} {L : ι → Set μ}

/-- A task can be carried out unless it takes a mutex that another thread holds. -/
def Enabled (c : Threads ι σ μ α) (i : ι) : Task μ α → Prop
  | .lock m => ∀ j, j ≠ i → m ∉ c.held j
  | _       => True

instance [Fintype ι] (c : Threads ι σ μ α) (i : ι) : (t : Task μ α) → Decidable (c.Enabled i t)
  | .lock m   => inferInstanceAs (Decidable (∀ j, j ≠ i → m ∉ c.held j))
  | .unlock _ => isTrue trivial
  | .act _    => isTrue trivial

/-- Thread `i` carries out its next task; `none` when it has none or has to wait. -/
def step [Fintype ι] (c : Threads ι σ μ α) (i : ι) : Option (Threads ι σ μ α) :=
  match c.stack i with
  | []      => none
  | t :: ts =>
    if c.Enabled i t then some
      { state := (perform expand c.state t).1
        stack := Function.update c.stack i ((perform expand c.state t).2 ++ ts)
        held := Function.update c.held i (t.holding (c.held i)) }
    else none

/-- Thread `i` asks for a mutex that thread `j` holds. -/
def WaitsFor (c : Threads ι σ μ α) (i j : ι) : Prop :=
  i ≠ j ∧ ∃ m, wanted (c.stack i) = some m ∧ m ∈ c.held j

/-- Two threads each wait for a mutex the other one holds. -/
def MutualWait (c : Threads ι σ μ α) (i j : ι) : Prop := c.WaitsFor i j ∧ c.WaitsFor j i

/-- Thread `i` popped `t` and left `ts`. -/
structure Pops (c : Threads ι σ μ α) (i : ι) (t : Task μ α) (ts : List (Task μ α))
    (c' : Threads ι σ μ α) : Prop where
  stack : c.stack i = t :: ts
  enabled : c.Enabled i t
  state' : c'.state = (perform expand c.state t).1
  stack' : c'.stack i = (perform expand c.state t).2 ++ ts
  held' : c'.held i = t.holding (c.held i)
  others : ∀ j, j ≠ i → c'.stack j = c.stack j ∧ c'.held j = c.held j

variable {expand}

/-- What a step can be. -/
theorem step_pops [Fintype ι] (h : c.step expand i = some c') :
    ∃ t ts, c.Pops expand i t ts c' := by
  unfold step at h
  split at h
  · simp at h
  · next t ts hstack =>
    split at h
    · next henabled =>
      obtain rfl := Option.some.inj h
      refine ⟨t, ts, hstack, henabled, rfl, Function.update_self .., Function.update_self .., ?_⟩
      intro j hj
      exact ⟨Function.update_of_ne hj .., Function.update_of_ne hj ..⟩
    · simp at h

omit [DecidableEq ι] in
/-- What holds of every thread after a step: it is shown of the one that has stepped, and of the
    others as they were. -/
theorem Pops.forall_threads {P : ι → List (Task μ α) → List μ → Prop} {t : Task μ α}
    {ts : List (Task μ α)} (h : c.Pops expand i t ts c')
    (htop : P i ((perform expand c.state t).2 ++ ts) (t.holding (c.held i)))
    (hothers : ∀ j, j ≠ i → P j (c.stack j) (c.held j)) (j : ι) :
    P j (c'.stack j) (c'.held j) := by
  by_cases hj : j = i
  · subst hj
    rw [h.stack', h.held']
    exact htop
  · rw [(h.others j hj).1, (h.others j hj).2]
    exact hothers j hj

/-! ### Pending tasks -/

/-- Some thread has still to carry out the task. -/
def Pending (c : Threads ι σ μ α) (u : Task μ α) : Prop := ∃ i, u ∈ c.stack i

omit [DecidableEq ι] in
/-- Only the popped task is no longer pending. -/
theorem Pops.pending_of_ne {t u : Task μ α} {ts : List (Task μ α)} (h : c.Pops expand i t ts c')
    (hu : c.Pending u) (hne : u ≠ t) : c'.Pending u := by
  obtain ⟨j, hj⟩ := hu
  by_cases hji : j = i
  · subst hji
    rw [h.stack] at hj
    refine ⟨j, ?_⟩
    rw [h.stack']
    exact List.mem_append_right _ ((List.mem_cons.mp hj).resolve_left hne)
  · exact ⟨j, (h.others j hji).1 ▸ hj⟩

omit [DecidableEq ι] in
/-- What is pushed is pending. -/
theorem Pops.pending_pushed {t u : Task μ α} {ts : List (Task μ α)} (h : c.Pops expand i t ts c')
    (hu : u ∈ (perform expand c.state t).2) : c'.Pending u :=
  ⟨i, h.stack' ▸ List.mem_append_left _ hu⟩

omit [DecidableEq ι] in
/-- Nothing else becomes pending. -/
theorem Pops.pending_cases {t u : Task μ α} {ts : List (Task μ α)} (h : c.Pops expand i t ts c')
    (hu : c'.Pending u) : u ∈ (perform expand c.state t).2 ∨ c.Pending u := by
  obtain ⟨j, hj⟩ := hu
  by_cases hji : j = i
  · subst hji
    rw [h.stack'] at hj
    rcases List.mem_append.mp hj with hj | hj
    · exact .inl hj
    · exact .inr ⟨j, h.stack ▸ List.mem_cons_of_mem _ hj⟩
  · exact .inr ⟨j, (h.others j hji).1 ▸ hj⟩

omit [DecidableEq ι] in
/-- The popped task was pending. -/
theorem Pops.pending_top {t : Task μ α} {ts : List (Task μ α)} (h : c.Pops expand i t ts c') :
    c.Pending t :=
  ⟨i, h.stack ▸ List.mem_cons_self⟩

/-! ### One holder -/

/-- No two threads hold the same mutex. -/
def Exclusive (c : Threads ι σ μ α) : Prop := ∀ i j m, m ∈ c.held i → m ∈ c.held j → i = j

omit [DecidableEq ι] in
/-- A thread holds nothing new but a mutex that nobody else held. -/
theorem Pops.mem_held {t : Task μ α} {ts : List (Task μ α)} (h : c.Pops expand i t ts c')
    {m : μ} (hm : m ∈ c'.held i) :
    m ∈ c.held i ∨ (t = .lock m ∧ ∀ j, j ≠ i → m ∉ c.held j) := by
  rw [h.held'] at hm
  cases t with
  | lock n =>
    rcases List.mem_cons.mp hm with rfl | hm
    · exact .inr ⟨rfl, h.enabled⟩
    · exact .inl hm
  | unlock n => exact .inl (List.mem_of_mem_erase hm)
  | act a => exact .inl hm

/-- **One holder.**  Every step keeps it. -/
theorem Exclusive.step [Fintype ι] (hc : c.Exclusive) (h : c.step expand i = some c') :
    c'.Exclusive := by
  obtain ⟨t, ts, hpops⟩ := step_pops h
  -- the stepping thread against another one
  have hfresh : ∀ k m, k ≠ i → m ∈ c'.held i → m ∈ c'.held k → False := by
    intro k m hk hi hkm
    rw [(hpops.others k hk).2] at hkm
    rcases hpops.mem_held hi with hold | ⟨-, hfree⟩
    · exact hk (hc k i m hkm hold)
    · exact hfree k hk hkm
  intro j k m hj hk
  by_contra hne
  by_cases hji : j = i
  · subst hji
    exact hfresh k m (Ne.symm hne) hj hk
  · by_cases hki : k = i
    · subst hki
      exact hfresh j m hji hk hj
    · rw [(hpops.others j hji).2] at hj
      rw [(hpops.others k hki).2] at hk
      exact hne (hc j k m hj hk)

/-! ### Threads that take different mutexes -/

/-- Thread `i` holds and asks for mutexes of `L i` only. -/
structure Footprint (L : ι → Set μ) (c : Threads ι σ μ α) : Prop where
  held : ∀ i, ∀ m ∈ c.held i, m ∈ L i
  locks : ∀ i m, .lock m ∈ c.stack i → m ∈ L i

/-- Keeping to a footprint is a matter of the stacks. -/
theorem Footprint.held_step [Fintype ι] (hc : c.Footprint L) (h : c.step expand i = some c') :
    ∀ j, ∀ m ∈ c'.held j, m ∈ L j := by
  obtain ⟨t, ts, hpops⟩ := step_pops h
  intro j m hm
  by_cases hj : j = i
  · subst hj
    rcases hpops.mem_held hm with hold | ⟨rfl, -⟩
    · exact hc.held j m hold
    · refine hc.locks j m ?_
      rw [hpops.stack]
      exact List.mem_cons_self
  · rw [(hpops.others j hj).2] at hm
    exact hc.held j m hm

omit [DecidableEq ι] [DecidableEq μ] in
/-- **Threads that share one mutex at most never wait for each other.** -/
theorem Footprint.not_mutualWait (hc : c.Footprint L) (hexclusive : c.Exclusive)
    (hmeet : (L i ∩ L j).Subsingleton) : ¬c.MutualWait i j := by
  rintro ⟨⟨hne, m, hwanted, hheld⟩, -, n, hwanted', hheld'⟩
  have hm : m ∈ L i ∩ L j := ⟨hc.locks i m (mem_of_wanted hwanted), hc.held j m hheld⟩
  have hn : n ∈ L i ∩ L j := ⟨hc.held i n hheld', hc.locks j n (mem_of_wanted hwanted')⟩
  -- both wait for the same mutex, which would have two holders
  obtain rfl := hmeet hm hn
  exact hne (hexclusive i j m hheld' hheld)

end Threads

/-! ### What a stack has to release -/

section
variable {σ μ α : Type*} [DecidableEq μ] (guard : α → Option μ)

/-- What a task owes: `1` to release a mutex, `-1` to take one.  An act that is entered with a
    mutex held (`guard`) owes that one. -/
def debt (m : μ) : Task μ α → Int
  | .lock n   => if n = m then -1 else 0
  | .unlock n => if n = m then 1 else 0
  | .act a    => if guard a = some m then 1 else 0

/-- What a stack owes altogether. -/
def owed (m : μ) : List (Task μ α) → Int
  | []      => 0
  | t :: ts => debt guard m t + owed m ts

/-- Nowhere on the stack is a mutex taken that is not released further down. -/
def Releasing : List (Task μ α) → Prop
  | []      => True
  | t :: ts => (∀ m, 0 ≤ owed guard m (t :: ts)) ∧ Releasing ts

/-- Bodies release what they take and what they were entered with. -/
structure Paired (expand : σ → α → σ × List (Task μ α)) : Prop where
  owed_eq : ∀ s a m, owed guard m (expand s a).2 = debt guard m (.act a)
  releasing : ∀ s a, Releasing guard (expand s a).2

/-- A body of `a` releases what it takes and what `a` was entered with. -/
structure Pays (a : α) (p : List (Task μ α)) : Prop where
  owed_eq : ∀ m, owed guard m p = debt guard m (.act a)
  releasing : Releasing guard p

/-- A thread holds what its stack owes. -/
structure Settled (held : List μ) (ts : List (Task μ α)) : Prop where
  releasing : Releasing guard ts
  count_eq : ∀ m, (held.count m : Int) = owed guard m ts

variable {guard} {expand : σ → α → σ × List (Task μ α)}

@[simp] theorem owed_nil (m : μ) : owed guard m ([] : List (Task μ α)) = 0 := rfl

@[simp] theorem owed_cons (m : μ) (t : Task μ α) (ts : List (Task μ α)) :
    owed guard m (t :: ts) = debt guard m t + owed guard m ts := rfl

@[simp] theorem owed_append (m : μ) (as bs : List (Task μ α)) :
    owed guard m (as ++ bs) = owed guard m as + owed guard m bs := by
  induction as with
  | nil => simp
  | cons t as ih =>
    rw [List.cons_append, owed_cons, owed_cons, ih]
    omega

theorem Releasing.owed_nonneg {ts : List (Task μ α)} (h : Releasing guard ts) (m : μ) :
    0 ≤ owed guard m ts := by
  cases ts with
  | nil => exact le_rfl
  | cons t ts => exact h.1 m

theorem Releasing.append {as bs : List (Task μ α)} (ha : Releasing guard as)
    (hb : Releasing guard bs) : Releasing guard (as ++ bs) := by
  induction as with
  | nil => exact hb
  | cons t as ih =>
    refine ⟨fun m => ?_, ih ha.2⟩
    have htop := ha.1 m
    have hrest := hb.owed_nonneg m
    show 0 ≤ owed guard m (t :: (as ++ bs))
    rw [owed_cons] at htop
    rw [owed_cons, owed_append]
    omega

/-- Acts that are entered without a mutex owe none. -/
theorem owes_nothing {p : List (Task μ α)}
    (hp : ∀ t ∈ p, ∃ a : α, t = .act a ∧ guard a = none) :
    (∀ m, owed guard m p = 0) ∧ Releasing guard p := by
  induction p with
  | nil => exact ⟨fun _ => rfl, trivial⟩
  | cons t p ih =>
    obtain ⟨⟨a, rfl, ha⟩, hrest⟩ := List.forall_mem_cons.mp hp
    obtain ⟨howed, hreleasing⟩ := ih hrest
    have htop : ∀ m, owed guard m (.act a :: p) = 0 := by
      intro m
      rw [owed_cons, howed]
      simp [debt, ha]
    exact ⟨htop, fun m => (htop m).ge, hreleasing⟩

/-- A body that needs no mutex. -/
theorem Pays.plain {a : α} {p : List (Task μ α)} (ha : guard a = none)
    (hp : ∀ t ∈ p, ∃ b : α, t = .act b ∧ guard b = none) : Pays guard a p := by
  refine ⟨fun m => ?_, (owes_nothing hp).2⟩
  rw [(owes_nothing hp).1]
  simp [debt, ha]

/-- A body that takes a mutex and goes on with it. -/
theorem Pays.entry {a b : α} {n : μ} (ha : guard a = none) (hb : guard b = some n) :
    Pays guard a [.lock n, .act b] := by
  have hzero : ∀ m, owed guard m [.lock n, .act b] = 0 := by
    intro m
    by_cases hm : n = m <;> simp [debt, hb, hm]
  refine ⟨fun m => ?_, fun m => (hzero m).ge, fun m => ?_, trivial⟩
  · rw [hzero]
    simp [debt, ha]
  · by_cases hm : n = m <;> simp [debt, hb, hm]

/-- A body that releases the mutex its act was entered with. -/
theorem Pays.body {a : α} {n : μ} {p q : List (Task μ α)} (ha : guard a = some n)
    (hp : ∀ t ∈ p, ∃ b : α, t = .act b ∧ guard b = none)
    (hq : ∀ t ∈ q, ∃ b : α, t = .act b ∧ guard b = none) :
    Pays guard a (p ++ .unlock n :: q) := by
  have htail : ∀ m, owed guard m (.unlock n :: q) = if n = m then 1 else 0 := by
    intro m
    rw [owed_cons, (owes_nothing hq).1]
    simp [debt]
  constructor
  · intro m
    rw [owed_append, (owes_nothing hp).1, htail, zero_add]
    simp [debt, ha]
  · refine (owes_nothing hp).2.append ⟨fun m => ?_, (owes_nothing hq).2⟩
    rw [htail]
    split <;> omega

/-- What every body pays is paired. -/
theorem paired_of_pays (h : ∀ s a, Pays guard a (expand s a).2) : Paired guard expand where
  owed_eq s a := (h s a).owed_eq
  releasing s a := (h s a).releasing

/-- A popped act is replaced by what owes the same. -/
theorem Releasing.perform (hpaired : Paired guard expand) {s : σ} {t : Task μ α}
    {ts : List (Task μ α)} (h : Releasing guard (t :: ts)) :
    Releasing guard ((perform expand s t).2 ++ ts) := by
  cases t with
  | lock m => exact h.2
  | unlock m => exact h.2
  | act a => exact (hpaired.releasing s a).append h.2

/-- **A thread holds what its stack owes**, after every task. -/
theorem Settled.perform (hpaired : Paired guard expand) {s : σ} {t : Task μ α}
    {ts : List (Task μ α)} {held : List μ} (h : Settled guard held (t :: ts)) :
    Settled guard (t.holding held) ((perform expand s t).2 ++ ts) := by
  refine ⟨h.releasing.perform hpaired, fun m => ?_⟩
  have hcount := h.count_eq m
  rw [owed_cons] at hcount
  cases t with
  | lock n =>
    show ((n :: held).count m : Int) = owed guard m ([] ++ ts)
    rw [List.nil_append, List.count_cons]
    unfold debt at hcount
    by_cases hn : n = m <;> simp [hn] at hcount ⊢ <;> omega
  | unlock n =>
    show ((held.erase n).count m : Int) = owed guard m ([] ++ ts)
    rw [List.nil_append, List.count_erase]
    have hrest := h.releasing.2.owed_nonneg m
    unfold debt at hcount
    by_cases hn : n = m <;> simp [hn] at hcount ⊢ <;> omega
  | act a =>
    show (held.count m : Int) = owed guard m ((expand s a).2 ++ ts)
    rw [owed_append, hpaired.owed_eq, hcount]

/-- A call of an act that is entered without a mutex may be put on top of any stack. -/
theorem Settled.call {held : List μ} {ts : List (Task μ α)} {a : α} (h : Settled guard held ts)
    (ha : guard a = none) : Settled guard held (.act a :: ts) := by
  have howed : ∀ m, owed guard m (.act a :: ts) = owed guard m ts := by
    intro m
    rw [owed_cons, debt, ha]
    simp
  refine ⟨⟨fun m => ?_, h.releasing⟩, fun m => ?_⟩
  · rw [howed]
    exact h.releasing.owed_nonneg m
  · rw [howed, h.count_eq]

/-- A thread about to carry out an act holds the mutex that the act is entered with. -/
theorem Settled.mem_held_top {held : List μ} {ts : List (Task μ α)} {a : α} {m : μ}
    (h : Settled guard held (.act a :: ts)) (ha : guard a = some m) : m ∈ held := by
  have hcount := h.count_eq m
  have hrest := h.releasing.2.owed_nonneg m
  rw [owed_cons, debt, if_pos ha] at hcount
  rw [← List.count_pos_iff]
  omega

/-- A thread whose stack owes nothing holds nothing. -/
theorem Settled.held_eq_nil {held : List μ} {ts : List (Task μ α)} (h : Settled guard held ts)
    (howed : ∀ m, owed guard m ts = 0) : held = [] := by
  rw [List.eq_nil_iff_forall_not_mem]
  intro m hm
  have hcount := h.count_eq m
  have hpos := List.count_pos_iff.mpr hm
  rw [howed] at hcount
  omega

/-- A thread holds every mutex its stack owes. -/
theorem Settled.mem_held {held : List μ} {ts : List (Task μ α)} (h : Settled guard held ts)
    {m : μ} (howed : 0 < owed guard m ts) : m ∈ held := by
  have hcount := h.count_eq m
  rw [← List.count_pos_iff]
  omega

/-- Every thread stays settled. -/
theorem Threads.settled_step {ι : Type*} [DecidableEq ι] [Fintype ι] {c c' : Threads ι σ μ α}
    {i : ι} (hpaired : Paired guard expand) (hc : ∀ j, Settled guard (c.held j) (c.stack j))
    (h : c.step expand i = some c') : ∀ j, Settled guard (c'.held j) (c'.stack j) := by
  obtain ⟨t, ts, hpops⟩ := Threads.step_pops h
  have hsettled := hc i
  rw [hpops.stack] at hsettled
  exact hpops.forall_threads (P := fun _ p held => Settled guard held p)
    (hsettled.perform hpaired) fun j _ => hc j

end

end TunnelBore.Lib
