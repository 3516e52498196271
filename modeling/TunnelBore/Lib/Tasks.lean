import Mathlib.Algebra.BigOperators.Group.List.Basic
import Mathlib.Algebra.GroupWithZero.Nat

namespace TunnelBore.Lib

/-!
# Call stacks of tasks

Mutually recursive procedures over a shared state, written as a stack machine: a *task* is
something still to be done, carrying it out changes the state and pushes the tasks of the
body.  Taking and releasing a mutex are tasks of their own, so that the same program can be
run alone (`exec`, where a recursive mutex never blocks) and interleaved with others.

* `perform` carries out the top task;
* `exec` runs a stack to its end, on fuel; `Executes` is the relation it computes;
* `executes_append`, `Executes.invariant` and `Executes.stack_invariant` are the rules: stacks
  compose, what every task of a class keeps a stack of such tasks keeps, and an invariant may
  speak of the stack itself;
* `exec_eq_some_of_rank` is termination: a rank of the state plus the weights of the tasks
  that every task decreases is enough fuel;
* `observed` lets an observer keep notes of the acts.  It has the runs of the program observed
  and no others (`Executes.of_observed`, `Executes.exists_observed`).
-/

/-- An entry of a call stack: take or release a mutex, or carry out an act. -/
inductive Task (μ α : Type*)
  | lock (m : μ)
  | unlock (m : μ)
  | act (a : α)
  deriving DecidableEq, Repr

section
variable {σ μ α : Type*} (expand : σ → α → σ × List (Task μ α))

/-- Carry out one task with nobody else around: mutexes are free. -/
def perform (s : σ) : Task μ α → σ × List (Task μ α)
  | .lock _   => (s, [])
  | .unlock _ => (s, [])
  | .act a    => expand s a

/-- Run a stack from its top; `none` when the fuel runs out. -/
def exec : Nat → σ → List (Task μ α) → Option σ
  | _,     s, []      => some s
  | 0,     _, _ :: _  => none
  | n + 1, s, t :: ts => exec n (perform expand s t).1 ((perform expand s t).2 ++ ts)

/-- `Executes expand s ts s'`: the stack `ts` runs to its end from `s` and leaves `s'`. -/
inductive Executes : σ → List (Task μ α) → σ → Prop
  | nil (s : σ) : Executes s [] s
  | cons {s s' : σ} {t : Task μ α} {ts : List (Task μ α)}
      (h : Executes (perform expand s t).1 ((perform expand s t).2 ++ ts) s') :
      Executes s (t :: ts) s'

variable {expand}

@[simp] theorem executes_nil {s s' : σ} : Executes expand s [] s' ↔ s' = s := by
  constructor
  · intro h
    cases h
    rfl
  · rintro rfl
    exact .nil _

theorem executes_cons {s s' : σ} {t : Task μ α} {ts : List (Task μ α)} :
    Executes expand s (t :: ts) s' ↔
      Executes expand (perform expand s t).1 ((perform expand s t).2 ++ ts) s' := by
  constructor
  · intro h
    cases h with
    | cons h => exact h
  · exact .cons

@[simp] theorem executes_lock {s s' : σ} {m : μ} {ts : List (Task μ α)} :
    Executes expand s (.lock m :: ts) s' ↔ Executes expand s ts s' := executes_cons

@[simp] theorem executes_unlock {s s' : σ} {m : μ} {ts : List (Task μ α)} :
    Executes expand s (.unlock m :: ts) s' ↔ Executes expand s ts s' := executes_cons

theorem executes_act {s s' : σ} {a : α} {ts : List (Task μ α)} :
    Executes expand s (.act a :: ts) s' ↔
      Executes expand (expand s a).1 ((expand s a).2 ++ ts) s' := executes_cons

/-- Running `as ++ bs` is running `as` and then `bs`. -/
theorem executes_append {s s' : σ} {as bs : List (Task μ α)} :
    Executes expand s (as ++ bs) s' ↔
      ∃ u, Executes expand s as u ∧ Executes expand u bs s' := by
  constructor
  · intro h
    -- the induction is on the run; `as` shrinks and grows with the stack
    generalize hts : as ++ bs = ts at h
    induction h generalizing as with
    | nil s =>
      obtain ⟨rfl, rfl⟩ := List.append_eq_nil_iff.mp hts
      exact ⟨s, .nil s, .nil s⟩
    | @cons s s' t ts h ih =>
      cases as with
      | nil =>
        rw [List.nil_append] at hts
        exact ⟨s, .nil s, hts ▸ .cons h⟩
      | cons a as =>
        rw [List.cons_append, List.cons.injEq] at hts
        obtain ⟨rfl, rfl⟩ := hts
        obtain ⟨u, hu, hrest⟩ := ih (List.append_assoc _ _ _)
        exact ⟨u, .cons hu, hrest⟩
  · rintro ⟨u, has, hbs⟩
    induction has with
    | nil s => exact hbs
    | cons h ih =>
      rw [List.cons_append, executes_cons, ← List.append_assoc]
      exact ih hbs

/-- Running a stack is running its top to the end and then the rest. -/
theorem executes_top {s s' : σ} {t : Task μ α} {ts : List (Task μ α)} :
    Executes expand s (t :: ts) s' ↔
      ∃ u, Executes expand s [t] u ∧ Executes expand u ts s' := by
  rw [← List.singleton_append, executes_append]

/-- A stack has one outcome. -/
theorem Executes.unique {s u v : σ} {ts : List (Task μ α)} (hu : Executes expand s ts u)
    (hv : Executes expand s ts v) : u = v := by
  induction hu with
  | nil s => exact (executes_nil.mp hv).symm
  | cons _ ih => exact ih (executes_cons.mp hv)

/-- `exec` computes `Executes`. -/
theorem executes_of_exec {n : Nat} {s s' : σ} {ts : List (Task μ α)}
    (h : exec expand n s ts = some s') : Executes expand s ts s' := by
  induction n generalizing s ts with
  | zero =>
    cases ts with
    | nil => simpa [exec, eq_comm] using h
    | cons t ts => simp [exec] at h
  | succ n ih =>
    cases ts with
    | nil => simpa [exec, eq_comm] using h
    | cons t ts => exact .cons (ih h)

/-- **The invariant rule for stacks.**  If every task of the class `T` keeps `I` and pushes
    only tasks of `T`, then a stack of such tasks keeps `I`. -/
theorem Executes.invariant {I : σ → Prop} {T : Task μ α → Prop}
    (hstep : ∀ s t, I s → T t →
      I (perform expand s t).1 ∧ ∀ t' ∈ (perform expand s t).2, T t')
    {s s' : σ} {ts : List (Task μ α)} (h : Executes expand s ts s') (hs : I s)
    (hts : ∀ t ∈ ts, T t) : I s' := by
  induction h with
  | nil s => exact hs
  | cons _ ih =>
    obtain ⟨ht, hrest⟩ := List.forall_mem_cons.mp hts
    obtain ⟨hkeep, hpush⟩ := hstep _ _ hs ht
    exact ih hkeep (List.forall_mem_append.mpr ⟨hpush, hrest⟩)

/-- **The invariant rule for a state and its stack.**  What every pop of the stack keeps holds
    when the stack is empty. -/
theorem Executes.stack_invariant {J : σ → List (Task μ α) → Prop}
    (hstep : ∀ s t ts, J s (t :: ts) → J (perform expand s t).1 ((perform expand s t).2 ++ ts))
    {s s' : σ} {ts : List (Task μ α)} (h : Executes expand s ts s') (hJ : J s ts) : J s' [] := by
  induction h with
  | nil s => exact hJ
  | cons _ ih => exact ih (hstep _ _ _ hJ)

/-- **Termination.**  When every task decreases the rank of the state plus the weight of what
    is on the stack, that sum is enough fuel. -/
theorem exec_eq_some_of_rank {rank : σ → Nat} {weight : Task μ α → Nat}
    (hdecrease : ∀ s t, rank (perform expand s t).1 +
      ((perform expand s t).2.map weight).sum < rank s + weight t)
    {n : Nat} {s : σ} {ts : List (Task μ α)} (hn : rank s + (ts.map weight).sum ≤ n) :
    ∃ s', exec expand n s ts = some s' := by
  induction n generalizing s ts with
  | zero =>
    cases ts with
    | nil => exact ⟨s, rfl⟩
    | cons t ts =>
      have := hdecrease s t
      simp only [List.map_cons, List.sum_cons] at hn
      omega
  | succ n ih =>
    cases ts with
    | nil => exact ⟨s, rfl⟩
    | cons t ts =>
      have := hdecrease s t
      simp only [List.map_cons, List.sum_cons] at hn
      refine ih ?_
      rw [List.map_append, List.sum_append]
      omega

end

/-! ### Observers -/

section
variable {σ μ α ω : Type*} (expand : σ → α → σ × List (Task μ α)) (observe : σ → α → ω → ω)

/-- The acts of a program, with notes of them that the program does not look at. -/
def observed (c : σ × ω) (a : α) : (σ × ω) × List (Task μ α) :=
  (((expand c.1 a).1, observe c.1 a c.2), (expand c.1 a).2)

variable {expand observe}

/-- An observed task does what it does unobserved. -/
theorem perform_observed (c : σ × ω) (t : Task μ α) :
    (perform (observed expand observe) c t).1.1 = (perform expand c.1 t).1 ∧
      (perform (observed expand observe) c t).2 = (perform expand c.1 t).2 := by
  cases t with
  | lock m => exact ⟨rfl, rfl⟩
  | unlock m => exact ⟨rfl, rfl⟩
  | act a => exact ⟨rfl, rfl⟩

/-- What runs observed runs unobserved. -/
theorem Executes.of_observed {c c' : σ × ω} {ts : List (Task μ α)}
    (h : Executes (observed expand observe) c ts c') : Executes expand c.1 ts c'.1 := by
  induction h with
  | nil c => exact .nil c.1
  | @cons c c' t ts _ ih =>
    obtain ⟨hstate, hpushed⟩ := perform_observed c t
    rw [hstate, hpushed] at ih
    exact .cons ih

/-- What runs can be observed. -/
theorem Executes.exists_observed {s s' : σ} {ts : List (Task μ α)} (h : Executes expand s ts s')
    (o : ω) : ∃ o', Executes (observed expand observe) (s, o) ts (s', o') := by
  induction h generalizing o with
  | nil s => exact ⟨o, .nil _⟩
  | @cons s s' t ts _ ih =>
    obtain ⟨o', hrun⟩ := ih (perform (observed expand observe) (s, o) t).1.2
    obtain ⟨hstate, hpushed⟩ := perform_observed (s, o) t
    refine ⟨o', .cons ?_⟩
    rw [hpushed, show (perform (observed expand observe) (s, o) t).1 =
      ((perform expand s t).1, (perform (observed expand observe) (s, o) t).1.2) from
        Prod.ext hstate rfl]
    exact hrun

end

end TunnelBore.Lib
