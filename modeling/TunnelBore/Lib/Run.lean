import Mathlib.Data.List.Basic
import Mathlib.Logic.Relation

namespace TunnelBore.Lib

/-!
# Runs of an executable step function

A component is a partial step function `σ → α → Option σ`: `step s a = some t` says that
the event `a` may happen in `s` and leads to `t`, `none` that it may not.

* `run` executes a list of events;
* `Along step G s as` says that every step the run takes meets the guard `G`;
* `run_invariant` is the one induction over runs: what holds at the start and is kept by
  every step that meets the guard holds in every state such a run reaches;
* `run_accumulates` is the rule for what a run adds to a list;
* `run_exact` is the rule for a guard that is also necessary: the states reached along a run all
  have the invariant exactly when every step of it meets the guard;
* `run_lockstep` is the same for two functions that have to run alike;
* `along_exact` compares two guards along a run, with an invariant that needs one of them;
* `run_simulates` is the counterpart of `run_invariant` for two levels: a relation to an abstract
  state that every step keeps, moving the abstract state along, relates the end of every run to
  some abstract state that can be reached.
-/

variable {σ α : Type*} {step : σ → α → Option σ} {G : σ → α → Prop}

/-- Execute the events from left to right; `none` when one of them is not enabled. -/
def run (step : σ → α → Option σ) : σ → List α → Option σ
  | s, []      => some s
  | s, a :: as => (step s a).bind fun t => run step t as

/-- Every step taken along `as` from `s` meets the guard `G`. -/
def Along (step : σ → α → Option σ) (G : σ → α → Prop) : σ → List α → Prop
  | _, []      => True
  | s, a :: as => G s a ∧ ∀ t, step s a = some t → Along step G t as

@[simp] theorem run_nil (s : σ) : run step s [] = some s := rfl

@[simp] theorem run_cons (s : σ) (a : α) (as : List α) :
    run step s (a :: as) = (step s a).bind fun t => run step t as := rfl

@[simp] theorem along_nil (s : σ) : Along step G s [] := trivial

@[simp] theorem along_cons (s : σ) (a : α) (as : List α) :
    Along step G s (a :: as) ↔ G s a ∧ ∀ t, step s a = some t → Along step G t as := Iff.rfl

/-- A guard that can be checked can be checked along a run. -/
instance decidableAlong [∀ s a, Decidable (G s a)] :
    ∀ (s : σ) (as : List α), Decidable (Along step G s as)
  | _, []      => isTrue trivial
  | s, a :: as =>
    match h : step s a with
    | none   => decidable_of_iff (G s a) (by simp [along_cons, h])
    | some t =>
      haveI := decidableAlong t as
      decidable_of_iff (G s a ∧ Along step G t as) (by simp [along_cons, h])

/-- A run over `as ++ bs` is a run over `as` followed by a run over `bs`. -/
theorem run_append (s : σ) (as bs : List α) :
    run step s (as ++ bs) = (run step s as).bind fun t => run step t bs := by
  induction as generalizing s with
  | nil => rfl
  | cons a as ih =>
    cases h : step s a with
    | none => simp [h]
    | some t => simp [h, ih]

/-- What holds along a run holds along the rest of it. -/
theorem Along.of_run {s t : σ} {as bs : List α} (h : Along step G s (as ++ bs))
    (hrun : run step s as = some t) : Along step G t bs := by
  induction as generalizing s with
  | nil =>
    obtain rfl : s = t := by simpa using hrun
    exact h
  | cons a as ih =>
    obtain ⟨u, hu, htail⟩ := Option.bind_eq_some_iff.mp hrun
    exact ih (h.2 u hu) htail

/-- A guard that always holds restricts nothing. -/
theorem along_of_forall (h : ∀ s a, G s a) (s : σ) (as : List α) : Along step G s as := by
  induction as generalizing s with
  | nil => trivial
  | cons a as ih => exact ⟨h s a, fun t _ => ih t⟩

/-- A guard may be weakened. -/
theorem Along.mono {G' : σ → α → Prop} (hG : ∀ s a, G s a → G' s a) {s : σ} {as : List α}
    (h : Along step G s as) : Along step G' s as := by
  induction as generalizing s with
  | nil => trivial
  | cons a as ih => exact ⟨hG s a h.1, fun t ht => ih (h.2 t ht)⟩

/-- Along a run, a guard on the events alone is a condition on each of them. -/
theorem along_iff_forall {P : α → Prop} {s t : σ} {as : List α} (hrun : run step s as = some t) :
    Along step (fun _ a => P a) s as ↔ ∀ a ∈ as, P a := by
  induction as generalizing s with
  | nil => simp
  | cons a as ih =>
    obtain ⟨u, hu, htail⟩ := Option.bind_eq_some_iff.mp hrun
    rw [along_cons, List.forall_mem_cons]
    refine and_congr_right fun _ => ?_
    rw [← ih htail]
    refine ⟨fun h => h u hu, fun h v hv => ?_⟩
    obtain rfl : u = v := Option.some.inj (hu.symm.trans hv)
    exact h

/-- Two guards that say the same of every state with an invariant say the same of a run. -/
theorem along_congr {G' : σ → α → Prop} {I : σ → Prop}
    (hstep : ∀ s a t, I s → step s a = some t → I t) (hG : ∀ s a, I s → (G s a ↔ G' s a))
    {s : σ} (hs : I s) (as : List α) : Along step G s as ↔ Along step G' s as := by
  induction as generalizing s with
  | nil => exact Iff.rfl
  | cons a as ih =>
    rw [along_cons, along_cons, hG s a hs]
    refine and_congr_right fun _ => ?_
    exact forall_congr' fun t => imp_congr_right fun ht => ih (hstep s a t hs ht)

/-- Two guards that say the same of every step from a state with an invariant, which the steps that
    meet one of them keep, say the same of a run. -/
theorem along_exact {G' : σ → α → Prop} {I : σ → Prop}
    (hstep : ∀ s a t, I s → G' s a → step s a = some t → I t)
    (hG : ∀ s a t, I s → step s a = some t → (G s a ↔ G' s a)) {s t : σ} (hs : I s)
    {as : List α} (hrun : run step s as = some t) : Along step G s as ↔ Along step G' s as := by
  induction as generalizing s with
  | nil => exact Iff.rfl
  | cons a as ih =>
    obtain ⟨u, hu, htail⟩ := Option.bind_eq_some_iff.mp hrun
    rw [along_cons, along_cons, hG s a u hs hu]
    refine and_congr_right fun hfirst => forall₂_congr fun v hv => ?_
    obtain rfl : u = v := Option.some.inj (hu.symm.trans hv)
    exact ih (hstep s a u hs hfirst hu) htail

/-- A guard that an invariant implies holds along every run. -/
theorem along_of_invariant {I : σ → Prop} (hstep : ∀ s a t, I s → step s a = some t → I t)
    (hG : ∀ s a, I s → G s a) {s : σ} (hs : I s) (as : List α) : Along step G s as := by
  induction as generalizing s with
  | nil => trivial
  | cons a as ih => exact ⟨hG s a hs, fun t ht => ih (hstep s a t hs ht)⟩

/-- **The invariant rule, with a guard.**  An invariant of the start state that every
    guarded step keeps holds at the end of every run whose steps meet the guard. -/
theorem run_invariant {I : σ → Prop}
    (hstep : ∀ s a t, I s → G s a → step s a = some t → I t) {s t : σ} {as : List α}
    (hs : I s) (hG : Along step G s as) (hrun : run step s as = some t) : I t := by
  induction as generalizing s with
  | nil =>
    obtain rfl : s = t := by simpa using hrun
    exact hs
  | cons a as ih =>
    cases ha : step s a with
    | none => simp [ha] at hrun
    | some u =>
      simp only [run_cons, ha, Option.bind_some] at hrun
      exact ih (hstep s a u hs hG.1 ha) (hG.2 u ha) hrun

/-- **The invariant rule.**  The same without a guard. -/
theorem run_preserves {I : σ → Prop} (hstep : ∀ s a t, I s → step s a = some t → I t)
    {s t : σ} {as : List α} (hs : I s) (hrun : run step s as = some t) : I t :=
  run_invariant (G := fun _ _ => True) (fun s a u h _ => hstep s a u h) hs
    (along_of_forall (fun _ _ => trivial) s as) hrun

/-- **The accumulation rule.**  What every event adds to a list, a run adds event by event. -/
theorem run_accumulates {β : Type*} {I : σ → Prop} {f : σ → List β} {g : α → List β}
    (hstep : ∀ s a t, I s → step s a = some t → I t ∧ f t = f s ++ g a) {s t : σ} {as : List α}
    (hs : I s) (hrun : run step s as = some t) : f t = f s ++ as.flatMap g := by
  induction as generalizing s with
  | nil =>
    obtain rfl : s = t := by simpa using hrun
    simp
  | cons a as ih =>
    obtain ⟨u, hu, htail⟩ := Option.bind_eq_some_iff.mp hrun
    obtain ⟨hIu, hadded⟩ := hstep s a u hs hu
    rw [ih hIu htail, hadded, List.flatMap_cons, List.append_assoc]

/-- **The exact rule.**  If a step of a class `A` from a state with the invariant keeps it exactly
    when it meets the guard, then a run of such steps has the invariant in every state it
    reaches exactly when all of them meet the guard. -/
theorem run_exact {I : σ → Prop} {A : α → Prop}
    (hstep : ∀ s a t, I s → A a → step s a = some t → (I t ↔ G s a)) {s t : σ} {as : List α}
    (hs : I s) (hA : ∀ a ∈ as, A a) (hrun : run step s as = some t) :
    (∀ k u, run step s (as.take k) = some u → I u) ↔ Along step G s as := by
  induction as generalizing s with
  | nil =>
    refine ⟨fun _ => trivial, fun _ k u hu => ?_⟩
    obtain rfl : s = u := by simpa using hu
    exact hs
  | cons a as ih =>
    obtain ⟨ha, hrest⟩ := List.forall_mem_cons.mp hA
    obtain ⟨v, hv, htail⟩ := Option.bind_eq_some_iff.mp hrun
    have hfirst := hstep s a v hs ha hv
    constructor
    · intro hall
      have hIv : I v := hall 1 v (by simp [hv])
      refine ⟨hfirst.mp hIv, fun w hw => ?_⟩
      obtain rfl : v = w := Option.some.inj (hv.symm.trans hw)
      refine (ih hIv hrest htail).mp fun k u hu => hall (k + 1) u ?_
      rw [List.take_succ_cons, run_cons, hv]
      exact hu
    · rintro ⟨hG, hGs⟩ k u hu
      have hIv : I v := hfirst.mpr hG
      cases k with
      | zero =>
        obtain rfl : s = u := by simpa using hu
        exact hs
      | succ k =>
        rw [List.take_succ_cons, run_cons, hv] at hu
        exact (ih hIv hrest htail).mpr (hGs v hv) k u hu

/-- **The lockstep rule.**  If a step of one function and the step of another one from the image
    have the same outcome exactly when the second one meets the guard, then the two run alike
    exactly when every step of the second one meets it. -/
theorem run_lockstep {β : Type*} {f : σ → β} {step' : β → α → Option β} {G : β → α → Prop}
    (hstep : ∀ s a, (step s a).map f = step' (f s) a ↔ G (f s) a) (s : σ) (as : List α) :
    (∀ k, (run step s (as.take k)).map f = run step' (f s) (as.take k)) ↔
      Along step' G (f s) as := by
  induction as generalizing s with
  | nil => exact iff_of_true (fun k => by simp) trivial
  | cons a as ih =>
    rw [along_cons, ← hstep s a]
    constructor
    · intro hall
      have hfirst : (step s a).map f = step' (f s) a := by simpa using hall 1
      refine ⟨hfirst, fun u hu => ?_⟩
      -- the second step comes from one of the first function
      rw [← hfirst] at hu
      obtain ⟨t, ht, rfl⟩ := Option.map_eq_some_iff.mp hu
      refine (ih t).mp fun k => ?_
      have hlater := hall (k + 1)
      rw [List.take_succ_cons, run_cons, run_cons, ← hfirst, ht] at hlater
      exact hlater
    · rintro ⟨hfirst, hrest⟩ k
      cases k with
      | zero => rfl
      | succ k =>
        rw [List.take_succ_cons, run_cons, run_cons, ← hfirst]
        cases ht : step s a with
        | none => rfl
        | some t =>
          rw [ht] at hfirst
          exact (ih t).mpr (hrest (f t) hfirst.symm) k

/-- **The simulation rule.**  If every step is matched by abstract moves, so is every run. -/
theorem run_simulates {β : Type*} {T : β → β → Prop} {R : σ → β → Prop}
    (hstep : ∀ s b a t, R s b → step s a = some t → ∃ c, Relation.ReflTransGen T b c ∧ R t c)
    {s t : σ} {b : β} {as : List α} (hs : R s b) (hrun : run step s as = some t) :
    ∃ c, Relation.ReflTransGen T b c ∧ R t c := by
  refine run_preserves (I := fun s => ∃ c, Relation.ReflTransGen T b c ∧ R s c) ?_
    ⟨b, .refl, hs⟩ hrun
  rintro s a t ⟨c, hbc, hc⟩ ha
  obtain ⟨d, hcd, hd⟩ := hstep s c a t hc ha
  exact ⟨d, hbc.trans hcd, hd⟩

end TunnelBore.Lib
