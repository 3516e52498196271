import TunnelBore.Lib.Run

namespace TunnelBore.Lib

/-!
# What cannot be avoided

`Inevitable step G Q s`: whichever of the enabled steps in the class `G` is taken next, and again
next, a state with `Q` is reached.  There is always such a step before that, and no run of them
goes on for ever without it.

* `inevitable_of_decreasing` — the rule: steps of the class keep an invariant and decrease a
  measure, and where none is enabled `Q` holds;
* `Inevitable.exists_run` — so some run of the class gets there.
-/

variable {σ α : Type*} {step : σ → α → Option σ} {G : σ → α → Prop} {Q : σ → Prop}

/-- Every way to go on with steps in `G` comes to a state with `Q`. -/
inductive Inevitable (step : σ → α → Option σ) (G : σ → α → Prop) (Q : σ → Prop) : σ → Prop
  | here {s : σ} (h : Q s) : Inevitable step G Q s
  | later {s : σ} (hsome : ∃ a t, G s a ∧ step s a = some t)
      (hall : ∀ a t, G s a → step s a = some t → Inevitable step G Q t) : Inevitable step G Q s

/-- **The rule of the measure.** -/
theorem inevitable_of_decreasing {I : σ → Prop} (μ : σ → Nat)
    (hstep : ∀ s a t, I s → G s a → step s a = some t → I t ∧ μ t < μ s)
    (hprogress : ∀ s, I s → Q s ∨ ∃ a t, G s a ∧ step s a = some t) {s : σ} (hs : I s) :
    Inevitable step G Q s := by
  induction hn : μ s using Nat.strongRecOn generalizing s with
  | _ n ih =>
    rcases hprogress s hs with hdone | hsome
    · exact .here hdone
    · refine .later hsome fun a t hG ht => ?_
      obtain ⟨hIt, hless⟩ := hstep s a t hs hG ht
      exact ih (μ t) (hn ▸ hless) hIt rfl

/-- What is inevitable is possible. -/
theorem Inevitable.exists_run {s : σ} (h : Inevitable step G Q s) :
    ∃ as t, Along step G s as ∧ run step s as = some t ∧ Q t := by
  induction h with
  | here h => exact ⟨[], _, trivial, rfl, h⟩
  | later hsome _ ih =>
    obtain ⟨a, t, hG, ht⟩ := hsome
    obtain ⟨as, u, halong, hrun, hu⟩ := ih a t hG ht
    refine ⟨a :: as, u, ⟨hG, fun v hv => ?_⟩, ?_, hu⟩
    · obtain rfl : t = v := Option.some.inj (ht.symm.trans hv)
      exact halong
    · rw [run_cons, ht]
      exact hrun

end TunnelBore.Lib
