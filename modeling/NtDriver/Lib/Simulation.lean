import NtDriver.Lib.Transition
import Mathlib.Data.Nat.Init

/-!
# Forward simulation

A run of a concrete system is followed by a run of an abstract one.  The relation
between the two may speak of the steps made so far on either side, so that it can
say which abstract steps stand for which concrete ones.
-/

namespace NtDriver.Transition.System

variable {σ τ ε δ : Type*} {C : System σ ε} {A : System τ δ}

theorem Run.append {s t u : σ} {es fs : List ε} (h : C.Run s es t) (h' : C.Run t fs u) :
    C.Run s (es ++ fs) u := by
  induction h' with
  | nil => simpa using h
  | snoc _ he ih =>
      rw [← List.append_assoc]
      exact ih.snoc he

theorem Run.single {s t : σ} {e : ε} (h : C.Step s e t) : C.Run s [e] t :=
  Run.nil.snoc h

theorem Run.of_restrict {G : σ → ε → Prop} {s t : σ} {es : List ε}
    (h : (C.restrict G).Run s es t) : C.Run s es t := by
  induction h with
  | nil => exact .nil
  | snoc _ he ih => exact ih.snoc he.1

theorem Reachable.run {s t : σ} {es : List ε} (h : C.Reachable s) (hrun : C.Run s es t) :
    C.Reachable t := by
  obtain ⟨s₀, es₀, hinit, h₀⟩ := h
  exact ⟨s₀, es₀ ++ es, hinit, h₀.append hrun⟩

/-- `R s es a ds`: the concrete steps `es` have led to `s`, the abstract steps `ds` to `a`. -/
theorem Run.simulate {R : σ → List ε → τ → List δ → Prop}
    (hstep : ∀ s es e t a ds, R s es a ds → C.Step s e t →
      ∃ fs b, A.Run a fs b ∧ R t (es ++ [e]) b (ds ++ fs))
    {s t : σ} {es : List ε} (hrun : C.Run s es t) {a : τ} (hs : R s [] a []) :
    ∃ ds b, A.Run a ds b ∧ R t es b ds := by
  induction hrun with
  | nil => exact ⟨[], a, .nil, hs⟩
  | snoc _ he ih =>
      obtain ⟨ds, b, hds, hR⟩ := ih
      obtain ⟨fs, c, hfs, hR'⟩ := hstep _ _ _ _ _ _ hR he
      exact ⟨ds ++ fs, c, hds.append hfs, hR'⟩

end NtDriver.Transition.System
