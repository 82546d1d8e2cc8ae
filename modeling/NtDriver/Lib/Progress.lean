import NtDriver.Lib.Transition
import Mathlib.Data.Nat.Init

/-!
# States that cannot be avoided

A set of states is entered within `n` steps when no run gets stuck ahead of it and
every run of `n` steps passes through it.  The rule is a measure that each step ahead
of the set brings down.
-/

namespace NtDriver.Transition.System

variable {σ ε : Type*}

inductive EndsWithin (next : σ → ε → Option σ) (Done : σ → Prop) : ℕ → σ → Prop where
  | done {n : ℕ} {s : σ} (h : Done s) : EndsWithin next Done n s
  | step {n : ℕ} {s : σ} (hprogress : ∃ e t, next s e = some t)
      (hall : ∀ e t, next s e = some t → EndsWithin next Done n t) :
      EndsWithin next Done (n + 1) s

section EndsWithin

variable {next : σ → ε → Option σ} {Done : σ → Prop} {m n : ℕ} {s : σ}

theorem EndsWithin.mono (h : EndsWithin next Done m s) (hmn : m ≤ n) :
    EndsWithin next Done n s := by
  induction h generalizing n with
  | done h => exact .done h
  | step hprogress _ ih =>
      cases n with
      | zero => exact absurd hmn (Nat.not_succ_le_zero _)
      | succ n =>
          refine .step hprogress fun e t hstep ↦ ?_
          exact ih e t hstep (Nat.le_of_succ_le_succ hmn)

/-- Ahead of `Done`, some step is possible and each step brings the measure down. -/
theorem endsWithin_of_measure (I : σ → Prop) (measure : σ → ℕ)
    (hprogress : ∀ s, I s → ¬ Done s → ∃ e t, next s e = some t)
    (hstep : ∀ s e t, I s → ¬ Done s → next s e = some t → Done t ∨ (I t ∧ measure t < measure s))
    (hs : I s) : EndsWithin next Done (measure s + 1) s := by
  induction hn : measure s using Nat.strong_induction_on generalizing s with
  | h n ih =>
      by_cases hdone : Done s
      · exact .done hdone
      · refine .step (hprogress s hs hdone) fun e t hnext ↦ ?_
        rcases hstep s e t hs hdone hnext with ht | ⟨ht, hlt⟩
        · exact .done ht
        · exact (ih _ (hn ▸ hlt) ht rfl).mono (hn ▸ hlt)

/-- A run that can always go on ahead of `Done` has no bound. -/
theorem not_endsWithin_of_lingers (L : σ → Prop) (hdone : ∀ s, L s → ¬ Done s)
    (hstep : ∀ s, L s → ∃ e t, next s e = some t ∧ L t) (hs : L s) :
    ¬ EndsWithin next Done n s := by
  intro h
  induction h with
  | done h => exact hdone _ hs h
  | step _ _ ih =>
      obtain ⟨e, t, hnext, ht⟩ := hstep _ hs
      exact ih e t hnext ht

end EndsWithin

end NtDriver.Transition.System
