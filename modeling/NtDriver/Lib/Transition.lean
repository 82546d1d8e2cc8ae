import Mathlib.Tactic.TypeStar

/-!
# Labelled transition systems

A system is a set of initial states and a labelled step relation.  Safety is
proved by the invariant rule.  Conditions on the steps of a run are expressed
by restricting the system to the steps that meet them.
-/

namespace NtDriver.Transition

variable {σ ε : Type*}

structure System (σ ε : Type*) where
  Init : σ → Prop
  Step : σ → ε → σ → Prop

namespace System

variable {S : System σ ε}

/-- `S.Run s es t`: the steps `es` lead from `s` to `t`. -/
inductive Run (S : System σ ε) (s : σ) : List ε → σ → Prop where
  | nil : Run S s [] s
  | snoc {t u : σ} {es : List ε} {e : ε} :
      Run S s es t → S.Step t e u → Run S s (es ++ [e]) u

def Reachable (S : System σ ε) (t : σ) : Prop :=
  ∃ s es, S.Init s ∧ S.Run s es t

theorem Reachable.init {s : σ} (h : S.Init s) : S.Reachable s :=
  ⟨s, [], h, .nil⟩

theorem Reachable.step {s t : σ} {e : ε} (h : S.Reachable s) (he : S.Step s e t) :
    S.Reachable t := by
  obtain ⟨s₀, es, hinit, hrun⟩ := h
  exact ⟨s₀, es ++ [e], hinit, hrun.snoc he⟩

theorem Run.invariant {I : σ → Prop}
    (hstep : ∀ s e t, I s → S.Step s e t → I t) {s t : σ} {es : List ε}
    (hrun : S.Run s es t) (hs : I s) : I t := by
  induction hrun with
  | nil => exact hs
  | snoc _ he ih => exact hstep _ _ _ ih he

theorem Reachable.invariant {I : σ → Prop} (hinit : ∀ s, S.Init s → I s)
    (hstep : ∀ s e t, I s → S.Step s e t → I t) {t : σ} (h : S.Reachable t) : I t := by
  obtain ⟨s, es, hs, hrun⟩ := h
  exact hrun.invariant hstep (hinit s hs)

/-! ## Restricted runs -/

/-- The runs of `S` in which every step meets `G`. -/
def restrict (S : System σ ε) (G : σ → ε → Prop) : System σ ε where
  Init := S.Init
  Step s e t := S.Step s e t ∧ G s e

theorem Reachable.of_restrict {G : σ → ε → Prop} {t : σ} (h : (S.restrict G).Reachable t) :
    S.Reachable t := by
  obtain ⟨s, es, hs, hrun⟩ := h
  refine ⟨s, es, hs, ?_⟩
  induction hrun with
  | nil => exact .nil
  | snoc _ he ih => exact ih.snoc he.1

section Restricted

variable {G : σ → ε → Prop} {s t : σ} {e : ε}

theorem Reachable.restrict_step (h : (S.restrict G).Reachable s) (hstep : S.Step s e t)
    (hG : G s e) : (S.restrict G).Reachable t :=
  h.step ⟨hstep, hG⟩

/-- A restricted run need only preserve the invariant in the steps that it takes. -/
theorem Reachable.restrict_invariant {I : σ → Prop} (hinit : ∀ s, S.Init s → I s)
    (hstep : ∀ s e t, I s → S.Step s e t → G s e → I t) (h : (S.restrict G).Reachable t) :
    I t := by
  apply Reachable.invariant (S := S.restrict G) hinit _ h
  rintro s e t hs ⟨he, hG⟩
  exact hstep s e t hs he hG

end Restricted

/-- A run meets a condition at every step, or it has passed a step that breaks
the condition and stays marked by it. -/
theorem Run.restrict_or {I Marked : σ → Prop} {G : σ → ε → Prop}
    (hstep : ∀ s e t, I s → S.Step s e t → I t)
    (hbreak : ∀ s e t, I s → S.Step s e t → ¬ G s e → Marked t)
    (hkeep : ∀ s e t, I s → Marked s → S.Step s e t → Marked t) {s t : σ} {es : List ε}
    (hrun : S.Run s es t) (hs : I s) : (S.restrict G).Run s es t ∨ Marked t := by
  induction hrun with
  | nil => exact Or.inl .nil
  | @snoc t u es e hrun he ih =>
      have ht : I t := hrun.invariant hstep hs
      rcases ih with ih | ih
      · by_cases hG : G t e
        · exact Or.inl (ih.snoc ⟨he, hG⟩)
        · exact Or.inr (hbreak t e u ht he hG)
      · exact Or.inr (hkeep t e u ht ih he)

/-! ## Systems given by a step function -/

def ofNext (Init : σ → Prop) (next : σ → ε → Option σ) : System σ ε where
  Init := Init
  Step s e t := next s e = some t

def exec (next : σ → ε → Option σ) (s : σ) (es : List ε) : Option σ := es.foldlM next s

@[simp] theorem exec_nil (next : σ → ε → Option σ) (s : σ) : exec next s [] = some s := rfl

@[simp] theorem exec_cons (next : σ → ε → Option σ) (s : σ) (e : ε) (es : List ε) :
    exec next s (e :: es) = (next s e).bind fun t ↦ exec next t es := rfl

theorem exec_append (next : σ → ε → Option σ) (s : σ) (es fs : List ε) :
    exec next s (es ++ fs) = (exec next s es).bind fun t ↦ exec next t fs :=
  List.foldlM_append

section Exec

variable {Init : σ → Prop} {next : σ → ε → Option σ} {s t u : σ} {es fs : List ε}

theorem Run.exec (h : (ofNext Init next).Run s es t) (hrun : exec next t fs = some u) :
    (ofNext Init next).Run s (es ++ fs) u := by
  induction fs generalizing es t with
  | nil =>
      obtain rfl : t = u := by simpa using hrun
      simpa using h
  | cons f fs ih =>
      obtain ⟨v, hv, hrest⟩ := Option.bind_eq_some_iff.mp hrun
      have hstep : (ofNext Init next).Run s (es ++ [f]) v := h.snoc hv
      simpa using ih hstep hrest

theorem Run.of_exec (hrun : System.exec next s es = some t) : (ofNext Init next).Run s es t :=
  Run.nil.exec hrun

theorem Reachable.exec (hs : (ofNext Init next).Reachable s)
    (hrun : exec next s es = some t) : (ofNext Init next).Reachable t := by
  obtain ⟨s₀, es₀, hinit, h⟩ := hs
  exact ⟨s₀, es₀ ++ es, hinit, h.exec hrun⟩

theorem exec_of_run (h : (ofNext Init next).Run s es t) : System.exec next s es = some t := by
  induction h with
  | nil => rfl
  | @snoc _ u _ e _ he ih =>
      have hnext : next _ e = some u := he
      simp [exec_append, ih, hnext]

/-- What the steps of a run put out, each in the state that it is made in. -/
def outputs {δ : Type*} (next : σ → ε → Option σ) (out : σ → ε → Option δ) : σ → List ε → List δ
  | _, [] => []
  | s, e :: es => (out s e).toList ++ (next s e).elim [] fun t ↦ outputs next out t es

theorem outputs_snoc {δ : Type*} (out : σ → ε → Option δ) (h : System.exec next s es = some t)
    (e : ε) :
    outputs next out s (es ++ [e]) = outputs next out s es ++ (out t e).toList := by
  induction es generalizing s with
  | nil =>
      obtain rfl : s = t := by simpa using h
      cases hnext : next s e <;> simp [outputs, hnext]
  | cons f es ih =>
      obtain ⟨u, hu, hrest⟩ := Option.bind_eq_some_iff.mp h
      simp [outputs, hu, ih hrest]

def guarded (next : σ → ε → Option σ) (G : σ → ε → Prop) [∀ s e, Decidable (G s e)]
    (s : σ) (e : ε) : Option σ :=
  if G s e then next s e else none

theorem restrict_ofNext (G : σ → ε → Prop) [∀ s e, Decidable (G s e)] :
    (ofNext Init next).restrict G = ofNext Init (guarded next G) := by
  simp only [restrict, ofNext, guarded, System.mk.injEq, true_and]
  funext s e t
  by_cases hG : G s e <;> simp [hG]

end Exec

end System

/-! ## Sequences of steps that cannot fail -/

/-- `P` holds of every step of a sequence, in the state that the step is made in. -/
def Each (next : σ → ε → σ) (P : σ → ε → Prop) : σ → List ε → Prop
  | _, [] => True
  | s, e :: es => P s e ∧ Each next P (next s e) es

theorem each_iff_each {next : σ → ε → σ} {P Q : σ → ε → Prop} (h : ∀ s e, P s e ↔ Q s e)
    (s : σ) (es : List ε) : Each next P s es ↔ Each next Q s es := by
  induction es generalizing s with
  | nil => exact Iff.rfl
  | cons e es ih => exact and_congr (h s e) (ih (next s e))

theorem each_forall_iff {next : σ → ε → σ} {P : ε → Prop} (s : σ) (es : List ε) :
    Each next (fun _ e ↦ P e) s es ↔ ∀ e ∈ es, P e := by
  induction es generalizing s with
  | nil => simp [Each]
  | cons e es ih => simp [Each, ih]

end NtDriver.Transition
