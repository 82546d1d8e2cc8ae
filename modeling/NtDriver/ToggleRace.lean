import NtDriver.Lib.Transition
import NtDriver.ProcNotify
import Mathlib.Logic.Function.Basic

/-!
# Concurrent enable and disable commands

Any number of commands run `DrvInitializeProcNotify` and
`DrvUninitializeProcNotify` at once, one atomic step at a time: the read of the
flag, the kernel call, the write of the flag.  Nothing orders the call of one
command against the write of another.
-/

namespace NtDriver.ToggleRace

open Transition ProcNotify

inductive Pc where
  | idle
  | initRead
  | initCall
  | initWrite
  | uninitRead
  | uninitCall
  | uninitWrite
  deriving DecidableEq

structure State where
  notify : ProcNotify
  pc : ℕ → Pc

/-- What a command may do; a step brings the kernel's answer, should it be the call. -/
inductive Action where
  | startInit
  | startUninit
  | step (psSet : NtStatus)

def State.at (s : State) (i : ℕ) (pc : Pc) : State :=
  { s with pc := Function.update s.pc i pc }

def stepAt (s : State) (i : ℕ) (psSet : NtStatus) : Option State :=
  match s.pc i with
  | .idle => none
  | .initRead =>
      some (s.at i (if s.notify.gProcessNotifyRegistered then .idle else .initCall))
  | .initCall =>
      if PsSetAllows false psSet s.notify then
        some ({ s with notify := psSetCreateProcessNotifyRoutineEx false psSet s.notify }.at i
          (if ntSuccess psSet then .initWrite else .idle))
      else none
  | .initWrite =>
      some ({ s with notify.gProcessNotifyRegistered := true }.at i .idle)
  | .uninitRead =>
      some (s.at i (if s.notify.gProcessNotifyRegistered then .uninitCall else .idle))
  | .uninitCall =>
      if PsSetAllows true psSet s.notify then
        some ({ s with notify := psSetCreateProcessNotifyRoutineEx true psSet s.notify }.at i
          .uninitWrite)
      else none
  | .uninitWrite =>
      some ({ s with notify.gProcessNotifyRegistered := false }.at i .idle)

def next (s : State) : ℕ × Action → Option State
  | (i, .startInit) => if s.pc i = .idle then some (s.at i .initRead) else none
  | (i, .startUninit) => if s.pc i = .idle then some (s.at i .uninitRead) else none
  | (i, .step psSet) => stepAt s i psSet

def initialState : State := ⟨ProcNotify.initial, fun _ ↦ .idle⟩

def toggles : System State (ℕ × Action) := .ofNext (· = initialState) next

def Quiescent (s : State) : Prop := ∀ i, s.pc i = .idle

/-! ## One step -/

def Writing : Pc → Prop
  | .initWrite | .uninitWrite => True
  | _ => False

@[simp] theorem at_notify (s : State) (i : ℕ) (pc : Pc) : (s.at i pc).notify = s.notify := rfl

@[simp] theorem at_pc_self (s : State) (i : ℕ) (pc : Pc) : (s.at i pc).pc i = pc :=
  Function.update_self ..

theorem at_pc_ne (s : State) {i j : ℕ} (pc : Pc) (h : j ≠ i) : (s.at i pc).pc j = s.pc j :=
  Function.update_of_ne h ..

/-- A step either leaves the record alone, or calls the kernel and then owes a
write, or pays the write it owed. -/
theorem next_cases {s t : State} {i : ℕ} {a : Action} (h : next s (i, a) = some t) :
    (¬ Writing (s.pc i) ∧ ∃ pc, ¬ Writing pc ∧ t = s.at i pc) ∨
    (¬ Writing (s.pc i) ∧ ∃ n pc, Writing pc ∧ t = { s with notify := n }.at i pc) ∨
    (s.pc i = .initWrite ∧
      t = { s with notify.gProcessNotifyRegistered := true }.at i .idle) ∨
    (s.pc i = .uninitWrite ∧
      t = { s with notify.gProcessNotifyRegistered := false }.at i .idle) := by
  cases a with
  | startInit =>
      obtain ⟨hidle, rfl⟩ : s.pc i = .idle ∧ s.at i .initRead = t := by simpa [next] using h
      exact Or.inl ⟨by simp [hidle, Writing], .initRead, by simp [Writing], rfl⟩
  | startUninit =>
      obtain ⟨hidle, rfl⟩ : s.pc i = .idle ∧ s.at i .uninitRead = t := by
        simpa [next] using h
      exact Or.inl ⟨by simp [hidle, Writing], .uninitRead, by simp [Writing], rfl⟩
  | step psSet =>
      simp only [next, stepAt] at h
      cases hpc : s.pc i with
      | idle => simp [hpc] at h
      | initRead =>
          rw [hpc] at h
          refine Or.inl ⟨by simp [Writing], _, ?_, (Option.some.inj h).symm⟩
          split <;> simp [Writing]
      | uninitRead =>
          rw [hpc] at h
          refine Or.inl ⟨by simp [Writing], _, ?_, (Option.some.inj h).symm⟩
          split <;> simp [Writing]
      | initCall =>
          simp only [hpc] at h
          split at h
          · cases hok : ntSuccess psSet with
            | true =>
                rw [hok] at h
                exact Or.inr (Or.inl
                  ⟨by simp [Writing], _, .initWrite, trivial, (Option.some.inj h).symm⟩)
            | false =>
                -- a refused registration changes nothing
                refine Or.inl ⟨by simp [Writing], .idle, by simp [Writing], ?_⟩
                simpa [psSetCreateProcessNotifyRoutineEx, hok] using h.symm
          · simp at h
      | uninitCall =>
          simp only [hpc] at h
          split at h
          · exact Or.inr (Or.inl
              ⟨by simp [Writing], _, .uninitWrite, trivial, (Option.some.inj h).symm⟩)
          · simp at h
      | initWrite =>
          rw [hpc] at h
          exact Or.inr (Or.inr (Or.inl ⟨rfl, (Option.some.inj h).symm⟩))
      | uninitWrite =>
          rw [hpc] at h
          exact Or.inr (Or.inr (Or.inr ⟨rfl, (Option.some.inj h).symm⟩))

/-! ## A command on its own -/

/-- Uninterrupted, the steps of an enable command compute
`DrvInitializeProcNotify`. -/
theorem initialize_alone (s : State) (i : ℕ) (psSet : NtStatus) (hidle : s.pc i = .idle)
    (hps : s.notify.gProcessNotifyRegistered = false → PsSetAllows false psSet s.notify) :
    ∃ es, System.exec next s es =
      some { s with notify := (drvInitializeProcNotify psSet s.notify).2 } := by
  have hpc : Function.update s.pc i .idle = s.pc := by rw [← hidle, Function.update_eq_self]
  cases hflag : s.notify.gProcessNotifyRegistered with
  | true =>
      refine ⟨[(i, .startInit), (i, .step psSet)], ?_⟩
      simp [next, stepAt, hidle, hflag, drvInitializeProcNotify, State.at, hpc]
  | false =>
      have hallow := hps hflag
      cases hok : ntSuccess psSet with
      | true =>
          refine ⟨[(i, .startInit), (i, .step psSet), (i, .step psSet), (i, .step psSet)], ?_⟩
          simp [next, stepAt, hidle, hflag, hallow, hok, drvInitializeProcNotify, State.at,
            psSetCreateProcessNotifyRoutineEx, hpc]
      | false =>
          refine ⟨[(i, .startInit), (i, .step psSet), (i, .step psSet)], ?_⟩
          simp [next, stepAt, hidle, hflag, hallow, hok, drvInitializeProcNotify, State.at,
            psSetCreateProcessNotifyRoutineEx, hpc]

theorem uninitialize_alone (s : State) (i : ℕ) (psSet : NtStatus) (hidle : s.pc i = .idle)
    (hps : s.notify.gProcessNotifyRegistered = true → PsSetAllows true psSet s.notify) :
    ∃ es, System.exec next s es =
      some { s with notify := (drvUninitializeProcNotify psSet s.notify).2 } := by
  have hpc : Function.update s.pc i .idle = s.pc := by rw [← hidle, Function.update_eq_self]
  cases hflag : s.notify.gProcessNotifyRegistered with
  | false =>
      refine ⟨[(i, .startUninit), (i, .step psSet)], ?_⟩
      simp [next, stepAt, hidle, hflag, drvUninitializeProcNotify, State.at, hpc]
  | true =>
      have hallow := hps hflag
      refine ⟨[(i, .startUninit), (i, .step psSet), (i, .step psSet), (i, .step psSet)], ?_⟩
      simp [next, stepAt, hidle, hflag, hallow, drvUninitializeProcNotify, State.at, hpc]

/-! ## The flag in quiescent states -/

/-- The write about to happen finds the registration as the writer's own kernel
call left it. -/
def WriteIsCurrent (s : State) (e : ℕ × Action) : Prop :=
  (s.pc e.1 = .initWrite → s.notify.registered = true) ∧
    (s.pc e.1 = .uninitWrite → s.notify.registered = false)

instance (s : State) (e : ℕ × Action) : Decidable (WriteIsCurrent s e) :=
  inferInstanceAs (Decidable (_ ∧ _))

def Settled (s : State) : Prop := (∀ i, ¬ Writing (s.pc i)) → FlagAgrees s.notify

theorem settled_step {s t : State} {e : ℕ × Action} (hs : Settled s)
    (h : next s e = some t) (hcur : WriteIsCurrent s e) : Settled t := by
  obtain ⟨i, a⟩ := e
  rcases next_cases h with
    ⟨hi, pc, _, rfl⟩ | ⟨_, n, pc, hpc, rfl⟩ | ⟨hi, rfl⟩ | ⟨hi, rfl⟩
  · intro hquiet
    apply hs
    intro j
    by_cases hj : j = i
    · exact hj ▸ hi
    · simpa [at_pc_ne s pc hj] using hquiet j
  · intro hquiet
    exact absurd (by simpa using hpc) (hquiet i)
  · intro _
    simp [FlagAgrees, hcur.1 hi]
  · intro _
    simp [FlagAgrees, hcur.2 hi]

/-- In a run whose every write of the flag is current, flag and kernel agree in
each quiescent state. -/
theorem flagAgrees_of_writeIsCurrent (s : State)
    (h : (toggles.restrict WriteIsCurrent).Reachable s) (hquiet : Quiescent s) :
    FlagAgrees s.notify := by
  have hsettled : Settled s := by
    apply h.restrict_invariant
    · rintro s rfl _
      simp [FlagAgrees, initialState, ProcNotify.initial]
    · intro s e t hs hstep hcur
      exact settled_step hs hstep hcur
  apply hsettled
  intro i
  simp [hquiet i, Writing]

theorem enabled_flagAgrees : ∃ s, (toggles.restrict WriteIsCurrent).Reachable s ∧
    Quiescent s ∧ s.notify = ⟨true, true⟩ ∧ FlagAgrees s.notify := by
  obtain ⟨s, hrun, hquiet, hnotify⟩ : ∃ s,
      System.exec (System.guarded next WriteIsCurrent) initialState
        [(0, .startInit), (0, .step statusSuccess), (0, .step statusSuccess),
          (0, .step statusSuccess)] = some s ∧ Quiescent s ∧ s.notify = ⟨true, true⟩ := by
    refine ⟨_, rfl, ?_, rfl⟩
    intro i
    simp only [State.at, initialState, Function.update_apply]
    split_ifs <;> rfl
  have hreach : (toggles.restrict WriteIsCurrent).Reachable s := by
    rw [toggles, System.restrict_ofNext]
    exact (System.Reachable.init rfl).exec hrun
  exact ⟨s, hreach, hquiet, hnotify, flagAgrees_of_writeIsCurrent s hreach hquiet⟩

/-- A write that is not current parts flag and kernel at once. -/
theorem not_flagAgrees_of_stale {s t : State} {e : ℕ × Action} (h : next s e = some t)
    (hstale : ¬ WriteIsCurrent s e) : ¬ FlagAgrees t.notify := by
  obtain ⟨i, a⟩ := e
  have hwriting : Writing (s.pc i) := by
    by_contra hi
    refine hstale ⟨fun hw ↦ ?_, fun hw ↦ ?_⟩ <;> simp [hw, Writing] at hi
  rcases next_cases h with ⟨hi, _⟩ | ⟨hi, _⟩ | ⟨hi, rfl⟩ | ⟨hi, rfl⟩
  · exact absurd hwriting hi
  · exact absurd hwriting hi
  · have hreg : s.notify.registered = false := by simpa [WriteIsCurrent, hi] using hstale
    simp [FlagAgrees, hreg]
  · have hreg : s.notify.registered = true := by simpa [WriteIsCurrent, hi] using hstale
    simp [FlagAgrees, hreg]

/-- Two enables and a disable.  The disable removes the routine, the first
enable adds it again, and only then the disable clears the flag. -/
def staleDisable : List (ℕ × Action) :=
  [(0, .startInit), (0, .step statusSuccess),
    (1, .startInit), (1, .step statusSuccess), (1, .step statusSuccess),
    (1, .step statusSuccess),
    (2, .startUninit), (2, .step statusSuccess), (2, .step statusSuccess),
    (0, .step statusSuccess), (0, .step statusSuccess),
    (2, .step statusSuccess)]

theorem not_flagAgrees_staleDisable :
    ¬ ∀ s, toggles.Reachable s → Quiescent s → FlagAgrees s.notify := by
  intro hall
  obtain ⟨s, hrun, hquiet, hparted⟩ : ∃ s, System.exec next initialState staleDisable = some s ∧
      Quiescent s ∧ ¬ FlagAgrees s.notify := by
    refine ⟨_, rfl, ?_, ?_⟩
    · intro i
      simp only [State.at, initialState, Function.update_apply]
      split_ifs <;> rfl
    · simp [FlagAgrees]
      decide
  exact hparted (hall s ((System.Reachable.init rfl).exec hrun) hquiet)

end NtDriver.ToggleRace
