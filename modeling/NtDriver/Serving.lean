import NtDriver.Lib.Transition
import NtDriver.CommThread
import Mathlib.Logic.Function.Basic

/-!
# Is a connected client served?

`InitializeCommunication` starts `NrOfDllConnThreads` receive loops on one port.
Each loop is left for good at the first error of one of its calls, whether the
port is gone or not.
-/

namespace NtDriver.Serving

open Transition CommThread

def InLoop : Pc → Prop
  | .returned | .faulted => False
  | _ => True

/-- The call reports neither a message, nor that one is awaited, nor the
termination event. -/
def IsError : Result → Prop
  | .filterGetMessage result =>
      result ≠ hresultFromWin32 sOk ∧ result ≠ hresultFromWin32 errorIoPending
  | .waitForMultipleObjects result => result ≠ waitObject0 ∧ result ≠ waitObject0 + 1
  | .getOverlappedResult ok => ok = false
  | _ => False

instance : DecidablePred IsError := fun r ↦ by
  cases r <;> unfold IsError <;> infer_instance

def SeesTermination : Result → Prop
  | .waitForSingleObject result => result = waitObject0
  | .waitForMultipleObjects result => result = waitObject0
  | _ => False

instance : DecidablePred SeesTermination := fun r ↦ by
  cases r <;> unfold SeesTermination <;> infer_instance

/-- The loop goes on but for an error, the termination event or an access
violation, which ends the process. -/
theorem step_inLoop {a : Arch} {buffer : MessageBuffer} {pc pc' : Pc} {r : Result}
    (h : step a buffer pc r = some pc') :
    InLoop pc' ∨ IsError r ∨ SeesTermination r ∨ pc' = .faulted := by
  cases r with
  | waitForSingleObject result =>
      obtain ⟨_, rfl⟩ := step_waitForSingleObject.mp h
      by_cases hresult : result = waitObject0
      · exact Or.inr (Or.inr (Or.inl hresult))
      · simp [hresult, InLoop]
  | filterGetMessage result =>
      obtain ⟨_, rfl⟩ := step_filterGetMessage.mp h
      by_cases hok : result = hresultFromWin32 sOk
      · simp [hok, InLoop]
      · by_cases hpending : result = hresultFromWin32 errorIoPending
        · simp [hpending, InLoop]
        · exact Or.inr (Or.inl ⟨hok, hpending⟩)
  | waitForMultipleObjects result =>
      obtain ⟨_, rfl⟩ := step_waitForMultipleObjects.mp h
      by_cases hresult : result = waitObject0
      · exact Or.inr (Or.inr (Or.inl hresult))
      · by_cases hevent : result = waitObject0 + 1
        · subst hevent
          exact Or.inl trivial
        · exact Or.inr (Or.inl ⟨hresult, hevent⟩)
  | getOverlappedResult ok =>
      obtain ⟨_, rfl⟩ := step_getOverlappedResult.mp h
      cases ok with
      | true => simp [InLoop]
      | false => exact Or.inr (Or.inl rfl)
  | stack stack =>
      obtain ⟨_, rfl⟩ := step_stack.mp h
      rcases dispatch_cases a stack buffer with ⟨_, _, hd, _⟩ | ⟨_, hd, _⟩ | hd | ⟨hd, _⟩ <;>
        simp [hd, InLoop]
  | messageBox choice =>
      obtain ⟨_, _, _, rfl⟩ := step_messageBox.mp h
      exact Or.inl trivial
  | filterReplyMessage result =>
      obtain ⟨_, _, _, rfl⟩ := step_filterReplyMessage.mp h
      exact Or.inl trivial

/-! ## The DLL -/

/-- `InitializeCommunication` has created the threads below `spawned`; those in
`failed` have met an error. -/
structure State where
  nrOfDllConnThreads : ℕ
  spawned : ℕ
  pc : ℕ → Pc
  failed : ℕ → Bool
  portConnected : Bool
  terminate : Bool
  uninitializing : Bool

inductive Action where
  | spawn
  | thread (i : ℕ) (result : Result) (buffer : MessageBuffer)
  | disconnect
  | beginUninit
  | setEvent

/-- The steps.  A thread may find any message in its buffer; a wait reports the
termination event only if it is set; an access violation ends the process and
with it the connection. -/
inductive Step (a : Arch) (s : State) : Action → State → Prop where
  | spawn (h : s.spawned < s.nrOfDllConnThreads) :
      Step a s .spawn
        { s with
          spawned := s.spawned + 1, pc := Function.update s.pc s.spawned .testTerminate }
  | thread (i : ℕ) (result : Result) (buffer : MessageBuffer) {pc : Pc} (hi : i < s.spawned)
      (h : step a buffer (s.pc i) result = some pc)
      (hset : SeesTermination result → s.terminate = true) (hpc : InLoop pc ∨ pc = .returned) :
      Step a s (.thread i result buffer)
        { s with
          pc := Function.update s.pc i pc
          failed := Function.update s.failed i (s.failed i || decide (IsError result)) }
  | fault (i : ℕ) (result : Result) (buffer : MessageBuffer) (hi : i < s.spawned)
      (h : step a buffer (s.pc i) result = some .faulted) :
      Step a s (.thread i result buffer)
        { s with pc := Function.update s.pc i .faulted, portConnected := false }
  | disconnect : Step a s .disconnect { s with portConnected := false }
  | beginUninit (h : s.spawned = s.nrOfDllConnThreads) :
      Step a s .beginUninit { s with uninitializing := true }
  | setEvent (h : s.uninitializing = true) : Step a s .setEvent { s with terminate := true }

def Init (s : State) : Prop :=
  1 ≤ s.nrOfDllConnThreads ∧ s.spawned = 0 ∧ (∀ i, s.failed i = false) ∧
    s.portConnected = true ∧ s.terminate = false ∧ s.uninitializing = false

def dll (a : Arch) : System State Action := ⟨Init, Step a⟩

/-- `InitializeCommunication` has returned, the port is connected and
`UninitializeCommunication` has not been entered. -/
def Serves (s : State) : Prop :=
  s.spawned = s.nrOfDllConnThreads ∧ s.portConnected = true ∧ s.uninitializing = false

/-! ## Every thread is in its loop or has failed -/

structure Inv (s : State) : Prop where
  threads : 1 ≤ s.nrOfDllConnThreads
  event : s.terminate = true → s.uninitializing = true
  running : s.portConnected = true → s.uninitializing = false → ∀ i < s.spawned,
    InLoop (s.pc i) ∨ s.failed i = true

theorem inv_init {s : State} (h : Init s) : Inv s := by
  obtain ⟨hn, hspawned, _, _, hterminate, _⟩ := h
  exact ⟨hn, by simp [hterminate], by simp [hspawned]⟩

theorem inv_step {a : Arch} {s t : State} {act : Action} (h : Inv s) (hstep : Step a s act t) :
    Inv t := by
  cases hstep with
  | spawn hlt =>
      refine ⟨h.threads, h.event, fun hport huninit i hi ↦ ?_⟩
      by_cases his : i = s.spawned
      · simp [his, InLoop]
      · have hi' : i < s.spawned := Nat.lt_of_le_of_ne (Nat.lt_succ_iff.mp hi) his
        simpa [his] using h.running hport huninit i hi'
  | thread i result buffer hi hcall hset hpc =>
      refine ⟨h.threads, h.event, fun hport huninit j hj ↦ ?_⟩
      by_cases hji : j = i
      · subst hji
        rcases step_inLoop hcall with hloop | herror | hseen | hfault
        · simp [hloop]
        · simp [herror]
        · have := h.event (hset hseen)
          simp_all
        · rcases hpc with hpc | hpc <;> simp_all [InLoop]
      · simpa [hji] using h.running hport huninit j hj
  | fault => exact ⟨h.threads, h.event, nofun⟩
  | disconnect => exact ⟨h.threads, h.event, nofun⟩
  | beginUninit => exact ⟨h.threads, fun _ ↦ rfl, fun _ ↦ nofun⟩
  | setEvent huninit => exact ⟨h.threads, fun _ ↦ huninit, h.running⟩

/-- A connected client is served as long as some thread has not met an error. -/
theorem served_or_all_failed (a : Arch) (s : State) (h : (dll a).Reachable s) (hserves : Serves s) :
    (∃ i < s.nrOfDllConnThreads, InLoop (s.pc i)) ∨
      ∀ i < s.nrOfDllConnThreads, s.failed i = true := by
  have hinv : Inv s := by
    apply h.invariant
    · exact fun s hs ↦ inv_init hs
    · exact fun s act t hs hstep ↦ inv_step hs hstep
  obtain ⟨hspawned, hport, huninit⟩ := hserves
  by_cases hloop : ∃ i < s.nrOfDllConnThreads, InLoop (s.pc i)
  · exact Or.inl hloop
  · apply Or.inr
    intro i hi
    exact (hinv.running hport huninit i (hspawned ▸ hi)).resolve_left fun hpc ↦ hloop ⟨i, hi, hpc⟩

def initialState : State := ⟨1, 0, fun _ ↦ .testTerminate, fun _ ↦ false, true, false, false⟩

theorem init_initialState : Init initialState :=
  ⟨le_rfl, rfl, fun _ ↦ rfl, rfl, rfl, rfl⟩

theorem reachable_spawned (a : Arch) : (dll a).Reachable { initialState with
    spawned := 1, pc := Function.update initialState.pc 0 .testTerminate } :=
  System.Reachable.step (.init init_initialState) (Step.spawn (by decide))

theorem served_spawned : ∃ s, (dll .x64).Reachable s ∧ Serves s ∧
    ((∃ i < s.nrOfDllConnThreads, InLoop (s.pc i)) ∨
      ∀ i < s.nrOfDllConnThreads, s.failed i = true) :=
  ⟨_, reachable_spawned .x64, ⟨rfl, rfl, rfl⟩,
    served_or_all_failed .x64 _ (reachable_spawned .x64) ⟨rfl, rfl, rfl⟩⟩

/-- `ERROR_NOT_ENOUGH_MEMORY` from the first `FilterGetMessage` of the only thread. -/
theorem not_served_getMessage_error : ¬ ∀ s, (dll .x64).Reachable s → Serves s →
    ∃ i < s.nrOfDllConnThreads, InLoop (s.pc i) := by
  intro hall
  let buffer : MessageBuffer := ⟨fun _ ↦ 0, messageBufferSize, le_rfl⟩
  have h₁ := (reachable_spawned .x64).step (Step.thread 0 (.waitForSingleObject 258#32) buffer
    (by decide) rfl (by decide) (Or.inl trivial))
  have h₂ := h₁.step (Step.thread 0 (.filterGetMessage (hresultFromWin32 8#32)) buffer
    (by decide) rfl nofun (Or.inr rfl))
  obtain ⟨i, hi, hloop⟩ := hall _ h₂ ⟨rfl, rfl, rfl⟩
  obtain rfl : i = 0 := Nat.lt_one_iff.mp hi
  exact hloop

end NtDriver.Serving
