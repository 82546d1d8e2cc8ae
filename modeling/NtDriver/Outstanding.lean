import NtDriver.AnswerOnce

/-!
# Receives on a released buffer

`InitializeCommunication` keeps no reference to a `THREAD_CONTEXT`, so its `Overlapped`
and its `MessageBuffer` are freed when the thread that it was made for returns.  Whether
a receive is pending then depends on the exit: no path of the thread cancels one.
-/

namespace NtDriver.Outstanding

open Transition CommThread AnswerOnce

/-- The context is freed and a receive is pending on it. -/
def Dangling (s : State) : Prop := s.pc = .returned ∧ s.receive = .pending

/-- The wait for the pending receive ends with the termination event or with an error. -/
def Abandons (s : State) : Action → Prop
  | .thread (.waitForMultipleObjects result) => s.receive = .pending ∧ result ≠ waitObject0 + 1
  | _ => False

def WaitsOut (s : State) (act : Action) : Prop := ¬ Abandons s act

/-- A receive is pending only while the thread is in the wait for it. -/
def PendingInWait (s : State) : Prop := s.receive = .pending → s.pc = .waitPending

section Step

variable {a : Arch} {s t : State} {act : Action}

theorem pendingInWait_init (h : Init s) : PendingInWait s := by
  intro hpending
  rw [h.2.1] at hpending
  cases hpending

theorem PendingInWait.not_dangling (h : PendingInWait s) : ¬ Dangling s := by
  rintro ⟨hreturned, hpending⟩
  rw [h hpending] at hreturned
  cases hreturned

theorem PendingInWait.not_pending (h : PendingInWait s) (hpc : s.pc ≠ .waitPending) :
    s.receive ≠ .pending :=
  fun hpending ↦ hpc (h hpending)

/-- Outside the wait nothing is pending, and the wait is left with the receive done. -/
theorem pendingInWait_step (h : PendingInWait s) (hstep : Step a s act t)
    (hwaits : WaitsOut s act) : PendingInWait t := by
  intro hpending
  cases hstep with
  | waitForSingleObject result hcall _ =>
      obtain ⟨hpc, _⟩ := step_waitForSingleObject.mp hcall
      exact absurd hpending (h.not_pending (by simp [hpc]))
  | getMessage buffer hcall => cases hpending
  | getMessagePending hcall => exact (step_filterGetMessage.mp hcall).2
  | getMessageFailed hcall _ _ => cases hpending
  | waitEvent hcall _ hdone => exact absurd hpending hdone
  | waitLeave result hcall hresult _ => exact absurd ⟨hpending, hresult⟩ hwaits
  | getOverlappedResult hcall _ => cases hpending
  | dispatch stack hcall =>
      obtain ⟨hpc, _⟩ := step_stack.mp hcall
      exact absurd hpending (h.not_pending (by simp [hpc]))
  | messageBox hcall =>
      obtain ⟨reply, text, hpc, _⟩ := step_messageBox.mp hcall
      exact absurd hpending (h.not_pending (by simp [hpc]))
  | replyMessage result hpc _ => exact absurd hpending (h.not_pending (by simp [hpc]))
  | complete buffer _ => cases hpending
  | abort _ => cases hpending
  | terminate => exact h hpending

theorem dangling_of_abandons (hstep : Step a s act t) (h : Abandons s act) : Dangling t := by
  cases hstep with
  | waitEvent hcall _ hdone => exact absurd h.1 hdone
  | waitLeave result hcall hresult _ =>
      obtain ⟨_, hpc⟩ := step_waitForMultipleObjects.mp hcall
      exact ⟨hpc.trans (afterWait_failure hresult), h.1⟩
  | _ => exact h.elim

end Step

/-- No receive is pending on a freed context in the runs that wait every pending receive
out, and each step that does not leaves one behind. -/
theorem not_dangling_of_waitsOut (a : Arch) :
    (∀ s, ((thread a).restrict WaitsOut).Reachable s → ¬ Dangling s) ∧
      ∀ s act t, Step a s act t → ¬ WaitsOut s act → Dangling t := by
  refine ⟨fun s h ↦ ?_, fun s act t hstep h ↦ dangling_of_abandons hstep (not_not.mp h)⟩
  apply PendingInWait.not_dangling
  apply h.restrict_invariant
  · exact fun s hs ↦ pendingInWait_init hs
  · exact fun s act t hs hstep hwaits ↦ pendingInWait_step hs hstep hwaits

/-- A receive is issued and aborted, and its result is looked at before the return. -/
theorem not_dangling_aborted : ∃ s, ((thread .x64).restrict WaitsOut).Reachable s ∧
    s.pc = .returned ∧ ¬ Dangling s := by
  have hinit : ((thread .x64).restrict WaitsOut).Reachable initialState :=
    .init init_initialState
  have htested := hinit.restrict_step (Step.waitForSingleObject 258#32 rfl (by decide)) id
  have hissued := htested.restrict_step (Step.getMessagePending rfl) id
  have haborted := hissued.restrict_step (Step.abort rfl) id
  have hwoken := haborted.restrict_step (Step.waitEvent rfl rfl nofun) fun h ↦ h.2 rfl
  have hreturned := hwoken.restrict_step
    (@Step.getOverlappedResult .x64 _ false _ rfl (by decide)) id
  exact ⟨_, hreturned, rfl, (not_dangling_of_waitsOut .x64).1 _ hreturned⟩

/-- The termination event is set while a receive is pending. -/
theorem not_not_dangling_terminated : ¬ ∀ s, (thread .x64).Reachable s → ¬ Dangling s := by
  intro hall
  have hissued := (reachable_getMessage .x64).step (Step.getMessagePending rfl)
  have hset := hissued.step Step.terminate
  have hreturned := hset.step (Step.waitLeave waitObject0 rfl (by decide) fun _ ↦ rfl)
  exact hall _ hreturned ⟨rfl, rfl⟩

end NtDriver.Outstanding
