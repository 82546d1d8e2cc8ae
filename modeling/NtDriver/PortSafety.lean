import NtDriver.History
import NtDriver.PortAnswers

/-!
# No message of the driver harms a thread

A thread reads the strings of a message up to a NUL which the message itself may not
have.  Its buffer was zeroed when it was created, and no message of the driver is nearly
as long, so whatever came before, each string ends inside the buffer.
-/

namespace NtDriver.PortSafety

open Memory Layout CString CommThread MessagePort Transition Function
open History (DriverMessage Blank created)
open LoneThread (InTurn sent)
open PortAnswers (Carries member member_read)

/-- What the rest of the driver has sent are messages that it builds. -/
def DriverOnly (a : Arch) (s : State) : Prop :=
  ∀ id payload, s.message id ≠ .unsent → (s.record id).sender = .other payload →
    ∃ m : DriverMessage, payload = m.payload a

/-- The port between the driver and threads whose contexts have just been created. -/
def driverPort (a b : Arch) (creation : ℕ → Creation) : System State Action where
  Init s := Init creation s ∧ ∀ i, ∃ behind extra, (s.thread i).buffer = created behind extra
  Step s act t := Step a b creation s act t ∧ DriverOnly a t

/-- The buffer when nothing behind it can be read. -/
def inside (buffer : MessageBuffer) : MessageBuffer := ⟨buffer.bytes, messageBufferSize, le_rfl⟩

/-- The thread goes on to an answer. -/
def Handled : Pc → Prop
  | .sendReply _ _ | .messageBox _ _ => True
  | _ => False

/-- The thread has not faulted, and a message that it has taken is answered out of the
buffer alone. -/
structure Safe (b : Arch) (t : Thread) : Prop where
  runs : t.pc ≠ .faulted
  handled : t.pc = .dispatch → ∀ stack, Handled (dispatch b stack (inside t.buffer))

/-! ## One message -/

section Message

variable {a b : Arch} {buffer : MessageBuffer} {m : DriverMessage}

theorem zero_inside (h : Blank a buffer) : buffer.bytes 2080 = 0 := by
  apply h 2080 _ (by decide)
  rw [ProcInfo.size_eq, CommandRequest.payload_eq]
  cases a <;> decide

theorem imageFileName_isSome (h : Blank a buffer) (b : Arch) :
    (imageFileName b buffer).isSome = true := by
  have hstart : CommandRequest.payload + (ProcInfo.imageFileName b).off = 20 := by
    rw [ProcInfo.imageFileName_eq]
    rfl
  have hsize := buffer.size_le
  rw [messageBufferSize] at hsize
  simp only [imageFileName, hstart]
  apply cString_isSome (k := 1030)
  · exact h.getNat
  · omega

theorem buffCollected_isSome (h : Blank a buffer) : (buffCollected buffer).isSome = true := by
  have hsize := buffer.size_le
  rw [messageBufferSize] at hsize
  have hstart : CommandRequest.payload + TextbuffInfo.contents.off = 28 := rfl
  rw [buffCollected, Option.isSome_map]
  simp only [hstart]
  apply cString_isSome (k := 2052)
  · exact zero_inside h
  · omega

/-- Every message of the driver asks for something that the thread knows. -/
theorem command_payload (m : DriverMessage) :
    ∃ c, Replies c ∧ member payloadCommand (m.payload a) = c.value := by
  cases m with
  | version stack =>
      exact ⟨.cmdGetLibraryVersion, trivial,
        (member_read (by decide)).trans (command_clientVersionRequest stack)⟩
  | procInfo stack processId name =>
      have hfits : payloadCommand.off + payloadCommand.size ≤ ProcInfo.size a := by
        cases a <;> decide
      exact ⟨.cmdGiveProcname, trivial,
        (member_read hfits).trans (command_procDetailsRequest a stack processId name)⟩
  | scan stack env =>
      exact ⟨.cmdSendTextBuff, trivial,
        (member_read (by decide)).trans (ScanVerdict.command_scanRequest stack env.block)⟩

theorem four_le_payload (m : DriverMessage) : 4 ≤ (m.payload a).length := by
  cases m with
  | version stack | scan stack env =>
      simp only [DriverMessage.payload, clientVersionMessage, scanMessage, length_read]
      decide
  | procInfo stack processId name =>
      simp only [DriverMessage.payload, procDetailsMessage, length_read, ProcInfo.size_eq]
      omega

theorem handled_dispatch (hblank : Blank a buffer) (hcarries : Carries buffer (m.payload a))
    (stack : Mem) : Handled (dispatch b stack buffer) := by
  obtain ⟨c, hreplies, hc⟩ := command_payload (a := a) m
  have hcommand := (hcarries.command (four_le_payload m)).trans hc
  cases c with
  | cmdGetLibraryVersion =>
      rw [dispatch_cmdGetLibraryVersion hcommand]
      trivial
  | cmdGiveProcname =>
      obtain ⟨name, hname⟩ := Option.isSome_iff_exists.mp (imageFileName_isSome hblank b)
      rw [dispatch_cmdGiveProcname hcommand, hname]
      trivial
  | cmdSendTextBuff =>
      obtain ⟨collected, hcollected⟩ := Option.isSome_iff_exists.mp (buffCollected_isSome hblank)
      rw [dispatch_cmdSendTextBuff hcommand, hcollected]
      trivial
  | _ => exact hreplies.elim

end Message

/-! ## Every run -/

section Runs

variable {a b : Arch} {creation : ℕ → Creation} {s t : State}

/-- A step of the loop faults in the dispatch alone. -/
theorem dispatch_of_faulted {buffer : MessageBuffer} {pc : Pc} {r : Result}
    (h : step b buffer pc r = some .faulted) :
    ∃ stack, pc = .dispatch ∧ dispatch b stack buffer = .faulted := by
  cases r with
  | stack stack =>
      obtain ⟨hpc, hfault⟩ := step_stack.mp h
      exact ⟨stack, hpc, hfault.symm⟩
  | waitForSingleObject result =>
      obtain ⟨_, hpc⟩ := step_waitForSingleObject.mp h
      split_ifs at hpc
  | filterGetMessage result =>
      obtain ⟨_, hpc⟩ := step_filterGetMessage.mp h
      unfold afterGetMessage at hpc
      split_ifs at hpc
  | waitForMultipleObjects result =>
      obtain ⟨_, hpc⟩ := step_waitForMultipleObjects.mp h
      unfold afterWait at hpc
      split_ifs at hpc
  | getOverlappedResult ok =>
      obtain ⟨_, hpc⟩ := step_getOverlappedResult.mp h
      cases ok <;> cases hpc
  | messageBox choice =>
      obtain ⟨_, _, _, hpc⟩ := step_messageBox.mp h
      cases hpc
  | filterReplyMessage result =>
      obtain ⟨_, _, _, hpc⟩ := step_filterReplyMessage.mp h
      cases hpc

structure Clear (a : Arch) (t : Thread) : Prop where
  blank : Blank a t.buffer
  runs : t.pc ≠ .faulted

structure Inv (a b : Arch) (creation : ℕ → Creation) (s : State) : Prop where
  base : ProcVerdict.Inv a b creation s
  inTurn : InTurn a b creation s
  driverOnly : DriverOnly a s
  clear : ∀ i, Clear a (s.thread i)

theorem exists_driverMessage (creation : ℕ → Creation) (h : DriverOnly a s) {id : ℕ}
    (hid : s.message id ≠ .unsent) :
    ∃ m : DriverMessage, sent a creation s id = m.payload a := by
  cases hsender : (s.record id).sender with
  | other payload =>
      obtain ⟨m, hm⟩ := h id payload hid hsender
      refine ⟨m, ?_⟩
      rw [sent, hsender, ← hm]
      rfl
  | creation k call =>
      rw [sent, hsender]
      cases call with
      | getAndLogProcDetails =>
          exact ⟨.procInfo (creation k).processInformation (creation k).processId
            (creation k).imageFileName, rfl⟩
      | getAndLogClientVersion => exact ⟨.version (creation k).clientVersionInformation, rfl⟩

/-- A thread at its dispatch has a message of the driver in a buffer that is blank
behind it. -/
theorem Inv.handled (h : Inv a b creation s) {i : ℕ} (hpc : (s.thread i).pc = .dispatch)
    {buffer : MessageBuffer} (hbytes : buffer.bytes = (s.thread i).buffer.bytes) (stack : Mem) :
    Handled (dispatch b stack buffer) := by
  have hshape := (h.base.thread i).shape
  simp only [ProcVerdict.Shape, hpc] at hshape
  obtain ⟨-, id, hcurrent, -⟩ := hshape
  have hreceived := h.inTurn.thread i id hcurrent
  rw [hpc] at hreceived
  obtain ⟨turn, -, hturn⟩ := hreceived
  obtain ⟨m, hm⟩ := exists_driverMessage creation h.driverOnly
    (LoneThread.not_unsent_of_current h.base hcurrent)
  have hblank : Blank a buffer := by
    intro j hj hsize
    rw [hbytes]
    exact (h.clear i).blank j hj hsize
  have hcarries' : Carries buffer (m.payload a) := by
    rw [Carries, hbytes, ← hm, hturn]
    exact PortAnswers.carries_deliver ..
  exact handled_dispatch hblank hcarries' stack

theorem Inv.not_faulted (h : Inv a b creation s) {i : ℕ} {r : Result} {pc : Pc}
    (hstep : step b (s.thread i).buffer (s.thread i).pc r = some pc) : pc ≠ .faulted := by
  rintro rfl
  obtain ⟨stack, hpc, hfault⟩ := dispatch_of_faulted hstep
  have hhandled := h.handled hpc rfl stack
  rw [hfault] at hhandled
  exact hhandled

theorem clear_update (h : ∀ i, Clear a (s.thread i)) {i : ℕ} {thread : Thread}
    (hthread : Clear a thread) (j : ℕ) : Clear a (update s.thread i thread j) :=
  (forall_update_iff s.thread fun _ ↦ Clear a).mpr ⟨hthread, fun k _ ↦ h k⟩ j

/-- A message of the driver leaves the rest of the buffer blank. -/
theorem Inv.clear_takes (h : Inv a b creation s) {i id replyLength : ℕ} {pc : Pc}
    {receive : Receive} (hid : s.message id = .queued) (hpc : pc ≠ .faulted) :
    Clear a ((s.thread i).takes replyLength id ((s.record id).sender.message a creation) pc
      receive) := by
  have hsent : s.message id ≠ .unsent := by simp [hid]
  obtain ⟨m, hm⟩ := exists_driverMessage creation h.driverOnly hsent
  have hblank := (h.clear i).blank.receive ⟨replyLength, id, m⟩
  refine ⟨?_, hpc⟩
  rw [Thread.takes, show (s.record id).sender.message a creation = m.payload a from hm]
  exact hblank

theorem clear_step {act : Action} (h : Inv a b creation s) (hstep : Step a b creation s act t) :
    ∀ i, Clear a (t.thread i) := by
  -- a step of the loop keeps the buffer
  have hkeep : ∀ {i : ℕ} {r : Result} {pc : Pc} (receive : Receive),
      step b (s.thread i).buffer (s.thread i).pc r = some pc →
        ∀ j, Clear a (update s.thread i
          { s.thread i with pc := pc, receive := receive } j) :=
    fun _ hcall ↦ clear_update h.clear ⟨(h.clear _).blank, h.not_faulted hcall⟩
  cases hstep with
  | waitForSingleObject i result hcall => exact hkeep _ hcall
  | getMessage i id replyLength hcall hid =>
      exact clear_update h.clear (h.clear_takes hid (h.not_faulted hcall))
  | getMessageOther i result hcall _ => exact hkeep _ hcall
  | waitForMultipleObjects i result hcall => exact hkeep _ hcall
  | getOverlappedResult i hcall _ => exact hkeep _ hcall
  | dispatch i stack hcall => exact hkeep _ hcall
  | messageBox i choice hcall => exact hkeep _ hcall
  | replyMessage i _ hcall _ => exact hkeep _ hcall
  | replyMessageFailed i hcall _ => exact hkeep _ hcall
  | complete i id replyLength _ hid =>
      exact clear_update h.clear (h.clear_takes hid (h.clear i).runs)
  | abort i _ => exact clear_update h.clear ⟨(h.clear i).blank, (h.clear i).runs⟩
  | exit i => exact clear_update h.clear ⟨(h.clear i).blank, by simp⟩
  | _ => exact h.clear

theorem inv_of_reachable (h : (driverPort a b creation).Reachable s) : Inv a b creation s := by
  apply h.invariant (I := Inv a b creation)
  · rintro s ⟨hinit, hcreated⟩
    refine ⟨ProcVerdict.inv_init hinit, LoneThread.inTurn_init hinit,
      fun id _ hid ↦ absurd (hinit.1 id).1 hid, fun i ↦ ?_⟩
    obtain ⟨behind, extra, hbuffer⟩ := hcreated i
    refine ⟨?_, by simp [(hinit.2.2 i).1]⟩
    rw [hbuffer]
    exact History.blank_created behind extra
  · rintro s act t hs ⟨hstep, hdriver⟩
    exact ⟨ProcVerdict.inv_step hs.base hstep,
      LoneThread.inTurn_step hs.inTurn hs.base hstep, hdriver, clear_step hs hstep⟩

end Runs

/-- In every order of the steps, and whatever the driver's messages contain, no thread
faults, and every message that a thread takes is answered without a look behind the
buffer. -/
theorem safe_of_reachable (a b : Arch) (creation : ℕ → Creation) (s : State)
    (h : (driverPort a b creation).Reachable s) (i : ℕ) : Safe b (s.thread i) where
  runs := ((inv_of_reachable h).clear i).runs
  handled hpc := (inv_of_reachable h).handled hpc rfl

theorem driverOnly_of_creation {a : Arch} {s : State} {k : ℕ} {call : Call}
    (hsender : (s.record 1).sender = .creation k call)
    (hunsent : ∀ id ≠ 1, s.message id = .unsent) : DriverOnly a s := by
  intro id payload hid hother
  by_cases hone : id = 1
  · rw [hone, hsender] at hother
    cases hother
  · exact absurd (hunsent id hone) hid

theorem reachable_initialState :
    (driverPort .x64 .x64 fun _ ↦ ProcVerdict.namelessCreation).Reachable
      ProcVerdict.initialState := by
  have hcreated : (⟨fun _ ↦ 0, messageBufferSize, le_rfl⟩ : MessageBuffer) =
      created (fun _ ↦ 0) 0 := by
    simp [created]
  exact .init ⟨⟨fun _ ↦ ⟨rfl, rfl⟩, fun _ ↦ rfl, fun _ ↦ ⟨rfl, rfl, rfl⟩⟩,
    fun _ ↦ ⟨fun _ ↦ 0, 0, hcreated⟩⟩

/-- A thread that has taken a question about a process with an empty name. -/
theorem safe_nameless : ∃ s,
    (driverPort .x64 .x64 fun _ ↦ ProcVerdict.namelessCreation).Reachable s ∧
      (s.thread 0).pc = .dispatch ∧ Safe .x64 (s.thread 0) := by
  have h₁ := reachable_initialState.step ⟨Step.send 0 1 rfl rfl (by decide),
    driverOnly_of_creation rfl fun id hid ↦ update_of_ne hid _ _⟩
  have h₂ := h₁.step ⟨Step.waitForSingleObject 0 258#32 rfl,
    driverOnly_of_creation rfl fun id hid ↦ update_of_ne hid _ _⟩
  have h₃ := h₂.step ⟨Step.getMessage 0 1 0 rfl rfl, driverOnly_of_creation rfl fun id hid ↦
    (update_of_ne hid _ _).trans (update_of_ne hid _ _)⟩
  exact ⟨_, h₃, rfl, safe_of_reachable .x64 .x64 _ _ h₃ 0⟩

end NtDriver.PortSafety
