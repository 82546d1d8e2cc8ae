import NtDriver.Messages

/-!
# `UmCommunicationThreadBody`

The receive loop of one DLL thread.  A program counter names the next call of
the loop, a step takes the result of that call, and everything the thread knows
of a message comes from its `MessageBuffer`.
-/

namespace NtDriver

open Memory Layout CString

def messageBufferSize : ℕ := 65536 + 1024

/-- A `MessageBuffer` and the memory behind it, `readable` bytes in all. -/
structure MessageBuffer where
  bytes : Mem
  readable : ℕ
  size_le : messageBufferSize ≤ readable

/-- FltMgr writes a message with its header over the start of the buffer. -/
def MessageBuffer.deliver (buffer : MessageBuffer) (replyLength messageId : ℕ)
    (payload : List UInt8) : MessageBuffer :=
  let header := CommandRequest.replyLength.set buffer.bytes 0 replyLength
  let header := CommandRequest.messageId.set header 0 messageId
  { buffer with bytes := write header CommandRequest.payload payload }

namespace CommThread

def idOk : ℕ := 1

/-! ## The handlers -/

section Handlers

variable (a : Arch) (stack : Mem) (buffer : MessageBuffer)

def messageId : ℕ := CommandRequest.messageId.get buffer.bytes 0

def command : ℕ := payloadCommand.get buffer.bytes CommandRequest.payload

def replyHeader : Mem :=
  FilterReply.status.set (FilterReply.messageId.set stack 0 (messageId buffer)) 0
    statusSuccess.toNat

def versionReply : Mem :=
  let payload := FilterReply.headerSize
  let reply := replyHeader stack buffer
  let reply := VersionInformation.command.set reply payload CommandCode.cmdGetLibraryVersion.value
  let reply := VersionInformation.major.set reply payload 0
  let reply := VersionInformation.minor.set reply payload 0
  let reply := VersionInformation.revision.set reply payload 0
  VersionInformation.build.set reply payload 0

def procReply : Mem :=
  let payload := FilterReply.headerSize
  let reply := replyHeader stack buffer
  let reply := (ProcInfo.command a).set reply payload CommandCode.cmdGiveProcname.value
  let reply := (ProcInfo.processId a).set reply payload
    ((ProcInfo.processId a).get buffer.bytes CommandRequest.payload)
  (ProcInfo.allowed a).set reply payload 1

/-- The reply once the user has answered; `IDOK` withdraws the permission. -/
def answeredReply (reply : Mem) (choice : ℕ) : Mem :=
  if choice = idOk then (ProcInfo.allowed a).set reply FilterReply.headerSize 0 else reply

/-- `procInfo->ImageFileName` as `%ls` reads it. -/
def imageFileName : Option (List ℕ) :=
  let start := CommandRequest.payload + (ProcInfo.imageFileName a).off
  cString (fun i ↦ getNat buffer.bytes (start + 2 * i) 2) 0 ((buffer.readable - start) / 2)

def wide (s : String) : List ℕ := s.toList.map Char.toNat

/-- `messageBoxText`, with the process id read as `int`: `swprintf` keeps what fits
with its terminator. -/
def messageBoxText (name : List ℕ) : List ℕ :=
  let processId := (ProcInfo.processId a).get buffer.bytes CommandRequest.payload
  (wide "Kill proc with id:" ++ wide (toString (BitVec.ofNat 32 processId).toInt) ++
    wide " and path:" ++ name ++ wide " ?").take (maxbuff - 1)

def bytesToScan : ℕ := TextbuffInfo.bytesToScan.get buffer.bytes CommandRequest.payload

/-- `buff_collected`.  The comma operator discards the length, so the string is
built from the pointer alone and ends at the first NUL. -/
def buffCollected : Option (List UInt8) :=
  let start := CommandRequest.payload + TextbuffInfo.contents.off
  (cString buffer.bytes start (buffer.readable - start)).map fun s ↦
    resize s (bytesToScan buffer)

def petrica : List UInt8 := [0x70, 0x65, 0x74, 0x72, 0x69, 0x63, 0x61]

def permission (collected : List UInt8) : ℕ := if (find petrica collected).isSome then 0 else 1

def scanReply (collected : List UInt8) : Mem :=
  let payload := FilterReply.headerSize
  let reply := replyHeader stack buffer
  let reply := TextbuffInfo.allowed.set reply payload (permission collected)
  TextbuffInfo.command.set reply payload CommandCode.cmdSendTextBuff.value

end Handlers

/-! ## The loop -/

/-- The next call of the thread, with the reply it has built; it has faulted when
the dispatched handler raised an access violation. -/
inductive Pc where
  | testTerminate
  | getMessage
  | waitPending
  | overlappedResult
  | dispatch
  | messageBox (reply : Mem) (text : List ℕ)
  | sendReply (reply : Mem) (length : ℕ)
  | returned
  | faulted

/-- Where the receive issued last stands. -/
inductive Receive where
  | idle
  | pending
  | completed
  | aborted
  deriving DecidableEq

/-- The result of the call at the program counter; for the dispatch, the prior
content of the reply variable. -/
inductive Result where
  | waitForSingleObject (result : Dword)
  | filterGetMessage (result : Hresult)
  | waitForMultipleObjects (result : Dword)
  | getOverlappedResult (ok : Bool)
  | stack (stack : Mem)
  | messageBox (choice : ℕ)
  | filterReplyMessage (result : Hresult)

/-- `switch (pRequest->Command)`. -/
def dispatch (a : Arch) (stack : Mem) (buffer : MessageBuffer) : Pc :=
  match CommandCode.ofValue (command buffer) with
  | some .cmdGetLibraryVersion =>
      .sendReply (versionReply stack buffer) (FilterReply.headerSize + VersionInformation.size)
  | some .cmdGiveProcname =>
      match imageFileName a buffer with
      | none => .faulted
      | some name => .messageBox (procReply a stack buffer) (messageBoxText a buffer name)
  | some .cmdSendTextBuff =>
      match buffCollected buffer with
      | none => .faulted
      | some collected =>
          .sendReply (scanReply stack buffer collected)
            (FilterReply.headerSize + TextbuffInfo.size)
  | _ => .testTerminate

def afterGetMessage (result : Hresult) : Pc :=
  if result = hresultFromWin32 errorIoPending then .waitPending
  else if result = hresultFromWin32 errorInvalidHandle then .returned
  else if result = hresultFromWin32 errorOperationAborted then .returned
  else if result ≠ hresultFromWin32 sOk then .returned
  else .dispatch

def afterWait (result : Dword) : Pc :=
  if result = waitObject0 then .returned
  else if result ≠ waitObject0 + 1 then .returned
  else .overlappedResult

def afterMessageBox (a : Arch) (reply : Mem) (choice : ℕ) : Pc :=
  .sendReply (answeredReply a reply choice) (FilterReply.headerSize + ProcInfo.size a)

def step (a : Arch) (buffer : MessageBuffer) : Pc → Result → Option Pc
  | .testTerminate, .waitForSingleObject result =>
      some (if result = waitObject0 then .returned else .getMessage)
  | .getMessage, .filterGetMessage result => some (afterGetMessage result)
  | .waitPending, .waitForMultipleObjects result => some (afterWait result)
  | .overlappedResult, .getOverlappedResult ok => some (if ok then .dispatch else .returned)
  | .dispatch, .stack stack => some (dispatch a stack buffer)
  | .messageBox reply _, .messageBox choice => some (afterMessageBox a reply choice)
  | .sendReply _ _, .filterReplyMessage _ => some .testTerminate
  | _, _ => none

/-! ## What a reply carries -/

def replyMessageId (reply : Mem) : ℕ := FilterReply.messageId.get reply 0

def replyCommand (reply : Mem) : ℕ := payloadCommand.get reply FilterReply.headerSize

structure Answers (reply : Mem) (buffer : MessageBuffer) : Prop where
  messageId : replyMessageId reply = messageId buffer
  command : replyCommand reply = command buffer

section Answers

variable {stack reply : Mem} {buffer : MessageBuffer}

theorem replyMessageId_replyHeader :
    replyMessageId (replyHeader stack buffer) = messageId buffer := by
  have hstatus : FilterReply.messageId.Apart FilterReply.status := field_apart _ (by decide)
  rw [replyMessageId, replyHeader, Field.get_set_apart _ _ _ hstatus, Field.get_set]
  exact Nat.mod_eq_of_lt (Field.get_lt _ _ _)

theorem replyMessageId_set (f : Field) (v : ℕ) :
    replyMessageId (f.set reply FilterReply.headerSize v) = replyMessageId reply :=
  Field.get_set_beside (Or.inl (by simp [FilterReply.messageId_eq, FilterReply.headerSize_eq]))

theorem Answers.set (h : Answers reply buffer) {f : Field} (hf : payloadCommand.Apart f) (v : ℕ) :
    Answers (f.set reply FilterReply.headerSize v) buffer where
  messageId := (replyMessageId_set f v).trans h.messageId
  command := (Field.get_set_apart _ _ _ hf).trans h.command

theorem answers_setCommand (h : replyMessageId reply = messageId buffer) {c : CommandCode}
    (hc : command buffer = c.value) :
    Answers (payloadCommand.set reply FilterReply.headerSize c.value) buffer where
  messageId := (replyMessageId_set _ _).trans h
  command := (Field.get_set _ _ _ _).trans ((Nat.mod_eq_of_lt c.value_lt).trans hc.symm)

theorem answers_versionReply (hc : command buffer = CommandCode.cmdGetLibraryVersion.value) :
    Answers (versionReply stack buffer) buffer :=
  ((((answers_setCommand replyMessageId_replyHeader hc).set (Or.inl (by decide)) 0).set
    (Or.inl (by decide)) 0).set (Or.inl (by decide)) 0).set (Or.inl (by decide)) 0

theorem answers_procReply {a : Arch} (hc : command buffer = CommandCode.cmdGiveProcname.value) :
    Answers (procReply a stack buffer) buffer := by
  have hheader : replyMessageId (replyHeader stack buffer) = messageId buffer :=
    replyMessageId_replyHeader
  have hcommand := answers_setCommand hheader hc
  unfold procReply
  rw [ProcInfo.command_eq, ProcInfo.processId_eq, ProcInfo.allowed_eq]
  exact (hcommand.set (Or.inl (by simp [payloadCommand])) _).set
    (Or.inl (by simp [payloadCommand])) _

theorem answers_scanReply (hc : command buffer = CommandCode.cmdSendTextBuff.value)
    (collected : List UInt8) : Answers (scanReply stack buffer collected) buffer :=
  answers_setCommand ((replyMessageId_set _ _).trans replyMessageId_replyHeader) hc

theorem Answers.answeredReply (h : Answers reply buffer) (a : Arch) (choice : ℕ) :
    Answers (CommThread.answeredReply a reply choice) buffer := by
  unfold CommThread.answeredReply
  split_ifs
  · rw [ProcInfo.allowed_eq]
    exact h.set (Or.inl (by simp [payloadCommand])) 0
  · exact h

theorem replyMessageId_answeredReply (a : Arch) (choice : ℕ) :
    replyMessageId (answeredReply a reply choice) = replyMessageId reply := by
  unfold answeredReply
  split_ifs
  · exact replyMessageId_set _ _
  · rfl

theorem allowed_procReply (a : Arch) :
    (ProcInfo.allowed a).get (procReply a stack buffer) FilterReply.headerSize = 1 := by
  rw [procReply, Field.get_set, ProcInfo.allowed_eq]
  rfl

theorem allowed_answeredReply {a : Arch}
    (h : (ProcInfo.allowed a).get reply FilterReply.headerSize = 1) (choice : ℕ) :
    (ProcInfo.allowed a).get (answeredReply a reply choice) FilterReply.headerSize =
      if choice = idOk then 0 else 1 := by
  unfold answeredReply
  split_ifs
  · rw [Field.get_set]
    exact Nat.zero_mod _
  · exact h

theorem processId_procReply (a : Arch) :
    (ProcInfo.processId a).get (procReply a stack buffer) FilterReply.headerSize =
      (ProcInfo.processId a).get buffer.bytes CommandRequest.payload := by
  have hallowed : (ProcInfo.processId a).Apart (ProcInfo.allowed a) := field_apart _ (by decide)
  rw [procReply, Field.get_set_apart _ _ _ hallowed, Field.get_set]
  exact Nat.mod_eq_of_lt (Field.get_lt _ _ _)

theorem processId_answeredReply (a : Arch) (choice : ℕ) :
    (ProcInfo.processId a).get (answeredReply a reply choice) FilterReply.headerSize =
      (ProcInfo.processId a).get reply FilterReply.headerSize := by
  have hallowed : (ProcInfo.processId a).Apart (ProcInfo.allowed a) := field_apart _ (by decide)
  unfold answeredReply
  split_ifs
  · exact Field.get_set_apart _ _ _ hallowed
  · rfl

end Answers

/-! ## A delivered message -/

section Deliver

variable (buffer : MessageBuffer) (replyLength id : ℕ) (m : Mem) {size : ℕ}

theorem messageId_deliver (payload : List UInt8) (h : id < 256 ^ 8) :
    messageId (buffer.deliver replyLength id payload) = id := by
  have hbeside : CommandRequest.messageId.get
      (write (CommandRequest.messageId.set (CommandRequest.replyLength.set buffer.bytes 0
        replyLength) 0 id) CommandRequest.payload payload) 0 =
      CommandRequest.messageId.get (CommandRequest.messageId.set
        (CommandRequest.replyLength.set buffer.bytes 0 replyLength) 0 id) 0 :=
    congrArg leNat (read_write_beside _ _ _ _ (Or.inl (by decide)))
  rw [messageId, MessageBuffer.deliver, hbeside, Field.get_set]
  exact Nat.mod_eq_of_lt h

theorem payload_deliver {f : Field} (h : f.off + f.size ≤ size) :
    f.get (buffer.deliver replyLength id (read m 0 size)).bytes CommandRequest.payload =
      f.get m 0 :=
  Field.get_write_read _ _ h

theorem command_deliver (h : 4 ≤ size) :
    command (buffer.deliver replyLength id (read m 0 size)) = payloadCommand.get m 0 :=
  payload_deliver buffer replyLength id m h

end Deliver

/-! ## The dispatch -/

def Replies : CommandCode → Prop
  | .cmdGetLibraryVersion | .cmdGiveProcname | .cmdSendTextBuff => True
  | _ => False

def NeedsReply (command : ℕ) : Prop := ∃ c, CommandCode.ofValue command = some c ∧ Replies c

section Commands

variable {a : Arch} {stack : Mem} {buffer : MessageBuffer}

theorem dispatch_cmdGetLibraryVersion
    (h : command buffer = CommandCode.cmdGetLibraryVersion.value) :
    dispatch a stack buffer =
      .sendReply (versionReply stack buffer)
        (FilterReply.headerSize + VersionInformation.size) := by
  rw [dispatch, h, CommandCode.ofValue_value]

theorem dispatch_cmdGiveProcname (h : command buffer = CommandCode.cmdGiveProcname.value) :
    dispatch a stack buffer =
      match imageFileName a buffer with
      | none => .faulted
      | some name => .messageBox (procReply a stack buffer) (messageBoxText a buffer name) := by
  rw [dispatch, h, CommandCode.ofValue_value]

theorem dispatch_cmdSendTextBuff (h : command buffer = CommandCode.cmdSendTextBuff.value) :
    dispatch a stack buffer =
      match buffCollected buffer with
      | none => .faulted
      | some collected =>
          .sendReply (scanReply stack buffer collected)
            (FilterReply.headerSize + TextbuffInfo.size) := by
  rw [dispatch, h, CommandCode.ofValue_value]

end Commands

/-- The dispatch builds a reply to the buffer, faults, or finds no reply due. -/
theorem dispatch_cases (a : Arch) (stack : Mem) (buffer : MessageBuffer) :
    (∃ reply length, dispatch a stack buffer = .sendReply reply length ∧
        Answers reply buffer ∧ command buffer ≠ CommandCode.cmdGiveProcname.value) ∨
      (∃ text, dispatch a stack buffer = .messageBox (procReply a stack buffer) text ∧
        Answers (procReply a stack buffer) buffer) ∨
      dispatch a stack buffer = .faulted ∨
      (dispatch a stack buffer = .testTerminate ∧ ¬ NeedsReply (command buffer)) := by
  cases hc : CommandCode.ofValue (command buffer) with
  | none => exact Or.inr (Or.inr (Or.inr ⟨by simp [dispatch, hc], by simp [NeedsReply, hc]⟩))
  | some c =>
      have hvalue := CommandCode.ofValue_eq_some_iff.mp hc
      cases c with
      | cmdGetLibraryVersion =>
          exact Or.inl ⟨_, _, dispatch_cmdGetLibraryVersion hvalue, answers_versionReply hvalue,
            by simp [hvalue, CommandCode.value]⟩
      | cmdGiveProcname =>
          have hdispatch := @dispatch_cmdGiveProcname a stack _ hvalue
          cases hname : imageFileName a buffer with
          | none =>
              rw [hname] at hdispatch
              exact Or.inr (Or.inr (Or.inl hdispatch))
          | some name =>
              rw [hname] at hdispatch
              exact Or.inr (Or.inl ⟨_, hdispatch, answers_procReply hvalue⟩)
      | cmdSendTextBuff =>
          have hdispatch := @dispatch_cmdSendTextBuff a stack _ hvalue
          cases hcollected : buffCollected buffer with
          | none =>
              rw [hcollected] at hdispatch
              exact Or.inr (Or.inr (Or.inl hdispatch))
          | some collected =>
              rw [hcollected] at hdispatch
              exact Or.inl ⟨_, _, hdispatch, answers_scanReply hvalue collected,
                by simp [hvalue, CommandCode.value]⟩
      | _ =>
          exact Or.inr (Or.inr (Or.inr
            ⟨by simp [dispatch, hc], by simp [NeedsReply, hc, Replies]⟩))

/-! ## One step of the loop -/

section Step

variable {a : Arch} {buffer : MessageBuffer} {pc pc' : Pc}

theorem step_waitForSingleObject {result : Dword} :
    step a buffer pc (.waitForSingleObject result) = some pc' ↔
      pc = .testTerminate ∧ pc' = if result = waitObject0 then .returned else .getMessage := by
  cases pc <;> simp [step, eq_comm]

theorem step_filterGetMessage {result : Hresult} :
    step a buffer pc (.filterGetMessage result) = some pc' ↔
      pc = .getMessage ∧ pc' = afterGetMessage result := by
  cases pc <;> simp [step, eq_comm]

theorem step_waitForMultipleObjects {result : Dword} :
    step a buffer pc (.waitForMultipleObjects result) = some pc' ↔
      pc = .waitPending ∧ pc' = afterWait result := by
  cases pc <;> simp [step, eq_comm]

theorem step_getOverlappedResult {ok : Bool} :
    step a buffer pc (.getOverlappedResult ok) = some pc' ↔
      pc = .overlappedResult ∧ pc' = if ok then .dispatch else .returned := by
  cases pc <;> simp [step, eq_comm]

theorem step_stack {stack : Mem} :
    step a buffer pc (.stack stack) = some pc' ↔
      pc = .dispatch ∧ pc' = dispatch a stack buffer := by
  cases pc <;> simp [step, eq_comm]

theorem step_messageBox {choice : ℕ} :
    step a buffer pc (.messageBox choice) = some pc' ↔
      ∃ reply text, pc = .messageBox reply text ∧ pc' = afterMessageBox a reply choice := by
  cases pc <;> simp [step, eq_comm]

theorem step_filterReplyMessage {result : Hresult} :
    step a buffer pc (.filterReplyMessage result) = some pc' ↔
      ∃ reply length, pc = .sendReply reply length ∧ pc' = .testTerminate := by
  cases pc <;> simp [step, eq_comm]

@[simp] theorem afterGetMessage_sOk : afterGetMessage (hresultFromWin32 sOk) = .dispatch := rfl

@[simp] theorem afterGetMessage_ioPending :
    afterGetMessage (hresultFromWin32 errorIoPending) = .waitPending := rfl

theorem afterGetMessage_failure {result : Hresult}
    (hpending : result ≠ hresultFromWin32 errorIoPending) (hok : result ≠ hresultFromWin32 sOk) :
    afterGetMessage result = .returned := by
  simp [afterGetMessage, hpending, hok]

@[simp] theorem afterWait_event : afterWait (waitObject0 + 1) = .overlappedResult := rfl

theorem afterWait_failure {result : Dword} (h : result ≠ waitObject0 + 1) :
    afterWait result = .returned := by
  rw [afterWait, if_pos h, ite_self]

end Step

end CommThread

end NtDriver
