import NtDriver.LoneThread
import NtDriver.ScanVerdict

/-!
# Answers in kind

The port carries the questions about new processes, the scans and the version
queries at once, and any thread may take any of them.  Each accepted reply is the
reply to its own message, in the structure that its sender expects, and the verdict
on a scan is the verdict on its own text.
-/

namespace NtDriver.PortAnswers

open Memory Layout CString Transition CommThread MessagePort Function
open LoneThread (Served prepared sent inTurn_of_reachable)
open ScanVerdict (allowed_scanReply bytesToScan_scanRequest command_delivered command_scanRequest
  dispatch_delivered permission_eq_zero_iff read_scanRequest_contents)

/-! ## Messages and replies -/

/-- A member of a message, or of the payload of a reply. -/
def member (f : Field) (message : List UInt8) : ℕ := f.get (write (fun _ ↦ 0) 0 message) 0

/-- The structure behind the header of the reply to a command. -/
def replySize (b : Arch) : CommandCode → ℕ
  | .cmdGetLibraryVersion => VersionInformation.size
  | .cmdGiveProcname => ProcInfo.size b
  | .cmdSendTextBuff => TextbuffInfo.size
  | _ => 0

/-- The text of a scan that fits in `Contents`, up to its first NUL. -/
def searched (message : List UInt8) : List UInt8 :=
  ((read (write (fun _ ↦ 0) 0 message) TextbuffInfo.contents.off scannerReadBufferSize).take
    (member TextbuffInfo.bytesToScan message)).takeWhile (· ≠ 0)

/-- The payload answers the message: it has the message's command and that command's
size, what it says of a process it says of the one that was asked about, and it allows
a text that fits in `Contents` exactly when the word is not in it up to its first NUL. -/
structure Answer (b : Arch) (message payload : List UInt8) : Prop where
  command : member payloadCommand payload = member payloadCommand message
  size : ∃ c, Replies c ∧ member payloadCommand message = c.value ∧ payload.length = replySize b c
  processId : member payloadCommand message = CommandCode.cmdGiveProcname.value →
    ProcInfo.size b ≤ message.length →
      member (ProcInfo.processId b) payload = member (ProcInfo.processId b) message
  verdict : member payloadCommand message = CommandCode.cmdSendTextBuff.value →
    TextbuffInfo.size ≤ message.length →
      member TextbuffInfo.bytesToScan message ≤ scannerReadBufferSize →
        (member TextbuffInfo.allowed payload = 0 ↔ petrica <:+: searched message)

section Members

variable {f : Field} {m : Mem} {base : ℕ} {message : List UInt8}

theorem member_read {size : ℕ} (h : f.off + f.size ≤ size) :
    member f (read m base size) = f.get m base :=
  Field.get_write_read _ _ h

theorem member_of_read (hmessage : read m base message.length = message)
    (h : f.off + f.size ≤ message.length) : f.get m base = member f message := by
  rw [← member_read h, hmessage]

theorem payloadCommand_fits {b : Arch} {c : CommandCode} (h : Replies c) :
    payloadCommand.off + payloadCommand.size ≤ replySize b c := by
  cases c with
  | cmdGetLibraryVersion | cmdGiveProcname | cmdSendTextBuff => cases b <;> decide
  | _ => exact h.elim

theorem processId_fits (b : Arch) :
    (ProcInfo.processId b).off + (ProcInfo.processId b).size ≤ ProcInfo.size b := by
  rw [ProcInfo.processId_eq, ProcInfo.size_eq]

theorem allowed_fits :
    TextbuffInfo.allowed.off + TextbuffInfo.allowed.size ≤ TextbuffInfo.size := by
  decide

theorem value_injective {c c' : CommandCode} (h : c.value = c'.value) : c = c' := by
  have hvalue := CommandCode.ofValue_value c
  rw [h, CommandCode.ofValue_value] at hvalue
  exact (Option.some.inj hvalue).symm

end Members

/-! ## What a thread prepares -/

/-- A reply that is ready to be sent for a message. -/
structure Prepared (b : Arch) (message : List UInt8) (reply : Mem) (length : ℕ) : Prop where
  size : ∃ c, Replies c ∧ member payloadCommand message = c.value ∧
    length = FilterReply.headerSize + replySize b c
  command : replyCommand reply = member payloadCommand message
  processId : member payloadCommand message = CommandCode.cmdGiveProcname.value →
    ProcInfo.size b ≤ message.length →
      (ProcInfo.processId b).get reply FilterReply.headerSize =
        member (ProcInfo.processId b) message
  verdict : member payloadCommand message = CommandCode.cmdSendTextBuff.value →
    TextbuffInfo.size ≤ message.length →
      member TextbuffInfo.bytesToScan message ≤ scannerReadBufferSize →
        (TextbuffInfo.allowed.get reply FilterReply.headerSize = 0 ↔
          petrica <:+: searched message)

theorem Prepared.answer {b : Arch} {message : List UInt8} {reply : Mem} {length : ℕ}
    (h : Prepared b message reply length) :
    Answer b message
      (read reply FilterReply.headerSize (length - FilterReply.headerSize)) := by
  obtain ⟨c, hreplies, hc, rfl⟩ := h.size
  rw [Nat.add_sub_cancel_left]
  refine ⟨?_, ⟨c, hreplies, hc, length_read ..⟩, fun hprocess hsize ↦ ?_,
    fun htext hsize hshort ↦ ?_⟩
  · exact (member_read (payloadCommand_fits hreplies)).trans h.command
  · obtain rfl := value_injective (hc.symm.trans hprocess)
    exact (member_read (processId_fits b)).trans (h.processId hprocess hsize)
  · obtain rfl := value_injective (hc.symm.trans htext)
    rw [← h.verdict htext hsize hshort]
    exact iff_of_eq (congrArg (· = 0) (member_read allowed_fits))

section Dispatch

variable {b : Arch} {buffer : MessageBuffer} {message : List UInt8} {stack : Mem}

def Carries (buffer : MessageBuffer) (message : List UInt8) : Prop :=
  read buffer.bytes CommandRequest.payload message.length = message

theorem carries_deliver (buffer : MessageBuffer) (replyLength id : ℕ) (message : List UInt8) :
    Carries (buffer.deliver replyLength id message) message :=
  read_write_self ..

theorem Carries.command (h : Carries buffer message) (hsize : 4 ≤ message.length) :
    CommThread.command buffer = member payloadCommand message :=
  member_of_read h hsize

theorem Prepared.of_answers {c : CommandCode} {reply : Mem} (hreplies : Replies c)
    (hmessage : member payloadCommand message = c.value) (hne : c ≠ .cmdGiveProcname)
    (hanswers : replyCommand reply = c.value)
    (hverdict : c = .cmdSendTextBuff → TextbuffInfo.size ≤ message.length →
      member TextbuffInfo.bytesToScan message ≤ scannerReadBufferSize →
        (TextbuffInfo.allowed.get reply FilterReply.headerSize = 0 ↔
          petrica <:+: searched message)) :
    Prepared b message reply (FilterReply.headerSize + replySize b c) where
  size := ⟨c, hreplies, hmessage, rfl⟩
  command := hanswers.trans hmessage.symm
  processId hprocess := absurd (value_injective (hmessage.symm.trans hprocess)) hne
  verdict htext := hverdict (value_injective (hmessage.symm.trans htext))

/-- A thread searches the text of the message that its buffer carries, and no other. -/
theorem find_collected_iff (h : Carries buffer message)
    (hsize : TextbuffInfo.size ≤ message.length)
    (hshort : member TextbuffInfo.bytesToScan message ≤ scannerReadBufferSize)
    {collected : List UInt8} (hcollected : buffCollected buffer = some collected) :
    (find petrica collected).isSome = true ↔ petrica <:+: searched message := by
  have hbytes : bytesToScan buffer = member TextbuffInfo.bytesToScan message :=
    member_of_read h ((by decide : _ ≤ TextbuffInfo.size).trans hsize)
  have hcontents : read (write (fun _ ↦ 0) 0 message) TextbuffInfo.contents.off
      scannerReadBufferSize =
        read buffer.bytes (CommandRequest.payload + TextbuffInfo.contents.off)
          scannerReadBufferSize := by
    have hread := @read_write_read (fun _ ↦ 0) 0 scannerReadBufferSize buffer.bytes
      CommandRequest.payload message.length TextbuffInfo.contents.off
      ((by decide : _ ≤ TextbuffInfo.size).trans hsize)
    rwa [h, Nat.zero_add] at hread
  have hreadable : scannerReadBufferSize ≤
      buffer.readable - (CommandRequest.payload + TextbuffInfo.contents.off) :=
    (by decide : _ ≤ messageBufferSize - 28).trans (Nat.sub_le_sub_right buffer.size_le _)
  obtain ⟨text, htext, rfl⟩ := Option.map_eq_some_iff.mp hcollected
  rw [cString_eq] at htext
  obtain rfl := Option.some.inj (Option.ite_none_right_eq_some.mp htext).2
  rw [find_isSome_iff, infix_resize_iff (by decide) (by decide), List.take_takeWhile, hbytes,
    take_read _ _ _ _ (hshort.trans hreadable), searched, hcontents, take_read _ _ _ _ hshort]

theorem prepared_answeredReply (h : Carries buffer message) (hsize : 4 ≤ message.length)
    (hcommand : CommThread.command buffer = CommandCode.cmdGiveProcname.value) (choice : ℕ) :
    Prepared b message (answeredReply b (procReply b stack buffer) choice)
      (FilterReply.headerSize + ProcInfo.size b) := by
  have hmessage := h.command hsize
  refine ⟨⟨.cmdGiveProcname, trivial, hmessage.symm.trans hcommand, rfl⟩,
    ((answers_procReply hcommand).answeredReply b choice).command.trans hmessage,
    fun _ hfits ↦ ?_, fun htext ↦ ?_⟩
  · rw [processId_answeredReply, processId_procReply]
    exact member_of_read h ((processId_fits b).trans hfits)
  · exact absurd (value_injective ((hmessage.symm.trans hcommand).symm.trans htext)) (by simp)

/-- What a thread sends answers the message that its buffer carries. -/
theorem Prepared.of_dispatch (h : Carries buffer message) (hsize : 4 ≤ message.length)
    {choice : ℕ} {reply : Mem} {length : ℕ}
    (hprepared : prepared b choice (dispatch b stack buffer) = some (reply, length)) :
    Prepared b message reply length := by
  have hcommand := h.command hsize
  cases hc : CommandCode.ofValue (CommThread.command buffer) with
  | none => simp [dispatch, hc, prepared] at hprepared
  | some c =>
      have hvalue := CommandCode.ofValue_eq_some_iff.mp hc
      have hmessage := hcommand.symm.trans hvalue
      cases c with
      | cmdGetLibraryVersion =>
          rw [dispatch_cmdGetLibraryVersion hvalue] at hprepared
          obtain ⟨rfl, rfl⟩ := Prod.mk.inj (Option.some.inj hprepared)
          exact .of_answers (c := .cmdGetLibraryVersion) trivial hmessage (by simp)
            ((answers_versionReply hvalue).command.trans hvalue) (by simp)
      | cmdGiveProcname =>
          rw [dispatch_cmdGiveProcname hvalue] at hprepared
          cases hname : imageFileName b buffer with
          | none => simp [hname, prepared] at hprepared
          | some name =>
              rw [hname] at hprepared
              obtain ⟨rfl, rfl⟩ := Prod.mk.inj (Option.some.inj hprepared)
              exact prepared_answeredReply h hsize hvalue choice
      | cmdSendTextBuff =>
          rw [dispatch_cmdSendTextBuff hvalue] at hprepared
          cases hcollected : buffCollected buffer with
          | none => simp [hcollected, prepared] at hprepared
          | some collected =>
              rw [hcollected] at hprepared
              obtain ⟨rfl, rfl⟩ := Prod.mk.inj (Option.some.inj hprepared)
              refine .of_answers (c := .cmdSendTextBuff) trivial hmessage (by simp)
                ((answers_scanReply hvalue collected).command.trans hvalue)
                fun _ hfits hshort ↦ ?_
              rw [allowed_scanReply, permission_eq_zero_iff]
              exact find_collected_iff h hfits hshort hcollected
      | _ => simp [dispatch, hc, prepared] at hprepared

end Dispatch

/-! ## The answers -/

/-- The message has one reply, from the thread that took it, and the reply answers it. -/
structure Answered (b : Arch) (message : List UInt8) (r : Record) (payload : List UInt8) :
    Prop where
  holder : ∃ i, r.holder = some i
  replies : r.replies = [sOk]
  answer : 4 ≤ message.length → Answer b message payload

theorem answered_of_served {b : Arch} {id : ℕ} {message payload : List UInt8} {r : Record}
    (h : Served b id message r payload) : Answered b message r payload where
  holder := h.holder
  replies := h.replies
  answer hsize := by
    obtain ⟨turn, -, hreply⟩ := h.turn
    obtain ⟨⟨reply, length⟩, hprepares, rfl⟩ := Option.map_eq_some_iff.mp hreply
    exact (Prepared.of_dispatch (carries_deliver ..) hsize hprepares).answer

/-- Whatever the order of the steps, no two threads work on one message, and every
message that has been replied to has one reply, which answers it. -/
theorem answered_of_reachable (a b : Arch) (creation : ℕ → Creation) (s : State)
    (h : (port a b creation).Reachable s) :
    (∀ i j id, (s.thread i).current = some id → (s.thread j).current = some id → i = j) ∧
      ∀ id payload, s.message id = .replied payload →
        Answered b (sent a creation s id) (s.record id) payload := by
  obtain ⟨hbase, hinTurn⟩ := inTurn_of_reachable h
  refine ⟨fun i j id hi hj ↦ ?_, fun id payload hid ↦
    answered_of_served (hinTurn.message id payload hid)⟩
  have hholder := (hbase.thread i).held id hi
  rw [(hbase.thread j).held id hj] at hholder
  exact (Option.some.inj hholder).symm

def emptyBuffer : MessageBuffer := ⟨fun _ ↦ 0, messageBufferSize, le_rfl⟩

/-- A message that one thread takes and answers. -/
theorem reachable_replied {message : List UInt8} {reply : Mem} {length : ℕ}
    (hdispatch : dispatch .x64 (fun _ ↦ 0) (emptyBuffer.deliver 0 1 message) =
      .sendReply reply length) (hid : replyMessageId reply = 1) :
    ∃ s, (port .x64 .x64 fun _ ↦ ProcVerdict.namelessCreation).Reachable s ∧
      (s.record 1).sender = .other message ∧
      s.message 1 = .replied (read reply FilterReply.headerSize
        (length - FilterReply.headerSize)) := by
  have h₀ : (port .x64 .x64 fun _ ↦ ProcVerdict.namelessCreation).Reachable
      ProcVerdict.initialState :=
    .init ⟨fun _ ↦ ⟨rfl, rfl⟩, fun _ ↦ rfl, fun _ ↦ ⟨rfl, rfl, rfl⟩⟩
  have h₁ := h₀.step (Step.sendOther 1 message rfl (by decide))
  have h₂ := h₁.step (Step.waitForSingleObject 0 258#32 rfl)
  have h₃ := h₂.step (Step.getMessage 0 1 0 rfl rfl)
  have h₄ := h₃.step (Step.dispatch 0 (fun _ ↦ 0) (step_stack.mpr ⟨rfl, hdispatch.symm⟩))
  have h₅ := h₄.step (Step.replyMessage 0 rfl rfl (by rw [hid]; exact Or.inr rfl))
  rw [hid] at h₅
  exact ⟨_, h₅, rfl, rfl⟩

def versionQuery : List UInt8 := [0, 0, 0, 0]

/-- A version query that is answered. -/
theorem answered_versionQuery : ∃ s payload,
    (port .x64 .x64 fun _ ↦ ProcVerdict.namelessCreation).Reachable s ∧
      s.message 1 = .replied payload ∧ Answer .x64 versionQuery payload := by
  have hcommand : command (emptyBuffer.deliver 0 1 versionQuery) =
      CommandCode.cmdGetLibraryVersion.value := by decide
  have hid : replyMessageId
      (versionReply (fun _ ↦ 0) (emptyBuffer.deliver 0 1 versionQuery)) = 1 := by
    rw [(answers_versionReply hcommand).messageId]
    exact messageId_deliver _ _ _ _ (by decide)
  obtain ⟨s, hreachable, hsender, hreplied⟩ :=
    reachable_replied (@dispatch_cmdGetLibraryVersion .x64 (fun _ ↦ 0) _ hcommand) hid
  have hanswer := ((answered_of_reachable .x64 .x64 _ s hreachable).2 1 _ hreplied).answer
  have hsent : sent .x64 (fun _ ↦ ProcVerdict.namelessCreation) s 1 = versionQuery := by
    rw [sent, hsender]
    rfl
  rw [hsent] at hanswer
  exact ⟨s, _, hreachable, hreplied, hanswer (by decide)⟩

/-! ## Scans -/

theorem member_write {f : Field} (m : Mem) {payload : List UInt8}
    (h : f.off + f.size ≤ payload.length) : f.get (write m 0 payload) 0 = member f payload := by
  apply congrArg leNat
  calc read (write m 0 payload) (0 + f.off) f.size
      = (payload.drop f.off).take f.size := read_write_inside m 0 f.size payload h
    _ = read (write (fun _ ↦ 0) 0 payload) (0 + f.off) f.size :=
      (read_write_inside _ 0 f.size payload h).symm

theorem member_scanMessage {f : Field} (stack : Mem) (block : List UInt8)
    (h : f.off + f.size ≤ TextbuffInfo.size) :
    member f (scanMessage stack block) = f.get (scanRequest stack block 1) 0 :=
  Field.get_write_read _ _ h

theorem searched_scanMessage (stack : Mem) {block : List UInt8}
    (hshort : block.length ≤ scannerReadBufferSize) :
    searched (scanMessage stack block) = block.takeWhile (· ≠ 0) := by
  have hlength : block.length < 256 ^ 4 := hshort.trans_lt (by decide)
  have hcontents : read (write (fun _ ↦ 0) 0 (scanMessage stack block))
      TextbuffInfo.contents.off scannerReadBufferSize =
        read (scanRequest stack block 1) 12 1024 :=
    read_write_read _ 0 _ (by decide)
  rw [searched, member_scanMessage _ _ (by decide), bytesToScan_scanRequest stack block hlength,
    hcontents, read_scanRequest_contents, List.take_of_length_le hshort, List.take_left' rfl]

/-- Any number of scans may be in flight with the questions about new processes: each
file is held back exactly when the text of its own block has the word. -/
theorem scanVerdict_of_reachable {a b : Arch} {creation : ℕ → Creation} {s : State}
    (h : (port a b creation).Reachable s) {env : ScanEnv} (stack : Mem)
    (hsends : env.sends = true) (hshort : env.block.length ≤ scannerReadBufferSize)
    {id : ℕ} (hsender : (s.record id).sender = .other (scanMessage stack env.block))
    {payload : List UInt8} (hreplied : s.message id = .replied payload) :
    (scannerpScanFileInUserMode env stack fun _ ↦ ⟨statusSuccess, payload⟩).safeToOpen = 0 ↔
      petrica <:+: env.block.takeWhile (· ≠ 0) := by
  have hanswered := answered_of_served ((inTurn_of_reachable h).2.message id payload hreplied)
  have hsent : sent a creation s id = scanMessage stack env.block := by
    rw [sent, hsender]
    rfl
  rw [hsent] at hanswered
  have hlength : (scanMessage stack env.block).length = TextbuffInfo.size := length_read ..
  have hanswer := hanswered.answer (by rw [hlength]; decide)
  have htext : member payloadCommand (scanMessage stack env.block) =
      CommandCode.cmdSendTextBuff.value :=
    (member_scanMessage stack env.block (by decide)).trans (command_scanRequest stack env.block)
  have hbytes : member TextbuffInfo.bytesToScan (scanMessage stack env.block) =
      env.block.length :=
    (member_scanMessage stack env.block (by decide)).trans
      (bytesToScan_scanRequest stack env.block (hshort.trans_lt (by decide)))
  have hsize : payload.length = TextbuffInfo.size := by
    obtain ⟨c, _, hc, hsize⟩ := hanswer.size
    obtain rfl := value_injective (hc.symm.trans htext)
    exact hsize
  rw [scan_of_sends hsends, if_pos rfl, member_write _ (by rw [hsize]; decide),
    hanswer.verdict htext hlength.ge (hbytes.le.trans hshort), searched_scanMessage stack hshort]

theorem block_sample : petrica.length ≤ max scannerReadBufferSize 512 := by decide

/-- A file of nothing but the word. -/
def forbiddenFile : ScanEnv where
  getVolume := statusSuccess
  getProperties := statusSuccess
  sectorSize := 512
  pool := true
  readFile := statusSuccess
  block := petrica
  sectorSize_lt := smallSector_lt
  block_le := block_sample

def waitingThread : ScanVerdict.Context := ⟨emptyBuffer, 0, 1, fun _ ↦ 0⟩

theorem scanVerdict_forbiddenFile : ∃ s payload,
    (port .x64 .x64 fun _ ↦ ProcVerdict.namelessCreation).Reachable s ∧
      s.message 1 = .replied payload ∧
      (scannerpScanFileInUserMode forbiddenFile (fun _ ↦ 0) fun _ ↦
        ⟨statusSuccess, payload⟩).safeToOpen = 0 := by
  have hends : (0 : UInt8) ∈ ScanVerdict.text waitingThread (fun _ ↦ 0) forbiddenFile.block := by
    refine List.mem_append_left _ (List.mem_append_right _ ?_)
    exact List.mem_map.mpr ⟨0, List.mem_range.mpr (by decide), rfl⟩
  have hdispatch := dispatch_delivered .x64 waitingThread forbiddenFile fun _ ↦ 0
  rw [if_pos hends] at hdispatch
  have hid := (@answers_scanReply (fun _ ↦ 0) _
    (command_delivered waitingThread (fun _ ↦ 0) forbiddenFile.block)
    (ScanVerdict.collected waitingThread (fun _ ↦ 0) forbiddenFile.block)).messageId
  obtain ⟨s, hreachable, hsender, hreplied⟩ := reachable_replied hdispatch
    (hid.trans (messageId_deliver _ _ _ _ (by decide)))
  have hsends : forbiddenFile.sends = true := by decide
  have hshort : forbiddenFile.block.length ≤ scannerReadBufferSize := by decide
  have hverdict := scanVerdict_of_reachable hreachable (fun _ ↦ 0) hsends hshort hsender hreplied
  exact ⟨s, _, hreachable, hreplied, hverdict.mpr List.infix_rfl⟩

end NtDriver.PortAnswers
