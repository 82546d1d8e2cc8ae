import NtDriver.CommThread

/-!
# The scan verdict

A block read by `ScannerpScanFileInUserMode` goes to the `cmdSendTextBuff` case
of a communication thread and the verdict comes back.  What the thread searches
is the text from `Contents` up to the first NUL byte, cut to `BytesToScan`; it
may begin with less than the block and go on behind the array.
-/

namespace NtDriver.ScanVerdict

open Memory Layout CString CommThread

/-- The thread that takes the message: its buffer before, the header that is written
to it, and the prior content of `reply`. -/
structure Context where
  buffer : MessageBuffer
  replyLength : ℕ
  messageId : ℕ
  stack : Mem

/-- What becomes of the message: the send fails, or a thread takes it and its
`FilterReplyMessage`, if it gets that far, is delivered. -/
inductive Delivery where
  | failed (status : NtStatus) (h : status ≠ statusSuccess)
  | answered (ctx : Context)

/-- `FltSendMessage`.  A thread that faults takes the connection with it. -/
def Delivery.send (a : Arch) : Delivery → List UInt8 → SendResult
  | .failed status _, _ => ⟨status, []⟩
  | .answered ctx, message =>
      match dispatch a ctx.stack (ctx.buffer.deliver ctx.replyLength ctx.messageId message) with
      | .sendReply reply length =>
          ⟨statusSuccess, read reply FilterReply.headerSize (length - FilterReply.headerSize)⟩
      | _ => ⟨statusPortDisconnected, []⟩

structure Scan where
  arch : Arch
  env : ScanEnv
  stack : Mem
  delivery : Delivery

namespace Scan

variable (s : Scan)

def result : ScanResult :=
  scannerpScanFileInUserMode s.env s.stack (s.delivery.send s.arch)

def Replied : Prop := ∃ message r, s.result.sent = some (message, r) ∧ r.status = statusSuccess

def Forbidden : Prop := petrica <:+: s.env.block

/-- The verdict is right: `FALSE` exactly for a block with the forbidden word if
the reply came back, and `TRUE` otherwise. -/
def VerdictRight : Prop :=
  (s.Replied → (s.result.safeToOpen = 0 ↔ s.Forbidden)) ∧
    (¬ s.Replied → s.result.safeToOpen = 1)

end Scan

/-! ## The text that the thread collects -/

section Text

variable (ctx : Context) (stack : Mem) (block : List UInt8)

def delivered : MessageBuffer :=
  ctx.buffer.deliver ctx.replyLength ctx.messageId (scanMessage stack block)

/-- What lies behind `Allowed`: the padding of `notification`, then what the
buffer held before and the heap behind it. -/
def behindAllowed : List UInt8 :=
  read stack 1037 3 ++ read ctx.buffer.bytes 1056 (ctx.buffer.readable - 1056)

def text : List UInt8 :=
  let contents := block.take scannerReadBufferSize
  contents ++ read stack (12 + contents.length) (1024 - contents.length) ++
    1 :: behindAllowed ctx stack

theorem read_scanRequest_contents :
    read (scanRequest stack block 1) 12 1024 =
      block.take scannerReadBufferSize ++
        read stack (12 + (block.take scannerReadBufferSize).length)
          (1024 - (block.take scannerReadBufferSize).length) := by
  have hlen : (block.take scannerReadBufferSize).length ≤ 1024 := List.length_take_le _ _
  refine (read_write_start _ _ _ _ hlen).trans (congrArg _ ?_)
  simp only [Field.set, TextbuffInfo.contents_eq, TextbuffInfo.allowed_eq,
    TextbuffInfo.command_eq, TextbuffInfo.bytesToScan_eq, Nat.zero_add]
  rw [read_setNat_beside (Or.inl (by omega)), read_setNat_beside (Or.inr (by omega)),
    read_setNat_beside (Or.inr (by omega))]

theorem read_scanRequest_allowed :
    read (scanRequest stack block 1) 1036 4 = 1 :: read stack 1037 3 := by
  have hlen : (block.take scannerReadBufferSize).length ≤ 1024 := List.length_take_le _ _
  have hcopy : read (scanRequest stack block 1) 1036 4 = _ :=
    read_write_beside _ _ _ _ (Or.inr (Nat.add_le_add_left hlen 12))
  refine hcopy.trans ((read_add _ _ 1 3).trans ?_)
  simp only [Field.set, TextbuffInfo.allowed_eq, TextbuffInfo.command_eq,
    TextbuffInfo.bytesToScan_eq]
  rw [Nat.zero_add, read_setNat_self, read_setNat_beside (Or.inr le_rfl),
    read_setNat_beside (Or.inr (by omega)), read_setNat_beside (Or.inr (by omega))]
  rfl

def withHeader : Mem :=
  CommandRequest.messageId.set
    (CommandRequest.replyLength.set ctx.buffer.bytes 0 ctx.replyLength) 0 ctx.messageId

theorem delivered_bytes : (delivered ctx stack block).bytes =
    write (withHeader ctx) 16 (read (scanRequest stack block 1) 0 1040) := rfl

theorem read_withHeader {off len : ℕ} (h : 16 ≤ off) :
    read (withHeader ctx) off len = read ctx.buffer.bytes off len := by
  rw [withHeader, Field.set, read_setNat_beside (Or.inr (le_trans (by decide) h)), Field.set,
    read_setNat_beside (Or.inr (le_trans (by decide) h))]

theorem read_delivered :
    read (delivered ctx stack block).bytes 28 (ctx.buffer.readable - 28) =
      text ctx stack block := by
  have hsize : 66560 ≤ ctx.buffer.readable := ctx.buffer.size_le
  have hsplit : ctx.buffer.readable - 28 = 1024 + (4 + (ctx.buffer.readable - 1056)) := by omega
  have hcontents : read (delivered ctx stack block).bytes (16 + 12) 1024 =
      read (scanRequest stack block 1) (0 + 12) 1024 :=
    read_write_read (withHeader ctx) 16 1024 (by decide)
  have hallowed : read (delivered ctx stack block).bytes (16 + 1036) 4 =
      read (scanRequest stack block 1) (0 + 1036) 4 :=
    read_write_read (withHeader ctx) 16 4 (by decide)
  have hrest : read (delivered ctx stack block).bytes 1056 (ctx.buffer.readable - 1056) =
      read ctx.buffer.bytes 1056 (ctx.buffer.readable - 1056) := by
    rw [delivered_bytes, read_write_beside _ _ _ _ (Or.inr (by rw [length_read])),
      read_withHeader ctx (by decide)]
  rw [hsplit, read_add, read_add, hcontents, hallowed, hrest, read_scanRequest_contents,
    read_scanRequest_allowed]
  rfl

/-! ## What is found in it -/

def collected : List UInt8 := resize ((text ctx stack block).takeWhile (· ≠ 0)) block.length

theorem bytesToScan_scanRequest (h : block.length < 256 ^ 4) :
    TextbuffInfo.bytesToScan.get (scanRequest stack block 1) 0 = block.length := by
  have hcontents : TextbuffInfo.bytesToScan.Apart TextbuffInfo.contents := by decide
  have hallowed : TextbuffInfo.bytesToScan.Apart TextbuffInfo.allowed := by decide
  have hcommand : TextbuffInfo.bytesToScan.Apart TextbuffInfo.command := by decide
  have hlen : (block.take scannerReadBufferSize).length ≤ TextbuffInfo.contents.size :=
    List.length_take_le _ _
  rw [scanRequest, Field.get_copy_apart _ _ hcontents hlen,
    Field.get_set_apart _ _ _ hallowed, Field.get_set_apart _ _ _ hcommand, Field.get_set]
  exact Nat.mod_eq_of_lt h

theorem command_scanRequest :
    TextbuffInfo.command.get (scanRequest stack block 1) 0 =
      CommandCode.cmdSendTextBuff.value := by
  have hcontents : TextbuffInfo.command.Apart TextbuffInfo.contents := by decide
  have hallowed : TextbuffInfo.command.Apart TextbuffInfo.allowed := by decide
  have hlen : (block.take scannerReadBufferSize).length ≤ TextbuffInfo.contents.size :=
    List.length_take_le _ _
  rw [scanRequest, Field.get_copy_apart _ _ hcontents hlen,
    Field.get_set_apart _ _ _ hallowed, Field.get_set]
  rfl

theorem command_delivered :
    command (delivered ctx stack block) = CommandCode.cmdSendTextBuff.value :=
  (command_deliver _ _ _ _ (by decide)).trans (command_scanRequest stack block)

theorem bytesToScan_delivered (h : block.length < 256 ^ 4) :
    bytesToScan (delivered ctx stack block) = block.length :=
  (payload_deliver _ _ _ _ (by decide)).trans (bytesToScan_scanRequest stack block h)

theorem buffCollected_delivered (h : block.length < 256 ^ 4) :
    buffCollected (delivered ctx stack block) =
      if 0 ∈ text ctx stack block then some (collected ctx stack block) else none := by
  have hstart : CommandRequest.payload + TextbuffInfo.contents.off = 28 := rfl
  have hreadable : (delivered ctx stack block).readable = ctx.buffer.readable := rfl
  simp only [buffCollected, hstart, hreadable, cString_eq, read_delivered,
    bytesToScan_delivered ctx stack block h, collected]
  split_ifs <;> rfl

def Seen : Prop := petrica <:+: (block.take scannerReadBufferSize).takeWhile (· ≠ 0)

/-- The block is cut, and the word stands in what follows `Allowed`, as far as
`BytesToScan` reaches. -/
def Leftover : Prop :=
  scannerReadBufferSize < block.length ∧ 0 ∉ block.take scannerReadBufferSize ∧
    petrica <:+: ((behindAllowed ctx stack).takeWhile (· ≠ 0)).take (block.length - 1025)

theorem Seen.infix {block : List UInt8} (h : Seen block) : petrica <:+: block :=
  h.trans ((List.takeWhile_prefix _).isInfix.trans (List.take_prefix _ _).isInfix)

theorem take_text_of_le (h : block.length ≤ scannerReadBufferSize) :
    (text ctx stack block).take block.length = block := by
  have hblock : block.take scannerReadBufferSize = block := List.take_of_length_le h
  rw [text, hblock, List.append_assoc, List.take_left' rfl]

theorem take_text_of_lt (h : scannerReadBufferSize < block.length) :
    (text ctx stack block).take block.length = block.take scannerReadBufferSize ++
      1 :: (behindAllowed ctx stack).take (block.length - 1025) := by
  have hlen : (block.take scannerReadBufferSize).length = 1024 := List.length_take_of_le h.le
  have htext : text ctx stack block =
      block.take scannerReadBufferSize ++ 1 :: behindAllowed ctx stack := by
    rw [text, hlen, Nat.sub_self, read_zero, List.append_nil]
  have hcount : block.length =
      (block.take scannerReadBufferSize).length + (block.length - 1025 + 1) := by
    rw [scannerReadBufferSize] at h
    omega
  rw [htext]
  calc (block.take scannerReadBufferSize ++ 1 :: behindAllowed ctx stack).take block.length
      = (block.take scannerReadBufferSize ++ 1 :: behindAllowed ctx stack).take
          ((block.take scannerReadBufferSize).length + (block.length - 1025 + 1)) := by
        rw [← hcount]
    _ = _ := by rw [List.take_length_add_append, List.take_succ_cons]

theorem find_collected_iff :
    (find petrica (collected ctx stack block)).isSome = true ↔
      Seen block ∨ Leftover ctx stack block := by
  have hzero : (0 : UInt8) ∉ petrica := by decide
  have hone : (1 : UInt8) ∉ petrica := by decide
  rw [find_isSome_iff, collected, infix_resize_iff hzero (by decide), List.take_takeWhile]
  rcases Nat.lt_or_ge scannerReadBufferSize block.length with hlt | hge
  · rw [take_text_of_lt ctx stack block hlt, Seen, Leftover, List.take_takeWhile]
    by_cases hnul : 0 ∈ block.take scannerReadBufferSize
    · rw [takeWhile_append_of_mem hnul]
      simp [hnul]
    · rw [takeWhile_append_of_notMem hnul, takeWhile_of_notMem hnul,
        List.takeWhile_cons_of_pos (by decide), infix_append_cons_iff hone]
      simp [hnul, hlt]
  · rw [take_text_of_le ctx stack block hge, Seen, List.take_of_length_le hge, or_iff_left]
    exact fun h ↦ absurd h.1 (Nat.not_lt.mpr hge)

end Text

/-! ## The verdict -/

section Verdict

variable {s : Scan} {ctx : Context}

/-- A thread has taken the message of the scan and has answered it: the text
from `Contents` on is terminated. -/
def Scan.Answered (s : Scan) (ctx : Context) : Prop :=
  s.env.sends = true ∧ s.delivery = .answered ctx ∧ 0 ∈ text ctx s.stack s.env.block

/-- Cutting the block at its first NUL or at 1024 bytes hides no forbidden word,
and the bytes behind it show none. -/
def Scan.Faithful (s : Scan) : Prop :=
  ∀ ctx, s.Answered ctx →
    (s.Forbidden → Seen s.env.block ∨ Leftover ctx s.stack s.env.block) ∧
      (Leftover ctx s.stack s.env.block → s.Forbidden)

theorem block_lt (env : ScanEnv) : env.block.length < 256 ^ 4 := by
  have hsector := env.sectorSize_lt
  have hle := env.block_le
  rw [scannerReadBufferSize] at hle
  omega

theorem dispatch_delivered (a : Arch) (ctx : Context) (env : ScanEnv) (stack : Mem) :
    dispatch a ctx.stack (delivered ctx stack env.block) =
      if 0 ∈ text ctx stack env.block then
        .sendReply (scanReply ctx.stack (delivered ctx stack env.block)
          (collected ctx stack env.block)) (FilterReply.headerSize + TextbuffInfo.size)
      else .faulted := by
  rw [dispatch_cmdSendTextBuff (command_delivered ctx stack env.block),
    buffCollected_delivered ctx stack env.block (block_lt env)]
  split_ifs <;> rfl

theorem allowed_scanReply (stack : Mem) (buffer : MessageBuffer) (collected : List UInt8) :
    TextbuffInfo.allowed.get (scanReply stack buffer collected) FilterReply.headerSize =
      permission collected := by
  have hcommand : TextbuffInfo.allowed.Apart TextbuffInfo.command := by decide
  rw [scanReply, Field.get_set_apart _ _ _ hcommand, Field.get_set]
  unfold permission
  split_ifs <;> rfl

theorem send_answered (h : s.Answered ctx) :
    s.delivery.send s.arch (scanMessage s.stack s.env.block) =
      ⟨statusSuccess, read (scanReply ctx.stack (delivered ctx s.stack s.env.block)
        (collected ctx s.stack s.env.block)) FilterReply.headerSize TextbuffInfo.size⟩ := by
  obtain ⟨_, hdelivery, hterminated⟩ := h
  have hdispatch := dispatch_delivered s.arch ctx s.env s.stack
  rw [if_pos hterminated, delivered] at hdispatch
  rw [hdelivery, Delivery.send]
  simp only [hdispatch, Nat.add_sub_cancel_left]
  rfl

theorem safeToOpen_answered (h : s.Answered ctx) :
    s.result.safeToOpen = permission (collected ctx s.stack s.env.block) := by
  rw [Scan.result, scan_of_sends h.1, send_answered h]
  simp only [if_true]
  rw [Field.get_write_read _ _ (by decide), allowed_scanReply]

theorem replied_of_answered (h : s.Answered ctx) : s.Replied := by
  refine ⟨_, _, by rw [Scan.result, scan_of_sends h.1], ?_⟩
  rw [send_answered h]

theorem send_not_answered (hsends : s.env.sends = true) (h : ∀ ctx, ¬ s.Answered ctx) :
    (s.delivery.send s.arch (scanMessage s.stack s.env.block)).status ≠ statusSuccess := by
  cases hdelivery : s.delivery with
  | failed status hstatus => exact hstatus
  | answered ctx =>
      have hopen : 0 ∉ text ctx s.stack s.env.block := fun hmem ↦ h ctx ⟨hsends, hdelivery, hmem⟩
      have hdispatch := dispatch_delivered s.arch ctx s.env s.stack
      rw [if_neg hopen, delivered] at hdispatch
      simp only [Delivery.send, hdispatch]
      decide

theorem safeToOpen_not_answered (h : ∀ ctx, ¬ s.Answered ctx) :
    ¬ s.Replied ∧ s.result.safeToOpen = 1 := by
  cases hsends : s.env.sends with
  | false =>
      obtain ⟨hsent, hsafe⟩ := scan_of_not_sends hsends s.stack (s.delivery.send s.arch)
      refine ⟨?_, hsafe⟩
      rintro ⟨message, r, hsome, _⟩
      rw [Scan.result, hsent] at hsome
      exact Option.some_ne_none _ hsome.symm
  | true =>
      have hstatus := send_not_answered hsends h
      rw [Scan.Replied, Scan.result, scan_of_sends hsends]
      refine ⟨?_, if_neg hstatus⟩
      rintro ⟨message, r, hsome, hr⟩
      obtain ⟨_, rfl⟩ := Prod.mk.inj (Option.some.inj hsome)
      exact hstatus hr

end Verdict

theorem permission_eq_zero_iff (collected : List UInt8) :
    permission collected = 0 ↔ (find petrica collected).isSome = true := by
  unfold permission
  split_ifs with h <;> simp [h]

/-- The verdict is right exactly when the text that is searched shows the
forbidden word just as the block does. -/
theorem verdictRight_iff_faithful (s : Scan) : s.VerdictRight ↔ s.Faithful := by
  by_cases hanswered : ∃ ctx, s.Answered ctx
  · obtain ⟨ctx, hanswered⟩ := hanswered
    have hright : s.VerdictRight ↔
        (Seen s.env.block ∨ Leftover ctx s.stack s.env.block ↔ s.Forbidden) := by
      rw [← find_collected_iff, ← permission_eq_zero_iff, ← safeToOpen_answered hanswered]
      simp [Scan.VerdictRight, replied_of_answered hanswered]
    have hfaithful : s.Faithful ↔
        (s.Forbidden → Seen s.env.block ∨ Leftover ctx s.stack s.env.block) ∧
          (Leftover ctx s.stack s.env.block → s.Forbidden) := by
      refine ⟨fun h ↦ h ctx hanswered, fun h ctx' hanswered' ↦ ?_⟩
      obtain rfl : ctx = ctx' :=
        Delivery.answered.inj (hanswered.2.1.symm.trans hanswered'.2.1)
      exact h
    rw [hright, hfaithful]
    constructor
    · exact fun h ↦ ⟨h.mpr, fun hleft ↦ h.mp (Or.inr hleft)⟩
    · rintro ⟨hseen, hleft⟩
      exact ⟨fun h ↦ h.elim Seen.infix hleft, hseen⟩
  · have hnone : ∀ ctx, ¬ s.Answered ctx := fun ctx h ↦ hanswered ⟨ctx, h⟩
    obtain ⟨hreplied, hsafe⟩ := safeToOpen_not_answered hnone
    exact iff_of_true ⟨fun h ↦ absurd h hreplied, fun _ ↦ hsafe⟩ fun ctx h ↦ absurd h (hnone ctx)

def freshThread : Context :=
  ⟨⟨fun _ ↦ 0, messageBufferSize, le_rfl⟩, 1056, 1, fun _ ↦ 0⟩

/-- A file that begins with a NUL byte, ahead of the forbidden word. -/
def nulFirst : Scan where
  arch := .x64
  env :=
    { getVolume := statusSuccess, getProperties := statusSuccess, sectorSize := 512, pool := true
      readFile := statusSuccess, block := 0 :: petrica
      sectorSize_lt := by decide, block_le := by decide }
  stack := fun _ ↦ 0
  delivery := .answered freshThread

theorem not_verdictRight_nulFirst : ¬ ∀ s : Scan, s.VerdictRight := by
  intro hall
  have hanswered : nulFirst.Answered freshThread :=
    ⟨by decide, rfl, List.mem_append_left _ (List.mem_append_left _ List.mem_cons_self)⟩
  have hforbidden : nulFirst.Forbidden := List.infix_cons List.infix_rfl
  have hfalse := ((hall nulFirst).1 (replied_of_answered hanswered)).mpr hforbidden
  rw [safeToOpen_answered hanswered, permission_eq_zero_iff, find_collected_iff] at hfalse
  rcases hfalse with hseen | hleft
  · have hnil : petrica <:+: [] := hseen
    exact absurd hnil (by decide)
  · exact absurd hleft.1 (by decide)

end NtDriver.ScanVerdict
