import NtDriver.ScanVerdict

/-!
# One message after another

A thread receives every message into the same `MessageBuffer`, and a string in a
message may run past the message's own bytes.  What lies there is what earlier
messages have left, so two histories can tell the same message apart.
-/

namespace NtDriver.History

open Memory Layout CString CommThread ScanVerdict

/-- A message that the driver sends, with the prior content of the structure that
it is built in. -/
inductive DriverMessage where
  | version (stack : Mem)
  | procInfo (stack : Mem) (processId : ℕ) (name : UnicodeString)
  | scan (stack : Mem) (env : ScanEnv)

def DriverMessage.payload (d : Arch) : DriverMessage → List UInt8
  | .version stack => clientVersionMessage stack
  | .procInfo stack processId name => procDetailsMessage d stack processId name
  | .scan stack env => scanMessage stack env.block

structure Received where
  replyLength : ℕ
  messageId : ℕ
  message : DriverMessage

def receive (d : Arch) (buffer : MessageBuffer) (r : Received) : MessageBuffer :=
  buffer.deliver r.replyLength r.messageId (r.message.payload d)

def receiveAll (d : Arch) (buffer : MessageBuffer) (history : List Received) : MessageBuffer :=
  history.foldl (receive d) buffer

/-- The buffer as `make_shared` creates it: value-initialised, with anything on the
heap behind it. -/
def created (behind : Mem) (extra : ℕ) : MessageBuffer where
  bytes i := if i < messageBufferSize then 0 else behind i
  readable := messageBufferSize + extra
  size_le := Nat.le_add_right _ _

/-! ## What is seen of the handling -/

structure Handling where
  command : ℕ
  allowed : Option ℕ
  processId : Option ℕ
  text : Option (List ℕ)
  deriving DecidableEq

def observe (a : Arch) (text : Option (List ℕ)) (reply : Mem) : Handling where
  command := replyCommand reply
  allowed := match CommandCode.ofValue (replyCommand reply) with
    | some .cmdGiveProcname => some ((ProcInfo.allowed a).get reply FilterReply.headerSize)
    | some .cmdSendTextBuff => some (TextbuffInfo.allowed.get reply FilterReply.headerSize)
    | _ => none
  processId := match CommandCode.ofValue (replyCommand reply) with
    | some .cmdGiveProcname => some ((ProcInfo.processId a).get reply FilterReply.headerSize)
    | _ => none
  text := text

/-- The handling of the message in the buffer, from the dispatch to the reply;
`none` if the thread faults or finds no reply due. -/
def handle (a : Arch) (stack : Mem) (choice : ℕ) (buffer : MessageBuffer) : Option Handling :=
  match dispatch a stack buffer with
  | .sendReply reply _ => some (observe a none reply)
  | .messageBox reply text =>
      match afterMessageBox a reply choice with
      | .sendReply reply _ => some (observe a (some text) reply)
      | _ => none
  | _ => none

/-- No two histories make a difference to the handling of `m`. -/
def Independent (d a : Arch) (m : DriverMessage) : Prop :=
  ∀ (behind : Mem) (extra : ℕ) (h₁ h₂ : List Received) (replyLength messageId : ℕ)
    (stack₁ stack₂ : Mem) (choice : ℕ),
    handle a stack₁ choice
        (receive d (receiveAll d (created behind extra) h₁) ⟨replyLength, messageId, m⟩) =
      handle a stack₂ choice
        (receive d (receiveAll d (created behind extra) h₂) ⟨replyLength, messageId, m⟩)

/-- A block without a NUL is cut, its word may begin in the padding behind `Allowed`,
and `BytesToScan` reaches over the end of the message to the word's last byte. -/
def DriverMessage.Exposed : DriverMessage → Prop
  | .scan stack env =>
      scannerReadBufferSize < env.block.length ∧ 0 ∉ env.block.take scannerReadBufferSize ∧
        0 ∉ read stack 1037 3 ∧ ¬ petrica <:+: env.block.take scannerReadBufferSize ∧
        ∃ s t, petrica = s ++ t ∧ t ≠ [] ∧ s <:+ read stack 1037 3 ∧
          1028 + t.length ≤ env.block.length
  | _ => False

/-! ## The bytes that no message reaches -/

def Blank (d : Arch) (buffer : MessageBuffer) : Prop :=
  ∀ i, CommandRequest.payload + ProcInfo.size d ≤ i → i < messageBufferSize →
    buffer.bytes i = 0

section Blank

variable {d : Arch} {buffer buffer' : MessageBuffer}

theorem length_payload_le (m : DriverMessage) : (m.payload d).length ≤ ProcInfo.size d := by
  cases m with
  | version stack =>
      simp only [DriverMessage.payload, clientVersionMessage, length_read, ProcInfo.size_eq]
      exact le_trans (by decide) (Nat.le_add_right 2056 _)
  | procInfo stack processId name =>
      simp [DriverMessage.payload, procDetailsMessage]
  | scan stack env =>
      simp only [DriverMessage.payload, scanMessage, length_read, ProcInfo.size_eq]
      exact le_trans (by decide) (Nat.le_add_right 2056 _)

theorem bytes_receive_of_ge (r : Received) {i : ℕ}
    (h : CommandRequest.payload + (r.message.payload d).length ≤ i) :
    (receive d buffer r).bytes i = buffer.bytes i := by
  have hi : 16 ≤ i := le_trans (Nat.le_add_right CommandRequest.payload _) h
  have hbytes : (receive d buffer r).bytes =
      write (CommandRequest.messageId.set (CommandRequest.replyLength.set buffer.bytes 0
        r.replyLength) 0 r.messageId) CommandRequest.payload (r.message.payload d) := rfl
  rw [hbytes, write_of_ge _ _ _ h, Field.set, setNat,
    write_of_ge _ _ _ (by rw [length_leBytes]; exact hi), Field.set, setNat,
    write_of_ge _ _ _ (by rw [length_leBytes]; exact le_trans (by decide) hi)]

theorem bytes_receive_payload (r : Received) {k : ℕ} (h : k < (r.message.payload d).length) :
    (receive d buffer r).bytes (CommandRequest.payload + k) = (r.message.payload d)[k] :=
  write_add _ _ _ h

theorem Blank.receive (h : Blank d buffer) (r : Received) :
    Blank d (History.receive d buffer r) := by
  intro i hi hsize
  have hlen := length_payload_le (d := d) r.message
  rw [bytes_receive_of_ge r (le_trans (Nat.add_le_add_left hlen _) hi)]
  exact h i hi hsize

theorem Blank.receiveAll (h : Blank d buffer) (history : List Received) :
    Blank d (History.receiveAll d buffer history) := by
  induction history generalizing buffer with
  | nil => exact h
  | cons r history ih => exact ih (h.receive r)

theorem blank_created (behind : Mem) (extra : ℕ) : Blank d (created behind extra) := by
  intro i _ hsize
  exact if_pos hsize

end Blank

/-! ## The handling of each message -/

section Handle

variable {a : Arch} {stack : Mem} {choice : ℕ} {buffer buffer' : MessageBuffer}

theorem handle_cmdGetLibraryVersion
    (h : command buffer = CommandCode.cmdGetLibraryVersion.value) :
    handle a stack choice buffer =
      some ⟨CommandCode.cmdGetLibraryVersion.value, none, none, none⟩ := by
  have hcommand : replyCommand (versionReply stack buffer) = _ :=
    (answers_versionReply h).command.trans h
  simp only [handle, dispatch_cmdGetLibraryVersion h, observe, hcommand,
    CommandCode.ofValue_value]

theorem handle_cmdGiveProcname (h : command buffer = CommandCode.cmdGiveProcname.value) :
    handle a stack choice buffer = (imageFileName a buffer).map fun name ↦
      ⟨CommandCode.cmdGiveProcname.value, some (if choice = idOk then 0 else 1),
        some ((ProcInfo.processId a).get buffer.bytes CommandRequest.payload),
        some (messageBoxText a buffer name)⟩ := by
  have hanswers : Answers (answeredReply a (procReply a stack buffer) choice) buffer :=
    (answers_procReply h).answeredReply a choice
  have hcommand := hanswers.command.trans h
  cases hname : imageFileName a buffer with
  | none => simp only [handle, dispatch_cmdGiveProcname h, hname, Option.map_none]
  | some name =>
      simp only [handle, dispatch_cmdGiveProcname h, hname, afterMessageBox, observe, hcommand,
        CommandCode.ofValue_value, allowed_answeredReply (allowed_procReply a) choice,
        processId_answeredReply, processId_procReply, Option.map_some]

theorem handle_cmdSendTextBuff (h : command buffer = CommandCode.cmdSendTextBuff.value) :
    handle a stack choice buffer = (buffCollected buffer).map fun collected ↦
      ⟨CommandCode.cmdSendTextBuff.value, some (permission collected), none, none⟩ := by
  cases hcollected : buffCollected buffer with
  | none => simp only [handle, dispatch_cmdSendTextBuff h, hcollected, Option.map_none]
  | some collected =>
      have hcommand : replyCommand (scanReply stack buffer collected) = _ :=
        (answers_scanReply h collected).command.trans h
      simp only [handle, dispatch_cmdSendTextBuff h, hcollected, observe, hcommand,
        CommandCode.ofValue_value, allowed_scanReply, Option.map_some]

end Handle

/-! ## A process creation -/

section ProcInfo

variable {d : Arch} {buffer buffer' : MessageBuffer}

/-- Both buffers hold the same payload and the same bytes behind it. -/
def Agree (buffer buffer' : MessageBuffer) : Prop :=
  ∀ i, CommandRequest.payload ≤ i → i < messageBufferSize → buffer.bytes i = buffer'.bytes i

theorem Agree.getNat (h : Agree buffer buffer') {off size : ℕ}
    (hoff : CommandRequest.payload ≤ off) (hend : off + size ≤ messageBufferSize) :
    getNat buffer.bytes off size = getNat buffer'.bytes off size := by
  apply congrArg leNat
  apply read_congr
  intro i hi
  exact h _ (by omega) (by omega)

theorem Blank.getNat (h : Blank d buffer) : getNat buffer.bytes 2080 2 = 0 := by
  have hsize := ProcInfo.size_eq d
  have hend : CommandRequest.payload + ProcInfo.size d ≤ 2080 := by
    rw [hsize, CommandRequest.payload_eq]
    cases d <;> decide
  have hread : read buffer.bytes 2080 2 = [0, 0] := by
    simp [Memory.read, List.range_succ, h 2080 hend (by decide), h 2081 (by omega) (by decide)]
  rw [Memory.getNat, hread]
  rfl

theorem imageFileName_congr (h : Agree buffer buffer') (hblank : Blank d buffer) (a : Arch) :
    imageFileName a buffer = imageFileName a buffer' := by
  have hsize := buffer.size_le
  have hsize' := buffer'.size_le
  have hstart : CommandRequest.payload + (ProcInfo.imageFileName a).off = 20 := by
    rw [ProcInfo.imageFileName_eq]
    rfl
  simp only [imageFileName, hstart]
  rw [messageBufferSize] at hsize hsize'
  apply cString_congr (k := 1030)
  · exact hblank.getNat
  · omega
  · omega
  · intro j hj
    apply h.getNat
    · exact le_trans (by decide) (Nat.le_add_right 20 _)
    · rw [messageBufferSize]
      omega

theorem agree_receive (h : Blank d buffer) (h' : Blank d buffer') {r : Received}
    (hlen : (r.message.payload d).length = ProcInfo.size d) :
    Agree (receive d buffer r) (receive d buffer' r) := by
  intro i hi hsize
  rcases Nat.lt_or_ge i (CommandRequest.payload + ProcInfo.size d) with hlt | hge
  · obtain ⟨k, rfl⟩ := Nat.exists_eq_add_of_le hi
    have hk : k < (r.message.payload d).length := by omega
    rw [bytes_receive_payload r hk, bytes_receive_payload r hk]
  · rw [bytes_receive_of_ge r (by omega), bytes_receive_of_ge r (by omega), h i hge hsize,
      h' i hge hsize]

theorem independent_version (d a : Arch) (stack : Mem) : Independent d a (.version stack) := by
  intro behind extra h₁ h₂ replyLength messageId stack₁ stack₂ choice
  have hcommand : ∀ b : MessageBuffer, command
      (receive d b ⟨replyLength, messageId, .version stack⟩) =
        CommandCode.cmdGetLibraryVersion.value := by
    intro b
    have hsize : 4 ≤ VersionInformation.size := by decide
    exact (command_deliver b replyLength messageId _ hsize).trans
      (command_clientVersionRequest stack)
  rw [handle_cmdGetLibraryVersion (hcommand _), handle_cmdGetLibraryVersion (hcommand _)]

theorem independent_procInfo (d a : Arch) (stack : Mem) (processId : ℕ) (name : UnicodeString) :
    Independent d a (.procInfo stack processId name) := by
  intro behind extra h₁ h₂ replyLength messageId stack₁ stack₂ choice
  have hblank : ∀ h, Blank d (receiveAll d (created behind extra) h) :=
    fun h ↦ (blank_created behind extra).receiveAll h
  have hcommand : ∀ b : MessageBuffer, command
      (receive d b ⟨replyLength, messageId, .procInfo stack processId name⟩) =
        CommandCode.cmdGiveProcname.value := by
    intro b
    have hsize : 4 ≤ ProcInfo.size d := by
      rw [ProcInfo.size_eq]
      omega
    exact (command_deliver b replyLength messageId _ hsize).trans
      (command_procDetailsRequest d stack processId name)
  have hagree := agree_receive (hblank h₁) (hblank h₂)
    (r := ⟨replyLength, messageId, .procInfo stack processId name⟩)
    (by simp [DriverMessage.payload, procDetailsMessage])
  have hprocess := @Agree.getNat _ _ hagree (CommandRequest.payload + (ProcInfo.processId a).off)
    (ProcInfo.processId a).size (Nat.le_add_right _ _)
    (by rw [ProcInfo.processId_eq]; cases a <;> decide)
  rw [handle_cmdGiveProcname (hcommand _), handle_cmdGiveProcname (hcommand _),
    imageFileName_congr hagree ((hblank h₁).receive _)]
  simp only [messageBoxText, Field.get, hprocess]

end ProcInfo

/-! ## A scan -/

section Scan

variable {d : Arch} {ctx : Context} {stack : Mem} {env : ScanEnv}

theorem zero_mem_text (h : Blank d ctx.buffer) (block : List UInt8) :
    0 ∈ text ctx stack block := by
  have hsize := ctx.buffer.size_le
  rw [messageBufferSize] at hsize
  have hend : CommandRequest.payload + ProcInfo.size d ≤ 2080 := by
    rw [ProcInfo.size_eq, CommandRequest.payload_eq]
    cases d <;> decide
  have hrest : 0 ∈ read ctx.buffer.bytes 1056 (ctx.buffer.readable - 1056) := by
    apply List.mem_map.mpr
    exact ⟨1024, List.mem_range.mpr (by omega), h 2080 hend (by decide)⟩
  apply List.mem_append_right
  apply List.mem_cons_of_mem
  exact List.mem_append_right _ hrest

theorem handle_scan {a : Arch} (choice : ℕ) (h : Blank d ctx.buffer) (replyStack : Mem) :
    handle a replyStack choice
        (receive d ctx.buffer ⟨ctx.replyLength, ctx.messageId, .scan stack env⟩) =
      some ⟨CommandCode.cmdSendTextBuff.value, some (permission (collected ctx stack env.block)),
        none, none⟩ := by
  have hbuffer : receive d ctx.buffer ⟨ctx.replyLength, ctx.messageId, .scan stack env⟩ =
      delivered ctx stack env.block := rfl
  rw [hbuffer, handle_cmdSendTextBuff (command_delivered ctx stack env.block),
    buffCollected_delivered ctx stack env.block (block_lt env), if_pos (zero_mem_text h _),
    Option.map_some]

theorem permission_eq_iff (s t : List UInt8) :
    permission s = permission t ↔
      ((find petrica s).isSome = true ↔ (find petrica t).isSome = true) := by
  unfold permission
  split_ifs with hs ht ht <;> simp [hs, ht]

/-- Leftover text completes the word only for a message that is exposed. -/
theorem exposed_of_leftover (hseen : ¬ Seen env.block) (h : Leftover ctx stack env.block) :
    DriverMessage.Exposed (.scan stack env) := by
  obtain ⟨hlen, hnul, hword⟩ := h
  have hpetrica : petrica.length = 7 := rfl
  have hpadding : (read stack 1037 3).length = 3 := length_read _ _ _
  have hshort : ∀ l : List UInt8, l.length ≤ 3 → ¬ petrica <:+: l := by
    intro l hl hinfix
    have hle := hinfix.length_le
    omega
  rw [Seen, takeWhile_of_notMem hnul] at hseen
  by_cases hpad : 0 ∈ read stack 1037 3
  · rw [behindAllowed, takeWhile_append_of_mem hpad] at hword
    refine absurd hword (hshort _ ?_)
    rw [← hpadding]
    exact (List.length_take_le' _ _).trans (List.takeWhile_prefix _).length_le
  · rw [behindAllowed, takeWhile_append_of_notMem hpad, List.take_append, hpadding] at hword
    rcases List.infix_append_iff_ne_nil.mp hword with h | h | ⟨s, t, _, ht, heq, hsuffix, hprefix⟩
    · exact absurd h (hshort _ ((List.length_take_le' _ _).trans hpadding.le))
    · have hle := h.length_le.trans (List.length_take_le _ _)
      refine ⟨hlen, hnul, hpad, hseen, [], petrica, rfl, by decide, List.nil_suffix, ?_⟩
      omega
    · have hle := hprefix.length_le.trans (List.length_take_le _ _)
      have hpos := List.length_pos_iff.mpr ht
      have htake : (read stack 1037 3).take (env.block.length - 1025) = read stack 1037 3 :=
        List.take_of_length_le (by omega)
      rw [htake] at hsuffix
      exact ⟨hlen, hnul, hpad, hseen, s, t, heq, ht, hsuffix, by omega⟩

theorem zero_lt_unicode : 0 < 2 ^ 16 := Nat.two_pow_pos 16

def emptyName : UnicodeString := ⟨0, fun _ ↦ 0, zero_lt_unicode⟩

/-- A creation whose notification holds `t` where the bytes behind a scan begin. -/
def leaving (t : List UInt8) : Received :=
  ⟨0, 0, .procInfo (write (fun _ ↦ 0) 1040 t) 0 emptyName⟩

theorem read_leaving (buffer : MessageBuffer) {t : List UInt8} (h : t.length ≤ 7) :
    read (receive d buffer (leaving t)).bytes 1056 t.length = t := by
  have hsize := ProcInfo.size_eq d
  have hpayload : read (receive d buffer (leaving t)).bytes (16 + 1040) t.length =
      read (procDetailsRequest d (write (fun _ ↦ 0) 1040 t) 0 emptyName)
        (0 + 1040) t.length := by
    apply read_write_read
    omega
  refine hpayload.trans ?_
  have hname : imageNameLength emptyName = 0 := rfl
  rw [procDetailsRequest, hname, read_zero, Field.copy,
    read_write_beside _ _ _ _ (Or.inr (by rw [ProcInfo.imageFileName_eq]; decide)), Field.set,
    read_setNat_beside (Or.inl (by rw [ProcInfo.processId_eq]; dsimp only; omega)), Field.set,
    read_setNat_beside (Or.inr (by rw [ProcInfo.command_eq]; decide))]
  exact read_write_self _ _ _

theorem leftover_leaving {buffer : MessageBuffer} (h : DriverMessage.Exposed (.scan stack env)) :
    ∃ t, ∀ replyLength messageId replyStack,
      Leftover ⟨receive d buffer (leaving t), replyLength, messageId, replyStack⟩ stack
        env.block := by
  obtain ⟨hlen, hnul, hpad, _, s, t, heq, ht, hsuffix, hreach⟩ := h
  refine ⟨t, fun replyLength messageId replyStack ↦ ⟨hlen, hnul, ?_⟩⟩
  have hword : s.length + t.length = 7 := by
    rw [← List.length_append, ← heq]
    rfl
  have hnulfree : 0 ∉ t := fun hmem ↦
    absurd (heq ▸ List.mem_append_right s hmem) (by decide : (0 : UInt8) ∉ petrica)
  have hreadable := (receive d buffer (leaving t)).size_le
  rw [messageBufferSize] at hreadable
  obtain ⟨rest, hrest⟩ : ∃ rest, read (receive d buffer (leaving t)).bytes 1056
      ((receive d buffer (leaving t)).readable - 1056) = t ++ rest := by
    have hsplit : (receive d buffer (leaving t)).readable - 1056 =
        t.length + ((receive d buffer (leaving t)).readable - 1056 - t.length) := by omega
    rw [hsplit, read_add, read_leaving buffer (by omega)]
    exact ⟨_, rfl⟩
  have hshown : read stack 1037 3 ++ t <+:
      ((read stack 1037 3 ++ (t ++ rest)).takeWhile (· ≠ 0)).take (env.block.length - 1025) := by
    rw [takeWhile_append_of_notMem hpad, takeWhile_append_of_notMem hnulfree]
    apply List.prefix_take_iff.mpr
    refine ⟨(List.prefix_append_right_inj _).mpr (List.prefix_append _ _), ?_⟩
    rw [List.length_append, length_read]
    omega
  obtain ⟨pre, hpre⟩ := hsuffix
  have hinfix : petrica <:+: read stack 1037 3 ++ t :=
    ⟨pre, [], by rw [heq, ← hpre]; simp⟩
  rw [behindAllowed, hrest]
  exact hinfix.trans hshown.isInfix

theorem not_leftover_created (behind : Mem) (extra : ℕ)
    (hbuffer : ctx.buffer = created behind extra) : ¬ Leftover ctx stack env.block := by
  rintro ⟨_, _, hword⟩
  have hreadable : ctx.buffer.readable = messageBufferSize + extra := by rw [hbuffer]; rfl
  have hfirst : ctx.buffer.readable - 1056 = ctx.buffer.readable - 1057 + 1 := by
    rw [hreadable, messageBufferSize]
    omega
  have hnul : ctx.buffer.bytes 1056 = 0 := by
    rw [hbuffer]
    rfl
  have hstop : (read ctx.buffer.bytes 1056 (ctx.buffer.readable - 1056)).takeWhile (· ≠ 0) =
      [] := by
    rw [hfirst, read_succ, hnul]
    rfl
  have htext : (behindAllowed ctx stack).takeWhile (· ≠ 0) <+: read stack 1037 3 := by
    rw [behindAllowed]
    by_cases hpad : 0 ∈ read stack 1037 3
    · rw [takeWhile_append_of_mem hpad]
      exact List.takeWhile_prefix _
    · rw [takeWhile_append_of_notMem hpad, hstop, List.append_nil]
  have hle := (hword.length_le.trans (List.length_take_le' _ _)).trans htext.length_le
  rw [length_read] at hle
  exact absurd hle (by decide)

theorem handle_scan_eq_iff {a : Arch} (stack : Mem) (env : ScanEnv) (choice : ℕ)
    (ctx ctx' : Context) (h : Blank d ctx.buffer) (h' : Blank d ctx'.buffer)
    (replyStack replyStack' : Mem) :
    handle a replyStack choice
          (receive d ctx.buffer ⟨ctx.replyLength, ctx.messageId, .scan stack env⟩) =
        handle a replyStack' choice
          (receive d ctx'.buffer ⟨ctx'.replyLength, ctx'.messageId, .scan stack env⟩) ↔
      (Seen env.block ∨ Leftover ctx stack env.block ↔
        Seen env.block ∨ Leftover ctx' stack env.block) := by
  rw [handle_scan choice h replyStack, handle_scan choice h' replyStack',
    ← find_collected_iff, ← find_collected_iff, ← permission_eq_iff]
  simp

theorem independent_scan_iff (d a : Arch) (stack : Mem) (env : ScanEnv) :
    Independent d a (.scan stack env) ↔ ¬ DriverMessage.Exposed (.scan stack env) := by
  constructor
  · intro hsame hexposed
    have hblank : Blank d (created (fun _ ↦ 0) 0) := blank_created _ _
    obtain ⟨t, hleft⟩ := leftover_leaving (d := d) hexposed
    have hfresh : ¬ Leftover ⟨created (fun _ ↦ 0) 0, 0, 0, fun _ ↦ 0⟩ stack env.block :=
      not_leftover_created (fun _ ↦ 0) 0 rfl
    have hseen : ¬ Seen env.block := by
      rw [Seen, takeWhile_of_notMem hexposed.2.1]
      exact hexposed.2.2.2.1
    have hiff := (handle_scan_eq_iff stack env idOk
      ⟨receive d (created (fun _ ↦ 0) 0) (leaving t), 0, 0, fun _ ↦ 0⟩
      ⟨created (fun _ ↦ 0) 0, 0, 0, fun _ ↦ 0⟩ (hblank.receive _) hblank (fun _ ↦ 0)
      fun _ ↦ 0).mp (hsame (fun _ ↦ 0) 0 [leaving t] [] 0 0 (fun _ ↦ 0) (fun _ ↦ 0) idOk)
    exact (hiff.mp (Or.inr (hleft _ _ _))).elim hseen hfresh
  · intro hexposed behind extra h₁ h₂ replyLength messageId stack₁ stack₂ choice
    have hblank : ∀ h, Blank d (receiveAll d (created behind extra) h) :=
      fun h ↦ (blank_created behind extra).receiveAll h
    have hshown : ∀ ctx, Seen env.block ∨ Leftover ctx stack env.block ↔ Seen env.block := by
      intro ctx
      constructor
      · rintro (hseen | hleft)
        · exact hseen
        · by_contra hseen
          exact hexposed (exposed_of_leftover hseen hleft)
      · exact Or.inl
    apply (handle_scan_eq_iff stack env choice
      ⟨receiveAll d (created behind extra) h₁, replyLength, messageId, stack₁⟩
      ⟨receiveAll d (created behind extra) h₂, replyLength, messageId, stack₂⟩
      (hblank h₁) (hblank h₂) stack₁ stack₂).mpr
    rw [hshown, hshown]

end Scan

/-- A message is handled alike after all histories exactly when it is not exposed. -/
theorem independent_iff (d a : Arch) (m : DriverMessage) : Independent d a m ↔ ¬ m.Exposed := by
  cases m with
  | version stack => exact iff_of_true (independent_version d a stack) id
  | procInfo stack processId name =>
      exact iff_of_true (independent_procInfo d a stack processId name) id
  | scan stack env => exact independent_scan_iff d a stack env

/-- A block of 4096 bytes, all `a`, from a volume with sectors of that size. -/
def wholeSector : ScanEnv where
  getVolume := statusSuccess
  getProperties := statusSuccess
  sectorSize := 4096
  pool := true
  readFile := statusSuccess
  block := List.replicate 4096 0x61
  sectorSize_lt := by decide
  block_le := by
    rw [List.length_replicate]
    decide

theorem not_independent_wholeSector : ¬ ∀ d a m, Independent d a m := by
  intro hall
  have hlen : wholeSector.block.length = 4096 := List.length_replicate
  have htake : wholeSector.block.take scannerReadBufferSize = List.replicate 1024 0x61 :=
    List.take_replicate
  have hword : ¬ petrica <:+: List.replicate 1024 0x61 := by
    intro hinfix
    have hp : (0x70 : UInt8) ∈ List.replicate 1024 0x61 := hinfix.subset List.mem_cons_self
    exact absurd (List.eq_of_mem_replicate hp) (by decide)
  have hexposed : DriverMessage.Exposed (.scan (fun _ ↦ 1) wholeSector) := by
    refine ⟨by rw [hlen]; decide, ?_, by decide, by rwa [htake], [], petrica, rfl, by decide,
      List.nil_suffix, by rw [hlen]; decide⟩
    rw [htake]
    exact fun hmem ↦ absurd (List.eq_of_mem_replicate hmem) (by decide)
  exact (independent_scan_iff .x64 .x64 _ _).mp (hall .x64 .x64 _) hexposed

end NtDriver.History
