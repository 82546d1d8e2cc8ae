import NtDriver.Messages

/-!
# Which messages carry kernel stack bytes

Only `GetAndLogClientVersion` clears its variable first.  `PROC_INFO` is sent
with `Allowed` never set and `TEXTBUFF_INFO` with `Reserved` never set, so each
of them shows at least one byte of the stack, whatever the inputs are.
-/

namespace NtDriver.StackLeak

open Memory Layout

inductive Call where
  | clientVersion
  | procDetails (a : Arch) (processId : ℕ) (name : UnicodeString)
  | scan (env : ScanEnv) (send : List UInt8 → SendResult)

/-- The messages that a call hands to `FltSendMessage`, given the prior content
of its message variable. -/
def Call.messages (stack : Mem) : Call → List (List UInt8)
  | clientVersion => [clientVersionMessage stack]
  | procDetails a processId name => [procDetailsMessage a stack processId name]
  | scan env send => ((scannerpScanFileInUserMode env stack send).sent.map Prod.fst).toList

def Call.Clears : Call → Prop
  | clientVersion => True
  | procDetails _ _ _ => False
  | scan env _ => env.sends = false

theorem clientVersionMessage_eq (stack stack' : Mem) :
    clientVersionMessage stack = clientVersionMessage stack' := by
  apply read_congr
  intro i hi
  have hlen : i < (List.replicate VersionInformation.size (0 : UInt8)).length := by
    rwa [List.length_replicate]
  have hzero : ∀ m, rtlZeroMemory m VersionInformation.size (0 + i) = 0 := fun m ↦ by
    rw [rtlZeroMemory, write_add _ _ _ hlen, List.getElem_replicate]
  simp only [clientVersionRequest, Field.set, setNat]
  apply write_congr
  rw [hzero, hzero]

/-- The `Allowed` byte of a `PROC_INFO` is the byte of the stack below it. -/
theorem allowed_procDetailsRequest (a : Arch) (stack : Mem) (processId : ℕ)
    (name : UnicodeString) :
    (ProcInfo.allowed a).bytes (procDetailsRequest a stack processId name) 0 =
      (ProcInfo.allowed a).bytes stack 0 := by
  have hname : (ProcInfo.allowed a).Apart (ProcInfo.imageFileName a) :=
    field_apart _ (by decide)
  have hpid : (ProcInfo.allowed a).Apart (ProcInfo.processId a) := field_apart _ (by decide)
  have hcommand : (ProcInfo.allowed a).Apart (ProcInfo.command a) :=
    field_apart _ (by decide)
  have hlen := length_imageName_le a name
  rw [procDetailsRequest, Field.bytes_copy _ _ hname hlen, Field.bytes_set _ _ _ hpid,
    Field.bytes_set _ _ _ hcommand]

/-- The `Reserved` bytes of a `TEXTBUFF_INFO` are the bytes of the stack below
them. -/
theorem reserved_scanRequest (stack : Mem) (block : List UInt8) (safeToOpen : ℕ) :
    TextbuffInfo.reserved.bytes (scanRequest stack block safeToOpen) 0 =
      TextbuffInfo.reserved.bytes stack 0 := by
  have hcontents : TextbuffInfo.reserved.Apart TextbuffInfo.contents :=
    field_apart _ (by decide)
  have hallowed : TextbuffInfo.reserved.Apart TextbuffInfo.allowed :=
    field_apart _ (by decide)
  have hcommand : TextbuffInfo.reserved.Apart TextbuffInfo.command :=
    field_apart _ (by decide)
  have hbytes : TextbuffInfo.reserved.Apart TextbuffInfo.bytesToScan :=
    field_apart _ (by decide)
  have hlen : (block.take scannerReadBufferSize).length ≤ TextbuffInfo.contents.size :=
    List.length_take_le _ _
  rw [scanRequest, Field.bytes_copy _ _ hcontents hlen, Field.bytes_set _ _ _ hallowed,
    Field.bytes_set _ _ _ hcommand, Field.bytes_set _ _ _ hbytes]

theorem bytes_eq_of_read_eq {ts : List CType} {m m' : Mem}
    (h : read m 0 (sizeof ts) = read m' 0 (sizeof ts)) {i : ℕ} (hi : i < ts.length) :
    (field ts i).bytes m 0 = (field ts i).bytes m' 0 := by
  have hle := field_le_sizeof ts hi
  have hdrop := congrArg (List.drop (field ts i).off) h
  have htake := congrArg (List.take (field ts i).size) hdrop
  rwa [drop_read, drop_read, take_read _ _ _ _ (by omega), take_read _ _ _ _ (by omega)] at htake

theorem bytes_const_ne (f : Field) (h : 0 < f.size) :
    f.bytes (fun _ ↦ 0) 0 ≠ f.bytes (fun _ ↦ 1) 0 := by
  intro heq
  have hbyte := congrArg (fun l ↦ l[0]?) heq
  simp [Field.bytes, h] at hbyte

/-- A call's messages are independent of the stack exactly when it sends none
but a cleared structure. -/
theorem Call.messages_eq_iff (c : Call) :
    (∀ stack stack', c.messages stack = c.messages stack') ↔ c.Clears := by
  cases c with
  | clientVersion =>
      simp only [Call.messages, Call.Clears, iff_true]
      intro stack stack'
      rw [clientVersionMessage_eq stack stack']
  | procDetails a processId name =>
      simp only [Call.Clears, iff_false]
      intro hall
      have hread := List.singleton_inj.mp (hall (fun _ ↦ 0) (fun _ ↦ 1))
      have hbytes : (ProcInfo.allowed a).bytes _ 0 = (ProcInfo.allowed a).bytes _ 0 :=
        bytes_eq_of_read_eq hread (by simp [procInfo])
      rw [allowed_procDetailsRequest, allowed_procDetailsRequest] at hbytes
      exact bytes_const_ne _ (by rw [ProcInfo.allowed_eq]; decide) hbytes
  | scan env send =>
      simp only [Call.messages, Call.Clears]
      constructor
      · intro hall
        by_contra hsends
        rw [Bool.not_eq_false] at hsends
        have hmessages := hall (fun _ ↦ 0) (fun _ ↦ 1)
        simp only [scan_of_sends hsends, Option.map_some, Option.toList_some] at hmessages
        have hbytes : TextbuffInfo.reserved.bytes _ 0 = TextbuffInfo.reserved.bytes _ 0 :=
          bytes_eq_of_read_eq (List.singleton_inj.mp hmessages) (by simp [textbuffInfo])
        rw [reserved_scanRequest, reserved_scanRequest] at hbytes
        exact bytes_const_ne _ (by decide) hbytes
      · intro hsends stack stack'
        rw [(scan_of_not_sends hsends stack send).1, (scan_of_not_sends hsends stack' send).1]

/-! ## Sequences of calls -/

/-- Everything that a sequence of calls hands to `FltSendMessage`, each call
finding its own stack content. -/
def messages (run : List (Call × Mem)) : List (List UInt8) :=
  run.flatMap fun c ↦ c.1.messages c.2

def Determined (calls : List Call) : Prop :=
  ∀ run run' : List (Call × Mem), run.map Prod.fst = calls → run'.map Prod.fst = calls →
    messages run = messages run'

theorem messages_cons (c : Call × Mem) (run : List (Call × Mem)) :
    messages (c :: run) = c.1.messages c.2 ++ messages run := rfl

theorem determined_cons_iff (c : Call) (calls : List Call) :
    Determined (c :: calls) ↔
      (∀ stack stack', c.messages stack = c.messages stack') ∧ Determined calls := by
  constructor
  · intro hdet
    refine ⟨fun stack stack' ↦ ?_, fun run run' hrun hrun' ↦ ?_⟩
    · have hrest : (calls.map fun c ↦ (c, stack)).map Prod.fst = calls := by
        rw [List.map_map]
        exact List.map_id calls
      have heq := hdet ((c, stack) :: calls.map fun c ↦ (c, stack))
        ((c, stack') :: calls.map fun c ↦ (c, stack)) (by simpa using hrest)
        (by simpa using hrest)
      simpa [messages_cons] using heq
    · have heq := hdet ((c, fun _ ↦ 0) :: run) ((c, fun _ ↦ 0) :: run') (by simpa using hrun)
        (by simpa using hrun')
      simpa [messages_cons] using heq
  · rintro ⟨hc, hcalls⟩ run run' hrun hrun'
    obtain ⟨d, run, rfl⟩ := List.exists_cons_of_ne_nil
      (by rintro rfl; simp at hrun : run ≠ [])
    obtain ⟨d', run', rfl⟩ := List.exists_cons_of_ne_nil
      (by rintro rfl; simp at hrun' : run' ≠ [])
    obtain ⟨hd, hrun⟩ := List.cons_eq_cons.mp hrun
    obtain ⟨hd', hrun'⟩ := List.cons_eq_cons.mp hrun'
    rw [messages_cons, messages_cons, hd, hd', hc d.2 d'.2, hcalls run run' hrun hrun']

/-- Sequences of messages are determined by the inputs exactly when no call
sends a `PROC_INFO` or a `TEXTBUFF_INFO`. -/
theorem determined_iff_clears (calls : List Call) :
    Determined calls ↔ ∀ c ∈ calls, c.Clears := by
  induction calls with
  | nil => simp [Determined, messages]
  | cons c calls ih => rw [determined_cons_iff, ih, c.messages_eq_iff, List.forall_mem_cons]

theorem not_determined_procDetails : ¬ ∀ calls, Determined calls := by
  intro hall
  have hdet := hall [.procDetails .x64 4321 ⟨8, fun _ ↦ 0x61, by decide⟩]
  have hsame := ((determined_cons_iff _ _).mp hdet).1
  exact (Call.messages_eq_iff _).mp hsame

end NtDriver.StackLeak
