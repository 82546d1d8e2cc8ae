import NtDriver.Messages
import NtDriver.ProcNotify

/-!
# `ClientReceiveMessage`

The driver's handler of client commands.  Each access to the caller's memory may
raise an exception, which the handler turns into its status; what was done
before the access stays done.
-/

namespace NtDriver.ReceiveMessage

open Memory Layout ProcNotify

inductive Access where
  | read (address size : ℕ)
  | write (address size : ℕ)
  | returnLength
  deriving DecidableEq

/-- The caller's buffers; address 0 is `NULL`. -/
structure Request where
  inputBuffer : ℕ
  inputBufferLength : ℕ
  outputBuffer : ℕ
  outputBufferLength : ℕ

/-- The exception that each access raises, the status that
`PsSetCreateProcessNotifyRoutineEx` returns, the prior content of
`clientVersionInformation`, and what becomes of its message. -/
structure Env where
  fault : Access → Option NtStatus
  fault_failure : ∀ a code, fault a = some code → ntSuccess code = false
  psSet : NtStatus
  stack : Mem
  send : List UInt8 → SendResult

/-- What a call has done so far; `returnLength` is `*ReturnOutputBufferLength` once
it has been written. -/
structure CallState where
  user : Mem
  notify : ProcNotify
  accesses : List Access
  returnLength : Option ℕ
  sent : List (List UInt8)
  clientVersion : Option (ℕ × ℕ × ℕ × ℕ)

def start (user : Mem) (notify : ProcNotify) : CallState :=
  ⟨user, notify, [], none, [], none⟩

abbrev Handler := EStateM NtStatus CallState

section Handler

variable (env : Env) (req : Request)

def access (a : Access) : Handler Unit := fun s ↦
  match env.fault a with
  | some code => .error code s
  | none => .ok () { s with accesses := s.accesses ++ [a] }

def fetchCommand : Handler ℕ := do
  access env (.read req.inputBuffer CmdWithReply.command.size)
  return CmdWithReply.command.get (← get).user req.inputBuffer

def storeReplyFromKernel (code : ℕ) : Handler Unit := do
  access env (.write (req.outputBuffer + CmdWithReply.replyFromKernel.off)
    CmdWithReply.replyFromKernel.size)
  modify fun s ↦
    { s with user := CmdWithReply.replyFromKernel.set s.user req.outputBuffer code }

def storeReturnLength : Handler Unit := do
  access env .returnLength
  modify fun s ↦ { s with returnLength := some CmdWithReply.size }

def sendClientVersion (s : CallState) : CallState :=
  { s with
    sent := s.sent ++ [clientVersionMessage env.stack]
    clientVersion := getAndLogClientVersion env.stack env.send }

def Request.lengthsInvalid : Bool :=
  req.outputBuffer == 0 || decide (req.outputBufferLength < CmdWithReply.size) ||
    decide (req.inputBufferLength < CmdWithReply.size)

/-- The common shape of the three branches: the command's effect, the reply, and
what follows it. -/
def branch (effect : ProcNotify → ProcNotify) (code : ℕ) (after : CallState → CallState) :
    Handler NtStatus := do
  if req.lengthsInvalid then
    return statusInvalidParameter
  modify fun s ↦ { s with notify := effect s.notify }
  storeReplyFromKernel env req code
  storeReturnLength env
  modify after
  return statusSuccess

def cmdTestWithReply : Handler NtStatus :=
  branch env req id 0xDeadBeef (sendClientVersion env)

def cmdEnableProcmon : Handler NtStatus :=
  branch env req (fun n ↦ (drvInitializeProcNotify env.psSet n).2) 0xB00BB00B id

def cmdDisableProcmon : Handler NtStatus :=
  branch env req (fun n ↦ (drvUninitializeProcNotify env.psSet n).2) 0xDEADDEAD id

/-- `switch (cmdCode)`. -/
def dispatch (cmdCode : ℕ) : Handler NtStatus :=
  match CommandCode.ofValue cmdCode with
  | some .cmdTestWithReply => cmdTestWithReply env req
  | some .cmdEnableProcmon => cmdEnableProcmon env req
  | some .cmdDisableProcmon => cmdDisableProcmon env req
  | _ => return statusInvalidParameter

/-- The body of the `__try`. -/
def receive : Handler NtStatus := do
  let cmdCode ← fetchCommand env req
  dispatch env req cmdCode

def clientReceiveMessage (s : CallState) : NtStatus × CallState :=
  match receive env req s with
  | .ok status t => (status, t)
  -- `__except (EXCEPTION_EXECUTE_HANDLER)` returns the exception code
  | .error code t => (code, t)

end Handler

/-! ## The outcomes -/

def replyCode : CommandCode → Option ℕ
  | .cmdTestWithReply => some 0xDeadBeef
  | .cmdEnableProcmon => some 0xB00BB00B
  | .cmdDisableProcmon => some 0xDEADDEAD
  | _ => none

def effect (psSet : NtStatus) : CommandCode → ProcNotify → ProcNotify
  | .cmdEnableProcmon, n => (drvInitializeProcNotify psSet n).2
  | .cmdDisableProcmon, n => (drvUninitializeProcNotify psSet n).2
  | _, n => n

def after (env : Env) : CommandCode → CallState → CallState
  | .cmdTestWithReply, s => sendClientVersion env s
  | _, s => s

def Request.fetch (req : Request) : Access := .read req.inputBuffer CmdWithReply.command.size

def Request.reply (req : Request) : Access :=
  .write (req.outputBuffer + CmdWithReply.replyFromKernel.off) CmdWithReply.replyFromKernel.size

def Request.command (req : Request) (user : Mem) : Option CommandCode :=
  CommandCode.ofValue (CmdWithReply.command.get user req.inputBuffer)

/-- A command with a reply code, and lengths that pass the check of its branch. -/
def Request.Served (req : Request) (user : Mem) (c : CommandCode) (code : ℕ) : Prop :=
  req.command user = some c ∧ replyCode c = some code ∧ req.lengthsInvalid = false

section Outcomes

variable {env : Env} {req : Request} {user : Mem} {notify : ProcNotify}

theorem modify_apply (f : CallState → CallState) (s : CallState) :
    (modify f : Handler PUnit) s = .ok ⟨⟩ (f s) := rfl

theorem dispatch_of_replyCode {cmdCode : ℕ} {c : CommandCode} {code : ℕ}
    (hc : CommandCode.ofValue cmdCode = some c) (hcode : replyCode c = some code) :
    dispatch env req cmdCode = branch env req (effect env.psSet c) code (after env c) := by
  cases c <;> simp [replyCode] at hcode <;> subst hcode <;> simp only [dispatch, hc] <;> rfl

theorem dispatch_unserved {cmdCode : ℕ}
    (h : ∀ c, CommandCode.ofValue cmdCode = some c → replyCode c = none) :
    dispatch env req cmdCode = pure statusInvalidParameter := by
  cases hc : CommandCode.ofValue cmdCode with
  | none => simp only [dispatch, hc]
  | some c =>
      have hcode := h c hc
      cases c <;> simp [replyCode] at hcode <;> simp only [dispatch, hc]

theorem receive_of_fetch_fault {code : NtStatus} (h : env.fault req.fetch = some code) :
    clientReceiveMessage env req (start user notify) = (code, start user notify) := by
  simp only [Request.fetch] at h
  simp [clientReceiveMessage, receive, fetchCommand, access, bind, EStateM.bind, h]

def fetched (req : Request) (user : Mem) (notify : ProcNotify) : CallState :=
  { start user notify with accesses := [req.fetch] }

theorem receive_of_fetched (h : env.fault req.fetch = none) :
    receive env req (start user notify) =
      dispatch env req (CmdWithReply.command.get user req.inputBuffer)
        (fetched req user notify) := by
  simp only [Request.fetch] at h
  simp only [receive, fetchCommand, access, bind, EStateM.bind, h]
  rfl

theorem receive_of_not_served (h : env.fault req.fetch = none)
    (hserved : ¬ ∃ c code, req.Served user c code) :
    clientReceiveMessage env req (start user notify) =
      (statusInvalidParameter, fetched req user notify) := by
  rw [clientReceiveMessage, receive_of_fetched h]
  by_cases hcode : ∃ c code, req.command user = some c ∧ replyCode c = some code
  · obtain ⟨c, code, hc, hcode⟩ := hcode
    have hlen : req.lengthsInvalid = true := by
      by_contra hvalid
      exact hserved ⟨c, code, hc, hcode, by simpa using hvalid⟩
    rw [dispatch_of_replyCode hc hcode, branch, if_pos hlen]
    rfl
  · rw [dispatch_unserved]
    · rfl
    · intro c hc
      by_contra hne
      obtain ⟨code, hcode'⟩ := Option.ne_none_iff_exists'.mp hne
      exact hcode ⟨c, code, hc, hcode'⟩

def effected (env : Env) (req : Request) (user : Mem) (notify : ProcNotify) (c : CommandCode) :
    CallState :=
  { fetched req user notify with notify := effect env.psSet c notify }

def replied (env : Env) (req : Request) (user : Mem) (notify : ProcNotify) (c : CommandCode)
    (code : ℕ) : CallState :=
  { effected env req user notify c with
    user := CmdWithReply.replyFromKernel.set user req.outputBuffer code
    accesses := [req.fetch, req.reply] }

theorem storeReplyFromKernel_fault {fault : NtStatus} (h : env.fault req.reply = some fault)
    (code : ℕ) (s : CallState) : storeReplyFromKernel env req code s = .error fault s := by
  simp only [Request.reply] at h
  simp only [storeReplyFromKernel, access, bind, EStateM.bind, h]

theorem storeReplyFromKernel_ok (h : env.fault req.reply = none) (code : ℕ) (s : CallState) :
    storeReplyFromKernel env req code s = .ok ()
      { s with
        accesses := s.accesses ++ [req.reply]
        user := CmdWithReply.replyFromKernel.set s.user req.outputBuffer code } := by
  simp only [Request.reply] at h ⊢
  simp only [storeReplyFromKernel, access, bind, EStateM.bind, h]
  rfl

theorem storeReturnLength_fault {fault : NtStatus} (h : env.fault .returnLength = some fault)
    (s : CallState) : storeReturnLength env s = .error fault s := by
  simp only [storeReturnLength, access, bind, EStateM.bind, h]

theorem storeReturnLength_ok (h : env.fault .returnLength = none) (s : CallState) :
    storeReturnLength env s = .ok ()
      { s with
        accesses := s.accesses ++ [.returnLength]
        returnLength := some CmdWithReply.size } := by
  simp only [storeReturnLength, access, bind, EStateM.bind, h]
  rfl

theorem receive_of_served (h : env.fault req.fetch = none) {c : CommandCode} {code : ℕ}
    (hserved : req.Served user c code) :
    clientReceiveMessage env req (start user notify) =
      match env.fault req.reply, env.fault .returnLength with
      | some fault, _ => (fault, effected env req user notify c)
      | none, some fault => (fault, replied env req user notify c code)
      | none, none => (statusSuccess, after env c
          { replied env req user notify c code with
            accesses := [req.fetch, req.reply, .returnLength]
            returnLength := some CmdWithReply.size }) := by
  obtain ⟨hc, hcode, hlen⟩ := hserved
  rw [clientReceiveMessage, receive_of_fetched h, dispatch_of_replyCode hc hcode]
  simp only [branch, hlen, Bool.false_eq_true, if_false, bind, EStateM.bind, modify_apply]
  cases hreply : env.fault req.reply with
  | some fault => rw [storeReplyFromKernel_fault hreply]; rfl
  | none =>
      rw [storeReplyFromKernel_ok hreply]
      cases hlength : env.fault .returnLength with
      | some fault => simp only [storeReturnLength_fault hlength]; rfl
      | none => simp only [storeReturnLength_ok hlength]; rfl

end Outcomes

/-! ## The message format -/

structure Request.Accessible (req : Request) (env : Env) : Prop where
  input : req.inputBuffer ≠ 0 → ∀ address size, req.inputBuffer ≤ address →
    address + size ≤ req.inputBuffer + req.inputBufferLength →
    env.fault (.read address size) = none
  output : req.outputBuffer ≠ 0 → ∀ address size, req.outputBuffer ≤ address →
    address + size ≤ req.outputBuffer + req.outputBufferLength →
    env.fault (.write address size) = none
  returnLength : env.fault .returnLength = none

def Request.WellFormed (req : Request) (user : Mem) : Prop :=
  req.inputBuffer ≠ 0 ∧ 8 ≤ req.inputBufferLength ∧
    (∃ c code, req.command user = some c ∧ replyCode c = some code) ∧
    req.outputBuffer ≠ 0 ∧ 8 ≤ req.outputBufferLength

/-- What the handler is to do with one request: it stays inside the buffers,
accepts the well-formed requests, answers them, and changes nothing for others. -/
structure KeepsFormat (env : Env) (req : Request) (user : Mem) (out : NtStatus × CallState) :
    Prop where
  reads : ∀ address size, .read address size ∈ out.2.accesses →
    req.inputBuffer ≠ 0 ∧ req.inputBuffer ≤ address ∧
      address + size ≤ req.inputBuffer + req.inputBufferLength
  writes : ∀ address size, .write address size ∈ out.2.accesses →
    req.outputBuffer ≠ 0 ∧ req.outputBuffer ≤ address ∧
      address + size ≤ req.outputBuffer + req.outputBufferLength
  success_iff : out.1 = statusSuccess ↔ req.WellFormed user
  answered : out.1 = statusSuccess → ∃ c code, req.command user = some c ∧
    replyCode c = some code ∧
    out.2.user = CmdWithReply.replyFromKernel.set user req.outputBuffer code ∧
    out.2.returnLength = some 8 ∧ 8 ≤ req.outputBufferLength
  refused : out.1 ≠ statusSuccess → ntSuccess out.1 = false ∧ out.2.user = user

section Format

variable {env : Env} {req : Request} {user : Mem} {notify : ProcNotify}

theorem lengthsInvalid_eq_false_iff : req.lengthsInvalid = false ↔
    req.outputBuffer ≠ 0 ∧ 8 ≤ req.outputBufferLength ∧ 8 ≤ req.inputBufferLength := by
  simp only [Request.lengthsInvalid, Bool.or_eq_false_iff, decide_eq_false_iff_not, Nat.not_lt,
    beq_eq_false_iff_ne, and_assoc]
  rfl

theorem wellFormed_iff (hinput : req.inputBuffer ≠ 0) :
    req.WellFormed user ↔ ∃ c code, req.Served user c code := by
  simp only [Request.WellFormed, Request.Served, lengthsInvalid_eq_false_iff]
  constructor
  · rintro ⟨_, hin, ⟨c, code, hc, hcode⟩, hout, hlen⟩
    exact ⟨c, code, hc, hcode, hout, hlen, hin⟩
  · rintro ⟨c, code, hc, hcode, hout, hlen, hin⟩
    exact ⟨hinput, hin, ⟨c, code, hc, hcode⟩, hout, hlen⟩

theorem fetch_mem_accesses (h : env.fault req.fetch = none) :
    req.fetch ∈ (clientReceiveMessage env req (start user notify)).2.accesses := by
  by_cases hserved : ∃ c code, req.Served user c code
  · obtain ⟨c, code, hserved⟩ := hserved
    rw [receive_of_served h hserved]
    cases env.fault req.reply <;> cases env.fault .returnLength <;> cases c <;>
      exact List.mem_cons_self
  · rw [receive_of_not_served h hserved]
    exact List.mem_cons_self

def Request.HoldsCommand (req : Request) : Prop :=
  req.inputBuffer ≠ 0 ∧ 4 ≤ req.inputBufferLength

theorem holdsCommand_of_reads (h : env.fault req.fetch = none)
    (hkeeps : KeepsFormat env req user (clientReceiveMessage env req (start user notify))) :
    req.HoldsCommand := by
  obtain ⟨hnull, _, hend⟩ := hkeeps.reads _ _ (fetch_mem_accesses h)
  simp only [CmdWithReply.command_eq] at hend
  exact ⟨hnull, by omega⟩

theorem keepsFormat_of_fault {code : NtStatus} (hacc : req.Accessible env)
    (h : env.fault req.fetch = some code) :
    KeepsFormat env req user (clientReceiveMessage env req (start user notify)) := by
  have hcode := env.fault_failure _ _ h
  have hne : code ≠ statusSuccess := by
    rintro rfl
    simp at hcode
  rw [receive_of_fetch_fault h]
  refine ⟨by simp [start], by simp [start], ?_, fun hsuccess ↦ absurd hsuccess hne,
    fun _ ↦ ⟨hcode, rfl⟩⟩
  apply iff_of_false hne
  intro hformed
  have hread := hacc.input hformed.1 req.inputBuffer 4 le_rfl (by have := hformed.2.1; omega)
  rw [Request.fetch, CmdWithReply.command_eq, hread] at h
  exact Option.some_ne_none _ h.symm

theorem keepsFormat_of_not_served (h : env.fault req.fetch = none) (hholds : req.HoldsCommand)
    (hserved : ¬ ∃ c code, req.Served user c code) :
    KeepsFormat env req user (clientReceiveMessage env req (start user notify)) := by
  obtain ⟨hnull, hlen⟩ := hholds
  rw [receive_of_not_served h hserved]
  refine ⟨?_, by simp [fetched, Request.fetch], ?_, fun hsuccess ↦ ?_, fun _ ↦ ⟨?_, rfl⟩⟩
  · intro address size hmem
    obtain ⟨rfl, rfl⟩ : address = req.inputBuffer ∧ size = 4 := by
      simpa [fetched, Request.fetch, CmdWithReply.command_eq] using hmem
    exact ⟨hnull, le_rfl, by omega⟩
  · rw [wellFormed_iff hnull]
    exact iff_of_false statusInvalidParameter_ne hserved
  · exact absurd hsuccess statusInvalidParameter_ne
  · exact ntSuccess_statusInvalidParameter

theorem keepsFormat_of_served (hacc : req.Accessible env) (h : env.fault req.fetch = none)
    (hholds : req.HoldsCommand) {c : CommandCode} {code : ℕ} (hserved : req.Served user c code) :
    KeepsFormat env req user (clientReceiveMessage env req (start user notify)) := by
  obtain ⟨hnull, hlen⟩ := hholds
  obtain ⟨hout, houtLen, hinLen⟩ := lengthsInvalid_eq_false_iff.mp hserved.2.2
  have hreply : env.fault req.reply = none := by
    rw [Request.reply, CmdWithReply.replyFromKernel_eq]
    exact hacc.output hout _ _ (by simp) (by simp; omega)
  rw [receive_of_served h hserved, hreply, hacc.returnLength]
  refine ⟨?_, ?_, ?_, fun _ ↦ ⟨c, code, hserved.1, hserved.2.1, ?_, ?_, houtLen⟩,
    fun hfail ↦ absurd rfl hfail⟩
  · intro address size hmem
    obtain ⟨rfl, rfl⟩ : address = req.inputBuffer ∧ size = 4 := by
      cases c <;>
        simpa [after, sendClientVersion, Request.fetch, Request.reply,
          CmdWithReply.command_eq] using hmem
    exact ⟨hnull, le_rfl, by omega⟩
  · intro address size hmem
    obtain ⟨rfl, rfl⟩ : address = req.outputBuffer + 4 ∧ size = 4 := by
      cases c <;>
        simpa [after, sendClientVersion, Request.fetch, Request.reply,
          CmdWithReply.replyFromKernel_eq] using hmem
    exact ⟨hout, by omega, by omega⟩
  · rw [wellFormed_iff hnull]
    exact iff_of_true rfl ⟨c, code, hserved⟩
  · cases c <;> rfl
  · cases c <;> rfl

/-- The handler keeps to its message format exactly when the command word it
fetches first lies in the input buffer, or when that fetch faults. -/
theorem keepsFormat_iff (env : Env) (req : Request) (user : Mem) (notify : ProcNotify)
    (hacc : req.Accessible env) :
    KeepsFormat env req user (clientReceiveMessage env req (start user notify)) ↔
      env.fault req.fetch ≠ none ∨ req.HoldsCommand := by
  cases h : env.fault req.fetch with
  | some code => simpa using keepsFormat_of_fault hacc h
  | none =>
      constructor
      · exact fun hkeeps ↦ Or.inr (holdsCommand_of_reads h hkeeps)
      · rintro (hne | hholds)
        · exact absurd rfl hne
        · by_cases hserved : ∃ c code, req.Served user c code
          · obtain ⟨c, code, hserved⟩ := hserved
            exact keepsFormat_of_served hacc h hholds hserved
          · exact keepsFormat_of_not_served h hholds hserved

def faultsAt (p : Access → Bool) : Env where
  fault a := if p a then some statusAccessViolation else none
  fault_failure a code h := by
    split at h <;> simp at h
    rw [← h]
    decide
  psSet := statusSuccess
  stack := fun _ ↦ 0
  send _ := ⟨statusPortDisconnected, []⟩

def enableAt : Mem := setNat (fun _ ↦ 0) 0x1000 4 CommandCode.cmdEnableProcmon.value

theorem keepsFormat_enable :
    KeepsFormat (faultsAt fun _ ↦ false) ⟨0x1000, 8, 0x1000, 8⟩ enableAt
        (clientReceiveMessage (faultsAt fun _ ↦ false) ⟨0x1000, 8, 0x1000, 8⟩
          (start enableAt ProcNotify.initial)) ↔
      (faultsAt fun _ ↦ false).fault (Request.fetch ⟨0x1000, 8, 0x1000, 8⟩) ≠ none ∨
        Request.HoldsCommand ⟨0x1000, 8, 0x1000, 8⟩ :=
  keepsFormat_iff _ _ _ _
    ⟨fun _ _ _ _ _ ↦ rfl, fun _ _ _ _ _ ↦ rfl, rfl⟩

theorem not_keepsFormat_short : ¬ ∀ env req user notify, Request.Accessible req env →
    KeepsFormat env req user (clientReceiveMessage env req (start user notify)) := by
  intro hall
  have hkeeps := hall (faultsAt fun _ ↦ false) ⟨0x1000, 2, 0x2000, 8⟩ enableAt ProcNotify.initial
    ⟨fun _ _ _ _ _ ↦ rfl, fun _ _ _ _ _ ↦ rfl, rfl⟩
  exact absurd (holdsCommand_of_reads rfl hkeeps).2 (by decide)

end Format

/-! ## Atomicity -/

def ChangesNotify (psSet : NtStatus) (n : ProcNotify) : CommandCode → Prop
  | .cmdEnableProcmon => n.gProcessNotifyRegistered = false ∧ ntSuccess psSet = true
  | .cmdDisableProcmon => n.gProcessNotifyRegistered = true
  | _ => False

theorem effect_eq_self_iff (psSet : NtStatus) (n : ProcNotify) (c : CommandCode) :
    effect psSet c n = n ↔ ¬ ChangesNotify psSet n c := by
  cases c with
  | cmdEnableProcmon =>
      rw [effect, drvInitializeProcNotify_eq_self_iff, ChangesNotify]
      cases n.gProcessNotifyRegistered <;> simp
  | cmdDisableProcmon =>
      rw [effect, drvUninitializeProcNotify_eq_self_iff, ChangesNotify]
      simp
  | _ => simp [effect, ChangesNotify]

def Atomic (notify : ProcNotify) (out : NtStatus × CallState) : Prop :=
  ntSuccess out.1 = false → out.2.notify = notify ∧ out.2.sent = []

/-- A command takes effect and then a write of its answer faults. -/
def FaultsAfterEffect (env : Env) (req : Request) (user : Mem) (notify : ProcNotify) : Prop :=
  env.fault req.fetch = none ∧
    (env.fault req.reply ≠ none ∨ env.fault .returnLength ≠ none) ∧
    ∃ c code, req.Served user c code ∧ ChangesNotify env.psSet notify c

section Atomic

variable {env : Env} {req : Request} {user : Mem} {notify : ProcNotify}

theorem atomic_failure_iff {code : NtStatus} (hcode : ntSuccess code = false) (s : CallState) :
    Atomic notify (code, s) ↔ s.notify = notify ∧ s.sent = [] := by
  simp [Atomic, hcode]

theorem faultsAfterEffect_iff (hfetch : env.fault req.fetch = none) {c : CommandCode}
    {code : ℕ} (hserved : req.Served user c code) :
    FaultsAfterEffect env req user notify ↔
      (env.fault req.reply ≠ none ∨ env.fault .returnLength ≠ none) ∧
        ChangesNotify env.psSet notify c := by
  constructor
  · rintro ⟨_, hfault, c', code', hserved', hchanges⟩
    obtain rfl : c = c' := Option.some.inj (hserved.1.symm.trans hserved'.1)
    exact ⟨hfault, hchanges⟩
  · rintro ⟨hfault, hchanges⟩
    exact ⟨hfetch, hfault, c, code, hserved, hchanges⟩

theorem atomic_iff_of_served (hfetch : env.fault req.fetch = none) {c : CommandCode} {code : ℕ}
    (hserved : req.Served user c code) :
    Atomic notify (clientReceiveMessage env req (start user notify)) ↔
      ¬ ((env.fault req.reply ≠ none ∨ env.fault .returnLength ≠ none) ∧
        ChangesNotify env.psSet notify c) := by
  rw [receive_of_served hfetch hserved]
  cases hreply : env.fault req.reply with
  | some fault =>
      have heffect : (effected env req user notify c).notify = notify ∧
          (effected env req user notify c).sent = [] ↔ ¬ ChangesNotify env.psSet notify c := by
        rw [← effect_eq_self_iff]
        exact and_iff_left rfl
      rw [atomic_failure_iff (env.fault_failure _ _ hreply), heffect]
      simp
  | none =>
      cases hlength : env.fault .returnLength with
      | some fault =>
          have heffect : (replied env req user notify c code).notify = notify ∧
              (replied env req user notify c code).sent = [] ↔
                ¬ ChangesNotify env.psSet notify c := by
            rw [← effect_eq_self_iff]
            exact and_iff_left rfl
          rw [atomic_failure_iff (env.fault_failure _ _ hlength), heffect]
          simp
      | none => simp [Atomic]

end Atomic

/-- A failing command changes nothing exactly when no write of the answer faults
behind an effective enable or disable. -/
theorem atomic_iff (env : Env) (req : Request) (user : Mem) (notify : ProcNotify) :
    Atomic notify (clientReceiveMessage env req (start user notify)) ↔
      ¬ FaultsAfterEffect env req user notify := by
  cases hfetch : env.fault req.fetch with
  | some code =>
      rw [receive_of_fetch_fault hfetch]
      refine iff_of_true (fun _ ↦ ⟨rfl, rfl⟩) ?_
      rintro ⟨hnone, _⟩
      simp [hfetch] at hnone
  | none =>
      by_cases hserved : ∃ c code, req.Served user c code
      · obtain ⟨c, code, hserved⟩ := hserved
        rw [atomic_iff_of_served hfetch hserved, faultsAfterEffect_iff hfetch hserved]
      · rw [receive_of_not_served hfetch hserved]
        refine iff_of_true (fun _ ↦ ⟨rfl, rfl⟩) ?_
        rintro ⟨_, _, c, code, h, _⟩
        exact hserved ⟨c, code, h⟩

theorem not_atomic_enable : ¬ ∀ env req user notify,
    Atomic notify (clientReceiveMessage env req (start user notify)) := by
  intro hall
  have hatomic := hall (faultsAt fun a ↦ a = .write 0x2004 4) ⟨0x1000, 8, 0x2000, 8⟩ enableAt
    ProcNotify.initial
  have hserved : Request.Served ⟨0x1000, 8, 0x2000, 8⟩ enableAt .cmdEnableProcmon 0xB00BB00B :=
    ⟨by decide, rfl, rfl⟩
  rw [atomic_iff_of_served (by decide) hserved] at hatomic
  exact hatomic ⟨Or.inl (by decide), rfl, by decide⟩

end NtDriver.ReceiveMessage
