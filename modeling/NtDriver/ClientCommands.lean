import NtDriver.ReceiveMessage

/-!
# `TestCommand` and `ToggleProcessMonitoring`

The DLL puts a command into a local structure, sends it with `FilterSendMessage`
and receives the answer in the same structure.  The structure is alive during the
call, so no access of the driver to it faults.
-/

namespace NtDriver.ClientCommands

open Memory Layout ReceiveMessage

/-- The surroundings of one call: where its structure lies, whether the filter manager
passes the message on and how it fails otherwise, and the driver's side. -/
structure CallEnv where
  address : ℕ
  address_ne : address ≠ 0
  memory : Mem
  delivered : Bool
  failure : Hresult
  failure_ne : failure ≠ sOk
  psSet : NtStatus
  stack : Mem
  send : List UInt8 → SendResult

namespace CallEnv

variable (env : CallEnv)

def driver : ReceiveMessage.Env where
  fault _ := none
  fault_failure _ _ h := absurd h (Option.some_ne_none _).symm
  psSet := env.psSet
  stack := env.stack
  send := env.send

def request : Request :=
  ⟨env.address, CmdWithReply.size, env.address, CmdWithReply.size⟩

/-- The structure with its command; `ReplyFromKernel` is not initialised. -/
def structCmd (c : CommandCode) : Mem := CmdWithReply.command.set env.memory env.address c.value

/-- `FilterSendMessage`, which returns `S_OK` exactly for a success of the driver. -/
def filterSendMessage (c : CommandCode) (notify : ProcNotify) : Hresult × CallState :=
  if env.delivered then
    let out := clientReceiveMessage env.driver env.request (start (env.structCmd c) notify)
    (if ntSuccess out.1 then sOk else env.failure, out.2)
  else (env.failure, start (env.structCmd c) notify)

/-- The common body of both functions, for a port global that is set or `NULL`. -/
def sendCommand (gDllConnFilterPort : Bool) (c : CommandCode) (notify : ProcNotify) :
    NtStatus × ProcNotify :=
  if !gDllConnFilterPort then (statusNotFound, notify)
  else
    let out := env.filterSendMessage c notify
    (if out.1 = sOk then statusSuccess else statusUnsuccessful, out.2.notify)

def testCommand (gDllConnFilterPort : Bool) (notify : ProcNotify) : NtStatus × ProcNotify :=
  env.sendCommand gDllConnFilterPort .cmdTestWithReply notify

def toggleProcessMonitoring (gDllConnFilterPort : Bool) (onOrOff : UInt8) (notify : ProcNotify) :
    NtStatus × ProcNotify :=
  env.sendCommand gDllConnFilterPort
    (if 1 = onOrOff then .cmdEnableProcmon else .cmdDisableProcmon) notify

/-! ## The driver's side of a command -/

variable {env} {c : CommandCode} {code : ℕ} {notify : ProcNotify}

theorem command_structCmd : CmdWithReply.command.get (env.structCmd c) env.address = c.value :=
  (Field.get_set _ _ _ _).trans (Nat.mod_eq_of_lt c.value_lt)

theorem served_structCmd (hcode : replyCode c = some code) :
    env.request.Served (env.structCmd c) c code := by
  refine ⟨?_, hcode, ?_⟩
  · rw [Request.command]
    exact CommandCode.ofValue_eq_some_iff.mpr command_structCmd
  · exact lengthsInvalid_eq_false_iff.mpr ⟨env.address_ne, le_rfl, le_rfl⟩

theorem clientReceiveMessage_structCmd (hcode : replyCode c = some code) :
    clientReceiveMessage env.driver env.request (start (env.structCmd c) notify) =
      (statusSuccess, after env.driver c
        { replied env.driver env.request (env.structCmd c) notify c code with
          accesses := [env.request.fetch, env.request.reply, .returnLength]
          returnLength := some CmdWithReply.size }) :=
  receive_of_served rfl (served_structCmd hcode)

theorem filterSendMessage_delivered (notify : ProcNotify) (h : env.delivered = true)
    (hcode : replyCode c = some code) :
    (env.filterSendMessage c notify).1 = sOk ∧
      (env.filterSendMessage c notify).2.notify = effect env.psSet c notify := by
  rw [filterSendMessage, if_pos h, clientReceiveMessage_structCmd hcode]
  refine ⟨rfl, ?_⟩
  cases c <;> rfl

theorem sendCommand_eq (gDllConnFilterPort : Bool) (hcode : replyCode c = some code) :
    env.sendCommand gDllConnFilterPort c notify =
      if gDllConnFilterPort = false then (statusNotFound, notify)
      else if env.delivered then (statusSuccess, effect env.psSet c notify)
      else (statusUnsuccessful, notify) := by
  cases gDllConnFilterPort with
  | false => rfl
  | true =>
      cases hdelivered : env.delivered with
      | true =>
          obtain ⟨hresult, hnotify⟩ := filterSendMessage_delivered notify hdelivered hcode
          simp [sendCommand, hresult, hnotify]
      | false => simp [sendCommand, filterSendMessage, hdelivered, env.failure_ne, start]

/-- `TestCommand` leaves the registration alone. -/
theorem testCommand_keeps (gDllConnFilterPort : Bool) (notify : ProcNotify) :
    (env.testCommand gDllConnFilterPort notify).2 = notify := by
  rw [testCommand, @sendCommand_eq env .cmdTestWithReply _ notify gDllConnFilterPort rfl]
  split_ifs <;> rfl

end CallEnv

end NtDriver.ClientCommands
