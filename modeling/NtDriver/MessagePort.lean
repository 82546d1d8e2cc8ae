import NtDriver.Lib.Transition
import NtDriver.CommThread
import Mathlib.Logic.Function.Basic

/-!
# The communication port

Any number of process creations are in `DrvProcessNotifyRoutineCommon` while any
number of communication threads take their messages, ask the user and reply.
The filter manager hands a message to one receive at most, and a send succeeds
exactly when a reply with its message id has been accepted.
-/

namespace NtDriver.MessagePort

open Memory Layout Transition CommThread Function

/-! ## Messages -/

/-- The sends of `DrvProcessNotifyRoutineCommon`, by the function that makes them. -/
inductive Call where
  | getAndLogProcDetails
  | getAndLogClientVersion

/-- Who sends a message: creation `k`, or something else in the driver, such as a
scan or the end of a process. -/
inductive Sender where
  | creation (k : ℕ) (call : Call)
  | other (payload : List UInt8)

/-- Where the message with some id stands; it is closed once its send has failed. -/
inductive MessageState where
  | unsent
  | queued
  | taken
  | replied (payload : List UInt8)
  | closed

/-- What has been done about a message: the thread that took it, the dialogs
raised for it with the user's answers, and the results of its replies. -/
structure Record where
  sender : Sender
  holder : Option ℕ
  dialogs : ℕ
  answers : List ℕ
  replies : List Hresult

def Record.fresh (sender : Sender) : Record := ⟨sender, none, 0, [], []⟩

def Record.Concerns (k : ℕ) (r : Record) : Prop := r.sender = .creation k .getAndLogProcDetails

def Awaited (m : MessageState) : Prop := m = .queued ∨ m = .taken

/-- What `FltSendMessage` comes back with, and the message afterwards. -/
inductive Returns : MessageState → SendResult → MessageState → Prop where
  | success {payload : List UInt8} (status : NtStatus) (h : ntSuccess status = true) :
      Returns (.replied payload) ⟨status, payload⟩ (.replied payload)
  | failure {m : MessageState} (r : SendResult) (h : ntSuccess r.status = false)
      (hm : Awaited m) : Returns m r .closed

/-! ## The parties -/

/-- What `DrvProcessNotifyRoutineEx` is called with for a creation, and the prior
content of its local structures. -/
structure Creation where
  processId : ℕ
  imageFileName : UnicodeString
  creationStatus : NtStatus
  processInformation : Mem
  clientVersionInformation : Mem

def Creation.request (a : Arch) (c : Creation) : Mem :=
  procDetailsRequest a c.processInformation c.processId c.imageFileName

def Creation.message (a : Arch) (c : Creation) : Call → List UInt8
  | .getAndLogProcDetails =>
      procDetailsMessage a c.processInformation c.processId c.imageFileName
  | .getAndLogClientVersion => clientVersionMessage c.clientVersionInformation

def Sender.message (a : Arch) (creation : ℕ → Creation) : Sender → List UInt8
  | .creation k call => (creation k).message a call
  | .other payload => payload

inductive KernelPc where
  | calls (call : Call)
  | waits (call : Call) (id : ℕ)
  | finished

/-- `GetAndLogProcDetails` has returned. -/
def KernelPc.Decided : KernelPc → Prop
  | .calls .getAndLogProcDetails | .waits .getAndLogProcDetails _ => False
  | _ => True

/-- A routine and the `CreationStatus` of its `CreateInfo`. -/
structure Kernel where
  pc : KernelPc
  creationStatus : NtStatus

def Kernel.afterCall (a : Arch) (c : Creation) (r : SendResult) (kernel : Kernel) : Call → Kernel
  | .getAndLogProcDetails =>
      ⟨.calls .getAndLogClientVersion,
        procDetailsVerdict a (c.request a) r kernel.creationStatus⟩
  | .getAndLogClientVersion => { kernel with pc := .finished }

/-- The steps between the send and its return make up `GetAndLogProcDetails`. -/
theorem getAndLogProcDetails_eq_afterCall (a : Arch) (c : Creation) (pc : KernelPc)
    (send : List UInt8 → SendResult) :
    getAndLogProcDetails a c.processInformation c.processId (some c.imageFileName) send
        c.creationStatus =
      some (Kernel.afterCall a c (send (c.message a .getAndLogProcDetails))
        ⟨pc, c.creationStatus⟩ .getAndLogProcDetails).creationStatus := rfl

/-- A communication thread; `current` is the message that its last receive has taken. -/
structure Thread where
  pc : Pc
  buffer : MessageBuffer
  receive : Receive
  current : Option ℕ

def Thread.takes (t : Thread) (replyLength id : ℕ) (payload : List UInt8) (pc : Pc)
    (receive : Receive) : Thread :=
  ⟨pc, t.buffer.deliver replyLength id payload, receive, some id⟩

structure State where
  message : ℕ → MessageState
  record : ℕ → Record
  kernel : ℕ → Kernel
  thread : ℕ → Thread

/-- Thread `i` does something about its current message. -/
def State.note (s : State) (i : ℕ) (f : Record → Record) : ℕ → Record :=
  match (s.thread i).current with
  | none => s.record
  | some id => update s.record id (f (s.record id))

/-- A dialog goes up when the thread calls `MessageBox`. -/
def raise : Pc → Record → Record
  | .messageBox _ _, r => { r with dialogs := r.dialogs + 1 }
  | _, r => r

/-! ## The system -/

inductive Action where
  | send (k id : ℕ)
  | refuse (k : ℕ)
  | returns (k : ℕ)
  | sendOther (id : ℕ)
  | returnsOther (id : ℕ)
  | thread (i : ℕ) (result : Result)
  | complete (i id : ℕ)
  | abort (i : ℕ)
  | exit (i : ℕ)

section System

variable (a b : Arch) (creation : ℕ → Creation)

/-- The steps, for a driver built for `a` and a DLL built for `b`.  A call that
takes no message and accepts no reply may fail at any time, so a disconnection or
the end of the DLL's process is a run of failing calls and exits. -/
inductive Step (s : State) : Action → State → Prop where
  | send (k id : ℕ) {call : Call} (hpc : (s.kernel k).pc = .calls call)
      (hid : s.message id = .unsent) (hlt : id < 256 ^ 8) :
      Step s (.send k id)
        { s with
          message := update s.message id .queued
          record := update s.record id (.fresh (.creation k call))
          kernel := update s.kernel k { s.kernel k with pc := .waits call id } }
  | refuse (k : ℕ) {call : Call} (r : SendResult) (hpc : (s.kernel k).pc = .calls call)
      (hr : ntSuccess r.status = false) :
      Step s (.refuse k)
        { s with kernel := update s.kernel k ((s.kernel k).afterCall a (creation k) r call) }
  | returns (k : ℕ) {call : Call} {id : ℕ} {r : SendResult} {m : MessageState}
      (hpc : (s.kernel k).pc = .waits call id) (h : Returns (s.message id) r m) :
      Step s (.returns k)
        { s with
          message := update s.message id m
          kernel := update s.kernel k ((s.kernel k).afterCall a (creation k) r call) }
  | sendOther (id : ℕ) (payload : List UInt8) (hid : s.message id = .unsent)
      (hlt : id < 256 ^ 8) :
      Step s (.sendOther id)
        { s with
          message := update s.message id .queued
          record := update s.record id (.fresh (.other payload)) }
  | returnsOther (id : ℕ) {payload : List UInt8} {r : SendResult} {m : MessageState}
      (hsender : (s.record id).sender = .other payload) (h : Returns (s.message id) r m) :
      Step s (.returnsOther id) { s with message := update s.message id m }
  | waitForSingleObject (i : ℕ) (result : Dword) {pc : Pc}
      (h : step b (s.thread i).buffer (s.thread i).pc (.waitForSingleObject result) = some pc) :
      Step s (.thread i (.waitForSingleObject result))
        { s with thread := update s.thread i { s.thread i with pc := pc } }
  | getMessage (i id replyLength : ℕ) {pc : Pc}
      (h : step b (s.thread i).buffer (s.thread i).pc
        (.filterGetMessage (hresultFromWin32 sOk)) = some pc)
      (hid : s.message id = .queued) :
      Step s (.thread i (.filterGetMessage (hresultFromWin32 sOk)))
        { s with
          message := update s.message id .taken
          record := update s.record id { s.record id with holder := some i }
          thread := update s.thread i ((s.thread i).takes replyLength id
            ((s.record id).sender.message a creation) pc .idle) }
  | getMessageOther (i : ℕ) (result : Hresult) {pc : Pc}
      (h : step b (s.thread i).buffer (s.thread i).pc (.filterGetMessage result) = some pc)
      (hok : result ≠ hresultFromWin32 sOk) :
      Step s (.thread i (.filterGetMessage result))
        { s with
          thread := update s.thread i
            { s.thread i with
              pc := pc
              receive := if result = hresultFromWin32 errorIoPending then .pending else .idle } }
  | waitForMultipleObjects (i : ℕ) (result : Dword) {pc : Pc}
      (h : step b (s.thread i).buffer (s.thread i).pc (.waitForMultipleObjects result) = some pc) :
      Step s (.thread i (.waitForMultipleObjects result))
        { s with thread := update s.thread i { s.thread i with pc := pc } }
  | getOverlappedResult (i : ℕ) {ok : Bool} {pc : Pc}
      (h : step b (s.thread i).buffer (s.thread i).pc (.getOverlappedResult ok) = some pc)
      (hok : ok = true ↔ (s.thread i).receive = .completed) :
      Step s (.thread i (.getOverlappedResult ok))
        { s with thread := update s.thread i { s.thread i with pc := pc } }
  | dispatch (i : ℕ) (stack : Mem) {pc : Pc}
      (h : step b (s.thread i).buffer (s.thread i).pc (.stack stack) = some pc) :
      Step s (.thread i (.stack stack))
        { s with
          record := s.note i (raise pc)
          thread := update s.thread i { s.thread i with pc := pc } }
  | messageBox (i : ℕ) (choice : ℕ) {pc : Pc}
      (h : step b (s.thread i).buffer (s.thread i).pc (.messageBox choice) = some pc) :
      Step s (.thread i (.messageBox choice))
        { s with
          record := s.note i fun r ↦ { r with answers := r.answers ++ [choice] }
          thread := update s.thread i { s.thread i with pc := pc } }
  | replyMessage (i : ℕ) {reply : Mem} {length : ℕ} {pc : Pc}
      (hpc : (s.thread i).pc = .sendReply reply length)
      (h : step b (s.thread i).buffer (s.thread i).pc (.filterReplyMessage sOk) = some pc)
      (hid : Awaited (s.message (replyMessageId reply))) :
      Step s (.thread i (.filterReplyMessage sOk))
        { s with
          message := update s.message (replyMessageId reply)
            (.replied (read reply FilterReply.headerSize (length - FilterReply.headerSize)))
          record := s.note i fun r ↦ { r with replies := r.replies ++ [sOk] }
          thread := update s.thread i { s.thread i with pc := pc } }
  | replyMessageFailed (i : ℕ) {result : Hresult} {pc : Pc}
      (h : step b (s.thread i).buffer (s.thread i).pc (.filterReplyMessage result) = some pc)
      (hresult : result ≠ sOk) :
      Step s (.thread i (.filterReplyMessage result))
        { s with
          record := s.note i fun r ↦ { r with replies := r.replies ++ [result] }
          thread := update s.thread i { s.thread i with pc := pc } }
  | complete (i id replyLength : ℕ) (hpending : (s.thread i).receive = .pending)
      (hid : s.message id = .queued) :
      Step s (.complete i id)
        { s with
          message := update s.message id .taken
          record := update s.record id { s.record id with holder := some i }
          thread := update s.thread i ((s.thread i).takes replyLength id
            ((s.record id).sender.message a creation) (s.thread i).pc .completed) }
  | abort (i : ℕ) (hpending : (s.thread i).receive = .pending) :
      Step s (.abort i)
        { s with thread := update s.thread i { s.thread i with receive := .aborted } }
  | exit (i : ℕ) :
      Step s (.exit i)
        { s with thread := update s.thread i { s.thread i with pc := .returned } }

/-- Nothing is sent, every creation is at its first call, and each thread that
there is or will be has just started. -/
def Init (s : State) : Prop :=
  (∀ id, s.message id = .unsent ∧ s.record id = .fresh (.other [])) ∧
    (∀ k, s.kernel k = ⟨.calls .getAndLogProcDetails, (creation k).creationStatus⟩) ∧
    ∀ i, (s.thread i).pc = .testTerminate ∧ (s.thread i).receive = .idle ∧
      (s.thread i).current = none

def port : System State Action := ⟨Init creation, Step a b creation⟩

end System

end NtDriver.MessagePort
