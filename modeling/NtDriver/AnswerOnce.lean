import NtDriver.Lib.Transition
import NtDriver.CommThread

/-!
# One answer for each message

One communication thread, any results of its calls, and a log of what can be
observed of it.  A pending receive completes on its own, before or after the
thread has left its wait.
-/

namespace NtDriver.AnswerOnce

open Transition CommThread

/-- What the thread does, and the messages its receives complete with; a wait is left
when it has reported something else than the receive. -/
inductive Entry where
  | issued
  | got (id command : ℕ)
  | replied (id command : ℕ)
  | waitLeft
  | ret
  deriving DecidableEq

namespace Entry

def Boundary : Entry → Prop
  | issued | ret => True
  | _ => False

theorem boundary_issued : issued.Boundary := trivial

def isReply : Entry → Bool
  | replied _ _ => true
  | _ => false

end Entry

structure State where
  pc : Pc
  buffer : MessageBuffer
  receive : Receive
  terminate : Bool
  log : List Entry

def gotEntry (buffer : MessageBuffer) : Entry := .got (messageId buffer) (command buffer)

def retEntry : Pc → List Entry
  | .returned => [.ret]
  | _ => []

inductive Action where
  | thread (result : Result)
  | complete
  | abort
  | terminate

/-- The steps.  A receive that completes leaves an arbitrary message in the
buffer; a wait reports the lowest signalled index or fails. -/
inductive Step (a : Arch) (s : State) : Action → State → Prop where
  | waitForSingleObject (result : Dword) {pc : Pc}
      (h : step a s.buffer s.pc (.waitForSingleObject result) = some pc)
      (hset : result = waitObject0 → s.terminate = true) :
      Step a s (.thread (.waitForSingleObject result))
        { s with pc := pc, log := s.log ++ retEntry pc }
  | getMessage {pc : Pc} (buffer : MessageBuffer)
      (h : step a s.buffer s.pc (.filterGetMessage (hresultFromWin32 sOk)) = some pc) :
      Step a s (.thread (.filterGetMessage (hresultFromWin32 sOk)))
        { s with
          pc := pc, buffer := buffer, receive := .idle
          log := s.log ++ [.issued] ++ [gotEntry buffer] }
  | getMessagePending {pc : Pc}
      (h : step a s.buffer s.pc (.filterGetMessage (hresultFromWin32 errorIoPending)) = some pc) :
      Step a s (.thread (.filterGetMessage (hresultFromWin32 errorIoPending)))
        { s with pc := pc, receive := .pending, log := s.log ++ [.issued] }
  | getMessageFailed {result : Hresult} {pc : Pc}
      (h : step a s.buffer s.pc (.filterGetMessage result) = some pc)
      (hpending : result ≠ hresultFromWin32 errorIoPending) (hok : result ≠ hresultFromWin32 sOk) :
      Step a s (.thread (.filterGetMessage result))
        { s with pc := pc, receive := .idle, log := s.log ++ [.issued] ++ retEntry pc }
  | waitEvent {pc : Pc}
      (h : step a s.buffer s.pc (.waitForMultipleObjects (waitObject0 + 1)) = some pc)
      (hset : s.terminate = false) (hdone : s.receive ≠ .pending) :
      Step a s (.thread (.waitForMultipleObjects (waitObject0 + 1))) { s with pc := pc }
  | waitLeave (result : Dword) {pc : Pc}
      (h : step a s.buffer s.pc (.waitForMultipleObjects result) = some pc)
      (hresult : result ≠ waitObject0 + 1) (hset : result = waitObject0 → s.terminate = true) :
      Step a s (.thread (.waitForMultipleObjects result))
        { s with pc := pc, log := s.log ++ [.waitLeft] ++ retEntry pc }
  | getOverlappedResult {ok : Bool} {pc : Pc}
      (h : step a s.buffer s.pc (.getOverlappedResult ok) = some pc)
      (hok : ok = true ↔ s.receive = .completed) :
      Step a s (.thread (.getOverlappedResult ok))
        { s with pc := pc, receive := .idle, log := s.log ++ retEntry pc }
  | dispatch {pc : Pc} (stack : Memory.Mem)
      (h : step a s.buffer s.pc (.stack stack) = some pc) :
      Step a s (.thread (.stack stack)) { s with pc := pc }
  | messageBox {choice : ℕ} {pc : Pc}
      (h : step a s.buffer s.pc (.messageBox choice) = some pc) :
      Step a s (.thread (.messageBox choice)) { s with pc := pc }
  | replyMessage (result : Hresult) {reply : Memory.Mem} {length : ℕ} {pc : Pc}
      (hpc : s.pc = .sendReply reply length)
      (h : step a s.buffer s.pc (.filterReplyMessage result) = some pc) :
      Step a s (.thread (.filterReplyMessage result))
        { s with
          pc := pc, log := s.log ++ [.replied (replyMessageId reply) (replyCommand reply)] }
  | complete (buffer : MessageBuffer) (h : s.receive = .pending) :
      Step a s .complete
        { s with
          buffer := buffer, receive := .completed, log := s.log ++ [gotEntry buffer] }
  | abort (h : s.receive = .pending) : Step a s .abort { s with receive := .aborted }
  | terminate : Step a s .terminate { s with terminate := true }

def Init (s : State) : Prop :=
  s.pc = .testTerminate ∧ s.receive = .idle ∧ s.terminate = false ∧ s.log = []

def thread (a : Arch) : System State Action := ⟨Init, Step a⟩

/-! ## The property of a log -/

/-- Each message that needs a reply has got exactly one, with its id and its
command, before the next boundary. -/
def AnswersEvery (log : List Entry) : Prop :=
  ∀ pre id command rest, log = pre ++ .got id command :: rest → NeedsReply command →
    .ret ∉ pre ∧ ∀ mid b post, rest = mid ++ b :: post → b.Boundary → (∀ x ∈ mid, ¬ x.Boundary) →
      mid.filter Entry.isReply = [.replied id command]

/-- As `AnswersEvery`, but a message whose receive was still awaited when the
wait was left gets no reply at all, and the thread returns. -/
def AnswersUnlessLeft (log : List Entry) : Prop :=
  ∀ pre id command rest, log = pre ++ .got id command :: rest → NeedsReply command →
    (.waitLeft ∈ pre ∧ rest.filter Entry.isReply = []) ∨
    (.ret ∉ pre ∧ ∀ mid b post, rest = mid ++ b :: post → b.Boundary → (∀ x ∈ mid, ¬ x.Boundary) →
      mid.filter Entry.isReply = [.replied id command] ∨
        (.waitLeft ∈ mid ∧ b = .ret ∧ mid.filter Entry.isReply = []))

/-- What the entries since the last boundary must be when the next entry is `x`. -/
def TailAllows (log : List Entry) (x : Entry) : Prop :=
  ∀ pre id command mid, log = pre ++ .got id command :: mid → (∀ y ∈ mid, ¬ y.Boundary) →
    NeedsReply command → mid.filter Entry.isReply = [.replied id command] ∨
      (.waitLeft ∈ mid ∧ x = .ret ∧ mid.filter Entry.isReply = [])

theorem snoc_split {log pre rest : List Entry} {x y : Entry}
    (h : log ++ [x] = pre ++ y :: rest) :
    (rest = [] ∧ pre = log ∧ y = x) ∨ ∃ rest', rest = rest' ++ [x] ∧ log = pre ++ y :: rest' := by
  rcases List.eq_nil_or_concat' rest with rfl | ⟨rest', z, rfl⟩
  · obtain ⟨hlog, hx⟩ := List.append_inj' h rfl
    exact Or.inl ⟨rfl, hlog.symm, (List.singleton_inj.mp hx).symm⟩
  · have hassoc : log ++ [x] = pre ++ y :: rest' ++ [z] := by simpa using h
    obtain ⟨hlog, hx⟩ := List.append_inj' hassoc rfl
    exact Or.inr ⟨rest', by rw [List.singleton_inj.mp hx], hlog⟩

theorem AnswersUnlessLeft.snoc {log : List Entry} {x : Entry} (h : AnswersUnlessLeft log)
    (hgot : ∀ id command, x = .got id command → .ret ∉ log ∨ .waitLeft ∈ log)
    (hreply : .waitLeft ∈ log → x.isReply = false) (htail : x.Boundary → TailAllows log x) :
    AnswersUnlessLeft (log ++ [x]) := by
  intro pre id command rest hlog hneeds
  rcases snoc_split hlog with ⟨rfl, rfl, hx⟩ | ⟨rest, rfl, rfl⟩
  · rcases hgot id command hx.symm with hret | hleft
    · exact Or.inr ⟨hret, by simp⟩
    · exact Or.inl ⟨hleft, rfl⟩
  · rcases h pre id command rest rfl hneeds with ⟨hleft, hnone⟩ | ⟨hret, hmid⟩
    · refine Or.inl ⟨hleft, ?_⟩
      simp [hnone, hreply (by simp [hleft])]
    · refine Or.inr ⟨hret, fun mid b post hrest hb hfree ↦ ?_⟩
      rcases snoc_split hrest with ⟨_, rfl, rfl⟩ | ⟨post, _, rfl⟩
      · exact htail hb pre id command mid rfl hfree hneeds
      · exact hmid mid b post rfl hb hfree

/-! ## The entries since the last boundary -/

/-- `seg` holds the entries of `log` since its last boundary. -/
def EndsWith (log seg : List Entry) : Prop :=
  ∃ front, log = front ++ seg ∧ (front = [] ∨ ∃ front' b, front = front' ++ [b] ∧ b.Boundary)

theorem endsWith_nil : EndsWith [] [] := ⟨[], rfl, Or.inl rfl⟩

theorem EndsWith.snoc {log seg : List Entry} (h : EndsWith log seg) (x : Entry) :
    EndsWith (log ++ [x]) (seg ++ [x]) := by
  obtain ⟨front, rfl, hfront⟩ := h
  exact ⟨front, by simp, hfront⟩

theorem endsWith_boundary (log : List Entry) {b : Entry} (hb : b.Boundary) :
    EndsWith (log ++ [b]) [] :=
  ⟨log ++ [b], by simp, Or.inr ⟨log, b, rfl, hb⟩⟩

theorem EndsWith.split {log seg pre mid : List Entry} {x : Entry} (h : EndsWith log seg)
    (hlog : log = pre ++ x :: mid) (hx : ¬ x.Boundary) (hfree : ∀ y ∈ mid, ¬ y.Boundary) :
    ∃ pre', seg = pre' ++ x :: mid := by
  obtain ⟨front, hsplit, hfront⟩ := h
  rcases List.append_eq_append_iff.mp (hsplit.symm.trans hlog) with
    ⟨pre', _, hseg⟩ | ⟨tail, hpre, htail⟩
  · exact ⟨pre', hseg⟩
  · rcases hfront with rfl | ⟨front', b, rfl, hb⟩
    · obtain ⟨rfl, rfl⟩ : pre = [] ∧ tail = [] := by simpa using hpre
      exact ⟨[], htail.symm⟩
    · rcases List.eq_nil_or_concat' tail with rfl | ⟨tail, z, rfl⟩
      · exact ⟨[], by simpa using htail.symm⟩
      · have hz : b = z := by
          have hlast := congrArg List.getLast? hpre
          simpa using hlast
        have hmem : z ∈ x :: mid := by simp [htail]
        rcases List.mem_cons.mp hmem with rfl | hmem
        · exact absurd (hz ▸ hb) hx
        · exact absurd (hz ▸ hb) (hfree z hmem)

/-- The segment of a loop iteration that is over. -/
def Served (seg : List Entry) : Prop :=
  seg = [] ∨ ∃ id command, seg = [.got id command, .replied id command] ∨
    (seg = [.got id command] ∧ ¬ NeedsReply command)

theorem tailAllows_of_served {log seg : List Entry} (h : EndsWith log seg) (hseg : Served seg)
    (x : Entry) : TailAllows log x := by
  intro pre id command mid hlog hfree hneeds
  obtain ⟨pre', hsplit⟩ := h.split hlog not_false hfree
  rcases hseg with rfl | ⟨id', command', rfl | ⟨rfl, hneedless⟩⟩
  · simp at hsplit
  · cases pre' with
    | nil =>
        obtain ⟨⟨rfl, rfl⟩, rfl⟩ : (id' = id ∧ command' = command) ∧
            [.replied id' command'] = mid := by simpa using hsplit
        exact Or.inl rfl
    | cons y pre' => cases pre' <;> simp at hsplit
  · cases pre' with
    | nil =>
        obtain ⟨⟨rfl, rfl⟩, rfl⟩ : (id' = id ∧ command' = command) ∧ [] = mid := by
          simpa using hsplit
        exact absurd hneeds hneedless
    | cons y pre' => simp at hsplit

theorem tailAllows_of_waitLeft {log seg : List Entry} (h : EndsWith log (seg ++ [.waitLeft]))
    (hseg : seg = [] ∨ ∃ id command, seg = [.got id command]) : TailAllows log .ret := by
  intro pre id command mid hlog hfree _
  obtain ⟨pre', hsplit⟩ := h.split hlog not_false hfree
  rcases hseg with rfl | ⟨id', command', rfl⟩
  · cases pre' <;> simp at hsplit
  · cases pre' with
    | nil =>
        obtain ⟨_, rfl⟩ : (id' = id ∧ command' = command) ∧ [.waitLeft] = mid := by
          simpa using hsplit
        exact Or.inr ⟨List.mem_singleton_self _, rfl, rfl⟩
    | cons y pre' => cases pre' <;> simp at hsplit

/-! ## The invariant -/

/-- What the segment holds at each program counter. -/
def Shape (s : State) (seg : List Entry) : Prop :=
  match s.pc with
  | .testTerminate | .getMessage => s.receive ≠ .pending ∧ Served seg
  | .waitPending => seg = if s.receive = .completed then [gotEntry s.buffer] else []
  | .overlappedResult =>
      s.receive ≠ .pending ∧ seg = if s.receive = .completed then [gotEntry s.buffer] else []
  | .dispatch => s.receive ≠ .pending ∧ seg = [gotEntry s.buffer]
  | .messageBox reply _ | .sendReply reply _ =>
      s.receive ≠ .pending ∧ seg = [gotEntry s.buffer] ∧ Answers reply s.buffer
  | .returned => True
  | .faulted => s.receive ≠ .pending

structure Inv (s : State) : Prop where
  answered : AnswersUnlessLeft s.log
  running : s.pc ≠ .returned → .ret ∉ s.log ∧ .waitLeft ∉ s.log
  left : s.pc = .returned → s.receive = .pending → .waitLeft ∈ s.log
  shape : ∃ seg, EndsWith s.log seg ∧ Shape s seg

section Invariant

variable {a : Arch} {s : State}

theorem inv_init (h : Init s) : Inv s := by
  obtain ⟨hpc, hreceive, _, hlog⟩ := h
  refine ⟨?_, by simp [hlog], by simp [hpc], [], ?_, ?_⟩
  · intro pre id command rest hsplit
    simp [hlog] at hsplit
  · exact hlog ▸ endsWith_nil
  · simp [Shape, hpc, hreceive, Served]

theorem Inv.snoc_boundary (h : Inv s) {x : Entry} (hx : x.Boundary)
    (htail : TailAllows s.log x) : AnswersUnlessLeft (s.log ++ [x]) := by
  refine h.answered.snoc ?_ ?_ fun _ ↦ htail
  · rintro id command rfl
    exact hx.elim
  · intro _
    cases x <;> first | rfl | exact hx.elim

theorem Inv.return_snoc (h : Inv s) {receive : Receive} (hreceive : receive ≠ .pending)
    (htail : TailAllows s.log .ret) :
    Inv { s with pc := .returned, receive := receive, log := s.log ++ [.ret] } where
  answered := h.snoc_boundary trivial htail
  running hne := absurd rfl hne
  left _ hpending := absurd hpending hreceive
  shape := ⟨[], endsWith_boundary _ trivial, trivial⟩

theorem Inv.issued (h : Inv s) (hpc : s.pc = .getMessage) :
    AnswersUnlessLeft (s.log ++ [.issued]) ∧
      (.ret ∉ s.log ++ [.issued] ∧ .waitLeft ∉ s.log ++ [.issued]) := by
  obtain ⟨seg, hseg, hshape⟩ := h.shape
  simp only [Shape, hpc] at hshape
  have hrunning := h.running (by simp [hpc])
  exact ⟨h.snoc_boundary trivial (tailAllows_of_served hseg hshape.2 _), by simpa using hrunning⟩

theorem inv_waitForSingleObject (h : Inv s) {result : Dword} {pc : Pc}
    (hstep : step a s.buffer s.pc (.waitForSingleObject result) = some pc) :
    Inv { s with pc := pc, log := s.log ++ retEntry pc } := by
  obtain ⟨hpc, rfl⟩ := step_waitForSingleObject.mp hstep
  obtain ⟨seg, hseg, hshape⟩ := h.shape
  simp only [Shape, hpc] at hshape
  split_ifs
  · exact h.return_snoc hshape.1 (tailAllows_of_served hseg hshape.2 _)
  · simp only [retEntry, List.append_nil]
    exact ⟨h.answered, fun _ ↦ h.running (by simp [hpc]), nofun, seg, hseg, hshape⟩

theorem inv_getMessage (h : Inv s) {pc : Pc} (buffer : MessageBuffer)
    (hstep : step a s.buffer s.pc (.filterGetMessage (hresultFromWin32 sOk)) = some pc) :
    Inv { s with
      pc := pc, buffer := buffer, receive := .idle
      log := s.log ++ [.issued] ++ [gotEntry buffer] } := by
  obtain ⟨hpc, rfl⟩ := step_filterGetMessage.mp hstep
  obtain ⟨hanswered, hret, hleft⟩ := h.issued hpc
  refine ⟨hanswered.snoc (fun _ _ _ ↦ Or.inl hret) (fun hmem ↦ absurd hmem hleft) nofun,
    fun _ ↦ ?_, nofun, [gotEntry buffer], (endsWith_boundary _ Entry.boundary_issued).snoc _, ?_⟩
  · simpa [gotEntry] using And.intro hret hleft
  · exact ⟨nofun, rfl⟩

theorem inv_getMessagePending (h : Inv s) {pc : Pc}
    (hstep : step a s.buffer s.pc (.filterGetMessage (hresultFromWin32 errorIoPending)) =
      some pc) :
    Inv { s with pc := pc, receive := .pending, log := s.log ++ [.issued] } := by
  obtain ⟨hpc, rfl⟩ := step_filterGetMessage.mp hstep
  obtain ⟨hanswered, hlog⟩ := h.issued hpc
  exact ⟨hanswered, fun _ ↦ hlog, nofun, [], endsWith_boundary _ Entry.boundary_issued, rfl⟩

theorem inv_getMessageFailed (h : Inv s) {result : Hresult} {pc : Pc}
    (hstep : step a s.buffer s.pc (.filterGetMessage result) = some pc)
    (hpending : result ≠ hresultFromWin32 errorIoPending) (hok : result ≠ hresultFromWin32 sOk) :
    Inv { s with pc := pc, receive := .idle, log := s.log ++ [.issued] ++ retEntry pc } := by
  obtain ⟨hpc, rfl⟩ := step_filterGetMessage.mp hstep
  obtain ⟨hanswered, hlog⟩ := h.issued hpc
  rw [afterGetMessage_failure hpending hok]
  have hissued : Inv { s with
      pc := .testTerminate, receive := .idle, log := s.log ++ [.issued] } :=
    ⟨hanswered, fun _ ↦ hlog, nofun, [], endsWith_boundary _ Entry.boundary_issued, nofun,
      Or.inl rfl⟩
  exact hissued.return_snoc nofun
    (tailAllows_of_served (endsWith_boundary _ Entry.boundary_issued) (Or.inl rfl) _)

theorem inv_waitEvent (h : Inv s) {pc : Pc}
    (hstep : step a s.buffer s.pc (.waitForMultipleObjects (waitObject0 + 1)) = some pc)
    (hdone : s.receive ≠ .pending) : Inv { s with pc := pc } := by
  obtain ⟨hpc, rfl⟩ := step_waitForMultipleObjects.mp hstep
  obtain ⟨seg, hseg, hshape⟩ := h.shape
  simp only [Shape, hpc] at hshape
  exact ⟨h.answered, fun _ ↦ h.running (by simp [hpc]), nofun, seg, hseg, hdone, hshape⟩

theorem inv_waitLeave (h : Inv s) {result : Dword} {pc : Pc}
    (hstep : step a s.buffer s.pc (.waitForMultipleObjects result) = some pc)
    (hresult : result ≠ waitObject0 + 1) :
    Inv { s with pc := pc, log := s.log ++ [.waitLeft] ++ retEntry pc } := by
  obtain ⟨hpc, rfl⟩ := step_waitForMultipleObjects.mp hstep
  obtain ⟨seg, hseg, hshape⟩ := h.shape
  simp only [Shape, hpc] at hshape
  rw [afterWait_failure hresult]
  have hseg' : seg = [] ∨ ∃ id command, seg = [.got id command] := by
    split_ifs at hshape
    · exact Or.inr ⟨_, _, hshape⟩
    · exact Or.inl hshape
  have hleft : AnswersUnlessLeft (s.log ++ [.waitLeft]) :=
    h.answered.snoc nofun (fun _ ↦ rfl) nofun
  have hret : AnswersUnlessLeft (s.log ++ [.waitLeft] ++ [.ret]) :=
    hleft.snoc nofun (fun _ ↦ rfl) fun _ ↦ tailAllows_of_waitLeft (hseg.snoc _) hseg'
  exact ⟨hret, fun hne ↦ absurd rfl hne, fun _ _ ↦ by simp, [], endsWith_boundary _ trivial,
    trivial⟩

theorem inv_getOverlappedResult (h : Inv s) {ok : Bool} {pc : Pc}
    (hstep : step a s.buffer s.pc (.getOverlappedResult ok) = some pc)
    (hok : ok = true ↔ s.receive = .completed) :
    Inv { s with pc := pc, receive := .idle, log := s.log ++ retEntry pc } := by
  obtain ⟨hpc, rfl⟩ := step_getOverlappedResult.mp hstep
  obtain ⟨seg, hseg, hshape⟩ := h.shape
  simp only [Shape, hpc] at hshape
  cases ok with
  | true =>
      rw [if_pos (hok.mp rfl)] at hshape
      simp only [if_true, retEntry, List.append_nil]
      exact ⟨h.answered, fun _ ↦ h.running (by simp [hpc]), nofun, seg, hseg, nofun, hshape.2⟩
  | false =>
      rw [if_neg (by simpa using hok)] at hshape
      exact h.return_snoc nofun (tailAllows_of_served hseg (Or.inl hshape.2) _)

theorem inv_dispatch (h : Inv s) {stack : Memory.Mem} {pc : Pc}
    (hstep : step a s.buffer s.pc (.stack stack) = some pc) : Inv { s with pc := pc } := by
  obtain ⟨hpc, rfl⟩ := step_stack.mp hstep
  obtain ⟨seg, hseg, hshape⟩ := h.shape
  simp only [Shape, hpc] at hshape
  obtain ⟨hreceive, hgot⟩ := hshape
  have hrunning := h.running (by simp [hpc])
  rcases dispatch_cases a stack s.buffer with ⟨reply, length, hd, hanswers, _⟩ |
    ⟨text, hd, hanswers⟩ | hd | ⟨hd, hneedless⟩ <;> rw [hd]
  · exact ⟨h.answered, fun _ ↦ hrunning, nofun, seg, hseg, hreceive, hgot, hanswers⟩
  · exact ⟨h.answered, fun _ ↦ hrunning, nofun, seg, hseg, hreceive, hgot, hanswers⟩
  · exact ⟨h.answered, fun _ ↦ hrunning, nofun, seg, hseg, hreceive⟩
  · exact ⟨h.answered, fun _ ↦ hrunning, nofun, seg, hseg, hreceive,
      Or.inr ⟨_, _, Or.inr ⟨hgot, hneedless⟩⟩⟩

theorem inv_messageBox (h : Inv s) {choice : ℕ} {pc : Pc}
    (hstep : step a s.buffer s.pc (.messageBox choice) = some pc) : Inv { s with pc := pc } := by
  obtain ⟨reply, text, hpc, rfl⟩ := step_messageBox.mp hstep
  obtain ⟨seg, hseg, hshape⟩ := h.shape
  simp only [Shape, hpc] at hshape
  obtain ⟨hreceive, hgot, hanswers⟩ := hshape
  exact ⟨h.answered, fun _ ↦ h.running (by simp [hpc]), nofun, seg, hseg, hreceive, hgot,
    hanswers.answeredReply a choice⟩

theorem inv_replyMessage (h : Inv s) {result : Hresult} {reply : Memory.Mem} {length : ℕ} {pc : Pc}
    (hpc : s.pc = .sendReply reply length)
    (hstep : step a s.buffer s.pc (.filterReplyMessage result) = some pc) :
    Inv { s with
      pc := pc, log := s.log ++ [.replied (replyMessageId reply) (replyCommand reply)] } := by
  obtain ⟨_, _, _, rfl⟩ := step_filterReplyMessage.mp hstep
  obtain ⟨seg, hseg, hshape⟩ := h.shape
  simp only [Shape, hpc] at hshape
  obtain ⟨hreceive, rfl, hanswers⟩ := hshape
  obtain ⟨hret, hleft⟩ := h.running (by simp [hpc])
  refine ⟨h.answered.snoc nofun (fun hmem ↦ absurd hmem hleft) nofun, fun _ ↦ ?_, nofun, _,
    hseg.snoc _, hreceive, Or.inr ⟨messageId s.buffer, command s.buffer, Or.inl ?_⟩⟩
  · simpa using And.intro hret hleft
  · rw [hanswers.messageId, hanswers.command]
    rfl

theorem inv_complete (h : Inv s) (buffer : MessageBuffer) (hpending : s.receive = .pending) :
    Inv { s with
      buffer := buffer, receive := .completed, log := s.log ++ [gotEntry buffer] } := by
  obtain ⟨seg, hseg, hshape⟩ := h.shape
  have hlog : .ret ∉ s.log ∨ .waitLeft ∈ s.log := by
    by_cases hpc : s.pc = .returned
    · exact Or.inr (h.left hpc hpending)
    · exact Or.inl (h.running hpc).1
  have hanswered : AnswersUnlessLeft (s.log ++ [gotEntry buffer]) :=
    h.answered.snoc (fun _ _ _ ↦ hlog) (fun _ ↦ rfl) nofun
  refine ⟨hanswered, fun hpc ↦ ?_, nofun, _, hseg.snoc _, ?_⟩
  · simpa [gotEntry] using h.running hpc
  · cases hpc : s.pc <;> simp only [Shape, hpc, hpending] at hshape ⊢ <;> simp_all

theorem inv_abort (h : Inv s) (hpending : s.receive = .pending) :
    Inv { s with receive := .aborted } := by
  obtain ⟨seg, hseg, hshape⟩ := h.shape
  refine ⟨h.answered, h.running, nofun, seg, hseg, ?_⟩
  cases hpc : s.pc <;> simp only [Shape, hpc, hpending] at hshape ⊢ <;> simp_all

theorem inv_terminate (h : Inv s) : Inv { s with terminate := true } :=
  ⟨h.answered, h.running, h.left, h.shape⟩

theorem inv_step (h : Inv s) {t : State} {act : Action} (hstep : Step a s act t) : Inv t := by
  cases hstep with
  | waitForSingleObject result hcall _ => exact inv_waitForSingleObject h hcall
  | getMessage buffer hcall => exact inv_getMessage h buffer hcall
  | getMessagePending hcall => exact inv_getMessagePending h hcall
  | getMessageFailed hcall hpending hok => exact inv_getMessageFailed h hcall hpending hok
  | waitEvent hcall _ hdone => exact inv_waitEvent h hcall hdone
  | waitLeave result hcall hresult _ => exact inv_waitLeave h hcall hresult
  | getOverlappedResult hcall hok => exact inv_getOverlappedResult h hcall hok
  | dispatch stack hcall => exact inv_dispatch h hcall
  | messageBox hcall => exact inv_messageBox h hcall
  | replyMessage result hpc hcall => exact inv_replyMessage h hpc hcall
  | complete buffer hpending => exact inv_complete h buffer hpending
  | abort hpending => exact inv_abort h hpending
  | terminate => exact inv_terminate h

end Invariant

/-- Every message taken is answered exactly once, by its id and command, unless
the thread leaves the wait for it and returns. -/
theorem answersUnlessLeft_of_reachable (a : Arch) (s : State) (h : (thread a).Reachable s) :
    AnswersUnlessLeft s.log := by
  have hinv : Inv s := by
    apply h.invariant
    · exact fun s hs ↦ inv_init hs
    · exact fun s act t hs hstep ↦ inv_step hs hstep
  exact hinv.answered

def zeroBuffer : MessageBuffer := ⟨fun _ ↦ 0, messageBufferSize, le_rfl⟩

def initialState : State := ⟨.testTerminate, zeroBuffer, .idle, false, []⟩

theorem init_initialState : Init initialState := ⟨rfl, rfl, rfl, rfl⟩

theorem reachable_getMessage (a : Arch) :
    (thread a).Reachable { initialState with pc := .getMessage } :=
  System.Reachable.step (.init init_initialState)
    (Step.waitForSingleObject 258#32 rfl (by decide))

theorem answered_version : ∃ s, (thread .x64).Reachable s ∧
    s.log = [.issued, .got 0 0, .replied 0 0] ∧ AnswersUnlessLeft s.log := by
  have h₁ := (reachable_getMessage .x64).step (Step.getMessage zeroBuffer rfl)
  have h₂ := h₁.step (Step.dispatch (fun _ ↦ 0) rfl)
  have h₃ := h₂.step (Step.replyMessage sOk rfl rfl)
  refine ⟨_, h₃, ?_, answersUnlessLeft_of_reachable .x64 _ h₃⟩
  decide

/-- The message arrives, and then the termination event is set ahead of the wait. -/
theorem not_answersEvery_terminated : ¬ ∀ s, (thread .x64).Reachable s → AnswersEvery s.log := by
  intro hall
  have h₁ := (reachable_getMessage .x64).step (Step.getMessagePending rfl)
  have h₂ := h₁.step (Step.complete zeroBuffer rfl)
  have h₃ := h₂.step Step.terminate
  have h₄ := h₃.step (Step.waitLeave waitObject0 rfl (by decide) fun _ ↦ rfl)
  have hanswers := (hall _ h₄ [.issued] 0 0 [.waitLeft, .ret] (by decide)
    ⟨.cmdGetLibraryVersion, rfl, trivial⟩).2 [.waitLeft] .ret [] rfl trivial
      (by simp [Entry.Boundary])
  simp [Entry.isReply] at hanswers

end NtDriver.AnswerOnce
