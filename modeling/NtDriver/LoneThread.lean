import NtDriver.ProcVerdict

/-!
# A thread on its own

Between the delivery of a message and its reply nothing that the other parties do
reaches the thread: what it replies is what it would reply to this message if it were
alone with it.
-/

namespace NtDriver.LoneThread

open Memory Layout Transition CommThread MessagePort Function

/-! ## One turn of the loop -/

/-- A thread at work on one message: its buffer before, the header that is written to it,
the prior content of `reply`, and the user's answer to the dialog. -/
structure Turn where
  buffer : MessageBuffer
  replyLength : ℕ
  messageId : ℕ
  stack : Mem
  choice : ℕ

/-- The reply that is sent from a call of the loop, and its length. -/
def prepared (b : Arch) (choice : ℕ) : Pc → Option (Mem × ℕ)
  | .sendReply reply length => some (reply, length)
  | .messageBox reply _ =>
      some (answeredReply b reply choice, FilterReply.headerSize + ProcInfo.size b)
  | _ => none

namespace Turn

variable (turn : Turn) (b : Arch) (message : List UInt8)

def received : MessageBuffer := turn.buffer.deliver turn.replyLength turn.messageId message

def prepares : Option (Mem × ℕ) :=
  prepared b turn.choice (dispatch b turn.stack (turn.received message))

/-- What the driver gets back. -/
def reply : Option (List UInt8) :=
  (turn.prepares b message).map fun (reply, length) ↦
    read reply FilterReply.headerSize (length - FilterReply.headerSize)

end Turn

def Received (buffer : MessageBuffer) (id : ℕ) (message : List UInt8) : Prop :=
  ∃ turn : Turn, turn.messageId = id ∧ buffer = turn.received message

/-- Where a thread stands in its turn at a call of its loop. -/
def AtCall (b : Arch) (buffer : MessageBuffer) (receive : Receive) (id : ℕ)
    (message : List UInt8) : Pc → Prop
  | .waitPending | .overlappedResult => receive = .completed → Received buffer id message
  | .dispatch => Received buffer id message
  | .messageBox reply text => ∃ turn : Turn, turn.messageId = id ∧
      dispatch b turn.stack (turn.received message) = .messageBox reply text
  | .sendReply reply length => ∃ turn : Turn, turn.messageId = id ∧
      turn.prepares b message = some (reply, length)
  | _ => True

theorem atCall_dispatch {b : Arch} {buffer : MessageBuffer} {id : ℕ} {message : List UInt8}
    (h : Received buffer id message) (receive : Receive) (stack : Mem) :
    AtCall b buffer receive id message (dispatch b stack buffer) := by
  obtain ⟨turn, hid, rfl⟩ := h
  cases hdispatch : dispatch b stack (turn.received message) with
  | waitPending | overlappedResult => exact fun _ ↦ ⟨turn, hid, rfl⟩
  | dispatch => exact ⟨turn, hid, rfl⟩
  | messageBox reply text => exact ⟨{ turn with stack := stack }, hid, hdispatch⟩
  | sendReply reply length =>
      refine ⟨{ turn with stack := stack }, hid, ?_⟩
      exact congrArg (prepared b turn.choice) hdispatch
  | _ => trivial

/-! ## The invariant -/

section Invariant

variable (a b : Arch) (creation : ℕ → Creation)

/-- What is sent under a message id. -/
def sent (s : State) (id : ℕ) : List UInt8 := (s.record id).sender.message a creation

/-- The message has one reply, which the thread that took it makes in its turn. -/
structure Served (id : ℕ) (message : List UInt8) (r : Record) (payload : List UInt8) : Prop where
  holder : ∃ i, r.holder = some i
  replies : r.replies = [sOk]
  turn : ∃ turn : Turn, turn.messageId = id ∧ turn.reply b message = some payload

def Knows (message : ℕ → List UInt8) (t : Thread) : Prop :=
  ∀ id, t.current = some id → AtCall b t.buffer t.receive id (message id) t.pc

structure InTurn (s : State) : Prop where
  message : ∀ id payload, s.message id = .replied payload →
    Served b id (sent a creation s id) (s.record id) payload
  thread : ∀ i, Knows b (sent a creation s) (s.thread i)

end Invariant

variable {a b : Arch} {creation : ℕ → Creation} {s t : State}

theorem Knows.frame {message message' : ℕ → List UInt8} {t : Thread} (h : Knows b message t)
    (hsame : ∀ id, t.current = some id → message' id = message id) : Knows b message' t := by
  intro id hid
  rw [hsame id hid]
  exact h id hid

theorem not_unsent_of_current (h : ProcVerdict.Inv a b creation s) {i id : ℕ}
    (hid : (s.thread i).current = some id) : s.message id ≠ .unsent :=
  (h.message id).not_unsent ((h.thread i).held id hid)

/-- A step keeps what is known when it changes no message that is out, serves those that
it replies to, and moves its own thread only. -/
theorem InTurn.of_frame (h : InTurn a b creation s) (hbase : ProcVerdict.Inv a b creation s)
    (hsent : ∀ id, s.message id ≠ .unsent → sent a creation t id = sent a creation s id)
    (hmessage : ∀ id payload, t.message id = .replied payload →
      (s.message id = .replied payload ∧ t.record id = s.record id) ∨
        Served b id (sent a creation t id) (t.record id) payload)
    (hthread : ∀ i, t.thread i = s.thread i ∨ Knows b (sent a creation t) (t.thread i)) :
    InTurn a b creation t where
  message id payload hid := by
    rcases hmessage id payload hid with ⟨hold, hrecord⟩ | hnew
    · have hsame := hsent id (by simp [hold])
      rw [hsame, hrecord]
      exact h.message id payload hold
    · exact hnew
  thread i := by
    rcases hthread i with hsame | hknows
    · rw [hsame]
      exact (h.thread i).frame fun id hid ↦ hsent id (not_unsent_of_current hbase hid)
    · exact hknows

theorem sender_note {i : ℕ} {f : Record → Record} (hf : ∀ r, (f r).sender = r.sender) (id : ℕ) :
    (s.note i f id).sender = (s.record id).sender := by
  unfold State.note
  cases (s.thread i).current with
  | none => rfl
  | some id' =>
      by_cases hid : id = id'
      · subst hid
        simp [hf]
      · simp [hid]

theorem sender_raise (pc : Pc) (r : Record) : (raise pc r).sender = r.sender := by
  cases pc <;> rfl

theorem sender_holder (id i : ℕ) (id' : ℕ) :
    (update s.record id { s.record id with holder := some i } id').sender =
      (s.record id').sender := by
  by_cases hid : id' = id
  · subst hid
    simp
  · simp [hid]

theorem replied_of_returns {m m' : MessageState} {r : SendResult} {payload : List UInt8}
    (h : Returns m r m') (hm : m' = .replied payload) : m = .replied payload := by
  cases h with
  | success => exact hm
  | failure => cases hm

theorem update_cases {α : Type*} {P : α → Prop} {f : ℕ → α} {i : ℕ} {x : α} (h : P x) (j : ℕ) :
    update f i x j = f j ∨ P (update f i x j) := by
  by_cases hj : j = i
  · subst hj
    exact Or.inr (by simpa using h)
  · exact Or.inl (update_of_ne hj _ _)

section Steps

variable (h : InTurn a b creation s) (hbase : ProcVerdict.Inv a b creation s)

include h hbase

/-- A step of a thread on its own. -/
theorem InTurn.setThread {i : ℕ} {thread : Thread}
    (hknows : Knows b (sent a creation s) thread) :
    InTurn a b creation { s with thread := update s.thread i thread } :=
  h.of_frame hbase (fun _ _ ↦ rfl) (fun _ _ hid ↦ Or.inl ⟨hid, rfl⟩)
    (update_cases (P := Knows b (sent a creation s)) hknows)

/-- A step of the driver on a message that is not, or no longer, answered by it. -/
theorem InTurn.setMessage {id : ℕ} {m : MessageState} {kernel : ℕ → Kernel}
    (hm : ∀ payload, m = .replied payload → s.message id = .replied payload) :
    InTurn a b creation { s with message := update s.message id m, kernel := kernel } := by
  refine h.of_frame hbase (fun _ _ ↦ rfl) (fun id' payload hid' ↦ Or.inl ⟨?_, rfl⟩)
    fun _ ↦ Or.inl rfl
  by_cases hid : id' = id
  · subst hid
    exact hm payload (by simpa using hid')
  · simpa [hid] using hid'

/-- A message that is sent goes out under an id of its own. -/
theorem InTurn.sendFresh {id : ℕ} {sender : Sender} {kernel : ℕ → Kernel}
    (hid : s.message id = .unsent) :
    InTurn a b creation { s with
      message := update s.message id .queued
      record := update s.record id (.fresh sender)
      kernel := kernel } := by
  refine h.of_frame hbase (fun id' hid' ↦ ?_) (fun id' payload hreplied ↦ ?_) fun _ ↦ Or.inl rfl
  · have hne : id' ≠ id := by
      rintro rfl
      exact hid' hid
    simp [sent, hne]
  · have hne : id' ≠ id := by
      rintro rfl
      simp at hreplied
    exact Or.inl (by simpa [hne] using hreplied)

/-- A thread that takes a message has it in its buffer. -/
theorem InTurn.take {i id replyLength : ℕ} {pc : Pc} {receive : Receive}
    (hid : s.message id = .queued)
    (hcall : ∀ buffer message, Received buffer id message →
      AtCall b buffer receive id message pc) :
    InTurn a b creation { s with
      message := update s.message id .taken
      record := update s.record id { s.record id with holder := some i }
      thread := update s.thread i ((s.thread i).takes replyLength id
        ((s.record id).sender.message a creation) pc receive) } := by
  refine h.of_frame hbase (fun id' _ ↦ ?_) (fun id' payload hreplied ↦ ?_) fun j ↦ ?_
  · rw [sent, sender_holder, sent]
  · have hne : id' ≠ id := by
      rintro rfl
      simp at hreplied
    exact Or.inl (by simpa [hne] using hreplied)
  · apply update_cases (P := Knows b _)
    rintro id' hid'
    obtain rfl : id = id' := Option.some.inj hid'
    apply hcall
    refine ⟨⟨(s.thread i).buffer, replyLength, id, fun _ ↦ 0, 0⟩, rfl, ?_⟩
    simp [sent, Thread.takes, Turn.received]

/-- What a thread notes about its message changes neither what was sent nor an answer. -/
theorem InTurn.note {i id : ℕ} {f : Record → Record} {pc : Pc}
    (hcurrent : (s.thread i).current = some id) (hnone : (s.record id).replies = [])
    (hsender : ∀ r, (f r).sender = r.sender)
    (hcall : AtCall b (s.thread i).buffer (s.thread i).receive id (sent a creation s id) pc) :
    InTurn a b creation { s with
      record := s.note i f
      thread := update s.thread i { s.thread i with pc := pc } } := by
  have hnote : s.note i f = update s.record id (f (s.record id)) := by
    simp only [State.note, hcurrent]
  refine h.of_frame hbase (fun id' _ ↦ ?_) (fun id' payload hreplied ↦ Or.inl ⟨hreplied, ?_⟩)
    fun j ↦ ?_
  · rw [sent, sender_note hsender, sent]
  · dsimp only
    rw [hnote]
    apply update_of_ne
    rintro rfl
    have haccepted := (hbase.message _).accepted.mpr ⟨payload, hreplied⟩
    simp [hnone] at haccepted
  · apply update_cases (P := Knows b _)
    intro id' hid'
    obtain rfl := Option.some.inj (hcurrent.symm.trans hid')
    rw [sent, sender_note hsender]
    exact hcall

/-- The reply that a thread sends goes to the message that it has taken. -/
theorem InTurn.reply {i : ℕ} {reply : Mem} {length : ℕ}
    (hpc : (s.thread i).pc = .sendReply reply length) :
    InTurn a b creation { s with
      message := update s.message (replyMessageId reply)
        (.replied (read reply FilterReply.headerSize (length - FilterReply.headerSize)))
      record := s.note i fun r ↦ { r with replies := r.replies ++ [sOk] }
      thread := update s.thread i { s.thread i with pc := .testTerminate } } := by
  have hshape := (hbase.thread i).shape
  simp only [ProcVerdict.Shape, hpc] at hshape
  obtain ⟨-, id, hcurrent, hreplying⟩ := hshape
  obtain rfl := hreplying.messageId
  have hprepared := h.thread i _ hcurrent
  rw [hpc] at hprepared
  have hnote : s.note i (fun r ↦ { r with replies := r.replies ++ [sOk] }) =
      update s.record (replyMessageId reply) { s.record (replyMessageId reply) with
        replies := [sOk] } := by
    simp only [State.note, hcurrent, hreplying.replies, List.nil_append]
  refine h.of_frame hbase (fun id _ ↦ ?_) (fun id payload hreplied ↦ ?_)
    (update_cases (P := Knows b _) fun _ _ ↦ trivial)
  · rw [sent, sender_note (by simp), sent]
  rw [hnote]
  by_cases hid : id = replyMessageId reply
  · rw [hid] at hreplied ⊢
    obtain rfl : read reply FilterReply.headerSize (length - FilterReply.headerSize) = payload := by
      simpa using hreplied
    obtain ⟨turn, hid, hprepares⟩ := hprepared
    refine Or.inr ⟨⟨i, ?_⟩, by simp, turn, hid, ?_⟩
    · simpa using (hbase.thread i).held _ hcurrent
    · have hreply : turn.reply b (sent a creation s (replyMessageId reply)) = some _ :=
        congrArg (Option.map _) hprepares
      simpa [sent] using hreply
  · exact Or.inl (by simpa [hid] using hreplied)

theorem inTurn_dispatch {i : ℕ} {stack : Mem} {pc : Pc}
    (hstep : step b (s.thread i).buffer (s.thread i).pc (.stack stack) = some pc) :
    InTurn a b creation { s with
      record := s.note i (raise pc)
      thread := update s.thread i { s.thread i with pc := pc } } := by
  obtain ⟨hpc, rfl⟩ := step_stack.mp hstep
  have hshape := (hbase.thread i).shape
  simp only [ProcVerdict.Shape, hpc] at hshape
  obtain ⟨-, id, hcurrent, hloaded⟩ := hshape
  have hreceived := h.thread i id hcurrent
  rw [hpc] at hreceived
  apply h.note hbase hcurrent hloaded.replies
  · exact sender_raise _
  · exact atCall_dispatch hreceived _ stack

theorem inTurn_messageBox {i choice : ℕ} {pc : Pc}
    (hstep : step b (s.thread i).buffer (s.thread i).pc (.messageBox choice) = some pc) :
    InTurn a b creation { s with
      record := s.note i fun r ↦ { r with answers := r.answers ++ [choice] }
      thread := update s.thread i { s.thread i with pc := pc } } := by
  obtain ⟨reply, text, hpc, rfl⟩ := step_messageBox.mp hstep
  have hshape := (hbase.thread i).shape
  simp only [ProcVerdict.Shape, hpc] at hshape
  obtain ⟨-, id, hcurrent, hasking⟩ := hshape
  have hasks := h.thread i id hcurrent
  rw [hpc] at hasks
  obtain ⟨turn, hid, hdispatch⟩ := hasks
  refine h.note hbase hcurrent hasking.replies (fun _ ↦ rfl)
    ⟨{ turn with choice := choice }, hid, ?_⟩
  exact congrArg (prepared b choice) hdispatch

theorem inTurn_replyMessageFailed {i : ℕ} {result : Hresult} {pc : Pc}
    (hstep : step b (s.thread i).buffer (s.thread i).pc (.filterReplyMessage result) = some pc) :
    InTurn a b creation { s with
      record := s.note i fun r ↦ { r with replies := r.replies ++ [result] }
      thread := update s.thread i { s.thread i with pc := pc } } := by
  obtain ⟨reply, length, hpc, rfl⟩ := step_filterReplyMessage.mp hstep
  have hshape := (hbase.thread i).shape
  simp only [ProcVerdict.Shape, hpc] at hshape
  obtain ⟨-, id, hcurrent, hreplying⟩ := hshape
  exact h.note hbase hcurrent hreplying.replies (fun _ ↦ rfl) trivial

theorem inTurn_getOverlappedResult {i : ℕ} {ok : Bool} {pc : Pc}
    (hstep : step b (s.thread i).buffer (s.thread i).pc (.getOverlappedResult ok) = some pc)
    (hok : ok = true ↔ (s.thread i).receive = .completed) :
    InTurn a b creation
      { s with thread := update s.thread i { s.thread i with pc := pc } } := by
  obtain ⟨hpc, rfl⟩ := step_getOverlappedResult.mp hstep
  apply h.setThread hbase
  intro id hid
  cases ok with
  | false => trivial
  | true =>
      have hreceived := h.thread i id hid
      rw [hpc] at hreceived
      exact hreceived (hok.mp rfl)

theorem inTurn_waitForMultipleObjects {i : ℕ} {result : Dword} {pc : Pc}
    (hstep : step b (s.thread i).buffer (s.thread i).pc (.waitForMultipleObjects result) =
      some pc) :
    InTurn a b creation
      { s with thread := update s.thread i { s.thread i with pc := pc } } := by
  obtain ⟨hpc, rfl⟩ := step_waitForMultipleObjects.mp hstep
  apply h.setThread hbase
  intro id hid
  have hreceived := h.thread i id hid
  rw [hpc] at hreceived
  unfold afterWait
  split_ifs
  · trivial
  · trivial
  · exact hreceived

/-- The receive of a thread that awaits one completes into its own buffer. -/
theorem inTurn_complete {i id replyLength : ℕ} (hpending : (s.thread i).receive = .pending)
    (hid : s.message id = .queued) :
    InTurn a b creation { s with
      message := update s.message id .taken
      record := update s.record id { s.record id with holder := some i }
      thread := update s.thread i ((s.thread i).takes replyLength id
        ((s.record id).sender.message a creation) (s.thread i).pc .completed) } := by
  apply h.take hbase hid
  intro buffer message hreceived
  have hshape := (hbase.thread i).shape
  cases hpc : (s.thread i).pc <;> simp only [ProcVerdict.Shape, hpc, hpending, ne_eq,
    not_true, false_and] at hshape
  case waitPending | overlappedResult => exact fun _ ↦ hreceived
  all_goals trivial

theorem inTurn_getMessageOther {i : ℕ} {result : Hresult} {pc : Pc}
    (hstep : step b (s.thread i).buffer (s.thread i).pc (.filterGetMessage result) = some pc)
    (hok : result ≠ hresultFromWin32 sOk) :
    InTurn a b creation { s with
      thread := update s.thread i { s.thread i with
        pc := pc
        receive := if result = hresultFromWin32 errorIoPending then .pending else .idle } } := by
  obtain ⟨hpc, rfl⟩ := step_filterGetMessage.mp hstep
  apply h.setThread hbase
  intro id hid
  by_cases hresult : result = hresultFromWin32 errorIoPending
  · simp [hresult, AtCall]
  · simp [afterGetMessage_failure hresult hok, AtCall]

end Steps

theorem inTurn_step {act : Action} (h : InTurn a b creation s)
    (hbase : ProcVerdict.Inv a b creation s) (hstep : Step a b creation s act t) :
    InTurn a b creation t := by
  cases hstep with
  | send k id _ hid _ => exact h.sendFresh hbase hid
  | refuse k r _ _ =>
      exact h.of_frame hbase (fun _ _ ↦ rfl) (fun _ _ hid ↦ Or.inl ⟨hid, rfl⟩) fun _ ↦ Or.inl rfl
  | returns k _ hreturns => exact h.setMessage hbase fun _ ↦ replied_of_returns hreturns
  | sendOther id payload hid _ => exact h.sendFresh hbase hid
  | returnsOther id _ hreturns => exact h.setMessage hbase fun _ ↦ replied_of_returns hreturns
  | waitForSingleObject i result hcall =>
      obtain ⟨_, rfl⟩ := step_waitForSingleObject.mp hcall
      apply h.setThread hbase
      intro id _
      by_cases hresult : result = waitObject0 <;> simp [hresult, AtCall]
  | getMessage i id replyLength hcall hid =>
      obtain ⟨_, rfl⟩ := step_filterGetMessage.mp hcall
      exact h.take hbase hid fun _ _ hreceived ↦ hreceived
  | getMessageOther i result hcall hok => exact inTurn_getMessageOther h hbase hcall hok
  | waitForMultipleObjects i result hcall => exact inTurn_waitForMultipleObjects h hbase hcall
  | getOverlappedResult i hcall hok => exact inTurn_getOverlappedResult h hbase hcall hok
  | dispatch i stack hcall => exact inTurn_dispatch h hbase hcall
  | messageBox i choice hcall => exact inTurn_messageBox h hbase hcall
  | replyMessage i hpc hcall _ =>
      obtain ⟨_, _, _, rfl⟩ := step_filterReplyMessage.mp hcall
      exact h.reply hbase hpc
  | replyMessageFailed i hcall _ => exact inTurn_replyMessageFailed h hbase hcall
  | complete i id replyLength hpending hid => exact inTurn_complete h hbase hpending hid
  | abort i hpending =>
      apply h.setThread hbase
      intro id hid
      have hcall := h.thread i id hid
      cases hpc : (s.thread i).pc <;> simp_all [AtCall]
  | exit i => exact h.setThread hbase fun _ _ ↦ trivial

theorem inTurn_init (h : Init creation s) : InTurn a b creation s where
  message id payload hid := by simp [(h.1 id).1] at hid
  thread i id hid := by simp [(h.2.2 i).2.2] at hid

theorem inTurn_of_reachable (h : (port a b creation).Reachable s) :
    ProcVerdict.Inv a b creation s ∧ InTurn a b creation s := by
  apply h.invariant (I := fun s ↦ ProcVerdict.Inv a b creation s ∧ InTurn a b creation s)
  · exact fun s hs ↦ ⟨ProcVerdict.inv_init hs, inTurn_init hs⟩
  · exact fun s act t hs hstep ↦
      ⟨ProcVerdict.inv_step hs.1 hstep, inTurn_step hs.2 hs.1 hstep⟩

end NtDriver.LoneThread
