import NtDriver.Lib.Simulation
import NtDriver.PortSafety
import NtDriver.VerdictFinal

/-!
# No message is stuck

`FltSendMessage` is called without a time limit, so a creation waits for as long as its
message has no reply.  Whatever has happened on the port, a thread that still runs can
answer the message in its hand and then every message in the queue, by steps of its own
and whatever the user says.
-/

namespace NtDriver.PortProgress

open Memory Transition CommThread MessagePort Function
open PortSafety (driverPort DriverOnly)

/-- The steps of thread `i`, with one answer of the user to all its dialogs. -/
def Own (i choice : ℕ) : Action → Prop
  | .thread j (.messageBox answer) => j = i ∧ answer = choice
  | .thread j _ | .complete j _ => j = i
  | _ => False

/-- The thread has not left its loop, and its receive has not been cancelled. -/
structure Able (t : Thread) : Prop where
  runs : t.pc ≠ .returned
  receive : t.receive ≠ .aborted

/-- The thread has a message that it has not replied to. -/
def InHand (t : Thread) : Prop :=
  match t.pc with
  | .waitPending | .overlappedResult => t.receive = .completed
  | .dispatch | .messageBox _ _ | .sendReply _ _ => True
  | _ => False

def Replied (s : State) (id : ℕ) : Prop := ∃ payload, s.message id = .replied payload

section Progress

variable (a b : Arch) (creation : ℕ → Creation) (i choice : ℕ)

/-- Thread `i` alone leads from `s` to `t` in at most `n` steps, and touches no message
but `ids`. -/
structure Leads (n : ℕ) (ids : List ℕ) (s t : State) : Prop where
  run : ∃ es, ((driverPort a b creation).restrict fun _ act ↦ Own i choice act).Run s es t ∧
    es.length ≤ n
  message : ∀ id ∉ ids, t.message id = s.message id
  thread : ∀ j ≠ i, t.thread j = s.thread j
  kernel : t.kernel = s.kernel

end Progress

variable {a b : Arch} {creation : ℕ → Creation} {i choice : ℕ} {s t u : State}

/-! ## Paths -/

section Paths

variable {m n : ℕ} {ids ids' : List ℕ}

theorem Leads.trans (h : Leads a b creation i choice m ids s t)
    (h' : Leads a b creation i choice n ids' t u) :
    Leads a b creation i choice (m + n) (ids ++ ids') s u where
  run := by
    obtain ⟨es, hrun, hlen⟩ := h.run
    obtain ⟨fs, hrun', hlen'⟩ := h'.run
    refine ⟨es ++ fs, hrun.append hrun', ?_⟩
    rw [List.length_append]
    exact Nat.add_le_add hlen hlen'
  message id hid := by
    rw [List.mem_append, not_or] at hid
    rw [h'.message id hid.2, h.message id hid.1]
  thread j hj := (h'.thread j hj).trans (h.thread j hj)
  kernel := h'.kernel.trans h.kernel

theorem Leads.refl (s : State) : Leads a b creation i choice 0 [] s s :=
  ⟨⟨[], .nil, le_rfl⟩, fun _ _ ↦ rfl, fun _ _ ↦ rfl, rfl⟩

theorem Leads.reachable (h : Leads a b creation i choice n ids s t)
    (hs : (driverPort a b creation).Reachable s) : (driverPort a b creation).Reachable t := by
  obtain ⟨es, hrun, _⟩ := h.run
  exact hs.run hrun.of_restrict

theorem Leads.mono (h : Leads a b creation i choice m ids s t) (hn : m ≤ n)
    (hids : ids ⊆ ids') : Leads a b creation i choice n ids' s t where
  run := by
    obtain ⟨es, hrun, hlen⟩ := h.run
    exact ⟨es, hrun, hlen.trans hn⟩
  message id hid := h.message id fun hmem ↦ hid (hids hmem)
  thread := h.thread
  kernel := h.kernel

/-- One step of thread `i`, which sends nothing. -/
theorem Leads.step {act : Action} {thread : Thread} (hs : (driverPort a b creation).Reachable s)
    (hstep : Step a b creation s act t) (hown : Own i choice act)
    (hsender : ∀ id, (t.record id).sender = (s.record id).sender)
    (hmessage : ∀ id ∉ ids, t.message id = s.message id)
    (hsent : ∀ id ∈ ids, s.message id ≠ .unsent)
    (hthread : t.thread = update s.thread i thread) (hkernel : t.kernel = s.kernel) :
    Leads a b creation i choice 1 ids s t where
  run := by
    have hdriver : DriverOnly a t := by
      intro id payload hid hother
      rw [hsender] at hother
      refine (PortSafety.inv_of_reachable hs).driverOnly id payload ?_ hother
      by_cases hmem : id ∈ ids
      · exact hsent id hmem
      · rwa [hmessage id hmem] at hid
    exact ⟨[act], .single ⟨⟨hstep, hdriver⟩, hown⟩, le_rfl⟩
  message := hmessage
  thread j hj := by rw [hthread, update_of_ne hj]
  kernel := hkernel

end Paths

/-! ## A thread that waits has issued its receive -/

def Waiting : Pc → Prop
  | .waitPending | .overlappedResult => True
  | _ => False

def Issued (t : Thread) : Prop := Waiting t.pc → t.receive ≠ .idle

theorem not_waiting_dispatch (stack : Mem) (buffer : MessageBuffer) :
    ¬ Waiting (dispatch b stack buffer) := by
  rcases dispatch_cases b stack buffer with
    ⟨_, _, h, _⟩ | ⟨_, h, _⟩ | h | ⟨h, _⟩ <;> rw [h] <;> exact id

theorem issued_step {act : Action} (h : ∀ j, Issued (s.thread j))
    (hstep : Step a b creation s act t) (j : ℕ) : Issued (t.thread j) := by
  have hupdate : ∀ {i : ℕ} {thread : Thread}, Issued thread →
      Issued (update s.thread i thread j) := by
    intro i thread hthread
    exact (forall_update_iff s.thread fun _ ↦ Issued).mpr ⟨hthread, fun k _ ↦ h k⟩ j
  cases hstep with
  | waitForSingleObject i result hcall =>
      obtain ⟨_, rfl⟩ := step_waitForSingleObject.mp hcall
      refine hupdate fun hwaiting ↦ ?_
      dsimp only at hwaiting
      split_ifs at hwaiting <;> exact hwaiting.elim
  | getMessage i id replyLength hcall _ =>
      obtain ⟨_, rfl⟩ := step_filterGetMessage.mp hcall
      exact hupdate fun hwaiting ↦ hwaiting.elim
  | getMessageOther i result hcall hok =>
      obtain ⟨_, rfl⟩ := step_filterGetMessage.mp hcall
      by_cases hpending : result = hresultFromWin32 errorIoPending
      · exact hupdate fun _ ↦ by simp [hpending]
      · rw [afterGetMessage_failure hpending hok]
        exact hupdate fun hwaiting ↦ hwaiting.elim
  | waitForMultipleObjects i result hcall =>
      obtain ⟨hpc, _⟩ := step_waitForMultipleObjects.mp hcall
      exact hupdate fun _ ↦ h i (by simp [hpc, Waiting])
  | getOverlappedResult i hcall _ =>
      obtain ⟨hpc, _⟩ := step_getOverlappedResult.mp hcall
      exact hupdate fun _ ↦ h i (by simp [hpc, Waiting])
  | dispatch i stack hcall =>
      obtain ⟨_, rfl⟩ := step_stack.mp hcall
      exact hupdate fun hwaiting ↦ (not_waiting_dispatch _ _ hwaiting).elim
  | messageBox i answer hcall =>
      obtain ⟨_, _, _, rfl⟩ := step_messageBox.mp hcall
      exact hupdate fun hwaiting ↦ hwaiting.elim
  | replyMessage i _ hcall _ | replyMessageFailed i hcall _ =>
      obtain ⟨_, _, _, rfl⟩ := step_filterReplyMessage.mp hcall
      exact hupdate fun hwaiting ↦ hwaiting.elim
  | complete i id replyLength _ _ => exact hupdate fun _ ↦ by simp [Thread.takes]
  | abort i _ => exact hupdate fun _ ↦ by simp
  | exit i => exact hupdate fun hwaiting ↦ hwaiting.elim
  | _ => exact h j

theorem issued_of_reachable (h : (driverPort a b creation).Reachable s) (j : ℕ) :
    Issued (s.thread j) := by
  apply h.invariant (I := fun s ↦ ∀ j, Issued (s.thread j))
  · rintro s ⟨hinit, _⟩ j hwaiting
    rw [(hinit.2.2 j).1] at hwaiting
    exact hwaiting.elim
  · rintro s act t hs ⟨hstep, _⟩
    exact issued_step hs hstep

/-! ## Up to the reply -/

/-- The thread is back at the head of its loop, and has replied to the message. -/
structure Finished (i id : ℕ) (s t : State) : Prop where
  pc : (t.thread i).pc = .testTerminate
  receive : (t.thread i).receive = (s.thread i).receive
  replied : s.message id = .taken → Replied t id

section Finish

variable {id : ℕ}

theorem shape_of_reachable (hs : (driverPort a b creation).Reachable s) (i : ℕ) :
    ProcVerdict.Shape b s.record (s.thread i) :=
  ((PortSafety.inv_of_reachable hs).base.thread i).shape

theorem taken_ne_unsent (hs : (driverPort a b creation).Reachable s)
    (hcurrent : (s.thread i).current = some id) : s.message id ≠ .unsent :=
  LoneThread.not_unsent_of_current (PortSafety.inv_of_reachable hs).base hcurrent

/-- A step of the loop that touches no message leaves the rest as it is. -/
theorem leads_move (choice : ℕ) {act : Action} {thread : Thread}
    (hs : (driverPort a b creation).Reachable s) (hstep : Step a b creation s act t)
    (hown : Own i choice act) (hsender : ∀ id, (t.record id).sender = (s.record id).sender)
    (hmessage : t.message = s.message) (hthread : t.thread = update s.thread i thread)
    (hkernel : t.kernel = s.kernel) : Leads a b creation i choice 1 [] s t :=
  .step hs hstep hown hsender (fun id _ ↦ congrFun hmessage id)
    (fun _ hid ↦ absurd hid List.not_mem_nil) hthread hkernel

/-- The reply is accepted, unless its sender has given up. -/
theorem finish_sendReply (hs : (driverPort a b creation).Reachable s) {reply : Mem} {length : ℕ}
    (hpc : (s.thread i).pc = .sendReply reply length) (hcurrent : (s.thread i).current = some id) :
    ∃ t, Leads a b creation i choice 1 [id] s t ∧ Finished i id s t := by
  have hcall : ∀ result, step b (s.thread i).buffer (s.thread i).pc
      (.filterReplyMessage result) = some .testTerminate := by
    intro result
    rw [hpc]
    rfl
  have hid : replyMessageId reply = id := by
    have hshape := shape_of_reachable hs i
    simp only [ProcVerdict.Shape, hpc] at hshape
    obtain ⟨-, id', hcurrent', hreplying⟩ := hshape
    rw [hcurrent, Option.some.injEq] at hcurrent'
    rw [hreplying.messageId, hcurrent']
  have hsent : ∀ id' ∈ [id], s.message id' ≠ .unsent := by
    intro id' hmem
    rw [List.mem_singleton.mp hmem]
    exact taken_ne_unsent hs hcurrent
  by_cases hawaited : Awaited (s.message (replyMessageId reply))
  · have hstep : Step a b creation s _ _ := .replyMessage i hpc (hcall sOk) hawaited
    refine ⟨_, .step hs hstep rfl (LoneThread.sender_note fun _ ↦ rfl) ?_ hsent rfl rfl,
      by simp, by simp, fun _ ↦ ?_⟩
    · intro id' hmem
      rw [hid]
      exact update_of_ne (fun heq ↦ hmem (by simp [heq])) _ _
    · rw [Replied, hid]
      exact ⟨_, update_self _ _ _⟩
  · have hfailed : hresultFromWin32 errorInvalidHandle ≠ sOk := by decide
    have hstep : Step a b creation s _ _ := .replyMessageFailed i (hcall _) hfailed
    refine ⟨_, .step hs hstep rfl (LoneThread.sender_note fun _ ↦ rfl) (fun _ _ ↦ rfl) hsent rfl
      rfl, by simp, by simp, fun htaken ↦ ?_⟩
    exact absurd (Or.inr (hid ▸ htaken)) hawaited

theorem Finished.after (h : Finished i id u t) (hmessage : u.message = s.message)
    (hreceive : (u.thread i).receive = (s.thread i).receive) : Finished i id s t where
  pc := h.pc
  receive := h.receive.trans hreceive
  replied htaken := h.replied (by rw [hmessage, htaken])

theorem finish_messageBox (hs : (driverPort a b creation).Reachable s) {reply : Mem}
    {text : List ℕ} (hpc : (s.thread i).pc = .messageBox reply text)
    (hcurrent : (s.thread i).current = some id) :
    ∃ t, Leads a b creation i choice 2 [id] s t ∧ Finished i id s t := by
  have hcall : step b (s.thread i).buffer (s.thread i).pc (.messageBox choice) =
      some (afterMessageBox b reply choice) := by
    rw [hpc]
    rfl
  have hstep : Step a b creation s _ _ := .messageBox i choice hcall
  have hmove := leads_move choice hs hstep ⟨rfl, rfl⟩
    (LoneThread.sender_note fun _ ↦ rfl) rfl rfl rfl
  obtain ⟨t, hlead, hfinished⟩ := finish_sendReply (hmove.reachable hs)
    (congrArg Thread.pc (update_self i _ s.thread)) (by simpa using hcurrent)
  exact ⟨t, hmove.trans hlead, hfinished.after rfl (by simp)⟩

theorem finish_dispatch (hs : (driverPort a b creation).Reachable s)
    (hpc : (s.thread i).pc = .dispatch) (hcurrent : (s.thread i).current = some id) :
    ∃ t, Leads a b creation i choice 3 [id] s t ∧ Finished i id s t := by
  obtain ⟨stack⟩ : Nonempty Mem := ⟨fun _ ↦ 0⟩
  have hhandled := (PortSafety.inv_of_reachable hs).handled hpc rfl stack
  have hcall : step b (s.thread i).buffer (s.thread i).pc (.stack stack) =
      some (dispatch b stack (s.thread i).buffer) := by
    rw [hpc]
    rfl
  have hstep : Step a b creation s _ _ := .dispatch i stack hcall
  have hmove := leads_move choice hs hstep rfl
    (LoneThread.sender_note (LoneThread.sender_raise _)) rfl rfl rfl
  have hpc' := congrArg Thread.pc (update_self i
    { s.thread i with pc := dispatch b stack (s.thread i).buffer } s.thread)
  have hcurrent' : (update s.thread i
      { s.thread i with pc := dispatch b stack (s.thread i).buffer } i).current = some id := by
    simpa using hcurrent
  cases hdispatch : dispatch b stack (s.thread i).buffer with
  | sendReply reply length =>
      obtain ⟨t, hlead, hfinished⟩ := finish_sendReply (hmove.reachable hs)
        (hpc'.trans hdispatch) hcurrent'
      exact ⟨t, (hmove.trans hlead).mono (by decide) (fun _ h ↦ h), hfinished.after rfl (by simp)⟩
  | messageBox reply text =>
      obtain ⟨t, hlead, hfinished⟩ := finish_messageBox (hmove.reachable hs)
        (hpc'.trans hdispatch) hcurrent'
      exact ⟨t, hmove.trans hlead, hfinished.after rfl (by simp)⟩
  | _ =>
      rw [hdispatch] at hhandled
      exact hhandled.elim

end Finish

/-! ## Up to the dispatch -/

section Dispatch

variable {id : ℕ}

/-- The thread has got to its dispatch with what it had taken. -/
structure Dispatching (i : ℕ) (s t : State) : Prop where
  thread : t.thread i = { s.thread i with pc := .dispatch }
  message : t.message = s.message

theorem dispatch_overlappedResult (choice : ℕ) (hs : (driverPort a b creation).Reachable s)
    (hpc : (s.thread i).pc = .overlappedResult) (hreceive : (s.thread i).receive = .completed) :
    ∃ t, Leads a b creation i choice 1 [] s t ∧ Dispatching i s t := by
  have hcall : step b (s.thread i).buffer (s.thread i).pc (.getOverlappedResult true) =
      some .dispatch := by
    rw [hpc]
    rfl
  have hstep : Step a b creation s _ _ := .getOverlappedResult i hcall (by simp [hreceive])
  exact ⟨_, leads_move choice hs hstep rfl (fun _ ↦ rfl) rfl rfl rfl, update_self _ _ _, rfl⟩

theorem dispatch_waiting (choice : ℕ) (hs : (driverPort a b creation).Reachable s)
    (hwaiting : Waiting (s.thread i).pc) (hreceive : (s.thread i).receive = .completed) :
    ∃ t, Leads a b creation i choice 2 [] s t ∧ Dispatching i s t := by
  cases hpc : (s.thread i).pc with
  | overlappedResult =>
      obtain ⟨t, hlead, hdispatching⟩ := dispatch_overlappedResult choice hs hpc hreceive
      exact ⟨t, hlead.mono (by decide) (fun _ h ↦ h), hdispatching⟩
  | waitPending =>
      have hcall : step b (s.thread i).buffer (s.thread i).pc
          (.waitForMultipleObjects (waitObject0 + 1)) = some .overlappedResult := by
        rw [hpc]
        rfl
      have hstep : Step a b creation s _ _ := .waitForMultipleObjects i _ hcall
      have hmove := leads_move choice hs hstep rfl (fun _ ↦ rfl) rfl rfl rfl
      obtain ⟨t, hlead, hthread, hmessage⟩ := dispatch_overlappedResult choice
        (hmove.reachable hs) (congrArg Thread.pc (update_self i _ s.thread))
        (by simpa using hreceive)
      exact ⟨t, hmove.trans hlead, by simpa using hthread, hmessage⟩
  | _ =>
      rw [hpc] at hwaiting
      exact hwaiting.elim

/-- The thread has taken the message and is about to dispatch it. -/
structure Taken (i id : ℕ) (t : State) : Prop where
  pc : (t.thread i).pc = .dispatch
  current : (t.thread i).current = some id
  receive : (t.thread i).receive ≠ .aborted
  message : t.message id = .taken

theorem update_message_ne {id' : ℕ} (m : MessageState) (h : id' ∉ [id]) :
    update s.message id m id' = s.message id' :=
  update_of_ne (fun heq ↦ h (by simp [heq])) _ _

theorem queued_ne_unsent (hqueued : s.message id = .queued) :
    ∀ id' ∈ [id], s.message id' ≠ .unsent := by
  intro id' hmem
  rw [List.mem_singleton.mp hmem, hqueued]
  simp

theorem take_getMessage (choice : ℕ) (hs : (driverPort a b creation).Reachable s)
    (hpc : (s.thread i).pc = .getMessage) (hqueued : s.message id = .queued) :
    ∃ t, Leads a b creation i choice 1 [id] s t ∧ Taken i id t := by
  have hcall : step b (s.thread i).buffer (s.thread i).pc
      (.filterGetMessage (hresultFromWin32 sOk)) = some .dispatch := by
    rw [hpc]
    rfl
  have hstep : Step a b creation s _ _ := .getMessage i id 0 hcall hqueued
  exact ⟨_, .step hs hstep rfl (LoneThread.sender_holder id i)
    (fun _ h ↦ update_message_ne _ h) (queued_ne_unsent hqueued) rfl rfl,
    by simp [Thread.takes], by simp [Thread.takes], by simp [Thread.takes], update_self _ _ _⟩

theorem take_testTerminate (choice : ℕ) (hs : (driverPort a b creation).Reachable s)
    (hpc : (s.thread i).pc = .testTerminate) (hqueued : s.message id = .queued) :
    ∃ t, Leads a b creation i choice 2 [id] s t ∧ Taken i id t := by
  obtain ⟨timeout, htimeout⟩ : ∃ result : Dword, result ≠ waitObject0 := ⟨258#32, by decide⟩
  have hcall : step b (s.thread i).buffer (s.thread i).pc (.waitForSingleObject timeout) =
      some .getMessage := by
    rw [hpc, step, if_neg htimeout]
  have hstep : Step a b creation s _ _ := .waitForSingleObject i _ hcall
  have hmove := leads_move choice hs hstep rfl (fun _ ↦ rfl) rfl rfl rfl
  obtain ⟨t, hlead, htaken⟩ := take_getMessage choice (hmove.reachable hs)
    (congrArg Thread.pc (update_self i _ s.thread)) hqueued
  exact ⟨t, hmove.trans hlead, htaken⟩

theorem take_pending (choice : ℕ) (hs : (driverPort a b creation).Reachable s)
    (hwaiting : Waiting (s.thread i).pc) (hreceive : (s.thread i).receive = .pending)
    (hqueued : s.message id = .queued) :
    ∃ t, Leads a b creation i choice 3 [id] s t ∧ Taken i id t := by
  have hstep : Step a b creation s _ _ := .complete i id 0 hreceive hqueued
  have hcomplete : Leads a b creation i choice 1 [id] s _ :=
    .step hs hstep rfl (LoneThread.sender_holder id i) (fun _ h ↦ update_message_ne _ h)
      (queued_ne_unsent hqueued) rfl rfl
  obtain ⟨t, hlead, hthread, hmessage⟩ := dispatch_waiting (i := i) choice (hcomplete.reachable hs)
    (by simpa [Thread.takes] using hwaiting) (by simp [Thread.takes])
  refine ⟨t, hcomplete.trans hlead, ?_, ?_, ?_, ?_⟩
  · simp [hthread]
  · simp [hthread, Thread.takes]
  · simp [hthread, Thread.takes]
  · simp [hmessage]

end Dispatch

/-! ## The message in hand and the queue -/

section Queue

variable {id : ℕ}

theorem Finished.not_inHand (h : Finished i id s t) : ¬ InHand (t.thread i) := by
  rw [InHand, h.pc]
  exact fun hinHand ↦ hinHand

theorem Finished.able (h : Finished i id s t) (hreceive : (s.thread i).receive ≠ .aborted) :
    Able (t.thread i) where
  runs := by simp [h.pc]
  receive := by rwa [h.receive]

/-- With nothing in hand, the thread can take any message of the queue. -/
theorem take (choice : ℕ) (hs : (driverPort a b creation).Reachable s)
    (hable : Able (s.thread i)) (hfree : ¬ InHand (s.thread i)) (hqueued : s.message id = .queued) :
    ∃ t, Leads a b creation i choice 3 [id] s t ∧ Taken i id t := by
  have hpending : Waiting (s.thread i).pc → (s.thread i).receive ≠ .completed →
      ∃ t, Leads a b creation i choice 3 [id] s t ∧ Taken i id t := by
    intro hwaiting hcompleted
    refine take_pending choice hs hwaiting ?_ hqueued
    have hissued := issued_of_reachable hs i hwaiting
    have haborted := hable.receive
    cases hreceive : (s.thread i).receive <;> simp_all
  unfold InHand at hfree
  cases hpc : (s.thread i).pc with
  | testTerminate =>
      obtain ⟨t, hlead, htaken⟩ := take_testTerminate choice hs hpc hqueued
      exact ⟨t, hlead.mono (by decide) (fun _ h ↦ h), htaken⟩
  | getMessage =>
      obtain ⟨t, hlead, htaken⟩ := take_getMessage choice hs hpc hqueued
      exact ⟨t, hlead.mono (by decide) (fun _ h ↦ h), htaken⟩
  | waitPending | overlappedResult =>
      rw [hpc] at hfree hpending
      exact hpending trivial hfree
  | returned => exact absurd hpc hable.runs
  | faulted => exact absurd hpc ((PortSafety.inv_of_reachable hs).clear i).runs
  | _ =>
      rw [hpc] at hfree
      exact absurd trivial hfree

theorem answer (choice : ℕ) (hs : (driverPort a b creation).Reachable s)
    (hable : Able (s.thread i)) (hfree : ¬ InHand (s.thread i)) (hqueued : s.message id = .queued) :
    ∃ t, Leads a b creation i choice 6 [id] s t ∧ Able (t.thread i) ∧ ¬ InHand (t.thread i) ∧
      Replied t id := by
  obtain ⟨u, hlead, htaken⟩ := take choice hs hable hfree hqueued
  obtain ⟨t, hlead', hfinished⟩ := finish_dispatch (hlead.reachable hs) htaken.pc htaken.current
  exact ⟨t, (hlead.trans hlead').mono le_rfl (by simp), hfinished.able htaken.receive,
    hfinished.not_inHand, hfinished.replied htaken.message⟩

theorem Leads.queued {n : ℕ} {ids : List ℕ} (h : Leads a b creation i choice n [id] s t)
    (hid : id ∉ ids) (hqueued : ∀ id' ∈ ids, s.message id' = .queued) :
    ∀ id' ∈ ids, t.message id' = .queued := by
  intro id' hmem
  have hne : id' ≠ id := fun heq ↦ hid (heq ▸ hmem)
  rw [h.message id' (List.mem_singleton.not.mpr hne)]
  exact hqueued id' hmem

end Queue

end NtDriver.PortProgress
