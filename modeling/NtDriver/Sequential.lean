import NtDriver.Callbacks
import NtDriver.LoneThread
import NtDriver.ScanVerdict
import NtDriver.VerdictFinal

/-!
# Each call by itself

Creations, scans and threads overlap in any order, and yet each creation ends as the
whole call of `DrvProcessNotifyRoutineEx` has it, with a send that fails, where its message
never got an answer, or that a thread answers in the single turn that replied to it.  A scan
is likewise a scan by itself.
-/

namespace NtDriver.Sequential

open Memory Layout Handles Callbacks Transition CommThread MessagePort Function
open LoneThread (Turn InTurn prepared)

/-! ## Sends -/

/-- What becomes of a message: its send fails, or a thread answers it. -/
inductive Outcome where
  | failed (r : SendResult) (h : ntSuccess r.status = false)
  | answered (status : NtStatus) (h : ntSuccess status = true) (turn : Turn)

/-- `FltSendMessage`.  A thread that faults takes the connection with it. -/
def Outcome.send (b : Arch) : Outcome → List UInt8 → SendResult
  | .failed r _, _ => r
  | .answered status _ turn, message =>
      match turn.reply b message with
      | some payload => ⟨status, payload⟩
      | none => ⟨statusPortDisconnected, []⟩

/-- The whole call for a creation. -/
def notifyEnv (a : Arch) (c : Creation)
    (sendProcDetails sendClientVersion : List UInt8 → SendResult) : NotifyEnv :=
  ⟨a, c.processId, some ⟨some c.imageFileName, c.creationStatus⟩, c.processInformation,
    c.clientVersionInformation, sendProcDetails, sendClientVersion⟩

section Creations

variable (a b : Arch) (creation : ℕ → Creation)

/-- The turn is the one that has answered the question about creation `k`. -/
structure Asked (s : State) (k : ℕ) (turn : Turn) : Prop where
  concerns : (s.record turn.messageId).Concerns k
  replied : ∃ payload, s.message turn.messageId = .replied payload ∧
    turn.reply b ((creation k).message a .getAndLogProcDetails) = some payload

/-- No question about creation `k` went out, or its send gave up. -/
def Failed (s : State) (k : ℕ) : Prop :=
  ∀ id, (s.record id).Concerns k → s.message id = .closed

/-- The call with this outcome of its question leaves what the creation has. -/
structure Alone (s : State) (k : ℕ) (o : Outcome) : Prop where
  failed : ∀ r h, o = .failed r h → Failed s k
  asked : ∀ status h turn, o = .answered status h turn → Asked a b creation s k turn
  verdict : procDetailsVerdict a ((creation k).request a)
    (o.send b ((creation k).message a .getAndLogProcDetails)) (creation k).creationStatus =
      (s.kernel k).creationStatus

/-- In the run, creation `k` is what the whole call makes of it with this outcome.  It is a
failure only where no reply came, and otherwise the turn that replied, in which the answer
of the user is the one given in the run. -/
structure ActsAlone (s : State) (k : ℕ) (o : Outcome) : Prop where
  failed : ∀ r h, o = .failed r h → Failed s k
  replied : ∀ id payload, (s.record id).Concerns k → s.message id = .replied payload →
    ∃ status h turn, o = .answered status h turn ∧ turn.messageId = id
  asked : ∀ status h turn, o = .answered status h turn → Asked a b creation s k turn ∧
    (turn.choice = idOk ↔ idOk ∈ (s.record turn.messageId).answers)
  call : ∀ sendClientVersion l, ∃ version,
    drvProcessNotifyRoutineEx (notifyEnv a (creation k) (o.send b) sendClientVersion) l =
      .ok (.given ⟨some (creation k).imageFileName, (s.kernel k).creationStatus⟩, version) l

end Creations

variable {a b : Arch} {creation : ℕ → Creation} {s t : State} {k : ℕ}

/-! ## What is left of an answer -/

theorem not_ended_of_awaited {m : MessageState} (h : Awaited m) : ¬ VerdictFinal.Ended m := by
  rintro (rfl | ⟨_, rfl⟩) <;> rcases h with h | h <;> cases h

theorem returns_ended {r : SendResult} {m m' : MessageState} (hended : VerdictFinal.Ended m)
    (h : Returns m r m') : m' = m := by
  cases h with
  | success => rfl
  | failure _ _ hawaited => exact absurd hended (not_ended_of_awaited hawaited)

/-- A message keeps its sender once it is sent, and a creation sends what it is about to. -/
theorem sender_step {act : Action} (hstep : Step a b creation s act t) (id : ℕ) :
    (t.record id).sender = (s.record id).sender ∨ s.message id = .unsent ∧
      ((∃ payload, (t.record id).sender = .other payload) ∨
        ∃ k call, (t.record id).sender = .creation k call ∧ (s.kernel k).pc = .calls call) := by
  cases hstep with
  | @send k id' call hpc hunsent _ =>
      by_cases heq : id = id'
      · subst heq
        exact Or.inr ⟨hunsent, Or.inr ⟨k, call, by simp [Record.fresh], hpc⟩⟩
      · exact Or.inl (by simp [heq])
  | sendOther id' payload hunsent _ =>
      by_cases heq : id = id'
      · subst heq
        exact Or.inr ⟨hunsent, Or.inl ⟨payload, by simp [Record.fresh]⟩⟩
      · exact Or.inl (by simp [heq])
  | getMessage i id' | complete i id' => exact Or.inl (LoneThread.sender_holder id' i id)
  | dispatch i stack _ =>
      exact Or.inl (LoneThread.sender_note (LoneThread.sender_raise _) id)
  | messageBox i choice _ => exact Or.inl (LoneThread.sender_note (by simp) id)
  | replyMessageFailed i _ _ => exact Or.inl (LoneThread.sender_note (by simp) id)
  | replyMessage i _ _ _ => exact Or.inl (LoneThread.sender_note (by simp) id)
  | _ => exact Or.inl rfl

/-- What has ended stays. -/
theorem ended_step {act : Action} (hstep : Step a b creation s act t) {id : ℕ}
    (hid : VerdictFinal.Ended (s.message id)) : t.message id = s.message id := by
  have hne : ∀ {id'}, ¬ VerdictFinal.Ended (s.message id') → id ≠ id' := by
    rintro id' hid' rfl
    exact hid' hid
  have hreturns : ∀ {id' r m}, Returns (s.message id') r m →
      update s.message id' m id = s.message id := by
    intro id' r m h
    by_cases heq : id = id'
    · subst heq
      rw [update_self, returns_ended hid h]
    · rw [update_of_ne heq]
  cases hstep with
  | send k id' _ hunsent _ | sendOther id' _ hunsent _ =>
      exact update_of_ne (hne (by simp [VerdictFinal.Ended, hunsent])) _ _
  | returns k _ h => exact hreturns h
  | returnsOther id' _ h => exact hreturns h
  | getMessage i id' replyLength _ hqueued | complete i id' replyLength _ hqueued =>
      exact update_of_ne (hne (by simp [VerdictFinal.Ended, hqueued])) _ _
  | replyMessage i _ _ hawaited =>
      have hother : id ≠ _ := hne (not_ended_of_awaited hawaited)
      simp [hother]
  | _ => rfl

/-- Nothing more is asked about a creation that is decided. -/
theorem concerns_step {act : Action} (hdecided : (s.kernel k).pc.Decided)
    (hstep : Step a b creation s act t) {id : ℕ} (h : (t.record id).Concerns k) :
    (s.record id).Concerns k := by
  rcases sender_step hstep id with hsame | ⟨_, ⟨payload, hother⟩ | ⟨k', call, hsender, hpc⟩⟩
  · exact hsame.symm.trans h
  · exact Sender.noConfusion (hother.symm.trans h)
  · obtain ⟨rfl, rfl⟩ := Sender.creation.inj (hsender.symm.trans h)
    rw [hpc] at hdecided
    exact hdecided.elim

theorem Failed.step {act : Action} (h : Failed s k) (hdecided : (s.kernel k).pc.Decided)
    (hstep : Step a b creation s act t) : Failed t k := by
  intro id hconcerns
  have hclosed := h id (concerns_step hdecided hstep hconcerns)
  exact (ended_step hstep (Or.inl hclosed)).trans hclosed

theorem Asked.step {turn : Turn} {act : Action} (h : Asked a b creation s k turn)
    (hstep : Step a b creation s act t) : Asked a b creation t k turn := by
  obtain ⟨payload, hreplied, hreply⟩ := h.replied
  have hsent : s.message turn.messageId ≠ .unsent := by simp [hreplied]
  have hsender := (sender_step hstep turn.messageId).resolve_right fun hnew ↦ hsent hnew.1
  exact ⟨hsender.trans h.concerns, payload,
    (ended_step hstep (Or.inr ⟨payload, hreplied⟩)).trans hreplied, hreply⟩

/-! ## How a creation is decided -/

theorem Alone.step {o : Outcome} {act : Action} (h : Alone a b creation s k o)
    (hdecided : (s.kernel k).pc.Decided) (hstep : Step a b creation s act t) :
    Alone a b creation t k o where
  failed r hr ho := (h.failed r hr ho).step hdecided hstep
  asked status hstatus turn ho := (h.asked status hstatus turn ho).step hstep
  verdict := by
    rw [h.verdict]
    exact (VerdictFinal.decided_step hdecided hstep).2.symm

section Decide

variable (hpending : (s.kernel k).creationStatus = (creation k).creationStatus)

include hpending

/-- The question has failed, at once or after a wait. -/
theorem alone_of_failure {r : SendResult} (hr : ntSuccess r.status = false) (hfailed : Failed t k)
    (hkernel : t.kernel k =
      (s.kernel k).afterCall a (creation k) r .getAndLogProcDetails) :
    Alone a b creation t k (.failed r hr) where
  failed _ _ _ := hfailed
  asked _ _ _ ho := by cases ho
  verdict := by
    rw [hkernel, ← hpending]
    rfl

/-- The question has an answer, which is a turn of the thread that took it. -/
theorem alone_of_reply {act : Action} (hinTurn : InTurn a b creation s)
    (hstep : Step a b creation s act t) {id : ℕ} (hconcerns : (s.record id).Concerns k)
    {payload : List UInt8} (hreplied : s.message id = .replied payload) {status : NtStatus}
    (hstatus : ntSuccess status = true)
    (hkernel : t.kernel k =
      (s.kernel k).afterCall a (creation k) ⟨status, payload⟩ .getAndLogProcDetails) :
    ∃ o, Alone a b creation t k o := by
  obtain ⟨turn, rfl, hreply⟩ := (hinTurn.message id payload hreplied).turn
  have hmessage : LoneThread.sent a creation s turn.messageId =
      (creation k).message a .getAndLogProcDetails := by
    rw [LoneThread.sent, show (s.record turn.messageId).sender = _ from hconcerns]
    rfl
  rw [hmessage] at hreply
  have hasked : Asked a b creation s k turn := ⟨hconcerns, payload, hreplied, hreply⟩
  refine ⟨.answered status hstatus turn, ?_, ?_, ?_⟩
  · rintro _ _ ho
    cases ho
  · rintro _ _ _ ho
    cases ho
    exact hasked.step hstep
  · rw [hkernel, Outcome.send, hreply, ← hpending]
    rfl

end Decide

theorem alone_step {act : Action} (hbase : ProcVerdict.Inv a b creation s)
    (hinTurn : InTurn a b creation s)
    (h : (s.kernel k).pc.Decided → ∃ o, Alone a b creation s k o)
    (hstep : Step a b creation s act t) (hdecided : (t.kernel k).pc.Decided) :
    ∃ o, Alone a b creation t k o := by
  by_cases hbefore : (s.kernel k).pc.Decided
  · obtain ⟨o, ho⟩ := h hbefore
    exact ⟨o, ho.step hbefore hstep⟩
  have hpending := ((hbase.kernel k).pending hbefore).1
  have hkernel := hbase.kernel k
  -- only the end of its question decides a creation
  cases hstep with
  | @send k' id call hpc hid hlt =>
      by_cases hk : k = k'
      · subst hk
        cases call <;> simp_all [KernelPc.Decided]
      · simp_all
  | @refuse k' call r hpc hr =>
      by_cases hk : k = k'
      · subst hk
        cases call with
        | getAndLogProcDetails =>
            simp only [ProcVerdict.KernelInv, hpc] at hkernel
            have hfailed : Failed s k := fun id hid ↦ absurd hid (hkernel.2 id)
            exact ⟨_, alone_of_failure hpending hr hfailed (update_self ..)⟩
        | getAndLogClientVersion => simp [hpc, KernelPc.Decided] at hbefore
      · simp_all
  | @returns k' call id r m hpc hreturns =>
      by_cases hk : k = k'
      · subst hk
        cases call with
        | getAndLogProcDetails =>
            simp only [ProcVerdict.KernelInv, hpc] at hkernel
            have hstep : Step a b creation s _ _ := .returns k hpc hreturns
            generalize hm : s.message id = m' at hreturns
            cases hreturns with
            | success status hstatus =>
                exact alone_of_reply hpending hinTurn hstep ((hkernel.2 id).mpr rfl) hm hstatus
                  (update_self ..)
            | failure r hr _ =>
                refine ⟨_, alone_of_failure hpending hr (fun id' hid' ↦ ?_) (update_self ..)⟩
                obtain rfl := (hkernel.2 id').mp hid'
                exact update_self ..
        | getAndLogClientVersion => simp [hpc, KernelPc.Decided] at hbefore
      · simp_all
  | _ => exact absurd hdecided hbefore

theorem alone_of_reachable (h : (port a b creation).Reachable s) (k : ℕ) :
    (ProcVerdict.Inv a b creation s ∧ InTurn a b creation s) ∧
      ((s.kernel k).pc.Decided → ∃ o, Alone a b creation s k o) := by
  apply h.invariant (I := fun s ↦ (ProcVerdict.Inv a b creation s ∧ InTurn a b creation s) ∧
    ((s.kernel k).pc.Decided → ∃ o, Alone a b creation s k o))
  · intro s hs
    refine ⟨⟨ProcVerdict.inv_init hs, LoneThread.inTurn_init hs⟩, fun hdecided ↦ ?_⟩
    rw [hs.2.1 k] at hdecided
    exact hdecided.elim
  · rintro s act t ⟨⟨hbase, hinTurn⟩, halone⟩ hstep
    exact ⟨⟨ProcVerdict.inv_step hbase hstep, LoneThread.inTurn_step hinTurn hbase hstep⟩,
      alone_step hbase hinTurn halone hstep⟩

/-! ## The whole call -/

theorem allowed_payload (reply request : Mem) :
    (ProcInfo.allowed a).get (write request 0 (read reply FilterReply.headerSize
      (FilterReply.headerSize + ProcInfo.size b - FilterReply.headerSize))) 0 =
        (ProcInfo.allowed b).get reply FilterReply.headerSize := by
  have hfits : (ProcInfo.allowed b).off + (ProcInfo.allowed b).size ≤ ProcInfo.size b := by
    rw [ProcInfo.allowed_eq, ProcInfo.size_eq]
    exact Nat.le_add_right_of_le (by decide)
  have hsame : ProcInfo.allowed a = ProcInfo.allowed b := by
    rw [ProcInfo.allowed_eq, ProcInfo.allowed_eq]
  rw [hsame, Nat.add_sub_cancel_left]
  exact Field.get_write_read _ _ hfits

/-- The user's answer in the turn is the one that was given in the run. -/
theorem Asked.choice_iff {turn : Turn} (h : Asked a b creation s k turn)
    (hbase : ProcVerdict.Inv a b creation s) :
    turn.choice = idOk ↔ idOk ∈ (s.record turn.messageId).answers := by
  obtain ⟨payload, hreplied, hreply⟩ := h.replied
  have hsize : 4 ≤ ProcInfo.size a := by
    rw [ProcInfo.size_eq]
    omega
  have hcommand : command (turn.received ((creation k).message a .getAndLogProcDetails)) =
      CommandCode.cmdGiveProcname.value :=
    (command_deliver _ _ _ _ hsize).trans (command_procDetailsRequest _ _ _ _)
  obtain ⟨⟨reply, length⟩, hprepares, rfl⟩ := Option.map_eq_some_iff.mp hreply
  rw [Turn.prepares, dispatch_cmdGiveProcname hcommand] at hprepares
  cases hname : imageFileName b (turn.received ((creation k).message a .getAndLogProcDetails)) with
  | none => simp [hname, prepared] at hprepares
  | some name =>
      rw [hname] at hprepares
      obtain ⟨rfl, rfl⟩ := Prod.mk.inj (Option.some.inj hprepares)
      have hallowed := (hbase.message turn.messageId).allowed k _ h.concerns hreplied fun _ ↦ 0
      rw [allowed_payload, allowed_answeredReply (allowed_procReply b)] at hallowed
      split_ifs at hallowed <;> simp_all

theorem Alone.call {o : Outcome} (h : Alone a b creation s k o)
    (sendClientVersion : List UInt8 → SendResult) (l : Ledger) :
    ∃ version,
      drvProcessNotifyRoutineEx (notifyEnv a (creation k) (o.send b) sendClientVersion) l =
        .ok (.given ⟨some (creation k).imageFileName, (s.kernel k).creationStatus⟩, version) l := by
  have hcall := @drvProcessNotifyRoutineEx_creation
    (notifyEnv a (creation k) (o.send b) sendClientVersion) _ rfl l
  rw [← h.verdict]
  exact ⟨_, hcall⟩

/-! ## Scans -/

theorem scan_congr (env : ScanEnv) (stack : Mem) {send send' : List UInt8 → SendResult}
    (h : send (scanMessage stack env.block) = send' (scanMessage stack env.block)) :
    scannerpScanFileInUserMode env stack send = scannerpScanFileInUserMode env stack send' := by
  simp only [scannerpScanFileInUserMode, h]

/-- No dialog goes up in a turn on a scan. -/
theorem send_of_reply {turn : Turn} {stack : Mem} {block payload : List UInt8}
    (h : turn.reply b (scanMessage stack block) = some payload) :
    (ScanVerdict.Delivery.answered
      ⟨turn.buffer, turn.replyLength, turn.messageId, turn.stack⟩).send b
        (scanMessage stack block) = ⟨statusSuccess, payload⟩ := by
  have hcommand : command (turn.received (scanMessage stack block)) =
      CommandCode.cmdSendTextBuff.value :=
    (command_deliver _ _ _ _ (by decide)).trans (ScanVerdict.command_scanRequest stack block)
  obtain ⟨⟨reply, length⟩, hprepares, rfl⟩ := Option.map_eq_some_iff.mp h
  rw [Turn.prepares, dispatch_cmdSendTextBuff hcommand] at hprepares
  cases hcollected : buffCollected (turn.received (scanMessage stack block)) with
  | none => simp [hcollected, prepared] at hprepares
  | some collected =>
      have hdispatch := @dispatch_cmdSendTextBuff b turn.stack _ hcommand
      rw [hcollected] at hprepares hdispatch
      obtain ⟨rfl, rfl⟩ := Prod.mk.inj (Option.some.inj hprepares)
      rw [Turn.received] at hdispatch ⊢
      simp only [ScanVerdict.Delivery.send, hdispatch]

/-- A reply is the outcome of its question. -/
theorem Alone.answered {o : Outcome} (h : Alone a b creation s k o)
    (hright : ProcVerdict.VerdictRight creation s k) {id : ℕ} {payload : List UInt8}
    (hconcerns : (s.record id).Concerns k) (hreplied : s.message id = .replied payload) :
    ∃ status h turn, o = .answered status h turn ∧ turn.messageId = id := by
  cases o with
  | failed r hr => simp [h.failed r hr rfl id hconcerns] at hreplied
  | answered status hstatus turn =>
      exact ⟨status, hstatus, turn, rfl,
        hright.message _ _ (h.asked status hstatus turn rfl).concerns hconcerns⟩

/-- Whatever the order of the steps, a creation that is through with its question is what
the whole call makes of it with one outcome of the send, and a scan that has its reply is
a scan that one thread answers. -/
theorem actsAlone_of_reachable (a b : Arch) (creation : ℕ → Creation) (s : State)
    (h : (port a b creation).Reachable s) :
    (∀ k, (s.kernel k).pc.Decided → ∃ o, ActsAlone a b creation s k o) ∧
      ∀ env stack id payload, (s.record id).sender = .other (scanMessage stack env.block) →
        s.message id = .replied payload → ∃ context : ScanVerdict.Context,
          context.messageId = id ∧
            scannerpScanFileInUserMode env stack (fun _ ↦ ⟨statusSuccess, payload⟩) =
              (⟨b, env, stack, .answered context⟩ : ScanVerdict.Scan).result := by
  constructor
  · intro k hdecided
    obtain ⟨⟨hbase, _⟩, halone⟩ := alone_of_reachable h k
    obtain ⟨o, ho⟩ := halone hdecided
    refine ⟨o, ho.failed, fun id payload ↦ ho.answered (hbase.verdictRight k),
      fun status hstatus turn heq ↦ ?_, ho.call⟩
    have hasked := ho.asked status hstatus turn heq
    exact ⟨hasked, hasked.choice_iff hbase⟩
  · intro env stack id payload hsender hreplied
    have hinTurn := (LoneThread.inTurn_of_reachable h).2
    obtain ⟨turn, hid, hreply⟩ := (hinTurn.message id payload hreplied).turn
    rw [LoneThread.sent, hsender] at hreply
    exact ⟨⟨turn.buffer, turn.replyLength, turn.messageId, turn.stack⟩, hid,
      scan_congr env stack (send_of_reply hreply).symm⟩

/-- A process that the user refuses in the dialog. -/
theorem actsAlone_denied : ∃ s status h turn,
    (port .x64 .x64 fun _ ↦ ProcVerdict.namelessCreation).Reachable s ∧
      ActsAlone .x64 .x64 (fun _ ↦ ProcVerdict.namelessCreation) s 0
        (.answered status h turn) ∧ turn.choice = idOk := by
  obtain ⟨s, payload, h, hdecided, hconcerns, hreplied, hanswers, _⟩ :=
    ProcVerdict.reachable_answered
  obtain ⟨o, ho⟩ := (actsAlone_of_reachable .x64 .x64 _ s h).1 0 hdecided
  obtain ⟨status, hstatus, turn, rfl, hid⟩ := ho.replied 1 payload hconcerns hreplied
  have hchoice := (ho.asked status hstatus turn rfl).2
  rw [hid] at hchoice
  exact ⟨s, status, hstatus, turn, h, ho, hchoice.mpr hanswers⟩

end NtDriver.Sequential
