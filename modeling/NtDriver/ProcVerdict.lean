import NtDriver.MessagePort

/-!
# The process verdict

Whatever the order of the steps, a creation is refused by the answer to its own
dialog and by nothing else.  A message is acted on by the one thread that holds
it, and only until a reply to it has been accepted, so every party keeps what it
knows while the others go on.
-/

namespace NtDriver.ProcVerdict

open Memory Layout CString Transition CommThread MessagePort Function

/-! ## The verdict -/

/-- The user has answered OK to a dialog about creation `k`, and a reply to its
message has been accepted. -/
def Refused (record : ℕ → Record) (k : ℕ) : Prop :=
  ∃ id, (record id).Concerns k ∧ idOk ∈ (record id).answers ∧ sOk ∈ (record id).replies

/-- At most one message, with at most one dialog, asks about creation `k`, its version query
raises none, and its `CreationStatus` changes when the user has refused it, and only then. -/
structure VerdictRight (creation : ℕ → Creation) (s : State) (k : ℕ) : Prop where
  message : ∀ id id', (s.record id).Concerns k → (s.record id').Concerns k → id = id'
  dialog : ∀ id, (s.record id).Concerns k → (s.record id).dialogs ≤ 1
  query : ∀ id, (s.record id).sender = .creation k .getAndLogClientVersion →
    (s.record id).dialogs = 0
  pending : ¬ (s.kernel k).pc.Decided →
    (s.kernel k).creationStatus = (creation k).creationStatus
  denied : (s.kernel k).pc.Decided → Refused s.record k →
    (s.kernel k).creationStatus = statusAccessDenied
  kept : ¬ Refused s.record k → (s.kernel k).creationStatus = (creation k).creationStatus

/-! ## The invariant -/

section Invariant

variable (a b : Arch) (creation : ℕ → Creation)

structure MessageInv (id : ℕ) (m : MessageState) (r : Record) : Prop where
  unsent : m = .unsent → r = .fresh (.other [])
  queued : m = .queued → r = .fresh r.sender
  id_lt : m ≠ .unsent → id < 256 ^ 8
  dialogs : r.dialogs ≤ 1
  query : ∀ k, r.sender = .creation k .getAndLogClientVersion → r.dialogs = 0
  accepted : sOk ∈ r.replies ↔ ∃ payload, m = .replied payload
  allowed : ∀ k payload, r.Concerns k → m = .replied payload → ∀ request,
    (ProcInfo.allowed a).get (write request 0 payload) 0 = if idOk ∈ r.answers then 0 else 1

structure Settled (message : ℕ → MessageState) (record : ℕ → Record) (k : ℕ)
    (creationStatus : NtStatus) : Prop where
  unique : ∀ id id', (record id).Concerns k → (record id').Concerns k → id = id'
  ended : ∀ id, (record id).Concerns k →
    message id = .closed ∨ ∃ payload, message id = .replied payload
  denied : Refused record k → creationStatus = statusAccessDenied
  kept : ¬ Refused record k → creationStatus = (creation k).creationStatus

def KernelInv (message : ℕ → MessageState) (record : ℕ → Record) (k : ℕ)
    (kernel : Kernel) : Prop :=
  match kernel.pc with
  | .calls .getAndLogProcDetails =>
      kernel.creationStatus = (creation k).creationStatus ∧ ∀ id, ¬ (record id).Concerns k
  | .waits .getAndLogProcDetails id =>
      kernel.creationStatus = (creation k).creationStatus ∧
        ∀ id', (record id').Concerns k ↔ id' = id
  | _ => Settled creation message record k kernel.creationStatus

structure Loaded (buffer : MessageBuffer) (id : ℕ) (r : Record) : Prop where
  messageId : messageId buffer = id
  query : ∀ k, r.sender = .creation k .getAndLogClientVersion →
    command buffer = CommandCode.cmdGetLibraryVersion.value
  command : ∀ k, r.Concerns k → command buffer = CommandCode.cmdGiveProcname.value
  dialogs : r.dialogs = 0
  answers : r.answers = []
  replies : r.replies = []

structure Asking (reply : Mem) (id : ℕ) (r : Record) : Prop where
  messageId : replyMessageId reply = id
  allowed : (ProcInfo.allowed b).get reply FilterReply.headerSize = 1
  answers : r.answers = []
  replies : r.replies = []

structure Replying (reply : Mem) (length : ℕ) (id : ℕ) (r : Record) : Prop where
  messageId : replyMessageId reply = id
  replies : r.replies = []
  length : ∀ k, r.Concerns k → length = FilterReply.headerSize + ProcInfo.size b
  allowed : ∀ k, r.Concerns k → (ProcInfo.allowed b).get reply FilterReply.headerSize =
    if idOk ∈ r.answers then 0 else 1

def Holds (record : ℕ → Record) (t : Thread) (P : ℕ → Record → Prop) : Prop :=
  ∃ id, t.current = some id ∧ P id (record id)

def Shape (record : ℕ → Record) (t : Thread) : Prop :=
  match t.pc with
  | .testTerminate | .getMessage => t.receive ≠ .pending
  | .waitPending | .overlappedResult =>
      t.receive = .completed → Holds record t (Loaded t.buffer)
  | .dispatch => t.receive ≠ .pending ∧ Holds record t (Loaded t.buffer)
  | .messageBox reply _ => t.receive ≠ .pending ∧ Holds record t (Asking b reply)
  | .sendReply reply length => t.receive ≠ .pending ∧ Holds record t (Replying b reply length)
  | .returned | .faulted => True

structure ThreadInv (record : ℕ → Record) (i : ℕ) (t : Thread) : Prop where
  held : ∀ id, t.current = some id → (record id).holder = some i
  shape : Shape b record t

structure Inv (s : State) : Prop where
  message : ∀ id, MessageInv a id (s.message id) (s.record id)
  kernel : ∀ k, KernelInv creation s.message s.record k (s.kernel k)
  thread : ∀ i, ThreadInv b s.record i (s.thread i)

end Invariant

variable {a b : Arch} {creation : ℕ → Creation}

/-! ## What the other parties keep -/

/-- What no step undoes: a send that has failed, and a reply that was accepted. -/
structure Evolves (m : MessageState) (r : Record) (m' : MessageState) (r' : Record) : Prop where
  closed : m = .closed → m' = .closed
  replied : ∀ payload, m = .replied payload → m' = .replied payload ∧ r' = r

theorem Evolves.refl (m : MessageState) (r : Record) : Evolves m r m r :=
  ⟨id, fun _ h ↦ ⟨h, rfl⟩⟩

section Frame

variable {message message' : ℕ → MessageState} {record record' : ℕ → Record}

theorem Holds.frame {t : Thread} {P : ℕ → Record → Prop} (h : Holds record t P)
    (hrecord : ∀ id, t.current = some id → record' id = record id) : Holds record' t P := by
  obtain ⟨id, hid, hP⟩ := h
  refine ⟨id, hid, ?_⟩
  rwa [hrecord id hid]

theorem Shape.frame {t : Thread} (h : Shape b record t)
    (hrecord : ∀ id, t.current = some id → record' id = record id) : Shape b record' t := by
  unfold Shape at h ⊢
  cases hpc : t.pc <;> simp only [hpc] at h ⊢
  case testTerminate | getMessage => exact h
  case waitPending | overlappedResult => exact fun hdone ↦ (h hdone).frame hrecord
  case dispatch | messageBox | sendReply => exact ⟨h.1, h.2.frame hrecord⟩

theorem ThreadInv.frame {i : ℕ} {t : Thread} (h : ThreadInv b record i t)
    (hrecord : ∀ id, (record id).holder = some i → record' id = record id) :
    ThreadInv b record' i t where
  held id hid := by
    rw [hrecord id (h.held id hid)]
    exact h.held id hid
  shape := h.shape.frame fun id hid ↦ hrecord id (h.held id hid)

variable (hmessage : ∀ id, MessageInv a id (message id) (record id))
  (hmessage' : ∀ id, MessageInv a id (message' id) (record' id))
  (hevolves : ∀ id, Evolves (message id) (record id) (message' id) (record' id))
  {k : ℕ} (hconcerns : ∀ id, (record' id).Concerns k ↔ (record id).Concerns k)

include hmessage hmessage' hevolves hconcerns

theorem Settled.refused_iff {creationStatus : NtStatus}
    (h : Settled creation message record k creationStatus) :
    Refused record' k ↔ Refused record k := by
  constructor
  · rintro ⟨id, hid, hanswers, hreplies⟩
    have hold := (hconcerns id).mp hid
    obtain ⟨payload, hreplied⟩ := (hmessage' id).accepted.mp hreplies
    rcases h.ended id hold with hclosed | ⟨payload', hpayload⟩
    · have hclosed' := (hevolves id).closed hclosed
      rw [hreplied] at hclosed'
      exact MessageState.noConfusion hclosed'
    · have hrecord := ((hevolves id).replied payload' hpayload).2
      rw [hrecord] at hanswers hreplies
      exact ⟨id, hold, hanswers, hreplies⟩
  · rintro ⟨id, hid, hanswers, hreplies⟩
    obtain ⟨payload, hreplied⟩ := (hmessage id).accepted.mp hreplies
    have hrecord := ((hevolves id).replied payload hreplied).2
    refine ⟨id, (hconcerns id).mpr hid, ?_, ?_⟩ <;> rwa [hrecord]

theorem Settled.frame {creationStatus : NtStatus}
    (h : Settled creation message record k creationStatus) :
    Settled creation message' record' k creationStatus := by
  have hrefused := h.refused_iff hmessage hmessage' hevolves hconcerns
  refine ⟨fun id id' hid hid' ↦ ?_, fun id hid ↦ ?_, fun hyes ↦ ?_, fun hno ↦ ?_⟩
  · exact h.unique id id' ((hconcerns id).mp hid) ((hconcerns id').mp hid')
  · rcases h.ended id ((hconcerns id).mp hid) with hclosed | ⟨payload, hreplied⟩
    · exact Or.inl ((hevolves id).closed hclosed)
    · exact Or.inr ⟨payload, ((hevolves id).replied payload hreplied).1⟩
  · exact h.denied (hrefused.mp hyes)
  · exact h.kept fun hyes ↦ hno (hrefused.mpr hyes)

theorem KernelInv.frame {kernel : Kernel} (h : KernelInv creation message record k kernel) :
    KernelInv creation message' record' k kernel := by
  rcases kernel with ⟨pc, creationStatus⟩
  cases pc with
  | calls call =>
      cases call with
      | getAndLogProcDetails => exact ⟨h.1, fun id hid ↦ h.2 id ((hconcerns id).mp hid)⟩
      | getAndLogClientVersion => exact Settled.frame hmessage hmessage' hevolves hconcerns h
  | waits call id =>
      cases call with
      | getAndLogProcDetails => exact ⟨h.1, fun id' ↦ (hconcerns id').trans (h.2 id')⟩
      | getAndLogClientVersion => exact Settled.frame hmessage hmessage' hevolves hconcerns h
  | finished => exact Settled.frame hmessage hmessage' hevolves hconcerns h

end Frame

section Update

variable {s : State}

theorem Inv.setKernel (h : Inv a b creation s) {k : ℕ} {kernel : Kernel}
    (hkernel : KernelInv creation s.message s.record k kernel) :
    Inv a b creation { s with kernel := update s.kernel k kernel } where
  message := h.message
  kernel := (forall_update_iff s.kernel (KernelInv creation s.message s.record)).mpr
    ⟨hkernel, fun k' _ ↦ h.kernel k'⟩
  thread := h.thread

theorem Inv.setThread (h : Inv a b creation s) {i : ℕ} {t : Thread}
    (hthread : ThreadInv b s.record i t) :
    Inv a b creation { s with thread := update s.thread i t } where
  message := h.message
  kernel := h.kernel
  thread := (forall_update_iff s.thread (ThreadInv b s.record)).mpr
    ⟨hthread, fun j _ ↦ h.thread j⟩

/-- As `forall_update_iff`, for two functions that change at one place. -/
theorem forall_update₂ {α β : Type*} {f : ℕ → α} {g : ℕ → β} {p : ℕ → α → β → Prop} {n : ℕ}
    {x : α} {y : β} (hn : p n x y) (hothers : ∀ n', p n' (f n') (g n')) (n' : ℕ) :
    p n' (update f n x n') (update g n y n') := by
  by_cases hne : n' = n
  · subst hne
    simpa using hn
  · simpa [hne] using hothers n'

variable {id : ℕ} {m : MessageState} {r : Record}

/-- A step on one message, with what it does to the parties. -/
theorem Inv.setMessage (h : Inv a b creation s) (hmessage : MessageInv a id m r)
    (hevolves : Evolves (s.message id) (s.record id) m r) {kernel : ℕ → Kernel}
    {thread : ℕ → Thread}
    (hkernel : ∀ k,
      KernelInv creation (update s.message id m) (update s.record id r) k (kernel k) ∨
        (kernel k = s.kernel k ∧ (r.Concerns k ↔ (s.record id).Concerns k)))
    (hthread : ∀ i, ThreadInv b (update s.record id r) i (thread i) ∨
      (thread i = s.thread i ∧ ((s.record id).holder = some i → r = s.record id))) :
    Inv a b creation ⟨update s.message id m, update s.record id r, kernel, thread⟩ := by
  have hall : ∀ id', MessageInv a id' (update s.message id m id') (update s.record id r id') :=
    forall_update₂ hmessage h.message
  have hevolve : ∀ id', Evolves (s.message id') (s.record id') (update s.message id m id')
      (update s.record id r id') :=
    forall_update₂ hevolves fun id' ↦ Evolves.refl (s.message id') (s.record id')
  refine ⟨hall, fun k ↦ ?_, fun i ↦ ?_⟩
  · rcases hkernel k with hk | ⟨hk, hconcerns⟩
    · exact hk
    · have hconcerns' : ∀ id', (update s.record id r id').Concerns k ↔
          (s.record id').Concerns k :=
        (forall_update_iff s.record fun id' r ↦ r.Concerns k ↔ (s.record id').Concerns k).mpr
          ⟨hconcerns, fun _ _ ↦ Iff.rfl⟩
      have hframe := (h.kernel k).frame h.message hall hevolve hconcerns'
      rwa [← hk] at hframe
  · rcases hthread i with hi | ⟨hi, hrecord⟩
    · exact hi
    · have hkeep : ∀ id', (s.record id').holder = some i →
          update s.record id r id' = s.record id' :=
        (forall_update_iff s.record fun id' r ↦
          (s.record id').holder = some i → r = s.record id').mpr ⟨hrecord, fun _ _ _ ↦ rfl⟩
      have hframe := (h.thread i).frame hkeep
      rwa [← hi] at hframe

/-- A thread acts on a message that no other thread holds. -/
theorem Inv.own (h : Inv a b creation s) {i : ℕ} {t : Thread} (hmessage : MessageInv a id m r)
    (hevolves : Evolves (s.message id) (s.record id) m r)
    (hsender : r.sender = (s.record id).sender)
    (hholder : ∀ j ≠ i, (s.record id).holder ≠ some j)
    (hthread : ThreadInv b (update s.record id r) i t) :
    Inv a b creation
      ⟨update s.message id m, update s.record id r, s.kernel, update s.thread i t⟩ := by
  refine h.setMessage hmessage hevolves (fun k ↦ Or.inr ⟨rfl, ?_⟩) fun j ↦ ?_
  · rw [Record.Concerns, Record.Concerns, hsender]
  · by_cases hj : j = i
    · subst hj
      exact Or.inl (by simpa using hthread)
    · exact Or.inr ⟨by simp [hj], fun hheld ↦ absurd hheld (hholder j hj)⟩

end Update

/-! ## What a step does to its message -/

section Message

variable {id : ℕ} {m m' : MessageState} {r : Record}

theorem MessageInv.not_unsent (h : MessageInv a id m r) {i : ℕ} (hr : r.holder = some i) :
    m ≠ .unsent := by
  intro hm
  rw [h.unsent hm] at hr
  exact absurd hr (by simp [Record.fresh])

theorem MessageInv.not_queued (h : MessageInv a id m r) {i : ℕ} (hr : r.holder = some i) :
    m ≠ .queued := by
  intro hm
  rw [h.queued hm] at hr
  exact absurd hr (by simp [Record.fresh])

theorem messageInv_fresh (hlt : id < 256 ^ 8) (sender : Sender) :
    MessageInv a id .queued (.fresh sender) where
  unsent := nofun
  queued _ := rfl
  id_lt _ := hlt
  dialogs := Nat.zero_le 1
  query _ _ := rfl
  accepted := by simp [Record.fresh]
  allowed _ _ _ := nofun

theorem MessageInv.take (h : MessageInv a id .queued r) (i : ℕ) :
    MessageInv a id .taken { r with holder := some i } where
  unsent := nofun
  queued := nofun
  id_lt _ := h.id_lt nofun
  dialogs := h.dialogs
  query := h.query
  accepted := h.accepted.trans (by simp)
  allowed _ _ _ := nofun

/-- What a thread does about a message ahead of an accepted reply. -/
theorem MessageInv.note (h : MessageInv a id m r) {i : ℕ} (hheld : r.holder = some i)
    (hnone : sOk ∉ r.replies) {r' : Record} (hdialogs : r'.dialogs ≤ 1)
    (hquery : ∀ k, r'.sender = .creation k .getAndLogClientVersion → r'.dialogs = 0)
    (hreplies : sOk ∉ r'.replies) : MessageInv a id m r' where
  unsent hm := absurd hm (h.not_unsent hheld)
  queued hm := absurd hm (h.not_queued hheld)
  id_lt := h.id_lt
  dialogs := hdialogs
  query := hquery
  accepted := iff_of_false hreplies fun hm ↦ hnone (h.accepted.mpr hm)
  allowed _ payload _ hm := absurd (h.accepted.mpr ⟨payload, hm⟩) hnone

theorem MessageInv.evolves (h : MessageInv a id m r) (hnone : sOk ∉ r.replies) (r' : Record) :
    Evolves m r m r' :=
  ⟨fun hm ↦ hm, fun payload hm ↦ absurd (h.accepted.mpr ⟨payload, hm⟩) hnone⟩

theorem MessageInv.not_accepted (h : MessageInv a id m r) (hwait : Awaited m) :
    sOk ∉ r.replies := by
  intro hmem
  obtain ⟨payload, rfl⟩ := h.accepted.mp hmem
  rcases hwait with hwait | hwait <;> exact MessageState.noConfusion hwait

theorem evolves_of_awaited (hwait : Awaited m) (r' : Record) : Evolves m r m' r' := by
  refine ⟨?_, fun payload ↦ ?_⟩ <;> rintro rfl <;>
    rcases hwait with hwait | hwait <;> exact MessageState.noConfusion hwait

theorem MessageInv.returns (h : MessageInv a id m r) {result : SendResult}
    (hreturns : Returns m result m') : MessageInv a id m' r ∧ Evolves m r m' r := by
  cases hreturns with
  | success status hstatus => exact ⟨h, Evolves.refl _ _⟩
  | failure result hresult hwait =>
      have hnone := h.not_accepted hwait
      have hsent : m ≠ .unsent := by
        rintro rfl
        rcases hwait with hwait | hwait <;> exact MessageState.noConfusion hwait
      refine ⟨⟨nofun, nofun, fun _ ↦ h.id_lt hsent, h.dialogs, h.query, ?_,
        fun _ _ _ ↦ nofun⟩, ?_⟩
      · exact iff_of_false hnone nofun
      · exact ⟨fun _ ↦ rfl, fun payload hm ↦ absurd (h.accepted.mpr ⟨payload, hm⟩) hnone⟩

/-- The message is over once its send has returned, and the status is set by what
the user has answered. -/
theorem MessageInv.verdict (h : MessageInv a id m r) {k : ℕ} (hconcerns : r.Concerns k)
    {result : SendResult} (hreturns : Returns m result m') (request : Mem)
    (creationStatus : NtStatus) :
    (m' = .closed ∨ ∃ payload, m' = .replied payload) ∧
      procDetailsVerdict a request result creationStatus =
        if idOk ∈ r.answers ∧ sOk ∈ r.replies then statusAccessDenied else creationStatus := by
  cases hreturns with
  | @success payload status hstatus =>
      have hok : sOk ∈ r.replies := h.accepted.mpr ⟨payload, rfl⟩
      have hallowed := h.allowed k payload hconcerns rfl request
      refine ⟨Or.inr ⟨payload, rfl⟩, ?_⟩
      rw [procDetailsVerdict, if_pos hstatus, hallowed]
      by_cases hanswer : idOk ∈ r.answers <;> simp [hanswer, hok]
  | failure result hresult hwait =>
      refine ⟨Or.inl rfl, ?_⟩
      have hnone := h.not_accepted hwait
      rw [procDetailsVerdict_of_failure a request hresult]
      simp [hnone]

end Message

/-! ## The steps of the driver -/

section Kernel

variable {message : ℕ → MessageState} {record : ℕ → Record} {k : ℕ}

theorem settled_of_none {creationStatus : NtStatus} (hnone : ∀ id, ¬ (record id).Concerns k)
    (hstatus : creationStatus = (creation k).creationStatus) :
    Settled creation message record k creationStatus where
  unique id _ hid := absurd hid (hnone id)
  ended id hid := absurd hid (hnone id)
  denied := fun ⟨id, hid, _⟩ ↦ absurd hid (hnone id)
  kept _ := hstatus

theorem settled_of_one {id : ℕ} (hone : ∀ id', (record id').Concerns k ↔ id' = id)
    (hover : message id = .closed ∨ ∃ payload, message id = .replied payload) :
    Settled creation message record k
      (if idOk ∈ (record id).answers ∧ sOk ∈ (record id).replies then statusAccessDenied
        else (creation k).creationStatus) where
  unique id₁ id₂ h₁ h₂ := ((hone id₁).mp h₁).trans ((hone id₂).mp h₂).symm
  ended id' hid' := by
    obtain rfl := (hone id').mp hid'
    exact hover
  denied := by
    rintro ⟨id', hid', hrefused⟩
    obtain rfl := (hone id').mp hid'
    exact if_pos hrefused
  kept hkept := if_neg fun hrefused ↦ hkept ⟨id, (hone id).mpr rfl, hrefused⟩

/-- A decided routine may go on: its invariant does not name the program counter. -/
theorem kernelInv_of_decided {kernel : Kernel} (h : kernel.pc.Decided) :
    KernelInv creation message record k kernel ↔
      Settled creation message record k kernel.creationStatus := by
  rcases kernel with ⟨pc, creationStatus⟩
  cases pc with
  | calls call => cases call <;> first | exact h.elim | exact Iff.rfl
  | waits call id => cases call <;> first | exact h.elim | exact Iff.rfl
  | finished => exact Iff.rfl

theorem KernelInv.pending {kernel : Kernel} (h : KernelInv creation message record k kernel)
    (hpc : ¬ kernel.pc.Decided) :
    kernel.creationStatus = (creation k).creationStatus ∧
      ∃ id, ∀ id', (record id').Concerns k → id' = id := by
  rcases kernel with ⟨pc, creationStatus⟩
  cases pc with
  | calls call =>
      cases call with
      | getAndLogProcDetails => exact ⟨h.1, 0, fun id hid ↦ absurd hid (h.2 id)⟩
      | getAndLogClientVersion => exact absurd trivial hpc
  | waits call id =>
      cases call with
      | getAndLogProcDetails => exact ⟨h.1, id, fun id' ↦ (h.2 id').mp⟩
      | getAndLogClientVersion => exact absurd trivial hpc
  | finished => exact absurd trivial hpc

variable {s : State} (h : Inv a b creation s)

include h

theorem Inv.goOn {pc pc' : KernelPc} (hpc : (s.kernel k).pc = pc) (hdecided : pc.Decided)
    (hdecided' : pc'.Decided) :
    Inv a b creation { s with kernel := update s.kernel k { s.kernel k with pc := pc' } } := by
  have hsettled := (kernelInv_of_decided (hpc ▸ hdecided)).mp (h.kernel k)
  exact h.setKernel ((kernelInv_of_decided hdecided').mpr hsettled)

theorem Inv.sendFresh {id : ℕ} (hid : s.message id = .unsent) (hlt : id < 256 ^ 8)
    (sender : Sender) {kernel : ℕ → Kernel}
    (hkernel : ∀ k, KernelInv creation (update s.message id .queued)
        (update s.record id (.fresh sender)) k (kernel k) ∨
      (kernel k = s.kernel k ∧ sender ≠ .creation k .getAndLogProcDetails)) :
    Inv a b creation ⟨update s.message id .queued, update s.record id (.fresh sender), kernel,
      s.thread⟩ := by
  have hblank := (h.message id).unsent hid
  have hevolves : Evolves (s.message id) (s.record id) .queued (.fresh sender) := by
    rw [hid]
    exact ⟨nofun, nofun⟩
  refine h.setMessage (messageInv_fresh hlt sender) hevolves (fun k ↦ ?_) fun i ↦ Or.inr ⟨rfl, ?_⟩
  · rcases hkernel k with hk | ⟨hk, hother⟩
    · exact Or.inl hk
    · refine Or.inr ⟨hk, iff_of_false hother ?_⟩
      rw [hblank]
      exact Sender.noConfusion
  · rw [hblank]
    exact nofun

theorem inv_send {id : ℕ} {call : Call} (hpc : (s.kernel k).pc = .calls call)
    (hid : s.message id = .unsent) (hlt : id < 256 ^ 8) :
    Inv a b creation { s with
      message := update s.message id .queued
      record := update s.record id (.fresh (.creation k call))
      kernel := update s.kernel k { s.kernel k with pc := .waits call id } } := by
  cases call with
  | getAndLogProcDetails =>
      apply h.sendFresh hid hlt
      intro k'
      by_cases hk : k' = k
      · subst hk
        have hkernel := h.kernel k'
        simp only [KernelInv, hpc] at hkernel
        apply Or.inl
        simp only [KernelInv, update_self]
        refine ⟨hkernel.1, fun id' ↦ ?_⟩
        by_cases hid' : id' = id
        · subst hid'
          simp [Record.Concerns, Record.fresh]
        · simpa [hid'] using hkernel.2 id'
      · exact Or.inr ⟨by simp [hk], by simpa using Ne.symm hk⟩
  | getAndLogClientVersion =>
      have hwaits : (KernelPc.waits .getAndLogClientVersion id).Decided := trivial
      exact (h.goOn hpc trivial hwaits).sendFresh hid hlt _ fun k' ↦ Or.inr ⟨rfl, nofun⟩

theorem inv_refuse {call : Call} {r : SendResult} (hpc : (s.kernel k).pc = .calls call)
    (hr : ntSuccess r.status = false) :
    Inv a b creation { s with
      kernel := update s.kernel k ((s.kernel k).afterCall a (creation k) r call) } := by
  cases call with
  | getAndLogProcDetails =>
      have hkernel := h.kernel k
      simp only [KernelInv, hpc] at hkernel
      have hverdict := procDetailsVerdict_of_failure a ((creation k).request a) hr
        (s.kernel k).creationStatus
      exact h.setKernel (settled_of_none hkernel.2 (hverdict.trans hkernel.1))
  | getAndLogClientVersion =>
      exact h.goOn hpc trivial trivial

theorem Inv.returnMessage {id : ℕ} {r : SendResult} {m : MessageState}
    (hreturns : Returns (s.message id) r m) {kernel : ℕ → Kernel}
    (hkernel : ∀ k, KernelInv creation (update s.message id m) s.record k (kernel k) ∨
      kernel k = s.kernel k) :
    Inv a b creation ⟨update s.message id m, s.record, kernel, s.thread⟩ := by
  obtain ⟨hmessage, hevolves⟩ := (h.message id).returns hreturns
  have hself : update s.record id (s.record id) = s.record := update_eq_self id s.record
  have hset : Inv a b creation
      ⟨update s.message id m, update s.record id (s.record id), kernel, s.thread⟩ := by
    refine h.setMessage hmessage hevolves (fun k ↦ ?_) fun i ↦ Or.inr ⟨rfl, fun _ ↦ rfl⟩
    rcases hkernel k with hk | hk
    · exact Or.inl (by rwa [hself])
    · exact Or.inr ⟨hk, Iff.rfl⟩
  rwa [hself] at hset

theorem inv_returns {call : Call} {id : ℕ} {r : SendResult} {m : MessageState}
    (hpc : (s.kernel k).pc = .waits call id) (hreturns : Returns (s.message id) r m) :
    Inv a b creation { s with
      message := update s.message id m
      kernel := update s.kernel k ((s.kernel k).afterCall a (creation k) r call) } := by
  cases call with
  | getAndLogProcDetails =>
      have hkernel := h.kernel k
      simp only [KernelInv, hpc] at hkernel
      obtain ⟨hstatus, hone⟩ := hkernel
      have hconcerns := (hone id).mpr rfl
      obtain ⟨hover, hverdict⟩ := (h.message id).verdict hconcerns hreturns
        ((creation k).request a) (s.kernel k).creationStatus
      apply h.returnMessage hreturns
      intro k'
      by_cases hk : k' = k
      · subst hk
        have hdecided : ((s.kernel k').afterCall a (creation k') r
            .getAndLogProcDetails).pc.Decided := trivial
        apply Or.inl
        rw [update_self, kernelInv_of_decided hdecided, Kernel.afterCall, hverdict, hstatus]
        exact settled_of_one hone (by simpa using hover)
      · exact Or.inr (by simp [hk])
  | getAndLogClientVersion =>
      have hfinished : KernelPc.finished.Decided := trivial
      exact (h.goOn hpc trivial hfinished).returnMessage hreturns fun k' ↦ Or.inr rfl

end Kernel

/-! ## The steps of a thread -/

theorem Loaded.of_take {id : ℕ} {r : Record} (h : MessageInv a id .queued r)
    (buffer : MessageBuffer) (replyLength i : ℕ) :
    Loaded (buffer.deliver replyLength id (r.sender.message a creation)) id
      { r with holder := some i } := by
  have hfresh := h.queued rfl
  have hdialogs : r.dialogs = 0 := by rw [hfresh]; rfl
  have hanswers : r.answers = [] := by rw [hfresh]; rfl
  have hreplies : r.replies = [] := by rw [hfresh]; rfl
  refine ⟨messageId_deliver _ _ _ _ (h.id_lt nofun), fun k hk ↦ ?_, fun k hk ↦ ?_, hdialogs,
    hanswers, hreplies⟩
  · have hsize : 4 ≤ VersionInformation.size := by decide
    rw [hk]
    exact (command_deliver _ _ _ _ hsize).trans (command_clientVersionRequest _)
  · have hsender : r.sender = .creation k .getAndLogProcDetails := hk
    have hsize : 4 ≤ ProcInfo.size a := by
      rw [ProcInfo.size_eq]
      omega
    rw [hsender]
    exact (command_deliver _ _ _ _ hsize).trans (command_procDetailsRequest _ _ _ _)

theorem Asking.of_loaded {buffer : MessageBuffer} {id : ℕ} {r : Record} (h : Loaded buffer id r)
    {stack : Mem} (hanswers : Answers (procReply b stack buffer) buffer) (dialogs : ℕ) :
    Asking b (procReply b stack buffer) id { r with dialogs := dialogs } :=
  ⟨hanswers.messageId.trans h.messageId, allowed_procReply b, h.answers, h.replies⟩

theorem Replying.of_loaded {buffer : MessageBuffer} {id : ℕ} {r : Record} (h : Loaded buffer id r)
    {reply : Mem} (hanswers : Answers reply buffer)
    (hcommand : command buffer ≠ CommandCode.cmdGiveProcname.value) (length : ℕ) :
    Replying b reply length id r :=
  ⟨hanswers.messageId.trans h.messageId, h.replies, fun k hk ↦ absurd (h.command k hk) hcommand,
    fun k hk ↦ absurd (h.command k hk) hcommand⟩

theorem Replying.of_asking {reply : Mem} {id : ℕ} {r : Record} (h : Asking b reply id r)
    (choice : ℕ) :
    Replying b (answeredReply b reply choice) (FilterReply.headerSize + ProcInfo.size b) id
      { r with answers := r.answers ++ [choice] } := by
  refine ⟨(replyMessageId_answeredReply b choice).trans h.messageId, h.replies, fun _ _ ↦ rfl,
    fun _ _ ↦ ?_⟩
  rw [allowed_answeredReply h.allowed, h.answers]
  simp [eq_comm]

theorem MessageInv.replied {reply : Mem} {length id : ℕ} {m : MessageState} {r : Record}
    (h : MessageInv a id m r) {i : ℕ} (hheld : r.holder = some i)
    (hreply : Replying b reply length id r) :
    MessageInv a id
      (.replied (read reply FilterReply.headerSize (length - FilterReply.headerSize)))
      { r with replies := r.replies ++ [sOk] } where
  unsent := nofun
  queued := nofun
  id_lt _ := h.id_lt (h.not_unsent hheld)
  dialogs := h.dialogs
  query := h.query
  accepted := by simp
  allowed k payload hk hpayload request := by
    have hsize : (ProcInfo.allowed a).off + (ProcInfo.allowed a).size ≤ ProcInfo.size b := by
      rw [ProcInfo.allowed_eq, ProcInfo.size_eq]
      exact Nat.le_add_right_of_le (by decide)
    have hallowed : ProcInfo.allowed a = ProcInfo.allowed b := by
      rw [ProcInfo.allowed_eq, ProcInfo.allowed_eq]
    have hlength : length - FilterReply.headerSize = ProcInfo.size b := by
      rw [hreply.length k hk, Nat.add_sub_cancel_left]
    obtain rfl := MessageState.replied.inj hpayload
    rw [hlength, Field.get_write_read _ _ hsize, hallowed]
    exact hreply.allowed k hk

section Thread

variable {s : State} {i : ℕ} (h : Inv a b creation s)

include h

theorem Inv.advance {t : Thread} (hcurrent : t.current = (s.thread i).current)
    (hshape : Shape b s.record t) : Inv a b creation { s with thread := update s.thread i t } :=
  h.setThread ⟨fun id hid ↦ (h.thread i).held id (hcurrent.symm.trans hid), hshape⟩

theorem inv_waitForSingleObject {result : Dword} {pc : Pc}
    (hstep : step b (s.thread i).buffer (s.thread i).pc (.waitForSingleObject result) =
      some pc) :
    Inv a b creation { s with thread := update s.thread i { s.thread i with pc := pc } } := by
  obtain ⟨hpc, rfl⟩ := step_waitForSingleObject.mp hstep
  have hshape := (h.thread i).shape
  simp only [Shape, hpc] at hshape
  refine h.advance rfl ?_
  split_ifs
  · trivial
  · exact hshape

theorem inv_getMessageOther {result : Hresult} {pc : Pc}
    (hstep : step b (s.thread i).buffer (s.thread i).pc (.filterGetMessage result) = some pc)
    (hok : result ≠ hresultFromWin32 sOk) :
    Inv a b creation { s with
      thread := update s.thread i
        { s.thread i with
          pc := pc
          receive := if result = hresultFromWin32 errorIoPending then .pending else .idle } } := by
  obtain ⟨_, rfl⟩ := step_filterGetMessage.mp hstep
  refine h.advance rfl ?_
  by_cases hpending : result = hresultFromWin32 errorIoPending
  · rw [if_pos hpending, hpending]
    exact fun hdone ↦ Receive.noConfusion hdone
  · rw [afterGetMessage_failure hpending hok]
    trivial

theorem inv_waitForMultipleObjects {result : Dword} {pc : Pc}
    (hstep : step b (s.thread i).buffer (s.thread i).pc (.waitForMultipleObjects result) =
      some pc) :
    Inv a b creation { s with thread := update s.thread i { s.thread i with pc := pc } } := by
  obtain ⟨hpc, rfl⟩ := step_waitForMultipleObjects.mp hstep
  have hshape := (h.thread i).shape
  simp only [Shape, hpc] at hshape
  refine h.advance rfl ?_
  by_cases hevent : result = waitObject0 + 1
  · rw [hevent]
    exact hshape
  · rw [afterWait_failure hevent]
    trivial

theorem inv_getOverlappedResult {ok : Bool} {pc : Pc}
    (hstep : step b (s.thread i).buffer (s.thread i).pc (.getOverlappedResult ok) = some pc)
    (hok : ok = true ↔ (s.thread i).receive = .completed) :
    Inv a b creation { s with thread := update s.thread i { s.thread i with pc := pc } } := by
  obtain ⟨hpc, rfl⟩ := step_getOverlappedResult.mp hstep
  have hshape := (h.thread i).shape
  simp only [Shape, hpc] at hshape
  refine h.advance rfl ?_
  cases ok with
  | true =>
      have hdone := hok.mp rfl
      exact ⟨by simp [hdone], hshape hdone⟩
  | false => trivial

theorem inv_abort (hpending : (s.thread i).receive = .pending) :
    Inv a b creation { s with
      thread := update s.thread i { s.thread i with receive := .aborted } } := by
  have hshape := (h.thread i).shape
  refine h.advance rfl ?_
  cases hpc : (s.thread i).pc <;> simp only [Shape, hpc, hpending] at hshape ⊢ <;> simp_all

theorem Inv.take {id replyLength : ℕ} {pc : Pc} {receive : Receive} (hid : s.message id = .queued)
    (hshape : ∀ record t, t = (s.thread i).takes replyLength id
        ((s.record id).sender.message a creation) pc receive →
      Holds record t (Loaded t.buffer) → Shape b record t) :
    Inv a b creation { s with
      message := update s.message id .taken
      record := update s.record id { s.record id with holder := some i }
      thread := update s.thread i ((s.thread i).takes replyLength id
        ((s.record id).sender.message a creation) pc receive) } := by
  have hmessage := h.message id
  rw [hid] at hmessage
  have hholder : (s.record id).holder = none := by
    rw [hmessage.queued rfl]
    rfl
  have hevolves : Evolves (s.message id) (s.record id) .taken
      { s.record id with holder := some i } := by
    rw [hid]
    exact ⟨nofun, nofun⟩
  refine h.own (hmessage.take i) hevolves rfl (fun j _ ↦ by simp [hholder])
    ⟨?_, hshape _ _ rfl ?_⟩
  · intro id' hid'
    obtain rfl := Option.some.inj hid'
    simp
  · refine ⟨id, rfl, ?_⟩
    rw [update_self]
    exact Loaded.of_take hmessage _ _ _

theorem inv_getMessage {id replyLength : ℕ} {pc : Pc}
    (hstep : step b (s.thread i).buffer (s.thread i).pc
      (.filterGetMessage (hresultFromWin32 sOk)) = some pc) (hid : s.message id = .queued) :
    Inv a b creation { s with
      message := update s.message id .taken
      record := update s.record id { s.record id with holder := some i }
      thread := update s.thread i ((s.thread i).takes replyLength id
        ((s.record id).sender.message a creation) pc .idle) } := by
  obtain ⟨_, rfl⟩ := step_filterGetMessage.mp hstep
  apply h.take hid
  intro record t ht hloaded
  subst ht
  exact ⟨fun hidle ↦ Receive.noConfusion hidle, hloaded⟩

theorem inv_complete {id replyLength : ℕ} (hpending : (s.thread i).receive = .pending)
    (hid : s.message id = .queued) :
    Inv a b creation { s with
      message := update s.message id .taken
      record := update s.record id { s.record id with holder := some i }
      thread := update s.thread i ((s.thread i).takes replyLength id
        ((s.record id).sender.message a creation) (s.thread i).pc .completed) } := by
  have hshape := (h.thread i).shape
  apply h.take hid
  intro record t ht hloaded
  have hpc : t.pc = (s.thread i).pc := by rw [ht, Thread.takes]
  unfold Shape at hshape ⊢
  rw [hpc]
  cases hpc : (s.thread i).pc <;>
    simp only [hpc, hpending, ne_eq, not_true, false_and] at hshape ⊢
  case waitPending | overlappedResult => exact fun _ ↦ hloaded

theorem Inv.note {id : ℕ} (hcurrent : (s.thread i).current = some id)
    (hnone : sOk ∉ (s.record id).replies) {f : Record → Record}
    (hsender : (f (s.record id)).sender = (s.record id).sender)
    (hholder : (f (s.record id)).holder = (s.record id).holder)
    (hdialogs : (f (s.record id)).dialogs ≤ 1)
    (hquery : ∀ k, (f (s.record id)).sender = .creation k .getAndLogClientVersion →
      (f (s.record id)).dialogs = 0)
    (hreplies : sOk ∉ (f (s.record id)).replies)
    {t : Thread} (ht : t.current = (s.thread i).current)
    (hshape : Shape b (update s.record id (f (s.record id))) t) :
    Inv a b creation { s with record := s.note i f, thread := update s.thread i t } := by
  have hheld := (h.thread i).held id hcurrent
  have hmessage := (h.message id).note hheld hnone hdialogs hquery hreplies
  have hevolves := (h.message id).evolves hnone (f (s.record id))
  have hself : update s.message id (s.message id) = s.message := update_eq_self id s.message
  have hothers : ∀ j ≠ i, (s.record id).holder ≠ some j := by
    intro j hj
    simpa [hheld] using hj.symm
  have hthread : ThreadInv b (update s.record id (f (s.record id))) i t := by
    refine ⟨fun id' hid' ↦ ?_, hshape⟩
    obtain rfl : id = id' := Option.some.inj (hcurrent.symm.trans (ht.symm.trans hid'))
    simpa using hholder.trans hheld
  have hown := h.own hmessage hevolves hsender hothers hthread
  rw [hself] at hown
  simpa only [State.note, hcurrent] using hown

theorem Inv.dispatched {pc : Pc} (hpc : ∀ r, raise pc r = r)
    (hshape : Shape b s.record { s.thread i with pc := pc }) :
    Inv a b creation { s with
      record := s.note i (raise pc)
      thread := update s.thread i { s.thread i with pc := pc } } := by
  have hnote : s.note i (raise pc) = s.record := by
    unfold State.note
    cases (s.thread i).current with
    | none => rfl
    | some id => simp only [hpc, update_eq_self]
  rw [hnote]
  exact h.advance rfl hshape

theorem inv_dispatch {stack : Mem} {pc : Pc}
    (hstep : step b (s.thread i).buffer (s.thread i).pc (.stack stack) = some pc) :
    Inv a b creation { s with
      record := s.note i (raise pc)
      thread := update s.thread i { s.thread i with pc := pc } } := by
  obtain ⟨hpc, rfl⟩ := step_stack.mp hstep
  have hshape := (h.thread i).shape
  simp only [Shape, hpc] at hshape
  obtain ⟨hreceive, id, hcurrent, hloaded⟩ := hshape
  rcases dispatch_cases b stack (s.thread i).buffer with ⟨reply, length, hd, hanswers, hcommand⟩ |
    ⟨text, hd, hanswers⟩ | hd | ⟨hd, _⟩ <;> rw [hd]
  · exact h.dispatched (fun _ ↦ rfl)
      ⟨hreceive, id, hcurrent, Replying.of_loaded hloaded hanswers hcommand length⟩
  · have hasking := Asking.of_loaded hloaded hanswers ((s.record id).dialogs + 1)
    have hnone : sOk ∉ (s.record id).replies := by simp [hloaded.replies]
    have hdialogs : (s.record id).dialogs + 1 ≤ 1 := by simp [hloaded.dialogs]
    -- a version query is answered without a dialog
    have hquery : ∀ k, (s.record id).sender ≠ .creation k .getAndLogClientVersion := by
      intro k hk
      rw [dispatch_cmdGetLibraryVersion (hloaded.query k hk)] at hd
      cases hd
    refine h.note hcurrent hnone rfl rfl hdialogs (fun k hk ↦ absurd hk (hquery k)) hnone rfl
      ⟨hreceive, id, hcurrent, ?_⟩
    rw [update_self]
    exact hasking
  · exact h.dispatched (fun _ ↦ rfl) trivial
  · exact h.dispatched (fun _ ↦ rfl) hreceive

theorem inv_messageBox {choice : ℕ} {pc : Pc}
    (hstep : step b (s.thread i).buffer (s.thread i).pc (.messageBox choice) = some pc) :
    Inv a b creation { s with
      record := s.note i fun r ↦ { r with answers := r.answers ++ [choice] }
      thread := update s.thread i { s.thread i with pc := pc } } := by
  obtain ⟨reply, text, hpc, rfl⟩ := step_messageBox.mp hstep
  have hshape := (h.thread i).shape
  simp only [Shape, hpc] at hshape
  obtain ⟨hreceive, id, hcurrent, hasking⟩ := hshape
  have hnone : sOk ∉ (s.record id).replies := by simp [hasking.replies]
  refine h.note hcurrent hnone rfl rfl (h.message id).dialogs (h.message id).query hnone rfl
    ⟨hreceive, id, hcurrent, ?_⟩
  rw [update_self]
  exact Replying.of_asking hasking choice

theorem inv_replyMessage {reply : Mem} {length : ℕ} {pc : Pc}
    (hpc : (s.thread i).pc = .sendReply reply length)
    (hstep : step b (s.thread i).buffer (s.thread i).pc (.filterReplyMessage sOk) = some pc)
    (hwait : Awaited (s.message (replyMessageId reply))) :
    Inv a b creation { s with
      message := update s.message (replyMessageId reply)
        (.replied (read reply FilterReply.headerSize (length - FilterReply.headerSize)))
      record := s.note i fun r ↦ { r with replies := r.replies ++ [sOk] }
      thread := update s.thread i { s.thread i with pc := pc } } := by
  obtain ⟨_, _, _, rfl⟩ := step_filterReplyMessage.mp hstep
  have hshape := (h.thread i).shape
  simp only [Shape, hpc] at hshape
  obtain ⟨hreceive, id, hcurrent, hreply⟩ := hshape
  -- the reply goes to the message that the thread has taken
  obtain rfl := hreply.messageId
  have hheld := (h.thread i).held _ hcurrent
  have hmessage := (h.message _).replied hheld hreply
  have hothers : ∀ j ≠ i, (s.record (replyMessageId reply)).holder ≠ some j := by
    intro j hj
    simpa [hheld] using hj.symm
  have hthread : ThreadInv b (update s.record (replyMessageId reply)
      { s.record (replyMessageId reply) with
        replies := (s.record (replyMessageId reply)).replies ++ [sOk] }) i
      { s.thread i with pc := .testTerminate } := by
    refine ⟨fun id' hid' ↦ ?_, hreceive⟩
    obtain rfl := Option.some.inj (hcurrent.symm.trans hid')
    simpa using hheld
  have hown := h.own hmessage (evolves_of_awaited hwait _) rfl hothers hthread
  simpa only [State.note, hcurrent] using hown

theorem inv_replyMessageFailed {result : Hresult} {pc : Pc}
    (hstep : step b (s.thread i).buffer (s.thread i).pc (.filterReplyMessage result) = some pc)
    (hresult : result ≠ sOk) :
    Inv a b creation { s with
      record := s.note i fun r ↦ { r with replies := r.replies ++ [result] }
      thread := update s.thread i { s.thread i with pc := pc } } := by
  obtain ⟨reply, length, hpc, rfl⟩ := step_filterReplyMessage.mp hstep
  have hshape := (h.thread i).shape
  simp only [Shape, hpc] at hshape
  obtain ⟨hreceive, id, hcurrent, hreply⟩ := hshape
  have hnone : sOk ∉ (s.record id).replies := by simp [hreply.replies]
  have hreplies : sOk ∉ (s.record id).replies ++ [result] := by
    simpa [hnone] using hresult.symm
  exact h.note hcurrent hnone rfl rfl (h.message id).dialogs (h.message id).query hreplies rfl
    hreceive

end Thread

theorem inv_step {s t : State} {act : Action} (h : Inv a b creation s)
    (hstep : Step a b creation s act t) : Inv a b creation t := by
  cases hstep with
  | send k id hpc hid hlt => exact inv_send h hpc hid hlt
  | refuse k r hpc hr => exact inv_refuse h hpc hr
  | returns k hpc hreturns => exact inv_returns h hpc hreturns
  | sendOther id payload hid hlt =>
      exact h.sendFresh hid hlt _ fun k ↦ Or.inr ⟨rfl, nofun⟩
  | returnsOther id _ hreturns => exact h.returnMessage hreturns fun k ↦ Or.inr rfl
  | waitForSingleObject i result hcall => exact inv_waitForSingleObject h hcall
  | getMessage i id replyLength hcall hid => exact inv_getMessage h hcall hid
  | getMessageOther i result hcall hok => exact inv_getMessageOther h hcall hok
  | waitForMultipleObjects i result hcall => exact inv_waitForMultipleObjects h hcall
  | getOverlappedResult i hcall hok => exact inv_getOverlappedResult h hcall hok
  | dispatch i stack hcall => exact inv_dispatch h hcall
  | messageBox i choice hcall => exact inv_messageBox h hcall
  | replyMessage i hpc hcall hwait => exact inv_replyMessage h hpc hcall hwait
  | replyMessageFailed i hcall hresult => exact inv_replyMessageFailed h hcall hresult
  | complete i id replyLength hpending hid => exact inv_complete h hpending hid
  | abort i hpending => exact inv_abort h hpending
  | exit i => exact h.advance rfl trivial

theorem inv_init {s : State} (h : Init creation s) : Inv a b creation s := by
  obtain ⟨hmessage, hkernel, hthread⟩ := h
  refine ⟨fun id ↦ ?_, fun k ↦ ?_, fun i ↦ ?_⟩
  · rw [(hmessage id).1, (hmessage id).2]
    exact ⟨fun _ ↦ rfl, nofun, fun hne ↦ absurd rfl hne, Nat.zero_le 1, fun _ _ ↦ rfl,
      by simp [Record.fresh], fun _ _ _ ↦ nofun⟩
  · rw [hkernel k]
    refine ⟨rfl, fun id ↦ ?_⟩
    rw [(hmessage id).2]
    exact Sender.noConfusion
  · obtain ⟨hpc, hreceive, hcurrent⟩ := hthread i
    exact ⟨by simp [hcurrent], by simp [Shape, hpc, hreceive]⟩

/-! ## The verdict of every creation -/

theorem Inv.verdictRight {s : State} (h : Inv a b creation s) (k : ℕ) :
    VerdictRight creation s k := by
  have hdialog : ∀ id, (s.record id).Concerns k → (s.record id).dialogs ≤ 1 :=
    fun id _ ↦ (h.message id).dialogs
  have hquery : ∀ id, (s.record id).sender = .creation k .getAndLogClientVersion →
      (s.record id).dialogs = 0 := fun id ↦ (h.message id).query k
  by_cases hdecided : (s.kernel k).pc.Decided
  · have hsettled := (kernelInv_of_decided hdecided).mp (h.kernel k)
    exact ⟨hsettled.unique, hdialog, hquery, fun hno ↦ absurd hdecided hno,
      fun _ ↦ hsettled.denied, hsettled.kept⟩
  · obtain ⟨hstatus, id, hone⟩ := (h.kernel k).pending hdecided
    exact ⟨fun id₁ id₂ h₁ h₂ ↦ (hone id₁ h₁).trans (hone id₂ h₂).symm, hdialog, hquery,
      fun _ ↦ hstatus, fun hyes ↦ absurd hyes hdecided, fun _ ↦ hstatus⟩

/-- Whatever the order of the steps, a process is refused exactly when the user
has answered OK to the dialog about it and the reply has been accepted. -/
theorem verdictRight_of_reachable (a b : Arch) (creation : ℕ → Creation) (s : State)
    (h : (port a b creation).Reachable s) (k : ℕ) : VerdictRight creation s k := by
  have hinv : Inv a b creation s := by
    apply h.invariant
    · exact fun s hs ↦ inv_init hs
    · exact fun s act t hs hstep ↦ inv_step hs hstep
  exact hinv.verdictRight k

def namelessCreation : Creation :=
  ⟨8, ⟨0, fun _ ↦ 0, by decide⟩, statusSuccess, fun _ ↦ 0, fun _ ↦ 0⟩

def initialState : State where
  message _ := .unsent
  record _ := .fresh (.other [])
  kernel _ := ⟨.calls .getAndLogProcDetails, statusSuccess⟩
  thread _ := ⟨.testTerminate, ⟨fun _ ↦ 0, messageBufferSize, le_rfl⟩, .idle, none⟩

def namelessBuffer : MessageBuffer :=
  MessageBuffer.deliver ⟨fun _ ↦ 0, messageBufferSize, le_rfl⟩ 0 1
    (namelessCreation.message .x64 .getAndLogProcDetails)

theorem imageFileName_namelessBuffer : imageFileName .x64 namelessBuffer = some [] := by
  have hread : getNat namelessBuffer.bytes (16 + 4) 2 =
      getNat (namelessCreation.request .x64) (0 + 4) 2 :=
    congrArg leNat (read_write_read _ 16 2 (by decide))
  have hfirst : getNat namelessBuffer.bytes (16 + 4) 2 = 0 := hread.trans (by decide)
  have hcount : (messageBufferSize - 20) / 2 = 33269 + 1 := by decide
  have hstart : CommandRequest.payload + (ProcInfo.imageFileName .x64).off = 20 := rfl
  have hreadable : namelessBuffer.readable = messageBufferSize := rfl
  rw [imageFileName, hstart, hreadable, hcount, cString]
  exact if_pos hfirst

/-- The question about it is answered with OK, by a single thread. -/
theorem reachable_answered : ∃ s payload,
    (port .x64 .x64 fun _ ↦ namelessCreation).Reachable s ∧ (s.kernel 0).pc.Decided ∧
      (s.record 1).Concerns 0 ∧ s.message 1 = .replied payload ∧
      idOk ∈ (s.record 1).answers ∧ sOk ∈ (s.record 1).replies := by
  let creation : ℕ → Creation := fun _ ↦ namelessCreation
  have h₀ : (port .x64 .x64 creation).Reachable initialState :=
    .init ⟨fun _ ↦ ⟨rfl, rfl⟩, fun _ ↦ rfl, fun _ ↦ ⟨rfl, rfl, rfl⟩⟩
  have h₁ := h₀.step (Step.send 0 1 rfl rfl (by decide))
  have h₂ := h₁.step (Step.waitForSingleObject 0 258#32 rfl)
  have h₃ := h₂.step (Step.getMessage 0 1 0 rfl rfl)
  have hcommand : command namelessBuffer = CommandCode.cmdGiveProcname.value :=
    (command_deliver _ _ _ _ (by decide)).trans (command_procDetailsRequest _ _ _ _)
  have hdispatch : dispatch .x64 (fun _ ↦ 0) namelessBuffer =
      .messageBox (procReply .x64 (fun _ ↦ 0) namelessBuffer)
        (messageBoxText .x64 namelessBuffer []) := by
    rw [dispatch, hcommand, CommandCode.ofValue_value, imageFileName_namelessBuffer]
  have h₄ := h₃.step (Step.dispatch 0 (fun _ ↦ 0) (step_stack.mpr ⟨rfl, hdispatch.symm⟩))
  have h₅ := h₄.step (Step.messageBox 0 idOk rfl)
  have hid : replyMessageId (answeredReply .x64 (procReply .x64 (fun _ ↦ 0) namelessBuffer)
      idOk) = 1 := by
    rw [replyMessageId_answeredReply, (answers_procReply hcommand).messageId]
    exact messageId_deliver _ _ _ _ (by decide)
  have h₆ := h₅.step (Step.replyMessage 0 rfl rfl (by rw [hid]; exact Or.inr rfl))
  rw [hid] at h₆
  have h₇ := h₆.step (Step.returns 0 rfl (Returns.success statusSuccess rfl))
  exact ⟨_, _, h₇, trivial, rfl, rfl, List.mem_singleton_self _, List.mem_singleton_self _⟩

theorem denied_nameless : ∃ s, (port .x64 .x64 fun _ ↦ namelessCreation).Reachable s ∧
    (s.kernel 0).creationStatus = statusAccessDenied := by
  obtain ⟨s, payload, h, hdecided, hconcerns, _, hanswers, hreplies⟩ := reachable_answered
  have hright := verdictRight_of_reachable .x64 .x64 (fun _ ↦ namelessCreation) s h 0
  exact ⟨s, h, hright.denied hdecided ⟨1, hconcerns, hanswers, hreplies⟩⟩

end NtDriver.ProcVerdict
