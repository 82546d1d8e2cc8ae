import NtDriver.LoneThread

/-!
# The two messages of a creation

A creation asks about its process and then for the version of the library.  The second
message goes out only after the first has come back, and by then the verdict is final.
-/

namespace NtDriver.VerdictFinal

open LoneThread (sender_holder sender_note sender_raise)
open Transition MessagePort Function

/-- The message was sent by creation `k`. -/
def Asks (s : State) (k : ℕ) (call : Call) (id : ℕ) : Prop :=
  (s.record id).sender = .creation k call

/-- The send of the message has returned, or can do so at once. -/
def Ended (m : MessageState) : Prop := m = .closed ∨ ∃ payload, m = .replied payload

/-- At most one message of each kind, the version query after the answer or the failure
of the question, and after the verdict. -/
structure AsksInOrder (s : State) (k : ℕ) : Prop where
  once : ∀ call id id', Asks s k call id → Asks s k call id' → id = id'
  order : ∀ id id', Asks s k .getAndLogClientVersion id → Asks s k .getAndLogProcDetails id' →
    Ended (s.message id')
  decided : ∀ id, Asks s k .getAndLogClientVersion id → (s.kernel k).pc.Decided

/-! ## The version query -/

/-- As `KernelInv` has it for the question about the process. -/
def Queries (s : State) (k : ℕ) : Prop :=
  match (s.kernel k).pc with
  | .waits .getAndLogClientVersion id =>
      ∀ id', Asks s k .getAndLogClientVersion id' ↔ id' = id
  | .finished => ∀ id id', Asks s k .getAndLogClientVersion id →
      Asks s k .getAndLogClientVersion id' → id = id'
  | _ => ∀ id, ¬ Asks s k .getAndLogClientVersion id

section Steps

variable {a b : Arch} {creation : ℕ → Creation} {s t : State} {k : ℕ}

theorem Queries.frame (h : Queries s k) (hpc : (t.kernel k).pc = (s.kernel k).pc)
    (hasks : ∀ id, Asks t k .getAndLogClientVersion id ↔ Asks s k .getAndLogClientVersion id) :
    Queries t k := by
  unfold Queries at h ⊢
  rw [hpc]
  simpa only [hasks] using h

/-- A step that sends nothing and moves no creation. -/
theorem Queries.keep (h : Queries s k) (hkernel : t.kernel = s.kernel)
    (hsender : ∀ id, (t.record id).sender = (s.record id).sender) : Queries t k :=
  h.frame (by rw [hkernel]) fun id ↦ by rw [Asks, hsender, Asks]

theorem sender_unsent (hbase : ProcVerdict.Inv a b creation s) {id : ℕ}
    (hid : s.message id = .unsent) : (s.record id).sender = .other [] := by
  rw [(hbase.message id).unsent hid]
  rfl

/-- A send takes an id that no creation has used. -/
theorem queries_send (h : Queries s k) (hbase : ProcVerdict.Inv a b creation s) {k' id : ℕ}
    {call : Call} (hpc : (s.kernel k').pc = .calls call) (hid : s.message id = .unsent) :
    Queries { s with
      message := update s.message id .queued
      record := update s.record id (.fresh (.creation k' call))
      kernel := update s.kernel k' { s.kernel k' with pc := .waits call id } } k := by
  have hold := sender_unsent hbase hid
  by_cases hk : k = k'
  · subst hk
    cases call with
    | getAndLogProcDetails =>
        simp only [Queries, hpc, update_self] at h ⊢
        intro id' hasks
        by_cases hid' : id' = id
        · subst hid'
          simp [Asks, Record.fresh] at hasks
        · exact h id' (by simpa [Asks, hid'] using hasks)
    | getAndLogClientVersion =>
        simp only [Queries, hpc, update_self] at h ⊢
        intro id'
        by_cases hid' : id' = id
        · subst hid'
          simp [Asks, Record.fresh]
        · have hnone := h id'
          simpa [Asks, hid'] using hnone
  · refine h.frame (by simp [hk]) fun id' ↦ ?_
    by_cases hid' : id' = id
    · subst hid'
      have hne : ¬ k' = k := fun heq ↦ hk heq.symm
      simp [Asks, Record.fresh, hold, hne]
    · simp [Asks, hid']

/-- A send that returns, or that fails at once, moves its creation on. -/
theorem queries_afterCall (h : Queries s k) {k' : ℕ} {call : Call} {r : SendResult}
    {message : ℕ → MessageState}
    (hpc : (s.kernel k').pc = .calls call ∨ ∃ id, (s.kernel k').pc = .waits call id) :
    Queries { s with
      message := message
      kernel := update s.kernel k' ((s.kernel k').afterCall a (creation k') r call) } k := by
  by_cases hk : k = k'
  · subst hk
    cases call with
    | getAndLogProcDetails =>
        rcases hpc with hpc | ⟨id, hpc⟩
        · simp only [Queries, hpc, update_self, Kernel.afterCall] at h ⊢
          exact h
        · simp only [Queries, hpc, update_self, Kernel.afterCall] at h ⊢
          exact h
    | getAndLogClientVersion =>
        rcases hpc with hpc | ⟨id, hpc⟩
        · simp only [Queries, hpc, update_self, Kernel.afterCall] at h ⊢
          exact fun id id' hasks ↦ absurd hasks (h id)
        · simp only [Queries, hpc, update_self, Kernel.afterCall] at h ⊢
          exact fun id' id'' hasks hasks' ↦ ((h id').mp hasks).trans ((h id'').mp hasks').symm
  · exact h.frame (by simp [hk]) fun _ ↦ Iff.rfl

theorem queries_step {act : Action} (h : Queries s k) (hbase : ProcVerdict.Inv a b creation s)
    (hstep : Step a b creation s act t) : Queries t k := by
  cases hstep with
  | send k' id hpc hid _ => exact queries_send h hbase hpc hid
  | refuse k' r hpc _ => exact queries_afterCall h (Or.inl hpc)
  | returns k' hpc _ => exact queries_afterCall h (Or.inr ⟨_, hpc⟩)
  | sendOther id payload hid _ =>
      refine h.frame rfl fun id' ↦ ?_
      by_cases hid' : id' = id
      · subst hid'
        simp [Asks, Record.fresh, sender_unsent hbase hid]
      · simp [Asks, hid']
  | getMessage i id replyLength _ _ => exact h.keep rfl (sender_holder id i)
  | complete i id replyLength _ _ => exact h.keep rfl (sender_holder id i)
  | dispatch i stack _ => exact h.keep rfl (sender_note (sender_raise _))
  | messageBox i choice _ => exact h.keep rfl (sender_note fun _ ↦ rfl)
  | replyMessage i _ _ _ => exact h.keep rfl (sender_note fun _ ↦ rfl)
  | replyMessageFailed i _ _ => exact h.keep rfl (sender_note fun _ ↦ rfl)
  | _ => exact h.keep rfl fun _ ↦ rfl

/-! ## The verdict -/

/-- A decided creation is not decided again. -/
theorem decided_step {act : Action} (h : (s.kernel k).pc.Decided)
    (hstep : Step a b creation s act t) :
    (t.kernel k).pc.Decided ∧ (t.kernel k).creationStatus = (s.kernel k).creationStatus := by
  have hafter : ∀ {call : Call} (r : SendResult),
      ((s.kernel k).pc = .calls call ∨ ∃ id, (s.kernel k).pc = .waits call id) →
        ((s.kernel k).afterCall a (creation k) r call).pc.Decided ∧
          ((s.kernel k).afterCall a (creation k) r call).creationStatus =
            (s.kernel k).creationStatus := by
    intro call r hpc
    cases call with
    | getAndLogProcDetails =>
        rcases hpc with hpc | ⟨id, hpc⟩ <;> exact absurd h (by simp [hpc, KernelPc.Decided])
    | getAndLogClientVersion => exact ⟨trivial, rfl⟩
  cases hstep with
  | @send k' id call hpc _ _ =>
      by_cases hk : k = k'
      · subst hk
        rw [hpc] at h
        cases call with
        | getAndLogProcDetails => exact h.elim
        | getAndLogClientVersion => simp [KernelPc.Decided]
      · simp [hk, h]
  | refuse k' r hpc _ =>
      by_cases hk : k = k'
      · subst hk
        simpa using hafter r (Or.inl hpc)
      · simp [hk, h]
  | returns k' hpc _ =>
      by_cases hk : k = k'
      · subst hk
        simpa using hafter _ (Or.inr ⟨_, hpc⟩)
      · simp [hk, h]
  | _ => exact ⟨h, rfl⟩

theorem queries_of_reachable (h : (port a b creation).Reachable s) (k : ℕ) :
    ProcVerdict.Inv a b creation s ∧ Queries s k := by
  apply h.invariant (I := fun s ↦ ProcVerdict.Inv a b creation s ∧ Queries s k)
  · intro s hs
    refine ⟨ProcVerdict.inv_init hs, ?_⟩
    simp [Queries, hs.2.1 k, Asks, (hs.1 _).2, Record.fresh]
  · exact fun s act t hs hstep ↦ ⟨ProcVerdict.inv_step hs.1 hstep, queries_step hs.2 hs.1 hstep⟩

/-- A version query is out only behind the verdict. -/
theorem Queries.decided (h : Queries s k) {id : ℕ}
    (hid : Asks s k .getAndLogClientVersion id) : (s.kernel k).pc.Decided := by
  cases hpc : (s.kernel k).pc with
  | finished => trivial
  | calls call =>
      simp only [Queries, hpc] at h
      exact absurd hid (h id)
  | waits call id' =>
      cases call with
      | getAndLogClientVersion => trivial
      | getAndLogProcDetails =>
          simp only [Queries, hpc] at h
          exact absurd hid (h id)

theorem Queries.once (h : Queries s k) {id id' : ℕ}
    (hid : Asks s k .getAndLogClientVersion id) (hid' : Asks s k .getAndLogClientVersion id') :
    id = id' := by
  have hdecided := h.decided hid
  cases hpc : (s.kernel k).pc with
  | finished =>
      simp only [Queries, hpc] at h
      exact h id id' hid hid'
  | calls call =>
      simp only [Queries, hpc] at h
      exact absurd hid (h id)
  | waits call id'' =>
      cases call with
      | getAndLogClientVersion =>
          simp only [Queries, hpc] at h
          exact ((h id).mp hid).trans ((h id').mp hid').symm
      | getAndLogProcDetails =>
          rw [hpc] at hdecided
          exact hdecided.elim

theorem asksInOrder_of_queries (hbase : ProcVerdict.Inv a b creation s) (h : Queries s k) :
    AsksInOrder s k where
  once call id id' hid hid' := by
    cases call with
    | getAndLogProcDetails => exact (hbase.verdictRight k).message id id' hid hid'
    | getAndLogClientVersion => exact h.once hid hid'
  order id id' hid hid' := by
    have hsettled := (ProcVerdict.kernelInv_of_decided (h.decided hid)).mp (hbase.kernel k)
    exact hsettled.ended id' hid'
  decided _ hid := h.decided hid

/-- In every order of the steps, a creation has its question and its version query on the
port in this order and each at most once, and a verdict that it has is never changed. -/
theorem asksInOrder_of_run {es : List Action} (h : (port a b creation).Reachable s)
    (hrun : (port a b creation).Run s es t) (k : ℕ) :
    AsksInOrder s k ∧ ((s.kernel k).pc.Decided →
      (t.kernel k).pc.Decided ∧ (t.kernel k).creationStatus = (s.kernel k).creationStatus) := by
  obtain ⟨hbase, hqueries⟩ := queries_of_reachable h k
  refine ⟨asksInOrder_of_queries hbase hqueries, fun hdecided ↦ ?_⟩
  apply hrun.invariant (I := fun u ↦ (u.kernel k).pc.Decided ∧
    (u.kernel k).creationStatus = (s.kernel k).creationStatus) _ ⟨hdecided, rfl⟩
  rintro u act v ⟨hu, hstatus⟩ hstep
  obtain ⟨hv, hsame⟩ := decided_step hu hstep
  exact ⟨hv, hsame.trans hstatus⟩

end Steps

/-- A creation whose question finds no port, and whose version query is not answered. -/
theorem asksInOrder_unanswered : ∃ s t es,
    (port .x64 .x64 fun _ ↦ ProcVerdict.namelessCreation).Reachable s ∧
      (port .x64 .x64 fun _ ↦ ProcVerdict.namelessCreation).Run s es t ∧
      Asks s 0 .getAndLogClientVersion 1 ∧ AsksInOrder s 0 ∧
      (t.kernel 0).creationStatus = (s.kernel 0).creationStatus := by
  have h₀ : (port .x64 .x64 fun _ ↦ ProcVerdict.namelessCreation).Reachable
      ProcVerdict.initialState :=
    .init ⟨fun _ ↦ ⟨rfl, rfl⟩, fun _ ↦ rfl, fun _ ↦ ⟨rfl, rfl, rfl⟩⟩
  have h₁ := h₀.step (Step.refuse 0 ⟨statusPortDisconnected, []⟩ rfl rfl)
  obtain ⟨s, h₂, hkernel, hmessage, hasks⟩ : ∃ s,
      (port .x64 .x64 fun _ ↦ ProcVerdict.namelessCreation).Reachable s ∧
        s.kernel 0 = ⟨.waits .getAndLogClientVersion 1, statusSuccess⟩ ∧
        s.message 1 = .queued ∧ Asks s 0 .getAndLogClientVersion 1 :=
    ⟨_, h₁.step (Step.send 0 1 rfl rfl (by decide)), rfl, rfl, rfl⟩
  have hreturns : Returns (s.message 1) ⟨statusPortDisconnected, []⟩ .closed :=
    .failure _ rfl (Or.inl hmessage)
  have hstep := @Step.returns .x64 .x64 (fun _ ↦ ProcVerdict.namelessCreation) s 0 _ 1 _ _
    (congrArg Kernel.pc hkernel) hreturns
  have hrun : (port .x64 .x64 fun _ ↦ ProcVerdict.namelessCreation).Run s _ _ :=
    System.Run.nil.snoc hstep
  obtain ⟨horder, hfinal⟩ := asksInOrder_of_run h₂ hrun 0
  exact ⟨s, _, _, h₂, hrun, hasks, horder, (hfinal (by rw [hkernel]; trivial)).2⟩

end NtDriver.VerdictFinal
