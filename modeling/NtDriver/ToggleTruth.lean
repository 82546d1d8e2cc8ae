import NtDriver.ClientCommands
import NtDriver.Lib.Transition

/-!
# What a toggle reports

The client turns process monitoring on and off, one call after another.  The
driver's answer does not carry the outcome of the registration, so an enabling
call that the kernel refuses is reported like one that it accepts.
-/

namespace NtDriver.ToggleTruth

open Transition ProcNotify ReceiveMessage ClientCommands

/-- One call, with what `gDllConnFilterPort` is at the time and its surroundings. -/
structure Toggle where
  onOrOff : UInt8
  gDllConnFilterPort : Bool
  env : CallEnv

namespace Toggle

variable (t : Toggle)

def call (n : ProcNotify) : NtStatus × ProcNotify :=
  t.env.toggleProcessMonitoring t.gDllConnFilterPort t.onOrOff n

def Delivered : Prop := t.gDllConnFilterPort = true ∧ t.env.delivered = true

/-- The kernel's answer is one that it may give, where the driver asks for it. -/
def Answered (n : ProcNotify) : Prop :=
  t.Delivered →
    if 1 = t.onOrOff then
      n.gProcessNotifyRegistered = false → PsSetAllows false t.env.psSet n
    else n.gProcessNotifyRegistered = true → PsSetAllows true t.env.psSet n

/-- An enabling call reaches the driver, and the kernel refuses the routine. -/
def Refused (n : ProcNotify) : Prop :=
  t.Delivered ∧ 1 = t.onOrOff ∧ n.registered = false ∧ ntSuccess t.env.psSet = false

end Toggle

def toggles : System ProcNotify Toggle where
  Init n := n = initial
  Step n t n' := t.Answered n ∧ (t.call n).2 = n'

/-- The status of a call agrees with the registration behind it. -/
structure TellsTruth (n : ProcNotify) (t : Toggle) : Prop where
  enabled : (t.call n).1 = statusSuccess → 1 = t.onOrOff → (t.call n).2.registered = true
  disabled : (t.call n).1 = statusSuccess → ¬ 1 = t.onOrOff → (t.call n).2.registered = false
  failed : ntSuccess (t.call n).1 = false → (t.call n).2.registered = n.registered

/-! ## One call -/

section Call

variable {n : ProcNotify} {t : Toggle} {psSet : NtStatus}

theorem registered_drvInitializeProcNotify (hn : FlagAgrees n) :
    (drvInitializeProcNotify psSet n).2.registered = (n.registered || ntSuccess psSet) := by
  rw [drvInitializeProcNotify, hn]
  cases hregistered : n.registered with
  | true => simp [hregistered]
  | false =>
      cases hps : ntSuccess psSet <;> simp [psSetCreateProcessNotifyRoutineEx, hps, hregistered]

theorem flagAgrees_drvInitializeProcNotify (hn : FlagAgrees n) :
    FlagAgrees (drvInitializeProcNotify psSet n).2 := by
  rw [FlagAgrees, registered_drvInitializeProcNotify hn, drvInitializeProcNotify, hn]
  cases hregistered : n.registered with
  | true =>
      have hflag : n.gProcessNotifyRegistered = true := hn.trans hregistered
      simp [hflag]
  | false =>
      have hflag : n.gProcessNotifyRegistered = false := hn.trans hregistered
      cases hps : ntSuccess psSet <;> simp [psSetCreateProcessNotifyRoutineEx, hps, hflag]

/-- A registered routine can be removed, and one that is not is left alone. -/
theorem registered_drvUninitializeProcNotify (hn : FlagAgrees n)
    (hallows : n.gProcessNotifyRegistered = true → PsSetAllows true psSet n) :
    (drvUninitializeProcNotify psSet n).2.registered = false := by
  cases hflag : n.gProcessNotifyRegistered with
  | false =>
      have hregistered : n.registered = false := hn.symm.trans hflag
      simp [drvUninitializeProcNotify, hflag, hregistered]
  | true =>
      have hregistered : n.registered = true := hn.symm.trans hflag
      have hps : ntSuccess psSet = true := by
        by_contra hfails
        have hremoved := hallows hflag (Bool.eq_false_of_not_eq_true hfails)
        rw [hregistered] at hremoved
        cases hremoved
      simp [drvUninitializeProcNotify, psSetCreateProcessNotifyRoutineEx, hflag, hps]

theorem flagAgrees_drvUninitializeProcNotify (hn : FlagAgrees n)
    (hallows : n.gProcessNotifyRegistered = true → PsSetAllows true psSet n) :
    FlagAgrees (drvUninitializeProcNotify psSet n).2 := by
  rw [FlagAgrees, registered_drvUninitializeProcNotify hn hallows]
  cases hflag : n.gProcessNotifyRegistered <;> simp [drvUninitializeProcNotify, hflag]

theorem call_enable (ht : t.Delivered) (hon : 1 = t.onOrOff) :
    t.call n = (statusSuccess, (drvInitializeProcNotify t.env.psSet n).2) := by
  have hcall := @CallEnv.sendCommand_eq t.env .cmdEnableProcmon _ n t.gDllConnFilterPort rfl
  simpa only [Toggle.call, CallEnv.toggleProcessMonitoring, if_pos hon, ht.1, ht.2, if_true,
    Bool.true_eq_false, if_false, effect] using hcall

theorem call_disable (ht : t.Delivered) (hoff : ¬ 1 = t.onOrOff) :
    t.call n = (statusSuccess, (drvUninitializeProcNotify t.env.psSet n).2) := by
  have hcall := @CallEnv.sendCommand_eq t.env .cmdDisableProcmon _ n t.gDllConnFilterPort rfl
  simpa only [Toggle.call, CallEnv.toggleProcessMonitoring, if_neg hoff, ht.1, ht.2, if_true,
    Bool.true_eq_false, if_false, effect] using hcall

/-- A call that does not reach the driver fails and changes nothing. -/
theorem call_not_delivered (ht : ¬ t.Delivered) :
    ntSuccess (t.call n).1 = false ∧ (t.call n).2 = n := by
  have hcall : ∀ c code, replyCode c = some code →
      ntSuccess (t.env.sendCommand t.gDllConnFilterPort c n).1 = false ∧
        (t.env.sendCommand t.gDllConnFilterPort c n).2 = n := by
    intro c code hcode
    rw [CallEnv.sendCommand_eq t.gDllConnFilterPort hcode]
    split_ifs with hport hdelivered
    · exact ⟨ntSuccess_statusNotFound, rfl⟩
    · exact absurd ⟨Bool.eq_true_of_not_eq_false hport, hdelivered⟩ ht
    · exact ⟨ntSuccess_statusUnsuccessful, rfl⟩
  rw [Toggle.call, CallEnv.toggleProcessMonitoring]
  split_ifs
  · exact hcall .cmdEnableProcmon _ rfl
  · exact hcall .cmdDisableProcmon _ rfl

theorem flagAgrees_call (hn : FlagAgrees n) (hanswered : t.Answered n) :
    FlagAgrees (t.call n).2 := by
  by_cases ht : t.Delivered
  · have hallows := hanswered ht
    by_cases hon : 1 = t.onOrOff
    · rw [call_enable ht hon]
      exact flagAgrees_drvInitializeProcNotify hn
    · rw [if_neg hon] at hallows
      rw [call_disable ht hon]
      exact flagAgrees_drvUninitializeProcNotify hn hallows
  · rwa [(call_not_delivered ht).2]

theorem tellsTruth_of_not_delivered (ht : ¬ t.Delivered) : TellsTruth n t := by
  obtain ⟨hfailed, hsame⟩ := call_not_delivered (n := n) ht
  have hne : (t.call n).1 ≠ statusSuccess := by
    intro heq
    rw [heq, ntSuccess_statusSuccess] at hfailed
    cases hfailed
  exact ⟨fun h ↦ absurd h hne, fun h ↦ absurd h hne, fun _ ↦ by rw [hsame]⟩

theorem tellsTruth_of_success (hs : (t.call n).1 = statusSuccess)
    (hregistered : (t.call n).2.registered = decide (1 = t.onOrOff)) : TellsTruth n t := by
  refine ⟨fun _ hon ↦ ?_, fun _ hoff ↦ ?_, fun hfailed ↦ ?_⟩
  · rw [hregistered, decide_eq_true hon]
  · rw [hregistered, decide_eq_false hoff]
  · rw [hs, ntSuccess_statusSuccess] at hfailed
    cases hfailed

theorem tellsTruth_disable (hn : FlagAgrees n) (hanswered : t.Answered n) (ht : t.Delivered)
    (hoff : ¬ 1 = t.onOrOff) : TellsTruth n t := by
  have hallows := hanswered ht
  rw [if_neg hoff] at hallows
  have hcall := call_disable (n := n) ht hoff
  apply tellsTruth_of_success
  · rw [hcall]
  · rw [hcall, decide_eq_false hoff]
    exact registered_drvUninitializeProcNotify hn hallows

theorem tellsTruth_enable_iff (hn : FlagAgrees n) (ht : t.Delivered) (hon : 1 = t.onOrOff) :
    TellsTruth n t ↔ (n.registered || ntSuccess t.env.psSet) = true := by
  have hcall := call_enable (n := n) ht hon
  rw [← registered_drvInitializeProcNotify hn]
  constructor
  · intro htruth
    have henabled := htruth.enabled
    rw [hcall] at henabled
    exact henabled rfl hon
  · intro hregistered
    apply tellsTruth_of_success
    · rw [hcall]
    · rwa [hcall, decide_eq_true hon]

end Call

/-! ## A sequence of calls -/

theorem flagAgrees_of_run {ts : List Toggle} {n : ProcNotify}
    (hrun : toggles.Run initial ts n) : FlagAgrees n := by
  apply hrun.invariant (I := FlagAgrees)
  · rintro n t n' hn ⟨hanswered, rfl⟩
    exact flagAgrees_call hn hanswered
  · exact rfl

/-- After every sequence of calls, the next one tells the truth exactly when it is not
an enabling call that the kernel refuses. -/
theorem tellsTruth_iff_not_refused {ts : List Toggle} {n : ProcNotify} {t : Toggle}
    (hrun : toggles.Run initial ts n) (hanswered : t.Answered n) :
    TellsTruth n t ↔ ¬ t.Refused n := by
  have hn := flagAgrees_of_run hrun
  by_cases ht : t.Delivered
  · by_cases hon : 1 = t.onOrOff
    · rw [tellsTruth_enable_iff hn ht hon, Bool.or_eq_true]
      constructor
      · rintro (hregistered | hps) ⟨_, _, hfree, hrefused⟩
        · exact Bool.false_ne_true (hfree.symm.trans hregistered)
        · exact Bool.false_ne_true (hrefused.symm.trans hps)
      · intro hrefused
        by_contra hneither
        obtain ⟨hfree, hps⟩ := not_or.mp hneither
        exact hrefused ⟨ht, hon, Bool.eq_false_of_not_eq_true hfree,
          Bool.eq_false_of_not_eq_true hps⟩
    · exact iff_of_true (tellsTruth_disable hn hanswered ht hon) fun h ↦ hon h.2.1
  · exact iff_of_true (tellsTruth_of_not_delivered ht) fun h ↦ ht h.1

theorem statusUnsuccessful_ne_sOk : statusUnsuccessful ≠ sOk := by decide

/-- An enabling call over a connected port, which the kernel answers with `psSet`. -/
def enabling (psSet : NtStatus) : Toggle :=
  ⟨1, true, ⟨1, Nat.one_ne_zero, fun _ ↦ 0, true, statusUnsuccessful, statusUnsuccessful_ne_sOk,
    psSet, fun _ ↦ 0, fun _ ↦ ⟨statusPortDisconnected, []⟩⟩⟩

def disabling (psSet : NtStatus) : Toggle := { enabling psSet with onOrOff := 0 }

theorem answered_enabling (psSet : NtStatus) : (enabling psSet).Answered initial :=
  fun _ _ _ ↦ rfl

/-- After an enabling call that the kernel refuses, one that it accepts, and a disabling
call, everything is as at first, and again only an accepted call tells the truth. -/
theorem tellsTruth_enabling :
    toggles.Run initial [enabling statusAccessDenied, enabling statusSuccess,
      disabling statusSuccess] initial ∧
    TellsTruth initial (enabling statusSuccess) ∧
    ¬ TellsTruth initial (enabling statusAccessDenied) := by
  have hrefused : (enabling statusAccessDenied).Refused initial := ⟨⟨rfl, rfl⟩, rfl, rfl, rfl⟩
  have hdisable : (disabling statusSuccess).Answered ⟨true, true⟩ :=
    fun _ _ hfails ↦ absurd hfails (by decide)
  have h₁ : toggles.Run initial [enabling statusAccessDenied] initial :=
    System.Run.nil.snoc ⟨answered_enabling _, by rw [call_enable ⟨rfl, rfl⟩ rfl]; rfl⟩
  have h₂ : toggles.Run initial [enabling statusAccessDenied, enabling statusSuccess]
      ⟨true, true⟩ :=
    h₁.snoc ⟨answered_enabling _, by rw [call_enable ⟨rfl, rfl⟩ rfl]; rfl⟩
  have h₃ : toggles.Run initial [enabling statusAccessDenied, enabling statusSuccess,
      disabling statusSuccess] initial :=
    h₂.snoc ⟨hdisable, by rw [call_disable ⟨rfl, rfl⟩ (by decide)]; rfl⟩
  refine ⟨h₃, ?_, fun htruth ↦ ?_⟩
  · refine (tellsTruth_iff_not_refused h₃ (answered_enabling _)).mpr ?_
    rintro ⟨_, _, _, hfails⟩
    cases hfails
  · exact (tellsTruth_iff_not_refused h₃ (answered_enabling _)).mp htruth hrefused

theorem not_tellsTruth_accessDenied : ¬ ∀ ts n t, toggles.Run initial ts n → t.Answered n →
    TellsTruth n t := by
  intro hall
  have htruth := hall [] initial (enabling statusAccessDenied) .nil (answered_enabling _)
  have hflag : FlagAgrees initial := flagAgrees_of_run .nil
  have hregistered := (tellsTruth_enable_iff hflag ⟨rfl, rfl⟩ rfl).mp htruth
  exact absurd hregistered (by decide)

end NtDriver.ToggleTruth
