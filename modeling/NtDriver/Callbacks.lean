import NtDriver.Lib.Handles
import NtDriver.Messages

/-!
# The kernel's callbacks

`PostOperation`, `RfRegistryCallback` and `DrvProcessNotifyRoutineEx` use pointers
that a kernel call was to set, or that the system may leave `NULL`.  A callback
that uses such a pointer takes the machine down.
-/

namespace NtDriver.Callbacks

open Handles Memory

/-- A pointer variable: `NULL`, not set by the call that was to set it, or given. -/
inductive Pointer (α : Type) where
  | null
  | unset
  | given (target : α)

inductive Fault where
  | null
  | unset
  deriving DecidableEq

/-- A callback over the `FLT_FILE_NAME_INFORMATION`s it has obtained and released. -/
abbrev Callback := EStateM Fault Ledger

namespace Pointer

variable {α : Type}

def ofOption : Option α → Pointer α
  | none => .null
  | some x => .given x

def deref : Pointer α → Callback α
  | .null => throw .null
  | .unset => throw .unset
  | .given x => pure x

@[simp] theorem deref_null (l : Ledger) : (null : Pointer α).deref l = .error .null l := rfl

@[simp] theorem deref_unset (l : Ledger) : (unset : Pointer α).deref l = .error .unset l := rfl

@[simp] theorem deref_given (x : α) (l : Ledger) : (given x).deref l = .ok x l := rfl

end Pointer

/-! ## `PostOperation` -/

inductive FltPostopCallbackStatus where
  | finishedProcessing
  | moreProcessingRequired
  | disallowFsFilterIo
  deriving DecidableEq

/-- `Name.Buffer` is `NULL` for an empty name. -/
structure FileNameInformation where
  handle : ℕ
  nameBuffer : Pointer (List UInt16)

structure PostOpEnv where
  ioStatus : NtStatus
  fltGetFileNameInformation : NtStatus
  nameBuffer : Option (List UInt16)

def fltGetFileNameInformation (env : PostOpEnv) : Callback (Pointer FileNameInformation) :=
  fun l ↦
    let created := l.create (ntSuccess env.fltGetFileNameInformation)
    match created.1 with
    | some h => .ok (.given ⟨h, .ofOption env.nameBuffer⟩) created.2
    | none => .ok .unset created.2

def fltReleaseFileNameInformation (fileNameInfo : Pointer FileNameInformation) :
    Callback Unit := do
  let info ← fileNameInfo.deref
  modify fun l ↦ l.close (some info.handle)

def postOperation (env : PostOpEnv) : Callback FltPostopCallbackStatus := do
  if !ntSuccess env.ioStatus || env.ioStatus == statusReparse then
    return .finishedProcessing
  -- the status of this call is never tested
  let fileNameInfo ← fltGetFileNameInformation env
  let info ← fileNameInfo.deref
  let _ ← info.nameBuffer.deref
  fltReleaseFileNameInformation fileNameInfo
  return .finishedProcessing

/-! ## `RfRegistryCallback` -/

/-- The classes that the callback names, and any other. -/
inductive RegNotifyClass where
  | regNtPreCreateKeyEx
  | regNtPreOpenKeyEx
  | regNtKeyHandleClose
  | regNtPreDeleteValueKey
  | other (operation : ℕ)
  deriving DecidableEq

structure RegistryEnv where
  operation : RegNotifyClass
  cmCallbackGetKeyObjectID : NtStatus
  objectName : UnicodeString

def cmCallbackGetKeyObjectID (env : RegistryEnv) : Pointer UnicodeString :=
  if ntSuccess env.cmCallbackGetKeyObjectID then .given env.objectName else .unset

def rfRegistryCallback (env : RegistryEnv) : Callback NtStatus := do
  match env.operation with
  | .regNtPreDeleteValueKey =>
      let _ ← (cmCallbackGetKeyObjectID env).deref
      return statusSuccess
  | _ => return statusSuccess

/-! ## `DrvProcessNotifyRoutineEx` -/

structure CreateInfo where
  imageFileName : Option UnicodeString
  creationStatus : NtStatus

/-- The prior content of the local structures, and what `FltSendMessage` does with each. -/
structure NotifyEnv where
  arch : Arch
  processId : ℕ
  createInfo : Option CreateInfo
  processInformation : Mem
  clientVersionInformation : Mem
  sendProcDetails : List UInt8 → SendResult
  sendClientVersion : List UInt8 → SendResult

/-- `GetAndLogProcDetails` on the `CreateInfo` of a creation. -/
def decideCreation (env : NotifyEnv) (createInfo : Pointer CreateInfo) :
    Callback (Pointer CreateInfo) := do
  let info ← createInfo.deref
  let creationStatus ← (Pointer.ofOption (getAndLogProcDetails env.arch env.processInformation
    env.processId info.imageFileName env.sendProcDetails info.creationStatus)).deref
  return .given { info with creationStatus := creationStatus }

/-- What `CreateInfo` is left as, and the version that is logged. -/
def drvProcessNotifyRoutineCommon (env : NotifyEnv) (create : Bool)
    (createInfo : Pointer CreateInfo) :
    Callback (Pointer CreateInfo × Option (ℕ × ℕ × ℕ × ℕ)) := do
  let decided ← if create then decideCreation env createInfo else pure createInfo
  return (decided, getAndLogClientVersion env.clientVersionInformation env.sendClientVersion)

def drvProcessNotifyRoutineEx (env : NotifyEnv) :
    Callback (Pointer CreateInfo × Option (ℕ × ℕ × ℕ × ℕ)) :=
  match env.createInfo with
  | some info => drvProcessNotifyRoutineCommon env true (.given info)
  | none => drvProcessNotifyRoutineCommon env false .null

/-! ## Pointers that are not given -/

inductive Invocation where
  | postOperation (env : PostOpEnv)
  | rfRegistryCallback (env : RegistryEnv)
  | drvProcessNotifyRoutineEx (env : NotifyEnv)

/-- No pointer is used that is not given, and whatever is obtained is released once. -/
def Completes {α : Type} (c : Callback α) : Prop :=
  ∃ x l, c Ledger.empty = .ok x l ∧ l.Settled

def Invocation.Careful : Invocation → Prop
  | .postOperation env => Completes (Callbacks.postOperation env)
  | .rfRegistryCallback env => Completes (Callbacks.rfRegistryCallback env)
  | .drvProcessNotifyRoutineEx env => Completes (Callbacks.drvProcessNotifyRoutineEx env)

/-- The file is looked at. -/
def PostOpEnv.Examined (env : PostOpEnv) : Prop :=
  ntSuccess env.ioStatus = true ∧ env.ioStatus ≠ statusReparse

/-- The callback goes on with a pointer that it was not given. -/
def Invocation.Misled : Invocation → Prop
  | .postOperation env =>
      env.Examined ∧ (ntSuccess env.fltGetFileNameInformation = false ∨ env.nameBuffer = none)
  | .rfRegistryCallback env =>
      env.operation = .regNtPreDeleteValueKey ∧ ntSuccess env.cmCallbackGetKeyObjectID = false
  | .drvProcessNotifyRoutineEx env => ∃ info, env.createInfo = some info ∧ info.imageFileName = none

theorem not_completes_of_error {α : Type} {c : Callback α} {e : Fault} {l : Ledger}
    (h : c Ledger.empty = .error e l) : ¬ Completes c := by
  rintro ⟨x, l', hok, _⟩
  rw [h] at hok
  cases hok

section PostOperation

variable {env : PostOpEnv}

theorem fltGetFileNameInformation_success (h : ntSuccess env.fltGetFileNameInformation = true)
    (l : Ledger) : fltGetFileNameInformation env l =
      .ok (.given ⟨l.created, .ofOption env.nameBuffer⟩) (l.create true).2 := by
  rw [fltGetFileNameInformation, h]
  exact rfl

theorem fltGetFileNameInformation_failure (h : ntSuccess env.fltGetFileNameInformation = false)
    (l : Ledger) : fltGetFileNameInformation env l = .ok .unset l := by
  rw [fltGetFileNameInformation, h]
  exact rfl

theorem PostOpEnv.skipped_iff (env : PostOpEnv) :
    (!ntSuccess env.ioStatus || env.ioStatus == statusReparse) = true ↔ ¬ env.Examined := by
  rw [Examined]
  cases ntSuccess env.ioStatus <;> simp

theorem postOperation_skipped (h : ¬ env.Examined) (l : Ledger) :
    postOperation env l = .ok .finishedProcessing l := by
  simp only [postOperation, env.skipped_iff.mpr h, if_true, pure, EStateM.pure]

theorem postOperation_examined (h : env.Examined) (l : Ledger) :
    postOperation env l = (do
      let fileNameInfo ← fltGetFileNameInformation env
      let info ← fileNameInfo.deref
      let _ ← info.nameBuffer.deref
      fltReleaseFileNameInformation fileNameInfo
      return .finishedProcessing : Callback FltPostopCallbackStatus) l := by
  rw [postOperation, if_neg (env.skipped_iff.not.mpr (not_not.mpr h))]

theorem postOperation_unset (h : env.Examined)
    (hname : ntSuccess env.fltGetFileNameInformation = false) (l : Ledger) :
    postOperation env l = .error .unset l := by
  rw [postOperation_examined h]
  simp only [bind, EStateM.bind, fltGetFileNameInformation_failure hname, Pointer.deref_unset]

theorem postOperation_null (h : env.Examined)
    (hname : ntSuccess env.fltGetFileNameInformation = true) (hbuffer : env.nameBuffer = none)
    (l : Ledger) : postOperation env l = .error .null (l.create true).2 := by
  rw [postOperation_examined h]
  simp only [bind, EStateM.bind, fltGetFileNameInformation_success hname, Pointer.deref_given,
    hbuffer, Pointer.ofOption, Pointer.deref_null]

theorem postOperation_given (h : env.Examined)
    (hname : ntSuccess env.fltGetFileNameInformation = true) {name : List UInt16}
    (hbuffer : env.nameBuffer = some name) (l : Ledger) :
    postOperation env l = .ok .finishedProcessing ((l.create true).2.close (some l.created)) := by
  rw [postOperation_examined h]
  simp only [bind, EStateM.bind, fltGetFileNameInformation_success hname, Pointer.deref_given,
    hbuffer, Pointer.ofOption, fltReleaseFileNameInformation]
  rfl

theorem careful_postOperation_iff (env : PostOpEnv) :
    Completes (postOperation env) ↔ ¬ (Invocation.postOperation env).Misled := by
  by_cases hexamined : env.Examined
  · cases hname : ntSuccess env.fltGetFileNameInformation with
    | false =>
        refine iff_of_false ?_ fun hgiven ↦ hgiven ⟨hexamined, Or.inl hname⟩
        exact not_completes_of_error (postOperation_unset hexamined hname _)
    | true =>
        cases hbuffer : env.nameBuffer with
        | none =>
            refine iff_of_false ?_ fun hgiven ↦ hgiven ⟨hexamined, Or.inr hbuffer⟩
            exact not_completes_of_error (postOperation_null hexamined hname hbuffer _)
        | some name =>
            refine iff_of_true ⟨_, _, postOperation_given hexamined hname hbuffer _,
              Ledger.settled_empty.create_close⟩ ?_
            rintro ⟨_, hfailed | hnull⟩
            · exact Bool.false_ne_true (hfailed.symm.trans hname)
            · exact Option.some_ne_none name (hbuffer.symm.trans hnull)
  · refine iff_of_true ⟨_, _, postOperation_skipped hexamined _, Ledger.settled_empty⟩ ?_
    exact fun hmisled ↦ hexamined hmisled.1

end PostOperation

theorem careful_rfRegistryCallback_iff (env : RegistryEnv) :
    Completes (rfRegistryCallback env) ↔ ¬ (Invocation.rfRegistryCallback env).Misled := by
  cases hclass : env.operation with
  | regNtPreDeleteValueKey =>
      cases hname : ntSuccess env.cmCallbackGetKeyObjectID with
      | false =>
          refine iff_of_false ?_ fun hgiven ↦ hgiven ⟨hclass, hname⟩
          apply not_completes_of_error (e := .unset) (l := Ledger.empty)
          simp [rfRegistryCallback, hclass, cmCallbackGetKeyObjectID, hname, bind, EStateM.bind]
      | true =>
          refine iff_of_true ⟨statusSuccess, Ledger.empty, ?_, Ledger.settled_empty⟩ ?_
          · simp [rfRegistryCallback, hclass, cmCallbackGetKeyObjectID, hname, bind, EStateM.bind]
            rfl
          · exact fun hmisled ↦ Bool.false_ne_true (hmisled.2.symm.trans hname)
  | _ =>
      refine iff_of_true ⟨statusSuccess, Ledger.empty, ?_, Ledger.settled_empty⟩ ?_
      · rw [rfRegistryCallback, hclass]
        exact rfl
      · rintro ⟨hdelete, _⟩
        rw [hclass] at hdelete
        cases hdelete

section Notify

variable {env : NotifyEnv} {info : CreateInfo}

theorem drvProcessNotifyRoutineEx_exit (h : env.createInfo = none) (l : Ledger) :
    drvProcessNotifyRoutineEx env l =
      .ok (.null, getAndLogClientVersion env.clientVersionInformation env.sendClientVersion) l := by
  rw [drvProcessNotifyRoutineEx, h]
  exact rfl

theorem drvProcessNotifyRoutineEx_creation (h : env.createInfo = some info) (l : Ledger) :
    drvProcessNotifyRoutineEx env l =
      match decideCreation env (.given info) l with
      | .ok decided l' => .ok (decided,
          getAndLogClientVersion env.clientVersionInformation env.sendClientVersion) l'
      | .error fault l' => .error fault l' := by
  rw [drvProcessNotifyRoutineEx, h]
  simp only [drvProcessNotifyRoutineCommon, if_true, bind, EStateM.bind, pure, EStateM.pure]
  cases decideCreation env (.given info) l <;> rfl

theorem decideCreation_null (h : info.imageFileName = none) (l : Ledger) :
    decideCreation env (.given info) l = .error .null l := by
  simp only [decideCreation, bind, EStateM.bind, Pointer.deref_given, getAndLogProcDetails, h,
    Option.map_none, Pointer.ofOption, Pointer.deref_null]

theorem decideCreation_given {name : UnicodeString} (h : info.imageFileName = some name)
    (l : Ledger) : ∃ info', decideCreation env (.given info) l = .ok (.given info') l := by
  simp only [decideCreation, bind, EStateM.bind, Pointer.deref_given, getAndLogProcDetails, h,
    Option.map_some, Pointer.ofOption]
  exact ⟨_, rfl⟩

theorem careful_drvProcessNotifyRoutineEx_iff (env : NotifyEnv) :
    Completes (drvProcessNotifyRoutineEx env) ↔
      ¬ (Invocation.drvProcessNotifyRoutineEx env).Misled := by
  cases hinfo : env.createInfo with
  | none =>
      refine iff_of_true ⟨_, _, drvProcessNotifyRoutineEx_exit hinfo _, Ledger.settled_empty⟩ ?_
      rintro ⟨info, hsome, _⟩
      exact Option.some_ne_none info (hsome.symm.trans hinfo)
  | some info =>
      have hcall := drvProcessNotifyRoutineEx_creation hinfo Ledger.empty
      cases hname : info.imageFileName with
      | none =>
          rw [decideCreation_null hname] at hcall
          exact iff_of_false (not_completes_of_error hcall) fun h ↦ h ⟨info, hinfo, hname⟩
      | some name =>
          obtain ⟨info', hdecided⟩ := @decideCreation_given env _ _ hname Ledger.empty
          rw [hdecided] at hcall
          refine iff_of_true ⟨_, _, hcall, Ledger.settled_empty⟩ ?_
          rintro ⟨info'', hsome, hnull⟩
          obtain rfl := Option.some.inj (hinfo.symm.trans hsome)
          exact Option.some_ne_none name (hname.symm.trans hnull)

end Notify

/-- A callback uses only what it was given, and releases what it has obtained, exactly
when no call that was to set a pointer fails and no pointer that is read is `NULL`. -/
theorem careful_iff_not_misled (i : Invocation) : i.Careful ↔ ¬ i.Misled := by
  cases i with
  | postOperation env => exact careful_postOperation_iff env
  | rfRegistryCallback env => exact careful_rfRegistryCallback_iff env
  | drvProcessNotifyRoutineEx env => exact careful_drvProcessNotifyRoutineEx_iff env

/-- A file is opened, and its name cannot be had. -/
def nameless : PostOpEnv := ⟨statusSuccess, statusObjectNameNotFound, some []⟩

theorem not_careful_nameless : ¬ ∀ i : Invocation, i.Careful := by
  intro hall
  have hgiven := (careful_postOperation_iff nameless).mp (hall (.postOperation nameless))
  exact hgiven ⟨⟨ntSuccess_statusSuccess, by decide⟩, Or.inl (by decide)⟩

end NtDriver.Callbacks
