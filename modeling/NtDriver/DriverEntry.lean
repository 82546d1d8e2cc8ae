import NtDriver.ProcNotify

/-!
# Load and unload of the driver

`DriverEntry`, `InitializeCommunication`, `DriverUnload` and `RfUnload` over the
driver's globals and the kernel's record of what is registered or open.
Assertions are compiled out.
-/

namespace NtDriver

/-- The calls that take `gDrv.FilterHandle`, with whether it was non-`NULL`. -/
inductive FltCall where
  | fltStartFiltering (filterHandle : Bool)
  | fltUnregisterFilter (filterHandle : Bool)
  | fltCreateCommunicationPort (filterHandle : Bool)
  deriving DecidableEq

def FltCall.filterHandle : FltCall → Bool
  | .fltStartFiltering filterHandle => filterHandle
  | .fltUnregisterFilter filterHandle => filterHandle
  | .fltCreateCommunicationPort filterHandle => filterHandle

/-- What is registered or open, and the globals that refer to it. -/
structure Driver where
  notify : ProcNotify
  registryCallback : Bool
  filter : Bool
  serverPort : Bool
  clientPort : Option ℕ
  filterHandle : Bool
  gCmCookie : Bool
  dllConnServerPort : Bool
  dllConnClientPort : Option ℕ
  calls : List FltCall
  deriving DecidableEq

namespace Driver

def initial : Driver :=
  ⟨ProcNotify.initial, false, false, false, none, false, false, false, none, []⟩

structure EntryEnv where
  fltRegisterFilter : NtStatus
  cmRegisterCallbackEx : NtStatus
  fltStartFiltering : NtStatus
  fltBuildDefaultSecurityDescriptor : NtStatus
  fltCreateCommunicationPort : NtStatus

def fltRegisterFilter (status : NtStatus) (d : Driver) : Driver :=
  if ntSuccess status then { d with filter := true, filterHandle := true } else d

def cmRegisterCallbackEx (status : NtStatus) (d : Driver) : Driver :=
  if ntSuccess status then { d with registryCallback := true, gCmCookie := true } else d

def fltUnregisterFilter (d : Driver) : Driver :=
  { d with
    filter := d.filter && !d.filterHandle
    calls := d.calls ++ [.fltUnregisterFilter d.filterHandle] }

def initializeCommunication (env : EntryEnv) (d : Driver) : NtStatus × Driver :=
  if d.dllConnServerPort then (statusObjectNameExists, d)
  else if !ntSuccess env.fltBuildDefaultSecurityDescriptor then
    (env.fltBuildDefaultSecurityDescriptor, d)
  else
    let d := { d with calls := d.calls ++ [.fltCreateCommunicationPort d.filterHandle] }
    if !ntSuccess env.fltCreateCommunicationPort then (env.fltCreateCommunicationPort, d)
    else (statusSuccess, { d with serverPort := true, dllConnServerPort := true })

def driverEntry (env : EntryEnv) : NtStatus × Driver :=
  let d := fltRegisterFilter env.fltRegisterFilter initial
  let d := cmRegisterCallbackEx env.cmRegisterCallbackEx d
  if ntSuccess env.cmRegisterCallbackEx then
    let d := { d with calls := d.calls ++ [.fltStartFiltering d.filterHandle] }
    if !ntSuccess env.fltStartFiltering then (statusUnsuccessful, fltUnregisterFilter d)
    else (statusSuccess, (initializeCommunication env d).2)
  else (statusSuccess, (initializeCommunication env d).2)

def fltCloseClientPort (port : Option ℕ) (d : Driver) : Driver :=
  { d with clientPort := if d.clientPort = port then none else d.clientPort }

def clientConnectedCallback (p : ℕ) (d : Driver) : Driver :=
  { d with dllConnClientPort := some p }

def clientDisconnectCallback (d : Driver) : Driver :=
  { fltCloseClientPort d.dllConnClientPort d with dllConnClientPort := none }

def uninitializeCommunication (d : Driver) : Driver :=
  let d := if d.dllConnServerPort then
    { d with serverPort := false, dllConnServerPort := false } else d
  let clientPort := d.dllConnClientPort
  fltCloseClientPort clientPort { d with dllConnClientPort := none }

def driverUnload (d : Driver) : Driver := fltUnregisterFilter (uninitializeCommunication d)

/-- `RfUnload`, whose `CmUnRegisterCallback` takes the cookie of the registration. -/
def rfUnload (d : Driver) : Driver :=
  { d with registryCallback := d.registryCallback && !d.gCmCookie }

/-! ## What a success of `DriverEntry` says -/

structure Working (env : EntryEnv) (d : Driver) : Prop where
  filter : d.filter = true
  registryCallback : d.registryCallback = true
  started : (∃ filterHandle, .fltStartFiltering filterHandle ∈ d.calls) ∧
    ntSuccess env.fltStartFiltering = true
  serverPort : d.serverPort = true

/-- Success is returned for a working driver and for no other, and every call is made
with the handle of the registered filter. -/
structure ReportsWorking (env : EntryEnv) : Prop where
  status : (driverEntry env).1 = statusSuccess ↔ Working env (driverEntry env).2
  calls : ∀ c ∈ (driverEntry env).2.calls, c.filterHandle = true

/-- Both registrations succeed, and filtering is not started without the port. -/
structure Enters (env : EntryEnv) : Prop where
  fltRegisterFilter : ntSuccess env.fltRegisterFilter = true
  cmRegisterCallbackEx : ntSuccess env.cmRegisterCallbackEx = true
  port : ntSuccess env.fltStartFiltering = true →
    ntSuccess env.fltBuildDefaultSecurityDescriptor = true ∧
      ntSuccess env.fltCreateCommunicationPort = true

section Entry

variable {env : EntryEnv}

/-- The driver behind both registrations. -/
def entered (env : EntryEnv) : Driver :=
  cmRegisterCallbackEx env.cmRegisterCallbackEx (fltRegisterFilter env.fltRegisterFilter initial)

def fltStartFiltering (d : Driver) : Driver :=
  { d with calls := d.calls ++ [.fltStartFiltering d.filterHandle] }

theorem entered_eq : entered env = { initial with
    filter := ntSuccess env.fltRegisterFilter
    filterHandle := ntSuccess env.fltRegisterFilter
    registryCallback := ntSuccess env.cmRegisterCallbackEx
    gCmCookie := ntSuccess env.cmRegisterCallbackEx } := by
  unfold entered fltRegisterFilter cmRegisterCallbackEx
  cases ntSuccess env.fltRegisterFilter <;> cases ntSuccess env.cmRegisterCallbackEx <;> rfl

theorem initializeCommunication_eq {d : Driver} (h : d.dllConnServerPort = false) :
    (initializeCommunication env d).2 =
      if ntSuccess env.fltBuildDefaultSecurityDescriptor then
        { d with
          calls := d.calls ++ [.fltCreateCommunicationPort d.filterHandle]
          serverPort := d.serverPort || ntSuccess env.fltCreateCommunicationPort
          dllConnServerPort := ntSuccess env.fltCreateCommunicationPort }
      else d := by
  unfold initializeCommunication
  cases hsec : ntSuccess env.fltBuildDefaultSecurityDescriptor <;>
    cases hport : ntSuccess env.fltCreateCommunicationPort <;> simp [h]

theorem driverEntry_noCallback (hcm : ntSuccess env.cmRegisterCallbackEx = false) :
    driverEntry env = (statusSuccess, (initializeCommunication env (entered env)).2) := by
  simp [driverEntry, entered, hcm]

theorem driverEntry_notStarted (hcm : ntSuccess env.cmRegisterCallbackEx = true)
    (hstart : ntSuccess env.fltStartFiltering = false) :
    driverEntry env =
      (statusUnsuccessful, fltUnregisterFilter (fltStartFiltering (entered env))) := by
  simp [driverEntry, entered, fltStartFiltering, hcm, hstart]

theorem driverEntry_started (hcm : ntSuccess env.cmRegisterCallbackEx = true)
    (hstart : ntSuccess env.fltStartFiltering = true) :
    driverEntry env =
      (statusSuccess, (initializeCommunication env (fltStartFiltering (entered env))).2) := by
  simp [driverEntry, entered, fltStartFiltering, hcm, hstart]

/-- Without the registry callback the driver is not working, and success is reported. -/
theorem not_reportsWorking_noCallback (hcm : ntSuccess env.cmRegisterCallbackEx = false) :
    ¬ ReportsWorking env := by
  intro h
  have hworking : Working env (driverEntry env).2 :=
    h.status.mp (by rw [driverEntry_noCallback hcm])
  have hcallback := hworking.registryCallback
  rw [driverEntry_noCallback hcm, initializeCommunication_eq (by rw [entered_eq]; rfl)] at hcallback
  split_ifs at hcallback <;> simp [entered_eq, hcm] at hcallback

theorem reportsWorking_notStarted_iff (hcm : ntSuccess env.cmRegisterCallbackEx = true)
    (hstart : ntSuccess env.fltStartFiltering = false) :
    ReportsWorking env ↔ ntSuccess env.fltRegisterFilter = true := by
  have hcalls : (driverEntry env).2.calls =
      [.fltStartFiltering (ntSuccess env.fltRegisterFilter),
        .fltUnregisterFilter (ntSuccess env.fltRegisterFilter)] := by
    rw [driverEntry_notStarted hcm hstart]
    simp [fltUnregisterFilter, fltStartFiltering, entered_eq, initial]
  constructor
  · intro h
    exact h.calls (.fltStartFiltering _) (hcalls ▸ List.mem_cons_self)
  · intro hfilter
    refine ⟨iff_of_false ?_ ?_, ?_⟩
    · rw [driverEntry_notStarted hcm hstart]
      exact statusUnsuccessful_ne
    · exact fun hworking ↦ Bool.false_ne_true (hstart.symm.trans hworking.started.2)
    · simp [hcalls, FltCall.filterHandle, hfilter]

theorem reportsWorking_started_iff (hcm : ntSuccess env.cmRegisterCallbackEx = true)
    (hstart : ntSuccess env.fltStartFiltering = true) :
    ReportsWorking env ↔ ntSuccess env.fltRegisterFilter = true ∧
      ntSuccess env.fltBuildDefaultSecurityDescriptor = true ∧
        ntSuccess env.fltCreateCommunicationPort = true := by
  have hdriver : (driverEntry env).2 = (initializeCommunication env
      (fltStartFiltering (entered env))).2 := by rw [driverEntry_started hcm hstart]
  rw [initializeCommunication_eq (by rw [entered_eq]; rfl)] at hdriver
  constructor
  · intro h
    have hworking : Working env (driverEntry env).2 :=
      h.status.mp (by rw [driverEntry_started hcm hstart])
    have hport := hworking.serverPort
    have hfilter := hworking.filter
    rw [hdriver] at hport hfilter
    split_ifs at hport hfilter with hsec
    · exact ⟨by simpa [fltStartFiltering, entered_eq] using hfilter, hsec,
        by simpa [fltStartFiltering, entered_eq, initial] using hport⟩
    · simp [fltStartFiltering, entered_eq, initial] at hport
  · rintro ⟨hfilter, hsec, hport⟩
    rw [if_pos hsec] at hdriver
    have hcalls : (driverEntry env).2.calls =
        [.fltStartFiltering true, .fltCreateCommunicationPort true] := by
      rw [hdriver]
      simp [fltStartFiltering, entered_eq, initial, hfilter]
    refine ⟨iff_of_true ?_ ⟨?_, ?_, ⟨⟨true, ?_⟩, hstart⟩, ?_⟩, ?_⟩
    · rw [driverEntry_started hcm hstart]
    · rw [hdriver]
      simpa [fltStartFiltering, entered_eq] using hfilter
    · rw [hdriver]
      simpa [fltStartFiltering, entered_eq] using hcm
    · rw [hcalls]
      exact List.mem_cons_self
    · rw [hdriver]
      simpa using Or.inr hport
    · simp [hcalls, FltCall.filterHandle]

/-- `DriverEntry` reports a working driver, and only such a one, exactly when both
registrations succeed and a filter that is started gets its port. -/
theorem reportsWorking_iff_enters (env : EntryEnv) : ReportsWorking env ↔ Enters env := by
  cases hcm : ntSuccess env.cmRegisterCallbackEx with
  | false =>
      apply iff_of_false (not_reportsWorking_noCallback hcm)
      exact fun h ↦ Bool.false_ne_true (hcm.symm.trans h.cmRegisterCallbackEx)
  | true =>
      cases hstart : ntSuccess env.fltStartFiltering with
      | false =>
          rw [reportsWorking_notStarted_iff hcm hstart]
          constructor
          · intro hfilter
            exact ⟨hfilter, hcm, fun h ↦ absurd (hstart.symm.trans h) Bool.false_ne_true⟩
          · exact Enters.fltRegisterFilter
      | true =>
          rw [reportsWorking_started_iff hcm hstart]
          exact ⟨fun ⟨hfilter, hports⟩ ↦ ⟨hfilter, hcm, fun _ ↦ hports⟩,
            fun h ↦ ⟨h.fltRegisterFilter, h.port hstart⟩⟩

end Entry

/-- The port's name is taken, and everything else succeeds. -/
def portTaken : EntryEnv :=
  ⟨statusSuccess, statusSuccess, statusSuccess, statusSuccess, statusObjectNameCollision⟩

theorem not_reportsWorking_portTaken : ¬ ∀ env, ReportsWorking env := by
  intro hall
  have hports := (@reportsWorking_started_iff portTaken (by decide) (by decide)).mp
    (hall portTaken)
  exact absurd hports.2.2 (by decide)

end Driver

end NtDriver
