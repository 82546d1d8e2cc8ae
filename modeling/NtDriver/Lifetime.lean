import NtDriver.Lib.Transition
import NtDriver.DriverEntry
import NtDriver.ReceiveMessage

/-!
# The life of the driver

One load, any history of clients and their messages, and one unload.  The image
may leave memory after a failed `DriverEntry` and after `RfUnload`; whatever is
registered then refers to freed code.
-/

namespace NtDriver.Lifetime

open Transition Memory Driver

inductive Stage where
  | notLoaded
  | entryFailed
  | loaded
  | driverUnloaded
  | unloaded
  deriving DecidableEq

structure State where
  stage : Stage
  driver : Driver

inductive Event where
  | driverEntry (env : EntryEnv)
  | connect (p : ℕ)
  | disconnect
  | message (env : ReceiveMessage.Env) (req : ReceiveMessage.Request) (user : Mem)
  | driverUnload
  | rfUnload

/-- A message of the client changes the registration only. -/
def receive (env : ReceiveMessage.Env) (req : ReceiveMessage.Request) (user : Mem)
    (d : Driver) : Driver :=
  let out := ReceiveMessage.clientReceiveMessage env req (ReceiveMessage.start user d.notify)
  { d with notify := out.2.notify }

def next (s : State) : Event → Option State
  | .driverEntry env =>
      if s.stage = .notLoaded then
        let (status, d) := driverEntry env
        some ⟨if ntSuccess status then .loaded else .entryFailed, d⟩
      else none
  | .connect p =>
      if s.stage = .loaded ∧ s.driver.serverPort ∧ s.driver.clientPort = none then
        some { s with driver := clientConnectedCallback p { s.driver with clientPort := some p } }
      else none
  | .disconnect =>
      if s.stage = .loaded ∧ s.driver.clientPort.isSome then
        some { s with driver := clientDisconnectCallback s.driver }
      else none
  | .message env req user =>
      if s.stage = .loaded ∧ s.driver.clientPort.isSome then
        some { s with driver := receive env req user s.driver }
      else none
  | .driverUnload =>
      if s.stage = .loaded then some ⟨.driverUnloaded, driverUnload s.driver⟩ else none
  | .rfUnload =>
      if s.stage = .driverUnloaded then some ⟨.unloaded, rfUnload s.driver⟩ else none

def initialState : State := ⟨.notLoaded, Driver.initial⟩

def lifecycle : System State Event := .ofNext (· = initialState) next

def MayLeave (s : State) : Prop := s.stage = .entryFailed ∨ s.stage = .unloaded

structure Clean (d : Driver) : Prop where
  notify : d.notify.registered = false
  registryCallback : d.registryCallback = false
  filter : d.filter = false
  serverPort : d.serverPort = false
  clientPort : d.clientPort = none

/-- The event does not leave a callback behind: `DriverEntry` does not fail at
`FltStartFiltering` with the registry callback in place, and the notify routine
has been disabled by the time of the unload. -/
def LeavesNone (s : State) : Event → Prop
  | .driverEntry env =>
      ntSuccess env.cmRegisterCallbackEx = true → ntSuccess env.fltStartFiltering = true
  | .driverUnload => s.driver.notify.registered = false
  | _ => True

instance (s : State) (e : Event) : Decidable (LeavesNone s e) := by
  cases e <;> unfold LeavesNone <;> infer_instance

/-! ## `DriverEntry` -/

/-- What the globals record is what is registered or open. -/
structure Tracked (d : Driver) : Prop where
  registryCallback : d.registryCallback = d.gCmCookie
  filter : d.filter = d.filterHandle
  serverPort : d.serverPort = d.dllConnServerPort
  clientPort : d.clientPort = d.dllConnClientPort

theorem tracked_initial : Tracked Driver.initial := ⟨rfl, rfl, rfl, rfl⟩

theorem Tracked.fltRegisterFilter {d : Driver} (h : Tracked d) (status : NtStatus) :
    Tracked (fltRegisterFilter status d) := by
  unfold Driver.fltRegisterFilter
  split
  · exact { h with filter := rfl }
  · exact h

theorem Tracked.cmRegisterCallbackEx {d : Driver} (h : Tracked d) (status : NtStatus) :
    Tracked (cmRegisterCallbackEx status d) := by
  unfold Driver.cmRegisterCallbackEx
  split
  · exact { h with registryCallback := rfl }
  · exact h

theorem Tracked.initializeCommunication {d : Driver} (h : Tracked d) (env : EntryEnv) :
    Tracked (initializeCommunication env d).2 := by
  unfold Driver.initializeCommunication
  split_ifs
  · exact h
  · exact h
  · exact { h with }
  · exact { h with serverPort := rfl }

theorem Tracked.withCalls {d : Driver} (h : Tracked d) (calls : List FltCall) :
    Tracked { d with calls := calls } := { h with }

theorem tracked_driverEntry (env : EntryEnv) (h : ntSuccess (driverEntry env).1 = true) :
    Tracked (driverEntry env).2 := by
  have hcm := (tracked_initial.fltRegisterFilter env.fltRegisterFilter).cmRegisterCallbackEx
    env.cmRegisterCallbackEx
  unfold driverEntry at h ⊢
  split_ifs at h ⊢ with hcmOk hstart
  · simp at h
  · exact (hcm.withCalls _).initializeCommunication env
  · exact hcm.initializeCommunication env

theorem driverEntry_failure (env : EntryEnv) (h : ntSuccess (driverEntry env).1 = false) :
    (ntSuccess env.cmRegisterCallbackEx = true ∧ ntSuccess env.fltStartFiltering = false) ∧
      (driverEntry env).2.registryCallback = true := by
  unfold driverEntry at h ⊢
  split_ifs at h ⊢ with hcm hstart
  · refine ⟨⟨hcm, by simpa using hstart⟩, ?_⟩
    simp [Driver.fltUnregisterFilter, Driver.cmRegisterCallbackEx, hcm]
  · simp at h
  · simp at h

/-! ## Clients -/

theorem Tracked.connect {d : Driver} (h : Tracked d) (p : ℕ) :
    Tracked (clientConnectedCallback p { d with clientPort := some p }) :=
  { h with clientPort := rfl }

theorem Tracked.disconnect {d : Driver} (h : Tracked d) :
    Tracked (clientDisconnectCallback d) :=
  { h with clientPort := if_pos h.clientPort }

theorem Tracked.receive {d : Driver} (h : Tracked d) (env : ReceiveMessage.Env)
    (req : ReceiveMessage.Request) (user : Mem) : Tracked (receive env req user d) := { h with }

/-! ## Unload -/

structure Unloading (d : Driver) : Prop where
  registryCallback : d.registryCallback = d.gCmCookie
  notify : d.notify.registered = false
  filter : d.filter = false
  serverPort : d.serverPort = false
  clientPort : d.clientPort = none

theorem uninitializeCommunication_frame (d : Driver) :
    (uninitializeCommunication d).notify = d.notify ∧
      (uninitializeCommunication d).registryCallback = d.registryCallback ∧
      (uninitializeCommunication d).gCmCookie = d.gCmCookie ∧
      (uninitializeCommunication d).filter = d.filter ∧
      (uninitializeCommunication d).filterHandle = d.filterHandle := by
  by_cases hport : d.dllConnServerPort = true <;>
    simp [uninitializeCommunication, fltCloseClientPort, hport]

theorem Tracked.uninitializeCommunication {d : Driver} (h : Tracked d) :
    (uninitializeCommunication d).serverPort = false ∧
      (uninitializeCommunication d).clientPort = none := by
  by_cases hport : d.dllConnServerPort = true <;>
    simp [Driver.uninitializeCommunication, fltCloseClientPort, hport, h.clientPort, h.serverPort]

theorem Tracked.driverUnload {d : Driver} (h : Tracked d)
    (hnotify : d.notify.registered = false) : Unloading (driverUnload d) := by
  obtain ⟨hnotify', hregistry, hcookie, hfilter, hhandle⟩ := uninitializeCommunication_frame d
  obtain ⟨hserver, hclient⟩ := h.uninitializeCommunication
  exact {
    registryCallback := hregistry.trans (h.registryCallback.trans hcookie.symm)
    notify := by rw [Driver.driverUnload, fltUnregisterFilter, hnotify', hnotify]
    filter := by simp [Driver.driverUnload, fltUnregisterFilter, hfilter, hhandle, h.filter]
    serverPort := hserver
    clientPort := hclient }

theorem Unloading.rfUnload {d : Driver} (h : Unloading d) : Clean (rfUnload d) where
  notify := h.notify
  registryCallback := by simp [Driver.rfUnload, h.registryCallback]
  filter := h.filter
  serverPort := h.serverPort
  clientPort := h.clientPort

/-! ## Whole runs -/

def Inv (s : State) : Prop :=
  match s.stage with
  | .notLoaded => True
  | .entryFailed => False
  | .loaded => Tracked s.driver
  | .driverUnloaded => Unloading s.driver
  | .unloaded => Clean s.driver

/-- Something registered is out of reach of the routines that are left to run. -/
def Lost (s : State) : Prop :=
  match s.stage with
  | .notLoaded | .loaded => False
  | .entryFailed => s.driver.registryCallback = true
  | .driverUnloaded | .unloaded => s.driver.notify.registered = true

theorem inv_next {s t : State} {e : Event} (hs : Inv s) (h : next s e = some t)
    (hleaves : LeavesNone s e) : Inv t := by
  cases e with
  | driverEntry env =>
      obtain ⟨_, rfl⟩ := by simpa [next] using h
      cases hok : ntSuccess (driverEntry env).1 with
      | true => simpa [Inv, hok] using tracked_driverEntry env hok
      | false =>
          obtain ⟨⟨hcm, hstart⟩, _⟩ := driverEntry_failure env hok
          exact absurd (hleaves hcm) (by simp [hstart])
  | connect p =>
      obtain ⟨⟨hstage, _⟩, rfl⟩ := by simpa [next] using h
      simp only [Inv, hstage] at hs ⊢
      exact hs.connect p
  | disconnect =>
      obtain ⟨⟨hstage, _⟩, rfl⟩ := by simpa [next] using h
      simp only [Inv, hstage] at hs ⊢
      exact hs.disconnect
  | message env req user =>
      obtain ⟨⟨hstage, _⟩, rfl⟩ := by simpa [next] using h
      simp only [Inv, hstage] at hs ⊢
      exact hs.receive env req user
  | driverUnload =>
      obtain ⟨hstage, rfl⟩ := by simpa [next] using h
      simp only [Inv, hstage] at hs ⊢
      exact hs.driverUnload hleaves
  | rfUnload =>
      obtain ⟨hstage, rfl⟩ := by simpa [next] using h
      simp only [Inv, hstage] at hs ⊢
      exact hs.rfUnload

theorem lost_of_not_leavesNone {s t : State} {e : Event} (h : next s e = some t)
    (hleaves : ¬ LeavesNone s e) : Lost t := by
  cases e with
  | driverEntry env =>
      obtain ⟨_, rfl⟩ := by simpa [next] using h
      obtain ⟨hcm, hstart⟩ := by simpa [LeavesNone] using hleaves
      have hentry : ntSuccess (driverEntry env).1 = false := by
        simp [driverEntry, hcm, hstart]
      simpa [Lost, hentry] using (driverEntry_failure env hentry).2
  | driverUnload =>
      obtain ⟨_, rfl⟩ := by simpa [next] using h
      have hnotify : s.driver.notify.registered = true := by simpa [LeavesNone] using hleaves
      exact (congrArg ProcNotify.registered (uninitializeCommunication_frame _).1).trans hnotify
  | _ => exact absurd trivial hleaves

theorem lost_next {s t : State} {e : Event} (hs : Lost s) (h : next s e = some t) : Lost t := by
  cases e with
  | rfUnload =>
      obtain ⟨hstage, rfl⟩ := by simpa [next] using h
      have hnotify : s.driver.notify.registered = true := by simpa [Lost, hstage] using hs
      exact hnotify
  | driverEntry env =>
      obtain ⟨hstage, _⟩ := by simpa [next] using h
      simp [Lost, hstage] at hs
  | connect p =>
      obtain ⟨⟨hstage, _⟩, _⟩ := by simpa [next] using h
      simp [Lost, hstage] at hs
  | disconnect =>
      obtain ⟨⟨hstage, _⟩, _⟩ := by simpa [next] using h
      simp [Lost, hstage] at hs
  | message env req user =>
      obtain ⟨⟨hstage, _⟩, _⟩ := by simpa [next] using h
      simp [Lost, hstage] at hs
  | driverUnload =>
      obtain ⟨hstage, _⟩ := by simpa [next] using h
      simp [Lost, hstage] at hs

theorem not_clean_of_lost {s : State} (hs : Lost s) (hleave : MayLeave s) : ¬ Clean s.driver := by
  intro hclean
  rcases hleave with hstage | hstage
  · simp [Lost, hstage, hclean.registryCallback] at hs
  · simp [Lost, hstage, hclean.notify] at hs

/-- When the image may leave memory, nothing is registered or open exactly when
no event of the run has left a callback behind. -/
theorem clean_iff_leavesNone {es : List Event} {s : State}
    (hrun : lifecycle.Run initialState es s) (hleave : MayLeave s) :
    Clean s.driver ↔ (lifecycle.restrict LeavesNone).Run initialState es s := by
  constructor
  · intro hclean
    have hor := hrun.restrict_or (I := fun _ ↦ True) (G := LeavesNone)
      (fun _ _ _ _ _ ↦ trivial) (fun _ _ _ _ h hleaves ↦ lost_of_not_leavesNone h hleaves)
      (fun _ _ _ _ hs h ↦ lost_next hs h) trivial
    exact hor.resolve_right fun hlost ↦ not_clean_of_lost hlost hleave hclean
  · intro hrun'
    have hinv : Inv s := by
      apply hrun'.invariant _ trivial
      rintro s e t hs ⟨h, hleaves⟩
      exact inv_next hs h hleaves
    rcases hleave with hstage | hstage
    · simp [Inv, hstage] at hinv
    · simpa [Inv, hstage] using hinv

def entrySucceeds : EntryEnv :=
  ⟨statusSuccess, statusSuccess, statusSuccess, statusSuccess, statusSuccess⟩

theorem clean_loadUnload : ∃ s, lifecycle.Run initialState
      [.driverEntry entrySucceeds, .connect 7, .driverUnload, .rfUnload] s ∧ MayLeave s ∧
    (Clean s.driver ↔ (lifecycle.restrict LeavesNone).Run initialState
      [.driverEntry entrySucceeds, .connect 7, .driverUnload, .rfUnload] s) := by
  obtain ⟨s, hexec, hstage⟩ : ∃ s, System.exec next initialState
      [.driverEntry entrySucceeds, .connect 7, .driverUnload, .rfUnload] = some s ∧
        s.stage = .unloaded := ⟨_, rfl, rfl⟩
  have hrun : lifecycle.Run initialState _ s := System.Run.of_exec hexec
  exact ⟨s, hrun, Or.inr hstage, clean_iff_leavesNone hrun (Or.inr hstage)⟩

/-- The client enables monitoring and never disables it. -/
theorem not_clean_enabled : ¬ ∀ es s, lifecycle.Run initialState es s → MayLeave s →
    Clean s.driver := by
  intro hall
  have hserved : ReceiveMessage.Request.Served ⟨0x1000, 8, 0x1000, 8⟩ ReceiveMessage.enableAt
      .cmdEnableProcmon 0xB00BB00B := ⟨by decide, rfl, rfl⟩
  obtain ⟨s, hexec, hstage, hnotify⟩ : ∃ s, System.exec next initialState
      [.driverEntry entrySucceeds, .connect 7,
        .message (ReceiveMessage.faultsAt fun _ ↦ false) ⟨0x1000, 8, 0x1000, 8⟩
          ReceiveMessage.enableAt] = some s ∧
        s.stage = .loaded ∧ s.driver.notify.registered = true := by
    refine ⟨_, rfl, rfl, ?_⟩
    simp only [receive]
    rw [ReceiveMessage.receive_of_served rfl hserved]
    rfl
  have hrun : lifecycle.Run initialState _ s := System.Run.of_exec hexec
  have hunload : next s .driverUnload = some ⟨.driverUnloaded, driverUnload s.driver⟩ := by
    simp [next, hstage]
  have hunload' : next ⟨.driverUnloaded, driverUnload s.driver⟩ .rfUnload =
      some ⟨.unloaded, rfUnload (driverUnload s.driver)⟩ := rfl
  have hlost := lost_of_not_leavesNone hunload (by simp [LeavesNone, hnotify])
  exact not_clean_of_lost (lost_next hlost hunload') (Or.inr rfl)
    (hall _ _ ((hrun.snoc hunload).snoc hunload') (Or.inr rfl))

end NtDriver.Lifetime
