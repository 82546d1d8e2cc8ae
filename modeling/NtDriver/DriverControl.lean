import NtDriver.Lib.Transition
import NtDriver.Status
import Mathlib.Data.Finset.Basic

/-!
# Starting and stopping the driver

`DexQueryDriver`, `DexStopDriver` and `DexStartDriver` exist twice in the DLL, once
behind C names and once behind C++ names.  Each function names the filter on its
own, and the two copies of `DexStopDriver` name different ones.
-/

namespace NtDriver.DriverControl

open Transition

abbrev FilterName := List Char

/-- Names of filters are compared without case. -/
def filterName (name : String) : FilterName := name.toList.map Char.toUpper

inductive FilterOp where
  | filterLoad (name : FilterName)
  | filterUnload (name : FilterName)
  deriving DecidableEq

def FilterOp.name : FilterOp → FilterName
  | .filterLoad name => name
  | .filterUnload name => name

/-- The loaded filters, with the loads and unloads that have taken effect. -/
structure FilterManager where
  loaded : Finset FilterName
  effects : List FilterOp

/-- Which of the calls succeed, where they can. -/
structure Outcomes where
  regOpenKeyEx : Bool
  filterUnload : Bool
  filterLoad : Bool

def filterCreate (name : String) (m : FilterManager) : Bool :=
  decide (filterName name ∈ m.loaded)

def filterUnload (name : String) (succeeds : Bool) (m : FilterManager) : Bool × FilterManager :=
  if filterName name ∈ m.loaded ∧ succeeds then
    (true, ⟨m.loaded.erase (filterName name), m.effects ++ [.filterUnload (filterName name)]⟩)
  else (false, m)

def filterLoad (name : String) (succeeds : Bool) (m : FilterManager) : Bool × FilterManager :=
  if filterName name ∉ m.loaded ∧ succeeds then
    (true, ⟨insert (filterName name) m.loaded, m.effects ++ [.filterLoad (filterName name)]⟩)
  else (false, m)

/-! ## The common bodies -/

/-- The status with `*IsRegistered` and `*IsRunning`, for pointers that are given or
`NULL`. -/
def dexQueryDriver (o : Outcomes) (isRegistered isRunning : Bool) (m : FilterManager) :
    NtStatus × Option (Bool × Bool) :=
  if !isRegistered then (statusInvalidParameter1, none)
  else if !isRunning then (statusInvalidParameter2, none)
  else (statusSuccess, some (o.regOpenKeyEx, filterCreate "DRIVER1" m))

def stopDriver (name : String) (o : Outcomes) (m : FilterManager) : NtStatus × FilterManager :=
  let unloaded := filterUnload name o.filterUnload m
  (if unloaded.1 then statusSuccess else statusUnsuccessful, unloaded.2)

def startIfNeeded (o : Outcomes) (isRunning : Bool) (m : FilterManager) :
    NtStatus × FilterManager :=
  if isRunning then (statusSuccess, m)
  else
    let loaded := filterLoad "DRIVER1" o.filterLoad m
    (if loaded.1 then statusSuccess else statusUnsuccessful, loaded.2)

/-- The status with `*WasRunning`, for a pointer that is given or `NULL`. -/
def startDriver (dexStopDriver : FilterManager → NtStatus × FilterManager) (o : Outcomes)
    (restartIfRunning : UInt8) (wasRunning : Bool) (m : FilterManager) :
    NtStatus × Option Bool × FilterManager :=
  if !wasRunning then (statusInvalidParameter2, none, m)
  else
    let query := dexQueryDriver o true true m
    if !ntSuccess query.1 then (query.1, none, m)
    else
      let isRunning := query.2.any Prod.snd
      if isRunning && restartIfRunning == 1 then
        let stopped := dexStopDriver m
        if !ntSuccess stopped.1 then (stopped.1, some isRunning, stopped.2)
        else
          let started := startIfNeeded o false stopped.2
          (started.1, some isRunning, started.2)
      else
        let started := startIfNeeded o isRunning m
        (started.1, some isRunning, started.2)

/-! ## The two copies -/

namespace PublicApi

def dexStopDriver (o : Outcomes) (m : FilterManager) : NtStatus × FilterManager :=
  stopDriver "FsFilter1" o m

def dexStartDriver (o : Outcomes) (restartIfRunning : UInt8) (wasRunning : Bool)
    (m : FilterManager) : NtStatus × Option Bool × FilterManager :=
  startDriver (dexStopDriver o) o restartIfRunning wasRunning m

end PublicApi

namespace Dll1

def dexStopDriver (o : Outcomes) (m : FilterManager) : NtStatus × FilterManager :=
  stopDriver "DRIVER1" o m

def dexStartDriver (o : Outcomes) (restartIfRunning : UInt8) (wasRunning : Bool)
    (m : FilterManager) : NtStatus × Option Bool × FilterManager :=
  startDriver (dexStopDriver o) o restartIfRunning wasRunning m

end Dll1

inductive Copy where
  | publicApi
  | dll1
  deriving DecidableEq

def Copy.stopName : Copy → String
  | .publicApi => "FsFilter1"
  | .dll1 => "DRIVER1"

inductive Call where
  | dexQueryDriver (isRegistered isRunning : Bool)
  | dexStopDriver
  | dexStartDriver (restartIfRunning : UInt8) (wasRunning : Bool)

structure Invocation where
  copy : Copy
  call : Call
  outcomes : Outcomes

def Copy.dexStopDriver : Copy → Outcomes → FilterManager → NtStatus × FilterManager
  | .publicApi => PublicApi.dexStopDriver
  | .dll1 => Dll1.dexStopDriver

def Copy.dexStartDriver :
    Copy → Outcomes → UInt8 → Bool → FilterManager → NtStatus × Option Bool × FilterManager
  | .publicApi => PublicApi.dexStartDriver
  | .dll1 => Dll1.dexStartDriver

def after (m : FilterManager) (i : Invocation) : FilterManager :=
  match i.call with
  | .dexQueryDriver _ _ => m
  | .dexStopDriver => (i.copy.dexStopDriver i.outcomes m).2
  | .dexStartDriver restartIfRunning wasRunning =>
      (i.copy.dexStartDriver i.outcomes restartIfRunning wasRunning m).2.2

/-! ## Agreement on the driver -/

/-- The driver that `DexQueryDriver` reports on. -/
def queried : FilterName := filterName "DRIVER1"

def Running (m : FilterManager) : Prop := queried ∈ m.loaded

/-- No filter of another name has been loaded or unloaded in between. -/
def OthersUntouched (m m' : FilterManager) : Prop :=
  ∃ ops, m'.effects = m.effects ++ ops ∧ ∀ op ∈ ops, op.name = queried

structure QueryAgrees (m : FilterManager) (r : NtStatus × Option (Bool × Bool)) : Prop where
  isRunning : r.1 = statusSuccess → ∃ isRegistered isRunning,
    r.2 = some (isRegistered, isRunning) ∧ (isRunning = true ↔ Running m)

structure StopAgrees (m : FilterManager) (r : NtStatus × FilterManager) : Prop where
  stopped : r.1 = statusSuccess → Running m ∧ ¬ Running r.2
  others : OthersUntouched m r.2

structure StartAgrees (m : FilterManager) (restartIfRunning : UInt8)
    (r : NtStatus × Option Bool × FilterManager) : Prop where
  running : r.1 = statusSuccess → Running r.2.2
  wasRunning : r.1 = statusSuccess → ∃ wasRunning,
    r.2.1 = some wasRunning ∧ (wasRunning = true ↔ Running m)
  restarted : r.1 = statusSuccess → restartIfRunning = 1 → Running m →
    r.2.2.effects = m.effects ++ [.filterUnload queried, .filterLoad queried]
  others : OthersUntouched m r.2.2

def Agrees (m : FilterManager) (i : Invocation) : Prop :=
  match i.call with
  | .dexQueryDriver isRegistered isRunning =>
      QueryAgrees m (dexQueryDriver i.outcomes isRegistered isRunning m)
  | .dexStopDriver => StopAgrees m (i.copy.dexStopDriver i.outcomes m)
  | .dexStartDriver restartIfRunning wasRunning =>
      StartAgrees m restartIfRunning
        (i.copy.dexStartDriver i.outcomes restartIfRunning wasRunning m)

/-- The call gets to a `DexStopDriver`. -/
def Call.Stops (m : FilterManager) : Call → Prop
  | .dexQueryDriver _ _ => False
  | .dexStopDriver => True
  | .dexStartDriver restartIfRunning wasRunning =>
      wasRunning = true ∧ restartIfRunning = 1 ∧ Running m

/-- The copy with the C names unloads a filter that is called `FsFilter1`. -/
def Diverts (m : FilterManager) (i : Invocation) : Prop :=
  i.copy = .publicApi ∧ i.call.Stops m ∧ filterName "FsFilter1" ∈ m.loaded ∧
    i.outcomes.filterUnload = true

section Agreement

variable {m : FilterManager} {o : Outcomes} {name : String}

theorem othersUntouched_refl (m : FilterManager) : OthersUntouched m m :=
  ⟨[], (List.append_nil _).symm, fun _ h ↦ absurd h List.not_mem_nil⟩

theorem stopDriver_unloads (h : filterName name ∈ m.loaded) (hok : o.filterUnload = true) :
    stopDriver name o m = (statusSuccess,
      ⟨m.loaded.erase (filterName name), m.effects ++ [.filterUnload (filterName name)]⟩) := by
  simp only [stopDriver, filterUnload, if_pos (And.intro h hok), if_true]

theorem stopDriver_fails (h : ¬ (filterName name ∈ m.loaded ∧ o.filterUnload = true)) :
    stopDriver name o m = (statusUnsuccessful, m) := by
  simp only [stopDriver, filterUnload, if_neg h, Bool.false_eq_true, if_false]

theorem startIfNeeded_loads (h : ¬ Running m) (hok : o.filterLoad = true) :
    startIfNeeded o false m =
      (statusSuccess, ⟨insert queried m.loaded, m.effects ++ [.filterLoad queried]⟩) := by
  have hloads : filterName "DRIVER1" ∉ m.loaded ∧ o.filterLoad = true := ⟨h, hok⟩
  simp only [startIfNeeded, filterLoad, queried, if_pos hloads, if_true, Bool.false_eq_true,
    if_false]

theorem startIfNeeded_fails (hok : o.filterLoad = false) :
    startIfNeeded o false m = (statusUnsuccessful, m) := by
  simp only [startIfNeeded, filterLoad, hok, Bool.false_eq_true, and_false, if_false]

theorem effects_startIfNeeded (o : Outcomes) (isRunning : Bool) (m : FilterManager) :
    ∃ ops, (startIfNeeded o isRunning m).2.effects = m.effects ++ ops := by
  cases isRunning with
  | true => exact ⟨[], (List.append_nil _).symm⟩
  | false =>
      simp only [startIfNeeded, filterLoad, Bool.false_eq_true, if_false]
      split_ifs
      · exact ⟨_, rfl⟩
      · exact ⟨[], (List.append_nil _).symm⟩

variable {dexStopDriver : FilterManager → NtStatus × FilterManager} {restartIfRunning : UInt8}

theorem startDriver_null :
    startDriver dexStopDriver o restartIfRunning false m = (statusInvalidParameter2, none, m) :=
  rfl

theorem startDriver_unloaded (h : ¬ Running m) :
    startDriver dexStopDriver o restartIfRunning true m =
      ((startIfNeeded o false m).1, some false, (startIfNeeded o false m).2) := by
  have hquery : filterCreate "DRIVER1" m = false := decide_eq_false h
  simp [startDriver, dexQueryDriver, hquery]

theorem startDriver_loaded (h : Running m) (hrestart : restartIfRunning ≠ 1) :
    startDriver dexStopDriver o restartIfRunning true m = (statusSuccess, some true, m) := by
  have hquery : filterCreate "DRIVER1" m = true := decide_eq_true h
  simp [startDriver, dexQueryDriver, hquery, hrestart, startIfNeeded]

theorem startDriver_restart (h : Running m) :
    startDriver dexStopDriver o 1 true m =
      if ntSuccess (dexStopDriver m).1 then
        ((startIfNeeded o false (dexStopDriver m).2).1, some true,
          (startIfNeeded o false (dexStopDriver m).2).2)
      else ((dexStopDriver m).1, some true, (dexStopDriver m).2) := by
  have hquery : filterCreate "DRIVER1" m = true := decide_eq_true h
  cases hstopped : ntSuccess (dexStopDriver m).1 <;>
    simp [startDriver, dexQueryDriver, hquery, hstopped]

/-- An unload under another name is noticed. -/
theorem not_othersUntouched {m' : FilterManager} {ops : List FilterOp}
    (heffects : m'.effects = m.effects ++ .filterUnload (filterName name) :: ops)
    (hname : filterName name ≠ queried) : ¬ OthersUntouched m m' := by
  rintro ⟨ops', heq, hops⟩
  obtain rfl := List.append_cancel_left (heffects.symm.trans heq)
  exact hname (hops _ List.mem_cons_self)

theorem stopAgrees_iff (name : String) (o : Outcomes) (m : FilterManager) :
    StopAgrees m (stopDriver name o m) ↔
      ¬ (filterName name ≠ queried ∧ filterName name ∈ m.loaded ∧ o.filterUnload = true) := by
  by_cases hunloads : filterName name ∈ m.loaded ∧ o.filterUnload = true
  · rw [stopDriver_unloads hunloads.1 hunloads.2]
    by_cases hname : filterName name = queried
    · refine iff_of_true ⟨fun _ ↦ ⟨?_, ?_⟩, ?_⟩ fun h ↦ h.1 hname
      · rw [Running, ← hname]
        exact hunloads.1
      · rw [Running, hname]
        exact Finset.notMem_erase _ _
      · exact ⟨[.filterUnload (filterName name)], rfl, fun op hop ↦
          List.mem_singleton.mp hop ▸ hname⟩
    · apply iff_of_false
      · exact fun h ↦ @not_othersUntouched _ _ _ [] rfl hname h.others
      · exact not_not.mpr ⟨hname, hunloads⟩
  · rw [stopDriver_fails hunloads]
    refine iff_of_true ⟨fun h ↦ absurd h statusUnsuccessful_ne, othersUntouched_refl m⟩ ?_
    exact fun h ↦ hunloads h.2

theorem startAgrees_of_failure {r : NtStatus × Option Bool × FilterManager}
    (hs : r.1 ≠ statusSuccess) (hothers : OthersUntouched m r.2.2) :
    StartAgrees m restartIfRunning r :=
  ⟨fun h ↦ absurd h hs, fun h ↦ absurd h hs, fun h ↦ absurd h hs, hothers⟩

/-- A driver that is not running is loaded, or stays unloaded with a failure. -/
theorem startAgrees_unloaded (h : ¬ Running m) :
    StartAgrees m restartIfRunning (startDriver dexStopDriver o restartIfRunning true m) := by
  rw [startDriver_unloaded h]
  cases hload : o.filterLoad with
  | false =>
      rw [startIfNeeded_fails hload]
      exact startAgrees_of_failure statusUnsuccessful_ne (othersUntouched_refl m)
  | true =>
      rw [startIfNeeded_loads h hload]
      refine ⟨fun _ ↦ Finset.mem_insert_self _ _, fun _ ↦ ⟨false, rfl, ?_⟩,
        fun _ _ hrunning ↦ absurd hrunning h, ⟨[.filterLoad queried], rfl, ?_⟩⟩
      · exact iff_of_false Bool.false_ne_true h
      · intro op hop
        rw [List.mem_singleton.mp hop, FilterOp.name]

theorem startAgrees_loaded (h : Running m) (hrestart : restartIfRunning ≠ 1) :
    StartAgrees m restartIfRunning (startDriver dexStopDriver o restartIfRunning true m) := by
  rw [startDriver_loaded h hrestart]
  exact ⟨fun _ ↦ h, fun _ ↦ ⟨true, rfl, iff_of_true rfl h⟩, fun _ hone ↦ absurd hone hrestart,
    othersUntouched_refl m⟩

theorem startAgrees_restart (h : Running m) (hok : o.filterUnload = true)
    (hname : filterName name = queried) :
    StartAgrees m 1 (startDriver (stopDriver name o) o 1 true m) := by
  have hloaded : filterName name ∈ m.loaded := by
    rw [hname]
    exact h
  have hstop := stopDriver_unloads hloaded hok
  rw [hname] at hstop
  have hstopped : ¬ Running ⟨m.loaded.erase queried, m.effects ++ [.filterUnload queried]⟩ :=
    Finset.notMem_erase _ _
  rw [startDriver_restart h, hstop, if_pos ntSuccess_statusSuccess]
  cases hload : o.filterLoad with
  | false =>
      rw [startIfNeeded_fails hload]
      refine startAgrees_of_failure statusUnsuccessful_ne ⟨[.filterUnload queried], rfl, ?_⟩
      intro op hop
      rw [List.mem_singleton.mp hop, FilterOp.name]
  | true =>
      rw [startIfNeeded_loads hstopped hload]
      refine ⟨fun _ ↦ Finset.mem_insert_self _ _, fun _ ↦ ⟨true, rfl, iff_of_true rfl h⟩,
        fun _ _ _ ↦ List.append_assoc _ _ _,
        ⟨[.filterUnload queried, .filterLoad queried], List.append_assoc _ _ _, ?_⟩⟩
      simp [FilterOp.name]

theorem startAgrees_notStopped (h : Running m)
    (hfails : ¬ (filterName name ∈ m.loaded ∧ o.filterUnload = true)) :
    StartAgrees m 1 (startDriver (stopDriver name o) o 1 true m) := by
  rw [startDriver_restart h, stopDriver_fails hfails, if_neg (by simp)]
  exact startAgrees_of_failure statusUnsuccessful_ne (othersUntouched_refl m)

/-- A restart that stops another filter has unloaded that filter, whatever comes next. -/
theorem not_startAgrees_diverted (h : Running m) (hloaded : filterName name ∈ m.loaded)
    (hok : o.filterUnload = true) (hname : filterName name ≠ queried) :
    ¬ StartAgrees m 1 (startDriver (stopDriver name o) o 1 true m) := by
  intro hagrees
  have hothers := hagrees.others
  rw [startDriver_restart h, stopDriver_unloads hloaded hok,
    if_pos ntSuccess_statusSuccess] at hothers
  obtain ⟨ops, hops⟩ := effects_startIfNeeded o false
    ⟨m.loaded.erase (filterName name), m.effects ++ [.filterUnload (filterName name)]⟩
  rw [List.append_assoc] at hops
  exact not_othersUntouched hops hname hothers

theorem startAgrees_restart_iff (h : Running m) :
    StartAgrees m 1 (startDriver (stopDriver name o) o 1 true m) ↔
      ¬ (filterName name ≠ queried ∧ filterName name ∈ m.loaded ∧ o.filterUnload = true) := by
  by_cases hunloads : filterName name ∈ m.loaded ∧ o.filterUnload = true
  · by_cases hname : filterName name = queried
    · exact iff_of_true (startAgrees_restart h hunloads.2 hname) fun hdiverts ↦ hdiverts.1 hname
    · exact iff_of_false (not_startAgrees_diverted h hunloads.1 hunloads.2 hname)
        (not_not.mpr ⟨hname, hunloads⟩)
  · exact iff_of_true (startAgrees_notStopped h hunloads) fun hdiverts ↦ hunloads hdiverts.2

theorem startAgrees_iff (name : String) (o : Outcomes) (restartIfRunning : UInt8)
    (wasRunning : Bool) (m : FilterManager) :
    StartAgrees m restartIfRunning
        (startDriver (stopDriver name o) o restartIfRunning wasRunning m) ↔
      ¬ (filterName name ≠ queried ∧
        (wasRunning = true ∧ restartIfRunning = 1 ∧ Running m) ∧
        filterName name ∈ m.loaded ∧ o.filterUnload = true) := by
  cases wasRunning with
  | false =>
      rw [startDriver_null]
      exact iff_of_true (startAgrees_of_failure statusInvalidParameter2_ne (othersUntouched_refl m))
        fun h ↦ Bool.false_ne_true h.2.1.1
  | true =>
      by_cases hrunning : Running m
      · by_cases hrestart : restartIfRunning = 1
        · subst hrestart
          simp only [startAgrees_restart_iff hrunning, hrunning, and_self, true_and]
        · exact iff_of_true (startAgrees_loaded hrunning hrestart) fun h ↦ hrestart h.2.1.2.1
      · exact iff_of_true (startAgrees_unloaded hrunning) fun h ↦ hrunning h.2.1.2.2

end Agreement

/-! ## Sequences of calls -/

theorem stopName_ne_iff (copy : Copy) : filterName copy.stopName ≠ queried ↔ copy = .publicApi := by
  cases copy with
  | publicApi => exact iff_of_true (by decide) rfl
  | dll1 => exact iff_of_false (not_not.mpr rfl) nofun

theorem dexStopDriver_eq (copy : Copy) (o : Outcomes) (m : FilterManager) :
    copy.dexStopDriver o m = stopDriver copy.stopName o m := by
  cases copy <;> rfl

theorem dexStartDriver_eq (copy : Copy) (o : Outcomes) (restartIfRunning : UInt8)
    (wasRunning : Bool) (m : FilterManager) :
    copy.dexStartDriver o restartIfRunning wasRunning m =
      startDriver (stopDriver copy.stopName o) o restartIfRunning wasRunning m := by
  cases copy <;> rfl

theorem queryAgrees (o : Outcomes) (isRegistered isRunning : Bool) (m : FilterManager) :
    QueryAgrees m (dexQueryDriver o isRegistered isRunning m) := by
  refine ⟨fun hs ↦ ?_⟩
  cases isRegistered with
  | false => exact absurd hs statusInvalidParameter1_ne
  | true =>
      cases isRunning with
      | false => exact absurd hs statusInvalidParameter2_ne
      | true => exact ⟨_, _, rfl, decide_eq_true_iff⟩

theorem diverts_iff (m : FilterManager) (i : Invocation) :
    Diverts m i ↔ filterName i.copy.stopName ≠ queried ∧ i.call.Stops m ∧
      filterName i.copy.stopName ∈ m.loaded ∧ i.outcomes.filterUnload = true := by
  rw [Diverts, stopName_ne_iff]
  apply and_congr_right
  intro hcopy
  rw [hcopy, Copy.stopName]

theorem agrees_iff (m : FilterManager) (i : Invocation) : Agrees m i ↔ ¬ Diverts m i := by
  rw [diverts_iff]
  obtain ⟨copy, call, o⟩ := i
  cases call with
  | dexQueryDriver isRegistered isRunning =>
      exact iff_of_true (queryAgrees o isRegistered isRunning m) fun h ↦ h.2.1
  | dexStopDriver =>
      simp only [Agrees, dexStopDriver_eq, stopAgrees_iff, Call.Stops, true_and]
  | dexStartDriver restartIfRunning wasRunning =>
      simp only [Agrees, dexStartDriver_eq, startAgrees_iff, Call.Stops]

/-- In a sequence of calls all agree on the driver exactly when none of them unloads a
filter that is called `FsFilter1`. -/
theorem each_agrees_iff (m : FilterManager) (calls : List Invocation) :
    Each after Agrees m calls ↔ Each after (fun m i ↦ ¬ Diverts m i) m calls :=
  each_iff_each agrees_iff m calls

/-- Another filter goes by the name, and the driver is not running. -/
def otherLoaded : FilterManager := ⟨{filterName "FsFilter1"}, []⟩

theorem not_each_agrees_otherLoaded : ¬ ∀ m calls, Each after Agrees m calls := by
  intro hall
  have hstop := (hall otherLoaded [⟨.publicApi, .dexStopDriver, ⟨true, true, true⟩⟩]).1
  apply (agrees_iff _ _).mp hstop
  exact ⟨rfl, trivial, Finset.mem_singleton_self _, rfl⟩

end NtDriver.DriverControl
