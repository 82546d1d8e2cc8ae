import NtDriver.Lib.Handles
import NtDriver.Status

/-!
# The library's globals

`InitializeCommunication` acquires an event, a port and, in each round of its
loop, an event and a thread, and may throw at each of these stages.  Whatever it
has stored in a global by then stays there.
-/

namespace NtDriver

open Handles

/-- The globals of the DLL, with the handles created since it was loaded and the
threads that have not ended. -/
structure Library where
  gDllConnFilterPort : Option ℕ
  gRequestTerminateDllConnThreads : Option ℕ
  gCommunicationThreads : List ℕ
  handles : Ledger
  spawned : ℕ
  running : List ℕ

namespace Library

def loaded : Library := ⟨none, none, [], Ledger.empty, 0, []⟩

/-- The outcomes of one round of the loop: allocation of the context, its event, the
thread constructor, and the growth of the vector. -/
structure ThreadEnv where
  makeShared : Bool
  createEvent : Bool
  thread : Bool
  pushBack : Bool

structure InitEnv where
  createEvent : Bool
  filterConnectCommunicationPort : Hresult
  rounds : ℕ → ThreadEnv

inductive Exception where
  | status (status : NtStatus)
  | badAlloc
  | systemError
  deriving DecidableEq

/-- How a call is left early: by an exception, or with the process by
`std::terminate`. -/
inductive Exit where
  | thrown (e : Exception)
  | terminated
  deriving DecidableEq

def succeeded (result : Hresult) : Bool := decide (0 ≤ result.toInt)

/-! ## The stages -/

def storeTerminateEvent (createEvent : Bool) (l : Library) : Library :=
  let created := l.handles.create createEvent
  { l with gRequestTerminateDllConnThreads := created.1, handles := created.2 }

def storePort (l : Library) : Library :=
  let created := l.handles.create true
  { l with gDllConnFilterPort := created.1, handles := created.2 }

/-- `Overlapped.hEvent` of a new thread context. -/
def createThreadEvent (createEvent : Bool) (l : Library) : Library :=
  { l with handles := (l.handles.create createEvent).2 }

def spawn (l : Library) : Library :=
  { l with
    spawned := l.spawned + 1
    running := l.running ++ [l.spawned]
    gCommunicationThreads := l.gCommunicationThreads ++ [l.spawned] }

abbrev Init := EStateM Exit Library

def filterConnect (result : Hresult) : Init Unit := do
  if succeeded result then modify storePort
  else throw (.thrown (.status statusConnectionRefused))

def startThread (env : ThreadEnv) : Init Unit := do
  if !env.makeShared then
    throw (.thrown .badAlloc)
  modify (createThreadEvent env.createEvent)
  if !env.thread then
    throw (.thrown .systemError)
  -- a joinable thread that cannot be moved into the vector ends the process
  if !env.pushBack then
    throw .terminated
  modify spawn

def startThreads (rounds : ℕ → ThreadEnv) : ℕ → ℕ → Init Unit
  | _, 0 => pure ()
  | i, n + 1 => do
      startThread (rounds i)
      startThreads rounds (i + 1) n

def initializeCommunication (env : InitEnv) (nrOfDllConnThreads : ℤ) : Init Unit := do
  if nrOfDllConnThreads = 0 then
    throw (.thrown (.status statusInvalidParameter))
  modify (storeTerminateEvent env.createEvent)
  filterConnect env.filterConnectCommunicationPort
  startThreads env.rounds 0 nrOfDllConnThreads.toNat

/-- `InitializeDriverLibrary`, which swallows every exception. -/
def initializeDriverLibrary (env : InitEnv) (l : Library) : Option (ℤ × Library) :=
  match initializeCommunication env 1 l with
  | .ok _ l' => some (0, l')
  | .error (.thrown _) l' => some (-1, l')
  | .error .terminated _ => none

/-- The join loop has waited for the end of every thread in the vector. -/
def joined (l : Library) : Library :=
  { l with running := l.running.filter (· ∉ l.gCommunicationThreads) }

/-- What `UninitializeCommunication` does behind its join loop. -/
def release (l : Library) : Library :=
  { l with
    gDllConnFilterPort := none
    gRequestTerminateDllConnThreads := none
    gCommunicationThreads := []
    handles := (l.handles.close l.gRequestTerminateDllConnThreads).close l.gDllConnFilterPort }

/-- `UninitializeCommunication` once it returns. -/
def uninitializeCommunication (l : Library) : Library :=
  if l.gCommunicationThreads.length = 0 then l
  else if l.gDllConnFilterPort = none then { l with gDllConnFilterPort := none }
  else release (joined l)

def uninitializeDriverLibrary (l : Library) : NtStatus × Library :=
  (statusSuccess, uninitializeCommunication l)

/-! ## The outcomes -/

namespace ThreadEnv

variable (t : ThreadEnv)

def throws : Bool := !t.makeShared || !t.thread

def starts : Bool := t.makeShared && t.thread && t.pushBack

end ThreadEnv

/-- A round throws after all earlier ones have started their threads. -/
def Throws (rounds : ℕ → ThreadEnv) (i n : ℕ) : Prop :=
  ∃ k < n, (rounds (i + k)).throws = true ∧ ∀ j < k, (rounds (i + j)).starts = true

section Outcomes

variable {env : InitEnv} {n : ℤ} {l : Library}

theorem init_modify (f : Library → Library) (l : Library) :
    (modify f : Init PUnit) l = .ok ⟨⟩ (f l) := rfl

theorem filterConnect_success {result : Hresult} (h : succeeded result = true) (l : Library) :
    filterConnect result l = .ok ⟨⟩ (storePort l) := by
  simp only [filterConnect, h, if_true]
  rfl

theorem filterConnect_failure {result : Hresult} (h : succeeded result = false) (l : Library) :
    filterConnect result l = .error (.thrown (.status statusConnectionRefused)) l := by
  simp only [filterConnect, h, Bool.false_eq_true, if_false]
  rfl

theorem initializeCommunication_zero :
    initializeCommunication env 0 l = .error (.thrown (.status statusInvalidParameter)) l := rfl

theorem initializeCommunication_refused (hn : n ≠ 0)
    (h : succeeded env.filterConnectCommunicationPort = false) :
    initializeCommunication env n l =
      .error (.thrown (.status statusConnectionRefused))
        (storeTerminateEvent env.createEvent l) := by
  simp only [initializeCommunication, hn, if_false, bind, EStateM.bind, init_modify,
    filterConnect_failure h]

theorem initializeCommunication_connected (hn : n ≠ 0)
    (h : succeeded env.filterConnectCommunicationPort = true) :
    initializeCommunication env n l =
      startThreads env.rounds 0 n.toNat (storePort (storeTerminateEvent env.createEvent l)) := by
  simp only [initializeCommunication, hn, if_false, bind, EStateM.bind, init_modify,
    filterConnect_success h]

theorem startThread_starts {t : ThreadEnv} (h : t.starts = true) (l : Library) :
    startThread t l = .ok ⟨⟩ (spawn (createThreadEvent t.createEvent l)) := by
  simp only [ThreadEnv.starts, Bool.and_eq_true] at h
  obtain ⟨⟨hshared, hthread⟩, hpush⟩ := h
  simp only [startThread, hshared, hthread, hpush, Bool.not_true, Bool.false_eq_true, if_false,
    bind, EStateM.bind, init_modify]

/-- A round that throws leaves behind at most the event of its thread. -/
theorem startThread_throws {t : ThreadEnv} (h : t.throws = true) (l : Library) :
    ∃ e l', startThread t l = .error (.thrown e) l' ∧
      (l' = l ∨ l' = createThreadEvent t.createEvent l) := by
  cases hshared : t.makeShared with
  | false => exact ⟨.badAlloc, l, by simp [startThread, hshared]; rfl, Or.inl rfl⟩
  | true =>
      have hthread : t.thread = false := by simpa [ThreadEnv.throws, hshared] using h
      refine ⟨.systemError, _, ?_, Or.inr rfl⟩
      simp [startThread, hshared, hthread, bind, EStateM.bind, init_modify]
      rfl

theorem startThread_terminates {t : ThreadEnv} (hstarts : t.starts = false)
    (hthrows : t.throws = false) (l : Library) :
    startThread t l = .error .terminated (createThreadEvent t.createEvent l) := by
  simp only [ThreadEnv.throws, Bool.or_eq_false_iff, Bool.not_eq_false'] at hthrows
  obtain ⟨hshared, hthread⟩ := hthrows
  have hpush : t.pushBack = false := by simpa [ThreadEnv.starts, hshared, hthread] using hstarts
  simp [startThread, hshared, hthread, hpush, bind, EStateM.bind, init_modify]
  rfl

theorem startThread_ok {t : ThreadEnv} {l' : Library} {u : Unit}
    (h : startThread t l = .ok u l') : l' = spawn (createThreadEvent t.createEvent l) := by
  cases hthrows : t.throws with
  | true =>
      obtain ⟨e, l'', herror, _⟩ := startThread_throws hthrows l
      rw [herror] at h
      cases h
  | false =>
      cases hstarts : t.starts with
      | true =>
          rw [startThread_starts hstarts] at h
          exact (EStateM.Result.ok.inj h).2.symm
      | false =>
          rw [startThread_terminates hstarts hthrows] at h
          cases h

theorem startThread_thrown {t : ThreadEnv} {l' : Library} {e : Exception}
    (h : startThread t l = .error (.thrown e) l') :
    l' = l ∨ l' = createThreadEvent t.createEvent l := by
  cases hthrows : t.throws with
  | true =>
      obtain ⟨e', l'', herror, hstate⟩ := startThread_throws hthrows l
      rw [herror] at h
      exact (EStateM.Result.error.inj h).2 ▸ hstate
  | false =>
      cases hstarts : t.starts with
      | true =>
          rw [startThread_starts hstarts] at h
          cases h
      | false =>
          rw [startThread_terminates hstarts hthrows] at h
          cases h

theorem startThreads_starts {rounds : ℕ → ThreadEnv} {i n : ℕ} (h : (rounds i).starts = true)
    (l : Library) :
    startThreads rounds i (n + 1) l =
      startThreads rounds (i + 1) n (spawn (createThreadEvent (rounds i).createEvent l)) := by
  simp only [startThreads, bind, EStateM.bind, startThread_starts h]

theorem startThreads_error {rounds : ℕ → ThreadEnv} {i n : ℕ} {exit : Exit} {l l' : Library}
    (h : startThread (rounds i) l = .error exit l') :
    startThreads rounds i (n + 1) l = .error exit l' := by
  simp only [startThreads, bind, EStateM.bind, h]

theorem throws_succ_iff (rounds : ℕ → ThreadEnv) (i n : ℕ) :
    Throws rounds i (n + 1) ↔
      (rounds i).throws = true ∨ ((rounds i).starts = true ∧ Throws rounds (i + 1) n) := by
  constructor
  · rintro ⟨k, hk, hthrows, hstarts⟩
    cases k with
    | zero => exact Or.inl hthrows
    | succ k =>
        refine Or.inr ⟨hstarts 0 (Nat.succ_pos k), k, Nat.lt_of_succ_lt_succ hk, ?_, ?_⟩
        · rwa [Nat.add_right_comm]
        · intro j hj
          have hnext := hstarts (j + 1) (Nat.succ_lt_succ hj)
          rwa [← Nat.add_assoc, Nat.add_right_comm] at hnext
  · rintro (hthrows | ⟨hstarts, k, hk, hthrows, hearlier⟩)
    · exact ⟨0, Nat.succ_pos n, hthrows, fun j hj ↦ absurd hj (Nat.not_lt_zero j)⟩
    · refine ⟨k + 1, Nat.succ_lt_succ hk, ?_, ?_⟩
      · rwa [Nat.add_right_comm] at hthrows
      · intro j hj
        cases j with
        | zero => exact hstarts
        | succ j =>
            have hnext := hearlier j (Nat.lt_of_succ_lt_succ hj)
            rwa [Nat.add_right_comm] at hnext

theorem startThreads_thrown_iff (rounds : ℕ → ThreadEnv) (i n : ℕ) (l : Library) :
    (∃ e l', startThreads rounds i n l = .error (.thrown e) l') ↔ Throws rounds i n := by
  induction n generalizing i l with
  | zero =>
      apply iff_of_false
      · rintro ⟨e, l', h⟩
        cases h
      · rintro ⟨k, hk, _⟩
        exact absurd hk (Nat.not_lt_zero k)
  | succ n ih =>
      rw [throws_succ_iff]
      cases hthrows : (rounds i).throws with
      | true =>
          obtain ⟨e, l', hround, _⟩ := startThread_throws hthrows l
          exact iff_of_true ⟨e, l', startThreads_error hround⟩ (Or.inl rfl)
      | false =>
          cases hstarts : (rounds i).starts with
          | true => simp [startThreads_starts hstarts, ih]
          | false => simp [startThreads_error (startThread_terminates hstarts hthrows l)]

/-- The loop closes nothing, on no path. -/
theorem open_of_startThreads {rounds : ℕ → ThreadEnv} {i n : ℕ} {l l' : Library} {e : Exception}
    {h : ℕ} (hthrown : startThreads rounds i n l = .error (.thrown e) l')
    (hopen : l.handles.Open h) : l'.handles.Open h := by
  induction n generalizing i l with
  | zero => cases hthrown
  | succ n ih =>
      have hevent : (createThreadEvent (rounds i).createEvent l).handles.Open h :=
        (Ledger.open_create_iff _ _ _).mpr (Or.inl hopen)
      cases hthrows : (rounds i).throws with
      | true =>
          obtain ⟨e', l'', hround, hstate⟩ := startThread_throws hthrows l
          rw [startThreads_error hround] at hthrown
          obtain ⟨_, rfl⟩ := EStateM.Result.error.inj hthrown
          rcases hstate with rfl | rfl
          · exact hopen
          · exact hevent
      | false =>
          cases hstarts : (rounds i).starts with
          | true =>
              rw [startThreads_starts hstarts] at hthrown
              exact ih hthrown hevent
          | false =>
              rw [startThreads_error (startThread_terminates hstarts hthrows l)] at hthrown
              cases hthrown

end Outcomes

/-! ## The library call with its one thread -/

section LibraryCall

variable {env : InitEnv} {l : Library}

/-- The library with its port connected. -/
def connected (env : InitEnv) (l : Library) : Library :=
  storePort (storeTerminateEvent env.createEvent l)

theorem initializeDriverLibrary_refused
    (h : succeeded env.filterConnectCommunicationPort = false) :
    initializeDriverLibrary env l = some (-1, storeTerminateEvent env.createEvent l) := by
  rw [initializeDriverLibrary, initializeCommunication_refused (by decide) h]

theorem initializeCommunication_one (h : succeeded env.filterConnectCommunicationPort = true) :
    initializeCommunication env 1 l = startThreads env.rounds 0 1 (connected env l) :=
  initializeCommunication_connected (by decide) h

theorem initializeDriverLibrary_connected
    (h : succeeded env.filterConnectCommunicationPort = true) :
    initializeDriverLibrary env l =
      match startThread (env.rounds 0) (connected env l) with
      | .ok _ l' => some (0, l')
      | .error (.thrown _) l' => some (-1, l')
      | .error .terminated _ => none := by
  rw [initializeDriverLibrary, initializeCommunication_one h]
  cases hround : startThread (env.rounds 0) (connected env l) with
  | ok u l' => simp only [startThreads, bind, EStateM.bind, hround, pure, EStateM.pure]
  | error exit l' => rw [startThreads_error hround]

theorem initializeDriverLibrary_starts (h : succeeded env.filterConnectCommunicationPort = true)
    (hround : (env.rounds 0).starts = true) :
    initializeDriverLibrary env l =
      some (0, spawn (createThreadEvent (env.rounds 0).createEvent (connected env l))) := by
  rw [initializeDriverLibrary_connected h, startThread_starts hround]

theorem initializeDriverLibrary_throws (h : succeeded env.filterConnectCommunicationPort = true)
    (hround : (env.rounds 0).throws = true) :
    ∃ l', initializeDriverLibrary env l = some (-1, l') ∧
      (l' = connected env l ∨
        l' = createThreadEvent (env.rounds 0).createEvent (connected env l)) := by
  obtain ⟨e, l', herror, hstate⟩ := startThread_throws hround (connected env l)
  refine ⟨l', ?_, hstate⟩
  rw [initializeDriverLibrary_connected h, herror]

theorem initializeDriverLibrary_terminates
    (h : succeeded env.filterConnectCommunicationPort = true)
    (hstarts : (env.rounds 0).starts = false) (hthrows : (env.rounds 0).throws = false) :
    initializeDriverLibrary env l = none := by
  rw [initializeDriverLibrary_connected h, startThread_terminates hstarts hthrows]

/-- A call that returns was refused, or connected with its round throwing or starting
the thread. -/
theorem initializeDriverLibrary_cases {status : ℤ} {l' : Library}
    (h : initializeDriverLibrary env l = some (status, l')) :
    (succeeded env.filterConnectCommunicationPort = false ∧
        l' = storeTerminateEvent env.createEvent l) ∨
      (succeeded env.filterConnectCommunicationPort = true ∧ (env.rounds 0).throws = true ∧
        (l' = connected env l ∨
          l' = createThreadEvent (env.rounds 0).createEvent (connected env l))) ∨
      (succeeded env.filterConnectCommunicationPort = true ∧ (env.rounds 0).throws = false ∧
        l' = spawn (createThreadEvent (env.rounds 0).createEvent (connected env l))) := by
  cases hconnect : succeeded env.filterConnectCommunicationPort with
  | false =>
      rw [initializeDriverLibrary_refused hconnect] at h
      obtain ⟨_, rfl⟩ := Prod.mk.inj (Option.some.inj h)
      exact Or.inl ⟨rfl, rfl⟩
  | true =>
      cases hthrows : (env.rounds 0).throws with
      | true =>
          obtain ⟨l'', hcall, hstate⟩ := initializeDriverLibrary_throws (l := l) hconnect hthrows
          rw [hcall] at h
          obtain ⟨_, rfl⟩ := Prod.mk.inj (Option.some.inj h)
          exact Or.inr (Or.inl ⟨rfl, rfl, hstate⟩)
      | false =>
          cases hstarts : (env.rounds 0).starts with
          | true =>
              rw [initializeDriverLibrary_starts hconnect hstarts] at h
              obtain ⟨_, rfl⟩ := Prod.mk.inj (Option.some.inj h)
              exact Or.inr (Or.inr ⟨rfl, rfl, rfl⟩)
          | false =>
              rw [initializeDriverLibrary_terminates hconnect hstarts hthrows] at h
              cases h

end LibraryCall

/-! ## Atomicity of a failed call -/

/-- The globals are as they were, and no handle opened in between is left open. -/
structure Atomic (l l' : Library) : Prop where
  gDllConnFilterPort : l'.gDllConnFilterPort = l.gDllConnFilterPort
  gRequestTerminateDllConnThreads :
    l'.gRequestTerminateDllConnThreads = l.gRequestTerminateDllConnThreads
  gCommunicationThreads : l'.gCommunicationThreads = l.gCommunicationThreads
  closed : ∀ h, l.handles.created ≤ h → ¬ l'.handles.Open h

/-- The call throws once it has stored or overwritten something: the connection is
refused behind a created event or over an old one, or a round throws. -/
def Spoils (env : InitEnv) (n : ℤ) (l : Library) : Prop :=
  n ≠ 0 ∧
    ((succeeded env.filterConnectCommunicationPort = false ∧
        (env.createEvent = true ∨ l.gRequestTerminateDllConnThreads ≠ none)) ∨
      (succeeded env.filterConnectCommunicationPort = true ∧ Throws env.rounds 0 n.toNat))

section Atomic

variable {env : InitEnv} {n : ℤ} {l : Library}

theorem atomic_refl (l : Library) : Atomic l l :=
  ⟨rfl, rfl, rfl, fun _ hge hopen ↦ Nat.not_lt.mpr hge hopen.1⟩

theorem atomic_storeTerminateEvent_iff (createEvent : Bool) :
    Atomic l (storeTerminateEvent createEvent l) ↔
      ¬ (createEvent = true ∨ l.gRequestTerminateDllConnThreads ≠ none) := by
  cases createEvent with
  | true =>
      apply iff_of_false
      · intro hatomic
        exact hatomic.closed l.handles.created le_rfl
          ((Ledger.open_create_iff _ true _).mpr (Or.inr rfl))
      · exact fun h ↦ h (Or.inl rfl)
  | false =>
      cases hevent : l.gRequestTerminateDllConnThreads with
      | some h =>
          apply iff_of_false
          · intro hatomic
            have hsame := hatomic.gRequestTerminateDllConnThreads
            rw [hevent] at hsame
            exact Option.some_ne_none _ hsame.symm
          · exact fun hnone ↦ hnone (Or.inr (Option.some_ne_none h))
      | none =>
          have hself : storeTerminateEvent false l = l := by
            rw [storeTerminateEvent, Ledger.create_false, ← hevent]
          rw [hself]
          exact iff_of_true (atomic_refl l) (by simp)

/-- The port that the call has opened stays open when a round throws. -/
theorem not_atomic_of_connected {l' : Library} {e : Exception} {k : ℕ}
    (h : startThreads env.rounds 0 k (storePort (storeTerminateEvent env.createEvent l)) =
      .error (.thrown e) l') : ¬ Atomic l l' := by
  intro hatomic
  have hport : (storePort (storeTerminateEvent env.createEvent l)).handles.Open
      (storeTerminateEvent env.createEvent l).handles.created :=
    (Ledger.open_create_iff _ true _).mpr (Or.inr rfl)
  exact hatomic.closed _ (Ledger.created_le_create _ _) (open_of_startThreads h hport)

end Atomic

/-- A throwing call is atomic exactly when it throws ahead of every effect: for a
thread count of zero, or when no event could be created and none was there. -/
theorem atomic_iff_not_spoils (env : InitEnv) (n : ℤ) (l : Library) :
    (∀ e l', initializeCommunication env n l = .error (.thrown e) l' → Atomic l l') ↔
      ¬ Spoils env n l := by
  by_cases hn : n = 0
  · subst hn
    refine iff_of_true ?_ fun h ↦ h.1 rfl
    intro e l' h
    rw [initializeCommunication_zero] at h
    obtain ⟨_, rfl⟩ := EStateM.Result.error.inj h
    exact atomic_refl l
  cases hconnect : succeeded env.filterConnectCommunicationPort with
  | false =>
      rw [initializeCommunication_refused hn hconnect]
      have hspoils : Spoils env n l ↔
          env.createEvent = true ∨ l.gRequestTerminateDllConnThreads ≠ none := by
        simp [Spoils, hn, hconnect]
      rw [hspoils, ← atomic_storeTerminateEvent_iff]
      constructor
      · exact fun h ↦ h _ _ rfl
      · intro hatomic e l' h
        obtain ⟨_, rfl⟩ := EStateM.Result.error.inj h
        exact hatomic
  | true =>
      rw [initializeCommunication_connected hn hconnect]
      have hspoils : Spoils env n l ↔ Throws env.rounds 0 n.toNat := by
        simp [Spoils, hn, hconnect]
      rw [hspoils, ← startThreads_thrown_iff env.rounds 0 n.toNat
        (storePort (storeTerminateEvent env.createEvent l))]
      constructor
      · rintro hatomic ⟨e, l', h⟩
        exact not_atomic_of_connected h (hatomic e l' h)
      · intro hnone e l' h
        exact absurd ⟨e, l', h⟩ hnone

/-- The driver is not there: the event is created and the connection refused. -/
def refused : InitEnv := ⟨true, 0x80070002#32, fun _ ↦ ⟨true, true, true, true⟩⟩

theorem not_atomic_refused : ¬ ∀ env n e l',
    initializeCommunication env n loaded = .error (.thrown e) l' → Atomic loaded l' := by
  intro hall
  have hatomic := hall refused 1 _ _ (initializeCommunication_refused (by decide) (by decide))
  exact (atomic_storeTerminateEvent_iff true).mp hatomic (Or.inl rfl)

end Library

end NtDriver
