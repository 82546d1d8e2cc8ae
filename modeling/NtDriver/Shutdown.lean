import NtDriver.CommThread
import NtDriver.DllLibrary
import NtDriver.Lib.Transition
import Mathlib.Logic.Function.Basic

/-!
# Shutdown of the communication threads

The calls of the library, taken apart at the points where a thread can run in
between.  A thread copies the termination handle before it blocks, and keeps the
copy while a later `InitializeCommunication` puts another handle into the global.
-/

namespace NtDriver.Shutdown

open Handles Library Transition CommThread

/-- A thread, with its `waitHandles[0]` once it is copied. -/
structure Thread where
  pc : Pc
  waitHandle : Option (Option ℕ)
  hEvent : Option ℕ

/-- Where the caller of the library stands: outside, ahead of the connect, in the loop
with some rounds left, or in the join loop with some threads left. -/
inductive Caller where
  | idle
  | connecting (rounds : ℕ)
  | starting (rounds : ℕ)
  | joining (rest : List ℕ)

structure Session where
  library : Library
  caller : Caller
  thread : ℕ → Thread
  signalled : List ℕ

def initialSession : Session := ⟨loaded, .idle, fun _ ↦ ⟨.testTerminate, none, none⟩, []⟩

inductive Action where
  | initializeCommunication (nrOfDllConnThreads : ℤ) (createEvent : Bool)
  | filterConnectCommunicationPort (result : Hresult)
  | startThread (env : ThreadEnv)
  | uninitializeCommunication
  | join
  | release
  | copyHandle (t : ℕ)
  | thread (t : ℕ) (buffer : MessageBuffer) (result : Result)

def isWaitPending : Pc → Bool
  | .waitPending => true
  | _ => false

namespace Session

variable (s : Session)

def signalledHandle (h : Option ℕ) : Bool :=
  match h with
  | none => false
  | some h => decide (h ∈ s.signalled)

/-- The results that the waits of a thread may have: a wait for an invalid handle fails,
and a wait ends with an event that is signalled. -/
def allows (t : ℕ) : Result → Bool
  | .waitForSingleObject result =>
      (result == waitObject0) == s.signalledHandle s.library.gRequestTerminateDllConnThreads
  | .waitForMultipleObjects result =>
      let waitHandle := (s.thread t).waitHandle.join
      if result = waitObject0 then s.signalledHandle waitHandle && (s.thread t).hEvent.isSome
      else if result = waitObject0 + 1 then waitHandle.isSome && (s.thread t).hEvent.isSome
      else true
  | _ => true

def setThread (t : ℕ) (thread : Thread) : Session :=
  { s with thread := Function.update s.thread t thread }

/-- The thread goes on to `pc`; one that faults takes the process with it. -/
def goTo (t : ℕ) : Pc → Option Session
  | .faulted => none
  | .returned =>
      some { s.setThread t ⟨.returned, none, (s.thread t).hEvent⟩ with
        library := { s.library with running := s.library.running.filter (· ≠ t) } }
  | pc => some (s.setThread t ⟨pc, none, (s.thread t).hEvent⟩)

def loop (rounds : ℕ) : Caller := if rounds = 0 then .idle else .starting rounds

end Session

open Session

def next (a : Arch) (s : Session) : Action → Option Session
  | .initializeCommunication n createEvent =>
      match s.caller with
      | .idle =>
          if n = 0 then some s
          else some { s with
            library := storeTerminateEvent createEvent s.library
            caller := .connecting n.toNat }
      | _ => none
  | .filterConnectCommunicationPort result =>
      match s.caller with
      | .connecting rounds =>
          match filterConnect result s.library with
          | .ok _ l => some { s with library := l, caller := loop rounds }
          | .error _ l => some { s with library := l, caller := .idle }
      | _ => none
  | .startThread env =>
      match s.caller with
      | .starting rounds =>
          match Library.startThread env s.library with
          | .ok _ l =>
              let hEvent := (s.library.handles.create env.createEvent).1
              some { s.setThread s.library.spawned ⟨.testTerminate, none, hEvent⟩ with
                library := l, caller := loop (rounds - 1) }
          | .error (.thrown _) l => some { s with library := l, caller := .idle }
          | .error .terminated _ => none
      | _ => none
  | .uninitializeCommunication =>
      match s.caller with
      | .idle =>
          if s.library.gCommunicationThreads.length = 0 then some s
          else if s.library.gDllConnFilterPort = none then
            some { s with library := { s.library with gDllConnFilterPort := none } }
          else
            some { s with
              signalled := s.signalled ++ s.library.gRequestTerminateDllConnThreads.toList
              caller := .joining s.library.gCommunicationThreads }
      | _ => none
  | .join =>
      match s.caller with
      | .joining (t :: rest) =>
          if t ∈ s.library.running then none else some { s with caller := .joining rest }
      | _ => none
  | .release =>
      match s.caller with
      | .joining [] => some { s with library := Library.release s.library, caller := .idle }
      | _ => none
  | .copyHandle t =>
      if t ∈ s.library.running ∧ isWaitPending (s.thread t).pc ∧
          (s.thread t).waitHandle = none then
        some (s.setThread t
          { s.thread t with waitHandle := some s.library.gRequestTerminateDllConnThreads })
      else none
  | .thread t buffer result =>
      if t ∈ s.library.running ∧ s.allows t result ∧
          (isWaitPending (s.thread t).pc → (s.thread t).waitHandle ≠ none) then
        (step a buffer (s.thread t).pc result).bind (s.goTo t)
      else none

def sessions (a : Arch) : System Session Action := System.ofNext (· = initialSession) (next a)

/-- The thread is blocked on a copy of the termination handle. -/
structure Blocked (s : Session) (t h : ℕ) : Prop where
  running : t ∈ s.library.running
  pc : isWaitPending (s.thread t).pc = true
  waitHandle : (s.thread t).waitHandle = some (some h)
  hEvent : (s.thread t).hEvent ≠ none

theorem Blocked.back {s s' : Session} {t h : ℕ} (hb : Blocked s' t h)
    (hthread : s'.thread t = s.thread t)
    (hrunning : t ∈ s'.library.running → t ∈ s.library.running) : Blocked s t h where
  running := hrunning hb.running
  pc := hthread ▸ hb.pc
  waitHandle := hthread ▸ hb.waitHandle
  hEvent := hthread ▸ hb.hEvent

/-- In the join loop, every blocked thread waits on the event just signalled. -/
def Wakes (s : Session) : Prop :=
  ∀ rest, s.caller = .joining rest → ∀ t ∈ s.library.gCommunicationThreads, ∀ h, Blocked s t h →
    s.library.gRequestTerminateDllConnThreads = some h ∧ h ∈ s.signalled

/-- No event is stored over one that a thread is blocked on. -/
def Undisturbed (s : Session) : Action → Prop
  | .initializeCommunication n _ =>
      n = 0 ∨ ∀ t ∈ s.library.gCommunicationThreads, ∀ h, ¬ Blocked s t h
  | _ => True

/-! ## The library's calls as sequences of steps -/

section Calls

variable {a : Arch} {s : Session} {env : InitEnv}

theorem next_initializeCommunication (hcaller : s.caller = .idle) (createEvent : Bool) :
    next a s (.initializeCommunication 1 createEvent) = some { s with
      library := storeTerminateEvent createEvent s.library, caller := .connecting 1 } := by
  simp [next, hcaller]

theorem next_connected {result : Hresult} (hcaller : s.caller = .connecting 1)
    (h : succeeded result = true) :
    next a s (.filterConnectCommunicationPort result) = some { s with
      library := storePort s.library, caller := .starting 1 } := by
  simp only [next, hcaller, filterConnect_success h]
  rfl

theorem next_refused {rounds : ℕ} {result : Hresult} (hcaller : s.caller = .connecting rounds)
    (h : succeeded result = false) :
    next a s (.filterConnectCommunicationPort result) = some { s with caller := .idle } := by
  simp only [next, hcaller, filterConnect_failure h]

/-- Without steps of threads in between, the steps of a call are the call. -/
theorem exec_initializeDriverLibrary {status : ℤ} {l : Library} (hcaller : s.caller = .idle)
    (h : initializeDriverLibrary env s.library = some (status, l)) :
    ∃ acts u, System.exec (next a) s acts = some u ∧ u.library = l ∧ u.caller = .idle := by
  have hfirst := @next_initializeCommunication a s hcaller env.createEvent
  cases hconnect : succeeded env.filterConnectCommunicationPort with
  | false =>
      rw [initializeDriverLibrary_refused hconnect] at h
      obtain ⟨_, rfl⟩ := Prod.mk.inj (Option.some.inj h)
      have hexec : System.exec (next a) s [.initializeCommunication 1 env.createEvent,
          .filterConnectCommunicationPort env.filterConnectCommunicationPort] = some { s with
            library := storeTerminateEvent env.createEvent s.library, caller := .idle } := by
        rw [System.exec_cons, hfirst, Option.bind_some, System.exec_cons,
          next_refused rfl hconnect]
        rfl
      exact ⟨_, _, hexec, rfl, rfl⟩
  | true =>
      rw [initializeDriverLibrary_connected hconnect] at h
      have hsteps : ∀ round, System.exec (next a) s [.initializeCommunication 1 env.createEvent,
          .filterConnectCommunicationPort env.filterConnectCommunicationPort, .startThread round] =
            next a { s with library := connected env s.library, caller := .starting 1 }
              (.startThread round) := by
        intro round
        rw [System.exec_cons, hfirst, Option.bind_some, System.exec_cons,
          next_connected rfl hconnect, Option.bind_some, System.exec_cons]
        exact Option.bind_fun_some _
      cases hround : Library.startThread (env.rounds 0) (connected env s.library) with
      | ok u l' =>
          rw [hround] at h
          obtain ⟨_, rfl⟩ := Prod.mk.inj (Option.some.inj h)
          have hstarted : next a
              { s with library := connected env s.library, caller := .starting 1 }
              (.startThread (env.rounds 0)) = some { s.setThread (connected env s.library).spawned
                ⟨.testTerminate, none, ((connected env s.library).handles.create
                  (env.rounds 0).createEvent).1⟩ with library := l', caller := .idle } := by
            simp only [next, hround]
            rfl
          exact ⟨_, _, (hsteps _).trans hstarted, rfl, rfl⟩
      | error exit l' =>
          rw [hround] at h
          cases exit with
          | terminated => cases h
          | thrown e =>
              obtain ⟨_, rfl⟩ := Prod.mk.inj (Option.some.inj h)
              have hthrown : next a
                  { s with library := connected env s.library, caller := .starting 1 }
                  (.startThread (env.rounds 0)) =
                    some { s with library := l', caller := .idle } := by
                simp only [next, hround]
              exact ⟨_, _, (hsteps _).trans hthrown, rfl, rfl⟩

theorem exec_joins {rest : List ℕ} (hcaller : s.caller = .joining rest)
    (hended : ∀ t ∈ rest, t ∉ s.library.running) :
    System.exec (next a) s (rest.map fun _ ↦ .join) = some { s with caller := .joining [] } := by
  induction rest generalizing s with
  | nil => rw [List.map_nil, System.exec_nil, ← hcaller]
  | cons t rest ih =>
      have hjoin : next a s .join = some { s with caller := .joining rest } := by
        simp only [next, hcaller, if_neg (hended t List.mem_cons_self)]
      rw [List.map_cons, System.exec_cons, hjoin, Option.bind_some]
      exact ih rfl fun t' ht' ↦ hended t' (List.mem_cons_of_mem t ht')

/-- Once the threads have ended, the steps of a shutdown are the shutdown. -/
theorem exec_uninitializeDriverLibrary (hcaller : s.caller = .idle)
    (hended : ∀ t ∈ s.library.gCommunicationThreads, t ∉ s.library.running) :
    ∃ acts u, System.exec (next a) s acts = some u ∧
      u.library = uninitializeCommunication s.library ∧ u.caller = .idle := by
  by_cases hlen : s.library.gCommunicationThreads.length = 0
  · refine ⟨[.uninitializeCommunication], s, ?_, ?_, hcaller⟩
    · simp [next, hcaller, hlen]
    · rw [uninitializeCommunication, if_pos hlen]
  · by_cases hport : s.library.gDllConnFilterPort = none
    · refine ⟨[.uninitializeCommunication],
        { s with library := { s.library with gDllConnFilterPort := none } }, ?_, ?_, hcaller⟩
      · simp [next, hcaller, hlen, hport]
      · rw [uninitializeCommunication, if_neg hlen, if_pos hport]
    · have hjoining : next a s .uninitializeCommunication = some { s with
          signalled := s.signalled ++ s.library.gRequestTerminateDllConnThreads.toList
          caller := .joining s.library.gCommunicationThreads } := by
        simp only [next, hcaller, if_neg hlen, if_neg hport]
      have hjoined : joined s.library = s.library := by
        have hrunning : s.library.running.filter (· ∉ s.library.gCommunicationThreads) =
            s.library.running := by
          apply List.filter_eq_self.mpr
          intro t ht
          exact decide_eq_true fun hmem ↦ hended t hmem ht
        rw [joined, hrunning]
      have hjoins := exec_joins (a := a) (s := { s with
        signalled := s.signalled ++ s.library.gRequestTerminateDllConnThreads.toList
        caller := .joining s.library.gCommunicationThreads }) rfl hended
      have hexec : System.exec (next a) s
          ((.uninitializeCommunication :: s.library.gCommunicationThreads.map fun _ ↦ .join) ++
            [.release]) = some { s with
              library := Library.release s.library
              signalled := s.signalled ++ s.library.gRequestTerminateDllConnThreads.toList
              caller := .idle } := by
        rw [System.exec_append, System.exec_cons, hjoining, Option.bind_some, hjoins]
        rfl
      refine ⟨_, _, hexec, ?_, rfl⟩
      rw [uninitializeCommunication, if_neg hlen, if_neg hport, hjoined]

end Calls

/-! ## The invariant -/

structure Inv (s : Session) : Prop where
  blocked : ∀ t ∈ s.library.gCommunicationThreads, ∀ h, Blocked s t h →
    s.library.gRequestTerminateDllConnThreads = some h
  signalled : ∀ rest, s.caller = .joining rest → ∀ h,
    s.library.gRequestTerminateDllConnThreads = some h → h ∈ s.signalled
  created : ∀ h, s.library.gRequestTerminateDllConnThreads = some h →
    h < s.library.handles.created
  starting : ∀ rounds, s.caller = .starting rounds → s.library.gDllConnFilterPort ≠ none
  port : s.library.gCommunicationThreads ≠ [] → s.library.gDllConnFilterPort ≠ none

theorem Inv.wakes {s : Session} (h : Inv s) : Wakes s := by
  intro rest hrest t ht k hk
  have hevent := h.blocked t ht k hk
  exact ⟨hevent, h.signalled rest hrest k hevent⟩

theorem inv_initialSession : Inv initialSession where
  blocked t ht := absurd ht List.not_mem_nil
  signalled rest hrest := by cases hrest
  created h hh := absurd hh.symm (Option.some_ne_none h)
  starting rounds hrounds := by cases hrounds
  port hne := absurd rfl hne

section Steps

variable {a : Arch} {s s' : Session}

theorem inv_initializeCommunication {n : ℤ} {createEvent : Bool} (hs : Inv s)
    (hfree : Undisturbed s (.initializeCommunication n createEvent))
    (h : next a s (.initializeCommunication n createEvent) = some s') : Inv s' := by
  cases hcaller : s.caller with
  | idle =>
      simp only [next, hcaller] at h
      split_ifs at h with hn
      · obtain rfl := Option.some.inj h
        exact hs
      · obtain rfl := Option.some.inj h
        refine ⟨fun t ht k hk ↦ ?_, nofun, fun k hk ↦ ?_, nofun, hs.port⟩
        · exact (hfree.resolve_left hn t ht k (hk.back rfl id)).elim
        · exact ((Ledger.open_create_iff _ createEvent k).mpr (Or.inr hk)).1
  | _ => simp [next, hcaller] at h

theorem inv_filterConnectCommunicationPort {result : Hresult} (hs : Inv s)
    (h : next a s (.filterConnectCommunicationPort result) = some s') : Inv s' := by
  cases hcaller : s.caller with
  | connecting rounds =>
      simp only [next, hcaller] at h
      cases hresult : succeeded result with
      | true =>
          rw [filterConnect_success hresult] at h
          obtain rfl := Option.some.inj h
          refine ⟨fun t ht k hk ↦ hs.blocked t ht k (hk.back rfl id), ?_,
            fun k hk ↦ Nat.lt_succ_of_lt (hs.created k hk), fun _ _ ↦ Option.some_ne_none _,
            fun _ ↦ Option.some_ne_none _⟩
          intro rest hrest
          simp only [loop] at hrest
          split_ifs at hrest
      | false =>
          rw [filterConnect_failure hresult] at h
          obtain rfl := Option.some.inj h
          exact ⟨fun t ht k hk ↦ hs.blocked t ht k (hk.back rfl id), nofun, hs.created, nofun,
            hs.port⟩
  | _ => simp [next, hcaller] at h

/-- A new thread is not blocked, and the other threads are as they were. -/
theorem inv_startThread {env : ThreadEnv} (hs : Inv s)
    (h : next a s (.startThread env) = some s') : Inv s' := by
  cases hcaller : s.caller with
  | starting rounds =>
      have hport := hs.starting rounds hcaller
      simp only [next, hcaller] at h
      cases hround : Library.startThread env s.library with
      | ok u l =>
          obtain rfl := startThread_ok hround
          rw [hround] at h
          obtain rfl := Option.some.inj h
          refine ⟨?_, ?_, ?_, fun _ _ ↦ hport, fun _ ↦ hport⟩
          · intro t ht k hk
            have hne : t ≠ s.library.spawned := by
              rintro rfl
              have hpc := hk.pc
              simp [setThread, isWaitPending] at hpc
            have hold : t ∈ s.library.gCommunicationThreads :=
              (List.mem_append.mp ht).resolve_right fun hnew ↦ hne (List.mem_singleton.mp hnew)
            refine hs.blocked t hold k (hk.back (Function.update_of_ne hne _ _) fun hrunning ↦ ?_)
            exact (List.mem_append.mp hrunning).resolve_right
              fun hnew ↦ hne (List.mem_singleton.mp hnew)
          · intro rest hrest
            simp only [loop] at hrest
            split_ifs at hrest
          · exact fun k hk ↦ (hs.created k hk).trans_le (Ledger.created_le_create _ _)
      | error exit l =>
          rw [hround] at h
          cases exit with
          | terminated => cases h
          | thrown e =>
              obtain rfl := Option.some.inj h
              rcases startThread_thrown hround with rfl | rfl
              · exact ⟨fun t ht k hk ↦ hs.blocked t ht k (hk.back rfl id), nofun, hs.created,
                  nofun, hs.port⟩
              · exact ⟨fun t ht k hk ↦ hs.blocked t ht k (hk.back rfl id), nofun,
                  fun k hk ↦ (hs.created k hk).trans_le (Ledger.created_le_create _ _), nofun,
                  hs.port⟩
  | _ => simp [next, hcaller] at h

theorem inv_uninitializeCommunication (hs : Inv s)
    (h : next a s .uninitializeCommunication = some s') : Inv s' := by
  cases hcaller : s.caller with
  | idle =>
      simp only [next, hcaller] at h
      split_ifs at h with hlen hport
      · obtain rfl := Option.some.inj h
        exact hs
      · exact absurd hport (hs.port fun hnil ↦ hlen (by simp [hnil]))
      · obtain rfl := Option.some.inj h
        refine ⟨fun t ht k hk ↦ hs.blocked t ht k (hk.back rfl id), ?_, hs.created, nofun,
          hs.port⟩
        intro rest _ k hk
        apply List.mem_append_right
        exact Option.mem_toList.mpr hk
  | _ => simp [next, hcaller] at h

theorem inv_join (hs : Inv s) (h : next a s .join = some s') : Inv s' := by
  cases hcaller : s.caller with
  | joining rest =>
      cases rest with
      | nil => simp [next, hcaller] at h
      | cons t rest =>
          simp only [next, hcaller] at h
          split_ifs at h
          obtain rfl := Option.some.inj h
          exact ⟨fun t ht k hk ↦ hs.blocked t ht k (hk.back rfl id),
            fun _ _ k hk ↦ hs.signalled _ hcaller k hk, hs.created, nofun, hs.port⟩
  | _ => simp [next, hcaller] at h

theorem inv_release (h : next a s .release = some s') : Inv s' := by
  cases hcaller : s.caller with
  | joining rest =>
      cases rest with
      | cons t rest => simp [next, hcaller] at h
      | nil =>
          simp only [next, hcaller] at h
          obtain rfl := Option.some.inj h
          exact ⟨fun t ht ↦ absurd ht List.not_mem_nil, nofun,
            fun k hk ↦ absurd hk.symm (Option.some_ne_none k), nofun, fun hne ↦ absurd rfl hne⟩
  | _ => simp [next, hcaller] at h

/-- A thread that has copied the handle has copied the one in the global. -/
theorem inv_copyHandle {t : ℕ} (hs : Inv s) (h : next a s (.copyHandle t) = some s') : Inv s' := by
  simp only [next] at h
  split_ifs at h with hcopy
  obtain rfl := Option.some.inj h
  refine ⟨fun t' ht' k hk ↦ ?_, hs.signalled, hs.created, hs.starting, hs.port⟩
  by_cases heq : t' = t
  · subst heq
    have hcopied := hk.waitHandle
    simp only [setThread, Function.update_self] at hcopied
    exact Option.some.inj hcopied
  · exact hs.blocked t' ht' k (hk.back (Function.update_of_ne heq _ _) id)

/-- A step of a thread ends its wait, and touches nothing of the library. -/
theorem inv_goTo {t : ℕ} {pc : Pc} (hs : Inv s) (h : s.goTo t pc = some s') : Inv s' := by
  have hset : ∀ running, (∀ k ∈ running, k ∈ s.library.running) → Inv
      { s.setThread t ⟨pc, none, (s.thread t).hEvent⟩ with
        library := { s.library with running := running } } := by
    intro running hrunning
    refine ⟨fun t' ht' k hk ↦ ?_, hs.signalled, hs.created, hs.starting, hs.port⟩
    by_cases heq : t' = t
    · subst heq
      have hcopied := hk.waitHandle
      simp [setThread] at hcopied
    · exact hs.blocked t' ht' k (hk.back (Function.update_of_ne heq _ _) (hrunning t'))
  cases pc with
  | faulted => cases h
  | returned =>
      obtain rfl := Option.some.inj h
      exact hset _ fun k hk ↦ List.mem_of_mem_filter hk
  | _ =>
      obtain rfl := Option.some.inj h
      exact hset _ fun k hk ↦ hk

theorem inv_next {act : Action} (hs : Inv s) (h : next a s act = some s')
    (hfree : Undisturbed s act) : Inv s' := by
  cases act with
  | initializeCommunication n createEvent => exact inv_initializeCommunication hs hfree h
  | filterConnectCommunicationPort result => exact inv_filterConnectCommunicationPort hs h
  | startThread env => exact inv_startThread hs h
  | uninitializeCommunication => exact inv_uninitializeCommunication hs h
  | join => exact inv_join hs h
  | release => exact inv_release h
  | copyHandle t => exact inv_copyHandle hs h
  | thread t buffer result =>
      simp only [next] at h
      split_ifs at h
      obtain ⟨pc, _, hpc⟩ := Option.bind_eq_some_iff.mp h
      exact inv_goTo hs hpc

theorem inv_of_reachable (h : ((sessions a).restrict Undisturbed).Reachable s) : Inv s := by
  apply h.restrict_invariant (I := Inv)
  · rintro s rfl
    exact inv_initialSession
  · intro s act t hs hstep hfree
    exact inv_next hs hstep hfree

end Steps

/-! ## A handle that is replaced -/

section Replaced

variable {a : Arch} {s s' : Session}

/-- A refused call that stores its event, and a shutdown up to its join loop. -/
def refuseAndJoin : List Action :=
  [.filterConnectCommunicationPort 0x80070002#32, .uninitializeCommunication]

theorem exec_refuseAndJoin {rounds : ℕ} (hcaller : s.caller = .connecting rounds)
    (hthreads : s.library.gCommunicationThreads ≠ [])
    (hport : s.library.gDllConnFilterPort ≠ none) :
    System.exec (next a) s refuseAndJoin = some { s with
      signalled := s.signalled ++ s.library.gRequestTerminateDllConnThreads.toList
      caller := .joining s.library.gCommunicationThreads } := by
  have hlen : s.library.gCommunicationThreads.length ≠ 0 :=
    fun hzero ↦ hthreads (List.length_eq_zero_iff.mp hzero)
  have hjoin : next a { s with caller := .idle } .uninitializeCommunication = some { s with
      signalled := s.signalled ++ s.library.gRequestTerminateDllConnThreads.toList
      caller := .joining s.library.gCommunicationThreads } := by
    simp only [next, if_neg hlen, if_neg hport]
  rw [refuseAndJoin, System.exec_cons, next_refused hcaller (by decide), Option.bind_some,
    System.exec_cons, hjoin]
  rfl

/-- From a blocked thread on, storing another event leads to a join without a signal. -/
theorem not_wakes_of_disturbed {act : Action} (hs : Inv s) (h : next a s act = some s')
    (hdisturbed : ¬ Undisturbed s act) :
    ∃ acts u, System.exec (next a) s' acts = some u ∧ ¬ Wakes u := by
  cases act with
  | initializeCommunication n createEvent =>
      simp only [Undisturbed, not_or, not_forall, not_not] at hdisturbed
      obtain ⟨hn, t, ht, k, hblocked⟩ := hdisturbed
      have hevent := hs.blocked t ht k hblocked
      have hthreads := List.ne_nil_of_mem ht
      cases hcaller : s.caller with
      | idle =>
          simp only [next, hcaller, if_neg hn] at h
          obtain rfl := Option.some.inj h
          refine ⟨refuseAndJoin, _, exec_refuseAndJoin rfl hthreads (hs.port hthreads), ?_⟩
          intro hwakes
          obtain ⟨hstored, _⟩ := hwakes _ rfl t ht k
            ⟨hblocked.running, hblocked.pc, hblocked.waitHandle, hblocked.hEvent⟩
          have hopen : k < s.library.handles.created := hs.created k hevent
          cases createEvent with
          | false => exact Option.some_ne_none k hstored.symm
          | true => exact absurd (Option.some.inj hstored) hopen.ne'
      | _ => simp [next, hcaller] at h
  | _ => exact absurd trivial hdisturbed

end Replaced

/-- While no call stores an event over one that a thread is blocked on, every join
loop has signalled the event of every blocked thread; a call that does so can always be
followed by a join loop that has not. -/
theorem wakes_undisturbed (a : Arch) :
    (∀ s, ((sessions a).restrict Undisturbed).Reachable s → Wakes s) ∧
      ∀ s act s', ((sessions a).restrict Undisturbed).Reachable s → next a s act = some s' →
        ¬ Undisturbed s act → ∃ acts u, System.exec (next a) s' acts = some u ∧ ¬ Wakes u :=
  ⟨fun _ h ↦ (inv_of_reachable h).wakes,
    fun _ _ _ h hnext hdisturbed ↦ not_wakes_of_disturbed (inv_of_reachable h) hnext hdisturbed⟩

def waitTimeout : Dword := 258#32

def zeroBuffer : MessageBuffer := ⟨fun _ ↦ 0, messageBufferSize, le_rfl⟩

/-- A call whose thread blocks. -/
def firstCall : List Action :=
  [.initializeCommunication 1 true, .filterConnectCommunicationPort sOk,
    .startThread ⟨true, true, true, true⟩,
    .thread 0 zeroBuffer (.waitForSingleObject waitTimeout),
    .thread 0 zeroBuffer (.filterGetMessage (hresultFromWin32 errorIoPending)), .copyHandle 0]

theorem firstCall_blocks : ∃ s, System.exec (next .x64) initialSession firstCall = some s ∧
    s.caller = .idle ∧ s.library.gCommunicationThreads = [0] ∧
    s.library.gDllConnFilterPort ≠ none ∧ s.library.handles.created = 3 ∧ Blocked s 0 0 := by
  refine ⟨_, rfl, rfl, rfl, Option.some_ne_none _, rfl, ?_⟩
  exact ⟨List.mem_singleton.mpr rfl, rfl, rfl, Option.some_ne_none _⟩

theorem reachable_undisturbed {a : Arch} {s s' : Session}
    (h : ((sessions a).restrict Undisturbed).Reachable s) (act : Action)
    (hnext : next a s act = some s') (hfree : Undisturbed s act) :
    ((sessions a).restrict Undisturbed).Reachable s' :=
  h.step ⟨hnext, hfree⟩

/-- A shutdown while the only thread is blocked. -/
theorem wakes_firstCall : ∃ s, System.exec (next .x64) initialSession
    (firstCall ++ [.uninitializeCommunication]) = some s ∧ Wakes s := by
  have hinit : ((sessions .x64).restrict Undisturbed).Reachable initialSession := .init rfl
  have hstored := reachable_undisturbed hinit (.initializeCommunication 1 true) rfl
    (Or.inr fun t ht ↦ absurd ht List.not_mem_nil)
  have hconnected := reachable_undisturbed hstored (.filterConnectCommunicationPort sOk) rfl trivial
  have hstarted := reachable_undisturbed hconnected (.startThread ⟨true, true, true, true⟩) rfl
    trivial
  have htested := reachable_undisturbed hstarted
    (.thread 0 zeroBuffer (.waitForSingleObject waitTimeout)) rfl trivial
  have hreceives := reachable_undisturbed htested
    (.thread 0 zeroBuffer (.filterGetMessage (hresultFromWin32 errorIoPending))) rfl trivial
  have hblocked := reachable_undisturbed hreceives (.copyHandle 0) rfl trivial
  have hjoining := reachable_undisturbed hblocked .uninitializeCommunication rfl trivial
  exact ⟨_, rfl, (wakes_undisturbed .x64).1 _ hjoining⟩

/-- A second call creates its event and is refused, and the library is shut down. -/
theorem not_wakes_secondCall : ¬ ∀ s, (sessions .x64).Reachable s → Wakes s := by
  intro hall
  obtain ⟨s, hexec, hcaller, hthreads, hport, hcreated, hblocked⟩ := firstCall_blocks
  have hreach : (sessions .x64).Reachable s := ⟨_, _, rfl, System.Run.of_exec hexec⟩
  have hstored := @next_initializeCommunication .x64 s hcaller true
  have hne : s.library.gCommunicationThreads ≠ [] := by simp [hthreads]
  have hjoin := exec_refuseAndJoin (a := .x64) (s := { s with
    library := storeTerminateEvent true s.library, caller := .connecting 1 }) rfl hne hport
  have hwakes := hall _ ((hreach.step hstored).exec hjoin)
  have hmem : 0 ∈ s.library.gCommunicationThreads := hthreads ▸ List.mem_singleton.mpr rfl
  have hevent := (hwakes _ rfl 0 hmem 0 ⟨hblocked.running, hblocked.pc, hblocked.waitHandle,
    hblocked.hEvent⟩).1
  have hfirst : s.library.handles.created = 0 := Option.some.inj hevent
  rw [hcreated] at hfirst
  cases hfirst

end NtDriver.Shutdown
