import NtDriver.Lib.Simulation
import NtDriver.LibraryLifecycle
import NtDriver.ShutdownEnds

/-!
# Calls of the library as whole calls

Between the steps of `InitializeDriverLibrary` and of `UninitializeDriverLibrary` the
threads run on, and some of them end.  The calls still come out as whole ones, between
which the threads end.
-/

namespace NtDriver.WholeCalls

open Library Transition Shutdown
open LibraryLifecycle (Event lifecycle)

/-- `InitializeDriverLibrary` asks for one thread. -/
def OneThread (_ : Session) : Action → Prop
  | .initializeCommunication n _ => n = 1
  | _ => True

/-- The steps that decide what a call does.  A join only waits, and the release follows. -/
def isDeciding : Action → Bool
  | .initializeCommunication _ _ | .filterConnectCommunicationPort _ | .startThread _
  | .uninitializeCommunication => true
  | _ => false

/-- The deciding steps of a whole call. -/
def steps : Event → List Action
  | .initializeDriverLibrary env =>
      .initializeCommunication 1 env.createEvent ::
        .filterConnectCommunicationPort env.filterConnectCommunicationPort ::
          if succeeded env.filterConnectCommunicationPort then [.startThread (env.rounds 0)]
          else []
  | .uninitializeDriverLibrary => [.uninitializeCommunication]
  | .threadEnds _ => []

/-- What the call under way has made of the library `l` that it found, and by which steps. -/
def UnderWay (l k : Library) (own : List Action) : Caller → Prop
  | .idle => own = [] ∧ k = l
  | .connecting rounds => rounds = 1 ∧ ∃ createEvent,
      own = [.initializeCommunication 1 createEvent] ∧ k = storeTerminateEvent createEvent l
  | .starting rounds => rounds = 1 ∧ ∃ createEvent result, succeeded result = true ∧
      own = [.initializeCommunication 1 createEvent, .filterConnectCommunicationPort result] ∧
      k = storePort (storeTerminateEvent createEvent l)
  | .joining _ => own = [.uninitializeCommunication] ∧ k = l

/-- The whole calls `fs` so far have left the library as the call under way found it. -/
structure Follows (s : Session) (es : List Action) (l : Library) (fs : List Event) : Prop where
  joins : Joins s
  order : ∃ own, UnderWay l s.library own s.caller ∧
    es.filter isDeciding = fs.flatMap steps ++ own

/-- A step adds to the run, and to the whole calls what it completes. -/
def Matched (t : Session) (es : List Action) (l : Library) (fs : List Event) : Prop :=
  ∃ gs l', lifecycle.Run l gs l' ∧ Follows t es l' (fs ++ gs)

section Simulation

variable {a : Arch} {s t : Session} {es : List Action} {e : Action} {l : Library}
  {fs : List Event} {own : List Action}

/-- A step that leaves its call under way. -/
theorem matched_within (horder : es.filter isDeciding = fs.flatMap steps ++ own) (ht : Joins t)
    (hway : UnderWay l t.library (own ++ [e].filter isDeciding) t.caller) :
    Matched t (es ++ [e]) l fs := by
  refine ⟨[], l, .nil, ht, _, hway, ?_⟩
  rw [List.filter_append, horder, List.append_nil, List.append_assoc]

/-- A step of a thread, or a wait for one, that leaves the library as it is. -/
theorem matched_silent (horder : es.filter isDeciding = fs.flatMap steps ++ own) (ht : Joins t)
    (he : isDeciding e = false) (hway : UnderWay l t.library own t.caller) :
    Matched t (es ++ [e]) l fs := by
  apply matched_within horder ht
  rwa [List.filter_singleton, he, cond_false, List.append_nil]

/-- The last step of a call. -/
theorem matched_whole (horder : es.filter isDeciding = fs.flatMap steps ++ own) (ht : Joins t)
    (f : Event) (hnext : LibraryLifecycle.next l f = some t.library) (hidle : t.caller = .idle)
    (hsteps : steps f = own ++ [e].filter isDeciding) : Matched t (es ++ [e]) l fs := by
  refine ⟨[f], t.library, .single hnext, ht, [], by rw [hidle]; exact ⟨rfl, rfl⟩, ?_⟩
  rw [List.filter_append, horder, List.flatMap_append, List.flatMap_singleton, hsteps,
    List.append_nil, List.append_assoc]

/-- A thread may as well end before the call under way. -/
theorem UnderWay.ended {k : Library} {c : Caller} (h : UnderWay l k own c) (u : ℕ) :
    UnderWay { l with running := l.running.filter (· ≠ u) }
      { k with running := k.running.filter (· ≠ u) } own c := by
  cases c with
  | idle =>
      obtain ⟨rfl, rfl⟩ := h
      exact ⟨rfl, rfl⟩
  | connecting rounds =>
      obtain ⟨rfl, createEvent, rfl, rfl⟩ := h
      exact ⟨rfl, createEvent, rfl, rfl⟩
  | starting rounds =>
      obtain ⟨rfl, createEvent, result, hresult, rfl, rfl⟩ := h
      exact ⟨rfl, createEvent, result, hresult, rfl, rfl⟩
  | joining rest =>
      obtain ⟨rfl, rfl⟩ := h
      exact ⟨rfl, rfl⟩

theorem matched_initializeCommunication {n : ℤ} {createEvent : Bool} (h : Follows s es l fs)
    (hone : n = 1) (hstep : next a s (.initializeCommunication n createEvent) = some t) :
    Matched t (es ++ [.initializeCommunication n createEvent]) l fs := by
  obtain ⟨own, hway, horder⟩ := h.order
  have ht := joins_next h.joins hstep
  subst hone
  cases hcaller : s.caller with
  | idle =>
      rw [hcaller] at hway
      obtain ⟨rfl, hlibrary⟩ := hway
      rw [next_initializeCommunication hcaller] at hstep
      obtain rfl := Option.some.inj hstep
      exact matched_within horder ht ⟨rfl, createEvent, rfl, by rw [hlibrary]⟩
  | _ => simp [next, hcaller] at hstep

/-- A refused connect ends its call. -/
theorem matched_filterConnectCommunicationPort {result : Hresult} (h : Follows s es l fs)
    (hstep : next a s (.filterConnectCommunicationPort result) = some t) :
    Matched t (es ++ [.filterConnectCommunicationPort result]) l fs := by
  obtain ⟨own, hway, horder⟩ := h.order
  have ht := joins_next h.joins hstep
  cases hcaller : s.caller with
  | connecting rounds =>
      rw [hcaller] at hway
      obtain ⟨rfl, createEvent, rfl, hlibrary⟩ := hway
      cases hresult : succeeded result with
      | true =>
          rw [next_connected hcaller hresult] at hstep
          obtain rfl := Option.some.inj hstep
          exact matched_within horder ht
            ⟨rfl, createEvent, result, hresult, rfl, congrArg storePort hlibrary⟩
      | false =>
          rw [next_refused hcaller hresult] at hstep
          obtain rfl := Option.some.inj hstep
          have hcall : LibraryLifecycle.next l (.initializeDriverLibrary
              ⟨createEvent, result, fun _ ↦ ⟨true, true, true, true⟩⟩) = some s.library := by
            rw [LibraryLifecycle.next, initializeDriverLibrary_refused hresult, hlibrary]
            rfl
          refine matched_whole horder ht _ hcall rfl ?_
          rw [steps, hresult]
          rfl
  | _ => simp [next, hcaller] at hstep

/-- A call that connects leaves the library as its one round does. -/
theorem next_initializeDriverLibrary {env : InitEnv} {k : Library}
    (h : succeeded env.filterConnectCommunicationPort = true)
    (hround : Library.startThread (env.rounds 0) (connected env l) = .ok () k ∨
      ∃ exception, Library.startThread (env.rounds 0) (connected env l) =
        .error (.thrown exception) k) :
    LibraryLifecycle.next l (.initializeDriverLibrary env) = some k := by
  rw [LibraryLifecycle.next, initializeDriverLibrary_connected h]
  rcases hround with hround | ⟨exception, hround⟩
  · rw [hround]
    rfl
  · rw [hround]
    rfl

/-- The one round ends the call, with its thread or with an exception. -/
theorem matched_startThread {env : ThreadEnv} (h : Follows s es l fs)
    (hstep : next a s (.startThread env) = some t) :
    Matched t (es ++ [.startThread env]) l fs := by
  obtain ⟨own, hway, horder⟩ := h.order
  have ht := joins_next h.joins hstep
  cases hcaller : s.caller with
  | starting rounds =>
      rw [hcaller] at hway
      obtain ⟨rfl, createEvent, result, hresult, rfl, hlibrary⟩ := hway
      have hsteps : steps (.initializeDriverLibrary ⟨createEvent, result, fun _ ↦ env⟩) =
          [.initializeCommunication 1 createEvent, .filterConnectCommunicationPort result,
            .startThread env] := by
        rw [steps, hresult]
        rfl
      simp only [next, hcaller] at hstep
      cases hround : Library.startThread env s.library with
      | ok u l' =>
          rw [hround] at hstep
          rw [hlibrary] at hround
          obtain rfl := Option.some.inj hstep
          exact matched_whole horder ht _
            (next_initializeDriverLibrary hresult (Or.inl hround)) rfl hsteps
      | error exit l' =>
          rw [hround] at hstep
          rw [hlibrary] at hround
          cases exit with
          | terminated => cases hstep
          | thrown exception =>
              obtain rfl := Option.some.inj hstep
              exact matched_whole horder ht _
                (next_initializeDriverLibrary hresult (Or.inr ⟨exception, hround⟩)) rfl hsteps
  | _ => simp [next, hcaller] at hstep

theorem matched_uninitializeCommunication (h : Follows s es l fs)
    (hstep : next a s .uninitializeCommunication = some t) :
    Matched t (es ++ [.uninitializeCommunication]) l fs := by
  obtain ⟨own, hway, horder⟩ := h.order
  have ht := joins_next h.joins hstep
  obtain ⟨hcaller, hout⟩ := next_uninitializeCommunication hstep
  rw [hcaller] at hway
  obtain ⟨rfl, hlibrary⟩ := hway
  rcases hout with ⟨hidle, -, hcall, -⟩ | ⟨-, -, rfl⟩
  · rw [hlibrary] at hcall
    exact matched_whole horder ht .uninitializeDriverLibrary (congrArg some hcall.symm) hidle rfl
  · exact matched_within horder ht ⟨rfl, hlibrary⟩

theorem matched_join (h : Follows s es l fs) (hstep : next a s .join = some t) :
    Matched t (es ++ [.join]) l fs := by
  obtain ⟨own, hway, horder⟩ := h.order
  have ht := joins_next h.joins hstep
  cases hcaller : s.caller with
  | joining rest =>
      rw [hcaller] at hway
      cases rest with
      | nil => simp [next, hcaller] at hstep
      | cons u rest =>
          simp only [next, hcaller] at hstep
          split_ifs at hstep
          obtain rfl := Option.some.inj hstep
          exact matched_silent horder ht rfl hway
  | _ => simp [next, hcaller] at hstep

/-- The threads have all ended by then, so there is nothing left to wait for. -/
theorem matched_release (h : Follows s es l fs) (hstep : next a s .release = some t) :
    Matched t (es ++ [.release]) l fs := by
  obtain ⟨own, hway, horder⟩ := h.order
  have ht := joins_next h.joins hstep
  obtain ⟨hcaller, hrunning, rfl⟩ := next_release h.joins hstep
  obtain ⟨hthreads, hport, -⟩ := h.joins.joining [] hcaller
  rw [hcaller] at hway
  obtain ⟨rfl, rfl⟩ := hway
  have hlen : s.library.gCommunicationThreads.length ≠ 0 :=
    fun hzero ↦ hthreads (List.length_eq_zero_iff.mp hzero)
  have hcall : uninitializeCommunication s.library = Library.release s.library := by
    rw [uninitializeCommunication, if_neg hlen, if_neg hport]
    simp [joined, Library.release, hrunning]
  exact matched_whole horder ht .uninitializeDriverLibrary (congrArg some hcall) rfl rfl

theorem matched_copyHandle {u : ℕ} (h : Follows s es l fs)
    (hstep : next a s (.copyHandle u) = some t) : Matched t (es ++ [.copyHandle u]) l fs := by
  obtain ⟨own, hway, horder⟩ := h.order
  have ht := joins_next h.joins hstep
  simp only [next] at hstep
  split_ifs at hstep
  obtain rfl := Option.some.inj hstep
  exact matched_silent horder ht rfl hway

theorem matched_thread {u : ℕ} {buffer : MessageBuffer} {result : CommThread.Result}
    (h : Follows s es l fs) (hstep : next a s (.thread u buffer result) = some t) :
    Matched t (es ++ [.thread u buffer result]) l fs := by
  obtain ⟨own, hway, horder⟩ := h.order
  have ht := joins_next h.joins hstep
  simp only [next] at hstep
  split_ifs at hstep
  obtain ⟨pc, -, hpc⟩ := Option.bind_eq_some_iff.mp hstep
  rcases goTo_cases hpc with ⟨-, rfl⟩ | ⟨-, rfl⟩
  · exact matched_silent horder ht rfl hway
  · refine ⟨[.threadEnds u], _, .single rfl, ht, own, hway.ended u, ?_⟩
    rw [List.filter_append, horder, List.flatMap_append]
    simp [steps, isDeciding]

theorem matched_next (h : Follows s es l fs) (hstep : next a s e = some t)
    (hone : OneThread s e) : Matched t (es ++ [e]) l fs := by
  cases e with
  | initializeCommunication n createEvent => exact matched_initializeCommunication h hone hstep
  | filterConnectCommunicationPort result =>
      exact matched_filterConnectCommunicationPort h hstep
  | startThread env => exact matched_startThread h hstep
  | uninitializeCommunication => exact matched_uninitializeCommunication h hstep
  | join => exact matched_join h hstep
  | release => exact matched_release h hstep
  | copyHandle u => exact matched_copyHandle h hstep
  | thread u buffer result => exact matched_thread h hstep

theorem follows_initialSession : Follows initialSession [] loaded [] where
  joins := joins_initialSession
  order := ⟨[], ⟨rfl, rfl⟩, rfl⟩

end Simulation

/-- However the threads run in between, the calls leave the library as whole calls do, with
threads ending ahead of each, and with the same outcomes in the same order. -/
theorem wholeCalls_of_run {a : Arch} {es : List Action} {s : Session}
    (hrun : ((sessions a).restrict OneThread).Run initialSession es s)
    (hidle : s.caller = .idle) :
    ∃ fs, lifecycle.Run loaded fs s.library ∧ es.filter isDeciding = fs.flatMap steps := by
  obtain ⟨fs, l, hcalls, hfollows⟩ :=
    System.Run.simulate (C := (sessions a).restrict OneThread) (A := lifecycle) (R := Follows)
      (fun _ _ _ _ _ _ h hstep ↦ matched_next h hstep.1 hstep.2) hrun follows_initialSession
  obtain ⟨own, hway, horder⟩ := hfollows.order
  rw [hidle] at hway
  obtain ⟨rfl, hlibrary⟩ := hway
  exact ⟨fs, hlibrary ▸ hcalls, horder.trans (List.append_nil _)⟩

theorem run_oneThread {a : Arch} {s t : Session} {es : List Action}
    (h : ((sessions a).restrict OneThread).Run initialSession es s) (e : Action)
    (hnext : next a s e = some t) (hone : OneThread s e) :
    ((sessions a).restrict OneThread).Run initialSession (es ++ [e]) t :=
  h.snoc ⟨hnext, hone⟩

/-- The thread ends while the library already waits for it. -/
theorem wholeCalls_endsInJoin : ∃ es s fs,
    ((sessions .x64).restrict OneThread).Run initialSession es s ∧ s.caller = .idle ∧
    s.library.spawned = 1 ∧ lifecycle.Run loaded fs s.library ∧
    es.filter isDeciding = fs.flatMap steps := by
  have h₁ := run_oneThread (a := .x64) .nil (.initializeCommunication 1 true) rfl rfl
  have h₂ := run_oneThread h₁ (.filterConnectCommunicationPort sOk) rfl trivial
  have h₃ := run_oneThread h₂ (.startThread ⟨true, true, true, true⟩) rfl trivial
  have h₄ := run_oneThread h₃ .uninitializeCommunication rfl trivial
  have h₅ := run_oneThread h₄ (.thread 0 zeroBuffer (.waitForSingleObject waitObject0)) rfl trivial
  have h₆ := run_oneThread h₅ .join rfl trivial
  have h₇ := run_oneThread h₆ .release rfl trivial
  obtain ⟨fs, hcalls, hsteps⟩ := wholeCalls_of_run h₇ rfl
  exact ⟨_, _, fs, h₇, rfl, rfl, hcalls, hsteps⟩

end NtDriver.WholeCalls
