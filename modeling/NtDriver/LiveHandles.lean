import NtDriver.ShutdownEnds

/-!
# Handles in use

The library closes the termination event and the port while its globals still name
them, and the threads work with copies of their own.  No order of the calls and of the
threads' steps closes a handle that a thread still uses, or closes a handle twice.
-/

namespace NtDriver.Shutdown

open Handles Library Transition CommThread

/-- The handles that a thread keeps: its copy of the termination event and the event of
its `OVERLAPPED`. -/
def Thread.Keeps (thread : Thread) (h : ℕ) : Prop :=
  thread.waitHandle = some (some h) ∨ thread.hEvent = some h

/-- A running thread finds a port, and what it uses is open; nothing is closed twice. -/
structure HandlesSafe (s : Session) : Prop where
  port : ∀ t ∈ s.library.running, ∃ h, s.library.gDllConnFilterPort = some h ∧
    s.library.handles.Open h
  event : ∀ h, s.library.gRequestTerminateDllConnThreads = some h → s.library.handles.Open h
  kept : ∀ t ∈ s.library.running, ∀ h, (s.thread t).Keeps h → s.library.handles.Open h
  once : s.library.handles.closed.Nodup

structure Live (s : Session) : Prop where
  port : ∀ h, s.library.gDllConnFilterPort = some h → s.library.handles.Open h
  event : ∀ h, s.library.gRequestTerminateDllConnThreads = some h → s.library.handles.Open h
  apart : ∀ h, s.library.gRequestTerminateDllConnThreads = some h →
    s.library.gDllConnFilterPort ≠ some h
  running : ∀ t ∈ s.library.running, s.library.gDllConnFilterPort ≠ none
  starting : ∀ rounds, s.caller = .starting rounds → s.library.gDllConnFilterPort ≠ none
  kept : ∀ t ∈ s.library.running, ∀ h, (s.thread t).Keeps h → s.library.handles.Open h
  once : s.library.handles.closed.Nodup

theorem Live.handlesSafe {s : Session} (h : Live s) : HandlesSafe s where
  port t ht := by
    obtain ⟨p, hp⟩ := Option.ne_none_iff_exists'.mp (h.running t ht)
    exact ⟨p, hp, h.port p hp⟩
  event := h.event
  kept := h.kept
  once := h.once

theorem live_initialSession : Live initialSession where
  port h hh := absurd hh.symm (Option.some_ne_none h)
  event h hh := absurd hh.symm (Option.some_ne_none h)
  apart h hh := absurd hh.symm (Option.some_ne_none h)
  running t ht := absurd ht List.not_mem_nil
  starting rounds hrounds := by cases hrounds
  kept t ht := absurd ht List.not_mem_nil
  once := List.nodup_nil

section Steps

variable {a : Arch} {s s' : Session}

/-- A step of the caller alone. -/
theorem Live.call (hs : Live s) {caller : Caller} {signalled : List ℕ}
    (hcaller : ∀ rounds, caller = .starting rounds → s.library.gDllConnFilterPort ≠ none) :
    Live { s with caller := caller, signalled := signalled } :=
  ⟨hs.port, hs.event, hs.apart, hs.running, hcaller, hs.kept, hs.once⟩

theorem live_initializeCommunication {n : ℤ} {createEvent : Bool} (hs : Live s)
    (h : next a s (.initializeCommunication n createEvent) = some s') : Live s' := by
  cases hcaller : s.caller with
  | idle =>
      simp only [next, hcaller] at h
      split_ifs at h
      · obtain rfl := Option.some.inj h
        exact hs
      · obtain rfl := Option.some.inj h
        exact {
          port := fun p hp ↦ (hs.port p hp).create _
          event := fun k hk ↦ (Ledger.open_create_iff _ _ _).mpr (Or.inr hk)
          apart := fun k hk hport ↦ (hs.port k hport).create_ne _ hk
          running := hs.running
          starting := fun rounds hrounds ↦ by cases hrounds
          kept := fun t ht k hk ↦ (hs.kept t ht k hk).create _
          once := by
            rw [storeTerminateEvent, Ledger.closed_create]
            exact hs.once }
  | _ => simp [next, hcaller] at h

theorem live_filterConnectCommunicationPort {result : Hresult} (hs : Live s)
    (h : next a s (.filterConnectCommunicationPort result) = some s') : Live s' := by
  cases hcaller : s.caller with
  | connecting rounds =>
      simp only [next, hcaller] at h
      cases hresult : succeeded result with
      | true =>
          rw [filterConnect_success hresult] at h
          obtain rfl := Option.some.inj h
          exact {
            port := fun p hp ↦ (Ledger.open_create_iff _ _ _).mpr (Or.inr hp)
            event := fun k hk ↦ (hs.event k hk).create _
            apart := fun k hk ↦ (hs.event k hk).create_ne true
            running := fun _ _ ↦ Option.some_ne_none _
            starting := fun _ _ ↦ Option.some_ne_none _
            kept := fun t ht k hk ↦ (hs.kept t ht k hk).create _
            once := by
              rw [storePort, Ledger.closed_create]
              exact hs.once }
      | false =>
          rw [filterConnect_failure hresult] at h
          obtain rfl := Option.some.inj h
          exact hs.call fun rounds hrounds ↦ by cases hrounds
  | _ => simp [next, hcaller] at h

/-- What a round leaves behind when it throws: at most an event of its own. -/
theorem Live.createThreadEvent (hs : Live s) (ok : Bool) :
    Live { s with library := Library.createThreadEvent ok s.library } where
  port p hp := (hs.port p hp).create _
  event k hk := (hs.event k hk).create _
  apart := hs.apart
  running := hs.running
  starting := hs.starting
  kept t ht k hk := (hs.kept t ht k hk).create _
  once := by
    rw [Library.createThreadEvent, Ledger.closed_create]
    exact hs.once

theorem live_startThread {env : ThreadEnv} (hs : Live s)
    (h : next a s (.startThread env) = some s') : Live s' := by
  cases hcaller : s.caller with
  | starting rounds =>
      simp only [next, hcaller] at h
      have hport := hs.starting rounds hcaller
      have hevent := hs.createThreadEvent env.createEvent
      cases hround : Library.startThread env s.library with
      | ok u l =>
          obtain rfl := startThread_ok hround
          rw [hround] at h
          obtain rfl := Option.some.inj h
          refine ⟨hevent.port, hevent.event, hevent.apart, fun _ _ ↦ hport, fun _ _ ↦ hport,
            fun t ht k hk ↦ ?_, hevent.once⟩
          by_cases heq : t = s.library.spawned
          · subst heq
            have hnew : (s.library.handles.create env.createEvent).1 = some k := by
              simpa [Thread.Keeps, Session.setThread] using hk
            exact (Ledger.open_create_iff _ _ _).mpr (Or.inr hnew)
          · have hold := (List.mem_append.mp ht).resolve_right
              fun hnew ↦ heq (List.mem_singleton.mp hnew)
            exact hevent.kept t hold k (by simpa [Session.setThread, heq] using hk)
      | error exit l =>
          rw [hround] at h
          cases exit with
          | terminated => cases h
          | thrown e =>
              obtain rfl := Option.some.inj h
              rcases startThread_thrown hround with rfl | rfl
              · exact hs.call fun rounds hrounds ↦ by cases hrounds
              · exact hevent.call fun rounds hrounds ↦ by cases hrounds
  | _ => simp [next, hcaller] at h

theorem live_uninitializeCommunication (hs : Live s)
    (h : next a s .uninitializeCommunication = some s') : Live s' := by
  cases hcaller : s.caller with
  | idle =>
      simp only [next, hcaller] at h
      split_ifs at h with hlen hport
      · obtain rfl := Option.some.inj h
        exact hs
      · obtain rfl := Option.some.inj h
        rw [← hport]
        exact hs.call fun rounds hrounds ↦ by cases hrounds
      · obtain rfl := Option.some.inj h
        exact hs.call fun rounds hrounds ↦ by cases hrounds
  | _ => simp [next, hcaller] at h

theorem live_join (hs : Live s) (h : next a s .join = some s') : Live s' := by
  cases hcaller : s.caller with
  | joining rest =>
      cases rest with
      | nil => simp [next, hcaller] at h
      | cons t rest =>
          simp only [next, hcaller] at h
          split_ifs at h
          obtain rfl := Option.some.inj h
          exact hs.call fun rounds hrounds ↦ by cases hrounds
  | _ => simp [next, hcaller] at h

/-- Both handles are closed behind the join loop, when no thread is left to use them. -/
theorem live_release (hs : Live s) (hjoins : Joins s) (h : next a s .release = some s') :
    Live s' := by
  obtain ⟨_, hrunning, rfl⟩ := next_release hjoins h
  have hport : ∀ p, s.library.gDllConnFilterPort = some p →
      (s.library.handles.close s.library.gRequestTerminateDllConnThreads).Open p := by
    intro p hp
    rw [Ledger.open_close_iff hs.event]
    exact ⟨hs.port p hp, fun hevent ↦ hs.apart p hevent hp⟩
  exact {
    port := fun p hp ↦ absurd hp.symm (Option.some_ne_none p)
    event := fun k hk ↦ absurd hk.symm (Option.some_ne_none k)
    apart := fun k hk ↦ absurd hk.symm (Option.some_ne_none k)
    running := fun t ht ↦ absurd (hrunning ▸ ht) List.not_mem_nil
    starting := fun rounds hrounds ↦ by cases hrounds
    kept := fun t ht ↦ absurd (hrunning ▸ ht) List.not_mem_nil
    once := Ledger.nodup_close hport (Ledger.nodup_close hs.event hs.once) }

theorem live_copyHandle {t : ℕ} (hs : Live s) (h : next a s (.copyHandle t) = some s') :
    Live s' := by
  simp only [next] at h
  split_ifs at h with hcopy
  obtain rfl := Option.some.inj h
  refine ⟨hs.port, hs.event, hs.apart, hs.running, hs.starting, fun k hk p hp ↦ ?_, hs.once⟩
  by_cases heq : k = t
  · subst heq
    rcases hp with hp | hp
    · exact hs.event p (by simpa [Session.setThread] using hp)
    · exact hs.kept k hk p (Or.inr (by simpa [Session.setThread] using hp))
  · exact hs.kept k hk p (by simpa [Session.setThread, heq] using hp)

theorem live_goTo {t : ℕ} {pc : Pc} (hs : Live s) (ht : t ∈ s.library.running)
    (h : s.goTo t pc = some s') : Live s' := by
  -- the thread drops its copy of the termination event, and keeps its own event
  have hkept : ∀ pc', ∀ k ∈ s.library.running, ∀ p,
      ((s.setThread t ⟨pc', none, (s.thread t).hEvent⟩).thread k).Keeps p →
        s.library.handles.Open p := by
    intro pc' k hk p hp
    by_cases heq : k = t
    · subst heq
      exact hs.kept k hk p (Or.inr (by simpa [Thread.Keeps, Session.setThread] using hp))
    · exact hs.kept k hk p (by simpa [Session.setThread, heq] using hp)
  rcases goTo_cases h with ⟨-, rfl⟩ | ⟨-, rfl⟩
  · exact ⟨hs.port, hs.event, hs.apart, hs.running, hs.starting, hkept _, hs.once⟩
  · exact ⟨hs.port, hs.event, hs.apart, fun k hk ↦ hs.running k (List.mem_of_mem_filter hk),
      hs.starting, fun k hk ↦ hkept _ k (List.mem_of_mem_filter hk), hs.once⟩

theorem live_next {act : Action} (hs : Live s) (hjoins : Joins s) (h : next a s act = some s') :
    Live s' := by
  cases act with
  | initializeCommunication n createEvent => exact live_initializeCommunication hs h
  | filterConnectCommunicationPort result => exact live_filterConnectCommunicationPort hs h
  | startThread env => exact live_startThread hs h
  | uninitializeCommunication => exact live_uninitializeCommunication hs h
  | join => exact live_join hs h
  | release => exact live_release hs hjoins h
  | copyHandle t => exact live_copyHandle hs h
  | thread t buffer result =>
      simp only [next] at h
      split_ifs at h with hthread
      obtain ⟨pc, _, hpc⟩ := Option.bind_eq_some_iff.mp h
      exact live_goTo hs hthread.1 hpc

end Steps

/-- In every order of the library's calls and the threads' steps, also after a refused or
a repeated initialisation, a running thread works with open handles only. -/
theorem handlesSafe_of_reachable (a : Arch) (s : Session) (h : (sessions a).Reachable s) :
    HandlesSafe s := by
  have hlive : Live s ∧ Joins s := by
    apply h.invariant (I := fun s ↦ Live s ∧ Joins s)
    · rintro s rfl
      exact ⟨live_initialSession, joins_initialSession⟩
    · exact fun s act t hs hstep ↦ ⟨live_next hs.1 hs.2 hstep, joins_next hs.2 hstep⟩
  exact hlive.1.handlesSafe

theorem handlesSafe_firstCall : ∃ s, (sessions .x64).Reachable s ∧ s.library.running = [0] ∧
    HandlesSafe s := by
  obtain ⟨s, hreachable, _, _, hrunning, _, _⟩ := reachable_firstCall
  exact ⟨s, hreachable.of_restrict, hrunning,
    handlesSafe_of_reachable .x64 s hreachable.of_restrict⟩

end NtDriver.Shutdown
