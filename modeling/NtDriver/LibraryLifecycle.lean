import NtDriver.DllLibrary
import NtDriver.Lib.Transition

/-!
# The library's lifecycle

Calls of `InitializeDriverLibrary` and `UninitializeDriverLibrary`, one at a time,
with threads ending in between.  A handle that no global refers to, or that one
refers to while there is no thread, is never closed again.
-/

namespace NtDriver.LibraryLifecycle

open Handles Library Transition

inductive Event where
  | initializeDriverLibrary (env : InitEnv)
  | uninitializeDriverLibrary
  | threadEnds (t : ℕ)

def next (l : Library) : Event → Option Library
  | .initializeDriverLibrary env => (initializeDriverLibrary env l).map Prod.snd
  | .uninitializeDriverLibrary => some (uninitializeDriverLibrary l).2
  | .threadEnds t => some { l with running := l.running.filter (· ≠ t) }

def lifecycle : System Library Event := System.ofNext (· = loaded) next

/-- Nothing of the library is left. -/
structure Clean (l : Library) : Prop where
  running : l.running = []
  gCommunicationThreads : l.gCommunicationThreads = []
  gDllConnFilterPort : l.gDllConnFilterPort = none
  gRequestTerminateDllConnThreads : l.gRequestTerminateDllConnThreads = none
  settled : l.handles.Settled

/-! ## What holds in every run -/

structure Inv (l : Library) : Prop where
  running : ∀ t ∈ l.running, t ∈ l.gCommunicationThreads
  port_open : ∀ h, l.gDllConnFilterPort = some h → l.handles.Open h
  event_open : ∀ h, l.gRequestTerminateDllConnThreads = some h → l.handles.Open h
  apart : ∀ h, l.gDllConnFilterPort = some h → l.gRequestTerminateDllConnThreads ≠ some h
  nodup : l.handles.closed.Nodup
  port_isSome : l.gCommunicationThreads ≠ [] → l.gDllConnFilterPort ≠ none

section Inv

variable {l : Library}

theorem inv_loaded : Inv loaded where
  running _ ht := ht
  port_open h hh := absurd hh.symm (Option.some_ne_none h)
  event_open h hh := absurd hh.symm (Option.some_ne_none h)
  apart h hh := absurd hh.symm (Option.some_ne_none h)
  nodup := List.nodup_nil
  port_isSome hne := absurd rfl hne

theorem open_storeTerminateEvent_iff (createEvent : Bool) (h : ℕ) :
    (storeTerminateEvent createEvent l).handles.Open h ↔
      l.handles.Open h ∨
        (storeTerminateEvent createEvent l).gRequestTerminateDllConnThreads = some h :=
  Ledger.open_create_iff _ _ _

theorem open_storePort_iff (h : ℕ) :
    (storePort l).handles.Open h ↔
      l.handles.Open h ∨ (storePort l).gDllConnFilterPort = some h :=
  Ledger.open_create_iff _ _ _

theorem inv_storeTerminateEvent (hl : Inv l) (createEvent : Bool) :
    Inv (storeTerminateEvent createEvent l) where
  running := hl.running
  port_open h hh := (open_storeTerminateEvent_iff _ h).mpr (Or.inl (hl.port_open h hh))
  event_open h hh := (open_storeTerminateEvent_iff _ h).mpr (Or.inr hh)
  apart h hh := (hl.port_open h hh).create_ne _
  nodup := (Ledger.closed_create _ _).symm ▸ hl.nodup
  port_isSome := hl.port_isSome

theorem inv_storePort (hl : Inv l) : Inv (storePort l) where
  running := hl.running
  port_open h hh := (open_storePort_iff h).mpr (Or.inr hh)
  event_open h hh := (open_storePort_iff h).mpr (Or.inl (hl.event_open h hh))
  apart h hh hevent := (hl.event_open h hevent).create_ne _ hh
  nodup := (Ledger.closed_create _ _).symm ▸ hl.nodup
  port_isSome _ := Option.some_ne_none _

theorem inv_createThreadEvent (hl : Inv l) (createEvent : Bool) :
    Inv (createThreadEvent createEvent l) where
  running := hl.running
  port_open h hh := (hl.port_open h hh).create _
  event_open h hh := (hl.event_open h hh).create _
  apart := hl.apart
  nodup := (Ledger.closed_create _ _).symm ▸ hl.nodup
  port_isSome := hl.port_isSome

theorem inv_spawn (hl : Inv l) (hport : l.gDllConnFilterPort ≠ none) : Inv (spawn l) where
  running t ht := by
    rcases List.mem_append.mp ht with ht | ht
    · exact List.mem_append_left _ (hl.running t ht)
    · exact List.mem_append_right _ ht
  port_open := hl.port_open
  event_open := hl.event_open
  apart := hl.apart
  nodup := hl.nodup
  port_isSome _ := hport

theorem inv_connected (hl : Inv l) (env : InitEnv) : Inv (connected env l) :=
  inv_storePort (inv_storeTerminateEvent hl _)

/-- `UninitializeCommunication` with threads there: both handles are closed. -/
def closedBoth (l : Library) : Ledger :=
  (l.handles.close l.gRequestTerminateDllConnThreads).close l.gDllConnFilterPort

theorem open_closeEvent (hl : Inv l) (h : ℕ) (hh : l.gDllConnFilterPort = some h) :
    (l.handles.close l.gRequestTerminateDllConnThreads).Open h :=
  (Ledger.open_close_iff hl.event_open).mpr ⟨hl.port_open h hh, hl.apart h hh⟩

theorem open_closedBoth_iff (hl : Inv l) (h : ℕ) :
    (closedBoth l).Open h ↔ l.handles.Open h ∧
      l.gRequestTerminateDllConnThreads ≠ some h ∧ l.gDllConnFilterPort ≠ some h := by
  rw [closedBoth, Ledger.open_close_iff (open_closeEvent hl), Ledger.open_close_iff hl.event_open,
    and_assoc]

theorem nodup_closedBoth (hl : Inv l) : (closedBoth l).closed.Nodup :=
  Ledger.nodup_close (open_closeEvent hl) (Ledger.nodup_close hl.event_open hl.nodup)

theorem uninitializeCommunication_nil (h : l.gCommunicationThreads = []) :
    uninitializeCommunication l = l := by
  simp [uninitializeCommunication, h]

theorem uninitializeCommunication_cons (hl : Inv l) (h : l.gCommunicationThreads ≠ []) :
    uninitializeCommunication l = ⟨none, none, [], closedBoth l, l.spawned, []⟩ := by
  have hlen : l.gCommunicationThreads.length ≠ 0 :=
    fun hzero ↦ h (List.length_eq_zero_iff.mp hzero)
  have hrunning : l.running.filter (· ∉ l.gCommunicationThreads) = [] := by
    apply List.filter_eq_nil_iff.mpr
    intro t ht
    simpa using hl.running t ht
  rw [uninitializeCommunication, if_neg hlen, if_neg (hl.port_isSome h), joined, hrunning]
  rfl

theorem inv_uninitializeCommunication (hl : Inv l) : Inv (uninitializeCommunication l) := by
  by_cases h : l.gCommunicationThreads = []
  · rwa [uninitializeCommunication_nil h]
  · rw [uninitializeCommunication_cons hl h]
    refine ⟨fun _ ht ↦ ht, ?_, ?_, ?_, nodup_closedBoth hl, fun hne ↦ absurd rfl hne⟩
    all_goals
      intro k hk
      exact absurd hk.symm (Option.some_ne_none k)

theorem inv_next {e : Event} {l' : Library} (hl : Inv l) (h : next l e = some l') : Inv l' := by
  cases e with
  | threadEnds t =>
      obtain rfl := Option.some.inj h
      exact ⟨fun k hk ↦ hl.running k (List.mem_of_mem_filter hk), hl.port_open, hl.event_open,
        hl.apart, hl.nodup, hl.port_isSome⟩
  | uninitializeDriverLibrary =>
      obtain rfl := Option.some.inj h
      exact inv_uninitializeCommunication hl
  | initializeDriverLibrary env =>
      have hconnected := inv_connected hl env
      have hevent := inv_createThreadEvent hconnected (env.rounds 0).createEvent
      obtain ⟨⟨status, l''⟩, hcall, rfl⟩ := Option.map_eq_some_iff.mp h
      rcases initializeDriverLibrary_cases hcall with ⟨_, rfl⟩ | ⟨_, _, rfl | rfl⟩ | ⟨_, _, rfl⟩
      · exact inv_storeTerminateEvent hl _
      · exact hconnected
      · exact hevent
      · exact inv_spawn hevent (Option.some_ne_none _)

/-! ## Handles that stay open -/

/-- A handle is open that the next `UninitializeDriverLibrary` does not close. -/
def Leaky (l : Library) : Prop :=
  ∃ h, l.handles.Open h ∧ (l.gCommunicationThreads = [] ∨
    l.gDllConnFilterPort ≠ some h ∧ l.gRequestTerminateDllConnThreads ≠ some h)

theorem clean_uninitializeCommunication_iff (hl : Inv l) :
    Clean (uninitializeCommunication l) ↔ ¬ Leaky l := by
  by_cases hnil : l.gCommunicationThreads = []
  · rw [uninitializeCommunication_nil hnil]
    constructor
    · rintro hclean ⟨h, hopen, _⟩
      exact hclean.settled.not_open h hopen
    · intro hleaky
      have hclosed : ∀ h, ¬ l.handles.Open h := fun h hopen ↦ hleaky ⟨h, hopen, Or.inl hnil⟩
      refine ⟨?_, hnil, ?_, ?_, Ledger.settled_of_not_open hl.nodup hclosed⟩
      · apply List.eq_nil_iff_forall_not_mem.mpr
        intro t ht
        exact absurd (hnil ▸ hl.running t ht) (List.not_mem_nil)
      · exact Option.eq_none_iff_forall_ne_some.mpr fun h hh ↦ hclosed h (hl.port_open h hh)
      · exact Option.eq_none_iff_forall_ne_some.mpr fun h hh ↦ hclosed h (hl.event_open h hh)
  · rw [uninitializeCommunication_cons hl hnil]
    constructor
    · rintro hclean ⟨h, hopen, hstray⟩
      obtain ⟨hport, hevent⟩ := hstray.resolve_left hnil
      exact hclean.settled.not_open h ((open_closedBoth_iff hl h).mpr ⟨hopen, hevent, hport⟩)
    · intro hleaky
      refine ⟨rfl, rfl, rfl, rfl, Ledger.settled_of_not_open (nodup_closedBoth hl) ?_⟩
      intro h hh
      obtain ⟨hopen, hevent, hport⟩ := (open_closedBoth_iff hl h).mp hh
      exact hleaky ⟨h, hopen, Or.inr ⟨hport, hevent⟩⟩

/-- A handle that is open and that no global refers to. -/
structure Stray (l : Library) (h : ℕ) : Prop where
  isOpen : l.handles.Open h
  port : l.gDllConnFilterPort ≠ some h
  event : l.gRequestTerminateDllConnThreads ≠ some h

theorem Stray.leaky {h : ℕ} (hstray : Stray l h) : Leaky l :=
  ⟨h, hstray.isOpen, Or.inr ⟨hstray.port, hstray.event⟩⟩

theorem Stray.createThreadEvent {h : ℕ} (hstray : Stray l h) (createEvent : Bool) :
    Stray (Library.createThreadEvent createEvent l) h :=
  ⟨hstray.isOpen.create _, hstray.port, hstray.event⟩

theorem Stray.spawn {h : ℕ} (hstray : Stray l h) : Stray (Library.spawn l) h :=
  ⟨hstray.isOpen, hstray.port, hstray.event⟩

/-- Connecting overwrites both globals. -/
theorem stray_connected {h : ℕ} (hopen : l.handles.Open h) (env : InitEnv) :
    Stray (connected env l) h where
  isOpen := (open_storePort_iff h).mpr
    (Or.inl ((open_storeTerminateEvent_iff _ h).mpr (Or.inl hopen)))
  port := Ledger.Open.create_ne ((open_storeTerminateEvent_iff _ h).mpr (Or.inl hopen)) _
  event := hopen.create_ne _

theorem leaky_next {e : Event} {l' : Library} (hl : Inv l) (hleaky : Leaky l)
    (h : next l e = some l') : Leaky l' := by
  obtain ⟨k, hopen, howned⟩ := hleaky
  cases e with
  | threadEnds t =>
      obtain rfl := Option.some.inj h
      exact ⟨k, hopen, howned⟩
  | uninitializeDriverLibrary =>
      obtain rfl := Option.some.inj h
      by_cases hnil : l.gCommunicationThreads = []
      · rw [uninitializeDriverLibrary, uninitializeCommunication_nil hnil]
        exact ⟨k, hopen, howned⟩
      · obtain ⟨hport, hevent⟩ := howned.resolve_left hnil
        rw [uninitializeDriverLibrary, uninitializeCommunication_cons hl hnil]
        exact ⟨k, (open_closedBoth_iff hl k).mpr ⟨hopen, hevent, hport⟩, Or.inl rfl⟩
  | initializeDriverLibrary env =>
      have hstray := stray_connected hopen env
      obtain ⟨⟨status, l''⟩, hcall, rfl⟩ := Option.map_eq_some_iff.mp h
      rcases initializeDriverLibrary_cases hcall with ⟨_, rfl⟩ | ⟨_, _, rfl | rfl⟩ | ⟨_, _, rfl⟩
      · refine ⟨k, (open_storeTerminateEvent_iff _ k).mpr (Or.inl hopen), ?_⟩
        exact howned.imp id fun hne ↦ ⟨hne.1, hopen.create_ne _⟩
      · exact hstray.leaky
      · exact (hstray.createThreadEvent _).leaky
      · exact (hstray.createThreadEvent _).spawn.leaky

/-! ## The calls that leave nothing open -/

/-- A call that connects finds no port and starts its thread without an event for it; a
refused one overwrites no event, and creates one only while there are threads. -/
def Keeps (l : Library) : Event → Prop
  | .initializeDriverLibrary env =>
      if succeeded env.filterConnectCommunicationPort then
        l.gDllConnFilterPort = none ∧ (env.rounds 0).throws = false ∧
          (env.rounds 0).createEvent = false
      else
        l.gRequestTerminateDllConnThreads = none ∧
          (env.createEvent = true → l.gCommunicationThreads ≠ [])
  | _ => True

theorem gCommunicationThreads_eq_nil (hl : Inv l) (h : l.gDllConnFilterPort = none) :
    l.gCommunicationThreads = [] := by
  by_contra hne
  exact hl.port_isSome hne h

/-- A refused call leaks when it overwrites an event, or creates one without threads. -/
theorem leaky_refused (hl : Inv l) (createEvent : Bool)
    (hkeeps : ¬ (l.gRequestTerminateDllConnThreads = none ∧
      (createEvent = true → l.gCommunicationThreads ≠ []))) :
    Leaky (storeTerminateEvent createEvent l) := by
  cases hevent : l.gRequestTerminateDllConnThreads with
  | some k =>
      have hopen := hl.event_open k hevent
      refine Stray.leaky ⟨(open_storeTerminateEvent_iff _ k).mpr (Or.inl hopen), ?_,
        hopen.create_ne _⟩
      exact fun hport ↦ hl.apart k hport hevent
  | none =>
      obtain ⟨rfl, hnil⟩ : createEvent = true ∧ l.gCommunicationThreads = [] := by
        simpa [hevent] using hkeeps
      exact ⟨l.handles.created, (open_storeTerminateEvent_iff _ _).mpr (Or.inr rfl), Or.inl hnil⟩

/-- The port of a connected library is closed only with threads there. -/
theorem leaky_connected {l' : Library} (hl : Inv l) (env : InitEnv)
    (hstate : l' = connected env l ∨
      l' = createThreadEvent (env.rounds 0).createEvent (connected env l)) : Leaky l' := by
  cases hport : l.gDllConnFilterPort with
  | some k =>
      have hstray := stray_connected (hl.port_open k hport) env
      rcases hstate with rfl | rfl
      · exact hstray.leaky
      · exact (hstray.createThreadEvent _).leaky
  | none =>
      have hnil := gCommunicationThreads_eq_nil hl hport
      have hopen : (connected env l).handles.Open
          (storeTerminateEvent env.createEvent l).handles.created :=
        (open_storePort_iff _).mpr (Or.inr rfl)
      rcases hstate with rfl | rfl
      · exact ⟨_, hopen, Or.inl hnil⟩
      · exact ⟨_, hopen.create _, Or.inl hnil⟩

/-- The event of a thread is never closed. -/
theorem stray_createThreadEvent (hl : Inv l) :
    Stray (createThreadEvent true l) l.handles.created where
  isOpen := (Ledger.open_create_iff _ true _).mpr (Or.inr rfl)
  port hport := Ledger.not_open_created _ (hl.port_open _ hport)
  event hevent := Ledger.not_open_created _ (hl.event_open _ hevent)

theorem leaky_of_not_keeps {e : Event} {l' : Library} (hl : Inv l) (h : next l e = some l')
    (hkeeps : ¬ Keeps l e) : Leaky l' := by
  cases e with
  | initializeDriverLibrary env =>
      obtain ⟨⟨status, l''⟩, hcall, rfl⟩ := Option.map_eq_some_iff.mp h
      rcases initializeDriverLibrary_cases hcall with ⟨hconnect, rfl⟩ |
        ⟨hconnect, hthrows, hstate⟩ | ⟨hconnect, hthrows, rfl⟩
      · exact leaky_refused hl _ (by simpa [Keeps, hconnect] using hkeeps)
      · exact leaky_connected hl env hstate
      · cases hport : l.gDllConnFilterPort with
        | some k =>
            exact ((stray_connected (hl.port_open k hport) env).createThreadEvent _).spawn.leaky
        | none =>
            have hevent : (env.rounds 0).createEvent = true := by
              simpa [Keeps, hconnect, hthrows, hport] using hkeeps
            rw [hevent]
            exact (stray_createThreadEvent (inv_connected hl env)).spawn.leaky
  | _ => exact absurd trivial hkeeps

theorem not_leaky_refused (hleaky : ¬ Leaky l) {createEvent : Bool}
    (hevent : l.gRequestTerminateDllConnThreads = none)
    (hthreads : createEvent = true → l.gCommunicationThreads ≠ []) :
    ¬ Leaky (storeTerminateEvent createEvent l) := by
  rintro ⟨k, hopen, howned⟩
  rcases (open_storeTerminateEvent_iff _ k).mp hopen with hold | hnew
  · apply hleaky
    refine ⟨k, hold, howned.imp id fun hne ↦ ⟨hne.1, ?_⟩⟩
    rw [hevent]
    exact (Option.some_ne_none k).symm
  · cases createEvent with
    | false => exact Option.some_ne_none k hnew.symm
    | true => exact (howned.resolve_left (hthreads rfl)).2 hnew

theorem not_leaky_connected (hl : Inv l) (hleaky : ¬ Leaky l) (env : InitEnv)
    (hport : l.gDllConnFilterPort = none) :
    ¬ Leaky (spawn (createThreadEvent false (connected env l))) := by
  have hnil := gCommunicationThreads_eq_nil hl hport
  rintro ⟨k, hopen, howned⟩
  obtain ⟨hneport, hneevent⟩ := howned.resolve_left (by simp [spawn])
  rcases (open_storePort_iff k).mp hopen with hopen | hopen
  · rcases (open_storeTerminateEvent_iff _ k).mp hopen with hopen | hopen
    · exact hleaky ⟨k, hopen, Or.inl hnil⟩
    · exact hneevent hopen
  · exact hneport hopen

theorem not_leaky_next {e : Event} {l' : Library} (hl : Inv l) (hleaky : ¬ Leaky l)
    (h : next l e = some l') (hkeeps : Keeps l e) : ¬ Leaky l' := by
  cases e with
  | threadEnds t =>
      obtain rfl := Option.some.inj h
      exact hleaky
  | uninitializeDriverLibrary =>
      obtain rfl := Option.some.inj h
      have hclean := (clean_uninitializeCommunication_iff hl).mpr hleaky
      rintro ⟨k, hopen, _⟩
      exact hclean.settled.not_open k hopen
  | initializeDriverLibrary env =>
      obtain ⟨⟨status, l''⟩, hcall, rfl⟩ := Option.map_eq_some_iff.mp h
      rcases initializeDriverLibrary_cases hcall with ⟨hconnect, rfl⟩ |
        ⟨hconnect, hthrows, _⟩ | ⟨hconnect, hthrows, rfl⟩
      · obtain ⟨hevent, hthreads⟩ : l.gRequestTerminateDllConnThreads = none ∧
            (env.createEvent = true → l.gCommunicationThreads ≠ []) := by
          simpa [Keeps, hconnect] using hkeeps
        exact not_leaky_refused hleaky hevent hthreads
      · simp [Keeps, hconnect, hthrows] at hkeeps
      · obtain ⟨hport, hround⟩ : l.gDllConnFilterPort = none ∧
            (env.rounds 0).createEvent = false := by
          simpa [Keeps, hconnect, hthrows] using hkeeps
        rw [hround]
        exact not_leaky_connected hl hleaky env hport

end Inv

/-- After a returning `UninitializeDriverLibrary` nothing is left exactly when every
earlier call has left nothing open. -/
theorem clean_iff_keeps {es : List Event} {l l' : Library} (hrun : lifecycle.Run loaded es l)
    (h : next l .uninitializeDriverLibrary = some l') :
    Clean l' ↔ (lifecycle.restrict Keeps).Run loaded es l := by
  have hinv : Inv l :=
    hrun.invariant (I := Inv) (fun _ _ _ hs hstep ↦ inv_next hs hstep) inv_loaded
  obtain rfl := Option.some.inj h
  rw [uninitializeDriverLibrary, clean_uninitializeCommunication_iff hinv]
  constructor
  · intro hleaky
    have hor := hrun.restrict_or (G := Keeps) (fun _ _ _ hs hstep ↦ inv_next hs hstep)
      (fun _ _ _ hs hstep hkeeps ↦ leaky_of_not_keeps hs hstep hkeeps)
      (fun _ _ _ hs hmarked hstep ↦ leaky_next hs hmarked hstep) inv_loaded
    exact hor.resolve_right hleaky
  · intro hrestricted
    have hboth : Inv l ∧ ¬ Leaky l := by
      apply hrestricted.invariant (I := fun l ↦ Inv l ∧ ¬ Leaky l)
      · rintro s e t ⟨hs, hleaky⟩ ⟨hstep, hkeeps⟩
        exact ⟨inv_next hs hstep, not_leaky_next hs hleaky hstep hkeeps⟩
      · refine ⟨inv_loaded, ?_⟩
        rintro ⟨k, hopen, _⟩
        exact absurd hopen.1 (Nat.not_lt_zero k)
    exact hboth.2

/-- No event can be created, and everything else succeeds. -/
def withoutEvents : InitEnv := ⟨false, sOk, fun _ ↦ ⟨true, false, true, true⟩⟩

theorem clean_withoutEvents : ∃ l l', lifecycle.Run loaded
      [.initializeDriverLibrary withoutEvents] l ∧
    next l .uninitializeDriverLibrary = some l' ∧
    (Clean l' ↔ (lifecycle.restrict Keeps).Run loaded
      [.initializeDriverLibrary withoutEvents] l) := by
  obtain ⟨l, hexec⟩ : ∃ l, System.exec next loaded [.initializeDriverLibrary withoutEvents] =
      some l := ⟨_, rfl⟩
  have hrun : lifecycle.Run loaded _ l := System.Run.of_exec hexec
  exact ⟨l, _, hrun, rfl, clean_iff_keeps hrun rfl⟩

/-- Everything succeeds, and the thread's event is never closed. -/
def succeeds : InitEnv := ⟨true, sOk, fun _ ↦ ⟨true, true, true, true⟩⟩

theorem not_clean_succeeds : ¬ ∀ es l l', lifecycle.Run loaded es l →
    next l .uninitializeDriverLibrary = some l' → Clean l' := by
  intro hall
  have hstep : next loaded (.initializeDriverLibrary succeeds) =
      some (spawn (createThreadEvent true (connected succeeds loaded))) := rfl
  have hclean := hall [.initializeDriverLibrary succeeds] _ _ (System.Run.nil.snoc hstep) rfl
  have hleaky := leaky_of_not_keeps inv_loaded hstep (by simp [Keeps, succeeds]; decide)
  exact (clean_uninitializeCommunication_iff (inv_next inv_loaded hstep)).mp hclean hleaky

end NtDriver.LibraryLifecycle
