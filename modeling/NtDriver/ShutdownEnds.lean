import NtDriver.Lib.Progress
import NtDriver.Serving
import NtDriver.Shutdown
import Mathlib.Algebra.Order.BigOperators.Group.List

/-!
# A shutdown ends

Between the signal and the end of the join loop the threads run on, each to the next
of its waits.  Every schedule of them brings the join loop to its end, and leaves the
library as the whole call computes it.
-/

namespace NtDriver.Shutdown

open Handles Library Transition CommThread
open Serving (InLoop)

/-! ## The threads of the vector -/

/-- What the join loop relies on. -/
structure Joins (s : Session) : Prop where
  listed : ∀ t ∈ s.library.running, t ∈ s.library.gCommunicationThreads
  inLoop : ∀ t ∈ s.library.running, InLoop (s.thread t).pc
  joining : ∀ rest, s.caller = .joining rest → s.library.gCommunicationThreads ≠ [] ∧
    s.library.gDllConnFilterPort ≠ none ∧ ∀ t ∈ s.library.running, t ∈ rest

theorem joins_initialSession : Joins initialSession where
  listed t ht := absurd ht List.not_mem_nil
  inLoop t ht := absurd ht List.not_mem_nil
  joining rest hrest := by cases hrest

theorem not_joining_loop (rounds : ℕ) (rest : List ℕ) : Session.loop rounds ≠ .joining rest := by
  unfold Session.loop
  split_ifs <;> exact nofun

section Steps

variable {a : Arch} {s s' : Session}

/-- Outside the join loop, a step that keeps the threads keeps what is known of them. -/
theorem Joins.keep (hs : Joins s) (hrunning : s'.library.running = s.library.running)
    (hthreads : s'.library.gCommunicationThreads = s.library.gCommunicationThreads)
    (hthread : s'.thread = s.thread) (hcaller : ∀ rest, s'.caller ≠ .joining rest) : Joins s' where
  listed t ht := hthreads ▸ hs.listed t (hrunning ▸ ht)
  inLoop t ht := hthread ▸ hs.inLoop t (hrunning ▸ ht)
  joining rest hrest := absurd hrest (hcaller rest)

theorem joins_initializeCommunication {n : ℤ} {createEvent : Bool} (hs : Joins s)
    (h : next a s (.initializeCommunication n createEvent) = some s') : Joins s' := by
  cases hcaller : s.caller with
  | idle =>
      simp only [next, hcaller] at h
      split_ifs at h
      · obtain rfl := Option.some.inj h
        exact hs
      · obtain rfl := Option.some.inj h
        exact hs.keep rfl rfl rfl (by simp)
  | _ => simp [next, hcaller] at h

theorem joins_filterConnectCommunicationPort {result : Hresult} (hs : Joins s)
    (h : next a s (.filterConnectCommunicationPort result) = some s') : Joins s' := by
  cases hcaller : s.caller with
  | connecting rounds =>
      simp only [next, hcaller] at h
      cases hresult : succeeded result with
      | true =>
          rw [filterConnect_success hresult] at h
          obtain rfl := Option.some.inj h
          exact hs.keep rfl rfl rfl (not_joining_loop rounds)
      | false =>
          rw [filterConnect_failure hresult] at h
          obtain rfl := Option.some.inj h
          exact hs.keep rfl rfl rfl (by simp)
  | _ => simp [next, hcaller] at h

theorem joins_startThread {env : ThreadEnv} (hs : Joins s)
    (h : next a s (.startThread env) = some s') : Joins s' := by
  cases hcaller : s.caller with
  | starting rounds =>
      simp only [next, hcaller] at h
      cases hround : Library.startThread env s.library with
      | ok u l =>
          obtain rfl := startThread_ok hround
          rw [hround] at h
          obtain rfl := Option.some.inj h
          refine ⟨fun t ht ↦ ?_, fun t ht ↦ ?_, fun rest hrest ↦
            absurd hrest (not_joining_loop _ rest)⟩
          · rcases List.mem_append.mp ht with hold | hnew
            · exact List.mem_append_left _ (hs.listed t hold)
            · exact List.mem_append_right _ hnew
          · by_cases heq : t = s.library.spawned
            · subst heq
              simp [Session.setThread, InLoop]
            · have hold := (List.mem_append.mp ht).resolve_right
                fun hnew ↦ heq (List.mem_singleton.mp hnew)
              simpa [Session.setThread, heq] using hs.inLoop t hold
      | error exit l =>
          rw [hround] at h
          cases exit with
          | terminated => cases h
          | thrown e =>
              obtain rfl := Option.some.inj h
              rcases startThread_thrown hround with rfl | rfl
              · exact hs.keep rfl rfl rfl (by simp)
              · exact hs.keep rfl rfl rfl (by simp)
  | _ => simp [next, hcaller] at h

/-- The two ways out ahead of the join loop, and the way into it. -/
theorem next_uninitializeCommunication
    (h : next a s .uninitializeCommunication = some s') :
    s.caller = .idle ∧
      ((s'.caller = .idle ∧ s'.thread = s.thread ∧
          s'.library = uninitializeCommunication s.library ∧
          (s.library.gCommunicationThreads = [] ∨ s.library.gDllConnFilterPort = none)) ∨
        (s.library.gCommunicationThreads ≠ [] ∧ s.library.gDllConnFilterPort ≠ none ∧
          s' = { s with
            signalled := s.signalled ++ s.library.gRequestTerminateDllConnThreads.toList
            caller := .joining s.library.gCommunicationThreads })) := by
  cases hcaller : s.caller with
  | idle =>
      refine ⟨rfl, ?_⟩
      simp only [next, hcaller] at h
      split_ifs at h with hlen hport
      · obtain rfl := Option.some.inj h
        exact Or.inl ⟨hcaller, rfl, (if_pos hlen).symm,
          Or.inl (List.length_eq_zero_iff.mp hlen)⟩
      · obtain rfl := Option.some.inj h
        refine Or.inl ⟨rfl, rfl, ?_, Or.inr hport⟩
        rw [uninitializeCommunication, if_neg hlen, if_pos hport]
      · obtain rfl := Option.some.inj h
        exact Or.inr ⟨fun hnil ↦ hlen (by simp [hnil]), hport, rfl⟩
  | _ => simp [next, hcaller] at h

theorem joins_uninitializeCommunication (hs : Joins s)
    (h : next a s .uninitializeCommunication = some s') : Joins s' := by
  obtain ⟨hcaller, ⟨hidle, hthread, -⟩ | ⟨hthreads, hport, rfl⟩⟩ :=
    next_uninitializeCommunication h
  · have hkept : s'.library.running = s.library.running ∧
        s'.library.gCommunicationThreads = s.library.gCommunicationThreads := by
      simp only [next, hcaller] at h
      split_ifs at h
      · obtain rfl := Option.some.inj h
        exact ⟨rfl, rfl⟩
      · obtain rfl := Option.some.inj h
        exact ⟨rfl, rfl⟩
      · obtain rfl := Option.some.inj h
        cases hidle
    exact hs.keep hkept.1 hkept.2 hthread fun rest hrest ↦ by rw [hidle] at hrest; cases hrest
  · refine ⟨hs.listed, hs.inLoop, fun rest hrest ↦ ⟨hthreads, hport, ?_⟩⟩
    cases hrest
    exact hs.listed

theorem joins_join (hs : Joins s) (h : next a s .join = some s') : Joins s' := by
  cases hcaller : s.caller with
  | joining rest =>
      cases rest with
      | nil => simp [next, hcaller] at h
      | cons t rest =>
          simp only [next, hcaller] at h
          split_ifs at h with hended
          obtain rfl := Option.some.inj h
          obtain ⟨hthreads, hport, hrest⟩ := hs.joining _ hcaller
          refine ⟨hs.listed, hs.inLoop, fun rest' hrest' ↦ ⟨hthreads, hport, fun t' ht' ↦ ?_⟩⟩
          cases hrest'
          refine (List.mem_cons.mp (hrest t' ht')).resolve_left ?_
          rintro rfl
          exact hended ht'
  | _ => simp [next, hcaller] at h

/-- Behind the join loop no thread runs. -/
theorem next_release (hs : Joins s) (h : next a s .release = some s') :
    s.caller = .joining [] ∧ s.library.running = [] ∧
      s' = { s with library := Library.release s.library, caller := .idle } := by
  cases hcaller : s.caller with
  | joining rest =>
      cases rest with
      | cons t rest => simp [next, hcaller] at h
      | nil =>
          simp only [next, hcaller] at h
          obtain ⟨_, _, hrest⟩ := hs.joining _ hcaller
          refine ⟨rfl, ?_, (Option.some.inj h).symm⟩
          exact List.eq_nil_iff_forall_not_mem.mpr fun t ht ↦ List.not_mem_nil (hrest t ht)
  | _ => simp [next, hcaller] at h

theorem joins_release (hs : Joins s) (h : next a s .release = some s') : Joins s' := by
  obtain ⟨_, hrunning, rfl⟩ := next_release hs h
  refine ⟨fun t ht ↦ ?_, fun t ht ↦ ?_, nofun⟩
  · exact absurd (hrunning ▸ ht) List.not_mem_nil
  · exact absurd (hrunning ▸ ht) List.not_mem_nil

theorem joins_copyHandle {t : ℕ} (hs : Joins s) (h : next a s (.copyHandle t) = some s') :
    Joins s' := by
  simp only [next] at h
  split_ifs at h
  obtain rfl := Option.some.inj h
  refine ⟨hs.listed, fun k hk ↦ ?_, hs.joining⟩
  by_cases heq : k = t
  · subst heq
    simpa [Session.setThread] using hs.inLoop k hk
  · simpa [Session.setThread, heq] using hs.inLoop k hk

/-- A step of a thread puts it at another call of the loop, or ends it. -/
theorem goTo_cases {t : ℕ} {pc : Pc} (h : s.goTo t pc = some s') :
    (InLoop pc ∧ s' = s.setThread t ⟨pc, none, (s.thread t).hEvent⟩) ∨
      (pc = .returned ∧ s' = { s.setThread t ⟨.returned, none, (s.thread t).hEvent⟩ with
        library := { s.library with running := s.library.running.filter (· ≠ t) } }) := by
  cases pc with
  | faulted => cases h
  | returned => exact Or.inr ⟨rfl, (Option.some.inj h).symm⟩
  | _ => exact Or.inl ⟨trivial, (Option.some.inj h).symm⟩

theorem joins_goTo {t : ℕ} {pc : Pc} (hs : Joins s) (h : s.goTo t pc = some s') : Joins s' := by
  rcases goTo_cases h with ⟨hpc, rfl⟩ | ⟨-, rfl⟩
  · refine ⟨hs.listed, fun k hk ↦ ?_, hs.joining⟩
    by_cases heq : k = t
    · subst heq
      simpa [Session.setThread] using hpc
    · simpa [Session.setThread, heq] using hs.inLoop k hk
  · refine ⟨fun k hk ↦ hs.listed k (List.mem_of_mem_filter hk), fun k hk ↦ ?_, fun rest hrest ↦ ?_⟩
    · have hne : k ≠ t := by simpa using List.of_mem_filter hk
      simpa [Session.setThread, hne] using hs.inLoop k (List.mem_of_mem_filter hk)
    · obtain ⟨hthreads, hport, hmem⟩ := hs.joining rest hrest
      exact ⟨hthreads, hport, fun k hk ↦ hmem k (List.mem_of_mem_filter hk)⟩

theorem joins_next {act : Action} (hs : Joins s) (h : next a s act = some s') : Joins s' := by
  cases act with
  | initializeCommunication n createEvent => exact joins_initializeCommunication hs h
  | filterConnectCommunicationPort result => exact joins_filterConnectCommunicationPort hs h
  | startThread env => exact joins_startThread hs h
  | uninitializeCommunication => exact joins_uninitializeCommunication hs h
  | join => exact joins_join hs h
  | release => exact joins_release hs h
  | copyHandle t => exact joins_copyHandle hs h
  | thread t buffer result =>
      simp only [next] at h
      split_ifs at h
      obtain ⟨pc, _, hpc⟩ := Option.bind_eq_some_iff.mp h
      exact joins_goTo hs hpc

theorem joins_of_reachable (h : (sessions a).Reachable s) : Joins s := by
  apply h.invariant (I := Joins)
  · rintro s rfl
    exact joins_initialSession
  · exact fun s act t hs hstep ↦ joins_next hs hstep

end Steps

/-! ## The calls that a thread still makes -/

/-- The most calls that a thread makes before it finds the event signalled. -/
def callsLeft (thread : Thread) : ℕ :=
  match thread.pc with
  | .testTerminate => 1
  | .sendReply _ _ => 2
  | .messageBox _ _ => 3
  | .dispatch => 4
  | .overlappedResult => 5
  | .waitPending => if thread.waitHandle = none then 7 else 6
  | .getMessage => 8
  | .returned | .faulted => 0

theorem callsLeft_le (thread : Thread) : callsLeft thread ≤ 8 := by
  unfold callsLeft
  split <;> (try split_ifs) <;> decide

/-- The threads' calls and the joins that are left. -/
def workLeft (s : Session) : ℕ :=
  (s.library.running.map fun t ↦ callsLeft (s.thread t)).sum +
    match s.caller with
    | .joining rest => rest.length
    | _ => 0

section Measure

variable {a : Arch} {s : Session} {t : ℕ}

/-- With the event signalled, every call brings its thread closer to its end. -/
theorem callsLeft_step {buffer : MessageBuffer} {pc pc' : Pc} {r : Result}
    (h : step a buffer pc r = some pc')
    (hsignalled : ∀ result, r = .waitForSingleObject result → result = waitObject0)
    (waitHandle : Option (Option ℕ)) (hEvent hEvent' : Option ℕ) :
    callsLeft ⟨pc', none, hEvent'⟩ < callsLeft ⟨pc, waitHandle, hEvent⟩ := by
  cases r with
  | waitForSingleObject result =>
      obtain ⟨rfl, rfl⟩ := step_waitForSingleObject.mp h
      simp [hsignalled result rfl, callsLeft]
  | filterGetMessage result =>
      obtain ⟨rfl, rfl⟩ := step_filterGetMessage.mp h
      unfold afterGetMessage
      split_ifs <;> simp [callsLeft]
  | waitForMultipleObjects result =>
      obtain ⟨rfl, rfl⟩ := step_waitForMultipleObjects.mp h
      unfold afterWait
      split_ifs <;> simp only [callsLeft] <;> split_ifs <;> decide
  | getOverlappedResult ok =>
      obtain ⟨rfl, rfl⟩ := step_getOverlappedResult.mp h
      cases ok <;> simp [callsLeft]
  | stack stack =>
      obtain ⟨rfl, rfl⟩ := step_stack.mp h
      rcases dispatch_cases a stack buffer with ⟨_, _, hd, _⟩ | ⟨_, hd, _⟩ | hd | ⟨hd, _⟩ <;>
        simp [hd, callsLeft]
  | messageBox choice =>
      obtain ⟨_, _, rfl, rfl⟩ := step_messageBox.mp h
      simp [afterMessageBox, callsLeft]
  | filterReplyMessage result =>
      obtain ⟨_, _, rfl, rfl⟩ := step_filterReplyMessage.mp h
      simp [callsLeft]

theorem callsLeft_setThread {thread : Thread} (ht : t ∈ s.library.running)
    (hlt : callsLeft thread < callsLeft (s.thread t)) :
    (s.library.running.map fun k ↦ callsLeft ((s.setThread t thread).thread k)).sum <
      (s.library.running.map fun k ↦ callsLeft (s.thread k)).sum := by
  apply List.sum_lt_sum
  · intro k _
    by_cases heq : k = t
    · subst heq
      simpa [Session.setThread] using hlt.le
    · simp [Session.setThread, heq]
  · exact ⟨t, ht, by simpa [Session.setThread] using hlt⟩

theorem workLeft_goTo {pc : Pc} {s' : Session} (ht : t ∈ s.library.running)
    (h : s.goTo t pc = some s')
    (hlt : callsLeft ⟨pc, none, (s.thread t).hEvent⟩ < callsLeft (s.thread t)) :
    workLeft s' < workLeft s := by
  have hsum := callsLeft_setThread ht hlt
  rcases goTo_cases h with ⟨-, rfl⟩ | ⟨rfl, rfl⟩
  · exact Nat.add_lt_add_right hsum _
  · apply Nat.add_lt_add_right
    refine lt_of_le_of_lt ?_ hsum
    exact (List.filter_sublist.map _).sum_le_sum fun _ _ ↦ Nat.zero_le _

theorem workLeft_le (s : Session) {rest : List ℕ} (hcaller : s.caller = .joining rest) :
    workLeft s ≤ 8 * s.library.running.length + rest.length := by
  have hsum := List.sum_le_card_nsmul (s.library.running.map fun t ↦ callsLeft (s.thread t)) 8
    fun n hn ↦ by
      obtain ⟨t, _, rfl⟩ := List.mem_map.mp hn
      exact callsLeft_le _
  rw [List.length_map, nsmul_eq_mul, Nat.cast_id, Nat.mul_comm] at hsum
  simpa [workLeft, hcaller] using hsum

end Measure

/-! ## The shutdown -/

/-- A wait fails only for a handle that is not there. -/
def HonestWait (s : Session) : Action → Prop
  | .thread t _ (.waitForMultipleObjects result) =>
      result = waitObject0 ∨ result = waitObject0 + 1 ∨ (s.thread t).waitHandle.join = none ∨
        (s.thread t).hEvent = none
  | _ => True

instance (s : Session) (act : Action) : Decidable (HonestWait s act) := by
  unfold HonestWait
  split <;> infer_instance

/-- There is an event to signal, or every thread is at the wait for it, which fails. -/
def Ends (s : Session) : Prop :=
  s.library.gRequestTerminateDllConnThreads ≠ none ∨
    ∀ t ∈ s.library.running, (s.thread t).pc = .waitPending

/-- The join loop of a shutdown that was called on `base`. -/
structure Draining (base : Library) (s : Session) : Prop where
  inv : Inv s
  joins : Joins s
  caller : ∃ rest, s.caller = .joining rest
  ends : Ends s
  library : s.library = { base with running := s.library.running }
  listed : ∀ t ∈ base.running, t ∈ base.gCommunicationThreads

section Draining

variable {a : Arch} {base : Library} {s s' : Session} {t : ℕ}

theorem Draining.signalled_of_event (h : Draining base s) {k : ℕ}
    (hevent : s.library.gRequestTerminateDllConnThreads = some k) : k ∈ s.signalled := by
  obtain ⟨rest, hcaller⟩ := h.caller
  exact h.inv.signalled rest hcaller k hevent

/-- A thread that is not at the wait finds the event signalled. -/
theorem Draining.signalled (h : Draining base s) (ht : t ∈ s.library.running)
    (hpc : (s.thread t).pc ≠ .waitPending) :
    s.signalledHandle s.library.gRequestTerminateDllConnThreads = true := by
  have hevent := h.ends.resolve_right fun hwait ↦ hpc (hwait t ht)
  obtain ⟨k, hk⟩ := Option.ne_none_iff_exists'.mp hevent
  rw [hk]
  exact decide_eq_true (h.signalled_of_event hk)

/-- A call that the thread may make is a step of the session. -/
theorem next_thread (a : Arch) (buffer : MessageBuffer) (r : Result) {pc : Pc}
    (ht : t ∈ s.library.running) (hallows : s.allows t r = true)
    (hhonest : HonestWait s (.thread t buffer r))
    (hcopied : isWaitPending (s.thread t).pc = true → (s.thread t).waitHandle ≠ none)
    (hstep : step a buffer (s.thread t).pc r = some pc) (hpc : pc ≠ .faulted) :
    ∃ act s', HonestWait s act ∧ next a s act = some s' ∧ s.goTo t pc = some s' := by
  have hgoes : ∃ s', s.goTo t pc = some s' := by
    cases pc with
    | faulted => exact absurd rfl hpc
    | _ => exact ⟨_, rfl⟩
  obtain ⟨s', hs'⟩ := hgoes
  refine ⟨.thread t buffer r, s', hhonest, ?_, hs'⟩
  simp only [next, if_pos (⟨ht, hallows, hcopied⟩ : _ ∧ _ ∧ _), hstep, Option.bind_some, hs']

/-- Outside its wait a thread has copied no handle and needs none. -/
theorem next_call (a : Arch) (r : Result) {pc : Pc} (ht : t ∈ s.library.running)
    (hallows : s.allows t r = true) (hhonest : ∀ buffer, HonestWait s (.thread t buffer r))
    (hwait : (s.thread t).pc ≠ .waitPending)
    (hstep : step a zeroBuffer (s.thread t).pc r = some pc) (hpc : pc ≠ .faulted) :
    ∃ act s', HonestWait s act ∧ next a s act = some s' ∧ s.goTo t pc = some s' := by
  refine next_thread a zeroBuffer r ht hallows (hhonest zeroBuffer) (fun hpending ↦ ?_) hstep hpc
  cases hthread : (s.thread t).pc <;> simp_all [isWaitPending]

def waitFailed : Dword := 0xFFFFFFFF#32

/-- A thread that has copied its handle waits for the event just signalled, or for
nothing that it could wait for. -/
theorem Draining.wait_ends (h : Draining base s) (ht : t ∈ s.library.running)
    (hpc : (s.thread t).pc = .waitPending) {waitHandle : Option ℕ}
    (hcopy : (s.thread t).waitHandle = some waitHandle) :
    ∃ act s', HonestWait s act ∧ next a s act = some s' := by
  have hcopied : (s.thread t).waitHandle ≠ none := by simp [hcopy]
  have hends : ∀ result, s.allows t (.waitForMultipleObjects result) = true →
      HonestWait s (.thread t zeroBuffer (.waitForMultipleObjects result)) →
      afterWait result ≠ .faulted → ∃ act s', HonestWait s act ∧ next a s act = some s' := by
    intro result hallows hhonest hfault
    have hstep : step a zeroBuffer (s.thread t).pc (.waitForMultipleObjects result) =
        some (afterWait result) := by
      rw [hpc]
      rfl
    obtain ⟨act, s', hhonest', hnext, _⟩ :=
      next_thread a zeroBuffer _ ht hallows hhonest (fun _ ↦ hcopied) hstep hfault
    exact ⟨act, s', hhonest', hnext⟩
  by_cases hinvalid : waitHandle = none ∨ (s.thread t).hEvent = none
  · apply hends waitFailed
    · simp [Session.allows, waitFailed, waitObject0]
    · exact Or.inr (Or.inr (hinvalid.imp_left fun hnone ↦ by simp [hcopy, hnone]))
    · simp [afterWait, waitFailed, waitObject0]
  · obtain ⟨hwait, hevent⟩ := not_or.mp hinvalid
    obtain ⟨k, rfl⟩ := Option.ne_none_iff_exists'.mp hwait
    have hglobal := h.inv.blocked t (h.joins.listed t ht) k ⟨ht, by rw [hpc]; rfl, hcopy, hevent⟩
    have hsignalled : s.signalledHandle (some k) = true :=
      decide_eq_true (h.signalled_of_event hglobal)
    apply hends waitObject0
    · simp [Session.allows, hcopy, hsignalled, Option.isSome_iff_ne_none, hevent]
    · exact Or.inl rfl
    · simp [afterWait]

theorem command_zeroBuffer : command zeroBuffer = CommandCode.cmdGetLibraryVersion.value := rfl

/-- No thread is stuck in the join loop: it is at a call that can return. -/
theorem Draining.thread_goes_on (h : Draining base s) (ht : t ∈ s.library.running) :
    ∃ act s', HonestWait s act ∧ next a s act = some s' := by
  have hloop := h.joins.inLoop t ht
  have hgoes : ∀ (r : Result) (pc : Pc), s.allows t r = true →
      (∀ buffer, HonestWait s (.thread t buffer r)) → (s.thread t).pc ≠ .waitPending →
      step a zeroBuffer (s.thread t).pc r = some pc → pc ≠ .faulted →
      ∃ act s', HonestWait s act ∧ next a s act = some s' := by
    intro r pc hallows hhonest hwait hstep hpc
    obtain ⟨act, s', hhonest', hnext, _⟩ := next_call a r ht hallows hhonest hwait hstep hpc
    exact ⟨act, s', hhonest', hnext⟩
  cases hpc : (s.thread t).pc with
  | testTerminate =>
      have hsignalled := h.signalled ht (by simp [hpc])
      exact hgoes (.waitForSingleObject waitObject0) _ (by simp [Session.allows, hsignalled])
        (fun _ ↦ trivial) (by simp [hpc]) (by rw [hpc]; rfl) (by simp)
  | getMessage =>
      exact hgoes (.filterGetMessage (hresultFromWin32 sOk)) _ rfl (fun _ ↦ trivial)
        (by simp [hpc]) (by rw [hpc]; rfl) (by simp)
  | waitPending =>
      cases hcopy : (s.thread t).waitHandle with
      | none =>
          exact ⟨.copyHandle t, _, trivial, if_pos ⟨ht, by rw [hpc]; rfl, hcopy⟩⟩
      | some waitHandle => exact h.wait_ends ht hpc hcopy
  | overlappedResult =>
      exact hgoes (.getOverlappedResult true) _ rfl (fun _ ↦ trivial) (by simp [hpc])
        (by rw [hpc]; rfl) (by simp)
  | dispatch =>
      exact hgoes (.stack fun _ ↦ 0) _ rfl (fun _ ↦ trivial) (by simp [hpc]) (by rw [hpc]; rfl)
        (by simp [dispatch_cmdGetLibraryVersion command_zeroBuffer])
  | messageBox reply text =>
      exact hgoes (.messageBox idOk) _ rfl (fun _ ↦ trivial) (by simp [hpc]) (by rw [hpc]; rfl)
        (by simp [afterMessageBox])
  | sendReply reply length =>
      exact hgoes (.filterReplyMessage sOk) _ rfl (fun _ ↦ trivial) (by simp [hpc])
        (by rw [hpc]; rfl) (by simp)
  | _ => exact absurd hloop (by simp [hpc, InLoop])

/-- A join loop can always go on: with a thread, a join or the release. -/
theorem Draining.goes_on (h : Draining base s) :
    ∃ act s', System.guarded (next a) HonestWait s act = some s' := by
  have hstep : ∃ act s', HonestWait s act ∧ next a s act = some s' := by
    cases hrunning : s.library.running with
    | cons t running => exact h.thread_goes_on (hrunning ▸ List.mem_cons_self)
    | nil =>
        obtain ⟨rest, hcaller⟩ := h.caller
        cases rest with
        | nil =>
            refine ⟨.release, { s with library := Library.release s.library, caller := .idle },
              trivial, ?_⟩
            simp [next, hcaller]
        | cons t rest =>
            refine ⟨.join, { s with caller := .joining rest }, trivial, ?_⟩
            simp [next, hcaller, hrunning]
  obtain ⟨act, s', hhonest, hnext⟩ := hstep
  exact ⟨act, s', (if_pos hhonest).trans hnext⟩

/-- What the whole call computes on `base`. -/
def Returned (base : Library) (s : Session) : Prop :=
  s.caller = .idle ∧ s.library = uninitializeCommunication base

theorem Draining.released (h : Draining base s) (hnext : next a s .release = some s') :
    Returned base s' := by
  obtain ⟨hcaller, hrunning, rfl⟩ := next_release h.joins hnext
  obtain ⟨hthreads, hport, _⟩ := h.joins.joining _ hcaller
  have hlibrary := h.library
  rw [hrunning] at hlibrary
  refine ⟨rfl, ?_⟩
  have hlen : base.gCommunicationThreads.length ≠ 0 := by
    intro hzero
    exact hthreads (by rw [hlibrary]; exact List.length_eq_zero_iff.mp hzero)
  have hbase : base.gDllConnFilterPort ≠ none := by rwa [hlibrary] at hport
  have hended : base.running.filter (· ∉ base.gCommunicationThreads) = [] := by
    apply List.filter_eq_nil_iff.mpr
    intro t ht
    simp [h.listed t ht]
  rw [uninitializeCommunication, if_neg hlen, if_neg hbase, joined, hended]
  exact congrArg Library.release hlibrary

/-- Without an event, a thread at its wait can only end. -/
theorem Draining.wait_returns (h : Draining base s) (ht : t ∈ s.library.running)
    (hnone : s.library.gRequestTerminateDllConnThreads = none)
    (hpc : (s.thread t).pc = .waitPending) {buffer : MessageBuffer} {r : Result} {pc : Pc}
    (hallows : s.allows t r = true) (hstep : step a buffer (s.thread t).pc r = some pc) :
    pc = .returned := by
  rw [hpc] at hstep
  cases r with
  | waitForMultipleObjects result =>
      obtain ⟨_, rfl⟩ := step_waitForMultipleObjects.mp hstep
      apply afterWait_failure
      rintro rfl
      have hboth : (s.thread t).waitHandle.join.isSome = true ∧
          (s.thread t).hEvent.isSome = true := by
        simpa [Session.allows, waitObject0] using hallows
      obtain ⟨k, hk⟩ := Option.isSome_iff_exists.mp hboth.1
      have hcopy : (s.thread t).waitHandle = some (some k) := Option.join_eq_some_iff.mp hk
      have hblocked := h.inv.blocked t (h.joins.listed t ht) k
        ⟨ht, by rw [hpc]; rfl, hcopy, Option.isSome_iff_ne_none.mp hboth.2⟩
      rw [hnone] at hblocked
      cases hblocked
  | _ => simp [step] at hstep

theorem Draining.ends_goTo (h : Draining base s) (ht : t ∈ s.library.running)
    {buffer : MessageBuffer} {r : Result} {pc : Pc} (hallows : s.allows t r = true)
    (hstep : step a buffer (s.thread t).pc r = some pc) (hpc : s.goTo t pc = some s') :
    Ends s' := by
  rcases goTo_cases hpc with ⟨hloop, rfl⟩ | ⟨-, rfl⟩
  · refine Or.inl fun hnone ↦ ?_
    have hwait := h.ends.resolve_left (not_not.mpr hnone) t ht
    have hreturned := h.wait_returns ht hnone hwait hallows hstep
    rw [hreturned] at hloop
    exact hloop
  · refine h.ends.imp id fun hwait k hk ↦ ?_
    have hne : k ≠ t := by simpa using List.of_mem_filter hk
    simpa [Session.setThread, hne] using hwait k (List.mem_of_mem_filter hk)

/-- A step in the join loop brings it closer to its end. -/
theorem Draining.step (h : Draining base s) {act : Action} (hnext : next a s act = some s') :
    Returned base s' ∨ (Draining base s' ∧ workLeft s' < workLeft s) := by
  obtain ⟨rest, hcaller⟩ := h.caller
  have hjoins := joins_next h.joins hnext
  -- no call of the library can start, so no event is stored
  have hinv : Undisturbed s act → Inv s' := inv_next h.inv hnext
  cases act with
  | release => exact Or.inl (h.released hnext)
  | join =>
      cases rest with
      | nil => simp [next, hcaller] at hnext
      | cons t rest =>
          refine Or.inr ?_
          simp only [next, hcaller] at hnext
          split_ifs at hnext
          obtain rfl := Option.some.inj hnext
          refine ⟨⟨hinv trivial, hjoins, ⟨rest, rfl⟩, h.ends, h.library, h.listed⟩, ?_⟩
          simp [workLeft, hcaller]
  | copyHandle t =>
      refine Or.inr ?_
      simp only [next] at hnext
      split_ifs at hnext with hcopy
      obtain ⟨ht, hpc, hnone⟩ := hcopy
      obtain rfl := Option.some.inj hnext
      have hends : Ends (s.setThread t { s.thread t with
          waitHandle := some s.library.gRequestTerminateDllConnThreads }) := by
        refine h.ends.imp id fun hwait k hk ↦ ?_
        by_cases heq : k = t
        · subst heq
          simpa [Session.setThread] using hwait k hk
        · simpa [Session.setThread, heq] using hwait k hk
      refine ⟨⟨hinv trivial, hjoins, ⟨rest, hcaller⟩, hends, h.library, h.listed⟩, ?_⟩
      apply Nat.add_lt_add_right (callsLeft_setThread ht _)
      cases hwait : (s.thread t).pc <;> simp_all [callsLeft, isWaitPending]
  | thread t buffer result =>
      refine Or.inr ?_
      simp only [next] at hnext
      split_ifs at hnext with hthread
      obtain ⟨ht, hallows, _⟩ := hthread
      obtain ⟨pc, hstep, hpc⟩ := Option.bind_eq_some_iff.mp hnext
      have hsignalled : ∀ r, result = .waitForSingleObject r → r = waitObject0 := by
        rintro r rfl
        obtain ⟨htest, _⟩ := step_waitForSingleObject.mp hstep
        simpa [Session.allows, h.signalled ht (by simp [htest])] using hallows
      have hwork := workLeft_goTo ht hpc
        (callsLeft_step hstep hsignalled _ (s.thread t).hEvent _)
      have hends := h.ends_goTo ht hallows hstep hpc
      refine ⟨?_, hwork⟩
      rcases goTo_cases hpc with ⟨-, rfl⟩ | ⟨-, rfl⟩
      · exact ⟨hinv trivial, hjoins, ⟨rest, hcaller⟩, hends, h.library, h.listed⟩
      · refine ⟨hinv trivial, hjoins, ⟨rest, hcaller⟩, hends, ?_, h.listed⟩
        rw [h.library]
  | _ => simp [next, hcaller] at hnext

end Draining

/-! ## A shutdown without an event -/

/-- A thread that no event ends, and that is not about to fail. -/
structure Lingers (s : Session) : Prop where
  caller : ∃ rest, s.caller = .joining rest
  event : s.library.gRequestTerminateDllConnThreads = none
  thread : ∃ t ∈ s.library.running, InLoop (s.thread t).pc ∧ (s.thread t).pc ≠ .waitPending

section Lingers

variable {a : Arch} {s s' : Session} {t : ℕ}

theorem Lingers.goTo {pc : Pc} (h : Lingers s) (ht : t ∈ s.library.running) (hloop : InLoop pc)
    (hpc : pc ≠ .waitPending) (hgoes : s.goTo t pc = some s') : Lingers s' := by
  rcases goTo_cases hgoes with ⟨-, rfl⟩ | ⟨rfl, -⟩
  · refine ⟨h.caller, h.event, t, ht, ?_⟩
    simp [Session.setThread, hloop, hpc]
  · exact hloop.elim

theorem Lingers.not_returned {base : Library} (h : Lingers s) : ¬ Returned base s := by
  obtain ⟨rest, hcaller⟩ := h.caller
  rintro ⟨hidle, -⟩
  rw [hidle] at hcaller
  cases hcaller

/-- With another message at hand each time, the thread goes round its loop. -/
theorem Lingers.goes_on (a : Arch) (h : Lingers s) :
    ∃ act s', System.guarded (next a) HonestWait s act = some s' ∧ Lingers s' := by
  obtain ⟨t, ht, hloop, hwait⟩ := h.thread
  have hgoes : ∀ (r : Result) (pc : Pc), s.allows t r = true →
      (∀ buffer, HonestWait s (.thread t buffer r)) →
      step a zeroBuffer (s.thread t).pc r = some pc → InLoop pc → pc ≠ .waitPending →
      ∃ act s', System.guarded (next a) HonestWait s act = some s' ∧ Lingers s' := by
    intro r pc hallows hhonest hstep hloop' hpc
    obtain ⟨act, s', hhonest', hnext, hgo⟩ := next_call a r ht hallows hhonest hwait hstep
      (by rintro rfl; exact hloop')
    exact ⟨act, s', (if_pos hhonest').trans hnext, h.goTo ht hloop' hpc hgo⟩
  cases hpc : (s.thread t).pc with
  | testTerminate =>
      exact hgoes (.waitForSingleObject waitTimeout) .getMessage
        (by simp [Session.allows, Session.signalledHandle, h.event, waitTimeout, waitObject0])
        (fun _ ↦ trivial) (by rw [hpc]; rfl) trivial (by simp)
  | getMessage =>
      exact hgoes (.filterGetMessage (hresultFromWin32 sOk)) .dispatch rfl (fun _ ↦ trivial)
        (by rw [hpc]; rfl) trivial (by simp)
  | waitPending => exact absurd hpc hwait
  | overlappedResult =>
      exact hgoes (.getOverlappedResult true) .dispatch rfl (fun _ ↦ trivial)
        (by rw [hpc]; rfl) trivial (by simp)
  | dispatch =>
      exact hgoes (.stack fun _ ↦ 0) _ rfl (fun _ ↦ trivial) (by rw [hpc]; rfl)
        (by simp [dispatch_cmdGetLibraryVersion command_zeroBuffer, InLoop])
        (by simp [dispatch_cmdGetLibraryVersion command_zeroBuffer])
  | messageBox reply text =>
      exact hgoes (.messageBox idOk) (afterMessageBox a reply idOk) rfl (fun _ ↦ trivial)
        (by rw [hpc]; rfl) (by simp [afterMessageBox, InLoop]) (by simp [afterMessageBox])
  | sendReply reply length =>
      exact hgoes (.filterReplyMessage sOk) .testTerminate rfl (fun _ ↦ trivial)
        (by rw [hpc]; rfl) trivial (by simp)
  | _ => exact absurd hloop (by simp [hpc, InLoop])

end Lingers

/-- While no event is stored over one that a thread is blocked on, a shutdown ends under
every schedule of the threads, as the whole call on its own would, when it has an event
to signal or finds every thread at its wait.  Otherwise no number of steps is enough. -/
theorem endsWithin_iff_ends (a : Arch) (s t : Session)
    (h : ((sessions a).restrict Undisturbed).Reachable s)
    (hcall : next a s .uninitializeCommunication = some t) :
    (Ends s → System.EndsWithin (System.guarded (next a) HonestWait) (Returned s.library)
        (8 * s.library.running.length + s.library.gCommunicationThreads.length + 1) t) ∧
      (¬ Ends s → ∀ n, ¬ System.EndsWithin (System.guarded (next a) HonestWait)
        (Returned s.library) n t) := by
  have hjoins := joins_of_reachable h.of_restrict
  have hinv' := inv_next (inv_of_reachable h) hcall trivial
  have hjoins' := joins_next hjoins hcall
  obtain ⟨_, ⟨hidle, _, hlibrary, hempty⟩ | ⟨_, _, rfl⟩⟩ := next_uninitializeCommunication hcall
  · refine ⟨fun _ ↦ .done ⟨hidle, hlibrary⟩, fun hends ↦ absurd (Or.inr fun u hu ↦ ?_) hends⟩
    -- without threads there is none that could stay, and threads come with a port
    have hthreads := List.ne_nil_of_mem (hjoins.listed u hu)
    exact absurd (hempty.resolve_left hthreads) ((inv_of_reachable h).port hthreads)
  · constructor
    · intro hends
      have hdraining : Draining s.library { s with
          signalled := s.signalled ++ s.library.gRequestTerminateDllConnThreads.toList
          caller := .joining s.library.gCommunicationThreads } :=
        ⟨hinv', hjoins', ⟨_, rfl⟩, hends, rfl, hjoins.listed⟩
      have hwithin := System.endsWithin_of_measure (Draining s.library) workLeft
        (fun u hu _ ↦ hu.goes_on (a := a))
        (fun u act v hu _ hstep ↦ hu.step (Option.ite_none_right_eq_some.mp hstep).2) hdraining
      exact hwithin.mono (Nat.succ_le_succ (workLeft_le _ rfl))
    · intro hends n
      obtain ⟨hevent, hthread⟩ := not_or.mp hends
      simp only [not_forall] at hthread
      obtain ⟨u, hu, hwait⟩ := hthread
      have hlingers : Lingers { s with
          signalled := s.signalled ++ s.library.gRequestTerminateDllConnThreads.toList
          caller := .joining s.library.gCommunicationThreads } :=
        ⟨⟨_, rfl⟩, not_not.mp hevent, u, hu, hjoins.inLoop u hu, hwait⟩
      exact System.not_endsWithin_of_lingers Lingers
        (fun v hv hreturned ↦ hv.not_returned hreturned) (fun v hv ↦ hv.goes_on a) hlingers

theorem reachable_firstCall : ∃ s, ((sessions .x64).restrict Undisturbed).Reachable s ∧
    s.caller = .idle ∧ s.library.gRequestTerminateDllConnThreads = some 0 ∧
    s.library.running = [0] ∧ s.library.gCommunicationThreads = [0] ∧
    s.library.gDllConnFilterPort ≠ none := by
  have hinit : ((sessions .x64).restrict Undisturbed).Reachable initialSession := .init rfl
  have hstored := reachable_undisturbed hinit (.initializeCommunication 1 true) rfl
    (Or.inr fun t ht ↦ absurd ht List.not_mem_nil)
  have hconnected := reachable_undisturbed hstored (.filterConnectCommunicationPort sOk) rfl trivial
  have hstarted := reachable_undisturbed hconnected (.startThread ⟨true, true, true, true⟩) rfl
    trivial
  exact ⟨_, hstarted, rfl, rfl, rfl, rfl, nofun⟩

/-- A shutdown right after the first call ends within ten steps. -/
theorem endsWithin_firstCall : ∃ s t, next .x64 s .uninitializeCommunication = some t ∧
    s.library.running = [0] ∧
    System.EndsWithin (System.guarded (next .x64) HonestWait) (Returned s.library) 10 t := by
  obtain ⟨s, hreachable, hidle, hevent, hrunning, hthreads, hport⟩ := reachable_firstCall
  have hcall : ∃ t, next .x64 s .uninitializeCommunication = some t := by
    simp [next, hidle, hthreads, hport]
  obtain ⟨t, ht⟩ := hcall
  have hends := (endsWithin_iff_ends .x64 s t hreachable ht).1 (Or.inl (by simp [hevent]))
  rw [hrunning, hthreads] at hends
  exact ⟨s, t, ht, hrunning, hends⟩

end NtDriver.Shutdown
