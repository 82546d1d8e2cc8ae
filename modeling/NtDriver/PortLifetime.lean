import NtDriver.ClientPort
import NtDriver.Lib.Simulation
import NtDriver.Lifetime

/-!
# The port callbacks as whole events

The life of the driver takes a connect, a disconnect and an unload for one event each.
A run of their single accesses that loses no port is a life of the driver: a connect
counts from its store, a disconnect from its close and the unload from its exchange.
-/

namespace NtDriver.PortLifetime

open Transition Lifetime
open ClientPort (Unload KeepsPort ports)
open Driver (driverEntry entered entered_eq)

/-- The port that a step stores. -/
def storedPort : ClientPort.Action → Option ℕ
  | .connectStep p => some p
  | _ => none

def connectedPort : Event → Option ℕ
  | .connect p => some p
  | _ => none

/-- The two views of one driver: a port is open for the whole events while it is in the
slot, so neither on its way there nor in the local variable of the unload. -/
structure Matches (s : ClientPort.State) (l : Lifetime.State) : Prop where
  loaded : s.unload.BeforeExchange → l.stage = .loaded
  driverUnloaded : ¬ s.unload.BeforeExchange → l.stage = .driverUnloaded
  slot : l.driver.dllConnClientPort = s.dllConnClientPort
  open_iff : ∀ p, l.driver.clientPort = some p ↔
    s.Open p ∧ s.phase p ≠ .connecting ∧ s.unload ≠ .closeClientPort (some p)
  server : s.unload = .notStarted ∨ ¬ s.unload.BeforeExchange →
    l.driver.serverPort = s.serverOpen

/-! ## The relation along a run -/

def BeforeClose : Unload → Prop
  | .notStarted | .testServerPort | .closeServerPort => True
  | _ => False

structure ServerFollows (s : ClientPort.State) (l : Lifetime.State) : Prop where
  global : BeforeClose s.unload →
    s.dllConnServerPort = s.serverOpen ∧ l.driver.serverPort = s.serverOpen
  closed : ¬ BeforeClose s.unload → s.serverOpen = false
  unloaded : ¬ s.unload.BeforeExchange → l.driver.serverPort = false
  connecting : ∀ p, s.phase p = .connecting → s.unload.BeforeExchange →
    l.driver.serverPort = true

structure Follows (s : ClientPort.State) (es : List ClientPort.Action) (l : Lifetime.State)
    (fs : List Event) : Prop where
  inv : ClientPort.Inv s
  order : fs.filterMap connectedPort = es.filterMap storedPort
  loaded : s.unload.BeforeExchange → l.stage = .loaded ∧ Tracked l.driver
  driverUnloaded : ¬ s.unload.BeforeExchange → l.stage = .driverUnloaded
  slot : l.driver.dllConnClientPort = s.dllConnClientPort
  clientPort : l.driver.clientPort = s.dllConnClientPort
  server : ServerFollows s l

/-- The step is answered by a run of whole events. -/
def Answered (t : ClientPort.State) (es : List ClientPort.Action) (l : Lifetime.State)
    (fs : List Event) : Prop :=
  ∃ gs l', lifecycle.Run l gs l' ∧ Follows t es l' (fs ++ gs)

section Steps

variable {s t : ClientPort.State} {es : List ClientPort.Action} {l : Lifetime.State}
  {fs : List Event} {act : ClientPort.Action} {p : ℕ}

theorem Follows.matches (h : Follows s es l fs) : Matches s l where
  loaded hbefore := (h.loaded hbefore).1
  driverUnloaded := h.driverUnloaded
  slot := h.slot
  open_iff p := by
    rw [h.clientPort]
    constructor
    · intro hslot
      obtain ⟨hcloses, hphase⟩ := h.inv.slot p hslot
      refine ⟨⟨?_, hcloses⟩, ?_, fun hlocal ↦ ?_⟩
      · rcases hphase with hphase | hphase <;> simp [hphase]
      · rcases hphase with hphase | hphase <;> simp [hphase]
      · have hempty := h.inv.after (by rw [hlocal]; exact not_false)
        simp [hslot] at hempty
    · rintro ⟨hopen, hphase, hlocal⟩
      exact ((h.inv.located p hopen).resolve_left hphase).resolve_right hlocal
  server hends := by
    rcases hends with hstart | hafter
    · exact (h.server.global (by rw [hstart]; trivial)).2
    · rw [h.server.unloaded hafter, h.server.closed]
      intro hbefore
      cases hunload : s.unload <;> simp_all [BeforeClose, Unload.BeforeExchange]

/-- A step that neither changes the slot nor passes the exchange. -/
theorem Follows.silent (h : Follows s es l fs) (hinv : ClientPort.Inv t)
    (hact : storedPort act = none)
    (hunload : t.unload.BeforeExchange ↔ s.unload.BeforeExchange)
    (hslot : t.dllConnClientPort = s.dllConnClientPort) (hserver : ServerFollows t l) :
    Answered t (es ++ [act]) l fs := by
  refine ⟨[], l, .nil, hinv, ?_, fun hbefore ↦ h.loaded (hunload.mp hbefore),
    fun hafter ↦ h.driverUnloaded (hafter ∘ hunload.mpr), h.slot.trans hslot.symm,
    h.clientPort.trans hslot.symm, hserver⟩
  simp [h.order, hact]

theorem ServerFollows.enter (h : ServerFollows s l) {phase : ClientPort.Phase}
    (hphase : phase ≠ .connecting) : ServerFollows (s.enter p phase) l where
  global := h.global
  closed := h.closed
  unloaded := h.unloaded
  connecting q hq := by
    by_cases heq : q = p
    · subst heq
      exact absurd (by simpa [ClientPort.State.enter] using hq) hphase
    · exact h.connecting q (by simpa [ClientPort.State.enter, heq] using hq)

/-- A delivery finds the server port open. -/
theorem ServerFollows.deliver (h : ServerFollows s l) (hserver : s.serverOpen = true) :
    ServerFollows (s.enter p .connecting) l where
  global := h.global
  closed := h.closed
  unloaded := h.unloaded
  connecting q hq hbefore := by
    have hclose : BeforeClose s.unload := by
      by_contra hafter
      rw [h.closed hafter] at hserver
      cases hserver
    exact (h.global hclose).2.trans hserver

theorem answered_connectStep (h : Follows s es l fs) (hp : s.phase p = .connecting)
    (hkeeps : s.unload.BeforeExchange) :
    Answered ({ s with dllConnClientPort := some p }.enter p .connected)
      (es ++ [.connectStep p]) l fs := by
  obtain ⟨hstage, htracked⟩ := h.loaded hkeeps
  have hserver := h.server.connecting p hp hkeeps
  have hopen : s.Open p := ⟨by simp [hp], h.inv.connecting p hp⟩
  have hempty : l.driver.clientPort = none := by
    rw [h.clientPort]
    by_contra hne
    obtain ⟨q, hq⟩ := Option.ne_none_iff_exists'.mp hne
    obtain ⟨hcloses, hphase⟩ := h.inv.slot q hq
    have hqopen : s.Open q := ⟨by rcases hphase with hphase | hphase <;> simp [hphase], hcloses⟩
    obtain rfl := h.inv.single p q hopen hqopen
    rcases hphase with hphase | hphase <;> simp [hp] at hphase
  refine ⟨[.connect p], { l with
    driver := Driver.clientConnectedCallback p { l.driver with clientPort := some p } },
    .single (if_pos ⟨hstage, hserver, hempty⟩), ?_⟩
  refine ⟨ClientPort.inv_connectStep h.inv hp hkeeps, ?_, fun _ ↦ ⟨hstage, htracked.connect p⟩,
    fun hafter ↦ absurd hkeeps hafter, rfl, rfl, ?_⟩
  · rw [List.filterMap_append, List.filterMap_append, h.order]
    rfl
  · have hserver : ServerFollows { s with dllConnClientPort := some p } l :=
      ⟨h.server.global, h.server.closed, h.server.unloaded, h.server.connecting⟩
    have hafter : ServerFollows ({ s with dllConnClientPort := some p }.enter p .connected) l :=
      hserver.enter (by simp)
    exact ⟨hafter.global, hafter.closed, hafter.unloaded, hafter.connecting⟩

/-- A disconnect counts from its close, when it finds its port in the slot. -/
theorem answered_close (h : Follows s es l fs) (hp : s.phase p = .closing) :
    Answered ({ ClientPort.fltCloseClientPort s.dllConnClientPort s with
      dllConnClientPort := none }.enter p .clearing) (es ++ [.disconnectStep p]) l fs := by
  have hinv := ClientPort.inv_close h.inv hp
  have hserver : ServerFollows ({ ClientPort.fltCloseClientPort s.dllConnClientPort s with
      dllConnClientPort := none }.enter p .clearing) l := by
    apply ServerFollows.enter _ (by simp)
    cases s.dllConnClientPort <;>
      exact ⟨h.server.global, h.server.closed, h.server.unloaded, h.server.connecting⟩
  have hunload : ({ ClientPort.fltCloseClientPort s.dllConnClientPort s with
      dllConnClientPort := none }.enter p .clearing).unload = s.unload := by
    cases s.dllConnClientPort <;> rfl
  by_cases hbefore : s.unload.BeforeExchange
  · obtain ⟨hstage, htracked⟩ := h.loaded hbefore
    have hslot := h.inv.before hbefore p (Or.inr hp)
    have hsome : l.driver.clientPort.isSome = true := by rw [h.clientPort, hslot]; rfl
    refine ⟨[.disconnect], { l with driver := Driver.clientDisconnectCallback l.driver },
      .single (if_pos ⟨hstage, hsome⟩), ?_⟩
    refine ⟨hinv, ?_, fun _ ↦ ⟨hstage, htracked.disconnect⟩, fun hafter ↦ ?_, rfl, ?_, ?_⟩
    · rw [List.filterMap_append, List.filterMap_append, h.order]
      rfl
    · rw [hunload] at hafter
      exact absurd hbefore hafter
    · exact if_pos htracked.clientPort
    · exact ⟨hserver.global, hserver.closed, hserver.unloaded, hserver.connecting⟩
  · have hslot := h.inv.after hbefore
    refine h.silent hinv rfl (by rw [hunload]) ?_ hserver
    rw [hslot]
    rfl

theorem answered_exchange (h : Follows s es l fs) (hs : s.unload = .exchange) :
    Answered { s with
      dllConnClientPort := none, unload := .closeClientPort s.dllConnClientPort }
      (es ++ [.unloadStep]) l fs := by
  obtain ⟨hstage, htracked⟩ := h.loaded (by rw [hs]; trivial)
  obtain ⟨hserver, hclient⟩ := htracked.uninitializeCommunication
  refine ⟨[.driverUnload], ⟨.driverUnloaded, Driver.driverUnload l.driver⟩,
    .single (if_pos hstage), ?_⟩
  refine ⟨ClientPort.inv_exchange h.inv hs, ?_, fun hbefore ↦ hbefore.elim, fun _ ↦ rfl, rfl,
    hclient, ?_⟩
  · rw [List.filterMap_append, List.filterMap_append, h.order]
    rfl
  · exact ⟨fun hclose ↦ hclose.elim, fun _ ↦ h.server.closed (by simp [hs, BeforeClose]),
      fun _ ↦ hserver, fun _ _ hbefore ↦ hbefore.elim⟩

/-- A step of the unload ahead of its exchange. -/
theorem Follows.unloading (h : Follows s es l fs) (hinv : ClientPort.Inv t)
    (hact : storedPort act = none) (hs : s.unload.BeforeExchange) (ht : t.unload.BeforeExchange)
    (hslot : t.dllConnClientPort = s.dllConnClientPort) (hphase : t.phase = s.phase)
    (hglobal : BeforeClose t.unload →
      t.dllConnServerPort = t.serverOpen ∧ l.driver.serverPort = t.serverOpen)
    (hclosed : ¬ BeforeClose t.unload → t.serverOpen = false) :
    Answered t (es ++ [act]) l fs := by
  refine h.silent hinv hact (iff_of_true ht hs) hslot
    ⟨hglobal, hclosed, fun hafter ↦ absurd ht hafter, fun p hp _ ↦ ?_⟩
  exact h.server.connecting p (hphase ▸ hp) hs

theorem answered_stepUnload (h : Follows s es l fs) (ht : ClientPort.stepUnload s = some t) :
    Answered t (es ++ [.unloadStep]) l fs := by
  have hinv := ClientPort.inv_stepUnload h.inv ht
  obtain ⟨hglobal, hclosed, hunloaded, -⟩ := h.server
  cases hs : s.unload with
  | notStarted => simp [ClientPort.stepUnload, hs] at ht
  | done => simp [ClientPort.stepUnload, hs] at ht
  | testServerPort =>
      simp only [ClientPort.stepUnload, hs, Option.some.injEq] at ht
      obtain ⟨hopen, hserver⟩ := hglobal (by rw [hs]; trivial)
      cases hport : s.dllConnServerPort with
      | true =>
          simp only [hport, if_true] at ht
          subst ht
          exact h.unloading hinv rfl (by rw [hs]; trivial) trivial rfl rfl
            (fun _ ↦ ⟨hport.symm.trans hopen, hserver⟩) fun hclose ↦ absurd trivial hclose
      | false =>
          simp only [hport] at ht
          subst ht
          exact h.unloading hinv rfl (by rw [hs]; trivial) trivial rfl rfl
            (fun hclose ↦ hclose.elim) fun _ ↦ hopen.symm.trans hport
  | closeServerPort =>
      simp only [ClientPort.stepUnload, hs, Option.some.injEq] at ht
      subst ht
      exact h.unloading hinv rfl (by rw [hs]; trivial) trivial rfl rfl
        (fun hclose ↦ hclose.elim) fun _ ↦ rfl
  | clearServerPort =>
      simp only [ClientPort.stepUnload, hs, Option.some.injEq] at ht
      subst ht
      exact h.unloading hinv rfl (by rw [hs]; trivial) trivial rfl rfl
        (fun hclose ↦ hclose.elim) fun _ ↦ hclosed (by simp [hs, BeforeClose])
  | exchange =>
      simp only [ClientPort.stepUnload, hs, Option.some.injEq] at ht
      subst ht
      exact answered_exchange h hs
  | closeClientPort port =>
      simp only [ClientPort.stepUnload, hs, Option.some.injEq] at ht
      subst ht
      have hslot : (ClientPort.fltCloseClientPort port s).dllConnClientPort =
          s.dllConnClientPort := by cases port <;> rfl
      have hopen : (ClientPort.fltCloseClientPort port s).serverOpen = s.serverOpen := by
        cases port <;> rfl
      refine h.silent hinv rfl (by simp [hs, Unload.BeforeExchange]) hslot ?_
      exact ⟨fun hclose ↦ hclose.elim,
        fun _ ↦ hopen.trans (hclosed (by simp [hs, BeforeClose])),
        fun _ ↦ hunloaded (by simp [hs, Unload.BeforeExchange]),
        fun _ _ hbefore ↦ hbefore.elim⟩

theorem answered_step (h : Follows s es l fs) (hstep : ClientPort.Step s act t)
    (hkeeps : KeepsPort s act) : Answered t (es ++ [act]) l fs := by
  have hinv := ClientPort.inv_step h.inv hstep hkeeps
  cases hstep with
  | deliver p hserver _ _ => exact h.silent hinv rfl Iff.rfl rfl (h.server.deliver hserver)
  | connectStep p hp => exact answered_connectStep h hp hkeeps
  | beginDisconnect p hp => exact h.silent hinv rfl Iff.rfl rfl (h.server.enter (by simp))
  | close p hp => exact answered_close h hp
  | clear p hp =>
      refine h.silent hinv rfl Iff.rfl (hkeeps hp).symm ?_
      have hserver : ServerFollows { s with dllConnClientPort := none } l :=
        ⟨h.server.global, h.server.closed, h.server.unloaded, h.server.connecting⟩
      exact hserver.enter (by simp)
  | beginUnload hs =>
      exact h.unloading hinv rfl (by rw [hs]; trivial) trivial rfl rfl
        (fun _ ↦ h.server.global (by rw [hs]; trivial)) fun hclose ↦ absurd trivial hclose
  | unloadStep ht => exact answered_stepUnload h ht

end Steps

/-! ## Whole runs -/

theorem ports_driverEntry (env : Driver.EntryEnv) :
    (driverEntry env).2.clientPort = none ∧ (driverEntry env).2.dllConnClientPort = none := by
  have hstart : (entered env).clientPort = none ∧ (entered env).dllConnClientPort = none := by
    rw [entered_eq]
    exact ⟨rfl, rfl⟩
  have hopened (d : Driver) (hd : d.clientPort = none ∧ d.dllConnClientPort = none) :
      (Driver.initializeCommunication env d).2.clientPort = none ∧
        (Driver.initializeCommunication env d).2.dllConnClientPort = none := by
    unfold Driver.initializeCommunication
    split_ifs <;> exact hd
  unfold driverEntry
  split_ifs with hcm hfails
  · exact hstart
  · exact hopened _ hstart
  · exact hopened _ hstart

theorem follows_driverEntry {env : Driver.EntryEnv} {s : ClientPort.State}
    (hentry : ntSuccess (driverEntry env).1 = true) (hinit : ClientPort.Init s)
    (hserver : s.serverOpen = (driverEntry env).2.serverPort) :
    Follows s [] ⟨.loaded, (driverEntry env).2⟩ [] where
  inv := ClientPort.inv_init hinit
  order := rfl
  loaded _ := ⟨rfl, tracked_driverEntry env hentry⟩
  driverUnloaded hafter := absurd (by rw [hinit.unload]; trivial) hafter
  slot := (ports_driverEntry env).2.trans hinit.slot.symm
  clientPort := (ports_driverEntry env).1.trans hinit.slot.symm
  server := {
    global := fun _ ↦ ⟨hinit.server, hserver.symm⟩
    closed := fun hclose ↦ absurd (by rw [hinit.unload]; trivial) hclose
    unloaded := fun hafter ↦ absurd (by rw [hinit.unload]; trivial) hafter
    connecting := fun p hp ↦ by simp [hinit.phase p] at hp }

/-- A run of single accesses that loses no port is a life of the driver, with the same
connects in the same order, and the two agree on the stage, the slot and the open ports. -/
theorem lifetime_of_keepsPort {env : Driver.EntryEnv} {s₀ s : ClientPort.State}
    {es : List ClientPort.Action} (hentry : ntSuccess (driverEntry env).1 = true)
    (hinit : ClientPort.Init s₀) (hserver : s₀.serverOpen = (driverEntry env).2.serverPort)
    (hrun : (ports.restrict KeepsPort).Run s₀ es s) :
    ∃ fs l, lifecycle.Run initialState (.driverEntry env :: fs) l ∧
      fs.filterMap connectedPort = es.filterMap storedPort ∧ Matches s l := by
  obtain ⟨fs, l, hlife, hfollows⟩ :=
    System.Run.simulate (C := ports.restrict KeepsPort) (A := lifecycle) (R := Follows)
      (fun _ _ _ _ _ _ h hstep ↦ answered_step h hstep.1 hstep.2) hrun
      (follows_driverEntry hentry hinit hserver)
  have hentered : lifecycle.Step initialState (.driverEntry env)
      ⟨.loaded, (driverEntry env).2⟩ := by
    simp [lifecycle, System.ofNext, next, initialState, hentry]
  exact ⟨fs, l, (System.Run.single hentered).append hlife, hfollows.order, hfollows.matches⟩

/-- A client that connects while the unload is at work. -/
theorem lifetime_connectUnload : ∃ es s fs l, (ports.restrict KeepsPort).Run
      ClientPort.initialState es s ∧ es.filterMap storedPort = [3] ∧ s.unload = .done ∧
    lifecycle.Run initialState (.driverEntry entrySucceeds :: fs) l ∧
      fs.filterMap connectedPort = es.filterMap storedPort ∧ Matches s l := by
  have h₁ := (System.Run.nil (S := ports.restrict KeepsPort) (s := ClientPort.initialState)).snoc
    ⟨ClientPort.Step.deliver 3 rfl (fun q hq ↦ hq.1 rfl) rfl, trivial⟩
  have h₂ := h₁.snoc ⟨ClientPort.Step.beginUnload rfl, trivial⟩
  have h₃ := h₂.snoc ⟨ClientPort.Step.unloadStep rfl, trivial⟩
  have h₄ := h₃.snoc ⟨ClientPort.Step.connectStep 3 rfl, trivial⟩
  have h₅ := h₄.snoc ⟨ClientPort.Step.unloadStep rfl, trivial⟩
  have h₆ := h₅.snoc ⟨ClientPort.Step.unloadStep rfl, trivial⟩
  have h₇ := h₆.snoc ⟨ClientPort.Step.unloadStep rfl, trivial⟩
  have h₈ := h₇.snoc ⟨ClientPort.Step.unloadStep rfl, trivial⟩
  obtain ⟨fs, l, hlife, horder, hmatches⟩ := @lifetime_of_keepsPort entrySucceeds _ _ _ rfl
    ClientPort.init_initialState rfl h₈
  exact ⟨_, _, fs, l, h₈, rfl, rfl, hlife, horder, hmatches⟩

end NtDriver.PortLifetime
