import NtDriver.Lib.Transition
import Mathlib.Data.Nat.Notation
import Mathlib.Logic.Function.Basic

/-!
# The client-port slot

`gDrv.DllConnClientPort` is written by `ClientConnectedCallback`, by
`ClientDisconnectCallback` and by `UninitializeCommunication`.  Ports are
numbered in the order of no particular meaning; FltMgr hands out a new one only
while none is open and the server port exists.
-/

namespace NtDriver.ClientPort

open Transition

/-- Where a port stands between its two callbacks. -/
inductive Phase where
  | fresh
  | connecting
  | connected
  | closing
  | clearing
  | disconnected
  deriving DecidableEq

inductive Unload where
  | notStarted
  | testServerPort
  | closeServerPort
  | clearServerPort
  | exchange
  | closeClientPort (clientPort : Option ℕ)
  | done
  deriving DecidableEq

/-- The globals of the driver and FltMgr's own view: whether it accepts connections,
and how often each port has been closed. -/
structure State where
  dllConnClientPort : Option ℕ
  dllConnServerPort : Bool
  serverOpen : Bool
  phase : ℕ → Phase
  closes : ℕ → ℕ
  unload : Unload

def State.Open (s : State) (p : ℕ) : Prop := s.phase p ≠ .fresh ∧ s.closes p = 0

inductive Action where
  | deliver (p : ℕ)
  | connectStep (p : ℕ)
  | beginDisconnect (p : ℕ)
  | disconnectStep (p : ℕ)
  | beginUnload
  | unloadStep
  deriving DecidableEq

def State.enter (s : State) (p : ℕ) (phase : Phase) : State :=
  { s with phase := Function.update s.phase p phase }

def fltCloseClientPort (port : Option ℕ) (s : State) : State :=
  match port with
  | none => s
  | some p => { s with closes := Function.update s.closes p (s.closes p + 1) }

def stepUnload (s : State) : Option State :=
  match s.unload with
  | .notStarted => none
  | .testServerPort =>
      some { s with unload := if s.dllConnServerPort then .closeServerPort else .exchange }
  | .closeServerPort => some { s with serverOpen := false, unload := .clearServerPort }
  | .clearServerPort => some { s with dllConnServerPort := false, unload := .exchange }
  | .exchange =>
      some { s with
        dllConnClientPort := none, unload := .closeClientPort s.dllConnClientPort }
  | .closeClientPort clientPort =>
      some { fltCloseClientPort clientPort s with unload := .done }
  | .done => none

/-- The steps; a delivery needs every port handed out so far to be closed. -/
inductive Step (s : State) : Action → State → Prop where
  | deliver (p : ℕ) (hserver : s.serverOpen = true) (hnone : ∀ q, ¬ s.Open q)
      (hfresh : s.phase p = .fresh) : Step s (.deliver p) (s.enter p .connecting)
  | connectStep (p : ℕ) (hp : s.phase p = .connecting) :
      Step s (.connectStep p) ({ s with dllConnClientPort := some p }.enter p .connected)
  | beginDisconnect (p : ℕ) (hp : s.phase p = .connected) :
      Step s (.beginDisconnect p) (s.enter p .closing)
  | close (p : ℕ) (hp : s.phase p = .closing) :
      Step s (.disconnectStep p)
        ({ fltCloseClientPort s.dllConnClientPort s with dllConnClientPort := none }.enter p
          .clearing)
  | clear (p : ℕ) (hp : s.phase p = .clearing) :
      Step s (.disconnectStep p) ({ s with dllConnClientPort := none }.enter p .disconnected)
  | beginUnload (h : s.unload = .notStarted) :
      Step s .beginUnload { s with unload := .testServerPort }
  | unloadStep {t : State} (h : stepUnload s = some t) : Step s .unloadStep t

structure Init (s : State) : Prop where
  slot : s.dllConnClientPort = none
  server : s.dllConnServerPort = s.serverOpen
  phase : ∀ p, s.phase p = .fresh
  closes : ∀ p, s.closes p = 0
  unload : s.unload = .notStarted

def ports : System State Action := ⟨Init, Step⟩

/-! ## What is to hold -/

def Phase.Running : Phase → Prop
  | .connecting | .closing | .clearing => True
  | _ => False

structure SlotSafe (s : State) : Prop where
  held : ∀ p, s.phase p = .connected → s.unload = .notStarted → s.dllConnClientPort = some p
  once : ∀ p, s.closes p ≤ 1
  released : s.unload = .done → (∀ p, ¬ (s.phase p).Running) →
    ∀ p, s.phase p ≠ .fresh → 1 ≤ s.closes p

def Unload.BeforeExchange : Unload → Prop
  | .closeClientPort _ | .done => False
  | _ => True

/-- The step does not lose a port: a disconnect clears only an empty slot, and a
connect stores its port where `UninitializeCommunication` will look. -/
def KeepsPort (s : State) : Action → Prop
  | .disconnectStep p => s.phase p = .clearing → s.dllConnClientPort = none
  | .connectStep _ => s.unload.BeforeExchange
  | _ => True

/-! ## The invariant -/

structure Inv (s : State) : Prop where
  single : ∀ p q, s.Open p → s.Open q → p = q
  once : ∀ p, s.closes p ≤ 1
  fresh : ∀ p, s.phase p = .fresh → s.closes p = 0
  connecting : ∀ p, s.phase p = .connecting → s.closes p = 0
  slot : ∀ p, s.dllConnClientPort = some p →
    s.closes p = 0 ∧ (s.phase p = .connected ∨ s.phase p = .closing)
  before : s.unload.BeforeExchange → ∀ p, s.phase p = .connected ∨ s.phase p = .closing →
    s.dllConnClientPort = some p
  after : ¬ s.unload.BeforeExchange → s.dllConnClientPort = none
  located : ∀ p, s.Open p → s.phase p = .connecting ∨ s.dllConnClientPort = some p ∨
    s.unload = .closeClientPort (some p)
  unloading : ∀ p, s.unload = .closeClientPort (some p) →
    s.Open p ∧ s.phase p ≠ .connecting

theorem Inv.slotSafe {s : State} (h : Inv s) : SlotSafe s where
  held p hp hunload := h.before (by rw [hunload]; trivial) p (Or.inl hp)
  once := h.once
  released hdone hquiet p hp := by
    by_contra hopen
    have hslot : s.dllConnClientPort = none := h.after (by rw [hdone]; exact not_false)
    rcases h.located p ⟨hp, by omega⟩ with hconn | hheld | hlocal
    · exact hquiet p (by rw [hconn]; trivial)
    · simp [hslot] at hheld
    · simp [hdone] at hlocal

theorem inv_init {s : State} (h : Init s) : Inv s := by
  constructor <;> simp [h.slot, h.phase, h.closes, h.unload, State.Open, Unload.BeforeExchange]

section Enter

variable {s : State} {p q : ℕ} {phase old : Phase}

@[simp] theorem phase_enter_self : (s.enter p phase).phase p = phase := Function.update_self ..

theorem phase_enter_ne (h : q ≠ p) : (s.enter p phase).phase q = s.phase q :=
  Function.update_of_ne h ..

theorem phase_of_enter (h : (s.enter p phase).phase q = old) (hne : phase ≠ old) :
    s.phase q = old := by
  by_cases hq : q = p
  · subst hq
    exact absurd (phase_enter_self.symm.trans h) hne
  · rwa [phase_enter_ne hq] at h

theorem phase_enter_of_ne (h : s.phase q = old) (hne : s.phase p ≠ old) :
    (s.enter p phase).phase q = old := by
  rwa [phase_enter_ne]
  rintro rfl
  exact hne h

theorem State.Open.of_enter (h : (s.enter p phase).Open q) (hp : s.phase p ≠ .fresh) :
    s.Open q :=
  ⟨fun hfresh ↦ h.1 (phase_enter_of_ne hfresh hp), h.2⟩

theorem State.Open.enter (h : s.Open q) (hphase : phase ≠ .fresh) : (s.enter p phase).Open q :=
  ⟨fun hfresh ↦ h.1 (phase_of_enter hfresh hphase), h.2⟩

end Enter

theorem Unload.BeforeExchange.ne_closeClientPort {u : Unload} (h : u.BeforeExchange)
    (port : Option ℕ) : u ≠ .closeClientPort port := by
  rintro rfl
  exact h

section Steps

variable {s : State} {p : ℕ}

/-- A delivery finds every port closed, so nothing is in the slot. -/
theorem inv_deliver (h : Inv s) (hnone : ∀ q, ¬ s.Open q) (hfresh : s.phase p = .fresh) :
    Inv (s.enter p .connecting) := by
  have honly : ∀ q, (s.enter p .connecting).Open q → q = p := by
    intro q hq
    by_contra hne
    exact hnone q ⟨fun hold ↦ hq.1 ((phase_enter_ne hne).trans hold), hq.2⟩
  have hslot : ∀ q, s.dllConnClientPort ≠ some q := by
    intro q hq
    obtain ⟨hcloses, hphase⟩ := h.slot q hq
    exact hnone q ⟨by rcases hphase with hphase | hphase <;> simp [hphase], hcloses⟩
  exact {
    single := fun q r hq hr ↦ (honly q hq).trans (honly r hr).symm
    once := h.once
    fresh := fun q hq ↦ h.fresh q (phase_of_enter hq nofun)
    connecting := fun q hq ↦ by
      by_cases hqp : q = p
      · exact h.fresh q (hqp ▸ hfresh)
      · exact h.connecting q (phase_enter_ne hqp ▸ hq)
    slot := fun q hq ↦ absurd hq (hslot q)
    before := fun hbefore q hq ↦ by
      have hold : s.phase q = .connected ∨ s.phase q = .closing := by
        rcases hq with hq | hq
        · exact Or.inl (phase_of_enter hq nofun)
        · exact Or.inr (phase_of_enter hq nofun)
      exact absurd (h.before hbefore q hold) (hslot q)
    after := h.after
    located := fun q hq ↦ Or.inl (honly q hq ▸ phase_enter_self)
    unloading := fun q hq ↦ absurd (h.unloading q hq).1 (hnone q) }

/-- The connecting port is the only open one, and it is stored. -/
theorem inv_connectStep (h : Inv s) (hp : s.phase p = .connecting)
    (hkeeps : s.unload.BeforeExchange) :
    Inv ({ s with dllConnClientPort := some p }.enter p .connected) := by
  have hopened : s.phase p ≠ .fresh := by simp [hp]
  have honly : ∀ q, s.Open q → q = p := fun q hq ↦ h.single q p hq ⟨hopened, h.connecting p hp⟩
  exact {
    single := fun q r hq hr ↦ h.single q r (hq.of_enter hopened) (hr.of_enter hopened)
    once := h.once
    fresh := fun q hq ↦ h.fresh q (phase_of_enter hq nofun)
    connecting := fun q hq ↦ h.connecting q (phase_of_enter hq nofun)
    slot := fun q hq ↦ by
      obtain rfl : p = q := Option.some.inj hq
      exact ⟨h.connecting p hp, Or.inl phase_enter_self⟩
    before := fun hbefore q hq ↦ by
      by_cases hqp : q = p
      · exact congrArg some hqp.symm
      · -- another port in the slot would be open as well
        rw [phase_enter_ne hqp] at hq
        have hslot := h.before hbefore q hq
        have hphase : s.phase q ≠ .fresh := by
          rcases (h.slot q hslot).2 with hphase | hphase <;> simp [hphase]
        exact absurd (honly q ⟨hphase, (h.slot q hslot).1⟩) hqp
    after := fun hafter ↦ absurd hkeeps hafter
    located := fun q hq ↦ Or.inr (Or.inl (congrArg some (honly q (hq.of_enter hopened)).symm))
    unloading := fun q hq ↦ absurd hq (hkeeps.ne_closeClientPort _) }

theorem inv_beginDisconnect (h : Inv s) (hp : s.phase p = .connected) :
    Inv (s.enter p .closing) := by
  have hopened : s.phase p ≠ .fresh := by simp [hp]
  exact {
    single := fun q r hq hr ↦ h.single q r (hq.of_enter hopened) (hr.of_enter hopened)
    once := h.once
    fresh := fun q hq ↦ h.fresh q (phase_of_enter hq nofun)
    connecting := fun q hq ↦ h.connecting q (phase_of_enter hq nofun)
    slot := fun q hq ↦ by
      refine ⟨(h.slot q hq).1, ?_⟩
      by_cases hqp : q = p
      · exact Or.inr (hqp ▸ phase_enter_self)
      · rw [phase_enter_ne hqp]
        exact (h.slot q hq).2
    before := fun hbefore q hq ↦ by
      by_cases hqp : q = p
      · exact h.before hbefore q (Or.inl (hqp ▸ hp))
      · exact h.before hbefore q (by rwa [phase_enter_ne hqp] at hq)
    after := h.after
    located := fun q hq ↦ (h.located q (hq.of_enter hopened)).imp_left
      (phase_enter_of_ne · (by simp [hp]))
    unloading := fun q hq ↦ by
      obtain ⟨hopen, hphase⟩ := h.unloading q hq
      exact ⟨hopen.enter nofun, fun hconn ↦ hphase (phase_of_enter hconn nofun)⟩ }

/-- A port that is not in the slot passes on to the end of its disconnect. -/
theorem inv_leave {phase : Phase} (h : Inv s) (hp : s.phase p = .closing ∨ s.phase p = .clearing)
    (hslot : s.dllConnClientPort = none)
    (hphase : phase = .clearing ∨ phase = .disconnected) : Inv (s.enter p phase) := by
  have hopened : s.phase p ≠ .fresh ∧ s.phase p ≠ .connecting := by
    rcases hp with hp | hp <;> simp [hp]
  have hleft : phase ≠ .fresh ∧ phase ≠ .connecting ∧ phase ≠ .connected ∧ phase ≠ .closing := by
    rcases hphase with rfl | rfl <;> simp
  exact {
    single := fun q r hq hr ↦ h.single q r (hq.of_enter hopened.1) (hr.of_enter hopened.1)
    once := h.once
    fresh := fun q hq ↦ h.fresh q (phase_of_enter hq hleft.1)
    connecting := fun q hq ↦ h.connecting q (phase_of_enter hq hleft.2.1)
    slot := fun q hq ↦ absurd (hslot.symm.trans hq) (Option.some_ne_none q).symm
    before := fun hbefore q hq ↦ h.before hbefore q
      (hq.imp (phase_of_enter · hleft.2.2.1) (phase_of_enter · hleft.2.2.2))
    after := h.after
    located := fun q hq ↦ (h.located q (hq.of_enter hopened.1)).imp_left
      (phase_enter_of_ne · hopened.2)
    unloading := fun q hq ↦ by
      obtain ⟨hopen, hconn⟩ := h.unloading q hq
      exact ⟨hopen.enter hleft.1, fun hnew ↦ hconn (phase_of_enter hnew hleft.2.1)⟩ }

/-- Closing the only open port leaves none. -/
theorem closes_fltCloseClientPort (h : Inv s) (hopen : s.Open p)
    (hphase : s.phase p ≠ .connecting) :
    (∀ q, (fltCloseClientPort (some p) s).closes q ≤ 1) ∧
      (∀ q, s.phase q = .fresh ∨ s.phase q = .connecting →
        (fltCloseClientPort (some p) s).closes q = 0) ∧
      ∀ q, s.phase q ≠ .fresh → (fltCloseClientPort (some p) s).closes q ≠ 0 := by
  have hself : (fltCloseClientPort (some p) s).closes p = 1 := by
    simp [fltCloseClientPort, hopen.2]
  have hother : ∀ q, q ≠ p → (fltCloseClientPort (some p) s).closes q = s.closes q :=
    fun q hq ↦ Function.update_of_ne hq _ _
  refine ⟨fun q ↦ ?_, fun q hq ↦ ?_, fun q hq hzero ↦ ?_⟩
  · by_cases hqp : q = p
    · rw [hqp]
      exact Nat.le_of_eq hself
    · rw [hother q hqp]
      exact h.once q
  · have hqp : q ≠ p := by
      rintro rfl
      exact hq.elim hopen.1 hphase
    rw [hother q hqp]
    exact hq.elim (h.fresh q) (h.connecting q)
  · by_cases hqp : q = p
    · rw [hqp, hself] at hzero
      exact absurd hzero (by decide)
    · rw [hother q hqp] at hzero
      exact hqp (h.single q p ⟨hq, hzero⟩ hopen)

/-- A disconnect closes its own port, or finds the slot emptied by the unload. -/
theorem inv_close (h : Inv s) (hp : s.phase p = .closing) :
    Inv ({ fltCloseClientPort s.dllConnClientPort s with dllConnClientPort := none }.enter p
      .clearing) := by
  by_cases hbefore : s.unload.BeforeExchange
  · have hslot := h.before hbefore p (Or.inr hp)
    have hopened : s.phase p ≠ .fresh := by simp [hp]
    have hconn : s.phase p ≠ .connecting := by simp [hp]
    obtain ⟨honce, hfresh, hclosed⟩ :=
      closes_fltCloseClientPort h ⟨hopened, (h.slot p hslot).1⟩ hconn
    rw [hslot]
    exact {
      single := fun q _ hq _ ↦ absurd hq.2 (hclosed q (hq.of_enter hopened).1)
      once := honce
      fresh := fun q hq ↦ hfresh q (Or.inl (phase_of_enter hq nofun))
      connecting := fun q hq ↦ hfresh q (Or.inr (phase_of_enter hq nofun))
      slot := nofun
      before := fun _ q hq ↦ by
        have hqp : q ≠ p := by
          rintro rfl
          simp at hq
        rw [phase_enter_ne hqp] at hq
        exact absurd (Option.some.inj ((h.before hbefore q hq).symm.trans hslot)) hqp
      after := fun _ ↦ rfl
      located := fun q hq ↦ absurd hq.2 (hclosed q (hq.of_enter hopened).1)
      unloading := fun q hq ↦ absurd hq (hbefore.ne_closeClientPort _) }
  · have hslot := h.after hbefore
    have hsame :
        { fltCloseClientPort s.dllConnClientPort s with dllConnClientPort := none } = s := by
      rw [hslot, fltCloseClientPort, ← hslot]
    rw [hsame]
    exact inv_leave h (Or.inl hp) hslot (Or.inl rfl)

theorem inv_clear (h : Inv s) (hp : s.phase p = .clearing) (hkeeps : s.dllConnClientPort = none) :
    Inv ({ s with dllConnClientPort := none }.enter p .disconnected) := by
  rw [← hkeeps]
  exact inv_leave h (Or.inr hp) hkeeps (Or.inr rfl)

theorem inv_unload (h : Inv s) (hs : s.unload.BeforeExchange) (u : Unload)
    (hu : u.BeforeExchange) (serverPort serverOpen : Bool) :
    Inv { s with
      dllConnServerPort := serverPort, serverOpen := serverOpen, unload := u } where
  single := h.single
  once := h.once
  fresh := h.fresh
  connecting := h.connecting
  slot := h.slot
  before _ := h.before hs
  after hafter := absurd hu hafter
  located q hq := (h.located q hq).imp_right
    (·.imp_right fun hlocal ↦ absurd hlocal (hs.ne_closeClientPort _))
  unloading _ hq := absurd hq (hu.ne_closeClientPort _)

/-- The exchange moves the port of the slot to the local variable. -/
theorem inv_exchange (h : Inv s) (hs : s.unload = .exchange) :
    Inv { s with
      dllConnClientPort := none, unload := .closeClientPort s.dllConnClientPort } where
  single := h.single
  once := h.once
  fresh := h.fresh
  connecting := h.connecting
  slot := nofun
  before := False.elim
  after _ := rfl
  located _ hq := (h.located _ hq).imp_right fun hheld ↦ Or.inr <| by
    rcases hheld with hslot | hlocal
    · rw [hslot]
    · rw [hs] at hlocal
      cases hlocal
  unloading q hq := by
    obtain ⟨hcloses, hphase⟩ := h.slot q (Unload.closeClientPort.inj hq)
    rcases hphase with hphase | hphase <;>
      exact ⟨⟨by simp [hphase], hcloses⟩, by simp [hphase]⟩

theorem inv_closeClientPort {port : Option ℕ} (h : Inv s) (hs : s.unload = .closeClientPort port) :
    Inv { fltCloseClientPort port s with unload := .done } := by
  have hslot : s.dllConnClientPort = none := h.after (by rw [hs]; exact not_false)
  have hempty : ∀ q, s.dllConnClientPort ≠ some q := by simp [hslot]
  cases port with
  | none =>
      exact {
        single := h.single
        once := h.once
        fresh := h.fresh
        connecting := h.connecting
        slot := h.slot
        before := False.elim
        after := fun _ ↦ hslot
        located := fun q hq ↦ (h.located q hq).imp_right
          (·.imp_right fun hlocal ↦ by rw [hs] at hlocal; cases hlocal)
        unloading := nofun }
  | some p =>
      obtain ⟨hopen, hphase⟩ := h.unloading p hs
      obtain ⟨honce, hfresh, hclosed⟩ := closes_fltCloseClientPort h hopen hphase
      exact {
        single := fun q _ hq _ ↦ absurd hq.2 (hclosed q hq.1)
        once := honce
        fresh := fun q hq ↦ hfresh q (Or.inl hq)
        connecting := fun q hq ↦ hfresh q (Or.inr hq)
        slot := fun q hq ↦ absurd hq (hempty q)
        before := False.elim
        after := fun _ ↦ hslot
        located := fun q hq ↦ absurd hq.2 (hclosed q hq.1)
        unloading := nofun }

end Steps

theorem inv_stepUnload {s t : State} (h : Inv s) (ht : stepUnload s = some t) : Inv t := by
  cases hs : s.unload with
  | notStarted => simp [stepUnload, hs] at ht
  | done => simp [stepUnload, hs] at ht
  | testServerPort =>
      simp only [stepUnload, hs, Option.some.injEq] at ht
      subst ht
      exact inv_unload h (by rw [hs]; trivial) _ (by split <;> trivial) _ _
  | closeServerPort =>
      simp only [stepUnload, hs, Option.some.injEq] at ht
      subst ht
      exact inv_unload h (by rw [hs]; trivial) .clearServerPort trivial _ _
  | clearServerPort =>
      simp only [stepUnload, hs, Option.some.injEq] at ht
      subst ht
      exact inv_unload h (by rw [hs]; trivial) .exchange trivial _ _
  | exchange =>
      simp only [stepUnload, hs, Option.some.injEq] at ht
      subst ht
      exact inv_exchange h hs
  | closeClientPort port =>
      simp only [stepUnload, hs, Option.some.injEq] at ht
      subst ht
      exact inv_closeClientPort h hs

theorem inv_step {s t : State} {a : Action} (h : Inv s) (hstep : Step s a t)
    (hkeeps : KeepsPort s a) : Inv t := by
  cases hstep with
  | deliver p _ hnone hfresh => exact inv_deliver h hnone hfresh
  | connectStep p hp => exact inv_connectStep h hp hkeeps
  | beginDisconnect p hp => exact inv_beginDisconnect h hp
  | close p hp => exact inv_close h hp
  | clear p hp => exact inv_clear h hp (hkeeps hp)
  | beginUnload hs => exact inv_unload h (by rw [hs]; trivial) .testServerPort trivial _ _
  | unloadStep ht => exact inv_stepUnload h ht

/-! ## Runs that keep every port -/

theorem slotSafe_of_keepsPort (s : State) (h : (ports.restrict KeepsPort).Reachable s) :
    SlotSafe s := by
  apply Inv.slotSafe
  apply h.restrict_invariant
  · exact fun s hs ↦ inv_init hs
  · exact fun s a t hs hstep hkeeps ↦ inv_step hs hstep hkeeps

def initialState : State := ⟨none, true, true, fun _ ↦ .fresh, fun _ ↦ 0, .notStarted⟩

theorem init_initialState : Init initialState := ⟨rfl, rfl, fun _ ↦ rfl, fun _ ↦ rfl, rfl⟩

theorem reachable_clearing : ∃ s, (ports.restrict KeepsPort).Reachable s ∧
    s.phase 0 = .clearing ∧ s.unload = .notStarted ∧ s.serverOpen = true ∧
      s.dllConnClientPort = none ∧ s.phase 1 = .fresh ∧ ∀ q, ¬ s.Open q := by
  have h₀ : (ports.restrict KeepsPort).Reachable initialState := .init init_initialState
  have h₁ := h₀.restrict_step (Step.deliver 0 rfl (fun q hq ↦ hq.1 rfl) rfl) trivial
  have h₂ := h₁.restrict_step (Step.connectStep 0 rfl) trivial
  have h₃ := h₂.restrict_step (Step.beginDisconnect 0 rfl) trivial
  have h₄ := h₃.restrict_step (Step.close 0 rfl) fun hp ↦ by cases hp
  refine ⟨_, h₄, rfl, rfl, rfl, rfl, rfl, ?_⟩
  rintro q ⟨hphase, hcloses⟩
  by_cases hq : q = 0
  · subst hq
    cases hcloses
  · simp [State.enter, initialState, fltCloseClientPort, hq] at hphase

theorem disconnected_slotSafe : ∃ s, (ports.restrict KeepsPort).Reachable s ∧
    s.phase 0 = .disconnected ∧ SlotSafe s := by
  obtain ⟨s, h, hphase, _, _, hslot, _⟩ := reachable_clearing
  have hdone := h.restrict_step (Step.clear 0 hphase) fun _ ↦ hslot
  exact ⟨_, hdone, by simp [State.enter], slotSafe_of_keepsPort _ hdone⟩

/-- A disconnect that clears the slot of a connected client loses its port. -/
theorem not_slotSafe_of_clear {s : State} (p q : ℕ) (hq : s.phase q = .connected)
    (hne : q ≠ p) (hunload : s.unload = .notStarted) :
    ¬ SlotSafe ({ s with dllConnClientPort := none }.enter p .disconnected) := by
  intro hsafe
  have hheld := hsafe.held q (by simpa [State.enter, hne] using hq) hunload
  simp [State.enter] at hheld

/-- A connect that stores its port behind a finished unload leaves it open. -/
theorem not_slotSafe_of_late_connect {s : State} (p : ℕ) (hopen : s.closes p = 0)
    (hquiet : ∀ q ≠ p, ¬ (s.phase q).Running) (hunload : s.unload = .done) :
    ¬ SlotSafe ({ s with dllConnClientPort := some p }.enter p .connected) := by
  intro hsafe
  have hreleased := hsafe.released hunload ?_ p (by simp [State.enter])
  · simp [State.enter, hopen] at hreleased
  · intro q
    by_cases hq : q = p
    · simp [State.enter, hq, Phase.Running]
    · simpa [State.enter, hq] using hquiet q hq

/-- The next client connects between the two steps of a disconnect. -/
theorem not_slotSafe_successor : ¬ ∀ s, ports.Reachable s → SlotSafe s := by
  intro hall
  obtain ⟨s, h, hphase, hunload, hserver, _, hfresh, hnone⟩ := reachable_clearing
  have h₁ := h.of_restrict.step (Step.deliver 1 hserver hnone hfresh)
  have h₂ := h₁.step (Step.connectStep 1 (by simp [State.enter]))
  have h₃ := h₂.step (Step.clear 0 (by simpa [State.enter] using hphase))
  refine not_slotSafe_of_clear 0 1 ?_ (by decide) ?_ (hall _ h₃)
  · simp [State.enter]
  · simpa [State.enter] using hunload

end NtDriver.ClientPort
