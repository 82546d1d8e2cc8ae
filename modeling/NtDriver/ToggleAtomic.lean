import NtDriver.Lib.Simulation
import NtDriver.ToggleRace
import NtDriver.ToggleTruth

/-!
# Commands of one kind at a time

The kernel itself settles which of several enable commands adds the routine, and
which of several disable commands removes it.  As long as no command of one kind
runs next to one of the other, every run has the effect of whole calls, one after
another: each command is such a call at the step that decides it, with the answer
that the kernel gives it there.
-/

namespace NtDriver.ToggleRace

open Transition ProcNotify

/-! ## Whole calls -/

inductive Kind where
  | enable
  | disable
  deriving DecidableEq

namespace Kind

def other : Kind → Kind
  | enable => disable
  | disable => enable

/-- What a command makes of the registration. -/
def target : Kind → Bool
  | enable => true
  | disable => false

def read : Kind → Pc
  | enable => .initRead
  | disable => .uninitRead

def call : Kind → Pc
  | enable => .initCall
  | disable => .uninitCall

def write : Kind → Pc
  | enable => .initWrite
  | disable => .uninitWrite

def Runs : Kind → Pc → Prop
  | enable, .initRead | enable, .initCall | enable, .initWrite => True
  | disable, .uninitRead | disable, .uninitCall | disable, .uninitWrite => True
  | _, _ => False

end Kind

/-- A call by a client, with the kernel's answer should it be asked. -/
structure Call where
  client : ℕ
  kind : Kind
  psSet : NtStatus

namespace Call

def run (c : Call) (n : ProcNotify) : NtStatus × ProcNotify :=
  match c.kind with
  | .enable => drvInitializeProcNotify c.psSet n
  | .disable => drvUninitializeProcNotify c.psSet n

def Allowed (c : Call) (n : ProcNotify) : Prop :=
  match c.kind with
  | .enable => n.gProcessNotifyRegistered = false → PsSetAllows false c.psSet n
  | .disable => n.gProcessNotifyRegistered = true → PsSetAllows true c.psSet n

end Call

def calls : System ProcNotify Call where
  Init n := n = ProcNotify.initial
  Step n c n' := c.Allowed n ∧ (c.run n).2 = n'

/-! ## Runs in groups -/

/-- A command starts only while none of the other kind is under way. -/
def Grouped (s : State) : ℕ × Action → Prop
  | (_, .startInit) => ∀ j, ¬ Kind.disable.Runs (s.pc j)
  | (_, .startUninit) => ∀ j, ¬ Kind.enable.Runs (s.pc j)
  | (_, .step _) => True

def startedKind : Action → Option Kind
  | .startInit => some .enable
  | .startUninit => some .disable
  | .step _ => none

/-- The commands that a client starts in a run, in their order. -/
def started (i : ℕ) (es : List (ℕ × Action)) : List Kind :=
  (es.filter (·.1 = i)).filterMap fun e ↦ startedKind e.2

/-- The calls of a client, in their order. -/
def called (i : ℕ) (cs : List Call) : List Kind := (cs.filter (·.client = i)).map Call.kind

/-- The step that decides a command, as a whole call: the kernel's answer, or a read of
the flag after which the kernel is not asked. -/
def decides (s : State) : ℕ × Action → Option Call
  | (i, .step psSet) =>
      match s.pc i with
      | .initRead => if s.notify.gProcessNotifyRegistered then some ⟨i, .enable, psSet⟩ else none
      | .initCall => some ⟨i, .enable, psSet⟩
      | .uninitRead => if s.notify.gProcessNotifyRegistered then none else some ⟨i, .disable, psSet⟩
      | .uninitCall => some ⟨i, .disable, psSet⟩
      | _ => none
  | _ => none

/-- The commands of a run in the order in which they are decided. -/
def decided (es : List (ℕ × Action)) : List Call :=
  System.outputs next decides initialState es

/-- What a command under way has yet to do, as a call. -/
def due : Pc → List Kind
  | .initRead | .initCall => [.enable]
  | .uninitRead | .uninitCall => [.disable]
  | _ => []

namespace Kind

variable (k : Kind)

theorem read_ne_write : k.read ≠ k.write := by cases k <;> nofun

theorem call_ne_write : k.call ≠ k.write := by cases k <;> nofun

theorem idle_ne_write : Pc.idle ≠ k.write := by cases k <;> nofun

theorem runs_read : k.Runs k.read := by cases k <;> trivial

theorem not_runs_idle : ¬ k.Runs .idle := by cases k <;> exact id

theorem not_runs_other_call : ¬ k.other.Runs k.call := by cases k <;> exact id

theorem due_read : due k.read = [k] := by cases k <;> rfl

theorem due_call : due k.call = [k] := by cases k <;> rfl

end Kind

/-- A call that finds the flag as it wants it does not ask the kernel. -/
theorem Call.allowed_of_target (c : Call) {n : ProcNotify}
    (h : n.gProcessNotifyRegistered = c.kind.target) : c.Allowed n := by
  rcases c with ⟨client, kind, psSet⟩
  cases kind <;> intro hasked <;> cases h.symm.trans hasked

theorem started_snoc (i : ℕ) (es : List (ℕ × Action)) (e : ℕ × Action) :
    started i (es ++ [e]) =
      started i es ++ if e.1 = i then (startedKind e.2).toList else [] := by
  rw [started, List.filter_append, List.filterMap_append]
  congr 1
  by_cases h : e.1 = i
  · cases hkind : startedKind e.2 <;> simp [h, hkind]
  · simp [h]

theorem called_append (i : ℕ) (cs ds : List Call) :
    called i (cs ++ ds) = called i cs ++ called i ds := by
  simp [called]

/-! ## What holds in a group -/

/-- Only commands of kind `k` are under way, and the flag lags behind the registration
while one of them has yet to write it. -/
structure InGroup (k : Kind) (s : State) : Prop where
  alone : ∀ i, ¬ k.other.Runs (s.pc i)
  writes : ∀ i, s.pc i = k.write → s.notify.registered = k.target
  flag : s.notify.gProcessNotifyRegistered = k.target → s.notify.registered = k.target
  owed : s.notify.registered = k.target → s.notify.gProcessNotifyRegistered = k.target ∨
    ∃ i, s.pc i = k.write

section Groups

variable {k : Kind} {s : State} {i : ℕ} {pc : Pc}

theorem runs_write (k : Kind) : k.Runs k.write := by
  cases k <;> trivial

theorem not_runs_other_write (k : Kind) : ¬ k.other.Runs k.write := by
  cases k <;> exact id

theorem not_target_iff {k : Kind} {b : Bool} : b ≠ k.target ↔ b = k.other.target := by
  cases k <;> cases b <;> simp [Kind.target, Kind.other]

/-- Between two groups either kind may go on. -/
theorem InGroup.swap (h : InGroup k s) (hnone : ∀ i, ¬ k.Runs (s.pc i)) :
    InGroup k.other s := by
  have hagree : s.notify.registered = k.target ↔
      s.notify.gProcessNotifyRegistered = k.target := by
    refine ⟨fun hreg ↦ (h.owed hreg).resolve_right ?_, h.flag⟩
    rintro ⟨i, hi⟩
    exact hnone i (hi ▸ runs_write k)
  have hswap : s.notify.registered = k.other.target ↔
      s.notify.gProcessNotifyRegistered = k.other.target := by
    rw [← not_target_iff, ← not_target_iff]
    exact not_congr hagree
  refine ⟨fun i ↦ ?_, fun i hi ↦ ?_, hswap.mpr, fun hreg ↦ Or.inl (hswap.mp hreg)⟩
  · have hsame : k.other.other = k := by cases k <;> rfl
    rw [hsame]
    exact hnone i
  · exact absurd (hi ▸ runs_write k.other) (h.alone i)

theorem InGroup.of_runs {k' : Kind} (h : InGroup k' s) (hruns : k.Runs (s.pc i)) :
    InGroup k s := by
  cases k <;> cases k' <;> first | exact h | exact absurd hruns (h.alone i)

/-- A read, the start of a command, or a kernel call that changes nothing. -/
theorem InGroup.move (h : InGroup k s) (hold : s.pc i ≠ k.write) (hnew : pc ≠ k.write)
    (hpc : ¬ k.other.Runs pc) : InGroup k (s.at i pc) where
  alone j := by
    by_cases hj : j = i
    · subst hj
      simpa using hpc
    · rw [at_pc_ne s pc hj]
      exact h.alone j
  writes j hj := by
    by_cases hji : j = i
    · subst hji
      exact absurd (by simpa using hj) hnew
    · exact h.writes j (at_pc_ne s pc hji ▸ hj)
  flag := h.flag
  owed hreg := by
    rcases h.owed hreg with hflag | ⟨j, hj⟩
    · exact Or.inl hflag
    · have hne : j ≠ i := by
        rintro rfl
        exact hold hj
      exact Or.inr ⟨j, (at_pc_ne s pc hne).trans hj⟩

/-- A kernel call that leaves the registration as its command wants it. -/
theorem InGroup.call (h : InGroup k s) :
    InGroup k ({ s with notify := { s.notify with registered := k.target } }.at i k.write) where
  alone j := by
    by_cases hj : j = i
    · subst hj
      simpa using not_runs_other_write k
    · rw [at_pc_ne _ _ hj]
      exact h.alone j
  writes _ _ := rfl
  flag _ := rfl
  owed _ := Or.inr ⟨i, at_pc_self _ _ _⟩

theorem InGroup.pay (h : InGroup k s) (hpc : s.pc i = k.write) :
    InGroup k ({ s with notify := { s.notify with gProcessNotifyRegistered := k.target } }.at i
      .idle) where
  alone j := by
    by_cases hj : j = i
    · subst hj
      simp [Kind.Runs]
    · rw [at_pc_ne _ _ hj]
      exact h.alone j
  writes _ _ := h.writes i hpc
  flag _ := h.writes i hpc
  owed _ := Or.inl rfl

theorem InGroup.writeIsCurrent (h : InGroup k s) (e : ℕ × Action) : WriteIsCurrent s e := by
  cases k with
  | enable =>
      exact ⟨h.writes e.1, fun hpc ↦ absurd (hpc ▸ trivial : Kind.disable.Runs _) (h.alone e.1)⟩
  | disable =>
      exact ⟨fun hpc ↦ absurd (hpc ▸ trivial : Kind.enable.Runs _) (h.alone e.1), h.writes e.1⟩

/-- Once every command has ended, flag and registration agree. -/
theorem InGroup.flagAgrees (h : InGroup k s) (hquiet : Quiescent s) : FlagAgrees s.notify := by
  have hidle : ∀ i, s.pc i ≠ k.write := by
    intro i hi
    rw [hquiet i] at hi
    cases k <;> cases hi
  have hagree : s.notify.registered = k.target ↔
      s.notify.gProcessNotifyRegistered = k.target :=
    ⟨fun hreg ↦ (h.owed hreg).resolve_right fun ⟨i, hi⟩ ↦ hidle i hi, h.flag⟩
  rw [FlagAgrees]
  cases k <;> cases hreg : s.notify.registered <;>
    cases hflag : s.notify.gProcessNotifyRegistered <;> simp_all [Kind.target]

end Groups

/-! ## The simulation -/

/-- The whole calls `cs` that the run has decided so far have its registration. -/
structure Follows (s : State) (es : List (ℕ × Action)) (n : ProcNotify) (cs : List Call) :
    Prop where
  reached : System.exec next initialState es = some s
  made : decided es = cs
  group : ∃ k, InGroup k s
  registered : n.registered = s.notify.registered
  flag : FlagAgrees n
  order : ∀ i, started i es = called i cs ++ due (s.pc i)

/-- The steps of a command add to the run, and its call to the whole calls. -/
def Matched (t : State) (es : List (ℕ × Action)) (n : ProcNotify) (cs : List Call) : Prop :=
  ∃ fs n', calls.Run n fs n' ∧ Follows t es n' (cs ++ fs)

section Simulation

variable {s t : State} {es : List (ℕ × Action)} {n : ProcNotify} {cs : List Call} {i : ℕ}
  {psSet : NtStatus} {pc : Pc}

theorem registered_run {c : Call} (hn : FlagAgrees n) (hallowed : c.Allowed n) :
    (c.run n).2.registered = (decide (c.kind = .enable) && (n.registered || ntSuccess c.psSet)) ∧
      FlagAgrees (c.run n).2 := by
  rcases c with ⟨client, kind, psSet⟩
  cases kind with
  | enable =>
      exact ⟨ToggleTruth.registered_drvInitializeProcNotify hn,
        ToggleTruth.flagAgrees_drvInitializeProcNotify hn⟩
  | disable =>
      exact ⟨ToggleTruth.registered_drvUninitializeProcNotify hn hallowed,
        ToggleTruth.flagAgrees_drvUninitializeProcNotify hn hallowed⟩

theorem Follows.exec {e : ℕ × Action} (h : Follows s es n cs) (hstep : next s e = some t) :
    System.exec next initialState (es ++ [e]) = some t := by
  simp [System.exec_append, h.reached, hstep]

theorem Follows.made_snoc (h : Follows s es n cs) (e : ℕ × Action) :
    decided (es ++ [e]) = cs ++ (decides s e).toList := by
  rw [← h.made]
  exact System.outputs_snoc decides h.reached e

/-- A step that makes no difference to what is due. -/
theorem Follows.silent (h : Follows s es n cs) (hstep : next s (i, .step psSet) = some t)
    (hdecides : decides s (i, .step psSet) = none) (hgroup : ∃ k, InGroup k t)
    (hregistered : t.notify.registered = s.notify.registered)
    (hpc : t.pc = Function.update s.pc i pc) (hdue : due pc = due (s.pc i)) :
    Matched t (es ++ [(i, .step psSet)]) n cs := by
  refine ⟨[], n, .nil, h.exec hstep, ?_, hgroup, h.registered.trans hregistered.symm, h.flag,
    fun j ↦ ?_⟩
  · rw [h.made_snoc, hdecides]
    rfl
  have hsame : due (t.pc j) = due (s.pc j) := by
    rw [hpc]
    by_cases hj : j = i
    · subst hj
      simpa using hdue
    · rw [Function.update_of_ne hj]
  rw [started_snoc, h.order j, hsame]
  simp [startedKind]

/-- A step at which a command takes effect as a whole call would. -/
theorem Follows.call (h : Follows s es n cs) (hstep : next s (i, .step psSet) = some t) (k : Kind)
    (hdecides : decides s (i, .step psSet) = some ⟨i, k, psSet⟩) (hgroup : ∃ k, InGroup k t)
    (hallowed : (Call.mk i k psSet).Allowed n)
    (hregistered : t.notify.registered =
      (decide (k = .enable) && (s.notify.registered || ntSuccess psSet)))
    (hpc : t.pc = Function.update s.pc i pc) (hold : due (s.pc i) = [k]) (hnew : due pc = []) :
    Matched t (es ++ [(i, .step psSet)]) n cs := by
  obtain ⟨hrun, hflag⟩ := registered_run h.flag hallowed
  refine ⟨[⟨i, k, psSet⟩], _, .single ⟨hallowed, rfl⟩, h.exec hstep, ?_, hgroup, ?_, hflag,
    fun j ↦ ?_⟩
  · rw [h.made_snoc, hdecides]
    rfl
  · rw [hrun, hregistered, h.registered]
  · rw [started_snoc, called_append, h.order j, hpc]
    by_cases hj : j = i
    · subst hj
      simp [called, hold, hnew, startedKind]
    · have hne : ¬ i = j := fun heq ↦ hj heq.symm
      simp [called, Function.update_of_ne hj, hne]

theorem Follows.inGroup (h : Follows s es n cs) {k : Kind} (hruns : k.Runs (s.pc i)) :
    InGroup k s := by
  obtain ⟨k', hk⟩ := h.group
  exact hk.of_runs hruns

/-- A read that finds what the command wants decides it, and the kernel is not asked. -/
theorem matched_read (h : Follows s es n cs) (k : Kind) (hpc : s.pc i = k.read)
    (hstep : stepAt s i psSet = some t) : Matched t (es ++ [(i, .step psSet)]) n cs := by
  have hgroup : InGroup k s := h.inGroup (hpc ▸ k.runs_read)
  have hread : s.pc i ≠ k.write := hpc ▸ k.read_ne_write
  have hdue : due (s.pc i) = [k] := hpc ▸ k.due_read
  obtain rfl : s.at i (if s.notify.gProcessNotifyRegistered = k.target then .idle else k.call) =
      t := by
    cases k <;> cases hflag : s.notify.gProcessNotifyRegistered <;>
      simpa [stepAt, hpc, Kind.read, Kind.target, Kind.call, hflag] using hstep
  have hdecides : decides s (i, .step psSet) =
      if s.notify.gProcessNotifyRegistered = k.target then some ⟨i, k, psSet⟩ else none := by
    cases k <;> cases hflag : s.notify.gProcessNotifyRegistered <;>
      simp [decides, hpc, Kind.read, Kind.target, hflag]
  by_cases hflag : s.notify.gProcessNotifyRegistered = k.target
  · rw [if_pos hflag] at hstep hdecides ⊢
    have hregistered : s.notify.registered = k.target := hgroup.flag hflag
    refine h.call hstep k hdecides ⟨_, hgroup.move hread k.idle_ne_write k.other.not_runs_idle⟩
      ?_ ?_ rfl hdue rfl
    · exact (Call.mk i k psSet).allowed_of_target
        (h.flag.trans (h.registered.trans hregistered))
    · cases k <;> simp [hregistered, Kind.target]
  · rw [if_neg hflag] at hstep hdecides ⊢
    exact h.silent hstep hdecides ⟨_, hgroup.move hread k.call_ne_write k.not_runs_other_call⟩
      rfl rfl (k.due_call.trans hdue.symm)

/-- The kernel adds the routine, or refuses it to a command that lost the race. -/
theorem matched_initCall (h : Follows s es n cs) (hpc : s.pc i = .initCall)
    (hstep : stepAt s i psSet = some t) : Matched t (es ++ [(i, .step psSet)]) n cs := by
  have hgroup : InGroup .enable s := @Follows.inGroup s es n cs i h .enable (by rw [hpc]; trivial)
  have hdecides : decides s (i, .step psSet) = some ⟨i, .enable, psSet⟩ := by
    simp [decides, hpc]
  obtain ⟨hps, rfl⟩ : PsSetAllows false psSet s.notify ∧
      { s with notify := psSetCreateProcessNotifyRoutineEx false psSet s.notify }.at i
        (if ntSuccess psSet then .initWrite else .idle) = t := by
    simpa [stepAt, hpc] using hstep
  have hallowed : (Call.mk i .enable psSet).Allowed n := fun _ hok ↦ h.registered.trans (hps hok)
  cases hok : ntSuccess psSet with
  | true =>
      have hadded : psSetCreateProcessNotifyRoutineEx false psSet s.notify =
          { s.notify with registered := true } := by
        simp [psSetCreateProcessNotifyRoutineEx, hok]
      rw [hok, hadded] at hstep
      rw [hadded]
      exact h.call hstep .enable hdecides ⟨_, hgroup.call⟩ hallowed (by simp [hok]) rfl
        (by simp [hpc, due]) rfl
  | false =>
      have hrefused : psSetCreateProcessNotifyRoutineEx false psSet s.notify = s.notify := by
        simp [psSetCreateProcessNotifyRoutineEx, hok]
      have hmove : InGroup .enable (s.at i .idle) :=
        hgroup.move (by simp [hpc, Kind.write]) (by simp [Kind.write]) id
      rw [hok, hrefused] at hstep
      rw [hrefused]
      exact h.call hstep .enable hdecides ⟨_, hmove⟩ hallowed (by simp [hok]) rfl
        (by simp [hpc, due]) rfl

/-- The kernel removes the routine, or finds that another command has removed it. -/
theorem matched_uninitCall (h : Follows s es n cs) (hpc : s.pc i = .uninitCall)
    (hstep : stepAt s i psSet = some t) : Matched t (es ++ [(i, .step psSet)]) n cs := by
  have hgroup : InGroup .disable s := @Follows.inGroup s es n cs i h .disable (by rw [hpc]; trivial)
  have hdecides : decides s (i, .step psSet) = some ⟨i, .disable, psSet⟩ := by
    simp [decides, hpc]
  obtain ⟨hps, rfl⟩ : PsSetAllows true psSet s.notify ∧
      { s with notify := psSetCreateProcessNotifyRoutineEx true psSet s.notify }.at i
        .uninitWrite = t := by
    simpa [stepAt, hpc] using hstep
  have hallowed : (Call.mk i .disable psSet).Allowed n :=
    fun _ hfails ↦ h.registered.trans (hps hfails)
  have hremoved : psSetCreateProcessNotifyRoutineEx true psSet s.notify =
      { s.notify with registered := false } := by
    cases hok : ntSuccess psSet with
    | true => simp [psSetCreateProcessNotifyRoutineEx, hok]
    | false =>
        have hregistered : s.notify.registered = false := hps hok
        simp [psSetCreateProcessNotifyRoutineEx, hok, ← hregistered]
  rw [hremoved] at hstep ⊢
  exact h.call hstep .disable hdecides ⟨_, hgroup.call⟩ hallowed rfl rfl (by simp [hpc, due]) rfl

theorem matched_write (h : Follows s es n cs) (k : Kind) (hpc : s.pc i = k.write)
    (hstep : stepAt s i psSet = some t) : Matched t (es ++ [(i, .step psSet)]) n cs := by
  have hgroup : InGroup k s := h.inGroup (hpc ▸ runs_write k)
  obtain rfl : { s with notify.gProcessNotifyRegistered := k.target }.at i .idle = t := by
    cases k <;> simpa [stepAt, hpc, Kind.write, Kind.target] using hstep
  have hsilent : decides s (i, .step psSet) = none ∧ due .idle = due (s.pc i) := by
    cases k <;> simp [decides, hpc, Kind.write, due]
  exact h.silent hstep hsilent.1 ⟨_, hgroup.pay hpc⟩ rfl rfl hsilent.2

theorem matched_step (h : Follows s es n cs) (hstep : stepAt s i psSet = some t) :
    Matched t (es ++ [(i, .step psSet)]) n cs := by
  cases hpc : s.pc i with
  | idle => simp [stepAt, hpc] at hstep
  | initRead => exact matched_read h .enable hpc hstep
  | initCall => exact matched_initCall h hpc hstep
  | initWrite => exact matched_write h .enable hpc hstep
  | uninitRead => exact matched_read h .disable hpc hstep
  | uninitCall => exact matched_uninitCall h hpc hstep
  | uninitWrite => exact matched_write h .disable hpc hstep

theorem matched_start (h : Follows s es n cs) (k : Kind) {act : Action}
    (hstep : next s (i, act) = some t) (hkind : startedKind act = some k) (hgroup : InGroup k t)
    (hidle : s.pc i = .idle) (ht : t = s.at i pc) (hdue : due pc = [k]) :
    Matched t (es ++ [(i, act)]) n cs := by
  subst ht
  refine ⟨[], n, .nil, h.exec hstep, ?_, ⟨k, hgroup⟩, h.registered, h.flag, fun j ↦ ?_⟩
  · rw [h.made_snoc]
    cases act <;> first | rfl | cases hkind
  rw [started_snoc, List.append_nil, h.order j]
  by_cases hj : j = i
  · subst hj
    rw [at_pc_self, hdue, hidle]
    simp [hkind, due]
  · have hne : ¬ i = j := fun heq ↦ hj heq.symm
    simp [at_pc_ne s pc hj, hne]

theorem matched_next {e : ℕ × Action} (h : Follows s es n cs) (hstep : next s e = some t)
    (hgrouped : Grouped s e) : Matched t (es ++ [e]) n cs := by
  obtain ⟨i, act⟩ := e
  obtain ⟨k, hk⟩ := h.group
  cases act with
  | startInit =>
      obtain ⟨hidle, rfl⟩ : s.pc i = .idle ∧ s.at i .initRead = t := by simpa [next] using hstep
      have hgroup : InGroup .enable s := by
        cases k with
        | enable => exact hk
        | disable => exact hk.swap hgrouped
      exact matched_start h .enable hstep rfl
        (hgroup.move (by simp [hidle, Kind.write]) (by simp [Kind.write]) id) hidle rfl rfl
  | startUninit =>
      obtain ⟨hidle, rfl⟩ : s.pc i = .idle ∧ s.at i .uninitRead = t := by
        simpa [next] using hstep
      have hgroup : InGroup .disable s := by
        cases k with
        | disable => exact hk
        | enable => exact hk.swap hgrouped
      exact matched_start h .disable hstep rfl
        (hgroup.move (by simp [hidle, Kind.write]) (by simp [Kind.write]) id) hidle rfl rfl
  | step psSet => exact matched_step h hstep

theorem follows_initialState : Follows initialState [] ProcNotify.initial [] where
  reached := rfl
  made := rfl
  group := ⟨.enable, fun _ ↦ id, nofun, nofun, nofun⟩
  registered := rfl
  flag := rfl
  order _ := rfl

end Simulation

theorem follows_of_grouped {es : List (ℕ × Action)} {s : State}
    (hrun : (toggles.restrict Grouped).Run initialState es s) :
    ∃ n, calls.Run ProcNotify.initial (decided es) n ∧ Follows s es n (decided es) := by
  obtain ⟨cs, n, hcalls, hfollows⟩ :=
    System.Run.simulate (C := toggles.restrict Grouped) (A := calls) (R := Follows)
      (fun _ _ _ _ _ _ h hstep ↦ matched_next h hstep.1 hstep.2) hrun follows_initialState
  obtain rfl := hfollows.made
  exact ⟨n, hcalls, hfollows⟩

/-- In groups of one kind every write of the flag is current. -/
theorem run_writeIsCurrent {es : List (ℕ × Action)} {s : State}
    (hrun : (toggles.restrict Grouped).Run initialState es s) :
    (toggles.restrict WriteIsCurrent).Run initialState es s := by
  induction hrun with
  | nil => exact .nil
  | snoc hrun hstep ih =>
      obtain ⟨_, _, hfollows⟩ := follows_of_grouped hrun
      obtain ⟨k, hgroup⟩ := hfollows.group
      exact ih.snoc ⟨hstep.1, hgroup.writeIsCurrent _⟩

/-- While enable and disable commands do not overlap, any number of commands of one kind
may: once all have ended, they have done what whole calls do that are made one after
another in the order in which the commands were decided, each with the kernel's answer to
its command.  These are every client's commands in the order in which the client made them. -/
theorem wholeCalls_of_grouped {es : List (ℕ × Action)} {s : State}
    (hrun : (toggles.restrict Grouped).Run initialState es s) (hquiet : Quiescent s) :
    calls.Run ProcNotify.initial (decided es) s.notify ∧
      ∀ i, started i es = called i (decided es) := by
  obtain ⟨n, hcalls, hfollows⟩ := follows_of_grouped hrun
  obtain ⟨k, hgroup⟩ := hfollows.group
  have hflag : n.gProcessNotifyRegistered = s.notify.gProcessNotifyRegistered :=
    hfollows.flag.trans (hfollows.registered.trans (hgroup.flagAgrees hquiet).symm)
  have hnotify : n = s.notify := congrArg₂ ProcNotify.mk hfollows.registered hflag
  refine ⟨hnotify ▸ hcalls, fun i ↦ ?_⟩
  rw [hfollows.order i, hquiet i]
  exact List.append_nil _

theorem run_grouped {s t u : State} {es : List (ℕ × Action)}
    (h : (toggles.restrict Grouped).Run s es t) (e : ℕ × Action) (hnext : next t e = some u)
    (hgrouped : Grouped t e) : (toggles.restrict Grouped).Run s (es ++ [e]) u :=
  h.snoc ⟨hnext, hgrouped⟩

/-- Two enable commands at once, the second of which the kernel refuses. -/
theorem wholeCalls_twoEnables : ∃ es s, (toggles.restrict Grouped).Run initialState es s ∧
    decided es = [⟨0, .enable, statusSuccess⟩, ⟨1, .enable, statusAccessDenied⟩] ∧
    s.notify = ⟨true, true⟩ ∧ calls.Run ProcNotify.initial (decided es) s.notify ∧
    ∀ i, started i es = called i (decided es) := by
  have hidle : ∀ j, ¬ Kind.disable.Runs (initialState.pc j) := fun _ ↦ id
  have hstarted : ∀ j, ¬ Kind.disable.Runs ((initialState.at 0 .initRead).pc j) := by
    intro j
    simp only [State.at, initialState, Function.update_apply]
    split_ifs <;> exact id
  have h₁ := run_grouped .nil (0, .startInit) rfl hidle
  have h₂ := run_grouped h₁ (1, .startInit) rfl hstarted
  have h₃ := run_grouped h₂ (0, .step statusSuccess) rfl trivial
  have h₄ := run_grouped h₃ (1, .step statusSuccess) rfl trivial
  have h₅ := run_grouped h₄ (0, .step statusSuccess) rfl trivial
  have h₆ := run_grouped h₅ (1, .step statusAccessDenied) rfl trivial
  have h₇ := run_grouped h₆ (0, .step statusSuccess) rfl trivial
  obtain ⟨hcalls, horder⟩ := wholeCalls_of_grouped h₇ fun i ↦ by
    rcases i with _ | _ | i <;> rfl
  exact ⟨_, _, h₇, rfl, rfl, hcalls, horder⟩

end NtDriver.ToggleRace
