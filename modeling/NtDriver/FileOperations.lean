import NtDriver.Lib.Transition
import NtDriver.TextFile

/-!
# File operations

The filter manager looks an operation up in the table that the driver has registered,
and calls the routines of its entry around the file system.  The statuses that they return
decide whether the operation goes on.  The driver's let each pass.
-/

namespace NtDriver.FileOperations

open Handles Transition Callbacks CString TextFile

/-! ## Requests for the status of an operation -/

def irpMjCreate : ℕ := 0x00
def irpMjDirectoryControl : ℕ := 0x0C
def irpMjFileSystemControl : ℕ := 0x0D

def irpMnNotifyChangeDirectory : ℕ := 0x02

def fsctlRequestOplockLevel1 : ℕ := 0x00090000
def fsctlRequestOplockLevel2 : ℕ := 0x00090004
def fsctlRequestBatchOplock : ℕ := 0x00090008
def fsctlRequestFilterOplock : ℕ := 0x0009005C

/-- What the driver reads of an `FLT_IO_PARAMETER_BLOCK`. -/
structure IoParameterBlock where
  majorFunction : ℕ
  minorFunction : ℕ
  fsControlCode : ℕ

def doRequestOperationStatus (iopb : IoParameterBlock) : Bool :=
  (iopb.majorFunction == irpMjFileSystemControl &&
    (iopb.fsControlCode == fsctlRequestFilterOplock ||
      iopb.fsControlCode == fsctlRequestBatchOplock ||
      iopb.fsControlCode == fsctlRequestOplockLevel1 ||
      iopb.fsControlCode == fsctlRequestOplockLevel2)) ||
  (iopb.majorFunction == irpMjDirectoryControl &&
    iopb.minorFunction == irpMnNotifyChangeDirectory)

/-- What becomes of an operation: it goes to the file system and comes back with the status
that this has set, the filter ends it in its own way, or the filter holds it. -/
inductive Fate where
  | passed (status : NtStatus)
  | blocked
  | held
  deriving DecidableEq

/-- The driver's global, the contexts it has asked for a status with, the file names it
has obtained, and what has become of the operations. -/
structure Filter where
  operationStatusCtx : ℕ
  requested : List ℕ
  names : Ledger
  fates : List Fate

def loaded : Filter := ⟨1, [], Ledger.empty, []⟩

/-! ## The routines -/

inductive FltPreopCallbackStatus where
  | successWithCallback
  | successNoCallback
  | pending
  | disallowFastIo
  | complete
  | synchronize
  | disallowFsFilterIo

/-- `++OperationStatusCtx`, with a status that is only logged. -/
def preOperation (a : Arch) (iopb : IoParameterBlock) (f : Filter) :
    FltPreopCallbackStatus × Filter :=
  if doRequestOperationStatus iopb then
    let ctx := (f.operationStatusCtx + 1) % 256 ^ a.pointerSize
    (.successWithCallback,
      { f with operationStatusCtx := ctx, requested := f.requested ++ [ctx] })
  else (.successWithCallback, f)

def preOperationNoPostOperation (f : Filter) : FltPreopCallbackStatus × Filter :=
  (.successNoCallback, f)

/-- The routines that an entry of the table may name. -/
inductive Routines where
  | preOperation
  | preOperationNoPostOperation
  deriving DecidableEq

/-- An entry of the table.  `PreOperation` goes with `PostOperation`, and
`PreOperationNoPostOperation` with none. -/
structure OperationRegistration where
  majorFunction : ℕ
  routines : Routines

/-- The entry that is compiled; the others stand behind `#if 0`. -/
def callbacks : List OperationRegistration := [⟨irpMjCreate, .preOperation⟩]

structure Operation where
  iopb : IoParameterBlock
  opening : Opening

section Dispatch

variable (a : Arch) (table : List OperationRegistration)

def entry (op : Operation) : Option Routines :=
  (table.find? (·.majorFunction == op.iopb.majorFunction)).map OperationRegistration.routines

def Filter.over (f : Filter) (fate : Fate) : Filter := { f with fates := f.fates ++ [fate] }

def Routines.pre (iopb : IoParameterBlock) : Routines → Filter → FltPreopCallbackStatus × Filter
  | .preOperation, f => FileOperations.preOperation a iopb f
  | .preOperationNoPostOperation, f => FileOperations.preOperationNoPostOperation f

def Routines.post : Routines → Option (Opening → Routine (FltPostopCallbackStatus × Bool))
  | .preOperation => some postOperation
  | .preOperationNoPostOperation => none

/-- The way back from the file system; the machine stops at a bad pointer. -/
def wayBack (post : Option (Opening → Routine (FltPostopCallbackStatus × Bool))) (f : Filter)
    (opening : Opening) : Option Filter :=
  match post with
  | none => some (f.over (.passed opening.ioStatus))
  | some routine =>
      match routine opening f.names with
      | .error _ _ => none
      | .ok (.finishedProcessing, _) names =>
          some ({ f with names := names }.over (.passed opening.ioStatus))
      | .ok (.moreProcessingRequired, _) names => some ({ f with names := names }.over .held)
      | .ok (.disallowFsFilterIo, _) names => some ({ f with names := names }.over .blocked)

/-- What the filter manager does with the status of a pre-operation routine. -/
def wayThere (status : FltPreopCallbackStatus)
    (post : Option (Opening → Routine (FltPostopCallbackStatus × Bool))) (f : Filter)
    (opening : Opening) : Option Filter :=
  match status with
  | .successWithCallback | .synchronize => wayBack post f opening
  | .successNoCallback => wayBack none f opening
  | .pending => some (f.over .held)
  | .complete | .disallowFastIo | .disallowFsFilterIo => some (f.over .blocked)

/-- An operation on its way through the filter. -/
def next (f : Filter) (op : Operation) : Option Filter :=
  match entry table op with
  | none => some (f.over (.passed op.opening.ioStatus))
  | some routines =>
      let (status, f) := routines.pre a op.iopb f
      wayThere status routines.post f op.opening

end Dispatch

/-! ## One operation -/

/-- `PostOperation` uses a name that it has not got, or runs off its end. -/
def Breaks (env : Opening) : Prop :=
  env.toPostOpEnv.Examined ∧ (ntSuccess env.fltGetFileNameInformation = false ∨
    0 ∉ env.name.text ∧ ¬ txt <:+: env.name.text)

/-- An entry of the table asks for the status of the operation. -/
def asks (table : List OperationRegistration) (op : Operation) : Bool :=
  entry table op == some .preOperation && doRequestOperationStatus op.iopb

theorem search_eq_none_iff {text : List UInt16} :
    search txt text = none ↔ 0 ∉ text ∧ ¬ txt <:+: text := by
  have hfound := @search_found_iff _ _ _ txt text nul_notMem_txt (List.cons_ne_nil _ _)
  have hmissed := @search_missed_iff _ _ _ txt text nul_notMem_txt (List.cons_ne_nil _ _)
  have hwhole : 0 ∉ text → text.takeWhile (· ≠ 0) = text := takeWhile_of_notMem
  cases hsearch : search txt text with
  | none =>
      rw [hsearch] at hfound hmissed
      have hnul : 0 ∉ text := by
        intro hmem
        by_cases hword : txt <:+: text.takeWhile (· ≠ 0)
        · exact absurd (hfound.mpr hword) nofun
        · exact absurd (hmissed.mpr ⟨hmem, hword⟩) nofun
      refine iff_of_true rfl ⟨hnul, fun hword ↦ ?_⟩
      rw [← hwhole hnul] at hword
      exact absurd (hfound.mpr hword) nofun
  | some found =>
      rw [hsearch] at hfound hmissed
      refine iff_of_false nofun ?_
      rintro ⟨hnul, hword⟩
      cases hsome : found.isSome with
      | true => exact hword (hwhole hnul ▸ hfound.mp (by simp [hsome]))
      | false => exact hnul (hmissed.mp (by simp [hsome])).1

theorem postOperation_breaks {env : Opening} (h : Breaks env) (l : Ledger) :
    ∃ stop l', postOperation env l = .error stop l' := by
  obtain ⟨hexamined, hname | hunread⟩ := h
  · exact ⟨_, _, postOperation_unnamed hexamined hname⟩
  · cases hname : ntSuccess env.fltGetFileNameInformation with
    | false => exact ⟨_, _, postOperation_unnamed hexamined hname⟩
    | true =>
        rw [postOperation_named hexamined hname]
        cases hbuffer : env.name.buffer with
        | none => exact ⟨_, _, rfl⟩
        | some text =>
            rw [FileName.text, hbuffer, Option.getD_some] at hunread
            dsimp only
            rw [search_eq_none_iff.mpr hunread]
            exact ⟨_, _, rfl⟩

/-- A call that ends well has released the name that it obtained. -/
theorem postOperation_ends {env : Opening} (h : ¬ Breaks env) {l : Ledger} (hl : l.Settled) :
    ∃ taken l', postOperation env l = .ok (.finishedProcessing, taken) l' ∧ l'.Settled := by
  by_cases hexamined : env.toPostOpEnv.Examined
  · cases hname : ntSuccess env.fltGetFileNameInformation with
    | false => exact absurd ⟨hexamined, Or.inl hname⟩ h
    | true =>
        have hread : ¬ (0 ∉ env.name.text ∧ ¬ txt <:+: env.name.text) :=
          fun hunread ↦ h ⟨hexamined, Or.inr hunread⟩
        rw [← search_eq_none_iff, FileName.text] at hread
        rw [postOperation_named hexamined hname]
        cases hbuffer : env.name.buffer with
        | none => exact absurd (by rw [hbuffer]; rfl) hread
        | some text =>
            rw [hbuffer, Option.getD_some] at hread
            obtain ⟨found, hfound⟩ := Option.ne_none_iff_exists'.mp hread
            dsimp only
            rw [hfound]
            exact ⟨_, _, rfl, hl.create_close⟩
  · exact ⟨false, l, postOperation_skipped hexamined, hl⟩

section Next

variable {a : Arch} {table : List OperationRegistration} {f : Filter} {op : Operation}

/-- The filter looks at the operation and cannot cope with its name. -/
def Stops (table : List OperationRegistration) (op : Operation) : Prop :=
  entry table op = some .preOperation ∧ Breaks op.opening

/-- What an operation leaves behind that passes: the status that the file system has set,
and a context more if its entry asks for its status. -/
structure Passes (a : Arch) (table : List OperationRegistration) (f : Filter) (op : Operation)
    (g : Filter) : Prop where
  fates : g.fates = f.fates ++ [.passed op.opening.ioStatus]
  names : g.names.Settled
  ctx : g.operationStatusCtx =
    if asks table op then (f.operationStatusCtx + 1) % 256 ^ a.pointerSize
    else f.operationStatusCtx
  requested : g.requested =
    f.requested ++ if asks table op then [g.operationStatusCtx] else []

theorem next_preOperation (hentry : entry table op = some .preOperation) :
    next a table f op =
      wayBack (some postOperation) (preOperation a op.iopb f).2 op.opening := by
  rw [next, hentry]
  cases hrequest : doRequestOperationStatus op.iopb <;>
    simp [Routines.pre, Routines.post, preOperation, hrequest, wayThere]

theorem next_stops (h : Stops table op) : next a table f op = none := by
  obtain ⟨hentry, hbreaks⟩ := h
  obtain ⟨stop, names, hpost⟩ :=
    postOperation_breaks hbreaks (preOperation a op.iopb f).2.names
  simp only [next_preOperation hentry, wayBack, hpost]

theorem passes_preOperation {names : Ledger} (hentry : entry table op = some .preOperation)
    (hnames : names.Settled) :
    Passes a table f op ({ (preOperation a op.iopb f).2 with names := names }.over
      (.passed op.opening.ioStatus)) := by
  have hasks : asks table op = doRequestOperationStatus op.iopb := by simp [asks, hentry]
  cases hrequest : doRequestOperationStatus op.iopb <;>
    constructor <;> simp [preOperation, Filter.over, hasks, hrequest, hnames]

/-- An operation that no routine of the driver sees on its way back. -/
theorem passes_unseen (hnames : f.names.Settled) (hasks : asks table op = false) :
    Passes a table f op (f.over (.passed op.opening.ioStatus)) := by
  constructor <;> simp [Filter.over, hasks, hnames]

theorem next_passes (hnames : f.names.Settled) (h : ¬ Stops table op) :
    ∃ g, next a table f op = some g ∧ Passes a table f op g := by
  cases hentry : entry table op with
  | none =>
      exact ⟨_, by rw [next, hentry], passes_unseen hnames (by simp [asks, hentry])⟩
  | some routines =>
      cases routines with
      | preOperationNoPostOperation =>
          exact ⟨_, by rw [next, hentry]; rfl, passes_unseen hnames (by simp [asks, hentry])⟩
      | preOperation =>
          have hkept : (preOperation a op.iopb f).2.names = f.names := by
            unfold preOperation
            split_ifs <;> rfl
          obtain ⟨taken, names, hpost, hsettled⟩ :=
            postOperation_ends (fun hbreaks ↦ h ⟨hentry, hbreaks⟩) hnames
          refine ⟨_, ?_, passes_preOperation hentry hsettled⟩
          simp only [next_preOperation hentry, wayBack, hkept, hpost]

end Next

/-! ## Any sequence of operations -/

/-- The contexts of `k` requests: the counter goes round. -/
def contexts (a : Arch) (ctx k : ℕ) : List ℕ :=
  (List.range k).map fun j ↦ (ctx + (j + 1)) % 256 ^ a.pointerSize

section Contexts

variable {a : Arch} {ctx k : ℕ}

theorem contexts_succ (a : Arch) (ctx k : ℕ) :
    contexts a ctx (k + 1) = (ctx + 1) % 256 ^ a.pointerSize ::
      contexts a ((ctx + 1) % 256 ^ a.pointerSize) k := by
  rw [contexts, List.range_succ_eq_map, List.map_cons, List.map_map, contexts]
  congr 1
  apply List.map_congr_left
  intro j _
  simp only [Function.comp_apply, Nat.mod_add_mod]
  congr 1
  omega

/-- No two requests share a context until the counter has gone round. -/
theorem nodup_contexts (h : k ≤ 256 ^ a.pointerSize) : (contexts a ctx k).Nodup := by
  apply (List.nodup_range).map_on
  intro i hi j hj heq
  have hi' := (List.mem_range.mp hi).trans_le h
  have hj' := (List.mem_range.mp hj).trans_le h
  have hmod : i ≡ j [MOD 256 ^ a.pointerSize] := by
    apply Nat.ModEq.add_right_cancel' 1
    apply Nat.ModEq.add_left_cancel' ctx
    exact heq
  exact hmod.eq_of_lt_of_lt hi' hj'

end Contexts

section Run

variable {a : Arch} {table : List OperationRegistration} {f g : Filter} {ops : List Operation}

/-- What a sequence of operations leaves behind that all pass. -/
structure PassesAll (a : Arch) (table : List OperationRegistration) (f : Filter)
    (ops : List Operation) (g : Filter) : Prop where
  fates : g.fates = f.fates ++ ops.map fun op ↦ .passed op.opening.ioStatus
  names : g.names.Settled
  requested : g.requested =
    f.requested ++ contexts a f.operationStatusCtx (ops.countP (asks table))

theorem PassesAll.cons {op : Operation} {h : Filter} (hop : Passes a table f op g)
    (hops : PassesAll a table g ops h) : PassesAll a table f (op :: ops) h where
  fates := by rw [hops.fates, hop.fates, List.append_assoc]; rfl
  names := hops.names
  requested := by
    rw [hops.requested, hop.requested, hop.ctx, List.countP_cons]
    cases hasks : asks table op with
    | false => simp
    | true => simp [contexts_succ]

theorem exec_passes (hnames : f.names.Settled) (h : ∀ op ∈ ops, ¬ Stops table op) :
    ∃ g, System.exec (next a table) f ops = some g ∧ PassesAll a table f ops g := by
  induction ops generalizing f with
  | nil => exact ⟨f, rfl, by simp, hnames, by simp [contexts]⟩
  | cons op ops ih =>
      obtain ⟨g, hnext, hop⟩ := next_passes (a := a) hnames (h op List.mem_cons_self)
      obtain ⟨h', hexec, hops⟩ := ih hop.names fun op' hop' ↦ h op' (List.mem_cons_of_mem op hop')
      refine ⟨h', ?_, PassesAll.cons hop hops⟩
      rw [System.exec_cons, hnext, Option.bind_some, hexec]

theorem not_stops_of_exec (hexec : System.exec (next a table) f ops = some g) :
    ∀ op ∈ ops, ¬ Stops table op := by
  induction ops generalizing f with
  | nil => exact fun op hop ↦ absurd hop List.not_mem_nil
  | cons op ops ih =>
      obtain ⟨h, hnext, hrest⟩ := Option.bind_eq_some_iff.mp hexec
      intro op' hop'
      rcases List.mem_cons.mp hop' with rfl | hmem
      · intro hstops
        rw [next_stops hstops] at hnext
        cases hnext
      · exact ih hrest op' hmem

end Run

/-- The table that is compiled holds creates only, and no create is asked about. -/
theorem asks_callbacks (op : Operation) : asks callbacks op = false := by
  by_cases hcreate : op.iopb.majorFunction = irpMjCreate
  · have hrequest : doRequestOperationStatus op.iopb = false := by
      rw [doRequestOperationStatus, hcreate]
      rfl
    rw [asks, hrequest, Bool.and_false]
  · have hentry : entry callbacks op = none := by
      have hmiss : (irpMjCreate == op.iopb.majorFunction) = false :=
        beq_eq_false_iff_ne.mpr (Ne.symm hcreate)
      simp [entry, callbacks, hmiss]
    rw [asks, hentry]
    rfl

/-- Whatever the table, the machine runs through any sequence of operations unless the filter
cannot cope with a name.  Each operation is then passed on and comes back with the status
that the file system has set, each name has been released once, and the contexts of the
requests follow one another, so no two are the same until the counter has gone round.  The
table that is compiled makes none. -/
theorem operations_pass (a : Arch) (table : List OperationRegistration) (ops : List Operation) :
    ((∃ g, System.exec (next a table) loaded ops = some g) ↔ ∀ op ∈ ops, ¬ Stops table op) ∧
      ∀ g, System.exec (next a table) loaded ops = some g →
        PassesAll a table loaded ops g ∧
          (ops.countP (asks table) ≤ 256 ^ a.pointerSize → g.requested.Nodup) ∧
          (table = callbacks → g.requested = []) := by
  refine ⟨⟨fun ⟨g, hexec⟩ ↦ not_stops_of_exec hexec, fun h ↦ ?_⟩, fun g hexec ↦ ?_⟩
  · obtain ⟨g, hexec, _⟩ := exec_passes (a := a) (f := loaded) Ledger.settled_empty h
    exact ⟨g, hexec⟩
  · obtain ⟨g', hexec', hpasses⟩ :=
      exec_passes (f := loaded) Ledger.settled_empty (not_stops_of_exec hexec)
    obtain rfl : g' = g := Option.some.inj (hexec'.symm.trans hexec)
    have hrequested : g'.requested = contexts a 1 (ops.countP (asks table)) := hpasses.requested
    refine ⟨hpasses, fun hcount ↦ hrequested ▸ nodup_contexts hcount, ?_⟩
    rintro rfl
    have hnone : ops.countP (asks callbacks) = 0 :=
      List.countP_eq_zero.mpr fun op _ ↦ by simp [asks_callbacks]
    rw [hrequested, hnone]
    rfl

end NtDriver.FileOperations
