import NtDriver.Callbacks
import NtDriver.Lib.CString

/-!
# Text files

`PostOperation` looks for text files.  It searches `Name.Buffer`, which no NUL ends, as
if it were a NUL-terminated string, and it takes its branch wherever `L".txt"` stands.
-/

namespace NtDriver.TextFile

open Handles Callbacks CString

/-- A counted name, of `length` bytes.  `buffer` is what can be read from `Name.Buffer`
on, the name and what stands behind it; it may be `NULL` for an empty name. -/
structure FileName where
  length : ℕ
  buffer : Option (List UInt16)
  length_lt : length < 2 ^ 16
  length_le : length / 2 ≤ (buffer.getD []).length

/-- `L".txt"`. -/
def txt : List UInt16 := [0x2E, 0x74, 0x78, 0x74]

def backslash : UInt16 := 0x5C

namespace FileName

variable (n : FileName)

def text : List UInt16 := n.buffer.getD []

def units : List UInt16 := n.text.take (n.length / 2)

def behind : List UInt16 := n.text.drop (n.length / 2)

def lastComponent : List UInt16 := n.units.rtakeWhile (· ≠ backslash)

def EndsInTxt : Prop := txt <:+ n.lastComponent

instance : Decidable n.EndsInTxt := inferInstanceAs (Decidable (_ <:+ _))

theorem units_append_behind : n.units ++ n.behind = n.text := List.take_append_drop _ _

/-- The extension has no backslash, so it is the end of the whole name. -/
theorem endsInTxt_iff : n.EndsInTxt ↔ txt <:+ n.units := by
  apply suffix_rtakeWhile_iff
  apply List.all_eq_true.mp
  decide

end FileName

/-! ## The callback -/

/-- What the system finds for one create. -/
structure Opening where
  ioStatus : NtStatus
  fltGetFileNameInformation : NtStatus
  name : FileName

def Opening.toPostOpEnv (env : Opening) : PostOpEnv :=
  ⟨env.ioStatus, env.fltGetFileNameInformation, env.name.buffer⟩

/-- A pointer that is not given is used, or memory is read that is not there. -/
inductive Stop where
  | pointer (fault : Fault)
  | unreadable

abbrev Routine := EStateM Stop Ledger

def lift {α : Type} (c : Callback α) : Routine α := fun l ↦
  match c l with
  | .ok x l' => .ok x l'
  | .error fault l' => .error (.pointer fault) l'

def wcswcs (string : Pointer (List UInt16)) (w : List UInt16) : Routine (Option ℕ) := do
  let text ← lift string.deref
  match search w text with
  | none => throw .unreadable
  | some found => return found

/-- `PostOperation`, with whether it takes its text-file branch. -/
def postOperation (env : Opening) : Routine (FltPostopCallbackStatus × Bool) := do
  if !ntSuccess env.ioStatus || env.ioStatus == statusReparse then
    return (.finishedProcessing, false)
  let fileNameInfo ← lift (fltGetFileNameInformation env.toPostOpEnv)
  let info ← lift fileNameInfo.deref
  let found ← wcswcs info.nameBuffer txt
  lift (fltReleaseFileNameInformation fileNameInfo)
  return (.finishedProcessing, found.isSome)

/-! ## One call -/

section Lift

variable {α : Type} {c : Callback α} {x : α} {fault : Fault} {l l' : Ledger}

theorem lift_ok (h : c l = .ok x l') : lift c l = .ok x l' := by rw [lift, h]

theorem lift_error (h : c l = .error fault l') : lift c l = .error (.pointer fault) l' := by
  rw [lift, h]

end Lift

theorem wcswcs_ofOption (buffer : Option (List UInt16)) (w : List UInt16) (l : Ledger) :
    wcswcs (.ofOption buffer) w l =
      match buffer with
      | none => .error (.pointer .null) l
      | some text =>
          match search w text with
          | none => .error .unreadable l
          | some found => .ok found l := by
  cases buffer with
  | none => rfl
  | some text =>
      simp only [wcswcs, bind, EStateM.bind, Pointer.ofOption, lift_ok (Pointer.deref_given text l)]
      cases search w text <;> rfl

section PostOperation

variable {env : Opening} {l : Ledger}

theorem Opening.skipped_iff (env : Opening) :
    (!ntSuccess env.ioStatus || env.ioStatus == statusReparse) = true ↔
      ¬ env.toPostOpEnv.Examined :=
  env.toPostOpEnv.skipped_iff

theorem postOperation_skipped (h : ¬ env.toPostOpEnv.Examined) :
    postOperation env l = .ok (.finishedProcessing, false) l := by
  rw [postOperation, if_pos (env.skipped_iff.mpr h)]
  rfl

theorem postOperation_unnamed (h : env.toPostOpEnv.Examined)
    (hname : ntSuccess env.fltGetFileNameInformation = false) :
    postOperation env l = .error (.pointer .unset) l := by
  have hcall := lift_ok (@fltGetFileNameInformation_failure env.toPostOpEnv hname l)
  rw [postOperation, if_neg (env.skipped_iff.not.mpr (not_not.mpr h))]
  simp only [bind, EStateM.bind, hcall, lift_error (Pointer.deref_unset l)]

/-- The search decides, once there is a name. -/
theorem postOperation_named (h : env.toPostOpEnv.Examined)
    (hname : ntSuccess env.fltGetFileNameInformation = true) :
    postOperation env l =
      match env.name.buffer with
      | none => .error (.pointer .null) (l.create true).2
      | some text =>
          match search txt text with
          | none => .error .unreadable (l.create true).2
          | some found =>
              .ok (.finishedProcessing, found.isSome)
                ((l.create true).2.close (some l.created)) := by
  have hcall := lift_ok (@fltGetFileNameInformation_success env.toPostOpEnv hname l)
  have hbuffer : env.toPostOpEnv.nameBuffer = env.name.buffer := rfl
  rw [postOperation, if_neg (env.skipped_iff.not.mpr (not_not.mpr h))]
  simp only [bind, EStateM.bind, hcall, hbuffer, lift_ok (Pointer.deref_given _ _), wcswcs_ofOption]
  cases env.name.buffer with
  | none => rfl
  | some text =>
      dsimp only
      cases search txt text <;> rfl

/-- What is left of a run when the search is not looked at, but for one that runs off. -/
def coarse : EStateM.Result Stop Ledger (FltPostopCallbackStatus × Bool) →
    Option (EStateM.Result Fault Ledger FltPostopCallbackStatus)
  | .ok (status, _) l => some (.ok status l)
  | .error (.pointer fault) l => some (.error fault l)
  | .error .unreadable _ => none

/-- A run whose search ends does what the callback does that has no search. -/
theorem postOperation_coarse {r : EStateM.Result Fault Ledger FltPostopCallbackStatus}
    (h : coarse (postOperation env l) = some r) :
    Callbacks.postOperation env.toPostOpEnv l = r := by
  by_cases hexamined : env.toPostOpEnv.Examined
  · cases hname : ntSuccess env.fltGetFileNameInformation with
    | false =>
        rw [postOperation_unnamed hexamined hname] at h
        exact (postOperation_unset hexamined hname l).trans (Option.some.inj h)
    | true =>
        rw [postOperation_named hexamined hname] at h
        cases hbuffer : env.name.buffer with
        | none =>
            rw [hbuffer] at h
            exact (postOperation_null hexamined hname hbuffer l).trans (Option.some.inj h)
        | some text =>
            rw [hbuffer] at h
            dsimp only at h
            cases hsearch : search txt text with
            | none =>
                rw [hsearch] at h
                cases h
            | some found =>
                rw [hsearch] at h
                exact (postOperation_given hexamined hname hbuffer l).trans (Option.some.inj h)
  · rw [postOperation_skipped hexamined] at h
    exact (Callbacks.postOperation_skipped hexamined l).trans (Option.some.inj h)

end PostOperation

/-! ## The verdict -/

/-- The callback completes, and it takes its branch for the names that end in `.txt`. -/
def Recognises (env : Opening) : Prop :=
  ∃ taken l, postOperation env Ledger.empty = .ok (.finishedProcessing, taken) l ∧
    (taken = true ↔ env.name.EndsInTxt)

/-- How the search goes wrong: a NUL in the name hides the extension; the letters stand
somewhere else, in the name or behind it; or no NUL ends the search of another name. -/
inductive Misread (n : FileName) : Prop where
  | hidden (h : n.EndsInTxt) (hnul : ¬ txt <:+: n.units.takeWhile (· ≠ 0))
  | elsewhere (h : ¬ n.EndsInTxt) (hfound : txt <:+: n.text.takeWhile (· ≠ 0))
  | unbounded (h : ¬ n.EndsInTxt) (hnul : 0 ∉ n.text)

theorem nul_notMem_txt : 0 ∉ txt := by decide

section Name

variable {n : FileName}

/-- Nothing behind the name matters to a name that has the extension. -/
theorem infix_text_iff (h : n.EndsInTxt) :
    txt <:+: n.text.takeWhile (· ≠ 0) ↔ txt <:+: n.units.takeWhile (· ≠ 0) := by
  rw [← n.units_append_behind]
  by_cases hnul : 0 ∈ n.units
  · rw [takeWhile_append_of_mem hnul]
  · have hname : txt <:+: n.units := (n.endsInTxt_iff.mp h).isInfix
    rw [takeWhile_append_of_notMem hnul, takeWhile_of_notMem hnul]
    exact iff_of_true (List.infix_append_of_infix_left hname) hname

theorem search_iff_not_misread (n : FileName) :
    (search txt n.text).map Option.isSome = some (decide n.EndsInTxt) ↔ ¬ Misread n := by
  by_cases hends : n.EndsInTxt
  · rw [decide_eq_true hends, search_found_iff nul_notMem_txt (List.cons_ne_nil _ _),
      infix_text_iff hends]
    constructor
    · rintro hfound (⟨_, hnul⟩ | ⟨hother, _⟩ | ⟨hother, _⟩)
      · exact hnul hfound
      · exact hother hends
      · exact hother hends
    · intro h
      by_contra hnul
      exact h (.hidden hends hnul)
  · rw [decide_eq_false hends, search_missed_iff nul_notMem_txt (List.cons_ne_nil _ _)]
    constructor
    · rintro ⟨hnul, hmissed⟩ (⟨hname, _⟩ | ⟨_, hfound⟩ | ⟨_, hnone⟩)
      · exact hends hname
      · exact hmissed hfound
      · exact hnone hnul
    · intro h
      refine ⟨?_, fun hfound ↦ h (.elsewhere hends hfound)⟩
      by_contra hnul
      exact h (.unbounded hends hnul)

end Name

/-- The search decides what the callback does. -/
theorem recognises_iff_search {env : Opening} (h : env.toPostOpEnv.Examined)
    (hname : ntSuccess env.fltGetFileNameInformation = true) :
    Recognises env ↔
      (search txt env.name.text).map Option.isSome = some (decide env.name.EndsInTxt) := by
  rw [Recognises, postOperation_named h hname, FileName.text]
  cases env.name.buffer with
  | none => simp [search]
  | some text =>
      rw [Option.getD_some]
      dsimp only
      cases search txt text with
      | none => simp
      | some found =>
          constructor
          · rintro ⟨taken, l, hok, htaken⟩
            cases hok
            exact congrArg some (Bool.eq_iff_iff.mpr (htaken.trans decide_eq_true_iff.symm))
          · intro hfound
            refine ⟨found.isSome, _, rfl, ?_⟩
            rw [Option.some.inj hfound, decide_eq_true_iff]

/-- With the name at hand, the branch is taken for exactly the right names unless the
search misreads this one. -/
theorem recognises_iff_not_misread {env : Opening} (h : env.toPostOpEnv.Examined)
    (hname : ntSuccess env.fltGetFileNameInformation = true) :
    Recognises env ↔ ¬ Misread env.name :=
  (recognises_iff_search h hname).trans (search_iff_not_misread env.name)

/-- A successful create of a file called `name`, with one NUL behind the name. -/
def opening (name : List UInt16) (h : 2 * name.length < 2 ^ 16) : Opening where
  ioStatus := statusSuccess
  fltGetFileNameInformation := statusSuccess
  name := {
    length := 2 * name.length
    buffer := some (name ++ [0])
    length_lt := h
    length_le := by simp }

theorem examined_opening (name : List UInt16) (h : 2 * name.length < 2 ^ 16) :
    (opening name h).toPostOpEnv.Examined :=
  ⟨ntSuccess_statusSuccess, by change statusSuccess ≠ statusReparse; decide⟩

/-- `L"\\a.txt"`. -/
def plainName : List UInt16 := [0x5C, 0x61, 0x2E, 0x74, 0x78, 0x74]

theorem plainName_lt : 2 * plainName.length < 2 ^ 16 := by decide

theorem recognises_plainName : Recognises (opening plainName plainName_lt) := by
  apply (recognises_iff_not_misread (examined_opening _ _) ntSuccess_statusSuccess).mpr
  rintro (⟨_, hnul⟩ | ⟨hother, _⟩ | ⟨hother, _⟩)
  · exact hnul (by decide)
  · exact hother (by decide)
  · exact hother (by decide)

/-- `L"\\a.txt.exe"`. -/
def doubleExtension : List UInt16 := plainName ++ [0x2E, 0x65, 0x78, 0x65]

theorem doubleExtension_lt : 2 * doubleExtension.length < 2 ^ 16 := by decide

theorem not_recognises_doubleExtension :
    ¬ ∀ env : Opening, env.toPostOpEnv.Examined →
      ntSuccess env.fltGetFileNameInformation = true → Recognises env := by
  intro hall
  have hexamined := examined_opening doubleExtension doubleExtension_lt
  obtain ⟨taken, l, hok, htaken⟩ := hall _ hexamined ntSuccess_statusSuccess
  have hends : ¬ (opening doubleExtension doubleExtension_lt).name.EndsInTxt := by decide
  rw [postOperation_named hexamined ntSuccess_statusSuccess] at hok
  cases hok
  exact hends (htaken.mp (by decide))

end NtDriver.TextFile
