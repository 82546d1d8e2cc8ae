import NtDriver.Status

/-!
# Registration of the process notify routine

`DrvInitializeProcNotify` and `DrvUninitializeProcNotify` keep a flag beside the
kernel's own record of the registration.  Each is modelled with the status that
`PsSetCreateProcessNotifyRoutineEx` returns should the function call it.
-/

namespace NtDriver

/-- The kernel's registration of `DrvProcessNotifyRoutineEx` and the driver's
flag for it. -/
structure ProcNotify where
  registered : Bool
  gProcessNotifyRegistered : Bool
  deriving DecidableEq

namespace ProcNotify

def initial : ProcNotify := ⟨false, false⟩

/-- `PsSetCreateProcessNotifyRoutineEx(DrvProcessNotifyRoutineEx, remove)` that
returns `status`. -/
def psSetCreateProcessNotifyRoutineEx (remove : Bool) (status : NtStatus)
    (n : ProcNotify) : ProcNotify :=
  if ntSuccess status then { n with registered := !remove } else n

/-- The statuses the kernel may return: adding the routine fails when it is
already registered, and removing it fails only when it is not. -/
def PsSetAllows (remove : Bool) (status : NtStatus) (n : ProcNotify) : Prop :=
  if remove then ntSuccess status = false → n.registered = false
  else ntSuccess status = true → n.registered = false

instance (remove : Bool) (status : NtStatus) (n : ProcNotify) :
    Decidable (PsSetAllows remove status n) := by
  unfold PsSetAllows
  infer_instance

/-- The flag says what the kernel has registered. -/
def FlagAgrees (n : ProcNotify) : Prop := n.gProcessNotifyRegistered = n.registered

def drvInitializeProcNotify (psSet : NtStatus) (n : ProcNotify) : NtStatus × ProcNotify :=
  if n.gProcessNotifyRegistered then (statusObjectNameExists, n)
  else
    let n' := psSetCreateProcessNotifyRoutineEx false psSet n
    if ntSuccess psSet then (psSet, { n' with gProcessNotifyRegistered := true })
    else (psSet, n')

def drvUninitializeProcNotify (psSet : NtStatus) (n : ProcNotify) : NtStatus × ProcNotify :=
  if n.gProcessNotifyRegistered then
    let n' := psSetCreateProcessNotifyRoutineEx true psSet n
    (psSet, { n' with gProcessNotifyRegistered := false })
  else (statusSuccess, n)

/-! ## What one command changes -/

theorem drvInitializeProcNotify_eq_self_iff (psSet : NtStatus) (n : ProcNotify) :
    (drvInitializeProcNotify psSet n).2 = n ↔
      (n.gProcessNotifyRegistered = true ∨ ntSuccess psSet = false) := by
  rcases n with ⟨registered, flag⟩
  cases flag <;> cases h : ntSuccess psSet <;>
    simp [drvInitializeProcNotify, psSetCreateProcessNotifyRoutineEx, h]

theorem drvUninitializeProcNotify_eq_self_iff (psSet : NtStatus) (n : ProcNotify) :
    (drvUninitializeProcNotify psSet n).2 = n ↔ n.gProcessNotifyRegistered = false := by
  rcases n with ⟨registered, flag⟩
  cases flag <;> cases h : ntSuccess psSet <;>
    simp [drvUninitializeProcNotify, psSetCreateProcessNotifyRoutineEx, h]

end ProcNotify

end NtDriver
