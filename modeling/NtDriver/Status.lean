import Mathlib.Data.BitVec

/-!
# Windows status codes

The 32-bit status words of the driver and the DLL, their severity tests, and
the codes that the modelled functions return or compare with.
-/

namespace NtDriver

abbrev NtStatus := BitVec 32

abbrev Hresult := BitVec 32

abbrev Dword := BitVec 32

/-- `NT_SUCCESS`: the status is nonnegative as a signed number. -/
def ntSuccess (status : NtStatus) : Bool := decide (0 ≤ status.toInt)

def ntError (status : NtStatus) : Bool := status.toNat / 2 ^ 30 == 3

def statusSuccess : NtStatus := 0x00000000#32
def statusObjectNameExists : NtStatus := 0x40000000#32
def statusReparse : NtStatus := 0x00000104#32
def statusAccessViolation : NtStatus := 0xC0000005#32
def statusUnsuccessful : NtStatus := 0xC0000001#32
def statusInvalidParameter : NtStatus := 0xC000000D#32
def statusInvalidParameter1 : NtStatus := 0xC00000EF#32
def statusInvalidParameter2 : NtStatus := 0xC00000F0#32
def statusAccessDenied : NtStatus := 0xC0000022#32
def statusObjectNameNotFound : NtStatus := 0xC0000034#32
def statusObjectNameCollision : NtStatus := 0xC0000035#32
def statusPortDisconnected : NtStatus := 0xC0000037#32
def statusConnectionRefused : NtStatus := 0xC0000236#32
def statusInsufficientResources : NtStatus := 0xC000009A#32
def statusNotFound : NtStatus := 0xC0000225#32

@[simp] theorem ntSuccess_statusSuccess : ntSuccess statusSuccess = true := by decide

@[simp] theorem ntSuccess_statusInvalidParameter :
    ntSuccess statusInvalidParameter = false := by decide

theorem statusInvalidParameter_ne : statusInvalidParameter ≠ statusSuccess := by decide

theorem statusInvalidParameter1_ne : statusInvalidParameter1 ≠ statusSuccess := by decide

theorem statusInvalidParameter2_ne : statusInvalidParameter2 ≠ statusSuccess := by decide

theorem statusUnsuccessful_ne : statusUnsuccessful ≠ statusSuccess := by decide

@[simp] theorem ntSuccess_statusUnsuccessful :
    ntSuccess statusUnsuccessful = false := by decide

@[simp] theorem ntSuccess_statusNotFound : ntSuccess statusNotFound = false := by decide

/-- `HRESULT_FROM_WIN32`. -/
def hresultFromWin32 (x : Dword) : Hresult :=
  if x.toInt ≤ 0 then x else (x &&& 0x0000FFFF#32) ||| 0x80070000#32

def sOk : Hresult := 0x00000000#32

def errorInvalidHandle : Dword := 6#32
def errorOperationAborted : Dword := 995#32
def errorIoPending : Dword := 997#32

def waitObject0 : Dword := 0#32

end NtDriver
