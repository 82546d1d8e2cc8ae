import NtDriver.Lib.Layout

/-!
# The structures shared by driver and DLL

The message formats of `user_kernel_structs.h`, laid out with default packing
for 32-bit and 64-bit builds.  Only `PROC_INFO` depends on the build, through
the width of its `HANDLE`.
-/

namespace NtDriver

open Layout Memory

inductive Arch where
  | x86
  | x64
  deriving DecidableEq

def Arch.pointerSize : Arch → ℕ
  | x86 => 4
  | x64 => 8

theorem Arch.pointerSize_pos (a : Arch) : 0 < a.pointerSize := by
  cases a <;> decide

inductive CommandCode where
  | cmdGetLibraryVersion
  | cmdTestWithReply
  | cmdEnableProcmon
  | cmdDisableProcmon
  | cmdGiveProcname
  | cmdSendTextBuff
  deriving DecidableEq

namespace CommandCode

def value : CommandCode → ℕ
  | cmdGetLibraryVersion => 0
  | cmdTestWithReply => 1
  | cmdEnableProcmon => 2
  | cmdDisableProcmon => 3
  | cmdGiveProcname => 4
  | cmdSendTextBuff => 5

def ofValue : ℕ → Option CommandCode
  | 0 => some cmdGetLibraryVersion
  | 1 => some cmdTestWithReply
  | 2 => some cmdEnableProcmon
  | 3 => some cmdDisableProcmon
  | 4 => some cmdGiveProcname
  | 5 => some cmdSendTextBuff
  | _ => none

@[simp] theorem ofValue_value (c : CommandCode) : ofValue c.value = some c := by
  cases c <;> rfl

theorem ofValue_eq_some_iff {n : ℕ} {c : CommandCode} :
    ofValue n = some c ↔ n = c.value := by
  constructor
  · intro h
    unfold ofValue at h
    split at h <;> simp_all [value]
    all_goals subst h; rfl
  · rintro rfl
    exact ofValue_value c

theorem value_lt (c : CommandCode) : c.value < 256 ^ 4 := by
  cases c <;> decide

end CommandCode

def maxbuff : ℕ := 1024

def scannerReadBufferSize : ℕ := 1024

/-! ## Member types -/

def commandCode : CType := scalar 4 (by decide)
def int32 : CType := scalar 4 (by decide)
def ulong : CType := scalar 4 (by decide)
def ulonglong : CType := scalar 8 (by decide)
def wchar : CType := scalar 2 (by decide)
def uchar : CType := scalar 1 (by decide)
def handle (a : Arch) : CType := scalar a.pointerSize a.pointerSize_pos

/-! ## Requests of the DLL -/

/-- `CMD_TEST_WITH_REPLY`, and `CMD_PROCMON_WITH_REPLY` with the same members. -/
def cmdWithReply : List CType := [commandCode, int32]

namespace CmdWithReply

def command : Field := field cmdWithReply 0
def replyFromKernel : Field := field cmdWithReply 1
def size : ℕ := sizeof cmdWithReply

theorem command_eq : command = ⟨0, 4⟩ := rfl

theorem replyFromKernel_eq : replyFromKernel = ⟨4, 4⟩ := rfl

end CmdWithReply

/-! ## Messages of the driver -/

def versionInformation : List CType := [commandCode, int32, int32, int32, int32]

namespace VersionInformation

def command : Field := field versionInformation 0
def major : Field := field versionInformation 1
def minor : Field := field versionInformation 2
def revision : Field := field versionInformation 3
def build : Field := field versionInformation 4
def size : ℕ := sizeof versionInformation

end VersionInformation

def procInfo (a : Arch) : List CType :=
  [commandCode, array wchar maxbuff, uchar, handle a]

namespace ProcInfo

variable (a : Arch)

def command : Field := field (procInfo a) 0
def imageFileName : Field := field (procInfo a) 1
def allowed : Field := field (procInfo a) 2
def processId : Field := field (procInfo a) 3
def size : ℕ := sizeof (procInfo a)

theorem size_eq : size a = 2056 + a.pointerSize := by cases a <;> rfl

theorem command_eq : command a = ⟨0, 4⟩ := by cases a <;> rfl

theorem imageFileName_eq : imageFileName a = ⟨4, 2048⟩ := by cases a <;> rfl

theorem allowed_eq : allowed a = ⟨2052, 1⟩ := by cases a <;> rfl

theorem processId_eq : processId a = ⟨2056, a.pointerSize⟩ := by cases a <;> rfl

end ProcInfo

def textbuffInfo : List CType :=
  [commandCode, ulong, ulong, array uchar scannerReadBufferSize, uchar]

namespace TextbuffInfo

def command : Field := field textbuffInfo 0
def bytesToScan : Field := field textbuffInfo 1
def reserved : Field := field textbuffInfo 2
def contents : Field := field textbuffInfo 3
def allowed : Field := field textbuffInfo 4
def size : ℕ := sizeof textbuffInfo

theorem command_eq : command = ⟨0, 4⟩ := rfl

theorem bytesToScan_eq : bytesToScan = ⟨4, 4⟩ := rfl

theorem contents_eq : contents = ⟨12, 1024⟩ := rfl

theorem allowed_eq : allowed = ⟨1036, 1⟩ := rfl

end TextbuffInfo

/-- Every payload begins with its command. -/
def payloadCommand : Field := ⟨0, 4⟩

theorem payloadCommand_eq (a : Arch) :
    VersionInformation.command = payloadCommand ∧ ProcInfo.command a = payloadCommand ∧
      TextbuffInfo.command = payloadCommand :=
  ⟨rfl, ProcInfo.command_eq a, rfl⟩

/-! ## Headers put in front by the filter manager -/

def filterMessageHeader : List CType := [ulong, ulonglong]

def filterReplyHeader : List CType := [ulong, ulonglong]

def commandRequest : List CType := [struct filterMessageHeader, commandCode]

namespace CommandRequest

def replyLength : Field := field filterMessageHeader 0
def messageId : Field := field filterMessageHeader 1

/-- `&pRequest->Command`, where the payload of every message begins. -/
def payload : ℕ := (field commandRequest 1).off

theorem payload_eq : payload = sizeof filterMessageHeader := rfl

end CommandRequest

namespace FilterReply

def status : Field := field filterReplyHeader 0
def messageId : Field := field filterReplyHeader 1

/-- `sizeof(FILTER_REPLY_HEADER)`, where the payload of every `*_REPLY`
structure begins. -/
def headerSize : ℕ := sizeof filterReplyHeader

theorem messageId_eq : messageId = ⟨8, 8⟩ := rfl

theorem headerSize_eq : headerSize = 16 := rfl

end FilterReply

/-- The payload of each `*_REPLY` structure follows its header without a gap. -/
theorem reply_payload_offset (a : Arch) :
    (field [struct filterReplyHeader, struct versionInformation] 1).off
        = FilterReply.headerSize ∧
      (field [struct filterReplyHeader, struct (procInfo a)] 1).off
        = FilterReply.headerSize ∧
      (field [struct filterReplyHeader, struct textbuffInfo] 1).off
        = FilterReply.headerSize := by
  cases a <;> exact ⟨rfl, rfl, rfl⟩

end NtDriver
