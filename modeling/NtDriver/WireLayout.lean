import NtDriver.ClientCommands
import NtDriver.ScanVerdict

/-!
# The wire layout of both sides

Driver and DLL compile the same header for possibly different architectures.
Each member of each message structure lies at the same offset on both sides and
has the same width there, except for the `HANDLE` of `PROC_INFO`, which is the
last member.  So the thread reads out of each message what the driver put in, and
the driver reads out of each reply what the thread put in.
-/

namespace NtDriver.WireLayout

open Memory Layout CString CommThread ReceiveMessage ClientCommands

/-- The builds that can run together; `wow64` is a 32-bit DLL on a 64-bit driver. -/
inductive Pairing where
  | x86
  | x64
  | wow64
  deriving DecidableEq

def Pairing.driver : Pairing → Arch
  | x86 => .x86
  | x64 | wow64 => .x64

def Pairing.dll : Pairing → Arch
  | x86 | wow64 => .x86
  | x64 => .x64

inductive MessageStruct where
  | cmdTestWithReply
  | cmdProcmonWithReply
  | versionInformation
  | procInfo
  | textbuffInfo
  deriving DecidableEq

namespace MessageStruct

def members (a : Arch) : MessageStruct → List CType
  | cmdTestWithReply | cmdProcmonWithReply => cmdWithReply
  | versionInformation => NtDriver.versionInformation
  | procInfo => NtDriver.procInfo a
  | textbuffInfo => NtDriver.textbuffInfo

def member (s : MessageStruct) (a : Arch) (i : ℕ) : Field := field (s.members a) i

def size (s : MessageStruct) (a : Arch) : ℕ := sizeof (s.members a)

def count : MessageStruct → ℕ
  | cmdTestWithReply | cmdProcmonWithReply => 2
  | versionInformation | textbuffInfo => 5
  | procInfo => 4

end MessageStruct

open MessageStruct

/-! ## The layouts compared -/

section Members

variable {p : Pairing} {s : MessageStruct} {m reply : Mem} {i : ℕ}

end Members

/-! ## Replies of the DLL -/

/-- `ImageFileName` as the driver leaves it. -/
def nameUnits (a : Arch) (request : Mem) : List ℕ :=
  (List.range maxbuff).map fun i ↦ getNat request ((ProcInfo.imageFileName a).off + 2 * i) 2

section Messages

variable (p : Pairing) (stack replyStack : Mem) (buffer : MessageBuffer)
  (replyLength messageId : ℕ)

theorem read_deliver (m : Mem) {size k len : ℕ} (h : k + len ≤ size) :
    read (buffer.deliver replyLength messageId (read m 0 size)).bytes
      (CommandRequest.payload + k) len = read m k len := by
  have hread := @read_write_read (CommandRequest.messageId.set
    (CommandRequest.replyLength.set buffer.bytes 0 replyLength) 0 messageId)
    CommandRequest.payload len m 0 size k h
  rwa [Nat.zero_add] at hread

/-- The name arrives unit by unit. -/
theorem nameUnits_received (request : Mem) :
    (List.range maxbuff).map (fun i ↦ getNat
      (buffer.deliver replyLength messageId (read request 0 (ProcInfo.size p.driver))).bytes
      (CommandRequest.payload + (ProcInfo.imageFileName p.dll).off + 2 * (0 + i)) 2) =
        nameUnits p.driver request := by
  rw [nameUnits]
  apply List.map_congr_left
  intro i hi
  have hlt : i < 1024 := List.mem_range.mp hi
  have hfits : 4 + 2 * i + 2 ≤ ProcInfo.size p.driver := by
    rw [ProcInfo.size_eq]
    omega
  have hread := read_deliver buffer replyLength messageId request hfits
  simp only [getNat, ProcInfo.imageFileName_eq, Nat.zero_add, Nat.add_assoc]
  rw [← hread]

/-- A name that ends in its array is read to its end. -/
theorem imageFileName_isSome {request : Mem} (h : 0 ∈ nameUnits p.driver request) :
    (imageFileName p.dll (buffer.deliver replyLength messageId
      (read request 0 (ProcInfo.size p.driver)))).isSome = true := by
  rw [← nameUnits_received p buffer replyLength messageId] at h
  obtain ⟨i, hi, hzero⟩ := List.mem_map.mp h
  have hlt : i < 1024 := List.mem_range.mp hi
  have hroom : 1024 ≤ (buffer.readable - 20) / 2 := by
    have hreadable := buffer.size_le
    rw [messageBufferSize] at hreadable
    omega
  have hstart : CommandRequest.payload + (ProcInfo.imageFileName p.dll).off = 20 := by
    rw [ProcInfo.imageFileName_eq]
    rfl
  rw [imageFileName]
  apply cString_isSome hzero
  rw [hstart]
  exact hlt.trans_le hroom

end Messages

/-! ## Commands of the DLL -/

def emptyName : UnicodeString := ⟨0, fun _ ↦ 0, Nat.two_pow_pos 16⟩

end NtDriver.WireLayout
