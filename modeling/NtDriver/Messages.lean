import NtDriver.Lib.CString
import NtDriver.Status
import NtDriver.Structs

/-!
# The messages of the driver

`GetAndLogClientVersion`, `GetAndLogProcDetails` and
`ScannerpScanFileInUserMode` fill a local structure and hand all its bytes to
`FltSendMessage`, which copies the reply over the same variable.  The prior
content of that variable is a parameter: what a function leaves unset is
whatever the kernel stack held.
-/

namespace NtDriver

open Memory Layout

/-- What one call of `FltSendMessage` comes back with: its status, and the reply
payload that it copied over the start of the reply buffer if it succeeded. -/
structure SendResult where
  status : NtStatus
  reply : List UInt8

structure UnicodeString where
  length : ℕ
  buffer : Mem
  length_lt : length < 2 ^ 16

/-! ## `GetAndLogClientVersion` -/

def rtlZeroMemory (m : Mem) (len : ℕ) : Mem := write m 0 (List.replicate len 0)

def clientVersionRequest (stack : Mem) : Mem :=
  let clientVersionInformation := rtlZeroMemory stack VersionInformation.size
  VersionInformation.command.set clientVersionInformation 0
    CommandCode.cmdGetLibraryVersion.value

theorem command_clientVersionRequest (stack : Mem) :
    payloadCommand.get (clientVersionRequest stack) 0 =
      CommandCode.cmdGetLibraryVersion.value := by
  rw [← (payloadCommand_eq .x86).1, clientVersionRequest, Field.get_set]
  exact Nat.mod_eq_of_lt (CommandCode.value_lt _)

def clientVersionMessage (stack : Mem) : List UInt8 :=
  read (clientVersionRequest stack) 0 VersionInformation.size

def getAndLogClientVersion (stack : Mem) (send : List UInt8 → SendResult) :
    Option (ℕ × ℕ × ℕ × ℕ) :=
  let r := send (clientVersionMessage stack)
  if ntSuccess r.status then
    let answer := write (clientVersionRequest stack) 0 r.reply
    some (VersionInformation.major.get answer 0, VersionInformation.minor.get answer 0,
      VersionInformation.revision.get answer 0, VersionInformation.build.get answer 0)
  else none

/-! ## `GetAndLogProcDetails` -/

/-- Number of bytes of the image name that are copied. -/
def imageNameLength (name : UnicodeString) : ℕ :=
  if name.length > maxbuff - 2 then maxbuff else name.length

def procDetailsRequest (a : Arch) (stack : Mem) (processId : ℕ) (name : UnicodeString) : Mem :=
  let processInformation :=
    (ProcInfo.command a).set stack 0 CommandCode.cmdGiveProcname.value
  let processInformation := (ProcInfo.processId a).set processInformation 0 processId
  (ProcInfo.imageFileName a).copy processInformation 0
    (read name.buffer 0 (imageNameLength name))

def procDetailsMessage (a : Arch) (stack : Mem) (processId : ℕ) (name : UnicodeString) :
    List UInt8 :=
  read (procDetailsRequest a stack processId name) 0 (ProcInfo.size a)

def procDetailsVerdict (a : Arch) (request : Mem) (r : SendResult)
    (creationStatus : NtStatus) : NtStatus :=
  if ntSuccess r.status then
    if (ProcInfo.allowed a).get (write request 0 r.reply) 0 = 0 then statusAccessDenied
    else creationStatus
  else creationStatus

/-- `GetAndLogProcDetails`: the resulting `CreationStatus`, or `none` when
`ImageFileName` is `NULL`, as its `Length` is read ahead of the `NULL` test. -/
def getAndLogProcDetails (a : Arch) (stack : Mem) (processId : ℕ)
    (imageFileName : Option UnicodeString) (send : List UInt8 → SendResult)
    (creationStatus : NtStatus) : Option NtStatus :=
  imageFileName.map fun name ↦
    procDetailsVerdict a (procDetailsRequest a stack processId name)
      (send (procDetailsMessage a stack processId name)) creationStatus

/-- The copied part of the name fits into its array. -/
theorem length_imageName_le (a : Arch) (name : UnicodeString) :
    (read name.buffer 0 (imageNameLength name)).length ≤ (ProcInfo.imageFileName a).size := by
  have hle : imageNameLength name ≤ maxbuff := by
    unfold imageNameLength
    split_ifs with h
    · exact le_rfl
    · exact (Nat.not_lt.mp h).trans (Nat.sub_le _ _)
  rw [length_read, ProcInfo.imageFileName_eq]
  exact hle.trans (by decide)

theorem command_procDetailsRequest (a : Arch) (stack : Mem) (processId : ℕ) (name : UnicodeString) :
    payloadCommand.get (procDetailsRequest a stack processId name) 0 =
      CommandCode.cmdGiveProcname.value := by
  have hname : (ProcInfo.command a).Apart (ProcInfo.imageFileName a) := field_apart _ (by decide)
  have hprocess : (ProcInfo.command a).Apart (ProcInfo.processId a) := field_apart _ (by decide)
  have hlen := length_imageName_le a name
  rw [← (payloadCommand_eq a).2.1, procDetailsRequest, Field.get_copy_apart _ _ hname hlen,
    Field.get_set_apart _ _ _ hprocess, Field.get_set, ProcInfo.command_eq]
  exact Nat.mod_eq_of_lt (CommandCode.value_lt _)

theorem procDetailsVerdict_of_failure (a : Arch) (request : Mem) {r : SendResult}
    (h : ntSuccess r.status = false) (creationStatus : NtStatus) :
    procDetailsVerdict a request r creationStatus = creationStatus := by
  simp [procDetailsVerdict, h]

/-! ## `ScannerpScanFileInUserMode` -/

/-- The outcomes of the kernel calls of one scan: the statuses of
`FltGetVolumeFromInstance`, `FltGetVolumeProperties` and `FltReadFile`, whether the
pool has given a buffer, and the block that is read. -/
structure ScanEnv where
  getVolume : NtStatus
  getProperties : NtStatus
  sectorSize : ℕ
  pool : Bool
  readFile : NtStatus
  block : List UInt8
  sectorSize_lt : sectorSize < 2 ^ 16
  block_le : block.length ≤ max scannerReadBufferSize sectorSize

theorem smallSector_lt : 512 < 2 ^ 16 := by decide

/-- What a scan returns, the message it has sent with what came back for it, and the
volume references and pool buffers that it has not released. -/
structure ScanResult where
  status : NtStatus
  safeToOpen : ℕ
  sent : Option (List UInt8 × SendResult)
  volumeRefs : ℕ
  poolBuffers : ℕ

def scanRequest (stack : Mem) (block : List UInt8) (safeToOpen : ℕ) : Mem :=
  let notification := TextbuffInfo.bytesToScan.set stack 0 block.length
  let notification :=
    TextbuffInfo.command.set notification 0 CommandCode.cmdSendTextBuff.value
  let notification := TextbuffInfo.allowed.set notification 0 safeToOpen
  TextbuffInfo.contents.copy notification 0 (block.take scannerReadBufferSize)

/-- The bytes that `ScannerpScanFileInUserMode` sends for a block, with
`*SafeToOpen` still at its initial `TRUE`. -/
def scanMessage (stack : Mem) (block : List UInt8) : List UInt8 :=
  read (scanRequest stack block 1) 0 TextbuffInfo.size

def scannerpScanFileInUserMode (env : ScanEnv) (stack : Mem)
    (send : List UInt8 → SendResult) : ScanResult :=
  if !ntSuccess env.getVolume then
    { status := env.getVolume, safeToOpen := 1, sent := none,
      volumeRefs := 0, poolBuffers := 0 }
  else if ntError env.getProperties then
    { status := env.getProperties, safeToOpen := 1, sent := none,
      volumeRefs := 1, poolBuffers := 0 }
  else if !env.pool then
    { status := statusInsufficientResources, safeToOpen := 1, sent := none,
      volumeRefs := 1, poolBuffers := 0 }
  else if ntSuccess env.readFile && env.block.length != 0 then
    let message := scanMessage stack env.block
    let r := send message
    let notification := write (scanRequest stack env.block 1) 0 r.reply
    { status := r.status
      safeToOpen := if r.status = statusSuccess then TextbuffInfo.allowed.get notification 0
        else 1
      sent := some (message, r), volumeRefs := 1, poolBuffers := 1 }
  else
    { status := env.readFile, safeToOpen := 1, sent := none,
      volumeRefs := 1, poolBuffers := 1 }

def ScanEnv.sends (env : ScanEnv) : Bool :=
  ntSuccess env.getVolume && !ntError env.getProperties && env.pool &&
    (ntSuccess env.readFile && env.block.length != 0)

theorem scan_of_sends {env : ScanEnv} (h : env.sends = true) (stack : Mem)
    (send : List UInt8 → SendResult) :
    let r := send (scanMessage stack env.block)
    let answer := write (scanRequest stack env.block 1) 0 r.reply
    scannerpScanFileInUserMode env stack send =
      ⟨r.status, if r.status = statusSuccess then TextbuffInfo.allowed.get answer 0 else 1,
        some (scanMessage stack env.block, r), 1, 1⟩ := by
  simp only [ScanEnv.sends, Bool.and_eq_true] at h
  obtain ⟨⟨⟨hvolume, hprops⟩, hpool⟩, hread⟩ := h
  simp_all [scannerpScanFileInUserMode]

theorem scan_of_not_sends {env : ScanEnv} (h : env.sends = false) (stack : Mem)
    (send : List UInt8 → SendResult) :
    (scannerpScanFileInUserMode env stack send).sent = none ∧
      (scannerpScanFileInUserMode env stack send).safeToOpen = 1 := by
  unfold scannerpScanFileInUserMode
  split
  · exact ⟨rfl, rfl⟩
  · split
    · exact ⟨rfl, rfl⟩
    · split
      · exact ⟨rfl, rfl⟩
      · split
        · simp_all [ScanEnv.sends]
        · exact ⟨rfl, rfl⟩

end NtDriver
