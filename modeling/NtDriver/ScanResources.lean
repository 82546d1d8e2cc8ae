import NtDriver.Lib.Handles
import NtDriver.Lib.Transition
import NtDriver.Messages

/-!
# What a scan holds

`ScannerpScanFileInUserMode` acquires a volume reference and then a pool buffer in a
`try` block that can be left early.  The `finally` block behind it is empty.
-/

namespace NtDriver.ScanResources

open Handles Transition Memory

/-- The volume references and the pool buffers that the scans have acquired. -/
structure Held where
  volumes : Ledger
  buffers : Ledger

/-- The surroundings of one scan. -/
structure Call where
  env : ScanEnv
  stack : Mem
  send : List UInt8 → SendResult

/-- The variables of a scan, and the message it has sent with what came back for it. -/
structure Scan where
  status : NtStatus
  safeToOpen : ℕ
  volume : Option ℕ
  buffer : Option ℕ
  sent : Option (List UInt8 × SendResult)
  held : Held

inductive Leave where
  | leave

/-- A `try` block, which `leave` jumps out of. -/
abbrev TryBlock := EStateM Leave Scan

section Calls

variable (c : Call)

def fltGetVolumeFromInstance : TryBlock Unit := modify fun s ↦
  let acquired := s.held.volumes.create (ntSuccess c.env.getVolume)
  { s with
    status := c.env.getVolume
    volume := acquired.1
    held := { s.held with volumes := acquired.2 } }

def fltGetVolumeProperties : TryBlock Unit := modify fun s ↦
  { s with status := c.env.getProperties }

def fltAllocatePoolAlignedWithTag : TryBlock Unit := modify fun s ↦
  let acquired := s.held.buffers.create c.env.pool
  { s with buffer := acquired.1, held := { s.held with buffers := acquired.2 } }

def fltReadFile : TryBlock Unit := modify fun s ↦ { s with status := c.env.readFile }

/-- The message is filled in and sent, and the reply overwrites it. -/
def fltSendMessage : TryBlock Unit := modify fun s ↦
  let notification := scanRequest c.stack c.env.block s.safeToOpen
  let message := read notification 0 TextbuffInfo.size
  let r := c.send message
  let answer := write notification 0 r.reply
  { s with
    status := r.status
    safeToOpen :=
      if r.status = statusSuccess then TextbuffInfo.allowed.get answer 0 else s.safeToOpen
    sent := some (message, r) }

end Calls

def tryBlock (c : Call) : TryBlock Unit := do
  fltGetVolumeFromInstance c
  if !ntSuccess (← get).status then
    throw .leave
  fltGetVolumeProperties c
  if ntError (← get).status then
    throw .leave
  fltAllocatePoolAlignedWithTag c
  if (← get).buffer.isNone then
    modify fun s ↦ { s with status := statusInsufficientResources }
    throw .leave
  fltReadFile c
  if ntSuccess (← get).status && c.env.block.length != 0 then
    fltSendMessage c

/-- `finally { }`: nothing is released. -/
def finallyBlock (s : Scan) : Scan := s

def scannerpScanFileInUserMode (c : Call) (held : Held) : Scan :=
  match tryBlock c ⟨statusSuccess, 1, none, none, none, held⟩ with
  | .ok _ s => finallyBlock s
  | .error _ s => finallyBlock s

def after (held : Held) (c : Call) : Held := (scannerpScanFileInUserMode c held).held

/-! ## One scan -/

section TryBlock

variable {α : Type} (f : Scan → Scan) (k : Unit → TryBlock α) (s : Scan)

theorem modify_run : (modify f : TryBlock Unit) s = .ok () (f s) := rfl

theorem pure_run : (pure () : TryBlock Unit) s = .ok () s := rfl

theorem modify_bind : ((modify f : TryBlock Unit) >>= k) s = k () (f s) := rfl

theorem get_bind (k : Scan → TryBlock α) : ((get : TryBlock Scan) >>= k) s = k s s := rfl

theorem throw_bind : ((throw .leave : TryBlock Unit) >>= k) s = .error .leave s := rfl

theorem ite_run (b : Prop) [Decidable b] (x y : TryBlock α) :
    (if b then x else y) s = if b then x s else y s := by
  split_ifs <;> rfl

end TryBlock

/-- A scan does what the messages of the driver say of it, and what is counted there as
not released is held in addition. -/
structure Agrees (held : Held) (s : Scan) (r : ScanResult) : Prop where
  status : s.status = r.status
  safeToOpen : s.safeToOpen = r.safeToOpen
  sent : s.sent = r.sent
  volumes : s.held.volumes.openCount = held.volumes.openCount + r.volumeRefs
  buffers : s.held.buffers.openCount = held.buffers.openCount + r.poolBuffers

/-- By the exits of the `try` block, in the order of the calls. -/
theorem agrees_scan (held : Held) (c : Call) :
    Agrees held (scannerpScanFileInUserMode c held)
      (NtDriver.scannerpScanFileInUserMode c.env c.stack c.send) := by
  unfold scannerpScanFileInUserMode NtDriver.scannerpScanFileInUserMode scanMessage tryBlock
  simp only [fltGetVolumeFromInstance, fltGetVolumeProperties, fltAllocatePoolAlignedWithTag,
    fltReadFile, fltSendMessage, finallyBlock, modify_bind, get_bind, throw_bind, modify_run,
    pure_run, ite_run]
  cases hvolume : ntSuccess c.env.getVolume with
  | false => constructor <;> simp
  | true =>
      cases hproperties : ntError c.env.getProperties with
      | true => constructor <;> simp [Ledger.openCount_create]
      | false =>
          cases hpool : c.env.pool with
          | false => constructor <;> simp [Ledger.openCount_create]
          | true =>
              by_cases hread : ntSuccess c.env.readFile = true ∧ c.env.block ≠ []
              · constructor <;> simp [Ledger.openCount_create, hread]
              · constructor <;> simp [Ledger.openCount_create, hread]

/-- As many references and buffers are held when the scan returns as before it. -/
structure Balanced (held : Held) (c : Call) : Prop where
  volumes : (after held c).volumes.openCount = held.volumes.openCount
  buffers : (after held c).buffers.openCount = held.buffers.openCount

def Call.acquires (c : Call) : Bool := ntSuccess c.env.getVolume

def Call.allocates (c : Call) : Bool :=
  c.acquires && !ntError c.env.getProperties && c.env.pool

theorem unreleased_scan (c : Call) :
    let r := NtDriver.scannerpScanFileInUserMode c.env c.stack c.send
    r.volumeRefs = c.acquires.toNat ∧ r.poolBuffers = c.allocates.toNat := by
  unfold NtDriver.scannerpScanFileInUserMode Call.allocates Call.acquires
  cases hvolume : ntSuccess c.env.getVolume with
  | false => simp
  | true =>
      cases hproperties : ntError c.env.getProperties with
      | true => simp
      | false =>
          cases hpool : c.env.pool with
          | false => simp
          | true =>
              by_cases hread : ntSuccess c.env.readFile = true ∧ c.env.block ≠ [] <;> simp [hread]

theorem volumes_after (held : Held) (c : Call) :
    (after held c).volumes.openCount = held.volumes.openCount + c.acquires.toNat := by
  rw [← (unreleased_scan c).1]
  exact (agrees_scan held c).volumes

theorem buffers_after (held : Held) (c : Call) :
    (after held c).buffers.openCount = held.buffers.openCount + c.allocates.toNat := by
  rw [← (unreleased_scan c).2]
  exact (agrees_scan held c).buffers

/-- A scan keeps the balance exactly when it has acquired nothing. -/
theorem balanced_iff (held : Held) (c : Call) :
    Balanced held c ↔ ntSuccess c.env.getVolume = false := by
  constructor
  · intro h
    have hvolumes := h.volumes
    rw [volumes_after] at hvolumes
    cases hacquires : c.acquires with
    | false => exact hacquires
    | true => simp [hacquires] at hvolumes
  · intro h
    have hacquires : c.acquires = false := h
    have hallocates : c.allocates = false := by simp [Call.allocates, hacquires]
    refine ⟨?_, ?_⟩
    · simp [volumes_after, hacquires]
    · simp [buffers_after, hallocates]

/-! ## Any number of scans -/

/-- Everything that any scan has ever acquired is still held after the last one. -/
theorem held_foldl (held : Held) (calls : List Call) :
    (calls.foldl after held).volumes.openCount =
        held.volumes.openCount + calls.countP Call.acquires ∧
      (calls.foldl after held).buffers.openCount =
        held.buffers.openCount + calls.countP Call.allocates := by
  induction calls generalizing held with
  | nil => simp
  | cons c calls ih =>
      obtain ⟨hvolumes, hbuffers⟩ := ih (after held c)
      rw [List.foldl_cons, hvolumes, hbuffers, volumes_after, buffers_after]
      cases hacquires : c.acquires <;> cases hallocates : c.allocates <;>
        simp [hacquires, hallocates] <;> omega

/-- Every scan of a sequence leaves the counts as it found them exactly when none of
them gets as far as a volume reference. -/
theorem each_balanced_iff (held : Held) (calls : List Call) :
    Each after Balanced held calls ↔ ∀ c ∈ calls, ntSuccess c.env.getVolume = false := by
  rw [← each_forall_iff held]
  exact each_iff_each balanced_iff held calls

theorem oneByte_le : [(0x61 : UInt8)].length ≤ max scannerReadBufferSize 512 := by decide

/-- Every kernel call of the scan succeeds, and the client finds the file safe. -/
def allSucceed : Call where
  env := {
    getVolume := statusSuccess
    getProperties := statusSuccess
    sectorSize := 512
    pool := true
    readFile := statusSuccess
    block := [0x61]
    sectorSize_lt := smallSector_lt
    block_le := oneByte_le }
  stack := fun _ ↦ 0
  send := fun message ↦ ⟨statusSuccess, message⟩

theorem not_each_balanced_allSucceed :
    ¬ ∀ held calls, Each after Balanced held calls := by
  intro hall
  have hbalanced : Balanced ⟨Ledger.empty, Ledger.empty⟩ allSucceed := (hall _ [allSucceed]).1
  have hvolume := (balanced_iff _ _).mp hbalanced
  exact Bool.false_ne_true (hvolume.symm.trans ntSuccess_statusSuccess)

end NtDriver.ScanResources
