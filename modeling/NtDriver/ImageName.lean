import NtDriver.CommThread

/-!
# The image name on its way to the dialog

`GetAndLogProcDetails` copies at most 512 units of the name, and no terminator.
The thread reads from the start of the array up to the first NUL, so whatever
stood behind the copied units is read along with them.
-/

namespace NtDriver.ImageName

open Memory Layout CString CommThread

/-- A name of whole units, none of them NUL. -/
structure Name extends UnicodeString where
  even : 2 ∣ length
  unit_ne : ∀ i < length / 2, getNat buffer (2 * i) 2 ≠ 0

namespace Name

variable (name : Name)

def unit (i : ℕ) : ℕ := getNat name.buffer (2 * i) 2

def count : ℕ := name.length / 2

def units : List ℕ := (List.range name.count).map name.unit

/-- Number of units that are copied. -/
def copied : ℕ := imageNameLength name.toUnicodeString / 2

@[simp] theorem length_units : name.units.length = name.count := by simp [units]

@[simp] theorem getElem_units {i : ℕ} (h : i < name.units.length) :
    name.units[i] = name.unit i := by
  simp [units]

theorem two_mul_count : 2 * name.count = name.length := Nat.mul_div_cancel' name.even

theorem unit_ne_zero {i : ℕ} (h : i < name.count) : name.unit i ≠ 0 := name.unit_ne i h

theorem zero_notMem_units : 0 ∉ name.units := by
  intro hmem
  obtain ⟨i, hi, hzero⟩ := List.mem_map.mp hmem
  exact name.unit_ne_zero (List.mem_range.mp hi) hzero

/-- The cut is made at a whole unit, inside the name and inside the array. -/
theorem two_mul_copied : 2 * name.copied = imageNameLength name.toUnicodeString ∧
    imageNameLength name.toUnicodeString ≤ name.length ∧
      imageNameLength name.toUnicodeString ≤ 1024 := by
  have heven := name.even
  rw [copied, imageNameLength, maxbuff]
  split_ifs <;> omega

theorem copied_le_count : name.copied ≤ name.count := by
  have hcopied := name.two_mul_copied
  have hcount := name.two_mul_count
  omega

end Name

/-- A message about a creation, from the driver's stack to the thread's buffer. -/
structure Trip where
  driver : Arch
  dll : Arch
  stack : Mem
  processId : ℕ
  name : Name
  buffer : MessageBuffer
  replyLength : ℕ
  messageId : ℕ

namespace Trip

variable (t : Trip)

def received : MessageBuffer :=
  t.buffer.deliver t.replyLength t.messageId
    (procDetailsMessage t.driver t.stack t.processId t.name.toUnicodeString)

/-- `processInformation` ahead of the copy of the name. -/
def unnamed : Mem :=
  (ProcInfo.processId t.driver).set
    ((ProcInfo.command t.driver).set t.stack 0 CommandCode.cmdGiveProcname.value) 0 t.processId

/-- What the buffer would hold had no unit been copied. -/
def leftover : MessageBuffer :=
  t.buffer.deliver t.replyLength t.messageId (read t.unnamed 0 (ProcInfo.size t.driver))

end Trip

/-- A unit of `ImageFileName`, or of what stands behind it. -/
def wchar (buffer : MessageBuffer) (i : ℕ) : ℕ := getNat buffer.bytes (20 + 2 * i) 2

/-- The text of the dialog ahead of the cut to `MAXBUFF`. -/
def dialogText (a : Arch) (buffer : MessageBuffer) (name : List ℕ) : List ℕ :=
  let processId := (ProcInfo.processId a).get buffer.bytes CommandRequest.payload
  wide "Kill proc with id:" ++ wide (toString (BitVec.ofNat 32 processId).toInt) ++
    wide " and path:" ++ name ++ wide " ?"

namespace Trip

/-- The copy stays inside the name and the array, the string that is read is the name as
far as the array has room, and the dialog shows all of it that fits. -/
structure Survives (t : Trip) : Prop where
  insideName : imageNameLength t.name.toUnicodeString ≤ t.name.length
  insideField : imageNameLength t.name.toUnicodeString ≤ (ProcInfo.imageFileName t.driver).size
  read : ∃ s, imageFileName t.dll t.received = some s ∧ s <+: t.name.units ∧
    (t.name.count + 1 ≤ maxbuff → s = t.name.units)
  shown : ∀ s, imageFileName t.dll t.received = some s →
    (dialogText t.dll t.received s).length ≤ maxbuff →
      s <:+: messageBoxText t.dll t.received s

/-- What stands behind the copied units goes on with the name, to its end if the array
has room for it, and is followed by a NUL. -/
def Continued (t : Trip) : Prop :=
  ∃ k ≤ t.name.count, t.name.copied ≤ k ∧ (t.name.count < maxbuff → k = t.name.count) ∧
    (∀ i, t.name.copied ≤ i → i < k → wchar t.leftover i = t.name.unit i) ∧
      wchar t.leftover k = 0

/-! ## The units that arrive -/

variable (t : Trip) {i : ℕ}

theorem procDetailsRequest_eq :
    procDetailsRequest t.driver t.stack t.processId t.name.toUnicodeString =
      write t.unnamed 4 (read t.name.buffer 0 (imageNameLength t.name.toUnicodeString)) := by
  rw [procDetailsRequest, Field.copy, ProcInfo.imageFileName_eq]
  rfl

theorem wchar_received_of_lt (h : i < t.name.copied) : wchar t.received i = t.name.unit i := by
  have hcopied := t.name.two_mul_copied
  have hsize := ProcInfo.size_eq t.driver
  have hpayload : read t.received.bytes (16 + (4 + 2 * i)) 2 =
      read (procDetailsRequest t.driver t.stack t.processId t.name.toUnicodeString)
        (0 + (4 + 2 * i)) 2 := by
    apply read_write_read
    omega
  have hname : read (procDetailsRequest t.driver t.stack t.processId t.name.toUnicodeString)
      (4 + 2 * i) 2 = read t.name.buffer (0 + 2 * i) 2 := by
    rw [procDetailsRequest_eq]
    apply read_write_read
    omega
  rw [← Nat.add_assoc, Nat.zero_add, hname, Nat.zero_add] at hpayload
  exact congrArg leNat hpayload

theorem wchar_received_of_ge (h : t.name.copied ≤ i) :
    wchar t.received i = wchar t.leftover i := by
  have hcopied := t.name.two_mul_copied
  apply congrArg leNat
  apply read_congr
  intro j hj
  apply write_read_congr
  intro k _ hk
  have hpayload : CommandRequest.payload = 16 := CommandRequest.payload_eq
  rw [procDetailsRequest_eq]
  apply write_of_ge
  rw [length_read]
  omega

/-- Inside the array the leftover is what the stack held. -/
theorem wchar_leftover (h : i < maxbuff) :
    wchar t.leftover i = getNat t.stack (4 + 2 * i) 2 := by
  rw [maxbuff] at h
  have hsize := ProcInfo.size_eq t.driver
  have hpayload : read t.leftover.bytes (16 + (4 + 2 * i)) 2 =
      read t.unnamed (0 + (4 + 2 * i)) 2 := by
    apply read_write_read
    omega
  have hunnamed : read t.unnamed (4 + 2 * i) 2 = read t.stack (4 + 2 * i) 2 := by
    rw [unnamed, Field.set, ProcInfo.processId_eq,
      read_setNat_beside (Or.inl (by dsimp only; omega)), Field.set, ProcInfo.command_eq,
      read_setNat_beside (Or.inr (by dsimp only; omega))]
  rw [← Nat.add_assoc, Nat.zero_add, hunnamed] at hpayload
  exact congrArg leNat hpayload

/-! ## The string that is read -/

variable {t}

theorem imageFileName_eq_some_iff {s : List ℕ} (h : s.length ≤ t.name.count) :
    imageFileName t.dll t.received = some s ↔
      0 ∉ s ∧ wchar t.received s.length = 0 ∧
        ∀ j, (hj : j < s.length) → wchar t.received j = s[j] := by
  have hstart : CommandRequest.payload + (ProcInfo.imageFileName t.dll).off = 20 := by
    rw [ProcInfo.imageFileName_eq]
    rfl
  have hreadable := t.received.size_le
  have hcount := t.name.two_mul_count
  have hlength := t.name.length_lt
  rw [messageBufferSize] at hreadable
  have hlen : s.length < (t.received.readable - 20) / 2 := by omega
  simp only [imageFileName, hstart, cString_eq_some_iff, Nat.zero_add, hlen, true_and]
  rfl

/-- A string that is read covers the copied units and agrees with the leftover there. -/
theorem continued_of_read {s : List ℕ} (h : imageFileName t.dll t.received = some s)
    (hpre : s <+: t.name.units) (hwhole : t.name.count + 1 ≤ maxbuff → s = t.name.units) :
    t.Continued := by
  have hlen : s.length ≤ t.name.count := by simpa using hpre.length_le
  obtain ⟨_, hstop, hget⟩ := (imageFileName_eq_some_iff hlen).mp h
  have hcopied : t.name.copied ≤ s.length := by
    by_contra hlt
    have hcut := Nat.not_le.mp hlt
    rw [t.wchar_received_of_lt hcut] at hstop
    exact t.name.unit_ne_zero (hcut.trans_le t.name.copied_le_count) hstop
  refine ⟨s.length, hlen, hcopied, fun hroom ↦ ?_, fun i hi hlt ↦ ?_, ?_⟩
  · rw [hwhole hroom, Name.length_units]
  · rw [← t.wchar_received_of_ge hi, hget i hlt, hpre.getElem hlt, Name.getElem_units]
  · rw [← t.wchar_received_of_ge hcopied, hstop]

theorem read_of_continued (h : t.Continued) :
    ∃ s, imageFileName t.dll t.received = some s ∧ s <+: t.name.units ∧
      (t.name.count + 1 ≤ maxbuff → s = t.name.units) := by
  obtain ⟨k, hk, hcopied, hwhole, hcontinues, hstop⟩ := h
  have hlen : (t.name.units.take k).length = k := by simpa using hk
  refine ⟨t.name.units.take k, ?_, List.take_prefix _ _, fun hroom ↦ ?_⟩
  · rw [imageFileName_eq_some_iff (hlen.trans_le hk)]
    refine ⟨fun hmem ↦ t.name.zero_notMem_units (List.mem_of_mem_take hmem), ?_, ?_⟩
    · rw [hlen, t.wchar_received_of_ge hcopied, hstop]
    · intro j hj
      rw [List.getElem_take, Name.getElem_units]
      by_cases hcut : j < t.name.copied
      · exact t.wchar_received_of_lt hcut
      · rw [t.wchar_received_of_ge (Nat.not_lt.mp hcut)]
        exact hcontinues j (Nat.not_lt.mp hcut) (hlen ▸ hj)
  · rw [hwhole hroom, ← Name.length_units, List.take_length]

/-- A name that fits is shown whole: the cut takes at most the end of the question. -/
theorem infix_messageBoxText (a : Arch) (buffer : MessageBuffer) (name : List ℕ)
    (h : (dialogText a buffer name).length ≤ maxbuff) :
    name <:+: messageBoxText a buffer name := by
  have hend : (wide " ?").length = 2 := rfl
  have htext : messageBoxText a buffer name =
      (dialogText a buffer name).take (maxbuff - 1) := rfl
  rw [dialogText, List.length_append, hend] at h
  rw [htext, dialogText, List.take_append, List.take_of_length_le (by omega)]
  exact ⟨_, _, rfl⟩

/-- The name survives exactly when the leftover behind the copied units happens to
continue and to end it. -/
theorem survives_iff_continued (t : Trip) : t.Survives ↔ t.Continued := by
  constructor
  · intro h
    obtain ⟨s, hread, hpre, hwhole⟩ := h.read
    exact continued_of_read hread hpre hwhole
  · intro h
    obtain ⟨_, hname, hfield⟩ := t.name.two_mul_copied
    refine ⟨hname, ?_, read_of_continued h, fun s _ ↦ infix_messageBoxText _ _ s⟩
    rw [ProcInfo.imageFileName_eq]
    exact hfield.trans (by decide)

/-- Where the array has room for the name and a terminator, the stack alone decides. -/
theorem continued_iff_of_room (h : t.name.count < maxbuff) :
    t.Continued ↔
      (∀ i, t.name.copied ≤ i → i < t.name.count →
        getNat t.stack (4 + 2 * i) 2 = t.name.unit i) ∧
      getNat t.stack (4 + 2 * t.name.count) 2 = 0 := by
  constructor
  · rintro ⟨k, _, _, hwhole, hcontinues, hstop⟩
    obtain rfl := hwhole h
    refine ⟨fun i hi hlt ↦ ?_, ?_⟩
    · rw [← t.wchar_leftover (hlt.trans h), hcontinues i hi hlt]
    · rw [← t.wchar_leftover h, hstop]
  · rintro ⟨hcontinues, hstop⟩
    refine ⟨t.name.count, le_rfl, t.name.copied_le_count, fun _ ↦ rfl, fun i hi hlt ↦ ?_, ?_⟩
    · rw [t.wchar_leftover (hlt.trans h), hcontinues i hi hlt]
    · rw [t.wchar_leftover h, hstop]

/-- The name `a`, built over a stack of ones. -/
theorem unit_a_ne : ∀ i < 2 / 2, getNat (fun j ↦ if j = 0 then 97 else 0) (2 * i) 2 ≠ 0 := by
  intro i hi
  obtain rfl : i = 0 := by omega
  decide

theorem two_lt_unicode : 2 < 2 ^ 16 := by decide

def overOnes : Trip where
  driver := .x64
  dll := .x64
  stack _ := 1
  processId := 0
  name := ⟨⟨2, fun j ↦ if j = 0 then 97 else 0, two_lt_unicode⟩, dvd_refl 2, unit_a_ne⟩
  buffer := ⟨fun _ ↦ 0, messageBufferSize, le_rfl⟩
  replyLength := 0
  messageId := 0

theorem not_survives_overOnes : ¬ ∀ t : Trip, t.Survives := by
  intro hall
  have hroom : overOnes.name.count < maxbuff := by decide
  have hstop := ((continued_iff_of_room hroom).mp
    ((survives_iff_continued overOnes).mp (hall overOnes))).2
  exact absurd hstop (by decide)

end Trip

end NtDriver.ImageName
