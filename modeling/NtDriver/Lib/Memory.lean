import Mathlib.Data.List.Basic
import Mathlib.Algebra.Group.Nat.Even
import Mathlib.Tactic.Ring

/-!
# Byte memory

A memory is the byte at each offset from some base address.  Writing a list of
bytes changes exactly the offsets it covers, so every field access below is an
instance of three facts: a read inside a write, a read beside a write, and the
little-endian round trip.
-/

namespace NtDriver.Memory

abbrev Mem := ℕ → UInt8

/-- The `len` bytes from offset `off` on. -/
def read (m : Mem) (off len : ℕ) : List UInt8 :=
  (List.range len).map fun i ↦ m (off + i)

/-- Copy `src` over the bytes from offset `off` on. -/
def write (m : Mem) (off : ℕ) (src : List UInt8) : Mem :=
  fun i ↦ if off ≤ i then (src[i - off]?).getD (m i) else m i

section ReadWrite

variable (m : Mem) (off len : ℕ) (src : List UInt8)

@[simp] theorem length_read : (read m off len).length = len := by
  simp [read]

@[simp] theorem read_zero : read m off 0 = [] := rfl

@[simp] theorem getElem_read {i : ℕ} (h : i < (read m off len).length) :
    (read m off len)[i] = m (off + i) := by
  simp [read]

theorem write_of_lt {i : ℕ} (h : i < off) : write m off src i = m i := by
  simp [write, Nat.not_le.mpr h]

theorem write_of_ge {i : ℕ} (h : off + src.length ≤ i) :
    write m off src i = m i := by
  have hlen : src.length ≤ i - off := by omega
  simp [write, List.getElem?_eq_none hlen]

theorem write_add {k : ℕ} (h : k < src.length) :
    write m off src (off + k) = src[k] := by
  simp [write, List.getElem?_eq_getElem h]

theorem write_congr {m' : Mem} {i : ℕ} (h : m i = m' i) :
    write m off src i = write m' off src i := by
  simp [write, h]

variable {m off len} in
theorem read_congr {m' : Mem} {off' : ℕ}
    (h : ∀ i < len, m (off + i) = m' (off' + i)) :
    read m off len = read m' off' len := by
  apply List.ext_getElem (by simp)
  intro i hi _
  simpa using h i (by simpa using hi)

theorem read_add (a b : ℕ) :
    read m off (a + b) = read m off a ++ read m (off + a) b := by
  simp [read, List.range_add, Nat.add_assoc]

theorem take_read (k : ℕ) (h : k ≤ len) :
    (read m off len).take k = read m off k := by
  obtain ⟨d, rfl⟩ := Nat.exists_eq_add_of_le h
  rw [read_add, List.take_left' (by simp)]

theorem drop_read (k : ℕ) :
    (read m off len).drop k = read m (off + k) (len - k) := by
  apply List.ext_getElem (by simp)
  intro i hi _
  simp [Nat.add_assoc]

theorem read_write_self : read (write m off src) off src.length = src := by
  apply List.ext_getElem (by simp)
  intro i _ hi
  rw [getElem_read, write_add m off src hi]

theorem read_write_inside {k : ℕ} (h : k + len ≤ src.length) :
    read (write m off src) (off + k) len = (src.drop k).take len := by
  apply List.ext_getElem
  · simp
    omega
  · intro i hi _
    have hlen : i < len := by simpa using hi
    rw [getElem_read, Nat.add_assoc, write_add m off src (by omega)]
    simp

theorem read_write_read {src : Mem} {o size k : ℕ} (h : k + len ≤ size) :
    read (write m off (read src o size)) (off + k) len = read src (o + k) len := by
  rw [read_write_inside m off len _ (by simpa using h), drop_read, take_read _ _ _ _ (by omega)]

/-- What is copied matters only where it arrives. -/
theorem write_read_congr {r r' : Mem} {o size i : ℕ}
    (h : ∀ k < size, off + k = i → r (o + k) = r' (o + k)) :
    write m off (read r o size) i = write m off (read r' o size) i := by
  by_cases hoff : off ≤ i
  · obtain ⟨k, rfl⟩ := Nat.exists_eq_add_of_le hoff
    by_cases hk : k < size
    · rw [write_add m off _ (by simpa using hk), write_add m off _ (by simpa using hk),
        getElem_read, getElem_read, h k hk rfl]
    · have hge : off + size ≤ off + k := by omega
      rw [write_of_ge m off _ (by simpa using hge), write_of_ge m off _ (by simpa using hge)]
  · rw [write_of_lt m off _ (Nat.not_le.mp hoff), write_of_lt m off _ (Nat.not_le.mp hoff)]

theorem read_write_beside {o : ℕ}
    (h : o + len ≤ off ∨ off + src.length ≤ o) :
    read (write m off src) o len = read m o len := by
  apply read_congr
  intro i hi
  rcases h with h | h
  · exact write_of_lt m off src (by omega)
  · exact write_of_ge m off src (by omega)

theorem read_write_start (h : src.length ≤ len) :
    read (write m off src) off len =
      src ++ read m (off + src.length) (len - src.length) := by
  obtain ⟨d, rfl⟩ := Nat.exists_eq_add_of_le h
  rw [read_add, read_write_self, read_write_beside m _ _ _ (Or.inr le_rfl),
    Nat.add_sub_cancel_left]

end ReadWrite

/-! ## Little-endian numbers -/

/-- The `w` little-endian bytes of `n`. -/
def leBytes : ℕ → ℕ → List UInt8
  | 0, _ => []
  | w + 1, n => UInt8.ofNat n :: leBytes w (n / 256)

/-- The number with the given little-endian bytes. -/
def leNat : List UInt8 → ℕ
  | [] => 0
  | b :: bs => b.toNat + 256 * leNat bs

@[simp] theorem length_leBytes (w n : ℕ) : (leBytes w n).length = w := by
  induction w generalizing n with
  | zero => rfl
  | succ w ih => simp [leBytes, ih]

theorem leNat_lt (bs : List UInt8) : leNat bs < 256 ^ bs.length := by
  induction bs with
  | nil => simp [leNat]
  | cons b bs ih =>
      have hb := b.toNat_lt
      rw [leNat, List.length_cons, pow_succ']
      omega

theorem leNat_leBytes (w n : ℕ) : leNat (leBytes w n) = n % 256 ^ w := by
  induction w generalizing n with
  | zero => simp [leBytes, leNat, Nat.mod_one]
  | succ w ih =>
      have hbyte : (UInt8.ofNat n).toNat = n % 256 := by simp
      rw [leBytes, leNat, ih, hbyte, pow_succ', Nat.mod_mul]

/-! ## Numbers in memory -/

def getNat (m : Mem) (off size : ℕ) : ℕ := leNat (read m off size)

def setNat (m : Mem) (off size v : ℕ) : Mem := write m off (leBytes size v)

theorem getNat_lt (m : Mem) (off size : ℕ) : getNat m off size < 256 ^ size := by
  simpa [getNat] using leNat_lt (read m off size)

theorem read_setNat_self (m : Mem) (off size v : ℕ) :
    read (setNat m off size v) off size = leBytes size v := by
  have h := read_write_self m off (leBytes size v)
  rwa [length_leBytes] at h

theorem getNat_setNat (m : Mem) (off size v : ℕ) :
    getNat (setNat m off size v) off size = v % 256 ^ size := by
  rw [getNat, read_setNat_self, leNat_leBytes]

theorem read_setNat_beside {m : Mem} {off size v o len : ℕ}
    (h : o + len ≤ off ∨ off + size ≤ o) :
    read (setNat m off size v) o len = read m o len :=
  read_write_beside m off len _ (by simpa using h)

end NtDriver.Memory
