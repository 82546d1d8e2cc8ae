import NtDriver.Lib.Memory
import Mathlib.Algebra.Order.Ring.Nat

/-!
# C structure layout

Fields are placed in order, each at the next multiple of its alignment, and the
structure is padded to a multiple of its largest alignment.  Distinct fields
never share a byte, and this is all the access laws need.
-/

namespace NtDriver.Layout

open Memory

structure CType where
  size : ℕ
  align : ℕ
  align_pos : 0 < align
  align_dvd : align ∣ size

def scalar (n : ℕ) (h : 0 < n) : CType := ⟨n, n, h, dvd_rfl⟩

def array (t : CType) (n : ℕ) : CType :=
  ⟨t.size * n, t.align, t.align_pos, Dvd.dvd.mul_right t.align_dvd n⟩

def alignUp (n a : ℕ) : ℕ := (n + a - 1) / a * a

theorem le_alignUp (n : ℕ) {a : ℕ} (ha : 0 < a) : n ≤ alignUp n a := by
  have hdiv := Nat.div_add_mod (n + a - 1) a
  have hmod := Nat.mod_lt (n + a - 1) ha
  rw [Nat.mul_comm] at hdiv
  unfold alignUp
  omega

theorem dvd_alignUp (n a : ℕ) : a ∣ alignUp n a := Dvd.intro_left _ rfl

/-- Offset of field `i` when the fields `ts` are placed from `start` on; past
the last field it is the end of the fields. -/
def offsetFrom : ℕ → List CType → ℕ → ℕ
  | start, [], _ => start
  | start, t :: _, 0 => alignUp start t.align
  | start, t :: ts, i + 1 => offsetFrom (alignUp start t.align + t.size) ts i

def fieldSize (ts : List CType) (i : ℕ) : ℕ := (ts[i]?.map CType.size).getD 0

theorem le_offsetFrom (ts : List CType) (start i : ℕ) :
    start ≤ offsetFrom start ts i := by
  induction ts generalizing start i with
  | nil => simp [offsetFrom]
  | cons t ts ih =>
      have hstart := le_alignUp start t.align_pos
      cases i with
      | zero => exact hstart
      | succ i =>
          have htail := ih (alignUp start t.align + t.size) i
          simp only [offsetFrom]
          omega

/-- A field ends before every later field begins. -/
theorem offsetFrom_add_size_le (ts : List CType) (start : ℕ) {i j : ℕ}
    (hij : i < j) :
    offsetFrom start ts i + fieldSize ts i ≤ offsetFrom start ts j := by
  induction ts generalizing start i j with
  | nil => simp [offsetFrom, fieldSize]
  | cons t ts ih =>
      obtain ⟨j, rfl⟩ := Nat.exists_eq_succ_of_ne_zero (by omega : j ≠ 0)
      cases i with
      | zero => exact le_offsetFrom ts _ j
      | succ i => exact ih _ (by omega)

def maxAlign (ts : List CType) : ℕ := (ts.map CType.align).foldr max 1

theorem maxAlign_pos (ts : List CType) : 0 < maxAlign ts := by
  induction ts with
  | nil => decide
  | cons t ts ih => exact lt_max_of_lt_left t.align_pos

/-- `sizeof` of the structure with fields `ts`. -/
def sizeof (ts : List CType) : ℕ := alignUp (offsetFrom 0 ts ts.length) (maxAlign ts)

def struct (ts : List CType) : CType :=
  ⟨sizeof ts, maxAlign ts, maxAlign_pos ts, dvd_alignUp _ _⟩

/-! ## Fields -/

structure Field where
  off : ℕ
  size : ℕ
  deriving DecidableEq

def field (ts : List CType) (i : ℕ) : Field := ⟨offsetFrom 0 ts i, fieldSize ts i⟩

/-- Two fields that share no byte. -/
def Field.Apart (f g : Field) : Prop :=
  f.off + f.size ≤ g.off ∨ g.off + g.size ≤ f.off

instance (f g : Field) : Decidable (f.Apart g) :=
  inferInstanceAs (Decidable (_ ∨ _))

theorem field_apart (ts : List CType) {i j : ℕ} (h : i ≠ j) :
    (field ts i).Apart (field ts j) := by
  rcases Nat.lt_or_gt_of_ne h with hij | hji
  · exact Or.inl (offsetFrom_add_size_le ts 0 hij)
  · exact Or.inr (offsetFrom_add_size_le ts 0 hji)

theorem field_le_sizeof (ts : List CType) {i : ℕ} (h : i < ts.length) :
    (field ts i).off + (field ts i).size ≤ sizeof ts :=
  (offsetFrom_add_size_le ts 0 h).trans (le_alignUp _ (maxAlign_pos ts))

namespace Field

variable (f g : Field) (m : Mem) (base v : ℕ)

/-- The field of the structure at `base`, as a number. -/
def get : ℕ := getNat m (base + f.off) f.size

def set : Mem := setNat m (base + f.off) f.size v

def bytes : List UInt8 := read m (base + f.off) f.size

def copy (src : List UInt8) : Mem := write m (base + f.off) src

theorem get_set : f.get (f.set m base v) base = v % 256 ^ f.size :=
  getNat_setNat m _ _ v

theorem get_lt : f.get m base < 256 ^ f.size := getNat_lt m _ _

variable {f g m base v}

theorem bytes_set_beside {base' : ℕ}
    (h : base + f.off + f.size ≤ base' + g.off ∨ base' + g.off + g.size ≤ base + f.off) :
    f.bytes (g.set m base' v) base = f.bytes m base :=
  read_setNat_beside h

theorem get_set_beside {base' : ℕ}
    (h : base + f.off + f.size ≤ base' + g.off ∨ base' + g.off + g.size ≤ base + f.off) :
    f.get (g.set m base' v) base = f.get m base :=
  congrArg leNat (bytes_set_beside h)

variable (m base v)

theorem bytes_set (h : f.Apart g) : f.bytes (g.set m base v) base = f.bytes m base := by
  apply bytes_set_beside
  rcases h with h | h
  · exact Or.inl (by omega)
  · exact Or.inr (by omega)

theorem bytes_copy (h : f.Apart g) {src : List UInt8} (hsrc : src.length ≤ g.size) :
    f.bytes (g.copy m base src) base = f.bytes m base := by
  apply read_write_beside
  rcases h with h | h
  · exact Or.inl (by omega)
  · exact Or.inr (by omega)

theorem get_set_apart (h : f.Apart g) : f.get (g.set m base v) base = f.get m base :=
  congrArg leNat (bytes_set m base v h)

theorem get_copy_apart (h : f.Apart g) {src : List UInt8} (hsrc : src.length ≤ g.size) :
    f.get (g.copy m base src) base = f.get m base :=
  congrArg leNat (bytes_copy m base h hsrc)

theorem get_write_read {src : Mem} {base' size : ℕ} (h : f.off + f.size ≤ size) :
    f.get (write m base (read src base' size)) base = f.get src base' :=
  congrArg leNat (read_write_read m base f.size h)

/-! A field may be wider on one side than on the other. -/

end Field

end NtDriver.Layout
