import Mathlib.Data.List.DropRight
import NtDriver.Lib.Memory

/-!
# NUL-terminated strings and substring search

A C string is read byte by byte up to the first NUL, and the read faults when
the readable memory ends first.  Searching a word is insensitive to any byte
that the word does not contain: such a byte splits the text in two.
-/

namespace NtDriver.CString

open Memory

/-- The characters from position `i` up to the first NUL, or `none` when the
`avail` readable ones hold no NUL. -/
def cString {α : Type*} [OfNat α 0] [DecidableEq α] (get : ℕ → α) : ℕ → ℕ → Option (List α)
  | _, 0 => none
  | i, avail + 1 => if get i = 0 then some [] else (cString get (i + 1) avail).map (get i :: ·)

/-- Two strings are equal when the characters are, up to a NUL of the first. -/
theorem cString_congr {α : Type*} [OfNat α 0] [DecidableEq α] {get get' : ℕ → α}
    {i avail avail' k : ℕ} (hzero : get (i + k) = 0) (havail : k < avail) (havail' : k < avail')
    (h : ∀ j ≤ k, get (i + j) = get' (i + j)) : cString get i avail = cString get' i avail' := by
  induction k generalizing i avail avail' with
  | zero =>
      obtain ⟨n, rfl⟩ := Nat.exists_eq_succ_of_ne_zero (by omega : avail ≠ 0)
      obtain ⟨n', rfl⟩ := Nat.exists_eq_succ_of_ne_zero (by omega : avail' ≠ 0)
      have hhead : get i = get' i := h 0 le_rfl
      have hstop : get i = 0 := hzero
      simp [cString, ← hhead, hstop]
  | succ k ih =>
      obtain ⟨n, rfl⟩ := Nat.exists_eq_succ_of_ne_zero (by omega : avail ≠ 0)
      obtain ⟨n', rfl⟩ := Nat.exists_eq_succ_of_ne_zero (by omega : avail' ≠ 0)
      have hhead : get i = get' i := h 0 (Nat.zero_le _)
      have hrest : cString get (i + 1) n = cString get' (i + 1) n' := by
        apply ih
        · rw [← hzero, Nat.add_right_comm, Nat.add_assoc]
        · omega
        · omega
        · intro j hj
          have hj' := h (j + 1) (by omega)
          rwa [← Nat.add_assoc, Nat.add_right_comm] at hj'
      simp only [cString, ← hhead, hrest]

theorem cString_isSome {α : Type*} [OfNat α 0] [DecidableEq α] {get : ℕ → α} {i avail k : ℕ}
    (hzero : get (i + k) = 0) (havail : k < avail) : (cString get i avail).isSome = true := by
  induction avail generalizing i k with
  | zero => exact absurd havail (Nat.not_lt_zero k)
  | succ avail ih =>
      by_cases hhead : get i = 0
      · simp [cString, hhead]
      · cases k with
        | zero => exact absurd hzero hhead
        | succ k =>
            have hnext : get (i + 1 + k) = 0 := by
              rw [← hzero, Nat.add_right_comm, Nat.add_assoc]
            simpa [cString, hhead] using ih hnext (Nat.lt_of_succ_lt_succ havail)

/-- A string is what stands from position `i` on, has no NUL and ends with one. -/
theorem cString_eq_some_iff {α : Type*} [OfNat α 0] [DecidableEq α] {get : ℕ → α} {i avail : ℕ}
    {s : List α} : cString get i avail = some s ↔
      s.length < avail ∧ 0 ∉ s ∧ get (i + s.length) = 0 ∧
        ∀ j, (hj : j < s.length) → get (i + j) = s[j] := by
  induction avail generalizing i s with
  | zero => simp [cString]
  | succ avail ih =>
      by_cases hzero : get i = 0
      · rw [cString, if_pos hzero, Option.some.injEq]
        constructor
        · rintro rfl
          exact ⟨Nat.succ_pos _, List.not_mem_nil, hzero, fun j hj ↦ absurd hj (Nat.not_lt_zero j)⟩
        · rintro ⟨_, hmem, _, hget⟩
          cases s with
          | nil => exact rfl
          | cons x t =>
              have hx : x = 0 := (hget 0 (Nat.succ_pos _)).symm.trans hzero
              exact absurd (hx ▸ List.mem_cons_self) hmem
      · cases s with
        | nil => simp [cString, hzero]
        | cons x t =>
            have hcons : cString get i (avail + 1) = some (x :: t) ↔
                get i = x ∧ cString get (i + 1) avail = some t := by
              simp [cString, hzero, and_comm]
            have hshift : ∀ j, i + 1 + j = i + (j + 1) := fun j ↦ by omega
            rw [hcons, ih, hshift, List.mem_cons, not_or]
            constructor
            · rintro ⟨hx, hlen, hmem, hstop, hget⟩
              refine ⟨Nat.succ_lt_succ hlen, ⟨fun h ↦ hzero (hx.trans h.symm), hmem⟩, hstop, ?_⟩
              intro j hj
              cases j with
              | zero => exact hx
              | succ j => exact hshift j ▸ hget j (Nat.lt_of_succ_lt_succ hj)
            · rintro ⟨hlen, ⟨_, hmem⟩, hstop, hget⟩
              refine ⟨hget 0 (Nat.succ_pos _), Nat.lt_of_succ_lt_succ hlen, hmem, hstop, ?_⟩
              intro j hj
              rw [hshift]
              exact hget (j + 1) (Nat.succ_lt_succ hj)

theorem read_succ (m : Mem) (off len : ℕ) :
    read m off (len + 1) = m off :: read m (off + 1) len := by
  rw [Nat.add_comm len 1, read_add]
  rfl

theorem cString_eq (m : Mem) (off avail : ℕ) :
    cString m off avail =
      if 0 ∈ read m off avail then some ((read m off avail).takeWhile (· ≠ 0))
      else none := by
  induction avail generalizing off with
  | zero => simp [cString]
  | succ avail ih =>
      rw [cString, ih, read_succ]
      by_cases h0 : m off = 0
      · simp [h0]
      · by_cases hmem : 0 ∈ read m (off + 1) avail <;>
          simp [h0, hmem, Ne.symm h0]

section TakeWhile

variable {α : Type*} [OfNat α 0] [DecidableEq α] {l : List α}

theorem takeWhile_append_of_notMem (h : 0 ∉ l) (r : List α) :
    (l ++ r).takeWhile (· ≠ 0) = l ++ r.takeWhile (· ≠ 0) := by
  apply List.takeWhile_append_of_pos
  intro x hx
  simpa using ne_of_mem_of_not_mem hx h

theorem takeWhile_append_of_mem (h : 0 ∈ l) (r : List α) :
    (l ++ r).takeWhile (· ≠ 0) = l.takeWhile (· ≠ 0) := by
  induction l with
  | nil => simp at h
  | cons x l ih =>
      by_cases hx : x = 0
      · simp [hx]
      · have htail : 0 ∈ l := by simpa [Ne.symm hx] using h
        simp only [List.cons_append, List.takeWhile_cons, ih htail]

theorem takeWhile_of_notMem (h : 0 ∉ l) : l.takeWhile (· ≠ 0) = l := by
  have happend := takeWhile_append_of_notMem h []
  rwa [List.append_nil, List.takeWhile_nil, List.append_nil] at happend

end TakeWhile

/-- `std::string::resize`. -/
def resize (s : List UInt8) (n : ℕ) : List UInt8 :=
  s.take n ++ List.replicate (n - s.length) 0

section Search

variable {α : Type*}

/-- `std::string::find`: the position of the first occurrence of `w`. -/
def find [BEq α] (w : List α) : List α → Option ℕ
  | [] => if w.isPrefixOf [] then some 0 else none
  | x :: s => if w.isPrefixOf (x :: s) then some 0 else (find w s).map (· + 1)

theorem find_isSome_iff [BEq α] [LawfulBEq α] (w s : List α) :
    (find w s).isSome = true ↔ w <:+: s := by
  induction s with
  | nil =>
      simp only [find]
      split <;> simp_all
  | cons x s ih =>
      rw [List.infix_cons_iff, ← ih, ← List.isPrefixOf_iff_prefix, find]
      split <;> simp_all

theorem prefix_takeWhile_iff {p : α → Bool} {w l : List α} (hw : ∀ x ∈ w, p x) :
    w <+: l.takeWhile p ↔ w <+: l := by
  constructor
  · intro h
    exact h.trans (List.takeWhile_prefix p)
  · rintro ⟨r, rfl⟩
    rw [List.takeWhile_append_of_pos hw]
    exact List.prefix_append w _

theorem suffix_rtakeWhile_iff {p : α → Bool} {w l : List α} (hw : ∀ x ∈ w, p x) :
    w <:+ l.rtakeWhile p ↔ w <:+ l := by
  have hreverse : ∀ x ∈ w.reverse, p x := fun x hx ↦ hw x (List.mem_reverse.mp hx)
  rw [List.rtakeWhile, ← List.reverse_prefix, List.reverse_reverse, prefix_takeWhile_iff hreverse,
    List.reverse_prefix]

/-- `wcsstr` over what can be read of a text: the position of the first occurrence of `w`
ahead of the first NUL, and `none` when the search runs off. -/
def search [OfNat α 0] [DecidableEq α] (w : List α) : List α → Option (Option ℕ)
  | [] => none
  | x :: l =>
      if x = 0 then some none
      else if w.isPrefixOf (x :: l) then some (some 0)
      else (search w l).map (Option.map (· + 1))

section WithNul

variable [OfNat α 0] [DecidableEq α] {w l : List α} {x : α}

theorem isSome_search_cons (hx : x ≠ 0) :
    (search w (x :: l)).map Option.isSome =
      if w.isPrefixOf (x :: l) then some true else (search w l).map Option.isSome := by
  rw [search, if_neg hx]
  split
  · rfl
  · simp [Function.comp_def]

theorem infix_takeWhile_cons_iff (h0 : 0 ∉ w) (hx : x ≠ 0) :
    w <:+: (x :: l).takeWhile (· ≠ 0) ↔ w <+: x :: l ∨ w <:+: l.takeWhile (· ≠ 0) := by
  have hword : ∀ y ∈ w, decide (y ≠ 0) = true := fun y hy ↦ by
    simpa using ne_of_mem_of_not_mem hy h0
  have hcons : (x :: l).takeWhile (· ≠ 0) = x :: l.takeWhile (· ≠ 0) := by simp [hx]
  have hstart : w <+: (x :: l).takeWhile (· ≠ 0) ↔ w <+: x :: l := prefix_takeWhile_iff hword
  rw [hcons, List.infix_cons_iff, ← hcons, hstart]

/-- A word without a NUL is found when it occurs ahead of the first NUL of the text. -/
theorem search_found_iff (h0 : 0 ∉ w) (hw : w ≠ []) :
    (search w l).map Option.isSome = some true ↔ w <:+: l.takeWhile (· ≠ 0) := by
  induction l with
  | nil => simp [search, hw]
  | cons x l ih =>
      by_cases hx : x = 0
      · simp [search, hx, hw]
      · rw [isSome_search_cons hx, infix_takeWhile_cons_iff h0 hx, ← ih,
          ← List.isPrefixOf_iff_prefix]
        split <;> simp_all

/-- It is missed when a NUL ends the search first. -/
theorem search_missed_iff (h0 : 0 ∉ w) (hw : w ≠ []) :
    (search w l).map Option.isSome = some false ↔
      0 ∈ l ∧ ¬ w <:+: l.takeWhile (· ≠ 0) := by
  induction l with
  | nil => simp [search]
  | cons x l ih =>
      by_cases hx : x = 0
      · simp [search, hx, hw]
      · rw [isSome_search_cons hx, infix_takeWhile_cons_iff h0 hx,
          ← List.isPrefixOf_iff_prefix, List.mem_cons, or_iff_right (Ne.symm hx), not_or]
        split <;> simp_all

end WithNul

/-- A byte outside the word splits the text. -/
theorem infix_append_cons_iff {w l r : List α} {x : α} (hx : x ∉ w) :
    w <:+: l ++ x :: r ↔ w <:+: l ∨ w <:+: r := by
  constructor
  · intro h
    rcases List.infix_append_iff_ne_nil.mp h with h | h | ⟨l₁, l₂, _, hl₂, rfl, _, hpre⟩
    · exact Or.inl h
    · rcases List.infix_cons_iff.mp h with hpre | hr
      · cases w with
        | nil => exact Or.inl List.nil_infix
        | cons y w =>
            obtain ⟨rfl, _⟩ := List.cons_prefix_cons.mp hpre
            exact absurd List.mem_cons_self hx
      · exact Or.inr hr
    · cases l₂ with
      | nil => exact absurd rfl hl₂
      | cons y l₂ =>
          obtain ⟨rfl, _⟩ := List.cons_prefix_cons.mp hpre
          exact absurd (by simp) hx
  · rintro (h | h)
    · exact List.infix_append_of_infix_left h
    · exact List.infix_append_of_infix_right (List.infix_cons h)

theorem infix_append_replicate_iff {w l : List α} {x : α} (hx : x ∉ w)
    (hw : w ≠ []) (k : ℕ) : w <:+: l ++ List.replicate k x ↔ w <:+: l := by
  cases k with
  | zero => simp
  | succ k =>
      rw [List.replicate_succ, infix_append_cons_iff hx, or_iff_left]
      intro h
      obtain ⟨y, hy⟩ := List.exists_mem_of_ne_nil w hw
      have hyx : y = x := List.eq_of_mem_replicate (h.subset hy)
      exact hx (hyx ▸ hy)

end Search

/-- Resizing a string never hides or creates an occurrence within its first
`n` bytes, as the padding is NUL. -/
theorem infix_resize_iff {w : List UInt8} (h0 : 0 ∉ w) (hw : w ≠ [])
    (s : List UInt8) (n : ℕ) : w <:+: resize s n ↔ w <:+: s.take n :=
  infix_append_replicate_iff h0 hw _

end NtDriver.CString
