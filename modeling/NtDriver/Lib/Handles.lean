import Mathlib.Data.List.Nodup

/-!
# A ledger of handles

Handles are numbered in the order of their creation, and every close is logged.
A handle that is closed twice appears twice in the log, so "closed exactly once"
is a statement about counts.
-/

namespace NtDriver.Handles

structure Ledger where
  created : ℕ
  closed : List ℕ
  closed_lt : ∀ h ∈ closed, h < created

namespace Ledger

def empty : Ledger := ⟨0, [], by simp⟩

/-- The next handle is created if `ok`. -/
def create (ok : Bool) (l : Ledger) : Option ℕ × Ledger :=
  if ok then
    (some l.created, ⟨l.created + 1, l.closed, fun h hh ↦ Nat.lt_succ_of_lt (l.closed_lt h hh)⟩)
  else (none, l)

/-- Closing `NULL`, or what is no handle, has no effect. -/
def close (h : Option ℕ) (l : Ledger) : Ledger :=
  match h with
  | none => l
  | some h =>
      if hlt : h < l.created then
        ⟨l.created, l.closed ++ [h], by
          intro k hk
          rcases List.mem_append.mp hk with hk | hk
          · exact l.closed_lt k hk
          · exact (List.mem_singleton.mp hk) ▸ hlt⟩
      else l

def Open (l : Ledger) (h : ℕ) : Prop := h < l.created ∧ h ∉ l.closed

instance (l : Ledger) (h : ℕ) : Decidable (l.Open h) := inferInstanceAs (Decidable (_ ∧ _))

/-- Every handle created so far has been closed exactly once. -/
def Settled (l : Ledger) : Prop := ∀ h < l.created, l.closed.count h = 1

/-- How many handles are open. -/
def openCount (l : Ledger) : ℕ := (List.range l.created).countP fun h ↦ h ∉ l.closed

theorem Settled.not_open {l : Ledger} (hl : l.Settled) (h : ℕ) : ¬ l.Open h := by
  rintro ⟨hlt, hmem⟩
  have hone := hl h hlt
  rw [List.count_eq_zero_of_not_mem hmem] at hone
  exact absurd hone (by decide)

theorem settled_of_not_open {l : Ledger} (hnodup : l.closed.Nodup) (h : ∀ k, ¬ l.Open k) :
    l.Settled := by
  intro k hk
  apply List.count_eq_one_of_mem hnodup
  by_contra hmem
  exact h k ⟨hk, hmem⟩

section Create

variable (l : Ledger)

@[simp] theorem create_false : l.create false = (none, l) := rfl

@[simp] theorem create_true_fst : (l.create true).1 = some l.created := rfl

@[simp] theorem closed_create (ok : Bool) : (l.create ok).2.closed = l.closed := by
  cases ok <;> rfl

theorem created_le_create (ok : Bool) : l.created ≤ (l.create ok).2.created := by
  cases ok with
  | false => exact Nat.le_refl _
  | true => exact Nat.le_succ _

theorem open_create_iff (ok : Bool) (h : ℕ) :
    (l.create ok).2.Open h ↔ l.Open h ∨ (l.create ok).1 = some h := by
  cases ok with
  | false => simp
  | true =>
      have hfresh : l.created ∉ l.closed := fun hmem ↦ Nat.lt_irrefl _ (l.closed_lt _ hmem)
      have hcreated : (l.create true).2.created = l.created + 1 := rfl
      rw [Open, closed_create, hcreated, create_true_fst, Option.some.injEq, Open]
      constructor
      · rintro ⟨hlt, hmem⟩
        rcases Nat.lt_succ_iff_lt_or_eq.mp hlt with hlt | rfl
        · exact Or.inl ⟨hlt, hmem⟩
        · exact Or.inr rfl
      · rintro (⟨hlt, hmem⟩ | rfl)
        · exact ⟨Nat.lt_succ_of_lt hlt, hmem⟩
        · exact ⟨Nat.lt_succ_self _, hfresh⟩

variable {l} in
theorem Open.create {h : ℕ} (hopen : l.Open h) (ok : Bool) : (l.create ok).2.Open h :=
  (open_create_iff l ok h).mpr (Or.inl hopen)

variable {l} in
/-- A new handle is none that is open. -/
theorem Open.create_ne {h : ℕ} (hopen : l.Open h) (ok : Bool) : (l.create ok).1 ≠ some h := by
  cases ok with
  | false => exact (Option.some_ne_none h).symm
  | true =>
      intro hcreated
      obtain rfl := Option.some.inj hcreated
      exact Nat.lt_irrefl _ hopen.1

theorem openCount_create (ok : Bool) :
    (l.create ok).2.openCount = l.openCount + ok.toNat := by
  cases ok with
  | false => rfl
  | true =>
      have hfresh : l.created ∉ l.closed := fun hmem ↦ Nat.lt_irrefl _ (l.closed_lt _ hmem)
      have hcreated : (l.create true).2.created = l.created + 1 := rfl
      rw [openCount, hcreated, closed_create, List.range_succ, List.countP_append, openCount]
      simp [hfresh]

theorem not_open_created : ¬ l.Open l.created := fun h ↦ Nat.lt_irrefl _ h.1

end Create

section Close

variable {l : Ledger} {h k : ℕ}

@[simp] theorem close_none : l.close none = l := rfl

theorem closed_close (hopen : l.Open h) : (l.close (some h)).closed = l.closed ++ [h] := by
  simp [close, hopen.1]

@[simp] theorem created_close (h : Option ℕ) : (l.close h).created = l.created := by
  unfold close
  split
  · rfl
  · split <;> rfl

theorem open_close_iff {o : Option ℕ} (hopen : ∀ h, o = some h → l.Open h) :
    (l.close o).Open k ↔ l.Open k ∧ o ≠ some k := by
  cases o with
  | none => simp
  | some h =>
      rw [Open, created_close, closed_close (hopen h rfl), List.mem_append, List.mem_singleton,
        not_or, Open, and_assoc, ne_eq, Option.some.injEq, eq_comm (a := k)]

theorem Open.of_close {o : Option ℕ} (hopen : (l.close o).Open k) : l.Open k := by
  unfold close at hopen
  split at hopen
  · exact hopen
  · split at hopen
    · exact ⟨hopen.1, fun hmem ↦ hopen.2 (List.mem_append_left _ hmem)⟩
    · exact hopen

theorem not_open_close_self (l : Ledger) (h : ℕ) : ¬ (l.close (some h)).Open h := by
  intro hopen
  have hlt : h < l.created := hopen.of_close.1
  exact hopen.2 (by simp [close, hlt])

theorem nodup_close {o : Option ℕ} (hopen : ∀ h, o = some h → l.Open h)
    (hnodup : l.closed.Nodup) : (l.close o).closed.Nodup := by
  cases o with
  | none => exact hnodup
  | some h =>
      rw [closed_close (hopen h rfl)]
      exact hnodup.append (List.nodup_singleton h) (List.disjoint_singleton.mpr (hopen h rfl).2)

/-- A handle that is closed right after its creation leaves nothing behind. -/
theorem Settled.create_close (hl : l.Settled) :
    ((l.create true).2.close (some l.created)).Settled := by
  have hopen : (l.create true).2.Open l.created := (open_create_iff l true _).mpr (Or.inr rfl)
  have hcreated : (l.create true).2.created = l.created + 1 := rfl
  intro k hk
  rw [created_close, hcreated] at hk
  rw [closed_close hopen, closed_create, List.count_append]
  rcases Nat.lt_succ_iff_lt_or_eq.mp hk with hlt | rfl
  · rw [hl k hlt, List.count_singleton, beq_eq_false_iff_ne.mpr (Nat.ne_of_lt hlt).symm]
    simp
  · have hfresh : l.created ∉ l.closed := fun hmem ↦ Nat.lt_irrefl _ (l.closed_lt _ hmem)
    rw [List.count_eq_zero_of_not_mem hfresh, List.count_singleton_self]

theorem settled_empty : empty.Settled := fun k hk ↦ absurd hk (Nat.not_lt_zero k)

end Close

end Ledger

end NtDriver.Handles
