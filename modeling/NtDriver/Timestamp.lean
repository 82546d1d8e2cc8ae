import NtDriver.Lib.Transition
import Mathlib.Algebra.Order.Ring.Nat
import Mathlib.Logic.Function.Basic

/-!
# The timestamp of the log

`DrvGetShortHexTimestamp` fills a static table in its first call, without a lock.
Callers that come at the same time fill it together; each still gets the stamp of the
time that it has read, and stamps compare as the times of the day do.  The accesses of
a caller are taken in the order of the program.
-/

namespace NtDriver.Timestamp

open Transition

/-- What `RtlTimeToTimeFields` gives of a time of the day. -/
structure TimeFields where
  hour : ℕ
  minute : ℕ
  second : ℕ
  milliseconds : ℕ
  hour_lt : hour < 24
  minute_lt : minute < 60
  second_lt : second < 60
  milliseconds_lt : milliseconds < 1000

def hexEntry (i : ℕ) : BitVec 32 := BitVec.ofNat 32 (i / 10) <<< 4 ||| BitVec.ofNat 32 (i % 10)

def stamp (hour minute second hundredth : BitVec 32) : BitVec 32 :=
  hour <<< 24 ||| minute <<< 16 ||| second <<< 8 ||| hundredth

/-- The next access of a caller to the table, with the entries that it has read. -/
inductive Pc where
  | idle
  | testInited
  | fill (i : ℕ)
  | setInited
  | queryTime
  | readHour (time : TimeFields)
  | readMinute (time : TimeFields) (hour : BitVec 32)
  | readSecond (time : TimeFields) (hour minute : BitVec 32)
  | readHundredth (time : TimeFields) (hour minute second : BitVec 32)
  | returned (time : TimeFields) (stamp : BitVec 32)

structure State where
  hexTableInited : Bool
  hexTable : ℕ → BitVec 32
  caller : ℕ → Pc

def initialState : State := ⟨false, fun _ ↦ 0, fun _ ↦ .idle⟩

def State.at (s : State) (i : ℕ) (pc : Pc) : State :=
  { s with caller := Function.update s.caller i pc }

/-- One access of `DrvGetShortHexTimestamp`; `time` is what the clock says. -/
def stepAt (s : State) (i : ℕ) (time : TimeFields) : Option State :=
  match s.caller i with
  | .idle | .returned _ _ => none
  | .testInited => some (s.at i (if s.hexTableInited then .queryTime else .fill 0))
  | .fill k =>
      if k < 100 then
        some ({ s with hexTable := Function.update s.hexTable k (hexEntry k) }.at i
          (.fill (k + 1)))
      else some (s.at i .setInited)
  | .setInited => some ({ s with hexTableInited := true }.at i .queryTime)
  | .queryTime => some (s.at i (.readHour time))
  | .readHour t => some (s.at i (.readMinute t (s.hexTable t.hour)))
  | .readMinute t hour => some (s.at i (.readSecond t hour (s.hexTable t.minute)))
  | .readSecond t hour minute =>
      some (s.at i (.readHundredth t hour minute (s.hexTable t.second)))
  | .readHundredth t hour minute second =>
      some (s.at i (.returned t
        (stamp hour minute second (s.hexTable (t.milliseconds / 10)))))

inductive Action where
  | call
  | step (time : TimeFields)

def next (s : State) : ℕ × Action → Option State
  | (i, .call) =>
      match s.caller i with
      | .idle | .returned _ _ => some (s.at i .testInited)
      | _ => none
  | (i, .step time) => stepAt s i time

def stamps : System State (ℕ × Action) := .ofNext (· = initialState) next

/-! ## What a stamp says -/

def byte (v : BitVec 32) (k : ℕ) : ℕ := v.toNat / 256 ^ k % 256

/-- The number whose two decimal digits a byte shows in hexadecimal. -/
def shown (b : ℕ) : ℕ := b / 16 * 10 + b % 16

structure Shows (v : BitVec 32) (t : TimeFields) : Prop where
  hour : shown (byte v 3) = t.hour
  minute : shown (byte v 2) = t.minute
  second : shown (byte v 1) = t.second
  hundredth : shown (byte v 0) = t.milliseconds / 10

/-- The hundredths of a second since midnight. -/
def TimeFields.hundredths (t : TimeFields) : ℕ :=
  ((t.hour * 60 + t.minute) * 60 + t.second) * 100 + t.milliseconds / 10

def TimeFields.stamp (t : TimeFields) : BitVec 32 :=
  Timestamp.stamp (hexEntry t.hour) (hexEntry t.minute) (hexEntry t.second)
    (hexEntry (t.milliseconds / 10))

section Values

variable (t u : TimeFields)

def hex (i : ℕ) : ℕ := 16 * (i / 10) + i % 10

theorem toNat_hexEntry {i : ℕ} (h : i < 100) : (hexEntry i).toNat = hex i := by
  revert i
  decide

theorem hex_lt {i : ℕ} (h : i < 100) : hex i < 256 := by
  unfold hex
  omega

theorem shown_hex (i : ℕ) : shown (hex i) = i := by
  unfold shown hex
  omega

theorem toNat_shift_or {v w : BitVec 32} {k : ℕ} (hv : v.toNat * 2 ^ k < 2 ^ 32)
    (hw : w.toNat < 2 ^ k) : (v <<< k ||| w).toNat = v.toNat * 2 ^ k + w.toNat := by
  rw [BitVec.toNat_or, BitVec.toNat_shiftLeft, Nat.shiftLeft_eq, Nat.mod_eq_of_lt hv,
    ← Nat.shiftLeft_eq, ← Nat.shiftLeft_add_eq_or_of_lt hw]

theorem TimeFields.hundredth_lt : t.milliseconds / 10 < 100 :=
  Nat.div_lt_of_lt_mul t.milliseconds_lt

theorem hex_fields_lt : hex t.hour < 36 ∧ hex t.minute < 256 ∧ hex t.second < 256 ∧
    hex (t.milliseconds / 10) < 256 := by
  have hhour : hex t.hour < 36 := by
    have hlt := t.hour_lt
    unfold hex
    omega
  exact ⟨hhour, hex_lt (t.minute_lt.trans (by decide)), hex_lt (t.second_lt.trans (by decide)),
    hex_lt t.hundredth_lt⟩

theorem toNat_stamp : t.stamp.toNat =
    ((hex t.hour * 256 + hex t.minute) * 256 + hex t.second) * 256 +
      hex (t.milliseconds / 10) := by
  have hhour := toNat_hexEntry (t.hour_lt.trans (by decide))
  have hminute := toNat_hexEntry (t.minute_lt.trans (by decide))
  have hsecond := toNat_hexEntry (t.second_lt.trans (by decide))
  have hhundredth := toNat_hexEntry t.hundredth_lt
  obtain ⟨hhour_lt, hminute_lt, hsecond_lt, hhundredth_lt⟩ := hex_fields_lt t
  have hlow := @toNat_shift_or (hexEntry t.second) (hexEntry (t.milliseconds / 10)) 8
    (by omega) (by omega)
  have hmiddle := @toNat_shift_or (hexEntry t.minute)
    (hexEntry t.second <<< 8 ||| hexEntry (t.milliseconds / 10)) 16 (by omega) (by omega)
  rw [TimeFields.stamp, Timestamp.stamp, BitVec.or_assoc, BitVec.or_assoc,
    toNat_shift_or (by omega) (by omega)]
  omega

theorem shows_stamp : Shows t.stamp t := by
  obtain ⟨hhour, hminute, hsecond, hhundredth⟩ := hex_fields_lt t
  have hbyte3 : byte t.stamp 3 = hex t.hour := by
    rw [byte, toNat_stamp]
    omega
  have hbyte2 : byte t.stamp 2 = hex t.minute := by
    rw [byte, toNat_stamp]
    omega
  have hbyte1 : byte t.stamp 1 = hex t.second := by
    rw [byte, toNat_stamp]
    omega
  have hbyte0 : byte t.stamp 0 = hex (t.milliseconds / 10) := by
    rw [byte, toNat_stamp]
    omega
  exact ⟨by rw [hbyte3, shown_hex], by rw [hbyte2, shown_hex], by rw [hbyte1, shown_hex],
    by rw [hbyte0, shown_hex]⟩

/-- Digit by digit, the two numbers of the second pair compare as those of the first. -/
def Compare (x y x' y' : ℕ) : Prop := (x ≤ y ↔ x' ≤ y') ∧ (y ≤ x ↔ y' ≤ x')

theorem compare_hex (i j : ℕ) : Compare (hex i) (hex j) i j := by
  unfold Compare hex
  omega

/-- Both numbers get one more digit. -/
theorem Compare.digit {x y x' y' d e d' e' b b' : ℕ} (h : Compare x y x' y')
    (hd : Compare d e d' e') (hdb : d < b) (heb : e < b) (hdb' : d' < b') (heb' : e' < b') :
    Compare (x * b + d) (y * b + e) (x' * b' + d') (y' * b' + e') := by
  obtain ⟨hle, hge⟩ := h
  obtain ⟨hdle, hdge⟩ := hd
  rcases Nat.lt_trichotomy x y with hlt | rfl | hgt
  · have hlt' : x' < y' := Nat.lt_of_not_le fun hle' ↦ Nat.not_le.mpr hlt (hge.mpr hle')
    have hb : (x + 1) * b ≤ y * b := Nat.mul_le_mul_right b hlt
    have hb' : (x' + 1) * b' ≤ y' * b' := Nat.mul_le_mul_right b' hlt'
    rw [Nat.succ_mul] at hb hb'
    exact ⟨by omega, by omega⟩
  · obtain rfl : x' = y' := Nat.le_antisymm (hle.mp Nat.le.refl) (hge.mp Nat.le.refl)
    exact ⟨by omega, by omega⟩
  · have hgt' : y' < x' := Nat.lt_of_not_le fun hle' ↦ Nat.not_le.mpr hgt (hle.mpr hle')
    have hb : (y + 1) * b ≤ x * b := Nat.mul_le_mul_right b hgt
    have hb' : (y' + 1) * b' ≤ x' * b' := Nat.mul_le_mul_right b' hgt'
    rw [Nat.succ_mul] at hb hb'
    exact ⟨by omega, by omega⟩

theorem toInt_stamp : t.stamp.toInt = t.stamp.toNat := by
  apply BitVec.toInt_eq_toNat_of_lt
  obtain ⟨hhour, hminute, hsecond, hhundredth⟩ := hex_fields_lt t
  rw [toNat_stamp]
  omega

/-- As `__int32` values, stamps compare as their times do. -/
theorem stamp_le_stamp_iff : t.stamp.toInt ≤ u.stamp.toInt ↔ t.hundredths ≤ u.hundredths := by
  have hhour := compare_hex t.hour u.hour
  obtain ⟨_, hm, hs, hh⟩ := hex_fields_lt t
  obtain ⟨_, hm', hs', hh'⟩ := hex_fields_lt u
  have hminute := hhour.digit (compare_hex t.minute u.minute) hm hm' t.minute_lt u.minute_lt
  have hsecond := hminute.digit (compare_hex t.second u.second) hs hs' t.second_lt u.second_lt
  have hhundredth := hsecond.digit (compare_hex (t.milliseconds / 10) (u.milliseconds / 10))
    hh hh' t.hundredth_lt u.hundredth_lt
  rw [toInt_stamp, toInt_stamp, Int.ofNat_le, toNat_stamp, toNat_stamp]
  exact hhundredth.1

end Values

/-! ## Any number of callers -/

def Filled (table : ℕ → BitVec 32) : Prop := ∀ k < 100, table k = hexEntry k

/-- What a caller relies on at its next access. -/
def Knows (table : ℕ → BitVec 32) : Pc → Prop
  | .idle | .testInited => True
  | .fill i => i ≤ 100 ∧ ∀ k < i, table k = hexEntry k
  | .setInited | .queryTime | .readHour _ => Filled table
  | .readMinute t hour => Filled table ∧ hour = hexEntry t.hour
  | .readSecond t hour minute =>
      Filled table ∧ hour = hexEntry t.hour ∧ minute = hexEntry t.minute
  | .readHundredth t hour minute second => Filled table ∧ hour = hexEntry t.hour ∧
      minute = hexEntry t.minute ∧ second = hexEntry t.second
  | .returned t v => v = t.stamp

structure Inv (s : State) : Prop where
  inited : s.hexTableInited = true → Filled s.hexTable
  caller : ∀ i, Knows s.hexTable (s.caller i)

theorem Knows.mono {table table' : ℕ → BitVec 32} {pc : Pc} (h : Knows table pc)
    (htable : ∀ k, table k = hexEntry k → table' k = hexEntry k) : Knows table' pc := by
  have hfilled : Filled table → Filled table' := fun hf k hk ↦ htable k (hf k hk)
  cases pc with
  | idle | testInited => trivial
  | fill i => exact ⟨h.1, fun k hk ↦ htable k (h.2 k hk)⟩
  | setInited | queryTime | readHour t => exact hfilled h
  | readMinute t hour | readSecond t hour minute | readHundredth t hour minute second =>
      exact ⟨hfilled h.1, h.2⟩
  | returned t v => exact h

theorem Inv.at {s : State} (h : Inv s) {i : ℕ} {pc : Pc} (hpc : Knows s.hexTable pc) :
    Inv (s.at i pc) where
  inited := h.inited
  caller j := by
    by_cases hj : j = i
    · subst hj
      simpa [State.at] using hpc
    · simpa [State.at, hj] using h.caller j

/-- Whoever writes an entry writes the right value, over the right value or the initial one. -/
theorem Inv.fill {s : State} (h : Inv s) (k : ℕ) :
    Inv { s with hexTable := Function.update s.hexTable k (hexEntry k) } := by
  have htable : ∀ j, s.hexTable j = hexEntry j →
      Function.update s.hexTable k (hexEntry k) j = hexEntry j := by
    intro j hj
    by_cases hk : j = k
    · subst hk
      simp
    · simpa [hk] using hj
  exact ⟨fun hinited j hj ↦ htable j (h.inited hinited j hj), fun i ↦ (h.caller i).mono htable⟩

theorem inv_stepAt {s s' : State} {i : ℕ} {time : TimeFields} (h : Inv s)
    (hstep : stepAt s i time = some s') : Inv s' := by
  have hknows := h.caller i
  cases hpc : s.caller i with
  | idle => simp [stepAt, hpc] at hstep
  | returned t v => simp [stepAt, hpc] at hstep
  | testInited =>
      simp only [stepAt, hpc, Option.some.injEq] at hstep
      subst hstep
      apply h.at
      cases hinited : s.hexTableInited with
      | true => exact h.inited hinited
      | false => exact ⟨Nat.zero_le _, fun k hk ↦ absurd hk (Nat.not_lt_zero k)⟩
  | fill k =>
      rw [hpc] at hknows
      obtain ⟨_, hbelow⟩ := hknows
      simp only [stepAt, hpc] at hstep
      split_ifs at hstep with hk
      · obtain rfl := Option.some.inj hstep
        refine (h.fill k).at ⟨hk, fun j hj ↦ ?_⟩
        rcases Nat.lt_succ_iff_lt_or_eq.mp hj with hlt | rfl
        · simpa [Nat.ne_of_lt hlt] using hbelow j hlt
        · simp
      · obtain rfl := Option.some.inj hstep
        exact h.at fun j hj ↦ hbelow j (hj.trans_le (Nat.le_of_not_lt hk))
  | setInited =>
      rw [hpc] at hknows
      simp only [stepAt, hpc, Option.some.injEq] at hstep
      subst hstep
      have hset : Inv { s with hexTableInited := true } := ⟨fun _ ↦ hknows, h.caller⟩
      exact hset.at hknows
  | queryTime =>
      rw [hpc] at hknows
      simp only [stepAt, hpc, Option.some.injEq] at hstep
      subst hstep
      exact h.at hknows
  | readHour t =>
      rw [hpc] at hknows
      simp only [stepAt, hpc, Option.some.injEq] at hstep
      subst hstep
      exact h.at ⟨hknows, hknows _ (t.hour_lt.trans (by decide))⟩
  | readMinute t hour =>
      rw [hpc] at hknows
      obtain ⟨hfilled, hhour⟩ := hknows
      simp only [stepAt, hpc, Option.some.injEq] at hstep
      subst hstep
      exact h.at ⟨hfilled, hhour, hfilled _ (t.minute_lt.trans (by decide))⟩
  | readSecond t hour minute =>
      rw [hpc] at hknows
      obtain ⟨hfilled, hhour, hminute⟩ := hknows
      simp only [stepAt, hpc, Option.some.injEq] at hstep
      subst hstep
      exact h.at ⟨hfilled, hhour, hminute, hfilled _ (t.second_lt.trans (by decide))⟩
  | readHundredth t hour minute second =>
      rw [hpc] at hknows
      obtain ⟨hfilled, rfl, rfl, rfl⟩ := hknows
      simp only [stepAt, hpc, Option.some.injEq] at hstep
      subst hstep
      apply h.at
      rw [hfilled _ t.hundredth_lt]
      rfl

theorem inv_next {s s' : State} {e : ℕ × Action} (h : Inv s) (hstep : next s e = some s') :
    Inv s' := by
  obtain ⟨i, act⟩ := e
  cases act with
  | step time => exact inv_stepAt h hstep
  | call =>
      cases hpc : s.caller i with
      | idle | returned t v =>
          simp only [next, hpc, Option.some.injEq] at hstep
          subst hstep
          exact h.at trivial
      | _ => simp [next, hpc] at hstep

theorem inv_of_reachable {s : State} (h : stamps.Reachable s) : Inv s := by
  apply h.invariant (I := Inv)
  · rintro s rfl
    exact ⟨nofun, fun _ ↦ trivial⟩
  · exact fun s e t hs hstep ↦ inv_next hs hstep

/-- However many callers fill the table at the same time, each call returns a stamp that
shows the time which it has read, and any two stamps compare as their times. -/
theorem stamps_of_reachable (s : State) (h : stamps.Reachable s) :
    (∀ i t v, s.caller i = .returned t v → Shows v t) ∧
      ∀ i j t u v w, s.caller i = .returned t v → s.caller j = .returned u w →
        (v.toInt ≤ w.toInt ↔ t.hundredths ≤ u.hundredths) := by
  have hstamp : ∀ i t v, s.caller i = .returned t v → v = t.stamp := by
    intro i t v hpc
    have hknows := (inv_of_reachable h).caller i
    rwa [hpc] at hknows
  constructor
  · intro i t v hpc
    rw [hstamp i t v hpc]
    exact shows_stamp t
  · intro i j t u v w hi hj
    rw [hstamp i t v hi, hstamp j u w hj]
    exact stamp_le_stamp_iff t u

theorem noon_hour : 12 < 24 := by decide

theorem noon_zero : 0 < 60 := by decide

theorem noon_milliseconds : 0 < 1000 := by decide

def noon : TimeFields where
  hour := 12
  minute := 0
  second := 0
  milliseconds := 0
  hour_lt := noon_hour
  minute_lt := noon_zero
  second_lt := noon_zero
  milliseconds_lt := noon_milliseconds

theorem reachable_next {s t : State} (h : stamps.Reachable s) (e : ℕ × Action)
    (hnext : next s e = some t) : stamps.Reachable t :=
  h.step hnext

/-- A step of caller `0` while caller `1` has just begun to fill the table. -/
theorem reachable_step {s s' : State} (pc : Pc) (h : stamps.Reachable s)
    (hother : s.caller 1 = .fill 0) (hstep : stepAt s 0 noon = some (s'.at 0 pc))
    (hsame : s'.caller = s.caller) :
    ∃ t, stamps.Reachable t ∧ t.caller 0 = pc ∧ t.caller 1 = .fill 0 :=
  ⟨s'.at 0 pc, reachable_next h (0, .step noon) hstep, by simp [State.at],
    by simp [State.at, hsame, hother]⟩

theorem reachable_fill (k : ℕ) (hk : k ≤ 100) :
    ∃ s, stamps.Reachable s ∧ s.caller 0 = .fill k ∧ s.caller 1 = .fill 0 := by
  induction k with
  | zero =>
      have h₀ : stamps.Reachable initialState := .init rfl
      have h₁ := reachable_next h₀ (0, .call) rfl
      have h₂ := reachable_next h₁ (1, .call) rfl
      have h₃ := reachable_next h₂ (1, .step noon) rfl
      exact ⟨_, reachable_next h₃ (0, .step noon) rfl, rfl, rfl⟩
  | succ k ih =>
      obtain ⟨s, h, hpc, hother⟩ := ih (Nat.le_of_succ_le hk)
      have hfill : stepAt s 0 noon = some ({ s with
          hexTable := Function.update s.hexTable k (hexEntry k) }.at 0 (.fill (k + 1))) := by
        simp only [stepAt, hpc, if_pos (Nat.lt_of_succ_le hk)]
      exact reachable_step (.fill (k + 1)) h hother hfill rfl

/-- A call that returns while another one is still filling the table. -/
theorem stamps_noon : ∃ s v, stamps.Reachable s ∧ s.caller 0 = .returned noon v ∧
    s.caller 1 = .fill 0 ∧ Shows v noon := by
  obtain ⟨s₀, h₀, hpc₀, hother₀⟩ := reachable_fill 100 Nat.le.refl
  obtain ⟨s₁, h₁, hpc₁, hother₁⟩ := reachable_step .setInited h₀ hother₀
    (by simp only [stepAt, hpc₀]; rfl) rfl
  have hset : stepAt s₁ 0 noon = some ({ s₁ with hexTableInited := true }.at 0 .queryTime) := by
    simp only [stepAt, hpc₁]
  obtain ⟨s₂, h₂, hpc₂, hother₂⟩ := reachable_step .queryTime h₁ hother₁ hset rfl
  obtain ⟨s₃, h₃, hpc₃, hother₃⟩ := reachable_step (.readHour noon) h₂ hother₂
    (by simp only [stepAt, hpc₂]) rfl
  obtain ⟨s₄, h₄, hpc₄, hother₄⟩ := reachable_step _ h₃ hother₃
    (by simp only [stepAt, hpc₃]; rfl) rfl
  obtain ⟨s₅, h₅, hpc₅, hother₅⟩ := reachable_step _ h₄ hother₄
    (by simp only [stepAt, hpc₄]; rfl) rfl
  obtain ⟨s₆, h₆, hpc₆, hother₆⟩ := reachable_step _ h₅ hother₅
    (by simp only [stepAt, hpc₅]; rfl) rfl
  obtain ⟨s₇, h₇, hpc₇, hother₇⟩ := reachable_step _ h₆ hother₆
    (by simp only [stepAt, hpc₆]; rfl) rfl
  exact ⟨s₇, _, h₇, hpc₇, hother₇, (stamps_of_reachable s₇ h₇).1 0 noon _ hpc₇⟩

end NtDriver.Timestamp
