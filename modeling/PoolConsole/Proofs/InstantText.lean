import Mathlib.Tactic.IntervalCases
import PoolConsole.Proofs.DecimalText
import PoolConsole.Time.Instant

/-!
What the text of an instant stands for, by a calendar that counts leap years instead of the eras by
which a date is computed.

* `Date.falls_ofDay`: the date of a day falls on that day.
* `stamps_text`: so the text of an instant stands for its nanoseconds since the start of 1970.
-/

namespace PoolConsole.Instant

/-! ## Calendar -/

/-- A year has a leap day if it is a multiple of 4, but not if it is one of 100 and not of 400. -/
def leapDays (year : Int) : Nat :=
  if year % 4 = 0 ∧ (year % 100 ≠ 0 ∨ year % 400 = 0) then 1 else 0

def monthLengths (year : Int) : List Nat :=
  [31, 28 + leapDays year, 31, 30, 31, 30, 31, 31, 30, 31, 30, 31]

/-- Days from the start of 1970 to the start of a year. -/
def daysBefore (year : Int) : Int :=
  365 * (year - 1970) + (year - 1969) / 4 - (year - 1901) / 100 + (year - 1601) / 400

/-- A date of the calendar and its day, counted from the start of 1970. -/
structure Date.Falls (date : Date) (day : Int) : Prop where
  month : 1 ≤ date.month
  exists_day : ∃ length, (monthLengths date.year)[date.month - 1]? = some length ∧
    1 ≤ date.day ∧ date.day ≤ length
  count : day + 1 =
    daysBefore date.year + ((monthLengths date.year).take (date.month - 1)).sum + date.day

/-! ## Years from March on -/

def daysToMarch (year : Int) : Int :=
  365 * year + year / 4 - year / 100 + year / 400 - 719468

theorem leapDays_le_one (year : Int) : leapDays year ≤ 1 := by
  unfold leapDays
  split <;> decide

theorem daysToMarch_eq (year : Int) :
    daysToMarch year = daysBefore year + 59 + leapDays year := by
  unfold daysToMarch daysBefore leapDays
  by_cases leap : year % 4 = 0 ∧ (year % 100 ≠ 0 ∨ year % 400 = 0)
  · rw [if_pos leap]
    omega
  · rw [if_neg leap]
    omega

theorem daysBefore_succ (year : Int) : daysBefore (year + 1) = daysToMarch year + 306 := by
  unfold daysToMarch daysBefore
  omega

theorem daysToMarch_add (era : Int) (y : Nat) : daysToMarch (y + era * 400) =
    146097 * era + (365 * y + y / 4 - y / 100 + y / 400 : Nat) - 719468 := by
  unfold daysToMarch
  omega

theorem yearOfEra_bounds {d y : Nat} (within : d < 146097)
    (is : (d - d / 1460 + d / 36524 - d / 146096) / 365 = y) :
    y < 400 ∧ 365 * y + y / 4 - y / 100 ≤ d ∧
      d < 365 * (y + 1) + (y + 1) / 4 - (y + 1) / 100 + (y + 1) / 400 := by
  have fours : y / 4 ≤ d / 1460 ∧ d / 1460 ≤ (y + 1) / 4 := by omega
  have centuries : d / 36524 ≤ 4 := by omega
  have last : d / 146096 = d / 36524 / 4 := (Nat.div_div_eq_div_mul d 36524 4).symm
  rw [last] at is
  -- By centuries of 36524 days, the last day of an era begins a fifth one.
  generalize hundreds : d / 36524 = c at centuries is
  have century : y / 100 = c - c / 4 := by interval_cases c <;> omega
  refine ⟨by omega, by omega, ?_⟩
  by_cases turn : (y + 1) % 100 = 0
  · interval_cases c <;> omega
  · have same : (y + 1) / 100 = y / 100 := by omega
    omega

/-- The date of a day of a year that begins with March. -/
def Date.ofMarch (year : Int) (d : Nat) : Date :=
  let shiftedMonth := (5 * d + 2) / 153
  let month := if shiftedMonth < 10 then shiftedMonth + 3 else shiftedMonth - 9
  { year := year + (if month ≤ 2 then 1 else 0)
    month
    day := d - (153 * shiftedMonth + 2) / 5 + 1 }

theorem Date.exists_ofDay_eq (day : Int) : ∃ (year : Int) (d : Nat), ofDay day = ofMarch year d ∧
    daysToMarch year + d = day ∧ day < daysToMarch (year + 1) := by
  have low := Int.fmod_nonneg_of_pos (day + 719468) (show (0 : Int) < 146097 by decide)
  have high := Int.fmod_lt_of_pos (day + 719468) (show (0 : Int) < 146097 by decide)
  have whole := Int.mul_fdiv_add_fmod (day + 719468) 146097
  obtain ⟨d, is⟩ := Int.eq_ofNat_of_zero_le low
  rw [is] at whole
  obtain ⟨bound, first, next⟩ := yearOfEra_bounds (d := d) (by omega) rfl
  refine ⟨_, _, rfl, ?_⟩
  rw [is, Int.toNat_natCast]
  generalize (d - d / 1460 + d / 36524 - d / 146096) / 365 = y at *
  have march := daysToMarch_add ((day + 719468).fdiv 146097) y
  have nextMarch := daysToMarch_add ((day + 719468).fdiv 146097) (y + 1)
  rw [Nat.cast_succ, Int.add_right_comm] at nextMarch
  rw [nextMarch]
  omega

theorem Date.falls_ofMarch {year : Int} {d : Nat}
    (within : daysToMarch year + d < daysToMarch (year + 1)) :
    (ofMarch year d).Falls (daysToMarch year + d) := by
  have march := daysToMarch_eq year
  have january := daysBefore_succ year
  rw [daysToMarch_eq (year + 1), january] at within
  have leap := leapDays_le_one (year + 1)
  have months : (5 * d + 2) / 153 < 12 := by omega
  unfold ofMarch
  generalize month : (5 * d + 2) / 153 = m at months
  interval_cases m
  all_goals
    refine ⟨Nat.le_of_ble_eq_true rfl, ⟨_, rfl, Nat.le_add_left 1 _, ?_⟩, ?_⟩
    all_goals
      simp only [monthLengths, Nat.reduceLT, Nat.reduceAdd, Nat.reduceSub, Nat.reduceMul,
        Nat.reduceDiv, Nat.reduceLeDiff, ↓reduceIte, List.take_succ_cons, List.take_zero,
        List.sum_cons, List.sum_nil, Int.add_zero]
      omega

theorem Date.falls_ofDay (day : Int) : (ofDay day).Falls day := by
  obtain ⟨year, d, is, rfl, within⟩ := exists_ofDay_eq day
  rw [is]
  exact falls_ofMarch within

/-! ## Text -/

/-- The digits of a number, with or without leading zeros. -/
def Digits (text : String) (n : Nat) : Prop :=
  Text.DigitRun text.toList ∧ Text.digitsValue text.toList = n

/-- A fraction in billionths, of which any number of digits may be written. -/
inductive Fraction : String → Nat → Prop
  | none : Fraction "" 0
  | digits {digits : String} {n : Nat} : Digits digits n → digits.length ≤ 9 →
      Fraction ("." ++ digits) (n * 10 ^ (9 - digits.length))

/-- A text that stands for a time, in nanoseconds since the start of 1970. Leap seconds are counted
in the second that they follow. -/
inductive Stamps : String → Int → Prop
  | intro {year month day hour minute second fraction : String} {date : Date} {d : Int}
      {h m s f : Nat} : Text.SignedDigits year.toList date.year → Digits month date.month →
      Digits day date.day → date.Falls d → Digits hour h → h < 24 → Digits minute m → m < 60 →
      Digits second s → Fraction fraction f →
      Stamps (year ++ "-" ++ month ++ "-" ++ day ++ "T" ++ hour ++ ":" ++ minute ++ ":" ++
        second ++ fraction ++ "+00:00") ((86400 * d + 3600 * h + 60 * m + s) * 1000000000 + f)

theorem toList_padded (width n : Nat) : (padded width n).toList =
    List.replicate (width - (Nat.toDigits 10 n).length) '0' ++ Nat.toDigits 10 n :=
  String.toList_ofList

theorem digits_padded (width n : Nat) : Digits (padded width n) n := by
  have run := Text.digitRun_toDigits n
  rw [Digits, toList_padded]
  refine ⟨⟨List.append_ne_nil_of_right_ne_nil _ run.1, List.forall_mem_append.mpr ⟨?_, run.2⟩⟩, ?_⟩
  · intro c mem
    rw [List.eq_of_mem_replicate mem]
    rfl
  · rw [Text.digitsValue, Nat.ofDigitChars_append, Nat.ofDigitChars_replicate_zero, Nat.mul_zero,
      Nat.ofDigitChars_ten_toDigits]

theorem length_padded {width n : Nat} (pos : 0 < width) (fits : n < 10 ^ width) :
    (padded width n).length = width := by
  have least := (Nat.length_toDigits_le_iff (by decide) pos).mpr fits
  rw [← String.length_toList, toList_padded, List.length_append, List.length_replicate]
  omega

theorem signedDigits_yearText (year : Int) : Text.SignedDigits (yearText year).toList year := by
  obtain ⟨run, value⟩ := digits_padded 4 year.natAbs
  have absolute : (Text.digitsValue (padded 4 year.natAbs).toList : Int) = year.natAbs :=
    congrArg Nat.cast value
  have plain := Text.SignedDigits.unmarked run
  have plus := Text.SignedDigits.plus run
  have minus := Text.SignedDigits.minus run
  rw [absolute] at plain plus minus
  unfold yearText
  split
  next few =>
    have same : year.toNat = year.natAbs := by omega
    rw [same]
    rwa [Int.natAbs_of_nonneg few.1] at plain
  next many =>
    by_cases negative : year < 0
    · rw [if_pos negative, String.toList_append]
      rwa [Int.ofNat_natAbs_of_nonpos (Int.le_of_lt negative), Int.neg_neg] at minus
    · rw [if_neg negative, String.toList_append]
      rwa [Int.natAbs_of_nonneg (Int.not_lt.mp negative)] at plus

theorem fraction_padded {width k n : Nat} (pos : 0 < width) (short : width ≤ 9)
    (fits : k < 10 ^ width) (is : k * 10 ^ (9 - width) = n) :
    Fraction ("." ++ padded width k) n := by
  have length := length_padded pos fits
  have fraction := Fraction.digits (digits_padded width k) (length.trans_le short)
  rwa [length, is] at fraction

theorem fraction_fractionText {n : Nat} (within : n < 1000000000) :
    Fraction (fractionText n) n := by
  unfold fractionText
  split
  next none =>
    rw [none]
    exact .none
  next =>
    split
    next => exact fraction_padded (by decide) (by decide) (by omega) (by omega)
    next =>
      split
      next => exact fraction_padded (by decide) (by decide) (by omega) (by omega)
      next => exact fraction_padded (by decide) (by decide) (by omega) (by omega)

theorem stamps_text (t : Instant) : Stamps t.text (t.seconds * 1000000000 + t.nanos) := by
  have low := Int.fmod_nonneg_of_pos t.seconds (show (0 : Int) < 86400 by decide)
  have high := Int.fmod_lt_of_pos t.seconds (show (0 : Int) < 86400 by decide)
  have whole := Int.mul_fdiv_add_fmod t.seconds 86400
  obtain ⟨time, is⟩ := Int.eq_ofNat_of_zero_le low
  rw [is] at whole
  have value : t.seconds * 1000000000 + t.nanos =
      (86400 * t.seconds.fdiv 86400 + 3600 * (time / 3600 : Nat) + 60 * (time / 60 % 60 : Nat) +
        (time % 60 + t.nanos / 1000000000 : Nat)) * 1000000000 +
      (t.nanos % 1000000000 : Nat) := by
    omega
  rw [value, text, is, Int.toNat_natCast]
  have fraction := fraction_fractionText (Nat.mod_lt t.nanos (show 1000000000 > 0 by decide))
  exact .intro (signedDigits_yearText _) (digits_padded 2 _) (digits_padded 2 _)
    (Date.falls_ofDay _) (digits_padded 2 _) (by omega) (digits_padded 2 _)
    (Nat.mod_lt _ (by decide)) (digits_padded 2 _) fraction

/-- The text of an instant that lies some seconds back. -/
theorem stamps_text_before (t : Instant) (seconds : Nat) : Stamps (t.before seconds).text
    (t.seconds * 1000000000 + t.nanos - seconds * 1000000000) := by
  have stamps := stamps_text (t.before seconds)
  have value : (t.before seconds).seconds * 1000000000 + (t.before seconds).nanos =
      t.seconds * 1000000000 + t.nanos - seconds * 1000000000 := by
    simp only [before]
    omega
  rwa [value] at stamps

end PoolConsole.Instant
