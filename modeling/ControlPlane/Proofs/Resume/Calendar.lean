import Mathlib.Algebra.BigOperators.Intervals
import Mathlib.Data.List.Lex
import Mathlib.Tactic.IntervalCases
import ControlPlane.Resume.Instant

/-!
# The days of the calendar

The number of a day is made of the days before its year and the days before its month. Both sums
grow by the length of what they pass, so the number of a day is what one gets by adding up the
lengths of the years and of the months before it (`dayNumber_passed`). The day after a day has the
next number (`dayNumber_next`), at the end of a month and of a year as well, and later days have
larger numbers (`dayNumber_lt`).
-/

set_option autoImplicit false

namespace ControlPlane.Instant

def yearLength (year : Int) : Int := if isLeap year then 366 else 365

theorem isLeap_iff {year : Int} :
    isLeap year = true ↔ year % 4 = 0 ∧ (year % 100 ≠ 0 ∨ year % 400 = 0) := by
  simp [isLeap]

theorem daysBeforeYear_succ (year : Int) :
    daysBeforeYear (year + 1) = daysBeforeYear year + yearLength year := by
  simp only [daysBeforeYear, yearLength, isLeap_iff]
  split <;> omega

theorem daysBeforeYear_le {year later : Int} (before : year < later) :
    daysBeforeYear year + yearLength year ≤ daysBeforeYear later := by
  rw [← daysBeforeYear_succ]
  simp only [daysBeforeYear]
  omega

def monthStart (year : Int) (month : Nat) : Nat :=
  daysBeforeMonth month + if 2 < month && isLeap year then 1 else 0

theorem monthStart_succ (year : Int) {month : Nat} (first : 1 ≤ month) (last : month < 12) :
    monthStart year (month + 1) = monthStart year month + monthLength year month := by
  cases leap : isLeap year <;> interval_cases month <;>
    simp [monthStart, monthLength, daysBeforeMonth, leap]

theorem monthStart_december (year : Int) :
    (monthStart year 12 + monthLength year 12 : Int) = yearLength year := by
  cases leap : isLeap year <;> simp [monthStart, monthLength, daysBeforeMonth, yearLength, leap]

/-- A month begins after all the days of the months before it. -/
theorem monthStart_le (year : Int) {month later : Nat} (first : 1 ≤ month) (before : month < later)
    (last : later ≤ 12) :
    monthStart year month + monthLength year month ≤ monthStart year later := by
  induction later, before using Nat.le_induction with
  | base => exact (monthStart_succ year first (by omega)).ge
  | succ later before ih =>
    rw [monthStart_succ year (by omega) (by omega)]
    exact (ih (by omega)).trans (Nat.le_add_right _ _)

/-- A year ends with the days of its last month. -/
theorem monthStart_le_year (year : Int) {month : Nat} (first : 1 ≤ month) (last : month ≤ 12) :
    (monthStart year month + monthLength year month : Int) ≤ yearLength year := by
  rw [← monthStart_december]
  rcases last.lt_or_eq with before | rfl
  · have := monthStart_le year first before (Nat.le_refl 12)
    omega
  · exact Int.le_refl _

namespace Date

variable {d e : Date}

theorem isValid_iff : d.isValid = true ↔
    1 ≤ d.month ∧ d.month ≤ 12 ∧ 1 ≤ d.day ∧ d.day ≤ monthLength d.year d.month := by
  simp [isValid, and_assoc]

theorem dayNumber_eq (d : Date) :
    d.dayNumber = daysBeforeYear d.year - 719162 + monthStart d.year d.month + (d.day - 1) := by
  rw [dayNumber, monthStart]
  split <;> omega

def passed (d : Date) : Int :=
  ∑ year ∈ Finset.range d.year.toNat, yearLength year +
    ∑ month ∈ Finset.Ico 1 d.month, (monthLength d.year month : Int) + (d.day - 1)

def first : Date := ⟨1970, 1, 1⟩

theorem dayNumber_first : first.dayNumber = 0 := by
  decide

theorem monthStart_sum (year : Int) {month : Nat} (begun : 1 ≤ month) (last : month ≤ 12) :
    (monthStart year month : Int) = ∑ m ∈ Finset.Ico 1 month, (monthLength year m : Int) := by
  induction month, begun using Nat.le_induction with
  | base => simp [monthStart, daysBeforeMonth]
  | succ month begun ih =>
    rw [monthStart_succ year begun (by omega), Finset.sum_Ico_succ_top begun, ← ih (by omega)]
    rfl

theorem daysBeforeYear_sum (year : Nat) :
    daysBeforeYear year = daysBeforeYear 0 + ∑ y ∈ Finset.range year, yearLength y := by
  induction year with
  | zero => simp
  | succ year ih =>
    rw [Finset.sum_range_succ, Nat.cast_succ, daysBeforeYear_succ, ih, add_assoc]

/-- A day is numbered by the days that have passed since the first one. -/
theorem dayNumber_passed (begun : 0 ≤ d.year) (valid : d.isValid = true) :
    d.dayNumber = d.passed - first.passed := by
  have since : ∀ e : Date, 0 ≤ e.year → e.isValid = true →
      e.dayNumber = daysBeforeYear 0 - 719162 + e.passed := by
    intro e begun valid
    obtain ⟨january, december, -, -⟩ := isValid_iff.mp valid
    rw [dayNumber_eq, passed, monthStart_sum e.year january december]
    have years := daysBeforeYear_sum e.year.toNat
    rw [Int.toNat_of_nonneg begun] at years
    omega
  -- the count of the first day is zero, and this settles the constant
  have zero := since first (by decide) (by decide)
  rw [dayNumber_first] at zero
  have := since d begun valid
  omega

def next (d : Date) : Date :=
  if d.day < monthLength d.year d.month then { d with day := d.day + 1 }
  else if d.month < 12 then { d with month := d.month + 1, day := 1 }
  else ⟨d.year + 1, 1, 1⟩

theorem monthLength_le (year : Int) (month : Nat) : monthLength year month ≤ 31 := by
  unfold monthLength
  split
  · split <;> decide
  all_goals decide

/-- The day after a day has the next number, whatever ends with the day. -/
theorem dayNumber_next (valid : d.isValid = true) : d.next.dayNumber = d.dayNumber + 1 := by
  obtain ⟨first, last, -, fits⟩ := isValid_iff.mp valid
  rw [dayNumber_eq, dayNumber_eq, next]
  -- The day is followed by one of its month, of its year or of the next year.
  split
  case isTrue =>
    dsimp only
    omega
  case isFalse ended =>
    split
    case isTrue inside =>
      have start := monthStart_succ d.year first inside
      dsimp only
      omega
    case isFalse december =>
      have start := monthStart_december d.year
      rw [show d.month = 12 by omega] at fits ended ⊢
      have turn := daysBeforeYear_succ d.year
      have new : monthStart (d.year + 1) 1 = 0 := rfl
      dsimp only
      omega

def reading (d : Date) : List Int := [d.year, d.month, d.day]

theorem dayNumber_lt (valid : d.isValid = true) (later : e.isValid = true)
    (before : d.reading < e.reading) : d.dayNumber < e.dayNumber := by
  obtain ⟨first, last, -, fits⟩ := isValid_iff.mp valid
  obtain ⟨-, last', first', -⟩ := isValid_iff.mp later
  rw [dayNumber_eq, dayNumber_eq]
  simp only [reading, List.cons_lt_cons_iff] at before
  rcases before with years | ⟨year, months | ⟨month, days | ⟨-, same⟩⟩⟩
  · have turn := daysBeforeYear_le years
    have inside := monthStart_le_year d.year first last
    omega
  · have turn := monthStart_le d.year first (by exact_mod_cast months) last'
    rw [← year]
    omega
  · rw [← year, show e.month = d.month by omega]
    omega
  · simp at same

end Date

end ControlPlane.Instant
