import Mathlib.Data.Rat.Floor
import Mathlib.Tactic.Ring
import ControlPlane.Proofs.Resume.Calendar
import ControlPlane.Proofs.Text.Reading

/-!
# One time line

A second of the calendar is a day and a time of day. Its number counts the seconds from the start
of 1970, one more from each second to the next. A moment is a second with decimals, and its texts
differ in what divides the day from the time, in the decimals written out and in the offset from
universal time. Every text is read as the milliseconds since the start of 1970, rounded down, of
the one moment that it stands for.
-/

set_option autoImplicit false

namespace ControlPlane.Instant

open Text (exactly exactly_padded mark natOf padded upTo_padded)

structure Second where
  date : Date
  hour : Nat
  minute : Nat
  second : Nat

namespace Second

variable {s t : Second}

def number (s : Second) : Int :=
  s.date.dayNumber * 86400 + ((s.hour * 60 + s.minute) * 60 + s.second : Nat)

structure IsValid (s : Second) : Prop where
  year : 0 ≤ s.date.year ∧ s.date.year ≤ 9999
  date : s.date.isValid = true
  hour : s.hour ≤ 23
  minute : s.minute ≤ 59
  second : s.second ≤ 59

def reading (s : Second) : List Int :=
  [s.date.year, s.date.month, s.date.day, s.hour, s.minute, s.second]

def next (s : Second) : Second :=
  if s.second < 59 then { s with second := s.second + 1 }
  else if s.minute < 59 then { s with minute := s.minute + 1, second := 0 }
  else if s.hour < 23 then { s with hour := s.hour + 1, minute := 0, second := 0 }
  else ⟨s.date.next, 0, 0, 0⟩

theorem number_next (valid : s.IsValid) : s.next.number = s.number + 1 := by
  obtain ⟨-, date, hour, minute, second⟩ := valid
  have day := Date.dayNumber_next date
  simp only [next, number]
  split_ifs <;> dsimp only <;> omega

theorem number_lt (valid : s.IsValid) (later : t.IsValid) (before : s.reading < t.reading) :
    s.number < t.number := by
  obtain ⟨-, date, hour, minute, second⟩ := valid
  obtain ⟨-, date', hour', minute', second'⟩ := later
  have split : s.date.reading < t.date.reading ∨ s.date = t.date ∧
      [(s.hour : Int), s.minute, s.second] < [(t.hour : Int), t.minute, t.second] := by
    obtain ⟨⟨year, month, day⟩, _⟩ := s
    obtain ⟨⟨year', month', day'⟩, _⟩ := t
    simp [reading, Date.reading, List.cons_lt_cons_iff] at before ⊢
    omega
  rw [number, number]
  rcases split with days | ⟨day, times⟩
  · have := Date.dayNumber_lt date date' days
    omega
  · simp only [List.cons_lt_cons_iff, List.not_lt_nil, and_false, or_false] at times
    rw [day]
    omega

end Second

structure Moment extends Second where
  valid : toSecond.IsValid
  decimals : List Char
  digits : ∀ c ∈ decimals, c.isDigit = true

inductive Divider
  | letter
  | blank

def Divider.mark : Divider → Char
  | .letter => 'T'
  | .blank => ' '

inductive Zone
  | unsaid
  | universal
  | ahead (hours : Fin 24) (minutes : Fin 60)
  | behind (hours : Fin 24) (minutes : Fin 60)

namespace Zone

def minutes : Zone → Int
  | unsaid | universal => 0
  | ahead hours minutes => hours * 60 + minutes
  | behind hours minutes => -(hours * 60 + minutes)

def chars : Zone → List Char
  | unsaid => []
  | universal => ['Z']
  | ahead hours minutes => '+' :: (padded 2 hours ++ ':' :: padded 2 minutes)
  | behind hours minutes => '-' :: (padded 2 hours ++ ':' :: padded 2 minutes)

end Zone

def Date.chars (d : Date) : List Char :=
  padded 4 d.year.toNat ++ ('-' :: (padded 2 d.month ++ ['-'])) ++ padded 2 d.day

def Date.written (d : Date) : String := String.ofList d.chars

namespace Moment

def epoch (m : Moment) : ℚ :=
  ((m.date.passed - Date.first.passed) * 86400 + m.hour * 3600 + m.minute * 60 + m.second : Int) +
    natOf m.decimals / 10 ^ m.decimals.length

def timeChars (m : Moment) : List Char :=
  padded 2 m.hour ++ ':' :: (padded 2 m.minute ++ ':' :: (padded 2 m.second ++
    if m.decimals = [] then [] else '.' :: m.decimals))

def chars (m : Moment) (divider : Divider) (zone : Zone) : List Char :=
  m.date.chars ++ [divider.mark] ++ (m.timeChars ++ zone.chars)

def written (m : Moment) (divider : Divider) (zone : Zone) : String :=
  String.ofList (m.chars divider zone)

def midnight (m : Moment) : Moment where
  date := m.date
  hour := 0
  minute := 0
  second := 0
  valid := ⟨m.valid.year, m.valid.date, Nat.zero_le 23, Nat.zero_le 59, Nat.zero_le 59⟩
  decimals := []
  digits := by simp

def clock (m : Moment) : Time :=
  ⟨m.hour, m.minute, m.second, natOf m.decimals * 1000 / 10 ^ m.decimals.length⟩

end Moment

section Readers

theorem mark_self (c : Char) (cs : List Char) : mark c (c :: cs) = some ((), cs) :=
  if_pos rfl

theorem padded_ne_nil {width n : Nat} (wide : width ≠ 0) : padded width n ≠ [] := by
  rw [← List.length_pos_iff, Text.padded_length]
  omega

theorem trimStart_padded {width n : Nat} (wide : width ≠ 0) (rest : List Char) :
    Text.trimStart (padded width n ++ rest) = padded width n ++ rest := by
  apply Text.trimStart_eq_self
  rw [List.head?_append_of_ne_nil _ (padded_ne_nil wide)]
  exact fun c first => Text.plain_padded _ _ c (List.mem_of_mem_head? first)

theorem loose_padded {n : Nat} (fits : n < 100) (rest : List Char) :
    loose (padded 2 n ++ rest) = some (n, rest) := by
  rw [loose, trimStart_padded (by decide), upTo_padded (by decide) fits]

theorem looseYear_padded {n : Nat} (fits : n < 10000) (rest : List Char) :
    looseYear (padded 4 n ++ rest) = some ((n : Int), rest) := by
  obtain ⟨c, cs, year⟩ := List.exists_cons_of_ne_nil (padded_ne_nil (n := n) four_ne_zero)
  have digit : c.isDigit = true := Text.padded_isDigit c (year ▸ List.mem_cons_self)
  have read := upTo_padded four_ne_zero fits rest
  rw [looseYear, trimStart_padded four_ne_zero]
  rw [year] at read ⊢
  -- A digit is neither of the two signs.
  split
  · simp_all
  · simp_all
  · simp_all

/-- Three digits of a fraction, with zeros in place of those that are not there. -/
theorem natOf_thousandths {ds : List Char} (digits : ∀ c ∈ ds, c.isDigit = true) :
    natOf ((ds ++ ['0', '0', '0']).take 3) = natOf ds * 1000 / 10 ^ ds.length := by
  have filled : ∀ c ∈ ds ++ ['0', '0', '0'], c.isDigit = true := by
    simp only [List.mem_append]
    rintro c (inside | zero)
    · exact digits c inside
    · obtain rfl : c = '0' := by simpa using zero
      rfl
  have zeros : natOf ['0', '0', '0'] = 0 := rfl
  rw [Text.natOf_take filled, Text.natOf_append, zeros]
  simp

theorem fraction_chars {ds rest : List Char} (digits : ∀ c ∈ ds, c.isDigit = true)
    (apart : Json.Apart rest) :
    fraction ((if ds = [] then [] else '.' :: ds) ++ rest) =
      some (natOf ds * 1000 / 10 ^ ds.length, rest) := by
  split
  case isTrue empty =>
    subst empty
    cases rest with
    | nil => rfl
    | cons c rest =>
      have noPoint := (apart c rfl).2.1
      simp [fraction, noPoint, natOf]
  case isFalse filled =>
    simp [fraction, Text.allDigits_append digits filled apart, natOf_thousandths digits]

theorem Date.fits {d : Date} (valid : d.isValid = true) : d.month < 100 ∧ d.day < 100 := by
  obtain ⟨-, month, -, day⟩ := isValid_iff.mp valid
  have := monthLength_le d.year d.month
  omega

theorem Second.IsValid.fits {s : Second} (valid : s.IsValid) :
    s.hour < 100 ∧ s.minute < 100 ∧ s.second < 100 := by
  obtain ⟨-, -, hour, minute, second⟩ := valid
  omega

variable {d : Date} {m : Moment} {rest : List Char}

theorem strictDate_chars (year : 0 ≤ d.year ∧ d.year ≤ 9999) (valid : d.isValid = true)
    (rest : List Char) : strictDate (d.chars ++ rest) = some (d, rest) := by
  have short : d.year.toNat < 10000 := by omega
  obtain ⟨month, day⟩ := d.fits valid
  simp [strictDate, Date.chars, exactly_padded, mark_self, short, month, day,
    Int.toNat_of_nonneg year.1]

theorem looseDate_chars (year : 0 ≤ d.year ∧ d.year ≤ 9999) (valid : d.isValid = true)
    (rest : List Char) : looseDate (d.chars ++ rest) = some (d, rest) := by
  have short : d.year.toNat < 10000 := by omega
  obtain ⟨month, day⟩ := d.fits valid
  simp [looseDate, Date.chars, looseYear_padded, loose_padded, mark_self, short, month, day,
    Int.toNat_of_nonneg year.1]

theorem strictTime_chars (m : Moment) (apart : Json.Apart rest) :
    strictTime (m.timeChars ++ rest) = some (m.clock, rest) := by
  obtain ⟨hour, minute, second⟩ := m.valid.fits
  have decimals := fraction_chars m.digits apart
  simp [strictTime, Moment.timeChars, Moment.clock, exactly_padded, mark_self, decimals, hour,
    minute, second]

theorem looseTime_chars (m : Moment) (apart : Json.Apart rest) :
    looseTime (m.timeChars ++ rest) = some (m.clock, rest) := by
  obtain ⟨hour, minute, second⟩ := m.valid.fits
  have decimals := fraction_chars m.digits apart
  simp [looseTime, Moment.timeChars, Moment.clock, loose_padded, mark_self, decimals, hour,
    minute, second]

theorem offset_chars {zone : Zone} (said : zone ≠ .unsaid) :
    offset zone.chars = some (zone.minutes, []) := by
  have hour (hours : Fin 24) (rest : List Char) :
      exactly 2 (padded 2 hours ++ rest) = some (hours.val, rest) :=
    exactly_padded (by omega) rest
  have minute (minutes : Fin 60) : exactly 2 (padded 2 minutes) = some (minutes.val, []) := by
    have last : minutes.val < 10 ^ 2 := by omega
    simpa using exactly_padded last []
  cases zone with
  | unsaid => exact absurd rfl said
  | universal => rfl
  | ahead hours minutes =>
    simp [offset, Zone.chars, Zone.minutes, hour, minute, mark_self]
    omega
  | behind hours minutes =>
    simp [offset, Zone.chars, Zone.minutes, hour, minute, mark_self]
    omega

theorem looseTime_blank (cs : List Char) : looseTime (' ' :: cs) = looseTime cs := rfl

theorem Zone.apart (zone : Zone) : Json.Apart zone.chars := by
  cases zone <;> simp [Json.Apart, Zone.chars]

end Readers

section Moments

variable (m : Moment)

theorem Moment.clock_isValid : m.clock.isValid = true := by
  obtain ⟨-, -, hour, minute, second⟩ := m.valid
  simp [Time.isValid, clock, hour, minute, second.trans (by decide : 59 ≤ 60)]

theorem withOffset?_said (divider : Divider) {zone : Zone} (said : zone ≠ .unsaid) :
    withOffset? (m.chars divider zone) =
      some (millisOf m.date m.clock - zone.minutes * 60000) := by
  rw [withOffset?, Moment.chars, List.append_assoc, strictDate_chars m.valid.year m.valid.date]
  cases divider <;>
    simp [Divider.mark, strictTime_chars m zone.apart, offset_chars said, m.valid.date,
      m.clock_isValid]

/-- Without an offset the first form is not met. -/
theorem withOffset?_unsaid (divider : Divider) : withOffset? (m.chars divider .unsaid) = none := by
  rw [withOffset?, Moment.chars, List.append_assoc, strictDate_chars m.valid.year m.valid.date]
  have time := strictTime_chars m Zone.unsaid.apart
  have unread : offset Zone.unsaid.chars = none := rfl
  cases divider <;> simp [Divider.mark, time, unread]

theorem yearInRange_valid : yearInRange m.date.year = true := by
  have := m.valid.year
  simp only [yearInRange, Bool.and_eq_true, decide_eq_true_eq]
  omega

theorem withoutOffset?_unsaid (divider : Divider) :
    withoutOffset? (m.chars divider .unsaid) = some (millisOf m.date m.clock) := by
  have time : looseTime m.timeChars = some (m.clock, []) := by
    simpa [Zone.chars] using looseTime_chars m Zone.unsaid.apart
  rw [withoutOffset?, Moment.chars, List.append_assoc, looseDate_chars m.valid.year m.valid.date,
    Zone.chars, List.append_nil]
  cases divider <;>
    simp [Divider.mark, looseTime_blank, time, m.valid.date, m.clock_isValid, yearInRange_valid]

theorem floor_epoch : ⌊1000 * m.epoch⌋ = millisOf m.date m.clock := by
  have days := Date.dayNumber_passed m.valid.year.1 m.valid.date
  have parts : 1000 * m.epoch =
      ((1000 * ((m.date.passed - Date.first.passed) * 86400 + m.hour * 3600 + m.minute * 60 +
        m.second) : Int) : ℚ) +
        ((natOf m.decimals * 1000 : Nat) : ℚ) / ((10 ^ m.decimals.length : Nat) : ℚ) := by
    rw [Moment.epoch]
    push_cast
    ring
  rw [parts, Int.floor_intCast_add, Rat.floor_natCast_div_natCast, millisOf, days, Time.millis,
    Moment.clock]
  push_cast
  ring

theorem Date.trim_chars (d : Date) : Text.trim d.chars = d.chars := by
  refine Text.trim_between ?_ ?_ (Text.plain_padded _ _) (Text.plain_padded _ _) _ <;>
    exact padded_ne_nil (by decide)

theorem Moment.trim_chars (divider : Divider) (zone : Zone) :
    Text.trim (m.chars divider zone) = m.chars divider zone := by
  have marks : ∀ c ∈ ['.', ':', '-', '+', 'Z'], Text.isBlank c = false := by
    simp [Text.isBlank]
  have decimals := Text.plain_digits m.digits
  refine Text.trim_between ?_ ?_ ?_ ?_ _
  · simp [Date.chars]
  · simp [Moment.timeChars]
  · simp [Date.chars, marks]
  · have offset : Text.Plain zone.chars := by
      cases zone <;> simp [Zone.chars, marks]
    have fraction : Text.Plain (if m.decimals = [] then [] else '.' :: m.decimals) := by
      split <;> simp [marks, decimals]
    simp [timeChars, marks, fraction, offset]

theorem millis_written (divider : Divider) (zone : Zone) :
    millis (m.written divider zone) = ⌊1000 * m.epoch⌋ - zone.minutes * 60000 := by
  rw [floor_epoch, millis, Moment.written, String.toList_ofList, m.trim_chars]
  by_cases said : zone = .unsaid
  · -- The first form fails for want of an offset, and the second is met.
    subst said
    simp [withOffset?_unsaid, withoutOffset?_unsaid, Zone.minutes]
  · simp [withOffset?_said m divider said]

/-- A date alone has no time of day, so the forms before it are not met. -/
theorem millis_date : millis m.date.written = ⌊1000 * m.midnight.epoch⌋ := by
  have strict := strictDate_chars m.valid.year m.valid.date []
  have date := looseDate_chars m.valid.year m.valid.date []
  rw [List.append_nil] at strict date
  have noTime : looseTime [] = none := rfl
  have first : withOffset? m.date.chars = none := by simp [withOffset?, strict]
  have second : withoutOffset? m.date.chars = none := by simp [withoutOffset?, date, noTime]
  have third : dateOnly? m.date.chars = some (m.date.dayNumber * 86400000) := by
    simp [dateOnly?, date, m.valid.date, yearInRange_valid]
  have clock : m.midnight.clock = ⟨0, 0, 0, 0⟩ := by simp [Moment.clock, Moment.midnight, natOf]
  rw [floor_epoch, clock, millis, Date.written, String.toList_ofList, Date.trim_chars]
  simp [first, second, third, millisOf, Time.millis, Moment.midnight]

theorem floor_epoch_number :
    ⌊1000 * m.epoch⌋ = m.number * 1000 + m.clock.milli := by
  rw [floor_epoch, millisOf, Second.number, Time.millis, Moment.clock]
  push_cast
  ring

theorem milli_lt : m.clock.milli < 1000 := by
  have below := Text.natOf_lt m.digits
  exact Nat.div_lt_of_lt_mul (by omega)

theorem floor_epoch_lt {m n : Moment} (before : m.reading < n.reading) :
    ⌊1000 * m.epoch⌋ < ⌊1000 * n.epoch⌋ := by
  have seconds := Second.number_lt m.valid n.valid before
  have decimals := milli_lt m
  rw [floor_epoch_number, floor_epoch_number]
  omega

theorem floor_epoch_next {m n : Moment} (next : n.toSecond = m.toSecond.next)
    (decimals : n.decimals = m.decimals) : ⌊1000 * n.epoch⌋ = ⌊1000 * m.epoch⌋ + 1000 := by
  have seconds := Second.number_next m.valid
  have milli : n.clock.milli = m.clock.milli := by rw [Moment.clock, Moment.clock, decimals]
  rw [floor_epoch_number, floor_epoch_number, next, milli]
  omega

theorem millis_around (raw : String) {before after : String}
    (blank : ∀ c ∈ (before ++ after).toList, Text.isBlank c = true) :
    millis (before ++ raw ++ after) = millis raw := by
  rw [String.toList_append] at blank
  have trimmed := Text.trim_around (fun c inside => blank c (List.mem_append_left _ inside))
    (fun c inside => blank c (List.mem_append_right _ inside)) raw.toList
  rw [millis, String.toList_append, String.toList_append, trimmed, millis]

end Moments

/-- One equation for all texts of a moment: what divides the date from the time makes no
difference, nor does it whether universal time is left unsaid, named or written as an offset of
nothing, and any other offset is taken off. A date alone is its midnight, a later second has more
milliseconds, a second counts a thousand of them whatever ends with it, and blanks around a text
are lost. -/
theorem texts_on_one_line :
    (∀ (m : Moment) (divider : Divider) (zone : Zone),
      millis (m.written divider zone) = ⌊1000 * m.epoch⌋ - zone.minutes * 60000) ∧
    (∀ m : Moment, millis m.date.written = ⌊1000 * m.midnight.epoch⌋) ∧
    (∀ m n : Moment, m.reading < n.reading →
      millis (m.written .letter .unsaid) < millis (n.written .letter .unsaid)) ∧
    (∀ m n : Moment, n.toSecond = m.toSecond.next → n.decimals = m.decimals →
      millis (n.written .letter .unsaid) = millis (m.written .letter .unsaid) + 1000) ∧
    (∀ before raw after : String, (∀ c ∈ (before ++ after).toList, Text.isBlank c = true) →
      millis (before ++ raw ++ after) = millis raw) := by
  refine ⟨millis_written, millis_date, ?_, ?_, fun _ raw _ => millis_around raw⟩
  · intro m n before
    rw [millis_written, millis_written]
    exact sub_lt_sub_right (floor_epoch_lt before) _
  · intro m n next decimals
    rw [millis_written, millis_written, floor_epoch_next next decimals]
    exact add_sub_right_comm _ _ _

def leapDayEnd : Moment where
  date := ⟨2024, 2, 29⟩
  hour := 23
  minute := 59
  second := 59
  valid := by constructor <;> decide
  decimals := ['5']
  digits := List.forall_mem_singleton.mpr rfl

def marchBegin : Moment where
  date := ⟨2024, 3, 1⟩
  hour := 0
  minute := 0
  second := 0
  valid := by constructor <;> decide
  decimals := ['5']
  digits := List.forall_mem_singleton.mpr rfl

theorem texts_on_one_line_leap_day :
    leapDayEnd.written .letter .unsaid = "2024-02-29T23:59:59.5" ∧
    marchBegin.written .letter .unsaid = "2024-03-01T00:00:00.5" ∧
    leapDayEnd.reading < marchBegin.reading ∧
    millis (leapDayEnd.written .letter .unsaid) < millis (marchBegin.written .letter .unsaid) ∧
    marchBegin.toSecond = leapDayEnd.toSecond.next ∧
    marchBegin.decimals = leapDayEnd.decimals ∧
    millis (marchBegin.written .letter .unsaid) =
      millis (leapDayEnd.written .letter .unsaid) + 1000 ∧
    (∀ c ∈ (" \t" ++ "\n").toList, Text.isBlank c = true) ∧
    millis (" \t" ++ "2024-02-29" ++ "\n") = millis "2024-02-29" := by
  obtain ⟨-, -, increasing, steady, around⟩ := texts_on_one_line
  have later : leapDayEnd.reading < marchBegin.reading := by decide
  have blank : ∀ c ∈ (" \t" ++ "\n").toList, Text.isBlank c = true :=
    List.all_eq_true.mp rfl
  exact ⟨by decide, by decide, later, increasing _ _ later, rfl, rfl, steady _ _ rfl rfl, blank,
    around _ _ _ blank⟩

end ControlPlane.Instant
