import ControlPlane.Proofs.Json.Places
import ControlPlane.Proofs.Resume.TimeLine
import ControlPlane.Proofs.Wire.Layouts
import ControlPlane.Proofs.Wire.Snapshots
import ControlPlane.Resume.Order

/-!
# Times of update as whole numbers

The time of an update may be written as a count of milliseconds, as a number or as the text of
its digits. Both make the same candidate, and none of the forms of dates is met by the digits, so
that they stand for the count itself. Whatever is neither a text nor a number of sixty-four bits
is refused.
-/

set_option autoImplicit false

namespace ControlPlane

open Text (natOf mark)

namespace Instant

def numeral (n : Int64) : String := String.ofList (Decimal.wholeText n.toInt)

section Numbers

theorem exists_of_fitsSigned {n : Int} (fits : Decimal.fitsSigned n = true) :
    ∃ m : Int64, m.toInt = n := by
  simp only [Decimal.fitsSigned, Bool.and_eq_true, decide_eq_true_eq] at fits
  exact ⟨Int64.ofInt n, Int64.toInt_ofInt_of_le (by omega) (by omega)⟩

/-- A whole number is its digits, with a minus in front if it is below zero. -/
theorem wholeText_cases (n : Int) :
    n < 0 ∧ Decimal.wholeText n = '-' :: Decimal.digits n.natAbs ∨
      0 ≤ n ∧ Decimal.wholeText n = Decimal.digits n.natAbs := by
  rw [Decimal.wholeText]
  by_cases negative : n < 0
  · exact .inl ⟨negative, if_pos negative⟩
  · exact .inr ⟨by omega, if_neg negative⟩

theorem digits_cons (n : Nat) : ∃ c cs, Decimal.digits n = c :: cs ∧ c ≠ '-' ∧ c ≠ '+' := by
  obtain ⟨c, cs, front⟩ := List.exists_cons_of_ne_nil (Json.digits_ne_nil n)
  have digit : c.isDigit = true := Json.digits_isDigit n c (front ▸ List.mem_cons_self)
  refine ⟨c, cs, front, ?_, ?_⟩ <;>
    · rintro rfl
      cases digit

theorem wholeNumber?_minus {ds : List Char} (filled : ds ≠ [])
    (digits : ∀ c ∈ ds, c.isDigit = true) : Text.wholeNumber? ('-' :: ds) =
      if Decimal.fitsSigned (-(natOf ds : Int)) then some (-(natOf ds : Int)) else none := by
  simp [Text.wholeNumber?, filled, List.all_eq_true.mpr digits]

theorem wholeNumber?_cons {c : Char} {cs : List Char} (minus : c ≠ '-') (plus : c ≠ '+')
    (digits : ∀ d ∈ c :: cs, d.isDigit = true) : Text.wholeNumber? (c :: cs) =
      if Decimal.fitsSigned (natOf (c :: cs)) then some (natOf (c :: cs) : Int) else none := by
  have digits := List.all_eq_true.mpr digits
  rw [List.all_cons] at digits
  simp [Text.wholeNumber?, minus, plus, digits]

theorem wholeNumber?_wholeText {n : Int} (fits : Decimal.fitsSigned n = true) :
    Text.wholeNumber? (Decimal.wholeText n) = some n := by
  have digits := Json.digits_isDigit n.natAbs
  have filled := Json.digits_ne_nil n.natAbs
  have read := Json.natOf_digits n.natAbs
  rcases wholeText_cases n with ⟨negative, text⟩ | ⟨positive, text⟩
  · have value : -(n.natAbs : Int) = n := by omega
    rw [text, wholeNumber?_minus filled digits, read, value, if_pos fits]
  · have value : (n.natAbs : Int) = n := by omega
    obtain ⟨c, cs, front, minus, plus⟩ := digits_cons n.natAbs
    rw [front] at digits read
    rw [text, front, wholeNumber?_cons minus plus digits, read, value, if_pos fits]

end Numbers

section Dates

variable {ds : List Char}

theorem mark_digits (digits : ∀ c ∈ ds, c.isDigit = true) : mark '-' ds = none := by
  cases ds with
  | nil => rfl
  | cons c cs =>
    have other : c ≠ '-' := by
      rintro rfl
      cases digits '-' List.mem_cons_self
    exact if_neg other

theorem mark_digits_drop (digits : ∀ c ∈ ds, c.isDigit = true) (count : Nat) :
    mark '-' (ds.drop count) = none :=
  mark_digits fun c inside => digits c (List.mem_of_mem_drop inside)

/-- After its year a date goes on with a dash, which is no digit. -/
theorem strictDate_wholeText (n : Int) : strictDate (Decimal.wholeText n) = none := by
  have digits := Json.digits_isDigit n.natAbs
  rcases wholeText_cases n with ⟨-, text⟩ | ⟨-, text⟩
  · simp [strictDate, text, Text.exactly]
  · rw [text, strictDate, Text.exactly]
    split
    · simp [mark_digits_drop digits]
    · rfl

theorem looseYear_minus (digits : ∀ c ∈ ds, c.isDigit = true) (filled : ds ≠ []) :
    looseYear ('-' :: ds) = some (-(natOf ds : Int), []) := by
  have read : Text.allDigits (ds ++ []) = some (ds, []) :=
    Text.allDigits_append digits filled nofun
  rw [List.append_nil] at read
  have kept : Text.trimStart ('-' :: ds) = '-' :: ds := Text.trimStart_eq_self (by simp; decide)
  simp [looseYear, kept, read]

/-- A year without a sign ends among the digits. -/
theorem looseYear_digits {c : Char} {cs rest : List Char} {year : Int} (minus : c ≠ '-')
    (plus : c ≠ '+') (digits : ∀ d ∈ c :: cs, d.isDigit = true)
    (met : looseYear (c :: cs) = some (year, rest)) : ∃ count, rest = (c :: cs).drop count := by
  have kept : Text.trimStart (c :: cs) = c :: cs := Text.trimStart_eq_self fun d first =>
    Text.isBlank_digit (digits d (List.mem_of_mem_head? first))
  have met : (Text.upTo 4 (c :: cs)).map (fun r => ((r.1 : Int), r.2)) = some (year, rest) := by
    rw [← met]
    simp [looseYear, kept, minus, plus]
  obtain ⟨⟨_, _⟩, read, same⟩ := Option.map_eq_some_iff.mp met
  obtain ⟨-, rfl⟩ := Prod.mk.inj same
  rw [Text.upTo] at read
  split at read
  · cases read
  · obtain ⟨-, rfl⟩ := Prod.mk.inj (Option.some.inj read)
    exact ⟨_, rfl⟩

theorem looseDate_wholeText (n : Int) : looseDate (Decimal.wholeText n) = none := by
  have digits := Json.digits_isDigit n.natAbs
  rcases wholeText_cases n with ⟨-, text⟩ | ⟨-, text⟩
  · simp [looseDate, text, looseYear_minus digits (Json.digits_ne_nil _), mark]
  · obtain ⟨c, cs, front, minus, plus⟩ := digits_cons n.natAbs
    rw [front] at digits
    rw [text, front, looseDate]
    cases met : looseYear (c :: cs) with
    | none => rfl
    | some read =>
      -- whatever the year leaves are digits, and the date would go on with a dash
      obtain ⟨count, rest⟩ := looseYear_digits minus plus digits met
      have noMark : mark '-' read.2 = none := rest ▸ mark_digits_drop digits count
      simp [noMark]

end Dates

theorem plain_wholeText (n : Int) : Text.Plain (Decimal.wholeText n) := by
  have digits := Text.plain_digits (Json.digits_isDigit n.natAbs)
  rcases wholeText_cases n with ⟨-, text⟩ | ⟨-, text⟩ <;> rw [text]
  · exact Text.plain_cons.mpr ⟨rfl, digits⟩
  · exact digits

/-- No form of a date is met by digits alone, so that they are read as a count. -/
theorem millis_numeral (n : Int64) : millis (numeral n) = n.toInt := by
  have read := wholeNumber?_wholeText (Decode.fitsSigned_toInt n)
  have first : withOffset? (Decimal.wholeText n.toInt) = none := by
    simp [withOffset?, strictDate_wholeText]
  have second : withoutOffset? (Decimal.wholeText n.toInt) = none := by
    simp [withoutOffset?, looseDate_wholeText]
  have third : dateOnly? (Decimal.wholeText n.toInt) = none := by
    simp [dateOnly?, looseDate_wholeText]
  rw [millis, numeral, String.toList_ofList, Text.trim_plain (plain_wholeText _)]
  simp [first, second, third, read]

end Instant

def ResumeCandidate.timed (c : ResumeCandidate) (time : Json) : Json :=
  .object <|
    [("epic_id", .string c.epicId), ("priority", .int c.priority.toInt), ("updated_at", time)]
    ++ Json.optional "blocked_by" (fun ids => .array (ids.map .string)) c.blockedBy

namespace Decode

open Draft (ofJson ofMembers)
open Instant (numeral)
open Json (Spells)

section Times

def timeSlot : Slot := .needed "updated_at" updatedAt

theorem timeSlot_mem : timeSlot ∈ candidateSlots := by
  simp [timeSlot, candidateSlots]

theorem updatedAt_count (n : Int64) (src : Source) :
    updatedAt src (ofJson (.int n.toInt)) = .ok (numeral n) := by
  have sound : whole src (ofJson (.int n.toInt)) = .ok (ofJson (.int n.toInt)) := rfl
  rw [updatedAt, sound]
  exact if_pos (fitsSigned_toInt n)

theorem timeSlot_equates (n : Int64) (src : Source) :
    timeSlot.Equates src (ofJson (.int n.toInt)) (ofJson (.string (numeral n))) :=
  updatedAt_count n src

theorem timeSlot_refuses {d : Draft} (noText : ∀ s, d ≠ .string (some s))
    (noCount : ∀ n : Int64, d ≠ ofJson (.int n.toInt)) (src : Source) :
    timeSlot.Refuses src d := by
  change ∃ p, updatedAt src d = .error p
  by_cases sound : d.isSound src.depth = true
  · have whole : whole src d = .ok d := if_pos sound
    rw [updatedAt, whole]
    simp only [bind, Except.bind]
    split
    case h_1 s => exact absurd rfl (noText s)
    case h_2 n =>
      -- a number that fits is one of those that are no time here
      split
      case isTrue fits =>
        obtain ⟨m, rfl⟩ := Instant.exists_of_fitsSigned fits
        exact absurd rfl (noCount m)
      case isFalse => exact ⟨_, rfl⟩
    case h_3 => exact ⟨_, rfl⟩
  · have broken : whole src d = .error .malformed := if_neg sound
    exact ⟨.malformed, by rw [updatedAt, broken]; rfl⟩

end Times

section Candidates

variable {d : Draft} {src : Source} {c : ResumeCandidate}

theorem candidate_count (n : Int64) (place : Place candidateSlots timeSlot) (src : Source) :
    candidate src (place.holding (ofJson (.int n.toInt))) =
      candidate src (place.holding (ofJson (.string (numeral n)))) :=
  recordOf_holding candidate_determined (by decide) timeSlot_mem (timeSlot_equates n) place src

theorem candidate_refused (noText : ∀ s, d ≠ .string (some s))
    (noCount : ∀ n : Int64, d ≠ ofJson (.int n.toInt)) (place : Place candidateSlots timeSlot)
    (src : Source) : ∃ problem, candidate src (place.holding d) = .error problem :=
  recordOf_refused (by decide) timeSlot_mem (timeSlot_refuses noText noCount) place src

theorem candidate_updatedAt (place : Place candidateSlots timeSlot)
    (made : candidate src (place.holding d) = .ok c) :
    ∃ inner, updatedAt inner d = .ok c.updatedAt := by
  obtain ⟨r, held, made⟩ := recordOf_held (by decide) timeSlot_mem place made
  have name : timeSlot.name = "updated_at" := rfl
  simp only [bind_ok, Record.get, ← name, held] at made
  obtain ⟨_, -, _, -, _, read, _, -, made⟩ := made
  obtain rfl := Except.ok.inj made
  exact ⟨_, read⟩

def timePlace (c : ResumeCandidate) : Place candidateSlots timeSlot :=
  .member (ofMembers [("epic_id", .string c.epicId), ("priority", .int c.priority.toInt)])
    (ofMembers (Json.optional "blocked_by" (fun ids => .array (ids.map .string)) c.blockedBy))

theorem timed_holding (c : ResumeCandidate) (time : Json) :
    ofJson (c.timed time) = (timePlace c).holding (ofJson time) := rfl

theorem timed_gives {c : ResumeCandidate} {n : Int64} (kept : c.updatedAt = numeral n) {time : Json}
    (spelling : time = .int n.toInt ∨ time = .string (numeral n)) :
    Gives candidate 2 (ofJson (c.timed time)) c := by
  have written : c.toJson = c.timed (.string (numeral n)) := kept ▸ rfl
  have text : Gives candidate 2 (ofJson (c.timed (.string (numeral n)))) c :=
    written ▸ candidate_gives c
  rcases spelling with rfl | rfl
  · intro src wide
    rw [timed_holding, candidate_count, ← timed_holding]
    exact text src wide
  · exact text

/-- Times that count for the same are ranked alike. -/
theorem order_retimed {s t : String} (same : Instant.millis s = Instant.millis t)
    (c other : ResumeCandidate) :
    { c with updatedAt := s }.order other = { c with updatedAt := t }.order other ∧
      other.order { c with updatedAt := s } = other.order { c with updatedAt := t } := by
  simp only [ResumeCandidate.order, ResumeCandidate.millis, ResumeCandidate.isExecutable, same,
    and_self]

end Candidates

/-- A count of milliseconds is kept however it is written. The number and the text of its digits
make the same of an object or an array that holds them, a candidate that they make counts for just
so many milliseconds, and each text of such a candidate is read as that candidate, those among them
that are written of it. Blanks around the digits change neither what they stand for nor the rank
against any other candidate. What is neither a text nor a number of sixty-four bits is refused. -/
theorem millis_spelled_alike (n : Int64) :
    (∀ (place : Place candidateSlots timeSlot) (src : Source),
      candidate src (place.holding (ofJson (.int n.toInt))) =
        candidate src (place.holding (ofJson (.string (numeral n))))) ∧
    (∀ (place : Place candidateSlots timeSlot) (src : Source) (c : ResumeCandidate),
      candidate src (place.holding (ofJson (.int n.toInt))) = .ok c →
        c.updatedAt = numeral n ∧ c.millis = n.toInt) ∧
    (∀ (c : ResumeCandidate) (time : Json) (text : List Char), c.updatedAt = numeral n →
      time = .int n.toInt ∨ time = .string (numeral n) → Spells text (c.timed time) →
        decodeText candidate (String.ofList text) = .ok c) ∧
    (∀ c : ResumeCandidate, c.updatedAt = numeral n →
      decodeText candidate c.toJson.compact = .ok c ∧
        decodeText candidate c.toJson.pretty = .ok c) ∧
    (∀ (c other : ResumeCandidate) (before after : String),
      (∀ b ∈ (before ++ after).toList, Text.isBlank b = true) →
        Instant.millis (before ++ numeral n ++ after) = n.toInt ∧
        { c with updatedAt := before ++ numeral n ++ after }.order other =
          { c with updatedAt := numeral n }.order other ∧
        other.order { c with updatedAt := before ++ numeral n ++ after } =
          other.order { c with updatedAt := numeral n }) ∧
    ∀ (d : Draft) (place : Place candidateSlots timeSlot) (src : Source),
      (∀ s, d ≠ .string (some s)) → (∀ m : Int64, d ≠ ofJson (.int m.toInt)) →
        ∃ problem, candidate src (place.holding d) = .error problem := by
  refine ⟨candidate_count n, ?_, ?_, ?_, ?_, ?_⟩
  · intro place src c made
    obtain ⟨inner, read⟩ := candidate_updatedAt place made
    rw [updatedAt_count] at read
    have digits := Except.ok.inj read
    exact ⟨digits.symm, by rw [ResumeCandidate.millis, ← digits, Instant.millis_numeral]⟩
  · intro c time text kept spelling spelled
    exact (timed_gives kept spelling).decodeText (by decide) spelled
  · intro c _
    have back := (candidate_portable c).numbers
    have gives := candidate_gives c
    exact ⟨gives.compact (by decide) back, gives.pretty (by decide) back⟩
  · intro c other before after blank
    have around := Instant.millis_around (numeral n) blank
    exact ⟨around.trans (Instant.millis_numeral n), order_retimed around c other⟩
  · intro d place src noText noCount
    exact candidate_refused noText noCount place src

def earliest : ResumeCandidate := ⟨"7", 1, "-9223372036854775808", none⟩

def earliestCounted : Json := earliest.timed (.int (-9223372036854775808))

theorem millis_spelled_alike_earliest :
    earliest.updatedAt = numeral Int64.minValue ∧
    decodeText candidate earliestCounted.compact = .ok earliest ∧
    decodeText candidate earliest.toJson.compact = .ok earliest ∧
    candidate .value (ofJson earliestCounted) = .ok earliest ∧
    earliest.millis = -9223372036854775808 ∧
    Instant.millis (" \t" ++ numeral Int64.minValue ++ "\n") = -9223372036854775808 ∧
    ∃ problem, candidate .value
      ((timePlace earliest).holding (.number (some (.int 9223372036854775808)))) =
        .error problem := by
  obtain ⟨alike, counted, spelled, written, around, refused⟩ :=
    millis_spelled_alike Int64.minValue
  have kept : earliest.updatedAt = numeral Int64.minValue := by decide +kernel
  have blank : ∀ b ∈ (" \t" ++ "\n").toList, Text.isBlank b = true := List.all_eq_true.mp rfl
  have back : ∀ k ∈ earliestCounted.numbers, Json.ReadsBack k :=
    List.forall_mem_cons.mpr ⟨i64_readsBack 1,
      List.forall_mem_cons.mpr ⟨i64_readsBack Int64.minValue, nofun⟩⟩
  have read := spelled earliest _ _ kept (.inl rfl) (Json.write_spells _ back)
  have text : candidate .value
      ((timePlace earliest).holding (ofJson (.string (numeral Int64.minValue)))) =
        .ok earliest := by
    rw [← kept]
    rfl
  have made := (alike (timePlace earliest) .value).trans text
  refine ⟨kept, read, (written _ kept).1, made, (counted _ _ _ made).2,
    (around earliest earliest _ _ blank).1, refused _ _ _ nofun fun m same => ?_⟩
  have above := Number.int.inj (Option.some.inj (Draft.number.inj same))
  have bound := m.toInt_lt
  omega

end Decode

end ControlPlane
