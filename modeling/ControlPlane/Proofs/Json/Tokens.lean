import ControlPlane.Json.Reader
import ControlPlane.Json.Writer
import Mathlib.Data.List.TakeWhile
import Mathlib.Tactic.IntervalCases

/-!
# Quoted texts and numbers read back

A text between quotes is read back as it was before it was escaped. A whole number is
read back if it fits sixty-four bits, with a sign or without. For a float this is asked of
each number by itself, since not every decimal is read as the nearest float. What follows
a token is left for the reader, as long as it does not go on with a number.
-/

set_option autoImplicit false

namespace ControlPlane.Json

open Text (hexNumber? hexValue? digitsOf afterDigits natOf digitValue)

section Quotes

theorem join?_char (c : Char) (ps : List Piece) :
    join? (.char c :: ps) = (join? ps).map (c :: ·) := rfl

/-- A number that is no half of a surrogate pair is a character by itself. -/
theorem join?_unit {n : Nat} (low : n < 0xd800) (ps : List Piece) :
    join? (.unit n :: ps) = (join? ps).map (Char.ofNat n :: ·) := by
  -- the halves of pairs begin at 0xd800
  have whole : isHighHalf n = false ∧ isLowHalf n = false := by
    simp [isHighHalf, isLowHalf]
    omega
  rcases ps with _ | ⟨_ | _, ps⟩ <;> simp [join?, whole]

theorem hexNumber?_control : ∀ n < 0x20,
    hexNumber? ['0', '0', hexDigit (n / 16), hexDigit (n % 16)] = some n := by
  decide

/-- The reader meets an escaped character as one piece. -/
theorem pieces_escape (c : Char) (cs : List Char) : ∃ p : Piece,
    pieces (escape c ++ cs) = (pieces cs).map (fun (ps, rest) => (p :: ps, rest)) ∧
      ∀ ps, join? (p :: ps) = (join? ps).map (c :: ·) := by
  by_cases letter : c = '"' ∨ c = '\\' ∨ c = '\x08' ∨ c = '\x0c' ∨ c = '\n' ∨ c = '\r' ∨ c = '\t'
  · refine ⟨.char c, ?_, join?_char c⟩
    rcases letter with rfl | rfl | rfl | rfl | rfl | rfl | rfl <;>
      · simp [escape, pieces, unescape?]
        cases pieces cs <;> rfl
  · simp only [not_or] at letter
    obtain ⟨noQuote, noSlash, h₁, h₂, h₃, h₄, h₅⟩ := letter
    by_cases control : c.toNat < 0x20
    · refine ⟨.unit c.toNat, ?_, fun ps => ?_⟩
      · simp [escape, noQuote, noSlash, h₁, h₂, h₃, h₄, h₅, control, pieces,
          hexNumber?_control _ control]
        cases pieces cs <;> rfl
      · rw [join?_unit (by omega), Char.ofNat_toNat]
    · refine ⟨.char c, ?_, join?_char c⟩
      simp [escape, noQuote, noSlash, h₁, h₂, h₃, h₄, h₅, control, pieces]
      cases pieces cs <;> rfl

theorem pieces_escaped (cs rest : List Char) : ∃ ps,
    pieces (cs.flatMap escape ++ '"' :: rest) = some (ps, rest) ∧ join? ps = some cs := by
  induction cs with
  | nil => exact ⟨[], rfl, rfl⟩
  | cons c cs ih =>
    obtain ⟨ps, met, joined⟩ := ih
    obtain ⟨p, first, text⟩ := pieces_escape c (cs.flatMap escape ++ '"' :: rest)
    refine ⟨p :: ps, ?_, ?_⟩
    · rw [List.flatMap_cons, List.append_assoc, first, met]
      rfl
    · rw [text, joined]
      rfl

theorem quoted_quote (s : String) (rest : List Char) :
    quoted (s.toList.flatMap escape ++ '"' :: rest) = some (some s, rest) := by
  obtain ⟨ps, met, joined⟩ := pieces_escaped s.toList rest
  rw [quoted, met]
  simp [joined]

end Quotes

section Digits

theorem digitChar_isDigit : ∀ n < 10, (Nat.digitChar n).isDigit = true := by decide

theorem digitValue_digitChar : ∀ n < 10, digitValue (Nat.digitChar n) = n := by decide

theorem natOf_concat (ds : List Char) (c : Char) :
    natOf (ds ++ [c]) = 10 * natOf ds + digitValue c := by
  simp [natOf]

theorem natOf_digits (n : Nat) : natOf (Decimal.digits n) = n := by
  induction n using Decimal.digits.induct with
  | case1 n small =>
    rw [Decimal.digits, if_pos small]
    simp [natOf, digitValue_digitChar n small]
  | case2 n big ih =>
    rw [Decimal.digits, if_neg big, natOf_concat, ih, digitValue_digitChar _ (by omega)]
    omega

theorem digits_isDigit (n : Nat) : ∀ c ∈ Decimal.digits n, c.isDigit = true := by
  induction n using Decimal.digits.induct with
  | case1 n small =>
    rw [Decimal.digits, if_pos small]
    simpa using digitChar_isDigit n small
  | case2 n big ih =>
    rw [Decimal.digits, if_neg big]
    simp only [List.mem_append, List.mem_singleton]
    rintro c (front | rfl)
    · exact ih c front
    · exact digitChar_isDigit _ (by omega)

theorem digits_ne_nil (n : Nat) : Decimal.digits n ≠ [] := by
  rw [Decimal.digits]
  split <;> simp

/-- The only number that is written with a zero in front is zero. -/
theorem digits_head (n : Nat) : (Decimal.digits n).head? = some '0' → n = 0 := by
  induction n using Decimal.digits.induct with
  | case1 n small =>
    rw [Decimal.digits, if_pos small]
    intro zero
    have value := digitValue_digitChar n small
    rw [Option.some.inj zero] at value
    exact value.symm
  | case2 n big ih =>
    rw [Decimal.digits, if_neg big, List.head?_append]
    intro zero
    have front : (Decimal.digits (n / 10)).head? = some '0' := by
      cases h : Decimal.digits (n / 10) with
      | nil => exact absurd h (digits_ne_nil _)
      | cons c cs => simpa [h] using zero
    have := ih front
    omega

end Digits

section Numerals

def Apart (rest : List Char) : Prop :=
  ∀ c ∈ rest.head?, c.isDigit = false ∧ c ≠ '.' ∧ c ≠ 'e' ∧ c ≠ 'E'

theorem digitsOf_append {rest : List Char} (apart : Apart rest) (cs : List Char) :
    digitsOf (cs ++ rest) = digitsOf cs := by
  induction cs with
  | nil =>
    cases rest with
    | nil => rfl
    | cons c rest => simp [digitsOf, (apart c rfl).1]
  | cons c cs ih =>
    simp only [digitsOf, List.cons_append, List.takeWhile_cons] at ih ⊢
    rw [ih]

theorem afterDigits_append {rest : List Char} (apart : Apart rest) (cs : List Char) :
    afterDigits (cs ++ rest) = afterDigits cs ++ rest := by
  induction cs with
  | nil =>
    cases rest with
    | nil => rfl
    | cons c rest => simp [afterDigits, (apart c rfl).1]
  | cons c cs ih =>
    simp only [afterDigits, List.cons_append, List.dropWhile_cons] at ih ⊢
    split <;> simp_all

theorem fractionPart_append {rest : List Char} (apart : Apart rest) {cs left : List Char}
    {f : Option (List Char)} (h : fractionPart cs = some (f, left)) :
    fractionPart (cs ++ rest) = some (f, left ++ rest) := by
  have plain : ∀ c, c ≠ '.' → ∀ cs, fractionPart (c :: cs) = some (none, c :: cs) := by
    intro c noPoint cs
    simp [fractionPart, noPoint]
  cases cs with
  | nil =>
    cases h
    cases rest with
    | nil => rfl
    | cons c rest => exact plain c (apart c rfl).2.1 rest
  | cons c cs =>
    by_cases point : c = '.'
    · subst point
      simp only [fractionPart] at h
      split at h
      · cases h
      case isFalse digits =>
        cases h
        simp [fractionPart, digitsOf_append apart, afterDigits_append apart, digits]
    · rw [plain c point] at h
      cases h
      exact plain c point _

def exponentDigits (sign : Int) (cs : List Char) : Option (Option Int × List Char) :=
  if (digitsOf cs).isEmpty then none
  else some (some (sign * natOf (digitsOf cs)), afterDigits cs)

theorem exponentDigits_append {rest : List Char} (apart : Apart rest) {cs left : List Char}
    {sign : Int} {e : Option Int} (h : exponentDigits sign cs = some (e, left)) :
    exponentDigits sign (cs ++ rest) = some (e, left ++ rest) := by
  rw [exponentDigits] at h ⊢
  rw [digitsOf_append apart, afterDigits_append apart]
  split at h
  · cases h
  · cases h
    simp_all

theorem exponentPart_mark {c : Char} (mark : c = 'e' ∨ c = 'E') (cs : List Char) :
    exponentPart (c :: cs) =
      match cs with
      | '+' :: more => exponentDigits 1 more
      | '-' :: more => exponentDigits (-1) more
      | _ => exponentDigits 1 cs := by
  cases cs with
  | nil => simp [exponentPart, mark, exponentDigits]
  | cons d cs =>
    by_cases plus : d = '+'
    · subst plus
      simp [exponentPart, mark, exponentDigits]
    · by_cases minus : d = '-'
      · subst minus
        simp [exponentPart, mark, exponentDigits]
      · simp [exponentPart, mark, plus, minus, exponentDigits]

theorem exponentPart_plain {c : Char} (low : c ≠ 'e') (high : c ≠ 'E') (cs : List Char) :
    exponentPart (c :: cs) = some (none, c :: cs) := by
  simp [exponentPart, low, high]

theorem exponentPart_append {rest : List Char} (apart : Apart rest) {cs left : List Char}
    {e : Option Int} (h : exponentPart cs = some (e, left)) :
    exponentPart (cs ++ rest) = some (e, left ++ rest) := by
  cases cs with
  | nil =>
    cases h
    cases rest with
    | nil => rfl
    | cons c rest => exact exponentPart_plain (apart c rfl).2.2.1 (apart c rfl).2.2.2 rest
  | cons c cs =>
    by_cases mark : c = 'e' ∨ c = 'E'
    · rw [exponentPart_mark mark] at h
      rw [List.cons_append, exponentPart_mark mark]
      split at h
      · exact exponentDigits_append apart h
      · exact exponentDigits_append apart h
      case h_3 noPlus noMinus =>
        cases cs with
        | nil => cases h
        | cons d cs =>
          have unsigned := exponentDigits_append apart h
          simp_all
    · rw [not_or] at mark
      rw [exponentPart_plain mark.1 mark.2] at h
      cases h
      exact exponentPart_plain mark.1 mark.2 _

def unsigned (negative : Bool) (cs : List Char) : Option (Numeral × List Char) := do
  let whole := digitsOf cs
  if whole.isEmpty || (whole.head? = some '0' && whole.length ≠ 1) then none
  else
    let (fraction, cs) ← fractionPart (afterDigits cs)
    let (exponent, cs) ← exponentPart cs
    some ({ negative, whole, fraction, exponent }, cs)

theorem numeral_negative (cs : List Char) : numeral ('-' :: cs) = unsigned true cs := rfl

theorem numeral_positive {c : Char} (h : c ≠ '-') (cs : List Char) :
    numeral (c :: cs) = unsigned false (c :: cs) := by
  simp [numeral, unsigned, h]

theorem unsigned_append {rest : List Char} (apart : Apart rest) {cs left : List Char}
    {negative : Bool} {n : Numeral} (h : unsigned negative cs = some (n, left)) :
    unsigned negative (cs ++ rest) = some (n, left ++ rest) := by
  unfold unsigned at h ⊢
  rw [digitsOf_append apart, afterDigits_append apart]
  dsimp only at h ⊢
  split at h
  · cases h
  · rename_i some
    rw [if_neg some]
    obtain ⟨⟨f, cs'⟩, hf, h⟩ := Option.bind_eq_some_iff.mp h
    obtain ⟨⟨e, cs''⟩, he, h⟩ := Option.bind_eq_some_iff.mp h
    cases h
    simp [fractionPart_append apart hf, exponentPart_append apart he]

theorem numeral_append {rest : List Char} (apart : Apart rest) {cs left : List Char}
    {n : Numeral} (h : numeral cs = some (n, left)) :
    numeral (cs ++ rest) = some (n, left ++ rest) := by
  cases cs with
  | nil => cases h
  | cons c cs =>
    by_cases minus : c = '-'
    · subst minus
      exact unsigned_append apart h
    · rw [numeral_positive minus] at h
      rw [List.cons_append, numeral_positive minus]
      exact unsigned_append apart h

theorem unsigned_digits (negative : Bool) (n : Nat) :
    unsigned negative (Decimal.digits n) =
      some (⟨negative, Decimal.digits n, none, none⟩, []) := by
  have all := digits_isDigit n
  have front : digitsOf (Decimal.digits n) = Decimal.digits n := by
    rw [digitsOf, List.takeWhile_eq_self_iff.mpr all]
  have nothing : afterDigits (Decimal.digits n) = [] := by
    rw [afterDigits, List.dropWhile_eq_nil_iff.mpr all]
  have filled : (Decimal.digits n).isEmpty = false := by
    simpa using digits_ne_nil n
  have short : (Decimal.digits n).head? = some '0' → (Decimal.digits n).length = 1 := by
    intro zero
    rw [digits_head n zero]
    simp [Decimal.digits]
  simp only [unsigned, front, nothing, filled, fractionPart, exponentPart]
  simpa using short

theorem numeral_wholeText (n : Int) :
    numeral (Decimal.wholeText n) =
      some (⟨n < 0, Decimal.digits n.natAbs, none, none⟩, []) := by
  rw [Decimal.wholeText]
  split
  case isTrue negative => simp [numeral_negative, unsigned_digits, negative]
  case isFalse positive =>
    cases h : Decimal.digits n.natAbs with
    | nil => exact absurd h (digits_ne_nil _)
    | cons c cs =>
      have digit := digits_isDigit n.natAbs c (by simp [h])
      have plain : c ≠ '-' := by
        rintro rfl
        cases digit
      rw [numeral_positive plain, ← h, unsigned_digits]
      simp [positive]

theorem numeral_head {cs left : List Char} {n : Numeral} (h : numeral cs = some (n, left)) :
    ∃ c more, cs = c :: more ∧ (c = '-' ∨ c.isDigit = true) := by
  cases cs with
  | nil => cases h
  | cons c cs =>
    refine ⟨c, cs, rfl, ?_⟩
    by_cases minus : c = '-'
    · exact .inl minus
    · rw [numeral_positive minus] at h
      cases digit : c.isDigit with
      | true => exact .inr rfl
      | false => simp [unsigned, digitsOf, digit] at h

end Numerals

section Numbers

/-- The number is read as itself from the text that is written for it. -/
def ReadsBack (n : Number) : Prop := seeNumber (numberText n) = (.number (some n), some [])

theorem int_readsBack {n : Int} (low : -9223372036854775808 ≤ n)
    (high : n ≤ 18446744073709551615) : ReadsBack (.int n) := by
  have value : Numeral.value ⟨n < 0, Decimal.digits n.natAbs, none, none⟩ = some (.int n) := by
    simp only [Numeral.value, natOf_digits]
    split
    case isTrue negative =>
      have negative := of_decide_eq_true negative
      rw [if_neg (by omega), show -(n.natAbs : Int) = n by omega]
    case isFalse positive =>
      have positive : ¬ n < 0 := by simpa using positive
      rw [if_pos (by omega), show (n.natAbs : Int) = n by omega]
  rw [ReadsBack, numberText, seeNumber, numeral_wholeText]
  exact congrArg (fun n => (Draft.number n, some [])) value

theorem ReadsBack.numeral {n : Number} (h : ReadsBack n) :
    ∃ m, Json.numeral (numberText n) = some (m, []) ∧ m.value = some n := by
  rw [ReadsBack, seeNumber] at h
  split at h
  case h_1 m rest met =>
    obtain ⟨value, rfl⟩ : m.value = some n ∧ rest = [] := by simpa using h
    exact ⟨m, met, value⟩
  case h_2 => cases h

theorem ReadsBack.append {n : Number} (h : ReadsBack n) {rest : List Char}
    (apart : Apart rest) :
    seeNumber (numberText n ++ rest) = (.number (some n), some rest) := by
  obtain ⟨m, met, value⟩ := h.numeral
  rw [seeNumber, numeral_append apart met]
  simp [value]

theorem float_readsBack {x : Float} {t : List Char} {m : Numeral}
    (text : Decimal.floatText x = some t) (met : Json.numeral t = some (m, []))
    (value : m.value = some (.float x)) : ReadsBack (.float x) := by
  rw [ReadsBack, numberText, text]
  simp [seeNumber, met, value]

/-- A float between zero and one that is written with one decimal. -/
theorem tenths_readsBack {x : Float} {d : Nat} (digit : d < 10)
    (text : Decimal.floatText x = some ['0', '.', Nat.digitChar d])
    (near : (UInt64.ofNat d).toFloat / Decimal.powerOfTen 1 = x) : ReadsBack (.float x) := by
  have met : Json.numeral ['0', '.', Nat.digitChar d] =
      some (⟨false, ['0'], some [Nat.digitChar d], none⟩, []) := by
    clear text near
    interval_cases d <;> rfl
  have size : Decimal.Scaled.ofDigits ['0'] [Nat.digitChar d] 0 = ⟨d, -1⟩ := by
    clear text near
    interval_cases d <;> rfl
  have float : Decimal.Scaled.toFloat? ⟨d, -1⟩ = some x := by
    change some (Decimal.dividedBy _ 1) = _
    rw [Decimal.dividedBy, if_pos (by decide), near]
  have value : Numeral.value ⟨false, ['0'], some [Nat.digitChar d], none⟩ = some (.float x) := by
    change Option.map _ (Decimal.Scaled.ofDigits ['0'] [Nat.digitChar d] 0).toFloat? = _
    rw [size, float]
    rfl
  exact float_readsBack text met value

theorem zero_readsBack : ReadsBack (.float 0.0) :=
  tenths_readsBack (d := 0) (by decide) (by decide +kernel) rfl

end Numbers

end ControlPlane.Json
