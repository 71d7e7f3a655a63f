import Mathlib.Data.List.Induction
import Mathlib.Data.List.TakeWhile
import Mathlib.Tactic.Positivity
import Mathlib.Tactic.Ring
import ControlPlane.Text.Blank
import ControlPlane.Proofs.Json.Tokens

/-!
# Numbers of a fixed width, and blanks around a text

The number of a row of digits is known from its parts: what is put behind shifts what stands in
front, and what is cut off behind divides it. A number written at a fixed width with zeros in
front is read back by the readers of digits, of which each stops where the width ends. Blanks
around a text are lost by trimming, and a text without any is kept as it is.
-/

set_option autoImplicit false

namespace ControlPlane.Text

section Numbers

theorem natOf_append (ds es : List Char) :
    natOf (ds ++ es) = natOf ds * 10 ^ es.length + natOf es := by
  induction es using List.reverseRecOn with
  | nil => simp [natOf]
  | append_singleton es c ih =>
    rw [← List.append_assoc, Json.natOf_concat, Json.natOf_concat, ih]
    simp only [List.length_append, List.length_singleton, pow_succ]
    ring

theorem digitValue_lt {c : Char} (digit : c.isDigit = true) : digitValue c < 10 := by
  simp only [Char.isDigit, Bool.and_eq_true, decide_eq_true_eq] at digit
  have upper : c.toNat ≤ 57 := digit.2
  have zero : '0'.toNat = 48 := rfl
  rw [digitValue]
  omega

theorem natOf_lt {ds : List Char} (digits : ∀ c ∈ ds, c.isDigit = true) :
    natOf ds < 10 ^ ds.length := by
  induction ds using List.reverseRecOn with
  | nil => decide
  | append_singleton ds c ih =>
    have front := ih fun d inside => digits d (by simp [inside])
    have last := digitValue_lt (digits c (by simp))
    rw [Json.natOf_concat, List.length_append, List.length_singleton, pow_succ]
    omega

/-- The digits in front are the number, divided by what the others stand for. -/
theorem natOf_take {ds : List Char} (digits : ∀ c ∈ ds, c.isDigit = true) (count : Nat) :
    natOf (ds.take count) = natOf ds / 10 ^ (ds.length - count) := by
  have behind : natOf (ds.drop count) < 10 ^ (ds.drop count).length :=
    natOf_lt fun c inside => digits c (List.mem_of_mem_drop inside)
  have whole := natOf_append (ds.take count) (ds.drop count)
  rw [List.take_append_drop] at whole
  rw [List.length_drop] at behind whole
  rw [whole, Nat.mul_comm, Nat.mul_add_div (by positivity), Nat.div_eq_of_lt behind, Nat.add_zero]

end Numbers

section Padded

def padded : Nat → Nat → List Char
  | 0, _ => []
  | width + 1, n => padded width (n / 10) ++ [Nat.digitChar (n % 10)]

@[simp]
theorem padded_length (width n : Nat) : (padded width n).length = width := by
  induction width generalizing n with
  | zero => rfl
  | succ width ih => simp [padded, ih]

theorem padded_isDigit {width n : Nat} : ∀ c ∈ padded width n, c.isDigit = true := by
  induction width generalizing n with
  | zero => simp [padded]
  | succ width ih =>
    simp only [padded, List.mem_append, List.mem_singleton]
    rintro c (front | rfl)
    · exact ih c front
    · exact Json.digitChar_isDigit _ (Nat.mod_lt n (by decide))

/-- A number that fits the width is the number of its digits. -/
theorem natOf_padded {width n : Nat} (fits : n < 10 ^ width) : natOf (padded width n) = n := by
  induction width generalizing n with
  | zero =>
    rw [pow_zero, Nat.lt_one_iff] at fits
    rw [fits]
    rfl
  | succ width ih =>
    rw [pow_succ] at fits
    rw [padded, Json.natOf_concat, ih (by omega),
      Json.digitValue_digitChar _ (Nat.mod_lt n (by decide))]
    omega

theorem exactly_padded {width n : Nat} (fits : n < 10 ^ width) (rest : List Char) :
    exactly width (padded width n ++ rest) = some (n, rest) := by
  have digits : (padded width n).all Char.isDigit = true := List.all_eq_true.mpr padded_isDigit
  simp [exactly, natOf_padded fits, digits]

/-- A reader of up to as many digits as there are leaves what follows them, digits or not. -/
theorem upTo_padded {width n : Nat} (wide : width ≠ 0) (fits : n < 10 ^ width)
    (rest : List Char) : upTo width (padded width n ++ rest) = some (n, rest) := by
  have all : digitsOf (padded width n) = padded width n :=
    List.takeWhile_eq_self_iff.mpr padded_isDigit
  have filled : padded width n ≠ [] := by
    rw [← List.length_pos_iff, padded_length]
    omega
  simp [upTo, all, natOf_padded fits, filled]

theorem allDigits_append {ds rest : List Char} (digits : ∀ c ∈ ds, c.isDigit = true)
    (filled : ds ≠ []) (apart : Json.Apart rest) : allDigits (ds ++ rest) = some (ds, rest) := by
  have all : digitsOf ds = ds := List.takeWhile_eq_self_iff.mpr digits
  have nothing : afterDigits ds = [] := List.dropWhile_eq_nil_iff.mpr digits
  simp [allDigits, Json.digitsOf_append apart, Json.afterDigits_append apart, all, nothing, filled]

end Padded

section Blanks

variable {before after cs : List Char}

theorem isBlank_digit {c : Char} (digit : c.isDigit = true) : isBlank c = false := by
  simp only [Char.isDigit, Bool.and_eq_true, decide_eq_true_eq] at digit
  have lower : 48 ≤ c.toNat := digit.1
  have upper : c.toNat ≤ 57 := digit.2
  simp only [isBlank, Bool.or_eq_false_iff, Bool.and_eq_false_iff, decide_eq_false_iff_not]
  omega

def Plain (cs : List Char) : Prop := ∀ c ∈ cs, isBlank c = false

@[simp]
theorem plain_nil : Plain [] := by simp [Plain]

@[simp]
theorem plain_cons {c : Char} : Plain (c :: cs) ↔ isBlank c = false ∧ Plain cs :=
  List.forall_mem_cons

@[simp]
theorem plain_append {ds : List Char} : Plain (cs ++ ds) ↔ Plain cs ∧ Plain ds :=
  List.forall_mem_append

theorem plain_digits (digits : ∀ c ∈ cs, c.isDigit = true) : Plain cs :=
  fun c inside => isBlank_digit (digits c inside)

@[simp]
theorem plain_padded (width n : Nat) : Plain (padded width n) :=
  plain_digits padded_isDigit

theorem trimStart_append (blank : ∀ c ∈ before, isBlank c = true) (cs : List Char) :
    trimStart (before ++ cs) = trimStart cs :=
  List.dropWhile_append_of_pos blank

theorem trimStart_eq_self (front : ∀ c ∈ cs.head?, isBlank c = false) : trimStart cs = cs := by
  cases cs with
  | nil => rfl
  | cons c cs => simp [trimStart, front c rfl]

/-- Blanks around a text are lost. -/
theorem trim_around (blankBefore : ∀ c ∈ before, isBlank c = true)
    (blankAfter : ∀ c ∈ after, isBlank c = true) (cs : List Char) :
    trim (before ++ cs ++ after) = trim cs := by
  have turned : ∀ c ∈ after.reverse, isBlank c = true := fun c inside =>
    blankAfter c (List.mem_reverse.mp inside)
  have front : trimStart (cs ++ after) =
      if (trimStart cs).isEmpty then [] else trimStart cs ++ after := by
    rw [trimStart, trimStart, List.dropWhile_append, List.dropWhile_eq_nil_iff.mpr blankAfter]
  rw [List.append_assoc, trim, trim, trimStart_append blankBefore, front]
  split
  case isTrue empty => rw [List.isEmpty_iff.mp empty]
  case isFalse => rw [List.reverse_append, trimStart_append turned]

/-- A text that begins and ends with no blank is kept, whatever stands between. -/
theorem trim_between {front back : List Char} (filledFront : front ≠ []) (filledBack : back ≠ [])
    (plainFront : Plain front) (plainBack : Plain back) (between : List Char) :
    trim (front ++ between ++ back) = front ++ between ++ back := by
  have begun : ∀ c ∈ (front ++ between ++ back).head?, isBlank c = false := by
    rw [List.append_assoc, List.head?_append_of_ne_nil _ filledFront]
    exact fun c first => plainFront c (List.mem_of_mem_head? first)
  have ended : ∀ c ∈ (front ++ between ++ back).reverse.head?, isBlank c = false := by
    rw [List.head?_reverse, List.getLast?_append_of_ne_nil _ filledBack]
    exact fun c last => plainBack c (List.mem_of_getLast? last)
  rw [trim, trimStart_eq_self begun, trimStart_eq_self ended, List.reverse_reverse]

theorem trim_plain (plain : Plain cs) : trim cs = cs := by
  have front {ds : List Char} (plain : Plain ds) : trimStart ds = ds :=
    trimStart_eq_self fun c first => plain c (List.mem_of_mem_head? first)
  have turned : Plain cs.reverse := fun c inside => plain c (List.mem_reverse.mp inside)
  rw [trim, front plain, front turned, List.reverse_reverse]

theorem trimStart_parts (cs : List Char) :
    ∃ before, (∀ c ∈ before, isBlank c = true) ∧ cs = before ++ trimStart cs :=
  ⟨cs.takeWhile isBlank, fun _ => List.mem_takeWhile_imp, List.takeWhile_append_dropWhile.symm⟩

/-- A text is what is left of it by trimming with the blanks around. -/
theorem trim_parts (cs : List Char) :
    ∃ before after, (∀ c ∈ before ++ after, isBlank c = true) ∧
      cs = before ++ trim cs ++ after := by
  obtain ⟨before, front, first⟩ := trimStart_parts cs
  obtain ⟨turned, back, last⟩ := trimStart_parts (trimStart cs).reverse
  have rest : trimStart cs = trim cs ++ turned.reverse := by
    rw [trim, ← List.reverse_append, ← last, List.reverse_reverse]
  refine ⟨before, turned.reverse, ?_, ?_⟩
  · rw [List.forall_mem_append]
    exact ⟨front, fun c inside => back c (List.mem_reverse.mp inside)⟩
  · rw [List.append_assoc, ← rest, ← first]

end Blanks

end ControlPlane.Text
