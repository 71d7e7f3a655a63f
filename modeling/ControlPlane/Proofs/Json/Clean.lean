import ControlPlane.Proofs.Json.Tokens

/-!
# Compact text has no control characters

Of the characters below the blank none is left by the writer: those in a string are escaped, the
others are never written. So compact text has no line break and no code for a terminal in it,
whatever stands in the value.
-/

set_option autoImplicit false

namespace ControlPlane

namespace Text

def Clean (cs : List Char) : Prop := ∀ c ∈ cs, 0x20 ≤ c.toNat

variable {cs ds : List Char}

theorem clean_of_all (all : (cs.all fun c => 0x20 ≤ c.toNat) = true) : Clean cs := by
  simpa [Clean] using all

/-- A literal is looked at as its characters, not as the bytes that it is kept as. -/
theorem clean_literal (all : (cs.all fun c => 0x20 ≤ c.toNat) = true) :
    Clean (String.ofList cs).toList := by
  rw [String.toList_ofList]
  exact clean_of_all all

@[simp]
theorem clean_nil : Clean [] := by simp [Clean]

@[simp]
theorem clean_cons {c : Char} : Clean (c :: cs) ↔ 0x20 ≤ c.toNat ∧ Clean cs :=
  List.forall_mem_cons

@[simp]
theorem clean_append : Clean (cs ++ ds) ↔ Clean cs ∧ Clean ds :=
  List.forall_mem_append

theorem clean_digits (digits : ∀ c ∈ cs, c.isDigit = true) : Clean cs := by
  intro c inside
  have digit := digits c inside
  simp only [Char.isDigit, Bool.and_eq_true, decide_eq_true_eq] at digit
  have lower : 48 ≤ c.toNat := digit.1
  omega

theorem clean_replicate (count : Nat) {c : Char} (clean : 0x20 ≤ c.toNat) :
    Clean (List.replicate count c) := by
  intro d inside
  rwa [List.eq_of_mem_replicate inside]

theorem Clean.take (clean : Clean cs) (count : Nat) : Clean (cs.take count) :=
  fun c inside => clean c (List.mem_of_mem_take inside)

theorem Clean.drop (clean : Clean cs) (count : Nat) : Clean (cs.drop count) :=
  fun c inside => clean c (List.mem_of_mem_drop inside)

theorem Clean.unbroken (clean : Clean cs) : '\n' ∉ cs :=
  fun broken => absurd (clean _ broken) (by decide)

end Text

namespace Json

open Text

section Numbers

theorem digits_clean (n : Nat) : Clean (Decimal.digits n) :=
  clean_digits (digits_isDigit n)

theorem wholeText_clean (n : Int) : Clean (Decimal.wholeText n) := by
  rw [Decimal.wholeText]
  split <;> simp [digits_clean]

theorem layout_clean (c : Nat) (k : Int) : Clean (Decimal.layout c k) := by
  have digits := digits_clean c
  rw [Decimal.layout]
  split
  case isTrue positional =>
    split_ifs
    · simp [digits, clean_replicate]
    · simp [digits.take, digits.drop]
    · simp [digits, clean_replicate]
  case isFalse scientific =>
    generalize Decimal.digits c = ds at digits ⊢
    rcases ds with _ | ⟨d, _ | ⟨e, rest⟩⟩ <;> dsimp only <;> split <;>
      simp_all [digits_clean]

theorem floatText_clean {x : Float} {t : List Char} (written : Decimal.floatText x = some t) :
    Clean t := by
  rw [Decimal.floatText] at written
  split at written
  case isFalse => cases written
  case isTrue =>
    obtain rfl := Option.some.inj written
    have body : Clean (if (Decimal.parts x).1 = 0 then ['0', '.', '0']
        else Decimal.layout (Decimal.shortest x).1 (Decimal.shortest x).2) := by
      split
      · exact clean_of_all rfl
      · exact layout_clean _ _
    split
    · exact clean_cons.mpr ⟨by decide, body⟩
    · exact body

theorem numberText_clean (n : Number) : Clean (numberText n) := by
  cases n with
  | int n => exact wholeText_clean n
  | float x =>
    rw [numberText]
    cases written : Decimal.floatText x with
    | none => exact clean_of_all rfl
    | some t => exact floatText_clean written

end Numbers

section Strings

theorem hexDigit_clean : ∀ n < 16, 0x20 ≤ (hexDigit n).toNat := by decide

theorem escape_clean (c : Char) : Clean (escape c) := by
  rw [escape]
  split_ifs with quote backslash back feed line turn tab control
  iterate 7 exact clean_of_all rfl
  · have high := hexDigit_clean (c.toNat / 16) (by omega)
    have low := hexDigit_clean (c.toNat % 16) (by omega)
    simp [high, low]
  · exact clean_cons.mpr ⟨not_lt.mp control, clean_nil⟩

theorem quote_clean (s : String) : Clean (quote s) := by
  have inner : Clean (s.toList.flatMap escape) := by
    intro c inside
    obtain ⟨d, -, written⟩ := List.mem_flatMap.mp inside
    exact escape_clean d c written
  simp [quote, inner]

end Strings

mutual

theorem write_clean : ∀ j : Json, Clean (write j)
  | .null => clean_of_all rfl
  | .bool true | .bool false => clean_of_all rfl
  | .number n => numberText_clean n
  | .string s => quote_clean s
  | .array [] | .object [] => clean_of_all rfl
  | .array (j :: js) => by simp [write, write_clean j, writeItems_clean js]
  | .object ((k, v) :: ms) => by simp [write, quote_clean, write_clean v, writeMembers_clean ms]

theorem writeItems_clean : ∀ js : List Json, Clean (writeItems js)
  | [] => clean_of_all rfl
  | j :: js => by simp [writeItems, write_clean j, writeItems_clean js]

theorem writeMembers_clean : ∀ ms : List (String × Json), Clean (writeMembers ms)
  | [] => clean_of_all rfl
  | (k, v) :: ms => by simp [writeMembers, quote_clean, write_clean v, writeMembers_clean ms]

end

end Json

end ControlPlane
