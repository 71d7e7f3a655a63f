import ControlPlane.Proofs.Json.Tokens

/-!
# Texts of a value

A value has many texts, which differ in the blanks between their tokens. The reader makes
of each of them the draft of the value. Compact and pretty text are two of them, so what
is written is read back, given that this is so of every number in it.
-/

set_option autoImplicit false

namespace ControlPlane.Json

open Draft (ofJson ofItems ofMembers)

def Blank (gap : List Char) : Prop := ∀ c ∈ gap, isSpace c = true

mutual

/-- A text of a value. Blanks may stand where pretty text has them: where an item or a member
begins, where an array or an object ends, and after a colon. -/
inductive Spells : List Char → Json → Prop
  | null : Spells "null".toList .null
  | bool (b : Bool) : Spells (boolText b) (.bool b)
  | number {n : Number} (back : ReadsBack n) : Spells (numberText n) (.number n)
  | string (s : String) : Spells (quote s) (.string s)
  | noItems : Spells ['[', ']'] (.array [])
  | items {gap t rest : List Char} {j : Json} {js : List Json} (blank : Blank gap)
      (first : Spells t j) (others : SpellsItems rest js) :
      Spells ('[' :: gap ++ t ++ rest) (.array (j :: js))
  | noMembers : Spells ['{', '}'] (.object [])
  | members {gap wide t rest : List Char} {k : String} {v : Json} {ms : List (String × Json)}
      (blank : Blank gap) (apart : Blank wide) (first : Spells t v)
      (others : SpellsMembers rest ms) :
      Spells ('{' :: gap ++ quote k ++ ':' :: wide ++ t ++ rest) (.object ((k, v) :: ms))

inductive SpellsItems : List Char → List Json → Prop
  | close {gap : List Char} (blank : Blank gap) : SpellsItems (gap ++ [']']) []
  | next {gap t rest : List Char} {j : Json} {js : List Json} (blank : Blank gap)
      (first : Spells t j) (others : SpellsItems rest js) :
      SpellsItems (',' :: gap ++ t ++ rest) (j :: js)

inductive SpellsMembers : List Char → List (String × Json) → Prop
  | close {gap : List Char} (blank : Blank gap) : SpellsMembers (gap ++ ['}']) []
  | next {gap wide t rest : List Char} {k : String} {v : Json} {ms : List (String × Json)}
      (blank : Blank gap) (apart : Blank wide) (first : Spells t v)
      (others : SpellsMembers rest ms) :
      SpellsMembers (',' :: gap ++ quote k ++ ':' :: wide ++ t ++ rest) ((k, v) :: ms)

end

section Blanks

theorem skipSpace_blank {gap : List Char} (blank : Blank gap) (cs : List Char) :
    skipSpace (gap ++ cs) = skipSpace cs := by
  induction gap with
  | nil => rfl
  | cons c gap ih =>
    rw [List.cons_append, skipSpace, List.dropWhile_cons_of_pos (blank c (by simp))]
    exact ih fun d hd => blank d (List.mem_cons_of_mem c hd)

theorem skipSpace_token {c : Char} (token : isSpace c = false) (cs : List Char) :
    skipSpace (c :: cs) = c :: cs := by
  simp [skipSpace, token]

theorem seeValue_blank {gap : List Char} (blank : Blank gap) (fuel : Nat) (cs : List Char) :
    seeValue fuel (gap ++ cs) = seeValue fuel cs := by
  cases fuel with
  | zero => rfl
  | succ fuel => rw [seeValue, seeValue, skipSpace_blank blank]

end Blanks

section Reading

def ReadsAs (t : List Char) (d : Draft) : Prop :=
  ∀ fuel rest, 2 * t.length ≤ fuel → Apart rest → seeValue fuel (t ++ rest) = (d, some rest)

theorem front_ne {c : Char} (front : c = '-' ∨ c.isDigit = true) {d : Char} (plain : d ≠ '-')
    (letter : d.isDigit = false) : c ≠ d := by
  rintro rfl
  simp [plain, letter] at front

theorem front_token {c : Char} (front : c = '-' ∨ c.isDigit = true) : isSpace c = false := by
  simp [isSpace, front_ne front]

theorem seeValue_number (fuel : Nat) {c : Char} (front : c = '-' ∨ c.isDigit = true)
    (cs : List Char) : seeValue (fuel + 1) (c :: cs) = seeNumber (c :: cs) := by
  rw [seeValue, skipSpace_token (front_token front)]
  split
  case h_7 => rfl
  all_goals
    rename_i h
    exact absurd (List.cons.inj h).1 (front_ne front (by decide) rfl)

theorem seeValue_items {gap cs rest : List Char} {fuel : Nat} {c : Char}
    {items : List Draft × Bool} (blank : Blank gap) (token : isSpace c = false) (begins : c ≠ ']')
    (inner : seeItems fuel (c :: cs) = (items, some rest)) :
    seeValue (fuel + 1) ('[' :: gap ++ c :: cs) = (.array items.1 items.2, some rest) := by
  rw [seeValue, List.cons_append, skipSpace_token rfl]
  simp [skipSpace_blank blank, skipSpace_token token, begins, inner]

theorem seeItems_close {gap cs rest : List Char} {fuel : Nat} {item : Draft}
    (blank : Blank gap) (seen : seeValue fuel cs = (item, some (gap ++ ']' :: rest))) :
    seeItems (fuel + 1) cs = (([item], true), some rest) := by
  rw [seeItems, seen]
  simp [skipSpace_blank blank, skipSpace_token (c := ']') rfl]

theorem seeItems_next {gap cs more rest : List Char} {fuel : Nat} {c : Char} {item : Draft}
    {items : List Draft × Bool} (blank : Blank gap) (token : isSpace c = false) (begins : c ≠ ']')
    (seen : seeValue fuel cs = (item, some (',' :: gap ++ c :: more)))
    (inner : seeItems fuel (c :: more) = (items, some rest)) :
    seeItems (fuel + 1) cs = ((item :: items.1, items.2), some rest) := by
  rw [seeItems, seen]
  simp [skipSpace_blank blank, skipSpace_token (c := ',') rfl, skipSpace_token token, begins, inner]

theorem seeValue_members {gap cs rest : List Char} {fuel : Nat}
    {members : List (Option String × Draft) × Bool} (blank : Blank gap)
    (inner : seeMembers fuel cs = (members, some rest)) :
    seeValue (fuel + 1) ('{' :: gap ++ '"' :: cs) = (.object members.1 members.2, some rest) := by
  rw [seeValue, List.cons_append, skipSpace_token rfl]
  simp [skipSpace_blank blank, skipSpace_token (c := '"') rfl, inner]

theorem seeMembers_close {gap cs more rest : List Char} {fuel : Nat} {key : Option String}
    {value : Draft} (blank : Blank gap) (name : quoted cs = some (key, ':' :: more))
    (seen : seeValue fuel more = (value, some (gap ++ '}' :: rest))) :
    seeMembers (fuel + 1) cs = (([(key, value)], true), some rest) := by
  rw [seeMembers, name]
  simp [skipSpace_blank blank, skipSpace_token (c := ':') rfl, skipSpace_token (c := '}') rfl, seen]

theorem seeMembers_next {gap cs more left rest : List Char} {fuel : Nat} {key : Option String}
    {value : Draft} {members : List (Option String × Draft) × Bool} (blank : Blank gap)
    (name : quoted cs = some (key, ':' :: more))
    (seen : seeValue fuel more = (value, some (',' :: gap ++ '"' :: left)))
    (inner : seeMembers fuel left = (members, some rest)) :
    seeMembers (fuel + 1) cs = (((key, value) :: members.1, members.2), some rest) := by
  rw [seeMembers, name]
  simp [skipSpace_blank blank, skipSpace_token (c := ':') rfl, skipSpace_token (c := ',') rfl,
    skipSpace_token (c := '"') rfl, seen, inner]

end Reading

section Texts

theorem Spells.front {t : List Char} {j : Json} (h : Spells t j) :
    ∃ c cs, t = c :: cs ∧ isSpace c = false ∧ c ≠ ']' := by
  cases h with
  | bool b => cases b <;> exact ⟨_, _, rfl, rfl, by decide⟩
  | number back =>
    obtain ⟨m, met, -⟩ := back.numeral
    obtain ⟨c, cs, text, front⟩ := numeral_head met
    exact ⟨c, cs, text, front_token front, front_ne front (by decide) rfl⟩
  | _ => exact ⟨_, _, rfl, rfl, by decide⟩

theorem apart_blank {gap : List Char} (blank : Blank gap) {cs : List Char} (apart : Apart cs) :
    Apart (gap ++ cs) := by
  cases gap with
  | nil => exact apart
  | cons c gap =>
    rintro d ⟨⟩
    have space := blank c (by simp)
    simp only [isSpace, Bool.or_eq_true, decide_eq_true_eq] at space
    rcases space with ((rfl | rfl) | rfl) | rfl <;> decide

theorem apart_mark {c : Char} (mark : c = ',' ∨ c = ']' ∨ c = '}') (cs : List Char) :
    Apart (c :: cs) := by
  rintro d ⟨⟩
  rcases mark with rfl | rfl | rfl <;> decide

theorem SpellsItems.apart {rest : List Char} {js : List Json} (h : SpellsItems rest js)
    (tail : List Char) : Apart (rest ++ tail) := by
  cases h with
  | close blank =>
    rw [List.append_assoc]
    exact apart_blank blank (apart_mark (by decide) tail)
  | next => exact apart_mark (by decide) _

theorem SpellsMembers.apart {rest : List Char} {ms : List (String × Json)}
    (h : SpellsMembers rest ms) (tail : List Char) : Apart (rest ++ tail) := by
  cases h with
  | close blank =>
    rw [List.append_assoc]
    exact apart_blank blank (apart_mark (by decide) tail)
  | next => exact apart_mark (by decide) _

def ReadsItems (rest : List Char) (ds : List Draft) : Prop :=
  ∀ t d, ReadsAs t d → ∀ fuel, 2 * (t.length + rest.length) < fuel → ∀ tail,
    Apart (rest ++ tail) →
      seeItems fuel (t ++ (rest ++ tail)) = ((d :: ds, true), some tail)

def ReadsMembers (rest : List Char) (ms : List (Option String × Draft)) : Prop :=
  ∀ k wide t d, Blank wide → ReadsAs t d → ∀ fuel, 2 * (t.length + rest.length) < fuel → ∀ tail,
    Apart (rest ++ tail) →
      seeMembers fuel (k.toList.flatMap escape ++ '"' :: ':' :: (wide ++ (t ++ (rest ++ tail)))) =
        (((some k, d) :: ms, true), some tail)

theorem ReadsAs.of_step {t : List Char} {d : Draft} (filled : t ≠ [])
    (step : ∀ fuel rest, 2 * t.length ≤ fuel + 1 → Apart rest →
      seeValue (fuel + 1) (t ++ rest) = (d, some rest)) : ReadsAs t d := by
  intro fuel rest enough apart
  have long : 0 < t.length := List.length_pos_iff.mpr filled
  obtain ⟨fuel, rfl⟩ : ∃ k, fuel = k + 1 := ⟨fuel - 1, by omega⟩
  exact step fuel rest enough apart

theorem ReadsAs.number {n : Number} (back : ReadsBack n) :
    ReadsAs (numberText n) (.number (some n)) := by
  obtain ⟨m, met, -⟩ := back.numeral
  obtain ⟨c, cs, text, front⟩ := numeral_head met
  refine .of_step (by simp [text]) fun fuel rest _ apart => ?_
  have seen := back.append apart
  rw [text, List.cons_append] at seen ⊢
  rw [seeValue_number fuel front, seen]

theorem ReadsAs.string (s : String) : ReadsAs (quote s) (.string (some s)) := by
  refine .of_step (by simp [quote]) fun fuel rest _ _ => ?_
  simp [quote, seeValue, skipSpace_token (c := '"') rfl, quoted_quote]

theorem ReadsAs.null : ReadsAs "null".toList .null :=
  .of_step (by decide) fun _ _ _ _ => rfl

theorem ReadsAs.bool (b : Bool) : ReadsAs (boolText b) (.bool b) := by
  cases b <;> exact .of_step (by decide) fun _ _ _ _ => rfl

theorem ReadsAs.noItems : ReadsAs ['[', ']'] (.array [] true) :=
  .of_step (by decide) fun _ _ _ _ => rfl

theorem ReadsAs.noMembers : ReadsAs ['{', '}'] (.object [] true) :=
  .of_step (by decide) fun _ _ _ _ => rfl

theorem ReadsAs.items {gap t rest : List Char} {d : Draft} {ds : List Draft}
    (blank : Blank gap) (front : ∃ c cs, t = c :: cs ∧ isSpace c = false ∧ c ≠ ']')
    (first : ReadsAs t d) (others : ReadsItems rest ds) (after : ∀ tail, Apart (rest ++ tail)) :
    ReadsAs ('[' :: gap ++ t ++ rest) (.array (d :: ds) true) := by
  refine .of_step (by simp) fun fuel tail enough _ => ?_
  have inner := others t d first fuel (by simp at enough; omega) tail (after tail)
  obtain ⟨c, cs, rfl, token, begins⟩ := front
  simpa using seeValue_items blank token begins inner

theorem ReadsAs.members {gap wide t rest : List Char} {k : String} {d : Draft}
    {ms : List (Option String × Draft)} (blank : Blank gap) (apart : Blank wide)
    (first : ReadsAs t d) (others : ReadsMembers rest ms) (after : ∀ tail, Apart (rest ++ tail)) :
    ReadsAs ('{' :: gap ++ quote k ++ ':' :: wide ++ t ++ rest)
      (.object ((some k, d) :: ms) true) := by
  refine .of_step (by simp) fun fuel tail enough _ => ?_
  have inner := others k wide t d apart first fuel (by simp at enough; omega) tail (after tail)
  simpa [quote] using seeValue_members blank inner

theorem ReadsItems.close {gap : List Char} (blank : Blank gap) :
    ReadsItems (gap ++ [']']) [] := by
  intro t d seen fuel enough tail apart
  obtain ⟨fuel, rfl⟩ : ∃ k, fuel = k + 1 := ⟨fuel - 1, by omega⟩
  apply seeItems_close blank
  simpa using seen fuel _ (by omega) apart

theorem ReadsItems.next {gap t rest : List Char} {d : Draft} {ds : List Draft}
    (blank : Blank gap) (front : ∃ c cs, t = c :: cs ∧ isSpace c = false ∧ c ≠ ']')
    (first : ReadsAs t d) (others : ReadsItems rest ds) (after : ∀ tail, Apart (rest ++ tail)) :
    ReadsItems (',' :: gap ++ t ++ rest) (d :: ds) := by
  intro u e seen fuel enough tail apart
  obtain ⟨fuel, rfl⟩ : ∃ k, fuel = k + 1 := ⟨fuel - 1, by omega⟩
  have this := seen fuel _ (by omega) apart
  have inner := others t d first fuel (by simp at enough; omega) tail (after tail)
  obtain ⟨c, cs, rfl, token, begins⟩ := front
  refine seeItems_next blank token begins ?_ inner
  simpa using this

theorem ReadsMembers.close {gap : List Char} (blank : Blank gap) :
    ReadsMembers (gap ++ ['}']) [] := by
  intro k wide t d space seen fuel enough tail apart
  obtain ⟨fuel, rfl⟩ : ∃ k, fuel = k + 1 := ⟨fuel - 1, by omega⟩
  apply seeMembers_close blank (quoted_quote k _)
  rw [seeValue_blank space]
  simpa using seen fuel _ (by omega) apart

theorem ReadsMembers.next {gap wide t rest : List Char} {k : String} {d : Draft}
    {ms : List (Option String × Draft)} (blank : Blank gap) (apart : Blank wide)
    (first : ReadsAs t d) (others : ReadsMembers rest ms) (after : ∀ tail, Apart (rest ++ tail)) :
    ReadsMembers (',' :: gap ++ quote k ++ ':' :: wide ++ t ++ rest) ((some k, d) :: ms) := by
  intro j space u e blank' seen fuel enough tail apart'
  obtain ⟨fuel, rfl⟩ : ∃ k, fuel = k + 1 := ⟨fuel - 1, by omega⟩
  have this := seen fuel _ (by omega) apart'
  have inner := others k wide t d apart first fuel (by simp at enough; omega) tail (after tail)
  refine seeMembers_next blank (quoted_quote j _) ?_ inner
  rw [seeValue_blank blank']
  simpa [quote] using this

mutual

/-- The reader makes of every text of a value the draft of it. -/
theorem Spells.readsAs : ∀ {t : List Char} {j : Json}, Spells t j → ReadsAs t (ofJson j)
  | _, _, .null => .null
  | _, _, .bool b => .bool b
  | _, _, .number back => .number back
  | _, _, .string s => .string s
  | _, _, .noItems => .noItems
  | _, _, .items blank first others =>
    .items blank first.front first.readsAs others.readsAs others.apart
  | _, _, .noMembers => .noMembers
  | _, _, .members blank apart first others =>
    .members blank apart first.readsAs others.readsAs others.apart

theorem SpellsItems.readsAs : ∀ {rest : List Char} {js : List Json}, SpellsItems rest js →
    ReadsItems rest (ofItems js)
  | _, _, .close blank => .close blank
  | _, _, .next blank first others =>
    .next blank first.front first.readsAs others.readsAs others.apart

theorem SpellsMembers.readsAs : ∀ {rest : List Char} {ms : List (String × Json)},
    SpellsMembers rest ms → ReadsMembers rest (ofMembers ms)
  | _, _, .close blank => .close blank
  | _, _, .next blank apart first others =>
    .next blank apart first.readsAs others.readsAs others.apart

end

theorem Spells.read {t : List Char} {j : Json} (h : Spells t j) :
    Json.read (String.ofList t) = ⟨ofJson j, true⟩ := by
  have seen := h.readsAs (2 * t.length + 2) [] (by omega) nofun
  rw [List.append_nil] at seen
  simp [Json.read, seen, skipSpace]

end Texts

section Writing

mutual

def numbers : Json → List Number
  | .number n => [n]
  | .array items => itemNumbers items
  | .object members => memberNumbers members
  | _ => []

def itemNumbers : List Json → List Number
  | [] => []
  | j :: js => numbers j ++ itemNumbers js

def memberNumbers : List (String × Json) → List Number
  | [] => []
  | (_, v) :: ms => numbers v ++ memberNumbers ms

end

theorem blank_nil : Blank [] := nofun

theorem blank_space : Blank [' '] := by
  simp [Blank, isSpace]

theorem blank_newline (level : Nat) : Blank (newline level) := by
  intro c hc
  rw [newline, List.mem_cons, List.mem_replicate] at hc
  rcases hc with rfl | ⟨-, rfl⟩ <;> rfl

mutual

theorem write_spells : ∀ j : Json, (∀ n ∈ j.numbers, ReadsBack n) → Spells (write j) j
  | .null, _ => .null
  | .bool b, _ => .bool b
  | .number n, back => .number (back n (by simp [numbers]))
  | .string s, _ => .string s
  | .array [], _ => .noItems
  | .array (j :: js), back => by
    simp only [numbers, itemNumbers, List.forall_mem_append] at back
    exact .items blank_nil (write_spells j back.1) (writeItems_spells js back.2)
  | .object [], _ => .noMembers
  | .object ((k, v) :: ms), back => by
    simp only [numbers, memberNumbers, List.forall_mem_append] at back
    simpa [write] using
      Spells.members (k := k) blank_nil blank_nil (write_spells v back.1)
        (writeMembers_spells ms back.2)

theorem writeItems_spells : ∀ js : List Json, (∀ n ∈ itemNumbers js, ReadsBack n) →
    SpellsItems (writeItems js) js
  | [], _ => .close blank_nil
  | j :: js, back => by
    simp only [itemNumbers, List.forall_mem_append] at back
    exact .next blank_nil (write_spells j back.1) (writeItems_spells js back.2)

theorem writeMembers_spells : ∀ ms : List (String × Json),
    (∀ n ∈ memberNumbers ms, ReadsBack n) → SpellsMembers (writeMembers ms) ms
  | [], _ => .close blank_nil
  | (k, v) :: ms, back => by
    simp only [memberNumbers, List.forall_mem_append] at back
    simpa [writeMembers] using
      SpellsMembers.next (k := k) blank_nil blank_nil (write_spells v back.1)
        (writeMembers_spells ms back.2)

end

mutual

theorem writePretty_spells : ∀ (level : Nat) (j : Json), (∀ n ∈ j.numbers, ReadsBack n) →
    Spells (writePretty level j) j
  | _, .null, _ => .null
  | _, .bool b, _ => .bool b
  | _, .number n, back => .number (back n (by simp [numbers]))
  | _, .string s, _ => .string s
  | _, .array [], _ => .noItems
  | level, .array (j :: js), back => by
    simp only [numbers, itemNumbers, List.forall_mem_append] at back
    exact .items (blank_newline (level + 1)) (writePretty_spells (level + 1) j back.1)
      (prettyItems_spells level js back.2)
  | _, .object [], _ => .noMembers
  | level, .object ((k, v) :: ms), back => by
    simp only [numbers, memberNumbers, List.forall_mem_append] at back
    simpa [writePretty] using
      Spells.members (k := k) (blank_newline (level + 1)) blank_space
        (writePretty_spells (level + 1) v back.1) (prettyMembers_spells level ms back.2)

theorem prettyItems_spells : ∀ (level : Nat) (js : List Json),
    (∀ n ∈ itemNumbers js, ReadsBack n) → SpellsItems (prettyItems level js) js
  | level, [], _ => .close (blank_newline level)
  | level, j :: js, back => by
    simp only [itemNumbers, List.forall_mem_append] at back
    exact .next (blank_newline (level + 1)) (writePretty_spells (level + 1) j back.1)
      (prettyItems_spells level js back.2)

theorem prettyMembers_spells : ∀ (level : Nat) (ms : List (String × Json)),
    (∀ n ∈ memberNumbers ms, ReadsBack n) → SpellsMembers (prettyMembers level ms) ms
  | level, [], _ => .close (blank_newline level)
  | level, (k, v) :: ms, back => by
    simp only [memberNumbers, List.forall_mem_append] at back
    simpa [prettyMembers] using
      SpellsMembers.next (k := k) (blank_newline (level + 1)) blank_space
        (writePretty_spells (level + 1) v back.1) (prettyMembers_spells level ms back.2)

end

theorem forall_itemNumbers {P : Number → Prop} {js : List Json} :
    (∀ n ∈ itemNumbers js, P n) ↔ ∀ j ∈ js, ∀ n ∈ j.numbers, P n := by
  induction js with
  | nil => simp [itemNumbers]
  | cons j js ih => rw [itemNumbers, List.forall_mem_append, ih, List.forall_mem_cons]

theorem forall_memberNumbers {P : Number → Prop} {ms : List (String × Json)} :
    (∀ n ∈ memberNumbers ms, P n) ↔ ∀ m ∈ ms, ∀ n ∈ m.2.numbers, P n := by
  induction ms with
  | nil => simp [memberNumbers]
  | cons m ms ih => rw [memberNumbers, List.forall_mem_append, ih, List.forall_mem_cons]

end Writing

end ControlPlane.Json
