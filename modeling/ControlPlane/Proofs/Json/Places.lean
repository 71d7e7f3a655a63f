import ControlPlane.Proofs.Json.Layout

/-!
# What stands in the place of a field

A record takes from a member only what its field reads from it. So two values from which the
field reads the same may stand for each other (`recordOf_holding`), a value that the field refuses
makes the whole refused (`recordOf_refused`), and what is made of the whole is made of the value
that stands there (`recordOf_held`), among the members of an object as in an array of the fields
in their order.
-/

set_option autoImplicit false

namespace ControlPlane.Decode

section Fields

variable {slots : List Slot} {s : Slot} {src : Source} {d e : Draft}

def Slot.Equates (src : Source) (d e : Draft) : Slot → Prop
  | needed _ decode | optional _ decode _ => decode src d = decode src e

def Slot.Refuses (src : Source) (d : Draft) : Slot → Prop
  | needed _ decode | optional _ decode _ => ∃ p, decode src d = .error p

theorem Slot.Equates.check (same : s.Equates src d e) :
    s.field.check src d = s.field.check src e := by
  cases s <;> exact congrArg (Except.map fun _ => ()) same

theorem Slot.Refuses.check (refused : s.Refuses src d) : ∃ p, s.field.check src d = .error p := by
  cases s <;>
    · obtain ⟨p, failed⟩ := refused
      exact ⟨p, congrArg (Except.map fun _ => ()) failed⟩

theorem Slot.Equates.agrees (same : s.Equates src d e) (before after : List (String × Draft)) :
    s.Agrees ⟨src, before ++ (s.name, d) :: after⟩ ⟨src, before ++ (s.name, e) :: after⟩ := by
  cases s <;>
    · simp only [Agrees, Record.get, Record.getD, name, List.lookup_append, List.lookup_cons_self]
      -- an earlier member with the same key is the one that is read
      cases before.lookup _ with
      | none => exact same
      | some => rfl

/-- What is made of a record stays the same when one of its drafts is exchanged. -/
theorem made_exchanged {β : Type} {build : Record → Decoded β} (determined : Determines slots build)
    (distinct : (slots.map Slot.name).Nodup) (inside : s ∈ slots) (same : s.Equates src d e)
    (before after : List (String × Draft)) :
    build ⟨src, before ++ (s.name, d) :: after⟩ = build ⟨src, before ++ (s.name, e) :: after⟩ := by
  refine determined _ _ fun t there => ?_
  by_cases name : t.name = s.name
  · obtain rfl : t = s := List.inj_on_of_nodup_map distinct there inside name
    exact same.agrees before after
  · have other : (t.name == s.name) = false := beq_false_of_ne name
    exact Slot.agrees_of_lookup (by simp only [List.lookup_append, List.lookup_cons, other])

end Fields

section Objects

variable {fields : List Field} {f : Field} {k : String} {src : Source} {d e : Draft}

theorem named_append (ms ns : Members) : named (ms ++ ns) = named ms ++ named ns := by
  induction ms with
  | nil => rfl
  | cons m ms ih =>
    obtain ⟨_ | k, d⟩ := m
    · exact ih
    · exact congrArg ((k, d) :: ·) ih

theorem checkMembers_exchanged (found : fields.find? (fun f => f.name == k) = some f)
    (same : f.check src d = f.check src e) (seen : List String) (before after : Members) :
    checkMembers fields src seen (before ++ (some k, d) :: after) =
      checkMembers fields src seen (before ++ (some k, e) :: after) := by
  induction before generalizing seen with
  | nil => simp only [List.nil_append, checkMembers, found, same]
  | cons m before ih =>
    obtain ⟨_ | l, v⟩ := m
    · rfl
    · simp only [List.cons_append, checkMembers, ih]

theorem checkMembers_refused (found : fields.find? (fun f => f.name == k) = some f)
    (refused : ∃ p, f.check src d = .error p) (before after : Members) :
    ∃ p, checkMembers fields src [] (before ++ (some k, d) :: after) = .error p := by
  obtain ⟨p, failed⟩ := refused
  cases checked : checkMembers fields src [] (before ++ (some k, d) :: after) with
  | error q => exact ⟨q, rfl⟩
  | ok =>
    have taken := (checkMembers_iff.mp checked).1 (some k, d) (by simp)
    rw [Taken, found] at taken
    have both := failed.symm.trans taken
    cases both

theorem firstMissing_exchanged (before after : List (String × Draft)) :
    firstMissing fields (before ++ (k, d) :: after) =
      firstMissing fields (before ++ (k, e) :: after) := by
  have present (name : String) : ((before ++ (k, d) :: after).lookup name).isNone =
      ((before ++ (k, e) :: after).lookup name).isNone := by
    simp only [List.lookup_append, List.lookup_cons]
    cases before.lookup name <;> cases name == k <;> rfl
  simp only [firstMissing, present]

end Objects

section Arrays

variable {src : Source} {f : Field} {d e : Draft} {earlier : List Field} {before : List Draft}

theorem checkItems_exchanged (same : f.check src d = f.check src e)
    (place : before.length = earlier.length) (later : List Field) (after : List Draft) :
    checkItems src (earlier ++ f :: later) (before ++ d :: after) =
      checkItems src (earlier ++ f :: later) (before ++ e :: after) := by
  induction earlier generalizing before with
  | nil =>
    obtain rfl := List.length_eq_zero_iff.mp place
    simp only [List.nil_append, checkItems, same]
  | cons g earlier ih =>
    cases before with
    | nil => cases place
    | cons v before =>
      simp only [List.cons_append, checkItems, ih (Nat.succ.inj place)]

theorem checkItems_refused (refused : ∃ p, f.check src d = .error p)
    (place : before.length = earlier.length) (later : List Field) (after : List Draft) :
    ∃ p, checkItems src (earlier ++ f :: later) (before ++ d :: after) = .error p := by
  induction earlier generalizing before with
  | nil =>
    obtain rfl := List.length_eq_zero_iff.mp place
    obtain ⟨p, failed⟩ := refused
    exact ⟨p, by simp [checkItems, failed, bind, Except.bind]⟩
  | cons g earlier ih =>
    cases before with
    | nil => cases place
    | cons v before =>
      obtain ⟨p, failed⟩ := ih (Nat.succ.inj place)
      simp only [List.cons_append, checkItems, failed]
      cases g.check src v with
      | error q => exact ⟨q, rfl⟩
      | ok => exact ⟨p, rfl⟩

def countFault (title : String) (fields : List Field) (src : Source) (count : Nat) :
    Option Json.Problem :=
  if count < fields.length then
    if (fields.drop count).any (·.required) then
      some (.wrongLength count (title ++ " with " ++ elements fields.length))
    else none
  else if count = fields.length then none
  else
    match src with
    | .text _ => some .malformed
    | .value => some (.wrongLength count (elements fields.length ++ " in sequence"))

/-- An array is refused for its items, and after that for the number of them alone. -/
theorem record_array (title : String) (fields : List Field) (items : List Draft) :
    record title fields src (.array items true) = (do
      let inner ← src.enter
      checkItems inner fields items
      match countFault title fields src items.length with
      | some p => .error p
      | none => .ok ⟨inner, (fields.map (·.name)).zip items⟩) := by
  cases entered : src.enter with
  | error p => simp only [record, entered, bind, Except.bind]
  | ok inner =>
    cases checked : checkItems inner fields items with
    | error p => simp only [record, entered, bind, Except.bind, checked]
    | ok =>
      simp only [record, entered, bind, Except.bind, checked, countFault]
      by_cases few : items.length < fields.length
      · by_cases missing : (fields.drop items.length).any (·.required) = true <;>
          simp [few, missing]
      · by_cases exact : items.length = fields.length
        · simp [exact]
        · cases src <;> simp [few, exact]

end Arrays

section Records

variable {β : Type} {title : String} {slots : List Slot} {build : Record → Decoded β} {s : Slot}
  {src : Source} {d e : Draft}

theorem recordOf_member (determined : Determines slots build)
    (distinct : (slots.map Slot.name).Nodup) (inside : s ∈ slots)
    (same : ∀ src, s.Equates src d e) (before after : Members) :
    recordOf title slots build src (.object (before ++ (some s.name, d) :: after) true) =
      recordOf title slots build src (.object (before ++ (some s.name, e) :: after) true) := by
  cases entered : src.enter with
  | error p => simp [recordOf, record, entered, bind, Except.bind]
  | ok inner =>
    have checked := checkMembers_exchanged (find?_slot distinct inside) (same inner).check []
      before after
    have missing :
        firstMissing (slots.map Slot.field) (named before ++ (s.name, d) :: named after) =
        firstMissing (slots.map Slot.field) (named before ++ (s.name, e) :: named after) :=
      firstMissing_exchanged _ _
    simp only [recordOf, record, entered, bind, Except.bind, checked, named_append, named, missing,
      if_true]
    cases checkMembers (slots.map Slot.field) inner [] (before ++ (some s.name, e) :: after) with
    | error p => rfl
    | ok =>
      cases firstMissing (slots.map Slot.field) (named before ++ (s.name, e) :: named after) with
      | some f => rfl
      | none => exact made_exchanged determined distinct inside (same inner) _ _

theorem zip_items {earlier later : List Slot} {before : List Draft}
    (place : before.length = earlier.length) (d : Draft) (after : List Draft) :
    (((earlier ++ s :: later).map Slot.field).map (·.name)).zip (before ++ d :: after) =
      (earlier.map Slot.name).zip before ++ (s.name, d) :: (later.map Slot.name).zip after := by
  have names : Field.name ∘ Slot.field = Slot.name := funext Slot.field_name
  rw [List.map_map, names, List.map_append, List.map_cons, List.zip_append (by simp [place]),
    List.zip_cons_cons]

theorem recordOf_item {earlier later : List Slot}
    (determined : Determines (earlier ++ s :: later) build)
    (distinct : ((earlier ++ s :: later).map Slot.name).Nodup)
    (same : ∀ src, s.Equates src d e) {before : List Draft}
    (place : before.length = earlier.length) (after : List Draft) :
    recordOf title (earlier ++ s :: later) build src (.array (before ++ d :: after) true) =
      recordOf title (earlier ++ s :: later) build src (.array (before ++ e :: after) true) := by
  have counted : (before ++ d :: after).length = (before ++ e :: after).length := by simp
  rw [recordOf, recordOf, record_array, record_array, zip_items place, zip_items place, counted]
  cases src.enter with
  | error p => rfl
  | ok inner =>
    have checked := checkItems_exchanged (same inner).check
      (place.trans (List.length_map Slot.field).symm) (later.map Slot.field) after
    have made := made_exchanged determined distinct (by simp) (same inner)
      ((earlier.map Slot.name).zip before) ((later.map Slot.name).zip after)
    simp only [bind, Except.bind, List.map_append, List.map_cons, checked]
    cases checkItems inner (earlier.map Slot.field ++ s.field :: later.map Slot.field)
        (before ++ e :: after) with
    | error p => rfl
    | ok =>
      cases countFault title (earlier.map Slot.field ++ s.field :: later.map Slot.field) src
          (before ++ e :: after).length with
      | some p => rfl
      | none => exact made

end Records

section Places

inductive Place (slots : List Slot) (s : Slot) : Type 1 where
  | member (before after : Members)
  | item {earlier later : List Slot} (before after : List Draft)
      (split : slots = earlier ++ s :: later) (place : before.length = earlier.length)

variable {β : Type} {title : String} {slots : List Slot} {build : Record → Decoded β} {s : Slot}
  {d e : Draft}

def Place.holding : Place slots s → Draft → Draft
  | member before after, d => .object (before ++ (some s.name, d) :: after) true
  | item before after _ _, d => .array (before ++ d :: after) true

theorem recordOf_holding (determined : Determines slots build)
    (distinct : (slots.map Slot.name).Nodup) (inside : s ∈ slots)
    (same : ∀ src, s.Equates src d e) (place : Place slots s) (src : Source) :
    recordOf title slots build src (place.holding d) =
      recordOf title slots build src (place.holding e) := by
  rcases place with ⟨before, after⟩ | ⟨before, after, rfl, place⟩
  · exact recordOf_member determined distinct inside same before after
  · exact recordOf_item determined distinct same place after

theorem recordOf_refused (distinct : (slots.map Slot.name).Nodup) (inside : s ∈ slots)
    (refused : ∀ src, s.Refuses src d) (place : Place slots s) (src : Source) :
    ∃ p, recordOf title slots build src (place.holding d) = .error p := by
  cases entered : src.enter with
  | error p =>
    exact ⟨p, by cases place <;> simp [recordOf, Place.holding, record, entered, bind, Except.bind]⟩
  | ok inner =>
    have refused := (refused inner).check
    rcases place with ⟨before, after⟩ | @⟨earlier, later, before, after, rfl, place⟩
    · obtain ⟨p, failed⟩ := checkMembers_refused (find?_slot distinct inside) refused before after
      exact ⟨p, by simp [recordOf, Place.holding, record, entered, bind, Except.bind, failed]⟩
    · obtain ⟨p, failed⟩ := checkItems_refused refused
        (place.trans (List.length_map Slot.field).symm) (later.map Slot.field) after
      exact ⟨p, by simp [recordOf, Place.holding, record, entered, bind, Except.bind, failed]⟩

/-- What is made of the object or the array is made of the draft in that place. -/
theorem recordOf_held (distinct : (slots.map Slot.name).Nodup) (inside : s ∈ slots)
    (place : Place slots s) {src : Source} {b : β}
    (made : recordOf title slots build src (place.holding d) = .ok b) :
    ∃ r : Record, r.members.lookup s.name = some d ∧ build r = .ok b := by
  obtain ⟨r, read, built⟩ := bind_ok.mp made
  refine ⟨r, ?_, built⟩
  rcases place with ⟨before, after⟩ | @⟨earlier, later, before, after, rfl, place⟩
  · obtain ⟨inner, -, laid, rfl⟩ := record_object.mp read
    have known : s.name ∈ fieldNames (slots.map Slot.field) := by
      rw [fieldNames_slots]
      exact List.mem_map_of_mem inside
    rw [← lookup_asked known, lookup_iff laid.distinct]
    simp [asked, named_append, named, known]
  · rw [Place.holding, record_array] at read
    obtain ⟨inner, -, read⟩ := bind_ok.mp read
    obtain ⟨-, -, read⟩ := bind_ok.mp read
    rw [List.map_append, List.nodup_append] at distinct
    have fresh : s.name ∉ (earlier.map Slot.name) := fun there =>
      distinct.2.2 _ there _ (by simp) rfl
    have absent : ((earlier.map Slot.name).zip before).lookup s.name = none := by
      apply lookup_absent
      rwa [List.map_fst_zip (by simp [place])]
    split at read
    · cases read
    · obtain rfl := Except.ok.inj read
      rw [zip_items place, List.lookup_append, absent, Option.none_or, List.lookup_cons_self]

end Places

end ControlPlane.Decode
