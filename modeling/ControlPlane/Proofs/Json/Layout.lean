import Mathlib.Data.List.Nodup
import ControlPlane.Proofs.Json.Records

/-!
# What a record keeps of the layout of its object

A record is refused for faults of single members, for a field that comes twice and for a field
that is missing. Once it is not, what is made of it depends on what is asked of its fields, and a
field with a default that is not there gives the same as one that holds its default. So the members
of an object may be moved about, unknown ones may be put in, and defaults may be left out or
written.
-/

set_option autoImplicit false

namespace ControlPlane

namespace Draft

mutual

theorem isComplete_of_toJson? {depth : Nat} : ∀ {d : Draft} {j : Json},
    toJson? depth d = some j → d.isComplete = true
  | .null, _, _ | .bool _, _, _ | .number _, _, _ | .string _, _, _ => rfl
  | .array items true, _, h => by
    cases depth with
    | zero => simp [toJson?] at h
    | succ depth =>
      obtain ⟨js, read, -⟩ := Option.map_eq_some_iff.mp h
      simpa [isComplete] using allComplete_of_items? read
  | .object ms true, _, h => by
    cases depth with
    | zero => simp [toJson?] at h
    | succ depth =>
      obtain ⟨js, read, -⟩ := Option.map_eq_some_iff.mp h
      simpa [isComplete] using membersComplete_of_members? read
  | .array _ false, _, h | .object _ false, _, h | .misnamed, _, h | .broken, _, h => by
    simp [toJson?] at h

theorem allComplete_of_items? {depth : Nat} : ∀ {ds : List Draft} {js : List Json},
    items? depth ds = some js → allComplete ds = true
  | [], _, _ => rfl
  | d :: ds, _, h => by
    simp only [items?, Option.bind_eq_bind, Option.bind_eq_some_iff] at h
    obtain ⟨j, first, js, rest, -⟩ := h
    rw [allComplete, isComplete_of_toJson? first, allComplete_of_items? rest]
    rfl

theorem membersComplete_of_members? {depth : Nat} :
    ∀ {ms : List (Option String × Draft)} {done js : List (String × Json)},
      members? depth done ms = some js → membersComplete ms = true
  | [], _, _, _ => rfl
  | (none, _) :: _, _, _, h => by simp [members?] at h
  | (some k, d) :: ms, _, _, h => by
    simp only [members?, Option.bind_eq_bind, Option.bind_eq_some_iff] at h
    obtain ⟨j, first, rest⟩ := h
    rw [membersComplete, isComplete_of_toJson? first, membersComplete_of_members? rest]
    rfl

end

theorem isComplete_of_isSound {depth : Nat} {d : Draft} (sound : d.isSound depth = true) :
    d.isComplete = true := by
  obtain ⟨j, read⟩ := Option.isSome_iff_exists.mp sound
  exact isComplete_of_toJson? read

end Draft

namespace Decode

abbrev Members := List (Option String × Draft)

section Slots

inductive Slot : Type 1 where
  | needed {α : Type} (name : String) (decode : Decoder α)
  | optional {α : Type} (name : String) (decode : Decoder α) (default : α)

namespace Slot

def name : Slot → String
  | needed name _ => name
  | optional name _ _ => name

def field : Slot → Field
  | needed name decode => .needed name decode
  | optional name decode _ => .optional name decode

theorem field_name (s : Slot) : s.field.name = s.name := by
  cases s <;> rfl

def Agrees (r t : Record) : Slot → Prop
  | needed name decode => r.get name decode = t.get name decode
  | optional name decode default => r.getD name decode default = t.getD name decode default

def IsDefault (src : Source) (d : Draft) : Slot → Prop
  | needed .. => False
  | optional _ decode default => decode src d = .ok default

variable {s : Slot} {src : Source} {ms ns : List (String × Draft)} {d : Draft}

theorem agrees_of_lookup (same : ms.lookup s.name = ns.lookup s.name) :
    s.Agrees ⟨src, ms⟩ ⟨src, ns⟩ := by
  cases s with
  | needed => simp only [name] at same; simp only [Agrees, Record.get, same]
  | optional => simp only [name] at same; simp only [Agrees, Record.getD, same]

/-- A default that is written gives the same as one that is not. -/
theorem agrees_default (default : s.IsDefault src d) (absent : ms.lookup s.name = none) :
    s.Agrees ⟨src, ms⟩ ⟨src, (s.name, d) :: ms⟩ := by
  cases s with
  | needed => exact absurd default id
  | optional =>
    simp only [name, IsDefault] at absent default
    simp [Agrees, Record.getD, name, absent, default]

theorem Agrees.symm {r t : Record} (h : s.Agrees r t) : s.Agrees t r := by
  cases s <;> exact Eq.symm h

theorem Agrees.trans {r t u : Record} (h : s.Agrees r t) (g : s.Agrees t u) : s.Agrees r u := by
  cases s <;> exact Eq.trans h g

end Slot

def Determines {β : Type} (slots : List Slot) (build : Record → Decoded β) : Prop :=
  ∀ r t : Record, (∀ s ∈ slots, s.Agrees r t) → build r = build t

end Slots

section Asked

variable {names : List String} {ms ns : Members}

def asked (names : List String) (ms : Members) : List (String × Draft) :=
  (named ms).filter fun m => m.1 ∈ names

theorem named_perm (same : ms.Perm ns) : (named ms).Perm (named ns) := by
  have filtered : ∀ ms, named ms = ms.filterMap fun m => m.1.map (·, m.2) := by
    intro ms
    induction ms with
    | nil => rfl
    | cons m ms ih => obtain ⟨_ | k, d⟩ := m <;> simp [named, ih]
  rw [filtered, filtered]
  exact same.filterMap _

theorem asked_perm (same : ms.Perm ns) : (asked names ms).Perm (asked names ns) :=
  (named_perm same).filter _

theorem asked_known {k : String} (known : k ∈ names) (d : Draft) :
    asked names ((some k, d) :: ms) = (k, d) :: asked names ms := by
  simp [asked, named, known]

theorem asked_unknown {k : String} (unknown : k ∉ names) (d : Draft) :
    asked names ((some k, d) :: ms) = asked names ms := by
  simp [asked, named, unknown]

theorem lookup_asked {k : String} (known : k ∈ names) :
    (asked names ms).lookup k = (named ms).lookup k := by
  rw [asked]
  induction named ms with
  | nil => rfl
  | cons m ms ih =>
    obtain ⟨l, d⟩ := m
    by_cases same : k = l
    · subst same
      simp [known]
    · have other : (k == l) = false := beq_false_of_ne same
      by_cases kept : l ∈ names <;> simp [List.lookup_cons, other, kept, ih]

theorem absent_asked {k : String} (absent : some k ∉ ms.map Prod.fst) :
    k ∉ (asked names ms).map Prod.fst := by
  induction ms with
  | nil => simp [asked, named]
  | cons m ms ih =>
    rw [List.map_cons, List.mem_cons, not_or] at absent
    obtain ⟨_ | l, d⟩ := m
    · exact ih absent.2
    · by_cases known : l ∈ names
      · rw [asked_known known, List.map_cons, List.mem_cons, not_or]
        exact ⟨fun same => absent.1 (congrArg some same), ih absent.2⟩
      · rw [asked_unknown known]
        exact ih absent.2

theorem lookup_absent {k : String} {ms : List (String × Draft)} (absent : k ∉ ms.map Prod.fst) :
    ms.lookup k = none := by
  rw [List.lookup_eq_none_iff]
  rintro m inside
  rw [bne_iff_ne]
  rintro rfl
  exact absent (List.mem_map_of_mem inside)

end Asked

section Members

variable {fields : List Field} {src : Source}

def Taken (fields : List Field) (src : Source) : Option String × Draft → Prop
  | (none, _) => False
  | (some k, d) =>
    match fields.find? fun f => f.name == k with
    | none => d.isComplete = true
    | some f => f.check src d = .ok ()

def fieldNames (fields : List Field) : List String := fields.map (·.name)

theorem find?_none {k : String} :
    fields.find? (fun f => f.name == k) = none ↔ k ∉ fieldNames fields := by
  simp [fieldNames, List.find?_eq_none]

theorem find?_some {k : String} {f : Field} (found : fields.find? (fun f => f.name == k) = some f) :
    k ∈ fieldNames fields := by
  by_contra unknown
  rw [find?_none.mpr unknown] at found
  cases found

/-- The members of an object are without fault if each is by itself and no field comes twice. -/
theorem checkMembers_iff {seen : List String} {ms : Members} :
    checkMembers fields src seen ms = .ok () ↔
      (∀ m ∈ ms, Taken fields src m) ∧ ((asked (fieldNames fields) ms).map Prod.fst).Nodup ∧
        ∀ k ∈ (asked (fieldNames fields) ms).map Prod.fst, k ∉ seen := by
  induction ms generalizing seen with
  | nil => simp [checkMembers, asked, named]
  | cons m ms ih =>
    obtain ⟨_ | k, d⟩ := m
    · simp [checkMembers, Taken]
    · rw [checkMembers, List.forall_mem_cons, Taken]
      cases found : fields.find? fun f => f.name == k with
      | none =>
        rw [asked_unknown (find?_none.mp found)]
        by_cases complete : d.isComplete = true <;> simp [complete, ih]
      | some f =>
        rw [asked_known (find?_some found)]
        by_cases twice : k ∈ seen
        · simp [twice]
        · -- the key is seen from now on, so no later member may have it
          cases checked : f.check src d with
          | error p => simp [twice, checked, bind, Except.bind]
          | ok =>
            simp only [List.contains_iff_mem, twice, checked, bind, Except.bind, ih, if_false,
              List.map_cons, List.nodup_cons, List.mem_cons]
            grind

structure Laid (fields : List Field) (src : Source) (ms : Members) : Prop where
  taken : ∀ m ∈ ms, Taken fields src m
  distinct : ((asked (fieldNames fields) ms).map Prod.fst).Nodup
  complete : ∀ f ∈ fields, f.required = true →
    f.name ∈ (asked (fieldNames fields) ms).map Prod.fst

theorem firstMissing_named {ms : Members} : firstMissing fields (named ms) = none ↔
    ∀ f ∈ fields, f.required = true → f.name ∈ (asked (fieldNames fields) ms).map Prod.fst := by
  rw [firstMissing_eq_none]
  refine forall₂_congr fun f inside => ?_
  have known : f.name ∈ fieldNames fields := List.mem_map_of_mem inside
  simp [asked, known]

theorem record_object {title : String} {ms : Members} {r : Record} :
    record title fields src (.object ms true) = .ok r ↔
      ∃ inner, src.enter = .ok inner ∧ Laid fields inner ms ∧ r = ⟨inner, named ms⟩ := by
  have laid (inner : Source) : Laid fields inner ms ↔
      checkMembers fields inner [] ms = .ok () ∧ firstMissing fields (named ms) = none := by
    rw [checkMembers_iff, firstMissing_named]
    exact ⟨fun h => ⟨⟨h.taken, h.distinct, by simp⟩, h.complete⟩,
      fun h => ⟨h.1.1, h.1.2.1, h.2⟩⟩
  simp only [record, laid, if_true]
  cases src.enter with
  | error p => simp [bind, Except.bind]
  | ok inner =>
    cases checked : checkMembers fields inner [] ms with
    | error p => simp [bind, Except.bind, checked]
    | ok =>
      cases missing : firstMissing fields (named ms) with
      | some f => simp [bind, Except.bind, checked]
      | none => simp [bind, Except.bind, checked, eq_comm]

end Members

section Slots

variable {β : Type} {title : String} {slots : List Slot} {build : Record → Decoded β}
  {src : Source} {ms : Members} {b : β}

def recordOf (title : String) (slots : List Slot) (build : Record → Decoded β) : Decoder β :=
  fun src d => record title (slots.map Slot.field) src d >>= build

theorem bind_ok {α β : Type} {x : Decoded α} {f : α → Decoded β} {b : β} :
    x >>= f = .ok b ↔ ∃ a, x = .ok a ∧ f a = .ok b := by
  cases x <;> simp [bind, Except.bind]

theorem map_ok {α β : Type} {x : Decoded α} {f : α → β} {b : β} :
    x.map f = .ok b ↔ ∃ a, x = .ok a ∧ f a = b := by
  cases x <;> simp [Except.map]

theorem fieldNames_slots (slots : List Slot) :
    fieldNames (slots.map Slot.field) = slots.map Slot.name := by
  simp [fieldNames, Slot.field_name]

theorem recordOf_object (determined : Determines slots build) :
    recordOf title slots build src (.object ms true) = .ok b ↔
      ∃ inner, src.enter = .ok inner ∧ Laid (slots.map Slot.field) inner ms ∧
        build ⟨inner, asked (slots.map Slot.name) ms⟩ = .ok b := by
  have same (inner : Source) :
      build ⟨inner, named ms⟩ = build ⟨inner, asked (slots.map Slot.name) ms⟩ :=
    determined _ _ fun s inside =>
      Slot.agrees_of_lookup (lookup_asked (List.mem_map_of_mem inside)).symm
  rw [recordOf, bind_ok]
  constructor
  · rintro ⟨r, read, made⟩
    obtain ⟨inner, entered, laid, rfl⟩ := record_object.mp read
    exact ⟨inner, entered, laid, (same inner).symm.trans made⟩
  · rintro ⟨inner, entered, laid, made⟩
    exact ⟨_, record_object.mpr ⟨inner, entered, laid, rfl⟩, (same inner).trans made⟩

end Slots

section Layouts

structure Layout where
  names : List String
  IsDefault : String → Draft → Prop
  IsValid : Draft → Prop

/-- One object is the other with its members moved about, with unknown members put in, with
defaults written that were left out or left out that were written. -/
inductive Relaid (l : Layout) : Members → Members → Prop
  | perm {ms ns : Members} (same : ms.Perm ns) : Relaid l ms ns
  | insert {k : String} {d : Draft} (ms : Members) (unknown : k ∉ l.names) (valid : l.IsValid d) :
      Relaid l ms ((some k, d) :: ms)
  | add {k : String} {d : Draft} {ms : Members} (default : l.IsDefault k d) (valid : l.IsValid d)
      (absent : some k ∉ ms.map Prod.fst) : Relaid l ms ((some k, d) :: ms)
  | remove {k : String} {d : Draft} (ms : Members) (default : l.IsDefault k d) :
      Relaid l ((some k, d) :: ms) ms
  | trans {ms ns os : Members} (first : Relaid l ms ns) (second : Relaid l ns os) : Relaid l ms os

def recordLayout (slots : List Slot) (src : Source) : Layout where
  names := slots.map Slot.name
  IsDefault k d := ∃ s ∈ slots, s.name = k ∧ s.IsDefault src d
  IsValid d := d.isComplete = true

variable {slots : List Slot} {src : Source} {ms ns : Members}

theorem find?_slot {s : Slot} (distinct : (slots.map Slot.name).Nodup) (inside : s ∈ slots) :
    (slots.map Slot.field).find? (fun f => f.name == s.name) = some s.field := by
  induction slots with
  | nil => cases inside
  | cons t slots ih =>
    rw [List.map_cons, List.nodup_cons] at distinct
    rw [List.map_cons, List.find?_cons, Slot.field_name]
    rcases List.mem_cons.mp inside with rfl | later
    · simp
    · have other : (t.name == s.name) = false := by
        rw [beq_eq_false_iff_ne]
        exact fun same => distinct.1 (same ▸ List.mem_map_of_mem later)
      rw [other]
      exact ih distinct.2 later

theorem Slot.IsDefault.taken {s : Slot} {d : Draft} (default : s.IsDefault src d)
    (distinct : (slots.map Slot.name).Nodup) (inside : s ∈ slots) :
    Taken (slots.map Slot.field) src (some s.name, d) := by
  rw [Taken, find?_slot distinct inside]
  cases s with
  | needed => exact absurd default id
  | optional name decode a =>
    change (decode src d).map (fun _ => ()) = .ok ()
    rw [show decode src d = .ok a from default]
    rfl

theorem Slot.IsDefault.free {s : Slot} {d : Draft} (default : s.IsDefault src d) :
    s.field.required = false := by
  cases s with
  | needed => exact absurd default id
  | optional => rfl

/-- A default put in front of a record that has no such member changes nothing. -/
theorem agrees_cons {s : Slot} {d : Draft} {ms : List (String × Draft)}
    (distinct : (slots.map Slot.name).Nodup) (inside : s ∈ slots) (default : s.IsDefault src d)
    (absent : s.name ∉ ms.map Prod.fst) :
    ∀ t ∈ slots, t.Agrees ⟨src, ms⟩ ⟨src, (s.name, d) :: ms⟩ := by
  intro t there
  by_cases same : t.name = s.name
  · obtain rfl : t = s := List.inj_on_of_nodup_map distinct there inside same
    exact Slot.agrees_default default (lookup_absent absent)
  · have other : (t.name == s.name) = false := beq_false_of_ne same
    exact Slot.agrees_of_lookup (by rw [List.lookup_cons, other])

structure Alike (slots : List Slot) (src : Source) (ms ns : Members) : Prop where
  laid : Laid (slots.map Slot.field) src ns
  agree : ∀ s ∈ slots, s.Agrees ⟨src, asked (slots.map Slot.name) ms⟩
    ⟨src, asked (slots.map Slot.name) ns⟩

theorem Laid.perm {fields : List Field} (laid : Laid fields src ms) (same : ms.Perm ns) :
    Laid fields src ns where
  taken m inside := laid.taken m (same.mem_iff.mpr inside)
  distinct := ((asked_perm same).map _).nodup_iff.mp laid.distinct
  complete f inside needed :=
    ((asked_perm same).map _).mem_iff.mp (laid.complete f inside needed)

theorem Laid.perm_alike (laid : Laid (slots.map Slot.field) src ms) (same : ms.Perm ns) :
    Alike slots src ms ns where
  laid := laid.perm same
  agree s _ := by
    have before := laid.distinct
    have after := (laid.perm same).distinct
    rw [fieldNames_slots] at before after
    exact Slot.agrees_of_lookup <| Option.ext fun d => by
      rw [lookup_iff before, lookup_iff after, (asked_perm same).mem_iff]

theorem Laid.insert_alike (laid : Laid (slots.map Slot.field) src ms) {k : String} {d : Draft}
    (unknown : k ∉ slots.map Slot.name) (complete : d.isComplete = true) :
    Alike slots src ms ((some k, d) :: ms) := by
  have same : asked (slots.map Slot.name) ((some k, d) :: ms) = asked (slots.map Slot.name) ms :=
    asked_unknown unknown d
  have unasked : k ∉ fieldNames (slots.map Slot.field) := by rwa [fieldNames_slots]
  refine ⟨⟨?_, ?_, ?_⟩, fun s _ => ?_⟩
  · rw [List.forall_mem_cons, Taken, find?_none.mpr unasked]
    exact ⟨complete, laid.taken⟩
  · rw [asked_unknown unasked]
    exact laid.distinct
  · rw [asked_unknown unasked]
    exact laid.complete
  · rw [same]
    exact Slot.agrees_of_lookup rfl

variable {s : Slot} {d : Draft}

theorem asked_slot (inside : s ∈ slots) :
    asked (fieldNames (slots.map Slot.field)) ((some s.name, d) :: ms) =
      (s.name, d) :: asked (fieldNames (slots.map Slot.field)) ms := by
  rw [fieldNames_slots]
  exact asked_known (List.mem_map_of_mem inside) d

theorem Laid.add_alike (laid : Laid (slots.map Slot.field) src ms)
    (distinct : (slots.map Slot.name).Nodup) (inside : s ∈ slots) (default : s.IsDefault src d)
    (absent : some s.name ∉ ms.map Prod.fst) : Alike slots src ms ((some s.name, d) :: ms) := by
  refine ⟨⟨?_, ?_, ?_⟩, ?_⟩
  · exact List.forall_mem_cons.mpr ⟨default.taken distinct inside, laid.taken⟩
  · rw [asked_slot inside]
    exact List.nodup_cons.mpr ⟨absent_asked absent, laid.distinct⟩
  · rw [asked_slot inside]
    exact fun f there needed => List.mem_cons_of_mem _ (laid.complete f there needed)
  · rw [asked_known (List.mem_map_of_mem inside)]
    exact agrees_cons distinct inside default (absent_asked absent)

theorem Laid.remove_alike (laid : Laid (slots.map Slot.field) src ((some s.name, d) :: ms))
    (distinct : (slots.map Slot.name).Nodup) (inside : s ∈ slots) (default : s.IsDefault src d) :
    Alike slots src ((some s.name, d) :: ms) ms := by
  obtain ⟨taken, once, complete⟩ := laid
  rw [asked_slot inside] at once complete
  obtain ⟨absent, once⟩ := List.nodup_cons.mp once
  refine ⟨⟨(List.forall_mem_cons.mp taken).2, once, fun f there needed => ?_⟩, fun t there => ?_⟩
  · -- the field that is left out is not one that is required
    rcases List.mem_cons.mp (complete f there needed) with same | later
    · obtain ⟨t, listed, rfl⟩ := List.mem_map.mp there
      rw [Slot.field_name] at same
      obtain rfl : t = s := List.inj_on_of_nodup_map distinct listed inside same
      rw [default.free] at needed
      cases needed
    · exact later
  · rw [fieldNames_slots] at absent
    rw [asked_known (List.mem_map_of_mem inside)]
    exact (agrees_cons distinct inside default absent t there).symm

theorem Laid.relaid (distinct : (slots.map Slot.name).Nodup)
    (laid : Laid (slots.map Slot.field) src ms) (relaid : Relaid (recordLayout slots src) ms ns) :
    Alike slots src ms ns := by
  induction relaid with
  | perm same => exact laid.perm_alike same
  | insert ms unknown valid => exact laid.insert_alike unknown valid
  | add default valid absent =>
    obtain ⟨s, inside, rfl, default⟩ := default
    exact laid.add_alike distinct inside default absent
  | remove ms default =>
    obtain ⟨s, inside, rfl, default⟩ := default
    exact laid.remove_alike distinct inside default
  | trans first second ih ih' =>
    have middle := ih laid
    have last := ih' middle.laid
    exact ⟨last.laid, fun s inside => (middle.agree s inside).trans (last.agree s inside)⟩

/-- What is made of a record stays the same when its object is laid out anew. -/
theorem recordOf_relaid {β : Type} {title : String} {build : Record → Decoded β} {b : β}
    {inner : Source} (determined : Determines slots build) (distinct : (slots.map Slot.name).Nodup)
    (entered : src.enter = .ok inner)
    (made : recordOf title slots build src (.object ms true) = .ok b)
    (relaid : Relaid (recordLayout slots inner) ms ns) :
    recordOf title slots build src (.object ns true) = .ok b := by
  rw [recordOf_object determined, entered] at made ⊢
  obtain ⟨_, ⟨⟩, laid, made⟩ := made
  obtain ⟨after, agree⟩ := laid.relaid distinct relaid
  exact ⟨inner, rfl, after, (determined _ _ agree).symm.trans made⟩

end Layouts

end Decode

end ControlPlane
