import ControlPlane.Json.Draft
import ControlPlane.Proofs.Json.Spelling

/-!
# Values in order

Values that are kept whole have the members of each object in the order of their keys. A
value is put into that order once and then stays as it is, and what is read as a whole
comes out in it (`Within.whole`), as long as it is not nested too deeply.
-/

set_option autoImplicit false

namespace ControlPlane.Json

open Draft (ofJson ofItems ofMembers toJson? items? members?)

section Members

def InOrder (ms : List (String × Json)) : Prop := ms.Pairwise fun m n => compare m.1 n.1 = .lt

theorem mem_put {key : String} {value : Json} {ms : List (String × Json)} {m : String × Json}
    (h : m ∈ put key value ms) : m = (key, value) ∨ m ∈ ms := by
  induction ms with
  | nil => exact .inl (List.mem_singleton.mp h)
  | cons n ms ih =>
    rw [put] at h
    split at h
    · exact List.mem_cons.mp h
    · rcases List.mem_cons.mp h with new | old
      · exact .inl new
      · exact .inr (List.mem_cons_of_mem n old)
    · rcases List.mem_cons.mp h with rfl | later
      · exact .inr List.mem_cons_self
      · rcases ih later with new | old
        · exact .inl new
        · exact .inr (List.mem_cons_of_mem _ old)

theorem InOrder.put {ms : List (String × Json)} (h : InOrder ms) (key : String) (value : Json) :
    InOrder (Json.put key value ms) := by
  induction ms with
  | nil => exact List.pairwise_singleton _ _
  | cons n ms ih =>
    obtain ⟨first, others⟩ := List.pairwise_cons.mp h
    rw [Json.put]
    split
    case h_1 less =>
      refine List.pairwise_cons.mpr ⟨fun m hm => ?_, h⟩
      rcases List.mem_cons.mp hm with rfl | later
      · exact less
      · exact Std.TransCmp.lt_trans less (first m later)
    case h_2 same =>
      obtain rfl := Std.LawfulEqOrd.eq_of_compare same
      exact List.pairwise_cons.mpr ⟨first, others⟩
    case h_3 greater =>
      refine List.pairwise_cons.mpr ⟨fun m hm => ?_, ih others⟩
      rcases mem_put hm with rfl | old
      · exact Std.OrientedCmp.lt_of_gt greater
      · exact first m old

theorem put_last {key : String} {value : Json} {ms : List (String × Json)}
    (above : ∀ m ∈ ms, compare m.1 key = .lt) : put key value ms = ms ++ [(key, value)] := by
  induction ms with
  | nil => rfl
  | cons n ms ih =>
    rw [List.forall_mem_cons] at above
    rw [put, Std.OrientedCmp.gt_of_lt above.1]
    exact congrArg (n :: ·) (ih above.2)

theorem mem_sortedMembers {ms done : List (String × Json)} {m : String × Json}
    (h : m ∈ sortedMembers done ms) : m ∈ done ∨ ∃ n ∈ ms, m = (n.1, sorted n.2) := by
  induction ms generalizing done with
  | nil => exact .inl h
  | cons n ms ih =>
    rcases ih h with before | ⟨l, hl, rfl⟩
    · rcases mem_put before with rfl | old
      · exact .inr ⟨n, List.mem_cons_self, rfl⟩
      · exact .inl old
    · exact .inr ⟨l, List.mem_cons_of_mem n hl, rfl⟩

theorem sortedMembers_inOrder {done : List (String × Json)} (h : InOrder done)
    (ms : List (String × Json)) : InOrder (sortedMembers done ms) := by
  induction ms generalizing done with
  | nil => exact h
  | cons n ms ih => exact ih (h.put n.1 (sorted n.2))

/-- Members that are in order, with values that are in order, stay where they are. -/
theorem sortedMembers_eq {ms done : List (String × Json)} (h : InOrder (done ++ ms))
    (values : ∀ m ∈ ms, sorted m.2 = m.2) : sortedMembers done ms = done ++ ms := by
  induction ms generalizing done with
  | nil => exact (List.append_nil done).symm
  | cons n ms ih =>
    rw [List.forall_mem_cons] at values
    -- the members that are done are below the next one, so that this is put at the end
    have above : ∀ m ∈ done, compare m.1 n.1 = .lt := by
      intro m hm
      exact (List.pairwise_append.mp h).2.2 m hm n List.mem_cons_self
    rw [sortedMembers, values.1, put_last above, ih (by simpa using h) values.2, List.append_assoc]
    rfl

/-- Members with other keys change nothing about what is under a key. -/
theorem member?_sortedMembers {key : String} {ms : List (String × Json)}
    (others : ∀ m ∈ ms, m.1 ≠ key) (done : List (String × Json)) :
    member? key (sortedMembers done ms) = member? key done := by
  induction ms generalizing done with
  | nil => rfl
  | cons m ms ih =>
    rw [List.forall_mem_cons] at others
    rw [sortedMembers, ih others.2, member?_put, if_neg others.1.symm]

theorem sortedItems_eq (js : List Json) : sortedItems js = js.map sorted := by
  induction js with
  | nil => rfl
  | cons j js ih => rw [sortedItems, ih, List.map_cons]

end Members

section Depth

inductive Within : Nat → Json → Prop
  | null (depth : Nat) : Within depth .null
  | bool (depth : Nat) (b : Bool) : Within depth (.bool b)
  | number (depth : Nat) (n : Number) : Within depth (.number n)
  | string (depth : Nat) (s : String) : Within depth (.string s)
  | array {depth : Nat} {items : List Json} (all : ∀ j ∈ items, Within depth j) :
      Within (depth + 1) (.array items)
  | object {depth : Nat} {members : List (String × Json)}
      (all : ∀ m ∈ members, Within depth m.2) : Within (depth + 1) (.object members)

variable {depth : Nat} {j : Json}

theorem Within.sorted (h : Within depth j) : Within depth j.sorted := by
  induction h with
  | array _ ih =>
    rw [Json.sorted, sortedItems_eq]
    refine .array fun j hj => ?_
    obtain ⟨i, hi, rfl⟩ := List.mem_map.mp hj
    exact ih i hi
  | object _ ih =>
    refine .object fun m hm => ?_
    obtain ⟨n, hn, rfl⟩ := (mem_sortedMembers hm).resolve_left List.not_mem_nil
    exact ih n hn
  | _ => constructor

theorem Within.sorted_sorted (h : Within depth j) : j.sorted.sorted = j.sorted := by
  induction h with
  | @array _ items _ ih =>
    rw [Json.sorted, sortedItems_eq, Json.sorted, sortedItems_eq, List.map_map]
    exact congrArg Json.array (List.map_congr_left ih)
  | @object _ members _ ih =>
    rw [Json.sorted, Json.sorted, sortedMembers_eq]
    · rfl
    · exact sortedMembers_inOrder .nil members
    · intro m hm
      obtain ⟨n, hn, rfl⟩ := (mem_sortedMembers hm).resolve_left List.not_mem_nil
      exact ih n hn
  | _ => rfl

/-- The numbers stay, except for those in members whose key comes again. -/
theorem Within.sorted_numbers (h : Within depth j) {P : Number → Prop}
    (all : ∀ n ∈ j.numbers, P n) : ∀ n ∈ j.sorted.numbers, P n := by
  induction h with
  | array _ ih =>
    rw [numbers, forall_itemNumbers] at all
    rw [Json.sorted, sortedItems_eq, numbers, forall_itemNumbers, List.forall_mem_map]
    exact fun j hj => ih j hj (all j hj)
  | object _ ih =>
    rw [numbers, forall_memberNumbers] at all
    rw [Json.sorted, numbers, forall_memberNumbers]
    intro m hm
    obtain ⟨n, hn, rfl⟩ := (mem_sortedMembers hm).resolve_left List.not_mem_nil
    exact ih n hn (all n hn)
  | _ => exact all

theorem items?_eq {js : List Json} (all : ∀ j ∈ js, toJson? depth (ofJson j) = some j.sorted) :
    items? depth (ofItems js) = some (sortedItems js) := by
  induction js with
  | nil => rfl
  | cons j js ih =>
    rw [List.forall_mem_cons] at all
    rw [ofItems, items?, all.1, ih all.2]
    rfl

theorem members?_eq {ms : List (String × Json)} (done : List (String × Json))
    (all : ∀ m ∈ ms, toJson? depth (ofJson m.2) = some m.2.sorted) :
    members? depth done (ofMembers ms) = some (sortedMembers done ms) := by
  induction ms generalizing done with
  | nil => rfl
  | cons m ms ih =>
    rw [List.forall_mem_cons] at all
    rw [ofMembers, members?, all.1]
    exact ih _ all.2

/-- A value that is read as a whole comes out in order. -/
theorem Within.whole (h : Within depth j) {room : Nat} (deep : depth ≤ room) :
    toJson? room (ofJson j) = some j.sorted := by
  induction h generalizing room with
  | @array depth items _ ih =>
    obtain ⟨room, rfl⟩ : ∃ k, room = k + 1 := ⟨room - 1, by omega⟩
    have inner := items?_eq fun j hj => ih j hj (Nat.le_of_succ_le_succ deep)
    rw [ofJson, toJson?, inner]
    rfl
  | @object depth members _ ih =>
    obtain ⟨room, rfl⟩ : ∃ k, room = k + 1 := ⟨room - 1, by omega⟩
    have inner := members?_eq [] fun m hm => ih m hm (Nat.le_of_succ_le_succ deep)
    rw [ofJson, toJson?, inner]
    rfl
  | _ => rfl

theorem Within.mono (h : Within depth j) {more : Nat} (deeper : depth ≤ more) : Within more j := by
  induction h generalizing more with
  | array _ ih =>
    obtain ⟨more, rfl⟩ : ∃ k, more = k + 1 := ⟨more - 1, by omega⟩
    exact .array fun j hj => ih j hj (Nat.le_of_succ_le_succ deeper)
  | object _ ih =>
    obtain ⟨more, rfl⟩ : ∃ k, more = k + 1 := ⟨more - 1, by omega⟩
    exact .object fun m hm => ih m hm (Nat.le_of_succ_le_succ deeper)
  | _ => constructor

theorem Within.isSound (h : Within depth j) {room : Nat} (deep : depth ≤ room) :
    (ofJson j).isSound room = true := by
  rw [Draft.isSound, h.whole deep]
  rfl

end Depth

section Portable

structure Portable (depth : Nat) (j : Json) : Prop where
  within : Within depth j
  numbers : ∀ n ∈ j.numbers, ReadsBack n

variable {depth : Nat} {j : Json}

namespace Portable

theorem null (depth : Nat) : Portable depth .null := ⟨.null depth, nofun⟩

theorem bool (depth : Nat) (b : Bool) : Portable depth (.bool b) := ⟨.bool depth b, nofun⟩

theorem string (depth : Nat) (s : String) : Portable depth (.string s) := ⟨.string depth s, nofun⟩

theorem number {n : Number} (depth : Nat) (back : ReadsBack n) : Portable depth (.number n) :=
  ⟨.number depth n, List.forall_mem_singleton.mpr back⟩

theorem nullable {α : Type} {write : α → Json} (o : Option α)
    (held : ∀ a ∈ o, Portable depth (write a)) : Portable depth (Json.nullable write o) := by
  cases o with
  | none => exact null depth
  | some a => exact held a rfl

theorem array {items : List Json} (all : ∀ j ∈ items, Portable depth j) :
    Portable (depth + 1) (.array items) where
  within := .array fun j hj => (all j hj).within
  numbers := forall_itemNumbers.mpr fun j hj => (all j hj).numbers

theorem object {members : List (String × Json)} (all : ∀ m ∈ members, Portable depth m.2) :
    Portable (depth + 1) (.object members) where
  within := .object fun m hm => (all m hm).within
  numbers := forall_memberNumbers.mpr fun m hm => (all m hm).numbers

theorem optional {α : Type} {write : α → Json} (key : String) (o : Option α)
    (held : ∀ a ∈ o, Portable depth (write a)) :
    ∀ m ∈ Json.optional key write o, Portable depth m.2 := by
  cases o with
  | none => exact nofun
  | some a => exact List.forall_mem_singleton.mpr (held a rfl)

theorem mono (h : Portable depth j) {more : Nat} (deeper : depth ≤ more) : Portable more j :=
  ⟨h.within.mono deeper, h.numbers⟩

theorem sorted (h : Portable depth j) : Portable depth j.sorted :=
  ⟨h.within.sorted, h.within.sorted_numbers h.numbers⟩

/-- What is written compactly is parsed as the value in order. -/
theorem parse_compact (h : Portable depth j) (shallow : depth ≤ 127) :
    parse? j.compact = some j.sorted := by
  have read := (write_spells j h.numbers).read
  rw [parse?, Json.compact, read]
  exact h.within.whole shallow

end Portable

end Portable

end ControlPlane.Json
