import ControlPlane.Json.Decoder
import ControlPlane.Proofs.Json.Spelling

/-!
# What decoders make of written values

A decoder gives a value for a draft if it does so wherever there is room for the arrays
and objects in it, on a text as well as on a value that has been read as a whole. The
members of a record may stand in any order; what is asked of them is that each is
accepted by the field of its name, that none comes twice and that none is missing.
-/

set_option autoImplicit false

namespace ControlPlane.Decode

open Draft (ofJson ofItems)

variable {α : Type}

section Room

def Source.HasRoom : Source → Nat → Prop
  | .text depth, room => room ≤ depth
  | .value, _ => True

theorem Source.HasRoom.mono {src : Source} {room less : Nat} (h : src.HasRoom room)
    (fewer : less ≤ room) : src.HasRoom less := by
  cases src with
  | text depth => exact Nat.le_trans fewer h
  | value => trivial

theorem Source.HasRoom.enter {src : Source} {room : Nat} (h : src.HasRoom (room + 1)) :
    ∃ inner, src.enter = .ok inner ∧ inner.HasRoom room := by
  cases src with
  | text depth =>
    obtain ⟨depth, rfl⟩ : ∃ k, depth = k + 1 := ⟨depth - 1, by simp [HasRoom] at h; omega⟩
    exact ⟨.text depth, rfl, Nat.le_of_succ_le_succ h⟩
  | value => exact ⟨.value, rfl, trivial⟩

theorem Source.HasRoom.depth {src : Source} {room : Nat} (h : src.HasRoom room)
    (shallow : room ≤ 127) : room ≤ src.depth := by
  cases src with
  | text depth => exact h
  | value => exact shallow

end Room

section Values

def Gives (decode : Decoder α) (room : Nat) (d : Draft) (a : α) : Prop :=
  ∀ src : Source, src.HasRoom room → decode src d = .ok a

theorem Gives.mono {decode : Decoder α} {room more : Nat} {d : Draft} {a : α}
    (h : Gives decode room d a) (fewer : room ≤ more) : Gives decode more d a :=
  fun src wide => h src (wide.mono fewer)

theorem bool_gives (b : Bool) : Gives bool 0 (ofJson (.bool b)) b := fun _ _ => rfl

theorem string_gives (s : String) : Gives string 0 (ofJson (.string s)) s := fun _ _ => rfl

theorem float_gives (x : Float) : Gives float 0 (ofJson (.float x)) x := fun _ _ => rfl

theorem counter?_toNat (n : UInt32) : Decimal.counter? (n.toNat : Int) = some n := by
  have bound : n.toNat < 4294967296 := n.toNat_lt
  rw [Decimal.counter?, if_pos (by omega)]
  simp

theorem u32_gives (n : UInt32) : Gives u32 0 (ofJson (.int n.toNat)) n := by
  intro src _
  simp [Json.int, ofJson, u32, counter?_toNat]

theorem fitsSigned_toInt (n : Int64) : Decimal.fitsSigned n.toInt = true := by
  have low := n.le_toInt
  have high := n.toInt_lt
  simp only [Decimal.fitsSigned, Bool.and_eq_true, decide_eq_true_eq]
  omega

theorem i64_gives (n : Int64) : Gives i64 0 (ofJson (.int n.toInt)) n := by
  intro src _
  simp [Json.int, ofJson, i64, fitsSigned_toInt]

theorem orNull_some {decode : Decoder α} {room : Nat} {j : Json} {a : α}
    (h : Gives decode room (ofJson j) a) (present : j ≠ .null) :
    Gives (orNull decode) room (ofJson j) (some a) := by
  intro src wide
  have here := h src wide
  cases j with
  | null => exact absurd rfl present
  | _ =>
    simp only [ofJson] at here ⊢
    simp [orNull, here, Except.map]

theorem orNull_gives {decode : Decoder α} {room : Nat} {write : α → Json} {o : Option α}
    (gives : ∀ a, Gives decode room (ofJson (write a)) a) (present : ∀ a, write a ≠ .null) :
    Gives (orNull decode) room (ofJson (Json.nullable write o)) o := by
  cases o with
  | none => exact fun _ _ => rfl
  | some a => exact orNull_some (gives a) (present a)

theorem each_gives {decode : Decoder α} {room : Nat} {write : α → Json} {src : Source}
    (wide : src.HasRoom room) (as : List α)
    (all : ∀ a ∈ as, Gives decode room (ofJson (write a)) a) :
    each decode src (ofItems (as.map write)) = .ok as := by
  induction as with
  | nil => rfl
  | cons a as ih =>
    rw [List.forall_mem_cons] at all
    rw [List.map_cons, ofItems, each, all.1 src wide, ih all.2]
    rfl

theorem list_gives {decode : Decoder α} {room : Nat} {write : α → Json} (as : List α)
    (all : ∀ a ∈ as, Gives decode room (ofJson (write a)) a) :
    Gives (list decode) (room + 1) (ofJson (.array (as.map write))) as := by
  intro src wide
  obtain ⟨inner, entered, wide⟩ := wide.enter
  rw [ofJson, list, entered]
  simp [bind, Except.bind, each_gives wide as all]

theorem name_gives {ns : Names α} {a : α}
    (known : ns.all.find? (fun b => ns.name b == ns.name a) = some a) :
    Gives ns.decode 0 (ofJson (.string (ns.name a))) a := by
  intro src _
  cases src <;> simp [ofJson, Names.decode, Names.find, known]

end Values

section Records

def Field.Takes (f : Field) (room : Nat) (d : Draft) : Prop :=
  ∀ src : Source, src.HasRoom room → f.check src d = .ok ()

def Known (fields : List Field) (room : Nat) (m : String × Draft) : Prop :=
  ∃ f, fields.find? (fun f => f.name == m.1) = some f ∧ f.Takes room m.2

structure Fits (fields : List Field) (room : Nat) (ms : List (String × Draft)) : Prop where
  distinct : (ms.map Prod.fst).Nodup
  known : ∀ m ∈ ms, Known fields room m
  complete : firstMissing fields ms = none

theorem firstMissing_eq_none {fields : List Field} {ms : List (String × Draft)} :
    firstMissing fields ms = none ↔
      ∀ f ∈ fields, f.required = true → f.name ∈ ms.map Prod.fst := by
  simp [firstMissing, List.lookup_eq_none_iff]

/-- The members of a record may come in any order. -/
theorem Fits.perm {fields : List Field} {room : Nat} {ms ns : List (String × Draft)}
    (h : Fits fields room ms) (same : ms.Perm ns) : Fits fields room ns where
  distinct := (same.map _).nodup_iff.mp h.distinct
  known m hm := h.known m (same.mem_iff.mpr hm)
  complete := firstMissing_eq_none.mpr fun f hf needed =>
    (same.map _).mem_iff.mp (firstMissing_eq_none.mp h.complete f hf needed)

theorem lookup_iff {ms : List (String × Draft)} (distinct : (ms.map Prod.fst).Nodup)
    {name : String} {d : Draft} : ms.lookup name = some d ↔ (name, d) ∈ ms := by
  rw [List.lookup_eq_some_iff]
  constructor
  · rintro ⟨before, after, rfl, -⟩
    simp
  · intro there
    obtain ⟨before, after, rfl⟩ := List.append_of_mem there
    refine ⟨before, after, rfl, fun m hm => ?_⟩
    rw [List.map_append, List.nodup_append] at distinct
    simpa using (distinct.2.2 m.1 (List.mem_map_of_mem hm) name (by simp)).symm

theorem Fits.lookup_perm {fields : List Field} {room : Nat} {ms ns : List (String × Draft)}
    (h : Fits fields room ms) (same : ms.Perm ns) (name : String) :
    ns.lookup name = ms.lookup name :=
  Option.ext fun d => by
    rw [lookup_iff h.distinct, lookup_iff (h.perm same).distinct, same.mem_iff]

theorem Gives.needed {decode : Decoder α} {room : Nat} {d : Draft} {a : α}
    (h : Gives decode room d a) (name : String) : (Field.needed name decode).Takes room d := by
  intro src wide
  change Field.accepts decode src d = .ok ()
  rw [Field.accepts, h src wide]
  rfl

theorem Gives.optional {decode : Decoder α} {room : Nat} {d : Draft} {a : α}
    (h : Gives decode room d a) (name : String) : (Field.optional name decode).Takes room d :=
  h.needed name

def present (ms : List (String × Draft)) : List (Option String × Draft) :=
  ms.map fun m => (some m.1, m.2)

theorem ofJson_object (ms : List (String × Json)) :
    ofJson (.object ms) = .object (present (ms.map fun m => (m.1, ofJson m.2))) true := by
  rw [ofJson]
  congr 1
  induction ms with
  | nil => rfl
  | cons m ms ih => exact congrArg ((some m.1, ofJson m.2) :: ·) ih

theorem named_present (ms : List (String × Draft)) : named (present ms) = ms := by
  induction ms with
  | nil => rfl
  | cons m ms ih => exact congrArg (m :: ·) ih

theorem checkMembers_present {fields : List Field} {room : Nat} {src : Source}
    (wide : src.HasRoom room) (ms : List (String × Draft)) (seen : List String)
    (distinct : (ms.map Prod.fst).Nodup) (fresh : ∀ m ∈ ms, m.1 ∉ seen)
    (known : ∀ m ∈ ms, Known fields room m) :
    checkMembers fields src seen (present ms) = .ok () := by
  induction ms generalizing seen with
  | nil => rfl
  | cons m ms ih =>
    rw [List.map_cons, List.nodup_cons] at distinct
    rw [List.forall_mem_cons] at fresh known
    obtain ⟨⟨f, found, accepted⟩, known⟩ := known
    have rest := ih (m.1 :: seen) distinct.2 (fun n hn => by
      rw [List.mem_cons, not_or]
      refine ⟨fun same => distinct.1 ?_, fresh.2 n hn⟩
      rw [← same]
      exact List.mem_map_of_mem hn) known
    rw [present, List.map_cons, checkMembers, found]
    simp only [List.contains_iff_mem, fresh.1, if_false, accepted src wide]
    exact rest

theorem Known.cons {fields : List Field} {room : Nat} {m : String × Draft} {f : Field}
    (h : Known fields room m) (apart : f.name ∉ fields.map (·.name)) :
    Known (f :: fields) room m := by
  obtain ⟨g, found, taken⟩ := h
  have name : g.name = m.1 := by simpa using List.find?_some found
  have other : f.name ≠ m.1 := by
    intro same
    apply apart
    rw [same, ← name]
    exact List.mem_map_of_mem (List.mem_of_find?_eq_some found)
  exact ⟨g, by simp [other, found], taken⟩

inductive InPlace (room : Nat) : List Field → List (String × Draft) → Prop
  | nil : InPlace room [] []
  | cons {f : Field} {d : Draft} {fs : List Field} {ms : List (String × Draft)}
      (taken : f.Takes room d) (rest : InPlace room fs ms) :
      InPlace room (f :: fs) ((f.name, d) :: ms)
  | skip {f : Field} {fs : List Field} {ms : List (String × Draft)}
      (free : f.required = false) (rest : InPlace room fs ms) : InPlace room (f :: fs) ms

namespace InPlace

variable {fields : List Field} {room : Nat} {ms : List (String × Draft)}

theorem names (h : InPlace room fields ms) :
    (ms.map Prod.fst).Sublist (fields.map (·.name)) := by
  induction h with
  | nil => exact .slnil
  | cons _ _ ih => exact ih.cons_cons _
  | skip _ _ ih => exact ih.cons _

theorem known (h : InPlace room fields ms) (distinct : (fields.map (·.name)).Nodup) :
    ∀ m ∈ ms, Known fields room m := by
  induction h with
  | nil => exact nofun
  | @cons f d fields ms taken _ ih =>
    rw [List.map_cons, List.nodup_cons] at distinct
    rw [List.forall_mem_cons]
    exact ⟨⟨f, by simp, taken⟩, fun m hm => (ih distinct.2 m hm).cons distinct.1⟩
  | skip _ _ ih =>
    rw [List.map_cons, List.nodup_cons] at distinct
    exact fun m hm => (ih distinct.2 m hm).cons distinct.1

theorem required (h : InPlace room fields ms) {f : Field} (hf : f ∈ fields)
    (needed : f.required = true) : f.name ∈ ms.map Prod.fst := by
  induction h with
  | nil => cases hf
  | cons _ _ ih =>
    rcases List.mem_cons.mp hf with rfl | later
    · exact List.mem_cons_self
    · exact List.mem_cons_of_mem _ (ih later)
  | skip free _ ih =>
    rcases List.mem_cons.mp hf with rfl | later
    · rw [needed] at free
      cases free
    · exact ih later

theorem fits (h : InPlace room fields ms) (distinct : (fields.map (·.name)).Nodup) :
    Fits fields room ms where
  distinct := distinct.sublist h.names
  known := h.known distinct
  complete := firstMissing_eq_none.mpr fun _ => h.required

end InPlace

/-- A record that is made of its fields once they are known to be sound. -/
theorem Fits.gives {fields : List Field} {room : Nat} {ms : List (String × Draft)}
    (h : Fits fields room ms) {title : String} {build : Record → Decoded α} {a : α}
    (made : ∀ inner : Source, inner.HasRoom room → build ⟨inner, ms⟩ = .ok a) :
    Gives (fun src d => record title fields src d >>= build) (room + 1)
      (.object (present ms) true) a := by
  intro src wide
  obtain ⟨inner, entered, wide⟩ := wide.enter
  have sound := checkMembers_present wide ms [] h.distinct (by simp) h.known
  have read : record title fields src (.object (present ms) true) = .ok ⟨inner, ms⟩ := by
    rw [record, entered]
    simp only [bind, Except.bind, sound, named_present, h.complete, if_true]
  change record title fields src _ >>= build = _
  rw [read]
  exact made inner wide

section Fields

variable {β : Type} {decode : Decoder α} {room : Nat} {d : Draft} {a : α} {inner : Source}
  {ms : List (String × Draft)} {name : String} {next : α → Decoded β} {b : β}

theorem Gives.get (h : Gives decode room d a) (wide : inner.HasRoom room)
    (found : ms.lookup name = some d) (rest : next a = .ok b) :
    (Record.get ⟨inner, ms⟩ name decode >>= next) = .ok b := by
  rw [Record.get, found]
  change decode inner d >>= next = _
  rw [h inner wide]
  exact rest

theorem Gives.getD (h : Gives decode room d a) (wide : inner.HasRoom room)
    (found : ms.lookup name = some d) {default : α} (rest : next a = .ok b) :
    (Record.getD ⟨inner, ms⟩ name decode default >>= next) = .ok b := by
  rw [Record.getD, found]
  change decode inner d >>= next = _
  rw [h inner wide]
  exact rest

theorem getD_missing (missing : ms.lookup name = none) {default : α}
    (rest : next default = .ok b) :
    (Record.getD ⟨inner, ms⟩ name decode default >>= next) = .ok b := by
  rw [Record.getD, missing]
  exact rest

end Fields

end Records

section Texts

open Json (Spells ReadsBack)

variable {decode : Decoder α} {room : Nat} {j : Json} {a : α}

theorem Gives.decodeText (h : Gives decode room (ofJson j) a) (shallow : room ≤ 127)
    {t : List Char} (spelled : Spells t j) :
    decodeText decode (String.ofList t) = .ok a := by
  have root := h (.text 127) shallow
  rw [Decode.decodeText, spelled.read]
  simp only [bind, Except.bind, root, if_true]

/-- What is written compactly is read back, given that its numbers are. -/
theorem Gives.compact (h : Gives decode room (ofJson j) a) (shallow : room ≤ 127)
    (back : ∀ n ∈ j.numbers, ReadsBack n) : Decode.decodeText decode j.compact = .ok a :=
  h.decodeText shallow (Json.write_spells j back)

theorem Gives.pretty (h : Gives decode room (ofJson j) a) (shallow : room ≤ 127)
    (back : ∀ n ∈ j.numbers, ReadsBack n) : Decode.decodeText decode j.pretty = .ok a :=
  h.decodeText shallow (Json.writePretty_spells 0 j back)

end Texts

end ControlPlane.Decode
