import ControlPlane.Proofs.Json.Sorted
import ControlPlane.Proofs.Wire.Snapshots
import ControlPlane.Wire.Event

/-!
# Events are decoded as they were

An event of any kind comes out of its JSON form as it went in, and the `type` in its text
is the name of its kind. Its text is read back, given that the text of its confidence is
read as the same number.

The type is found first, among members that are read as a whole; the fields of the kind are
then read from the others. So there are two parts: the fields make the event
(`shape_makes`), and what is written beside the type is sound and is no second type.
-/

set_option autoImplicit false

namespace ControlPlane

namespace Event

def confidence? : Event → Option Float
  | intakeCompleted confidence _ _ | planBaselined confidence _
  | scheduleDecided confidence _ | replanApplied confidence => some confidence
  | switchResolved confidence _ => confidence
  | _ => none

theorem fields_untyped (e : Event) : ∀ m ∈ e.fields, m.1 ≠ "type" := by
  cases e <;> simp [fields]

end Event

namespace Decode

open Draft (ofJson ofMembers)
open Json (Portable ReadsBack Within)

def drafts (ms : List (String × Json)) : List (String × Draft) :=
  ms.map fun m => (m.1, ofJson m.2)

theorem ofMembers_eq (ms : List (String × Json)) : ofMembers ms = present (drafts ms) := by
  induction ms with
  | nil => rfl
  | cons m ms ih => exact congrArg ((some m.1, ofJson m.2) :: ·) ih

section Shapes

namespace Shape

def Makes (s : Shape) (ms : List (String × Draft)) (e : Event) : Prop :=
  ∃ room, Fits s.fields room ms ∧
    ∀ src : Source, src.HasRoom room → s.build ⟨src, ms⟩ = .ok e

variable {α : Type} {decode : Decoder α} {room : Nat} {d : Draft} {a : α}

theorem plain_makes (e : Event) : (plain e).Makes [] e :=
  ⟨0, InPlace.nil.fits .nil, fun _ _ => rfl⟩

theorem single_makes (h : Gives decode room d a) (name : String) (make : α → Event) :
    (single name decode make).Makes [(name, d)] (make a) := by
  refine ⟨room, (InPlace.cons (h.needed name) .nil).fits (List.pairwise_singleton _ name),
    fun src wide => ?_⟩
  have found : Record.get ⟨src, [(name, d)]⟩ name decode = .ok a := by
    simp [Record.get, h src wide]
  change (Record.get _ name decode).map make = _
  rw [found]
  rfl

theorem lone_makes (h : Gives decode room d a) (name : String) (default : α)
    (make : α → Event) : (lone name decode default make).Makes [(name, d)] (make a) := by
  refine ⟨room, (InPlace.cons (h.optional name) .nil).fits (List.pairwise_singleton _ name),
    fun src wide => ?_⟩
  have found : Record.getD ⟨src, [(name, d)]⟩ name decode default = .ok a := by
    simp [Record.getD, h src wide]
  change (Record.getD _ name decode default).map make = _
  rw [found]
  rfl

end Shape

theorem eventKind_tag (k : EventKind) : eventKind (ofJson (.string k.tag)) = .ok k := by
  have known : EventKind.all.find? (fun l => l.tag == k.tag) = some k := by
    simp only [EventKind.tag_eq_name]
    cases k <;> decide
  change eventKinds.find k.tag = _
  simp only [Names.find, eventKinds, known]

theorem researchDecision_gives (r : ResearchDecision) :
    Gives researchDecisions.decode 0 (ofJson (.string r.name)) r :=
  name_gives (by cases r <;> decide)

theorem reviewDecision_gives (r : ReviewDecision) :
    Gives reviewDecisions.decode 0 (ofJson (.string r.name)) r :=
  name_gives (by cases r <;> decide)

theorem float?_gives (o : Option Float) :
    Gives (orNull float) 0 (ofJson (.nullable .float o)) o :=
  orNull_gives float_gives nofun

theorem u32?_gives (o : Option UInt32) :
    Gives (orNull u32) 0 (ofJson (.nullable (fun n => .int n.toNat) o)) o :=
  orNull_gives u32_gives nofun

/-- Every event is made of the fields that are written of it. -/
theorem shape_makes (e : Event) : (shape e.kind).Makes (drafts e.fields) e := by
  cases e with
  | bdProbeResult cs => exact Shape.lone_makes (candidates_gives cs) _ _ _
  | resumeDecision resume => exact Shape.single_makes (bool_gives resume) _ _
  | resumePlanLoaded epicId => exact Shape.lone_makes (text?_gives epicId) _ _ _
  | userInput text => exact Shape.single_makes (string_gives text) _ _
  | intakeCompleted confidence conflict epicId =>
    have c := float_gives confidence
    have b := bool_gives conflict
    have id := text?_gives epicId
    have fields : InPlace 0 (shape .intakeCompleted).fields _ :=
      .cons (c.needed _) <| .cons (b.optional _) <| .cons (id.optional _) .nil
    exact ⟨0, fields.fits (by decide), fun _ wide =>
      c.get wide rfl <| b.getD wide rfl <| id.getD wide rfl rfl⟩
  | switchResolved confidence epicId =>
    have c := float?_gives confidence
    have id := text?_gives epicId
    have fields : InPlace 0 (shape .switchResolved).fields _ :=
      .cons (c.optional _) <| .cons (id.optional _) .nil
    exact ⟨0, fields.fits (by decide), fun _ wide => c.getD wide rfl <| id.getD wide rfl rfl⟩
  | epicSynced epicId => exact Shape.lone_makes (text?_gives epicId) _ _ _
  | planBaselined confidence needPlanReview =>
    have c := float_gives confidence
    have b := bool_gives needPlanReview
    have fields : InPlace 0 (shape .planBaselined).fields _ :=
      .cons (c.needed _) <| .cons (b.optional _) .nil
    exact ⟨0, fields.fits (by decide), fun _ wide => c.get wide rfl <| b.getD wide rfl rfl⟩
  | planReviewFeedback blocking => exact Shape.lone_makes (bool_gives blocking) _ _ _
  | observeDefined expected => exact Shape.lone_makes (u32?_gives expected) _ _ _
  | researchResult a => exact Shape.single_makes (artifact_gives a) _ _
  | researchEvaluated decision missing =>
    have r := researchDecision_gives decision
    have n := u32?_gives missing
    have fields : InPlace 0 (shape .researchEvaluated).fields _ :=
      .cons (r.optional _) <| .cons (n.optional _) .nil
    exact ⟨0, fields.fits (by decide), fun _ wide => r.getD wide rfl <| n.getD wide rfl rfl⟩
  | scheduleDecided confidence busy =>
    have c := float_gives confidence
    have b := bool_gives busy
    have fields : InPlace 0 (shape .scheduleDecided).fields _ :=
      .cons (c.needed _) <| .cons (b.optional _) .nil
    exact ⟨0, fields.fits (by decide), fun _ wide => c.get wide rfl <| b.getD wide rfl rfl⟩
  | dispatchResult ok error =>
    have b := bool_gives ok
    have text := text?_gives error
    have fields : InPlace 0 (shape .dispatchResult).fields _ :=
      .cons (b.needed _) <| .cons (text.optional _) .nil
    exact ⟨0, fields.fits (by decide), fun _ wide => b.get wide rfl <| text.getD wide rfl rfl⟩
  | reviewResult decision claims =>
    have r := reviewDecision_gives decision
    have n := u32_gives claims
    have fields : InPlace 0 (shape .reviewResult).fields _ :=
      .cons (r.optional _) <| .cons (n.optional _) .nil
    exact ⟨0, fields.fits (by decide), fun _ wide => r.getD wide rfl <| n.getD wide rfl rfl⟩
  | replanApplied confidence => exact Shape.single_makes (float_gives confidence) _ _
  | requirementChanged summary => exact Shape.lone_makes (text?_gives summary) _ _ _
  | cancel reason => exact Shape.lone_makes (text?_gives reason) _ _ _
  | fatalError error => exact Shape.single_makes (string_gives error) _ _
  | heartbeat agentId => exact Shape.single_makes (string_gives agentId) _ _
  | _ => exact Shape.plain_makes _

theorem eventBody_makes {kind : EventKind} {ms : List (String × Draft)} {e : Event}
    (made : (shape kind).Makes ms e) : eventBody kind (.object (present ms) true) = .ok e := by
  obtain ⟨room, fits, built⟩ := made
  exact fits.gives built .value trivial

end Shapes

section Members

variable {e : Event}

theorem fields_portable (back : ∀ x ∈ e.confidence?, ReadsBack (.float x)) :
    ∀ m ∈ e.fields, Portable 3 m.2 := by
  have count (n : Option UInt32) : Portable 3 (.nullable (fun n => .int n.toNat) n) :=
    .nullable n fun n _ => u32_portable 3 n
  cases e with
  | bdProbeResult cs => exact List.forall_mem_singleton.mpr (candidates_portable cs)
  | resumeDecision resume => exact List.forall_mem_singleton.mpr (.bool 3 resume)
  | resumePlanLoaded id => exact List.forall_mem_singleton.mpr (text?_portable 3 id)
  | userInput text => exact List.forall_mem_singleton.mpr (.string 3 text)
  | intakeCompleted confidence conflict id =>
    simp only [Event.fields, List.forall_mem_cons]
    exact ⟨.number 3 (back _ rfl), .bool 3 conflict, text?_portable 3 id, nofun⟩
  | switchResolved confidence id =>
    simp only [Event.fields, List.forall_mem_cons]
    exact ⟨.nullable confidence fun x hx => .number 3 (back x hx), text?_portable 3 id, nofun⟩
  | epicSynced id => exact List.forall_mem_singleton.mpr (text?_portable 3 id)
  | planBaselined confidence review =>
    simp only [Event.fields, List.forall_mem_cons]
    exact ⟨.number 3 (back _ rfl), .bool 3 review, nofun⟩
  | planReviewFeedback blocking => exact List.forall_mem_singleton.mpr (.bool 3 blocking)
  | observeDefined expected => exact List.forall_mem_singleton.mpr (count expected)
  | researchResult a =>
    exact List.forall_mem_singleton.mpr ((artifact_portable a).mono (by decide))
  | researchEvaluated decision missing =>
    simp only [Event.fields, List.forall_mem_cons]
    exact ⟨.string 3 _, count missing, nofun⟩
  | scheduleDecided confidence busy =>
    simp only [Event.fields, List.forall_mem_cons]
    exact ⟨.number 3 (back _ rfl), .bool 3 busy, nofun⟩
  | dispatchResult ok error =>
    simp only [Event.fields, List.forall_mem_cons]
    exact ⟨.bool 3 ok, text?_portable 3 error, nofun⟩
  | reviewResult decision claims =>
    simp only [Event.fields, List.forall_mem_cons]
    exact ⟨.string 3 _, u32_portable 3 claims, nofun⟩
  | replanApplied confidence => exact List.forall_mem_singleton.mpr (.number 3 (back _ rfl))
  | requirementChanged summary => exact List.forall_mem_singleton.mpr (text?_portable 3 summary)
  | cancel reason => exact List.forall_mem_singleton.mpr (text?_portable 3 reason)
  | fatalError error => exact List.forall_mem_singleton.mpr (.string 3 error)
  | heartbeat agentId => exact List.forall_mem_singleton.mpr (.string 3 agentId)
  | _ => exact nofun

theorem event_portable (back : ∀ x ∈ e.confidence?, ReadsBack (.float x)) :
    Portable 4 e.toJson :=
  .object (List.forall_mem_cons.mpr ⟨.string 3 _, fields_portable back⟩)

theorem eventMembers_pass {depth : Nat} (kind? : Option EventKind) {ms : List (String × Json)}
    (untyped : ∀ m ∈ ms, m.1 ≠ "type") (sound : ∀ m ∈ ms, (ofJson m.2).isSound depth = true) :
    eventMembers depth kind? (ofMembers ms) = .ok kind? := by
  induction ms with
  | nil => rfl
  | cons m ms ih =>
    rw [List.forall_mem_cons] at untyped sound
    simp only [ofMembers, eventMembers, untyped.1, sound.1, if_false, if_true]
    exact ih untyped.2 sound.2

theorem filter_untyped {ms : List (String × Json)} (untyped : ∀ m ∈ ms, m.1 ≠ "type") :
    (ofMembers ms).filter (fun m => m.1 ≠ some "type") = present (drafts ms) := by
  rw [ofMembers_eq, List.filter_eq_self]
  intro m hm
  simp only [present, drafts, List.map_map, List.mem_map] at hm
  obtain ⟨n, hn, rfl⟩ := hm
  simpa using untyped n hn

theorem event_gives (back : ∀ x ∈ e.confidence?, ReadsBack (.float x)) :
    Gives event 4 (ofJson e.toJson) e := by
  intro src wide
  obtain ⟨inner, entered, wide⟩ := wide.enter
  have sound : ∀ m ∈ e.fields, (ofJson m.2).isSound inner.depth = true := fun m hm =>
    (fields_portable back m hm).within.isSound (wide.depth (by decide))
  -- the type is found by its tag, and the rest is passed over
  have typed : eventMembers inner.depth none
      (ofMembers (("type", .string e.kind.tag) :: e.fields)) = .ok (some e.kind) := by
    rw [ofMembers, eventMembers, if_pos rfl, eventKind_tag]
    exact eventMembers_pass (some e.kind) e.fields_untyped sound
  have others : (ofMembers (("type", .string e.kind.tag) :: e.fields)).filter
      (fun m => m.1 ≠ some "type") = present (drafts e.fields) := by
    rw [ofMembers, List.filter_cons_of_neg (by simp)]
    exact filter_untyped e.fields_untyped
  rw [Event.toJson, ofJson, event, entered]
  simp only [bind, Except.bind, typed, others, if_true]
  exact eventBody_makes (shape_makes e)

end Members

section Texts

variable {e : Event}

/-- The type in the text of an event is its tag, and this agrees with the name of its kind. -/
theorem event_type (back : ∀ x ∈ e.confidence?, ReadsBack (.float x)) :
    ∃ members, Json.parse? e.toJson.compact = some (.object members) ∧
      Json.member? "type" members = some (.string e.kind.name) := by
  refine ⟨_, (event_portable back).parse_compact (by decide), ?_⟩
  rw [Json.sortedMembers, Json.member?_sortedMembers e.fields_untyped, ← EventKind.tag_eq_name]
  rfl

/-- An event of any kind is read back from the text that is written of it, whose type is the
name of its kind. So an event that came out of some text comes out of its own text again. -/
theorem event_survives (back : ∀ x ∈ e.confidence?, ReadsBack (.float x)) :
    decodeText event e.toJson.compact = .ok e ∧
    (∃ members, Json.parse? e.toJson.compact = some (.object members) ∧
      Json.member? "type" members = some (.string e.kind.name)) ∧
    ∀ text, decodeText event text = .ok e →
      decodeText event e.toJson.compact = decodeText event text := by
  have again : decodeText event e.toJson.compact = .ok e :=
    (event_gives back).compact (by decide) (event_portable back).numbers
  exact ⟨again, event_type back, fun text read => again.trans read.symm⟩

def conflicting : Event := .intakeCompleted confidenceThreshold true (some "epic \"7\"")

theorem event_survives_conflicting :
    (∀ x ∈ conflicting.confidence?, ReadsBack (.float x)) ∧
      decodeText event conflicting.toJson.compact = .ok conflicting ∧
      ∃ members, Json.parse? conflicting.toJson.compact = some (.object members) ∧
        Json.member? "type" members = some (.string "intake_completed") := by
  have back : ∀ x ∈ conflicting.confidence?, ReadsBack (.float x) := by
    rintro x ⟨⟩
    exact threshold_readsBack
  obtain ⟨again, type, -⟩ := event_survives back
  exact ⟨back, again, type⟩

end Texts

end Decode

end ControlPlane
