import ControlPlane.Proofs.Json.Layout
import ControlPlane.Wire.Event

/-!
# Objects laid out in other ways

The fields of a candidate, of a context and of each kind of event are listed with their defaults,
and what is made of them depends on nothing else. Beside its fields an event has its type, which
may stand anywhere among them. A part of a context is the context without anything in it, changed
in the fields of that part.
-/

set_option autoImplicit false

namespace ControlPlane.Decode

section Candidates

def candidateSlots : List Slot :=
  [.needed "epic_id" string, .needed "priority" i64, .needed "updated_at" updatedAt,
   .optional "blocked_by" (orNull (list string)) none]

def candidateFrom (r : Record) : Decoded ResumeCandidate := do
  .ok
    { epicId := ← r.get "epic_id" string
      priority := ← r.get "priority" i64
      updatedAt := ← r.get "updated_at" updatedAt
      blockedBy := ← r.getD "blocked_by" (orNull (list string)) none }

theorem candidate_eq :
    candidate = recordOf "struct ResumeCandidate" candidateSlots candidateFrom := rfl

theorem candidate_determined : Determines candidateSlots candidateFrom := by
  intro r t agree
  simp only [candidateSlots, List.forall_mem_cons, Slot.Agrees] at agree
  obtain ⟨epicId, priority, updatedAt, blockedBy, -⟩ := agree
  simp only [candidateFrom, epicId, priority, updatedAt, blockedBy]

end Candidates

section Contexts

def contextSlots : List Slot :=
  let c : Context := {}
  [.optional "auto_resume" bool c.autoResume, .optional "confidence" float c.confidence,
   .optional "current_epic_id" (orNull string) c.currentEpicId,
   .optional "pending_epic_id" (orNull string) c.pendingEpicId,
   .optional "resume_candidates" candidates c.resumeCandidates,
   .optional "resume_queue" candidates c.resumeQueue,
   .optional "reviewer_feedback_count" u32 c.reviewerFeedbackCount,
   .optional "max_reviewer_feedback_count" u32 c.maxReviewerFeedbackCount,
   .optional "research_expected" u32 c.researchExpected,
   .optional "research_received" u32 c.researchReceived,
   .optional "research_artifacts" (list artifact) c.researchArtifacts,
   .optional "last_error" (orNull string) c.lastError]

def contextFrom (c : Context) (r : Record) : Decoded Context := do
  .ok
    { autoResume := ← r.getD "auto_resume" bool c.autoResume
      confidence := ← r.getD "confidence" float c.confidence
      currentEpicId := ← r.getD "current_epic_id" (orNull string) c.currentEpicId
      pendingEpicId := ← r.getD "pending_epic_id" (orNull string) c.pendingEpicId
      resumeCandidates := ← r.getD "resume_candidates" candidates c.resumeCandidates
      resumeQueue := ← r.getD "resume_queue" candidates c.resumeQueue
      reviewerFeedbackCount := ← r.getD "reviewer_feedback_count" u32 c.reviewerFeedbackCount
      maxReviewerFeedbackCount :=
        ← r.getD "max_reviewer_feedback_count" u32 c.maxReviewerFeedbackCount
      researchExpected := ← r.getD "research_expected" u32 c.researchExpected
      researchReceived := ← r.getD "research_received" u32 c.researchReceived
      researchArtifacts := ← r.getD "research_artifacts" (list artifact) c.researchArtifacts
      lastError := ← r.getD "last_error" (orNull string) c.lastError }

theorem context_eq : context = recordOf "struct Context" contextSlots (contextFrom {}) := rfl

theorem context_determined : Determines contextSlots (contextFrom {}) := by
  intro r t agree
  simp only [contextSlots, List.forall_mem_cons, Slot.Agrees] at agree
  simp only [contextFrom, agree]

inductive Sets (src : Source) : String × Draft → (Context → Context) → Prop
  | autoResume {d : Draft} {a : Bool} (read : bool src d = .ok a) :
      Sets src ("auto_resume", d) fun c => { c with autoResume := a }
  | confidence {d : Draft} {a : Float} (read : float src d = .ok a) :
      Sets src ("confidence", d) fun c => { c with confidence := a }
  | currentEpicId {d : Draft} {a : Option String} (read : orNull string src d = .ok a) :
      Sets src ("current_epic_id", d) fun c => { c with currentEpicId := a }
  | pendingEpicId {d : Draft} {a : Option String} (read : orNull string src d = .ok a) :
      Sets src ("pending_epic_id", d) fun c => { c with pendingEpicId := a }
  | resumeCandidates {d : Draft} {a : List ResumeCandidate} (read : candidates src d = .ok a) :
      Sets src ("resume_candidates", d) fun c => { c with resumeCandidates := a }
  | resumeQueue {d : Draft} {a : List ResumeCandidate} (read : candidates src d = .ok a) :
      Sets src ("resume_queue", d) fun c => { c with resumeQueue := a }
  | reviewerFeedbackCount {d : Draft} {a : UInt32} (read : u32 src d = .ok a) :
      Sets src ("reviewer_feedback_count", d) fun c => { c with reviewerFeedbackCount := a }
  | maxReviewerFeedbackCount {d : Draft} {a : UInt32} (read : u32 src d = .ok a) :
      Sets src ("max_reviewer_feedback_count", d) fun c =>
        { c with maxReviewerFeedbackCount := a }
  | researchExpected {d : Draft} {a : UInt32} (read : u32 src d = .ok a) :
      Sets src ("research_expected", d) fun c => { c with researchExpected := a }
  | researchReceived {d : Draft} {a : UInt32} (read : u32 src d = .ok a) :
      Sets src ("research_received", d) fun c => { c with researchReceived := a }
  | researchArtifacts {d : Draft} {a : List ResearchArtifact} (read : list artifact src d = .ok a) :
      Sets src ("research_artifacts", d) fun c => { c with researchArtifacts := a }
  | lastError {d : Draft} {a : Option String} (read : orNull string src d = .ok a) :
      Sets src ("last_error", d) fun c => { c with lastError := a }

variable {src : Source}

theorem contextFrom_cons {m : String × Draft} {set : Context → Context} (sets : Sets src m set)
    {ms : List (String × Draft)} (absent : m.1 ∉ ms.map Prod.fst) (c : Context) :
    contextFrom c ⟨src, m :: ms⟩ = contextFrom (set c) ⟨src, ms⟩ := by
  have gone := lookup_absent absent
  cases sets <;> rename_i read <;>
    simp [contextFrom, Record.getD, List.lookup_cons, gone, read]

/-- The members of a context set their fields one after another. -/
theorem contextFrom_sets {ms : List (String × Draft)} {sets : List (Context → Context)}
    (each : List.Forall₂ (Sets src) ms sets) (distinct : (ms.map Prod.fst).Nodup) (c : Context) :
    contextFrom c ⟨src, ms⟩ = .ok (sets.foldl (fun c set => set c) c) := by
  induction each generalizing c with
  | nil => rfl
  | @cons m set ms sets first _ ih =>
    rw [List.map_cons, List.nodup_cons] at distinct
    rw [contextFrom_cons first distinct.1, ih distinct.2]
    rfl

theorem Sets.taken {m : String × Draft} {set : Context → Context} (sets : Sets src m set) :
    Taken contextFields src (some m.1, m.2) := by
  cases sets <;> rename_i read <;>
    simp [Taken, contextFields, Field.optional, Field.accepts, read, Except.map]

theorem taken_of_sets {ms : List (String × Draft)} {sets : List (Context → Context)}
    (each : List.Forall₂ (Sets src) ms sets) : ∀ m ∈ present ms, Taken contextFields src m := by
  induction each with
  | nil => exact nofun
  | cons first _ ih => exact List.forall_mem_cons.mpr ⟨first.taken, ih⟩

/-- Any part of a context is the context without anything in it, with the fields of that part
set. -/
theorem context_sets {inner : Source} (entered : src.enter = .ok inner)
    {ms : List (String × Draft)} {sets : List (Context → Context)}
    (each : List.Forall₂ (Sets inner) ms sets) (distinct : (ms.map Prod.fst).Nodup) :
    context src (.object (present ms) true) = .ok (sets.foldl (fun c set => set c) {}) := by
  have laid : Laid contextFields inner (present ms) := by
    refine ⟨taken_of_sets each, ?_, ?_⟩
    · rw [asked, named_present]
      exact distinct.sublist (List.filter_sublist.map _)
    · simp [contextFields, Field.optional]
  have read : record "struct Context" contextFields src (.object (present ms) true) =
      .ok ⟨inner, named (present ms)⟩ := record_object.mpr ⟨inner, entered, laid, rfl⟩
  change record _ contextFields src _ >>= contextFrom {} = _
  rw [read, named_present]
  exact contextFrom_sets each distinct {}

end Contexts

section Events

def eventSlots : EventKind → List Slot
  | .bdProbeResult => [.optional "candidates" candidates []]
  | .resumeDecision => [.needed "resume" bool]
  | .resumePlanLoaded | .epicSynced => [.optional "epic_id" (orNull string) none]
  | .userInput => [.needed "text" string]
  | .intakeCompleted =>
    [.needed "confidence" float, .optional "conflict" bool false,
     .optional "epic_id" (orNull string) none]
  | .switchResolved =>
    [.optional "confidence" (orNull float) none, .optional "epic_id" (orNull string) none]
  | .planBaselined => [.needed "confidence" float, .optional "need_plan_review" bool false]
  | .planReviewFeedback => [.optional "blocking" bool false]
  | .observeDefined => [.optional "research_expected" (orNull u32) none]
  | .researchResult => [.needed "artifact" artifact]
  | .researchEvaluated =>
    [.optional "decision" researchDecisions.decode .enoughInfo,
     .optional "missing" (orNull u32) none]
  | .scheduleDecided => [.needed "confidence" float, .optional "resource_busy" bool false]
  | .dispatchResult => [.needed "ok" bool, .optional "error" (orNull string) none]
  | .reviewResult =>
    [.optional "decision" reviewDecisions.decode .pass,
     .optional "claims_without_evidence" u32 0]
  | .replanApplied => [.needed "confidence" float]
  | .requirementChanged => [.optional "summary" (orNull string) none]
  | .cancel => [.optional "reason" (orNull string) none]
  | .fatalError => [.needed "error" string]
  | .heartbeat => [.needed "agent_id" string]
  | .boot | .planReviewPass | .researchDispatched | .researchIngested | .detailDesigned
  | .coderHandoffReady | .resourceAvailable | .coderResult | .tick => []

variable {kind : EventKind}

theorem eventSlots_fields (kind : EventKind) :
    (eventSlots kind).map Slot.field = (shape kind).fields := by
  cases kind <;> rfl

theorem eventSlots_distinct (kind : EventKind) :
    ((eventSlots kind).map Slot.name).Nodup := by
  cases kind <;> simp [eventSlots, Slot.name]

theorem eventSlots_untyped (kind : EventKind) : "type" ∉ (eventSlots kind).map Slot.name := by
  cases kind <;> simp [eventSlots, Slot.name]

theorem shape_determined (kind : EventKind) :
    Determines (eventSlots kind) (shape kind).build := by
  intro r t agree
  cases kind <;> simp only [eventSlots, List.forall_mem_cons, Slot.Agrees] at agree <;>
    simp only [shape, Shape.plain, Shape.single, Shape.lone, agree]

/-- What is made of the fields of a kind is an event of this kind. -/
theorem shape_kind {r : Record} {e : Event} (made : (shape kind).build r = .ok e) :
    e.kind = kind := by
  cases kind <;>
    simp only [shape, Shape.plain, Shape.single, Shape.lone, map_ok, bind_ok, Except.ok.injEq]
      at made <;>
    grind [Event.kind]

theorem eventBody_eq (kind : EventKind) : eventBody kind =
    recordOf ("struct variant Event::" ++ kind.title) (eventSlots kind) (shape kind).build
      .value := by
  funext d
  rw [eventBody, recordOf, eventSlots_fields]

structure Typed (depth : Nat) (kind : EventKind) (ms : Members) : Prop where
  once : (ms.map Prod.fst).count (some "type") = 1
  named : ∀ m ∈ ms, m.1 ≠ none
  type : ∀ m ∈ ms, m.1 = some "type" → eventKind m.2 = .ok kind
  beside : ∀ m ∈ ms, m.1 ≠ some "type" → m.2.isSound depth = true

theorem eventMembers_found {depth : Nat} {found? : Option EventKind} {ms : Members} :
    eventMembers depth (some kind) ms = .ok found? ↔
      found? = some kind ∧ some "type" ∉ ms.map Prod.fst ∧ (∀ m ∈ ms, m.1 ≠ none) ∧
        ∀ m ∈ ms, m.2.isSound depth = true := by
  induction ms with
  | nil => simp [eventMembers, @eq_comm _ found?]
  | cons m ms ih =>
    obtain ⟨_ | k, d⟩ := m
    · simp [eventMembers]
    · by_cases type : k = "type"
      · simp [eventMembers, type]
      · by_cases sound : d.isSound depth = true
        · simp [eventMembers, type, sound, ih, Ne.symm type]
        · simp [eventMembers, type, sound]

theorem typed_iff {depth : Nat} {ms : Members} : Typed depth kind ms ↔
    (ms.map Prod.fst).count (some "type") = 1 ∧ (∀ m ∈ ms, m.1 ≠ none) ∧
      (∀ m ∈ ms, m.1 = some "type" → eventKind m.2 = .ok kind) ∧
      ∀ m ∈ ms, m.1 ≠ some "type" → m.2.isSound depth = true :=
  ⟨fun h => ⟨h.once, h.named, h.type, h.beside⟩, fun h => ⟨h.1, h.2.1, h.2.2.1, h.2.2.2⟩⟩

theorem eventMembers_typed {depth : Nat} {ms : Members} :
    eventMembers depth none ms = .ok (some kind) ↔ Typed depth kind ms := by
  rw [typed_iff]
  induction ms with
  | nil => simp [eventMembers]
  | cons m ms ih =>
    simp only [List.forall_mem_cons, List.map_cons, List.count_cons]
    obtain ⟨_ | k, d⟩ := m
    · simp [eventMembers]
    · by_cases type : k = "type"
      · subst type
        simp [eventMembers, bind_ok, eventMembers_found, List.count_eq_zero]
        grind
      · by_cases sound : d.isSound depth = true
        · simp [eventMembers, type, sound, ih]
        · simp [eventMembers, type, sound]

def untyped (ms : Members) : Members := ms.filter fun m => m.1 ≠ some "type"

theorem event_object {src : Source} {ms : Members} {e : Event} :
    event src (.object ms true) = .ok e ↔ ∃ inner, src.enter = .ok inner ∧
      Typed inner.depth e.kind ms ∧ eventBody e.kind (.object (untyped ms) true) = .ok e := by
  have kind (kind : EventKind) (rest : Draft) (made : eventBody kind rest = .ok e) :
      e.kind = kind := by
    rw [eventBody_eq, recordOf, bind_ok] at made
    obtain ⟨r, -, built⟩ := made
    exact shape_kind built
  simp only [event, bind_ok, if_true, ← eventMembers_typed]
  constructor
  · rintro ⟨inner, entered, found?, typed, made⟩
    cases found? with
    | none => cases made
    | some k =>
      obtain rfl := kind k _ made
      exact ⟨inner, entered, typed, made⟩
  · rintro ⟨inner, entered, typed, made⟩
    exact ⟨inner, entered, some e.kind, typed, made⟩

/-- What an event of a kind asks of its members. They are all read as a whole, those too that are
not asked for. -/
def eventLayout (depth : Nat) (kind : EventKind) : Layout where
  names := "type" :: (eventSlots kind).map Slot.name
  IsDefault k d := ∃ s ∈ eventSlots kind, s.name = k ∧ s.IsDefault .value d
  IsValid d := d.isSound depth = true

theorem Typed.cons {depth : Nat} {ms : Members} {k : String} {d : Draft} (other : k ≠ "type") :
    Typed depth kind ((some k, d) :: ms) ↔ d.isSound depth = true ∧ Typed depth kind ms := by
  simp only [typed_iff, List.forall_mem_cons, List.map_cons, List.count_cons]
  simp [other]
  tauto

theorem untyped_cons {ms : Members} {k : String} (d : Draft) (other : k ≠ "type") :
    untyped ((some k, d) :: ms) = (some k, d) :: untyped ms := by
  simp [untyped, other]

theorem Typed.relaid {depth : Nat} {ms ns : Members} (typed : Typed depth kind ms)
    (relaid : Relaid (eventLayout depth kind) ms ns) :
    Typed depth kind ns ∧
      Relaid (recordLayout (eventSlots kind) .value) (untyped ms) (untyped ns) := by
  have other {k : String} {d : Draft} (default : (eventLayout depth kind).IsDefault k d) :
      k ≠ "type" := by
    rintro rfl
    obtain ⟨s, inside, name, -⟩ := default
    exact eventSlots_untyped kind (name ▸ List.mem_map_of_mem inside)
  induction relaid with
  | perm same =>
    rw [typed_iff] at typed
    refine ⟨typed_iff.mpr ?_, .perm (same.filter _)⟩
    simpa only [← (same.map Prod.fst).count_eq, ← same.mem_iff] using typed
  | insert ms unknown valid =>
    obtain ⟨noType, unknown⟩ := not_or.mp (List.mem_cons.not.mp unknown)
    rw [Typed.cons noType, untyped_cons _ noType]
    exact ⟨⟨valid, typed⟩, .insert _ unknown (Draft.isComplete_of_isSound valid)⟩
  | add default valid absent =>
    rw [Typed.cons (other default), untyped_cons _ (other default)]
    refine ⟨⟨valid, typed⟩, .add default (Draft.isComplete_of_isSound valid) ?_⟩
    exact fun there => absent ((List.filter_sublist.map _).subset there)
  | remove ms default =>
    rw [Typed.cons (other default)] at typed
    rw [untyped_cons _ (other default)]
    exact ⟨typed.2, .remove _ default⟩
  | trans first second ih ih' =>
    obtain ⟨middle, before⟩ := ih typed
    obtain ⟨last, after⟩ := ih' middle
    exact ⟨last, before.trans after⟩

theorem event_relaid {src inner : Source} {ms ns : Members} {e : Event}
    (entered : src.enter = .ok inner) (made : event src (.object ms true) = .ok e)
    (relaid : Relaid (eventLayout inner.depth e.kind) ms ns) :
    event src (.object ns true) = .ok e := by
  rw [event_object, entered] at made ⊢
  obtain ⟨_, ⟨⟩, typed, made⟩ := made
  obtain ⟨typed, others⟩ := typed.relaid relaid
  rw [eventBody_eq] at made ⊢
  exact ⟨inner, rfl, typed,
    recordOf_relaid (shape_determined _) (eventSlots_distinct _) rfl made others⟩

end Events

/-- The members of an object may be moved about, the type of an event among them, unknown members
may be put in anywhere and more than once, and members may be left out or written that hold their
default: what is decoded of the object stays the same. Any members of a context make the default
context with the fields of these members set, and an object is decoded from a text as it is met
there. -/
theorem layout_immaterial :
    (∀ (src inner : Source) (ms ns : Members) (e : Event), src.enter = .ok inner →
      event src (.object ms true) = .ok e → Relaid (eventLayout inner.depth e.kind) ms ns →
        event src (.object ns true) = .ok e) ∧
    (∀ (src inner : Source) (ms ns : Members) (c : Context), src.enter = .ok inner →
      context src (.object ms true) = .ok c → Relaid (recordLayout contextSlots inner) ms ns →
        context src (.object ns true) = .ok c) ∧
    (∀ (src inner : Source) (ms ns : Members) (c : ResumeCandidate), src.enter = .ok inner →
      candidate src (.object ms true) = .ok c → Relaid (recordLayout candidateSlots inner) ms ns →
        candidate src (.object ns true) = .ok c) ∧
    (∀ (src inner : Source) (ms : List (String × Draft)) (sets : List (Context → Context)),
      src.enter = .ok inner → List.Forall₂ (Sets inner) ms sets → (ms.map Prod.fst).Nodup →
        context src (.object (present ms) true) = .ok (sets.foldl (fun c set => set c) {})) ∧
    ∀ (α : Type) (decode : Decoder α) (text : String) (ms : Members),
      Json.read text = ⟨.object ms true, true⟩ →
        decodeText decode text = decode (.text 127) (.object ms true) := by
  refine ⟨fun _ _ _ _ _ => event_relaid, ?_, ?_, ?_, ?_⟩
  · intro src inner ms ns c entered made relaid
    rw [context_eq] at made ⊢
    exact recordOf_relaid context_determined (by decide) entered made relaid
  · intro src inner ms ns c entered made relaid
    rw [candidate_eq] at made ⊢
    exact recordOf_relaid candidate_determined (by decide) entered made relaid
  · intro src inner ms sets entered each distinct
    exact context_sets entered each distinct
  · intro α decode text ms read
    rw [decodeText, read]
    cases made : decode (.text 127) (.object ms true) <;> simp [bind, Except.bind]

def review : Members :=
  [(some "claims_without_evidence", .number (some (.int 2))),
   (some "type", .string (some "review_result"))]

def notedReview : Members :=
  (some "note", .array [.null] true) :: (some "decision", .string (some "pass")) :: review.reverse

def plainCandidate : Members :=
  [(some "epic_id", .string (some "7")), (some "priority", .number (some (.int 1))),
   (some "updated_at", .string (some "2024-02-29"))]

theorem review_relaid : Relaid (eventLayout 126 .reviewResult) review notedReview := by
  have reversed : Relaid (eventLayout 126 .reviewResult) review review.reverse :=
    .perm (List.reverse_perm review).symm
  have decided : (eventLayout 126 .reviewResult).IsDefault "decision" (.string (some "pass")) :=
    ⟨.optional "decision" reviewDecisions.decode .pass, .head _, rfl, rfl⟩
  exact reversed.trans ((Relaid.add decided rfl (by decide)).trans (.insert _ (by decide) rfl))

theorem layout_immaterial_review :
    event (.text 127) (.object review true) = .ok (.reviewResult .pass 2) ∧
    event (.text 127) (.object notedReview true) = .ok (.reviewResult .pass 2) ∧
    context (.text 127) (.object [(some "last_error", .null), (some "research_expected",
      .number (some (.int 2)))] true) = .ok { researchExpected := 2 } ∧
    context (.text 127) (.object [(some "research_expected", .number (some (.int 2)))] true) =
      .ok { researchExpected := 2 } ∧
    candidate (.text 127) (.object ((some "blocked_by", .null) :: plainCandidate) true) =
      .ok ⟨"7", 1, "2024-02-29", none⟩ ∧
    decodeText context "{}" = context (.text 127) (.object [] true) := by
  obtain ⟨events, contexts, candidates, sets, texts⟩ := layout_immaterial
  have entered : (Source.text 127).enter = .ok (.text 126) := rfl
  have reviewed : event (.text 127) (.object review true) = .ok (.reviewResult .pass 2) := rfl
  have part := sets _ _ [("last_error", .null), ("research_expected", .number (some (.int 2)))] _
    entered (.cons (.lastError rfl) (.cons (.researchExpected rfl) .nil)) (by decide)
  have unsaid : (recordLayout contextSlots (.text 126)).IsDefault "last_error" .null :=
    ⟨.optional "last_error" (orNull string) none, by simp [contextSlots], rfl, rfl⟩
  have free : (recordLayout candidateSlots (.text 126)).IsDefault "blocked_by" .null :=
    ⟨.optional "blocked_by" (orNull (list string)) none, by simp [candidateSlots], rfl, rfl⟩
  exact ⟨reviewed, events _ _ _ _ _ entered reviewed review_relaid, part,
    contexts _ _ _ _ _ entered part (.remove _ unsaid),
    candidates _ _ _ _ _ entered rfl (.add free rfl (by decide)), texts _ _ _ _ rfl⟩

end ControlPlane.Decode
