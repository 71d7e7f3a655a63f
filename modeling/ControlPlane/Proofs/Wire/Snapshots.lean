import ControlPlane.Proofs.Json.Records
import ControlPlane.Proofs.Json.Sorted
import ControlPlane.Wire.Snapshot

/-!
# Snapshots are decoded as they were

Each value that a snapshot is made of comes out of its JSON form as it went in. So a
snapshot that was written, in compact or in pretty text, is read back, given that the text
of its confidence is read as the same number.
-/

set_option autoImplicit false

namespace ControlPlane.Decode

open Draft (ofJson ofItems ofMembers)

theorem updatedAt_gives (s : String) : Gives updatedAt 0 (ofJson (.string s)) s := fun _ _ => rfl

theorem state_gives (s : State) : Gives state 0 (ofJson (.string s.tag)) s := by
  apply name_gives
  simp only [states, State.tag_eq_name]
  exact State.ofName?_name s

theorem strings_gives (ss : List String) :
    Gives (list string) 1 (ofJson (.array (ss.map .string))) ss :=
  list_gives ss fun s _ => string_gives s

/-- A candidate is made of its members in whatever order they come. -/
theorem candidate_perm {c : ResumeCandidate} {written ms : List (String × Json)}
    (all : c.toJson = .object written) (same : written.Perm ms) :
    Gives candidate 2 (ofJson (.object ms)) c := by
  rw [ofJson_object]
  have same := same.map fun m => (m.1, ofJson m.2)
  obtain ⟨epicId, priority, time, blockedBy⟩ := c
  cases all
  have id := (string_gives epicId).mono (Nat.zero_le 1)
  have urgency := (i64_gives priority).mono (Nat.zero_le 1)
  have date := (updatedAt_gives time).mono (Nat.zero_le 1)
  cases blockedBy with
  | none =>
    have fields : InPlace 1 candidateFields _ :=
      .cons (id.needed _) <| .cons (urgency.needed _) <| .cons (date.needed _) <| .skip rfl .nil
    have fits := fields.fits (by decide)
    have found := fits.lookup_perm same
    exact (fits.perm same).gives fun inner wide =>
      id.get wide (found _) <| urgency.get wide (found _) <| date.get wide (found _) <|
      getD_missing (found _) rfl
  | some ids =>
    have blocked := orNull_some (strings_gives ids) nofun
    have fields : InPlace 1 candidateFields _ :=
      .cons (id.needed _) <| .cons (urgency.needed _) <| .cons (date.needed _) <|
      .cons (blocked.optional _) .nil
    have fits := fields.fits (by decide)
    have found := fits.lookup_perm same
    exact (fits.perm same).gives fun inner wide =>
      id.get wide (found _) <| urgency.get wide (found _) <| date.get wide (found _) <|
      blocked.getD wide (found _) rfl

theorem candidate_gives (c : ResumeCandidate) : Gives candidate 2 (ofJson c.toJson) c :=
  candidate_perm rfl (.refl _)

theorem candidates_gives (cs : List ResumeCandidate) :
    Gives candidates 3 (ofJson (.array (cs.map (·.toJson)))) cs :=
  list_gives cs fun c _ => candidate_gives c

theorem strings_sorted (ss : List String) :
    (Json.array (ss.map .string)).sorted = .array (ss.map .string) := by
  rw [Json.sorted, Json.sortedItems_eq, List.map_map]
  rfl

/-- A payload has the members of a candidate in order, which puts the last one first. -/
theorem candidate_sorted_gives (c : ResumeCandidate) :
    Gives candidate 2 (ofJson c.toJson.sorted) c := by
  obtain ⟨epicId, priority, time, blockedBy⟩ := c
  cases blockedBy with
  | none => exact candidate_perm rfl (.refl _)
  | some ids =>
    have sorted : (⟨epicId, priority, time, some ids⟩ : ResumeCandidate).toJson.sorted =
        .object [("blocked_by", .array (ids.map .string)), ("epic_id", .string epicId),
          ("priority", .int priority.toInt), ("updated_at", .string time)] := by
      rw [← strings_sorted ids]
      rfl
    rw [sorted]
    exact candidate_perm rfl (List.perm_append_singleton _ _)

theorem candidateList_gives (cs : List ResumeCandidate) :
    Gives candidates 3 (ofJson (Move.candidateList cs)) cs :=
  list_gives cs fun c _ => candidate_sorted_gives c

theorem artifact_gives (a : ResearchArtifact) : Gives artifact 1 (ofJson a.toJson) a := by
  obtain ⟨agentId, summary, memory, operations⟩ := a
  have id := string_gives agentId
  have texts := string_gives summary
  have facts := string_gives memory
  cases operations with
  | none =>
    have fields : InPlace 0 artifactFields _ :=
      .cons (id.needed _) <| .cons (texts.needed _) <| .cons (facts.needed _) <| .skip rfl .nil
    exact (fields.fits (by decide)).gives fun inner wide =>
      id.get wide rfl <| texts.get wide rfl <| facts.get wide rfl <| getD_missing rfl rfl
  | some path =>
    have log := orNull_some (string_gives path) nofun
    have fields : InPlace 0 artifactFields _ :=
      .cons (id.needed _) <| .cons (texts.needed _) <| .cons (facts.needed _) <|
      .cons (log.optional _) .nil
    exact (fields.fits (by decide)).gives fun inner wide =>
      id.get wide rfl <| texts.get wide rfl <| facts.get wide rfl <| log.getD wide rfl rfl

theorem artifacts_gives (as : List ResearchArtifact) :
    Gives (list artifact) 2 (ofJson (.array (as.map (·.toJson)))) as :=
  list_gives as fun a _ => artifact_gives a

theorem text?_gives (o : Option String) :
    Gives (orNull string) 0 (ofJson (.nullable .string o)) o :=
  orNull_gives string_gives nofun

theorem context_gives (c : Context) : Gives context 4 (ofJson c.toJson) c := by
  have resume := (bool_gives c.autoResume).mono (Nat.zero_le 3)
  have confidence := (float_gives c.confidence).mono (Nat.zero_le 3)
  have current := (text?_gives c.currentEpicId).mono (Nat.zero_le 3)
  have pending := (text?_gives c.pendingEpicId).mono (Nat.zero_le 3)
  have found := candidates_gives c.resumeCandidates
  have queue := candidates_gives c.resumeQueue
  have feedback := (u32_gives c.reviewerFeedbackCount).mono (Nat.zero_le 3)
  have most := (u32_gives c.maxReviewerFeedbackCount).mono (Nat.zero_le 3)
  have expected := (u32_gives c.researchExpected).mono (Nat.zero_le 3)
  have received := (u32_gives c.researchReceived).mono (Nat.zero_le 3)
  have results := (artifacts_gives c.researchArtifacts).mono (Nat.le_succ 2)
  have error := (text?_gives c.lastError).mono (Nat.zero_le 3)
  have fields : InPlace 3 contextFields _ :=
    .cons (resume.optional _) <| .cons (confidence.optional _) <| .cons (current.optional _) <|
    .cons (pending.optional _) <| .cons (found.optional _) <| .cons (queue.optional _) <|
    .cons (feedback.optional _) <| .cons (most.optional _) <| .cons (expected.optional _) <|
    .cons (received.optional _) <| .cons (results.optional _) <| .cons (error.optional _) .nil
  exact (fields.fits (by decide)).gives fun inner wide =>
    resume.getD wide rfl <| confidence.getD wide rfl <| current.getD wide rfl <|
    pending.getD wide rfl <| found.getD wide rfl <| queue.getD wide rfl <|
    feedback.getD wide rfl <| most.getD wide rfl <| expected.getD wide rfl <|
    received.getD wide rfl <| results.getD wide rfl <| error.getD wide rfl rfl

theorem snapshot_gives (s : Snapshot) : Gives snapshot 5 (ofJson s.toJson) s := by
  have place := (state_gives s.state).mono (Nat.zero_le 4)
  have rest := context_gives s.context
  have fields : InPlace 4 snapshotFields _ := .cons (place.needed _) <| .cons (rest.needed _) .nil
  exact (fields.fits (by decide)).gives fun inner wide =>
    place.get wide rfl <| rest.get wide rfl rfl

section Portable

open Json (Portable ReadsBack)

theorem u32_readsBack (n : UInt32) : ReadsBack (.int n.toNat) := by
  have bound : n.toNat < 4294967296 := n.toNat_lt
  exact Json.int_readsBack (by omega) (by omega)

theorem i64_readsBack (n : Int64) : ReadsBack (.int n.toInt) := by
  have low := n.le_toInt
  have high := n.toInt_lt
  exact Json.int_readsBack (by omega) (by omega)

/-- The one number that commands are given by the rules themselves. -/
theorem threshold_readsBack : ReadsBack (.float confidenceThreshold) :=
  Json.tenths_readsBack (d := 6) (by decide) (by decide +kernel) rfl

theorem u32_portable (depth : Nat) (n : UInt32) : Portable depth (.int n.toNat) :=
  .number depth (u32_readsBack n)

theorem text?_portable (depth : Nat) (o : Option String) :
    Portable depth (.nullable .string o) :=
  .nullable o fun s _ => .string depth s

theorem strings_portable (ss : List String) : Portable 1 (.array (ss.map .string)) :=
  .array (List.forall_mem_map.mpr fun s _ => .string 0 s)

theorem candidate_portable (c : ResumeCandidate) : Portable 2 c.toJson := by
  refine .object (List.forall_mem_append.mpr ⟨?_, .optional _ _ fun ids _ => strings_portable ids⟩)
  simp only [List.forall_mem_cons]
  exact ⟨.string 1 _, .number 1 (i64_readsBack _), .string 1 _, nofun⟩

theorem candidates_portable (cs : List ResumeCandidate) :
    Portable 3 (.array (cs.map (·.toJson))) :=
  .array (List.forall_mem_map.mpr fun c _ => candidate_portable c)

theorem candidateList_portable (cs : List ResumeCandidate) :
    Portable 3 (Move.candidateList cs) :=
  .array (List.forall_mem_map.mpr fun c _ => (candidate_portable c).sorted)

theorem artifact_portable (a : ResearchArtifact) : Portable 1 a.toJson := by
  refine .object (List.forall_mem_append.mpr ⟨?_, .optional _ _ fun path _ => .string 0 path⟩)
  simp only [List.forall_mem_cons]
  exact ⟨.string 0 _, .string 0 _, .string 0 _, nofun⟩

theorem artifacts_portable (as : List ResearchArtifact) :
    Portable 2 (.array (as.map (·.toJson))) :=
  .array (List.forall_mem_map.mpr fun a _ => artifact_portable a)

/-- Of the numbers in a context only the confidence is a float. -/
theorem context_portable {c : Context} (back : ReadsBack (.float c.confidence)) :
    Portable 4 c.toJson := by
  apply Portable.object
  simp only [List.forall_mem_cons]
  exact ⟨.bool 3 _, .number 3 back, text?_portable 3 _, text?_portable 3 _, candidates_portable _,
    candidates_portable _, u32_portable 3 _, u32_portable 3 _, u32_portable 3 _, u32_portable 3 _,
    (artifacts_portable _).mono (Nat.le_succ 2), text?_portable 3 _, nofun⟩

theorem snapshot_portable {s : Snapshot} (back : ReadsBack (.float s.context.confidence)) :
    Portable 5 s.toJson := by
  apply Portable.object
  simp only [List.forall_mem_cons]
  exact ⟨.string 4 _, context_portable back, nofun⟩

end Portable

theorem snapshot_pretty {s : Snapshot} (back : Json.ReadsBack (.float s.context.confidence)) :
    decodeText snapshot s.toJson.pretty = .ok s :=
  (snapshot_gives s).pretty (by decide) (snapshot_portable back).numbers

end ControlPlane.Decode
