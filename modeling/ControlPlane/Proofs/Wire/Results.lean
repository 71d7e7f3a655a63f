import ControlPlane.Proofs.Run.Turn
import ControlPlane.Proofs.Wire.Events

/-!
# Results are decoded as they were

The result of an event comes out of its text as it went in, together with its commands. A
payload is read back as a whole, and so its members have to be in order before it is
written, and everything in them as well. The rules see to that: every turn puts values into
payloads that are in order, not deeply nested and free of numbers other than counters, the
threshold and the confidence at hand (`turn_lasting`).
-/

set_option autoImplicit false

namespace ControlPlane

open Json (InOrder Portable ReadsBack)

section Payloads

structure Json.Lasting (depth : Nat) (ms : List (String × Json)) : Prop where
  inOrder : InOrder ms
  values : ∀ m ∈ ms, m.2.sorted = m.2 ∧ Portable depth m.2

namespace Json.Lasting

variable {depth : Nat} {ms : List (String × Json)}

theorem put (h : Lasting depth ms) (key : String) {value : Json} (sorted : value.sorted = value)
    (portable : Portable depth value) : Lasting depth (Json.put key value ms) where
  inOrder := h.inOrder.put key value
  values m hm := by
    rcases mem_put hm with rfl | old
    · exact ⟨sorted, portable⟩
    · exact h.values m old

theorem sorted (h : Lasting depth ms) : (Json.object ms).sorted = .object ms := by
  have inOrder : InOrder ([] ++ ms) := h.inOrder
  rw [Json.sorted, sortedMembers_eq inOrder fun m hm => (h.values m hm).1]
  rfl

theorem portable (h : Lasting depth ms) : Portable (depth + 1) (.object ms) :=
  .object fun m hm => (h.values m hm).2

end Json.Lasting

def Command.Lasting (k : Command) : Prop := ∀ ms ∈ k.payload, Json.Lasting 3 ms

namespace Command.Lasting

theorem bare (kind : CommandKind) : Lasting ⟨kind, none⟩ := nofun

variable {k : Command}

theorem carrying (h : k.Lasting) (key : String) {value : Json} (sorted : value.sorted = value)
    (portable : Portable 3 value) : (k.carrying key value).Lasting := by
  have before : Json.Lasting 3 (k.payload.getD []) := by
    cases payload : k.payload with
    | none => exact ⟨.nil, nofun⟩
    | some ms => exact h ms payload
  rintro ms ⟨⟩
  exact before.put key sorted portable

theorem text (h : k.Lasting) (key text : String) : (k.carrying key (.string text)).Lasting :=
  h.carrying key rfl (.string 3 text)

theorem carrying? (h : k.Lasting) (key : String) (text : Option String) :
    (k.carrying? key text).Lasting := by
  cases text with
  | none => exact h
  | some text => exact h.text key text

theorem text? (h : k.Lasting) (key : String) (text : Option String) :
    (k.carrying key (.nullable .string text)).Lasting :=
  h.carrying key (by cases text <;> rfl) (Decode.text?_portable 3 text)

theorem count (h : k.Lasting) (key : String) (n : UInt32) :
    (k.carrying key (.int n.toNat)).Lasting :=
  h.carrying key rfl (Decode.u32_portable 3 n)

/-- Null is read back, so that nothing is asked of a float that is not finite. -/
theorem float (h : k.Lasting) (key : String) {x : Float}
    (back : x.isFinite = true → ReadsBack (.float x)) :
    (k.carrying key (.ofFloat x)).Lasting := by
  rw [Json.ofFloat]
  split
  case isTrue finite => exact h.carrying key rfl (.number 3 (back finite))
  case isFalse => exact h.carrying key rfl (.null 3)

/-- A value is put in order before it goes into a payload. -/
theorem sorted (h : k.Lasting) (key : String) {value : Json} (portable : Portable 3 value) :
    (k.carrying key value.sorted).Lasting :=
  h.carrying key portable.within.sorted_sorted portable.sorted

theorem candidates (h : k.Lasting) (key : String) (cs : List ResumeCandidate) :
    (k.carrying key (Move.candidateList cs)).Lasting := by
  have list : Move.candidateList cs = (Json.array (cs.map (·.toJson))).sorted := by
    rw [Json.sorted, Json.sortedItems_eq, List.map_map]
    rfl
  rw [list]
  exact h.sorted key (Decode.candidates_portable cs)

end Command.Lasting

end Payloads

section Turns

variable {s : Snapshot} {e : Event} {m : Move}

/-- The confidence after a turn is the one before or the one of the event. -/
theorem turn_readsBack (h : Turn s e m) (old : ReadsBack (.float s.context.confidence))
    (new : ∀ x ∈ e.confidence?, ReadsBack (.float x)) :
    ReadsBack (.float m.context.confidence) := by
  cases h with
  | intakeUnclear c confidence conflict epicId | intakeConflict c confidence epicId
  | intakeReady c confidence epicId =>
    change ReadsBack (.float (Rules.intakeContext c confidence _ epicId).confidence)
    rw [Rules.intakeContext_eq]
    exact new confidence rfl
  | switchUnclear c confidence epicId | switchResolved c confidence epicId =>
    change ReadsBack (.float (Rules.switchContext c confidence epicId).confidence)
    rw [Rules.switchContext, Rules.adopted_eq]
    cases confidence with
    | none => exact old
    | some x => exact new x rfl
  | epicSynced c epicId =>
    change ReadsBack (.float (Rules.adopted c epicId).confidence)
    rw [Rules.adopted_eq]
    exact old
  | planUnclear | reviewRequired | planBaselined | scheduleUnclear | resourceBusy | scheduled
  | patchUnclear | patched => exact new _ rfl
  | _ => exact old

theorem clarification_lasting {c : Context}
    (back : c.confidence.isFinite = true → ReadsBack (.float c.confidence)) :
    ∀ k ∈ (Move.clarification c).commands, k.Lasting :=
  List.forall_mem_singleton.mpr <|
    ((Command.Lasting.bare _).float _ back).float _ fun _ => Decode.threshold_readsBack

/-- Every command that a turn issues is read back as it is. The one float that is not the rules'
own is the confidence of a detour. -/
theorem turn_lasting (h : Turn s e m)
    (back : ∀ c, m = .clarification c → c.confidence.isFinite = true →
      ReadsBack (.float c.confidence)) :
    ∀ k ∈ m.commands, k.Lasting := by
  have bare := Command.Lasting.bare
  cases h with
  | nothingProbed | resumeDeclined => exact nofun
  | intakeUnclear | switchUnclear | planUnclear | scheduleUnclear | patchUnclear =>
    exact clarification_lasting (back _ rfl)
  | cancel _ reason => exact List.forall_mem_singleton.mpr ((bare _).carrying? _ reason)
  | fatalError _ error => exact List.forall_mem_singleton.mpr ((bare _).text _ error)
  | requirementChanged _ _ summary =>
    exact List.forall_mem_singleton.mpr (((bare _).text _ _).carrying? _ summary)
  | autoResumed | resumeOffered | resumeAccepted =>
    exact List.forall_mem_singleton.mpr ((bare _).candidates _ _)
  | userInput _ text => exact List.forall_mem_singleton.mpr ((bare _).text _ text)
  | intakeConflict =>
    exact List.forall_mem_singleton.mpr (((bare _).text? _ _).text? _ _)
  | intakeReady | switchResolved => exact List.forall_mem_singleton.mpr ((bare _).text? _ _)
  | roundOpened | refanned => exact List.forall_mem_singleton.mpr ((bare _).count _ _)
  | resultReceived _ c artifact =>
    have portable := (Decode.artifact_portable artifact).mono (by decide : 1 ≤ 3)
    exact List.forall_mem_singleton.mpr ((((bare _).count _ _).count _ _).sorted _ portable)
  | dispatchFailed _ error =>
    exact List.forall_mem_singleton.mpr (((bare _).text _ _).carrying? _ error)
  | evidenceMissing _ _ claims => exact List.forall_mem_singleton.mpr ((bare _).count _ claims)
  | reviewReplan => exact List.forall_mem_singleton.mpr ((bare _).text _ _)
  | _ => exact List.forall_mem_singleton.mpr (bare _)

theorem transition_lasting (old : ReadsBack (.float s.context.confidence))
    (new : ∀ x ∈ e.confidence?, ReadsBack (.float x)) :
    ReadsBack (.float (transition s e).context.confidence) ∧
      ∀ k ∈ (transition s e).commands, k.Lasting := by
  rcases transition_cases s e with ⟨m, turn, result⟩ | ⟨-, reason, result⟩
  · rw [result]
    have confidence := turn_readsBack turn old new
    refine ⟨confidence, turn_lasting turn ?_⟩
    rintro c rfl -
    exact confidence
  · rw [result]
    exact ⟨old, nofun⟩

end Turns

namespace Decode

open Draft (ofJson)

section Values

theorem members_gives {depth : Nat} {ms : List (String × Json)} (h : Json.Lasting depth ms)
    (shallow : depth + 1 ≤ 127) : Gives members (depth + 1) (ofJson (.object ms)) ms := by
  intro src wide
  have read := h.portable.within.whole (wide.depth shallow)
  rw [h.sorted, ofJson] at read
  rw [ofJson, members, read]

theorem commandKind_gives (k : CommandKind) :
    Gives commandKinds.decode 0 (ofJson (.string k.name)) k :=
  name_gives (by cases k <;> decide)

theorem command_gives {k : Command} (h : k.Lasting) : Gives command 5 (ofJson k.toJson) k := by
  obtain ⟨kind, payload⟩ := k
  have type := (commandKind_gives kind).mono (Nat.zero_le 4)
  cases payload with
  | none =>
    have fields : InPlace 4 commandFields _ := .cons (type.needed _) <| .skip rfl .nil
    exact (fields.fits (by decide)).gives fun inner wide =>
      type.get wide rfl <| getD_missing rfl rfl
  | some ms =>
    have more := orNull_some (members_gives (h ms rfl) (by decide)) nofun
    have fields : InPlace 4 commandFields _ :=
      .cons (type.needed _) <| .cons (more.optional _) .nil
    exact (fields.fits (by decide)).gives fun inner wide =>
      type.get wide rfl <| more.getD wide rfl rfl

theorem command_portable {k : Command} (h : k.Lasting) : Portable 5 k.toJson :=
  .object <| List.forall_mem_cons.mpr
    ⟨.string 4 _, .optional _ _ fun ms payload => (h ms payload).portable⟩

variable {r : TransitionResult}

theorem result_gives (h : ∀ k ∈ r.commands, k.Lasting) :
    Gives result 7 (ofJson r.toJson) r := by
  obtain ⟨st, c, changed, commands, reason⟩ := r
  have place := (state_gives st).mono (Nat.zero_le 6)
  have rest := (context_gives c).mono (by decide : 4 ≤ 6)
  have flag := (bool_gives changed).mono (Nat.zero_le 6)
  have asked := list_gives commands fun k hk => command_gives (h k hk)
  cases reason with
  | none =>
    have fields : InPlace 6 resultFields _ :=
      .cons (place.needed _) <| .cons (rest.needed _) <| .cons (flag.needed _) <|
      .cons (asked.needed _) <| .skip rfl .nil
    exact (fields.fits (by decide)).gives fun inner wide =>
      place.get wide rfl <| rest.get wide rfl <| flag.get wide rfl <| asked.get wide rfl <|
      getD_missing rfl rfl
  | some text =>
    have why := orNull_some ((string_gives text).mono (Nat.zero_le 6)) nofun
    have fields : InPlace 6 resultFields _ :=
      .cons (place.needed _) <| .cons (rest.needed _) <| .cons (flag.needed _) <|
      .cons (asked.needed _) <| .cons (why.optional _) .nil
    exact (fields.fits (by decide)).gives fun inner wide =>
      place.get wide rfl <| rest.get wide rfl <| flag.get wide rfl <| asked.get wide rfl <|
      why.getD wide rfl rfl

theorem result_portable (back : ReadsBack (.float r.context.confidence))
    (h : ∀ k ∈ r.commands, k.Lasting) : Portable 7 r.toJson := by
  have asked : Portable 6 (.array (r.commands.map (·.toJson))) :=
    .array (List.forall_mem_map.mpr fun k hk => command_portable (h k hk))
  refine .object (List.forall_mem_append.mpr ⟨?_, .optional _ _ fun text _ => .string 6 text⟩)
  simp only [List.forall_mem_cons]
  exact ⟨.string 6 _, (context_portable back).mono (by decide), .bool 6 _, asked, nofun⟩

end Values

section Texts

variable {s : Snapshot}

/-- A snapshot is read back from both of its texts, and so is the result of every event in
it, with its commands and all that their payloads hold. -/
theorem storage_survives (back : ReadsBack (.float s.context.confidence)) :
    decodeText snapshot s.toJson.compact = .ok s ∧
    decodeText snapshot s.toJson.pretty = .ok s ∧
    ∀ e : Event, (∀ x ∈ e.confidence?, ReadsBack (.float x)) →
      decodeText result (transition s e).toJson.compact = .ok (transition s e) ∧
      decodeText result (transition s e).toJson.pretty = .ok (transition s e) := by
  refine ⟨?_, snapshot_pretty back, fun e new => ?_⟩
  · exact (snapshot_gives s).compact (by decide) (snapshot_portable back).numbers
  · obtain ⟨confidence, asked⟩ := transition_lasting back new
    have gives := result_gives asked
    have numbers := (result_portable confidence asked).numbers
    exact ⟨gives.compact (by decide) numbers, gives.pretty (by decide) numbers⟩

def undecided : Snapshot :=
  ⟨.intake,
    { currentEpicId := some "epic-3"
      resumeQueue := [⟨"epic-9", -2, "2024-05-01T10:00:00Z", some []⟩] }⟩

theorem storage_survives_conflicting :
    ReadsBack (.float undecided.context.confidence) ∧
      decodeText snapshot undecided.toJson.pretty = .ok undecided ∧
      (∀ x ∈ conflicting.confidence?, ReadsBack (.float x)) ∧
      (transition undecided conflicting).commands.map (·.kind) = [.askSwitchOrMerge] ∧
      decodeText result (transition undecided conflicting).toJson.compact =
        .ok (transition undecided conflicting) := by
  have back : ReadsBack (.float undecided.context.confidence) := Json.zero_readsBack
  have new : ∀ x ∈ conflicting.confidence?, ReadsBack (.float x) := by
    rintro x ⟨⟩
    exact threshold_readsBack
  obtain ⟨-, pretty, results⟩ := storage_survives back
  exact ⟨back, pretty, new, by decide +kernel, (results conflicting new).1⟩

end Texts

end Decode

end ControlPlane
