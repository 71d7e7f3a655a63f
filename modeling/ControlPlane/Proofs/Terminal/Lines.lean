import ControlPlane.Proofs.Json.Clean
import ControlPlane.Proofs.Wire.Results
import ControlPlane.Terminal.Display

/-!
# The lines of a transition

What is shown of a transition is made of names, of reasons that the rules give and of compact
JSON. None of these has a control character in it, whatever texts an event brings, so that the
only line breaks are those between the lines, and the payload of each command can be read off its
line again.
-/

set_option autoImplicit false

namespace ControlPlane

open Json (ReadsBack)
open Text (Clean clean_append clean_literal)

section Lines

variable {l : String} {ls : List String}

/-- Lines are told apart by the line breaks between them. -/
theorem splitOn_lines (clean : ∀ t ∈ l :: ls, Clean t.toList) :
    ("\n".intercalate (l :: ls)).toList.splitOn '\n' = (l :: ls).map String.toList := by
  have unbroken : ∀ t ∈ (l :: ls).map String.toList, '\n' ∉ t := by
    intro t inside broken
    obtain ⟨line, there, rfl⟩ := List.mem_map.mp inside
    exact (clean line there).unbroken broken
  rw [String.toList_intercalate]
  exact List.splitOn_intercalate '\n' unbroken (by simp)

theorem count_lines (clean : ∀ t ∈ l :: ls, Clean t.toList) :
    ("\n".intercalate (l :: ls)).toList.count '\n' = ls.length := by
  induction ls generalizing l with
  | nil => simpa using List.count_eq_zero.mpr (clean l List.mem_cons_self).unbroken
  | cons next ls ih =>
    obtain ⟨first, later⟩ := List.forall_mem_cons.mp clean
    have line : l.toList.count '\n' = 0 := List.count_eq_zero.mpr first.unbroken
    have between : "\n".toList.count '\n' = 1 := by decide
    rw [String.intercalate_cons_cons, String.toList_append, String.toList_append,
      List.count_append, List.count_append, line, between, ih later, List.length_cons]
    omega

theorem control_lines (clean : ∀ t ∈ l :: ls, Clean t.toList) :
    ∀ c ∈ ("\n".intercalate (l :: ls)).toList, c.toNat < 0x20 → c = '\n' := by
  induction ls generalizing l with
  | nil =>
    intro c inside control
    exact absurd (clean l List.mem_cons_self c (by simpa using inside)) (not_le.mpr control)
  | cons next ls ih =>
    obtain ⟨first, later⟩ := List.forall_mem_cons.mp clean
    intro c inside control
    rw [String.intercalate_cons_cons, String.toList_append, String.toList_append,
      List.mem_append, List.mem_append] at inside
    rcases inside with (line | between) | rest
    · exact absurd (first c line) (not_le.mpr control)
    · exact List.mem_singleton.mp between
    · exact ih later c rest control

end Lines

section Names

theorem State.name_clean (s : State) : Clean s.name.toList := by
  cases s <;> exact clean_literal rfl

theorem EventKind.name_clean (k : EventKind) : Clean k.name.toList := by
  cases k <;> exact clean_literal rfl

theorem CommandKind.name_clean (k : CommandKind) : Clean k.name.toList := by
  cases k <;> exact clean_literal rfl

end Names

section Reasons

variable {s : Snapshot} {e : Event} {m : Move}

theorem turn_reason_clean (h : Turn s e m) : Clean m.reason.toList := by
  cases h <;> exact clean_literal rfl

/-- Every result has a reason, which is one of those that the rules give. -/
theorem transition_reason_clean (s : Snapshot) (e : Event) :
    ∃ reason, (transition s e).reason = some reason ∧ Clean reason.toList := by
  rw [transition]
  split
  case isTrue => exact ⟨_, rfl, clean_literal rfl⟩
  case isFalse live =>
    cases ruled : rule? s e with
    | some m =>
      exact ⟨_, rfl, turn_reason_clean (turn_iff.mpr ⟨Bool.eq_false_of_not_eq_true live, ruled⟩)⟩
    | none =>
      refine ⟨_, rfl, ?_⟩
      rw [String.toList_append]
      exact clean_append.mpr ⟨clean_literal rfl, s.state.name_clean⟩

end Reasons

section Payloads

variable {s : Snapshot} {e : Event} {m : Move} {k : Command} {ms : List (String × Json)}

/-- The numbers of the payload alone decide whether it is read back. -/
theorem turn_payload_lasting (h : Turn s e m) (asked : k ∈ m.commands)
    (payload : k.payload = some ms) (back : ∀ n ∈ (Json.object ms).numbers, ReadsBack n) :
    Json.Lasting 3 ms := by
  refine turn_lasting h ?_ k asked ms payload
  rintro c rfl finite
  rw [Move.clarification_commands, if_pos finite] at asked
  obtain rfl := List.mem_singleton.mp asked
  obtain rfl := Option.some.inj payload
  -- a confidence that is finite is the first number in this payload
  exact back _ List.mem_cons_self

theorem payload_returns (asked : k ∈ (transition s e).commands) (payload : k.payload = some ms)
    (back : ∀ n ∈ (Json.object ms).numbers, ReadsBack n) :
    Decode.decodeText Decode.members (Json.object ms).compact = .ok ms := by
  rcases transition_cases s e with ⟨m, turn, result⟩ | ⟨-, reason, result⟩
  · rw [result] at asked
    have lasting := turn_payload_lasting turn asked payload back
    exact (Decode.members_gives lasting (by decide)).compact (by decide) back
  · rw [result] at asked
    cases asked

end Payloads

namespace Terminal

section Shown

theorem headLine_plain (source : State) (kind : EventKind) {r : TransitionResult} {reason : String}
    (given : r.reason = some reason) : headLine false source kind r =
      if r.changed then
        "  ✓ " ++ source.name ++ " → " ++ r.state.name ++ " on " ++ kind.name
          ++ " (" ++ reason ++ ")"
      else "  · " ++ source.name ++ " ⟵ " ++ kind.name ++ " (" ++ reason ++ ")" := by
  rw [headLine, given]
  split <;> rfl

theorem commandLine_plain (k : Command) :
    commandLine false k = "      ⇢ " ++ k.kind.name ++ " " ++ payloadText k := rfl

theorem headLine_clean (source : State) (kind : EventKind) {r : TransitionResult} {reason : String}
    (given : r.reason = some reason) (clean : Clean reason.toList) :
    Clean (headLine false source kind r).toList := by
  have names := And.intro source.name_clean (And.intro r.state.name_clean kind.name_clean)
  rw [headLine_plain source kind given]
  split <;> simp [names, clean]

theorem payloadText_clean (k : Command) : Clean (payloadText k).toList := by
  rw [payloadText]
  split
  · exact clean_literal rfl
  · rw [Json.compact, String.toList_ofList]
    exact Json.write_clean _

theorem commandLine_clean (k : Command) : Clean (commandLine false k).toList := by
  have names := And.intro k.kind.name_clean (payloadText_clean k)
  rw [commandLine_plain]
  simp [names]

end Shown

/-- What is shown of a transition, without colours, is one line for it and one for each of its
commands, whatever texts the event brings. The line breaks between these lines are the only
control characters. A command without a payload has nothing behind its name; any other payload
stands there as compact text and is read back from it, given that its numbers are. -/
theorem transition_shown {source : State} {s : Snapshot} {e : Event} {r : TransitionResult}
    {text : String} (made : transition s e = r)
    (shown : transitionText false source e.kind r = text) :
    text.toList.count '\n' = r.commands.length ∧
    (∀ c ∈ text.toList, c.toNat < 0x20 → c = '\n') ∧
    ∃ reason, r.reason = some reason ∧
      text.toList.splitOn '\n' =
        (if r.changed then
          "  ✓ " ++ source.name ++ " → " ++ r.state.name ++ " on " ++ e.kind.name
            ++ " (" ++ reason ++ ")"
        else "  · " ++ source.name ++ " ⟵ " ++ e.kind.name ++ " (" ++ reason ++ ")").toList ::
        r.commands.map (fun k =>
          ("      ⇢ " ++ k.kind.name ++ " " ++ payloadText k).toList) ∧
      ∀ k ∈ r.commands,
        (k.payload = none → payloadText k = "") ∧
        ∀ ms, k.payload = some ms →
          payloadText k = (Json.object ms).compact ∧
          ((∀ n ∈ (Json.object ms).numbers, ReadsBack n) →
            Decode.decodeText Decode.members (payloadText k) = .ok ms) := by
  obtain ⟨reason, given, plain⟩ := transition_reason_clean s e
  rw [made] at given
  have clean : ∀ t ∈ transitionLines false source e.kind r, Clean t.toList :=
    List.forall_mem_cons.mpr ⟨headLine_clean source e.kind given plain,
      List.forall_mem_map.mpr fun k _ => commandLine_clean k⟩
  rw [← shown, transitionText]
  refine ⟨?_, control_lines clean, reason, given, ?_, fun k asked => ⟨?_, ?_⟩⟩
  · rw [transitionLines, count_lines clean, List.length_map]
  · rw [← headLine_plain source e.kind given, transitionLines, splitOn_lines clean,
      List.map_cons, List.map_map]
    rfl
  · intro bare
    rw [payloadText, bare]
  · intro ms payload
    have compact : payloadText k = (Json.object ms).compact := by rw [payloadText, payload]
    refine ⟨compact, fun back => ?_⟩
    rw [← made] at asked
    rw [compact]
    exact payload_returns asked payload back

def waiting : Snapshot := ⟨.waitOthers, { researchExpected := 2, researchReceived := 1 }⟩

def hostile : Event := .researchResult ⟨"agent\r\n", "\x1b[2J", "memory", none⟩

def hostileText : String :=
  "  ✓ wait_others → research_ingest on research_result (research_result_received)\n" ++
  "      ⇢ ingest_research_artifacts \x7b\"artifact\":\x7b\"agent_id\":\"agent\\r\\n\"," ++
  "\"memory_path\":\"memory\",\"summary_path\":\"\\u001b[2J\"\x7d,\"expected\":2,\"received\":2\x7d"

theorem transition_shown_hostile :
    transitionText false .waitOthers .researchResult (transition waiting hostile) = hostileText ∧
    hostileText.toList.count '\n' = 1 ∧
    (∀ c ∈ hostileText.toList, c.toNat < 0x20 → c = '\n') ∧
    ∃ k ms, (transition waiting hostile).commands = [k] ∧ k.payload = some ms ∧
      (∀ n ∈ (Json.object ms).numbers, ReadsBack n) ∧
      Decode.decodeText Decode.members (payloadText k) = .ok ms := by
  have shown : transitionText false .waitOthers .researchResult (transition waiting hostile) =
      hostileText := by decide +kernel
  obtain ⟨count, control, reason, given, lines, payloads⟩ := transition_shown rfl shown
  have two : ReadsBack (.int 2) := Json.int_readsBack (by decide) (by decide)
  have back : ∀ n ∈ [Number.int 2, .int 2], ReadsBack n := by simp [two]
  exact ⟨shown, count, control, _, _, rfl, rfl, back,
    ((payloads _ List.mem_cons_self).2 _ rfl).2 back⟩

end Terminal

end ControlPlane
