import Mathlib.Data.List.Chain
import ControlPlane.Drive.Report
import ControlPlane.Proofs.Run.Turn

/-!
# Courses of a run

Where a list of events takes a snapshot or a machine, and what comes of each event on
the way. What every turn keeps is kept by every course (`after_keeps`).
-/

set_option autoImplicit false

namespace ControlPlane

namespace Snapshot

def next (s : Snapshot) (e : Event) : Snapshot := (transition s e).snapshot

def after (s : Snapshot) : List Event → Snapshot
  | [] => s
  | e :: es => (s.next e).after es

def passages (s : Snapshot) : List Event → List Passage
  | [] => []
  | e :: es => ⟨s.state, e, transition s e⟩ :: (s.next e).passages es

@[simp]
theorem after_nil (s : Snapshot) : s.after [] = s := rfl

@[simp]
theorem after_cons (s : Snapshot) (e : Event) (es : List Event) :
    s.after (e :: es) = (s.next e).after es := rfl

theorem after_append (s : Snapshot) (es fs : List Event) :
    s.after (es ++ fs) = (s.after es).after fs := by
  induction es generalizing s with
  | nil => rfl
  | cons e es ih => exact ih (s.next e)

theorem after_concat (s : Snapshot) (es : List Event) (e : Event) :
    s.after (es ++ [e]) = (s.after es).next e := by
  rw [after_append, after_cons, after_nil]

theorem passages_append (s : Snapshot) (es fs : List Event) :
    s.passages (es ++ fs) = s.passages es ++ (s.after es).passages fs := by
  induction es generalizing s with
  | nil => rfl
  | cons e es ih => simp [passages, ih]

theorem passages_concat (s : Snapshot) (es : List Event) (e : Event) :
    s.passages (es ++ [e]) =
      s.passages es ++ [⟨(s.after es).state, e, transition (s.after es) e⟩] := by
  rw [passages_append]
  rfl

theorem passages_events (s : Snapshot) (es : List Event) :
    (s.passages es).map (·.event) = es := by
  induction es generalizing s with
  | nil => rfl
  | cons e es ih => exact congrArg (e :: ·) (ih (s.next e))

theorem passages_length (s : Snapshot) (es : List Event) :
    (s.passages es).length = es.length := by
  rw [← List.length_map, passages_events]

theorem passages_at (s : Snapshot) (before : List Event) (e : Event) (later : List Event) :
    (s.passages (before ++ e :: later))[before.length]? =
      some ⟨(s.after before).state, e, transition (s.after before) e⟩ := by
  rw [passages_append, List.getElem?_append_right (by rw [passages_length]), passages_length,
    Nat.sub_self]
  rfl

/-- A passage is that of one of the events, in the snapshot to which those before it lead. -/
theorem mem_passages (s : Snapshot) {es : List Event} {p : Passage}
    (there : p ∈ s.passages es) :
    ∃ before e later, es = before ++ e :: later ∧
      p = ⟨(s.after before).state, e, transition (s.after before) e⟩ := by
  induction es generalizing s with
  | nil => cases there
  | cons e es ih =>
    rcases List.mem_cons.mp there with rfl | there
    · exact ⟨[], e, es, rfl, rfl⟩
    · obtain ⟨before, f, later, rfl, rfl⟩ := ih (s.next e) there
      exact ⟨e :: before, f, later, rfl, rfl⟩

def left (s : Snapshot) : List Event → List State
  | [] => []
  | e :: es => (if (s.next e).state = s.state then [] else [s.state]) ++ (s.next e).left es

def visited (s : Snapshot) (es : List Event) : List State := s.left es ++ [(s.after es).state]

theorem left_append (s : Snapshot) (es fs : List Event) :
    s.left (es ++ fs) = s.left es ++ (s.after es).left fs := by
  induction es generalizing s with
  | nil => rfl
  | cons e es ih => simp [left, ih]

/-- The state that ends one part of a run begins the next one. -/
theorem visited_append (s : Snapshot) (es fs : List Event) :
    s.visited (es ++ fs) = s.left es ++ (s.after es).visited fs := by
  rw [visited, left_append, after_append, visited, List.append_assoc]

theorem visited_cons (s : Snapshot) (e : Event) (es : List Event) :
    s.visited (e :: es) =
      if (s.next e).state = s.state then (s.next e).visited es
      else s.state :: (s.next e).visited es := by
  change s.visited ([e] ++ es) = _
  rw [visited_append, after_cons, after_nil]
  by_cases stays : (s.next e).state = s.state
  · simp [left, stays]
  · simp [left, stays]

theorem visited_head (s : Snapshot) (es : List Event) : (s.visited es).head? = some s.state := by
  induction es generalizing s with
  | nil => rfl
  | cons e es ih =>
    rw [visited_cons]
    by_cases stays : (s.next e).state = s.state
    · rw [if_pos stays, ih, stays]
    · rw [if_neg stays]
      rfl

theorem visited_concat (s : Snapshot) (es : List Event) (e : Event) :
    s.visited (es ++ [e]) =
      if ((s.after es).next e).state = (s.after es).state then s.visited es
      else s.visited es ++ [((s.after es).next e).state] := by
  rw [visited_append]
  by_cases stays : ((s.after es).next e).state = (s.after es).state
  · simp [visited, left, stays]
  · simp [visited, left, stays]

end Snapshot

theorem taken_snapshot (s : Snapshot) (m : Move) : (taken s m).snapshot = m.snapshot := rfl

theorem absorbed_snapshot (s : Snapshot) (reason : String) :
    (absorbed s reason).snapshot = s := rfl

theorem transition_of_turn {s : Snapshot} {e : Event} {m : Move} (h : Turn s e m) :
    transition s e = taken s m := by
  simp [transition, turn_live h, rule_of_turn h]

theorem next_of_turn {s : Snapshot} {e : Event} {m : Move} (h : Turn s e m) :
    s.next e = m.snapshot := by
  rw [Snapshot.next, transition_of_turn h, taken_snapshot]

theorem next_cases (s : Snapshot) (e : Event) :
    (∃ m, Turn s e m ∧ s.next e = m.snapshot) ∨ (∀ m, ¬ Turn s e m) ∧ s.next e = s := by
  rcases transition_cases s e with ⟨m, h, -⟩ | ⟨refuses, reason, h⟩
  · exact .inl ⟨m, h, next_of_turn h⟩
  · exact .inr ⟨refuses, by rw [Snapshot.next, h, absorbed_snapshot]⟩

/-- A turn that asks for nothing moves on to another state. -/
theorem turn_shows {s : Snapshot} {e : Event} {m : Move} (h : Turn s e m) :
    m.state ≠ s.state ∨ m.commands ≠ [] := by
  cases h with
  | nothingProbed | resumeDeclined => exact .inl (by simp [Move.silent])
  | _ => exact .inr (List.cons_ne_nil _ _)

/-- An event changes a run exactly when there is a turn for it. -/
theorem changed_iff {s : Snapshot} {e : Event} :
    (transition s e).changed = true ↔ ∃ m, Turn s e m := by
  rcases transition_cases s e with ⟨m, h, ht⟩ | ⟨refuses, reason, ht⟩
  · rw [ht]
    constructor
    · intro
      exact ⟨m, h⟩
    · intro
      rcases turn_shows h with hs | hc
      · simp [taken, hs]
      · simp [taken, hc]
  · rw [ht]
    simp [absorbed, refuses]

theorem passage_turn {s : Snapshot} {es : List Event} {p : Passage} (there : p ∈ s.passages es)
    (accepted : p.result.changed = true) :
    ∃ before e later m, es = before ++ e :: later ∧ Turn (s.after before) e m ∧
      p = ⟨(s.after before).state, e, taken (s.after before) m⟩ := by
  obtain ⟨before, e, later, rfl, rfl⟩ := s.mem_passages there
  obtain ⟨m, h⟩ := changed_iff.mp accepted
  exact ⟨before, e, later, m, rfl, h, by rw [transition_of_turn h]⟩

theorem taken_changed {s : Snapshot} {e : Event} {m : Move} (h : Turn s e m) :
    (taken s m).changed = true := by
  rw [← transition_of_turn h]
  exact changed_iff.mpr ⟨m, h⟩

/-- What every turn keeps holds all along a run. -/
theorem after_keeps {P : Snapshot → Prop}
    (step : ∀ {s : Snapshot} {e : Event} {m : Move}, Turn s e m → P s → P m.snapshot)
    {s : Snapshot} (hs : P s) (es : List Event) : P (s.after es) := by
  induction es generalizing s with
  | nil => exact hs
  | cons e es ih =>
    apply ih
    rcases next_cases s e with ⟨m, h, hn⟩ | ⟨-, hn⟩
    · rw [hn]
      exact step h hs
    · rwa [hn]

/-- What every turn to another state says about the two is true of any two neighbours among
the visited states. -/
theorem visited_isChain {R : State → State → Prop}
    (step : ∀ {s : Snapshot} {e : Event} {m : Move}, Turn s e m → m.snapshot.state ≠ s.state →
      R s.state m.snapshot.state)
    (s : Snapshot) (es : List Event) : (s.visited es).IsChain R := by
  induction es generalizing s with
  | nil => exact .singleton _
  | cons e es ih =>
    rw [Snapshot.visited_cons]
    split
    · exact ih (s.next e)
    case isFalse moved =>
      rw [List.isChain_cons, Snapshot.visited_head]
      refine ⟨?_, ih (s.next e)⟩
      rintro st ⟨⟩
      rcases next_cases s e with ⟨m, h, hn⟩ | ⟨-, same⟩
      · rw [hn] at moved ⊢
        exact step h moved
      · exact absurd (congrArg Snapshot.state same) moved

theorem next_unchanged {s : Snapshot} {e : Event} (unchanged : (transition s e).changed = false) :
    s.next e = s := by
  rcases next_cases s e with ⟨m, h, -⟩ | ⟨-, same⟩
  · rw [changed_iff.mpr ⟨m, h⟩] at unchanged
    cases unchanged
  · exact same

theorem changed_of_moved {s : Snapshot} {e : Event} (moved : (s.next e).state ≠ s.state) :
    (transition s e).changed = true := by
  rcases next_cases s e with ⟨m, h, -⟩ | ⟨-, same⟩
  · exact changed_iff.mpr ⟨m, h⟩
  · rw [same] at moved
    exact absurd rfl moved

namespace Machine

def after (m : Machine) : List Event → Machine
  | [] => m
  | e :: es => (m.dispatch e).machine.after es

theorem after_append (m : Machine) (es fs : List Event) :
    m.after (es ++ fs) = (m.after es).after fs := by
  induction es generalizing m with
  | nil => rfl
  | cons e es ih => exact ih (m.dispatch e).machine

@[simp]
theorem after_snapshot (m : Machine) (es : List Event) :
    (m.after es).snapshot = m.snapshot.after es := by
  induction es generalizing m with
  | nil => rfl
  | cons e es ih => exact ih (m.dispatch e).machine

@[simp]
theorem after_state (m : Machine) (es : List Event) :
    (m.after es).state = (m.snapshot.after es).state := by
  rw [state, after_snapshot]

theorem dispatch_history (m : Machine) (e : Event) :
    (m.dispatch e).machine.history = m.history ++ m.snapshot.left [e] := by
  by_cases stays : (m.snapshot.next e).state = m.snapshot.state
  · have stays' : (transition m.snapshot e).state = m.snapshot.state := stays
    simp [dispatch, Snapshot.left, state, stays, stays']
  · have moved := changed_of_moved stays
    have stays' : (transition m.snapshot e).state ≠ m.snapshot.state := stays
    simp [dispatch, Snapshot.left, state, stays, stays', moved]

theorem after_history (m : Machine) (es : List Event) :
    (m.after es).history = m.history ++ m.snapshot.left es := by
  induction es generalizing m with
  | nil => exact (List.append_nil _).symm
  | cons e es ih =>
    rw [after, ih, dispatch_history, List.append_assoc]
    change _ = m.history ++ m.snapshot.left ([e] ++ es)
    rw [Snapshot.left_append]
    rfl

@[simp]
theorem dispatch_result (m : Machine) (e : Event) :
    (m.dispatch e).result = transition m.snapshot e := rfl

@[simp]
theorem resume_snapshot (s : Snapshot) : (resume s).snapshot = s := rfl

end Machine

end ControlPlane
