import ControlPlane.Proofs.Resume.Order
import ControlPlane.Proofs.Run.Commands
import ControlPlane.Proofs.Run.Course
import ControlPlane.Proofs.Wire.Snapshots

/-!
# The best candidate is resumed

A run from the boot accepts one probe at most. What it has found stays with the run, ranked,
as its candidates; the queue holds the same list until the user declines. So wherever the run
offers candidates or loads the queue there is a best one in front, and it is the one that is
resumed unless another one is named.
-/

set_option autoImplicit false

namespace ControlPlane

variable {s : Snapshot} {e : Event} {m : Move}

def Event.found? : Event → Option (List ResumeCandidate)
  | .bdProbeResult candidates => some candidates
  | _ => none

def Passage.found? (p : Passage) : Option (List ResumeCandidate) :=
  if p.result.changed then p.event.found? else none

def Snapshot.probes (s : Snapshot) (es : List Event) : List (List ResumeCandidate) :=
  (s.passages es).filterMap (·.found?)

def resumingStates : List State := [.resumeAsk, .resumePlan]

def unprobedStates : List State := [.boot, .idleProbeBd]

inductive Listing (s : Snapshot) : Event → Snapshot → Prop
  | probed {t : Snapshot} (cs : List ResumeCandidate) (waiting : s.state ∈ unprobedStates)
      (done : t.state ∉ unprobedStates)
      (candidates : t.context.resumeCandidates = ranked cs)
      (queue : t.context.resumeQueue = ranked cs)
      (filled : t.state ∈ resumingStates → ranked cs ≠ []) : Listing s (.bdProbeResult cs) t
  | declined {t : Snapshot} (done : t.state ∉ unprobedStates) (past : t.state ∉ resumingStates)
      (candidates : t.context.resumeCandidates = s.context.resumeCandidates)
      (queue : t.context.resumeQueue = []) : Listing s (.resumeDecision false) t
  | same {e : Event} {t : Snapshot} (noProbe : e.found? = none)
      (unprobed : t.state ∈ unprobedStates → s.state ∈ unprobedStates)
      (resuming : t.state ∈ resumingStates → s.state ∈ resumingStates)
      (candidates : t.context.resumeCandidates = s.context.resumeCandidates)
      (queue : t.context.resumeQueue = s.context.resumeQueue) : Listing s e t

theorem turn_lists (h : Turn s e m) : Listing s e m.snapshot := by
  cases h with
  | nothingProbed c cs empty =>
    refine .probed cs ?_ ?_ empty.symm empty.symm ?_ <;> simp [unprobedStates, resumingStates]
  | autoResumed c cs filled auto =>
    exact .probed cs (by simp [unprobedStates]) (by simp [unprobedStates]) rfl rfl fun _ => filled
  | resumeOffered c cs filled manual =>
    exact .probed cs (by simp [unprobedStates]) (by simp [unprobedStates]) rfl rfl fun _ => filled
  | resumeDeclined c =>
    exact .declined (by simp [unprobedStates]) (by simp [resumingStates]) rfl rfl
  | _ =>
    refine .same rfl ?_ ?_ ?_ ?_ <;>
      simp [unprobedStates, resumingStates, Rules.intakeContext_eq, Rules.switchContext,
        Rules.adopted_eq, Context.settleOn]

structure Resumable (found : Option (List ResumeCandidate)) (s : Snapshot) : Prop where
  unprobed : s.state ∈ unprobedStates → found = none
  candidates : s.context.resumeCandidates = ranked (found.getD [])
  queue : s.context.resumeQueue = s.context.resumeCandidates ∨ s.context.resumeQueue = []
  ready : s.state ∈ resumingStates →
    s.context.resumeQueue ≠ [] ∧ s.context.resumeQueue = s.context.resumeCandidates

variable {found : Option (List ResumeCandidate)}

theorem turn_resumable (h : Turn s e m) (hs : Resumable found s) :
    Resumable (found.or e.found?) m.snapshot := by
  cases turn_lists h with
  | probed cs waiting done candidates queue filled =>
    rw [hs.unprobed waiting]
    exact {
      unprobed := fun again => absurd again done
      candidates
      queue := .inl (queue.trans candidates.symm)
      ready := fun resuming => ⟨by rw [queue]; exact filled resuming, queue.trans candidates.symm⟩ }
  | declined done past candidates queue =>
    change Resumable (found.or none) _
    rw [Option.or_none]
    exact {
      unprobed := fun again => absurd again done
      candidates := candidates.trans hs.candidates
      queue := .inr queue
      ready := fun resuming => absurd resuming past }
  | same noProbe unprobed resuming candidates queue =>
    rw [noProbe, Option.or_none]
    exact {
      unprobed := fun again => hs.unprobed (unprobed again)
      candidates := candidates.trans hs.candidates
      queue := by rw [queue, candidates]; exact hs.queue
      ready := fun again => by rw [queue, candidates]; exact hs.ready (resuming again) }

theorem fresh_resumable (settings : Settings) : Resumable none ⟨.boot, settings.freshContext⟩ where
  unprobed _ := rfl
  candidates := (ranked_eq_nil.mpr rfl).symm
  queue := .inl rfl
  ready resuming := absurd resuming (by simp [resumingStates])

theorem probes_append (s : Snapshot) (es fs : List Event) :
    s.probes (es ++ fs) = s.probes es ++ (s.after es).probes fs := by
  rw [Snapshot.probes, Snapshot.passages_append, List.filterMap_append]
  rfl

theorem probes_cons (s : Snapshot) (e : Event) (es : List Event) :
    s.probes (e :: es) = s.probes [e] ++ (s.next e).probes es := probes_append s [e] es

theorem probes_turn (h : Turn s e m) : s.probes [e] = e.found?.toList := by
  have accepted : Passage.found? ⟨s.state, e, transition s e⟩ = e.found? :=
    if_pos (changed_iff.mpr ⟨m, h⟩)
  rw [Snapshot.probes, Snapshot.passages, Snapshot.passages, List.filterMap_cons, accepted]
  cases e.found? <;> rfl

theorem probes_absorbed (refuses : ∀ m, ¬ Turn s e m) : s.probes [e] = [] := by
  have refused : Passage.found? ⟨s.state, e, transition s e⟩ = none :=
    if_neg fun changed => (changed_iff.mp changed).elim refuses
  rw [Snapshot.probes, Snapshot.passages, Snapshot.passages, List.filterMap_cons, refused]
  rfl

/-- A probe is accepted before anything has been found, and not after that. -/
theorem next_resumable (hs : Resumable found s) (e : Event) :
    ∃ more, found.toList ++ s.probes [e] = more.toList ∧ Resumable more (s.next e) := by
  rcases next_cases s e with ⟨m, h, next⟩ | ⟨refuses, same⟩
  · refine ⟨found.or e.found?, ?_, next ▸ turn_resumable h hs⟩
    rw [probes_turn h]
    cases turn_lists h with
    | probed cs waiting =>
      rw [hs.unprobed waiting]
      rfl
    | declined => cases found <;> rfl
    | same noProbe =>
      rw [noProbe]
      cases found <;> rfl
  · exact ⟨found, by rw [probes_absorbed refuses, List.append_nil], same.symm ▸ hs⟩

theorem after_resumable (hs : Resumable found s) (es : List Event) :
    ∃ more, found.toList ++ s.probes es = more.toList ∧ Resumable more (s.after es) := by
  induction es generalizing s found with
  | nil => exact ⟨found, List.append_nil _, hs⟩
  | cons e es ih =>
    obtain ⟨next, once, hs⟩ := next_resumable hs e
    obtain ⟨more, all, hs⟩ := ih hs
    refine ⟨more, ?_, hs⟩
    rw [← all, ← once, List.append_assoc, probes_cons]

/-- A run that is about to resume has found something, and both lists hold it. -/
theorem Resumable.listed (hs : Resumable found s) (resuming : s.state ∈ resumingStates) :
    ∃ cs, found = some cs ∧ ranked cs ≠ [] ∧ s.context.resumeCandidates = ranked cs ∧
      s.context.resumeQueue = ranked cs := by
  obtain ⟨filled, queue⟩ := hs.ready resuming
  have candidates := hs.candidates
  rw [queue, candidates] at filled
  cases found with
  | none => exact absurd (ranked_eq_nil.mpr rfl) filled
  | some cs => exact ⟨cs, rfl, filled, candidates, queue.trans candidates⟩

/-- A plan is loaded for the epic that is named, or else for a best candidate. -/
theorem turn_resumes {epicId : Option String} (h : Turn s (.resumePlanLoaded epicId) m)
    (hs : Resumable found s) :
    ∃ cs best, found = some cs ∧ best ∈ cs ∧ (∀ c ∈ cs, best.order c ≠ .gt) ∧
      m.context.resumeQueue.head? = some best ∧ m.context.pendingEpicId = none ∧
      m.context.currentEpicId = some (epicId.getD best.epicId) := by
  cases h with
  | resumePlanLoaded c =>
    obtain ⟨cs, found_, filled, -, queue⟩ := hs.listed (by simp [resumingStates])
    obtain ⟨best, rest, list⟩ := List.exists_cons_of_ne_nil filled
    have first : c.resumeQueue.head? = some best := by
      change c.resumeQueue = ranked cs at queue
      rw [queue, list]
      rfl
    obtain ⟨there, least⟩ := ranked_head (show (ranked cs).head? = some best by rw [list]; rfl)
    refine ⟨cs, best, found_, there, least, first, rfl, ?_⟩
    change ((epicId <|> c.resumeQueue.head?.map (·.epicId)) <|> c.currentEpicId) = _
    rw [first]
    cases epicId <;> rfl

theorem turn_offers (h : Turn s e m) {k : Command} (hk : k ∈ m.commands) :
    (k.kind = .askResume → m.snapshot.state ∈ resumingStates ∧
      k.payload = some [("candidates", Move.candidateList m.context.resumeCandidates)]) ∧
    (k.kind = .loadResumeQueue → m.snapshot.state ∈ resumingStates ∧
      k.payload = some [("queue", Move.candidateList m.context.resumeQueue)]) := by
  have asked := turn_asks h hk
  cases h with
  | resumeOffered =>
    obtain rfl := List.mem_singleton.mp hk
    exact ⟨fun _ => ⟨by simp [resumingStates], rfl⟩, nofun⟩
  | autoResumed | resumeAccepted =>
    obtain rfl := List.mem_singleton.mp hk
    exact ⟨nofun, fun _ => ⟨by simp [resumingStates], rfl⟩⟩
  | _ =>
    constructor <;> intro kind <;> rw [kind] at asked <;> simp [State.asks] at asked

def Command.Lists (k : Command) (key : String) (cs : List ResumeCandidate) : Prop :=
  ∃ list : Json, k.payload = some [(key, list)] ∧
    Decode.decodeValue Decode.candidates list = .ok cs ∧
    Decode.decodeText Decode.candidates list.compact = .ok cs ∧
    Decode.decodeText Decode.candidates list.pretty = .ok cs

theorem candidateList_lists {k : Command} {key : String} {cs : List ResumeCandidate}
    (payload : k.payload = some [(key, Move.candidateList cs)]) : k.Lists key cs := by
  have gives := Decode.candidateList_gives cs
  have numbers := (Decode.candidateList_portable cs).numbers
  exact ⟨_, payload, gives (.text 127) (show 3 ≤ 127 by decide), gives.compact (by decide) numbers,
    gives.pretty (by decide) numbers⟩

theorem found_kept {found more : Option (List ResumeCandidate)}
    {rest : List (List ResumeCandidate)} (all : found.toList ++ rest = more.toList)
    {cs : List ResumeCandidate} (here : found = some cs) : more = some cs := by
  subst here
  cases more with
  | none => cases all
  | some ds =>
    cases all
    rfl

/-- In a fresh run the candidates are those of the one probe that was accepted, ranked. The
queue is the same list or empty, and it is the same list, with something in it, wherever the
run asks about it or loads it. So a plan that is loaded belongs to the epic that was named or
else to a best candidate, which is blocked only if all are; and what the collaborators are
given is the ranked list. -/
theorem resumes_best (settings : Settings) (es : List Event) :
    let start : Snapshot := ⟨.boot, settings.freshContext⟩
    let s := start.after es
    ∃ found : Option (List ResumeCandidate),
      start.probes es = found.toList ∧
      s.context.resumeCandidates = ranked (found.getD []) ∧
      (s.context.resumeQueue = s.context.resumeCandidates ∨ s.context.resumeQueue = []) ∧
      (s.state = .resumeAsk ∨ s.state = .resumePlan →
        s.context.resumeQueue ≠ [] ∧ s.context.resumeQueue = s.context.resumeCandidates) ∧
      ∀ p ∈ start.passages es, p.result.changed = true →
        (∀ epicId, p.event = .resumePlanLoaded epicId →
          p.result.context.pendingEpicId = none ∧
          ∃ best ∈ found.getD [],
            p.result.context.resumeQueue.head? = some best ∧
            (∀ c ∈ found.getD [], best.order c ≠ .gt) ∧
            (best.isExecutable = false → ∀ c ∈ found.getD [], c.isExecutable = false) ∧
            p.result.context.currentEpicId = some (epicId.getD best.epicId)) ∧
        ∀ k ∈ p.result.commands,
          (k.kind = .askResume → k.Lists "candidates" (ranked (found.getD []))) ∧
          (k.kind = .loadResumeQueue → k.Lists "queue" (ranked (found.getD []))) := by
  intro start s
  have fresh := fresh_resumable settings
  obtain ⟨found, probes, last⟩ := after_resumable fresh es
  refine ⟨found, probes, last.candidates, last.queue, fun resuming => last.ready ?_, ?_⟩
  · simpa [resumingStates] using resuming
  · intro p there changed
    obtain ⟨before, e, later, m, rfl, h, rfl⟩ := passage_turn there changed
    obtain ⟨early, before_, hs⟩ := after_resumable fresh before
    obtain ⟨here, next, hm⟩ := next_resumable hs e
    -- What is there after this event is what the whole run has found.
    have split : here.toList ++ ((start.after before).next e).probes later = found.toList := by
      rw [← next, ← before_, List.append_assoc, List.append_assoc, ← probes_cons,
        ← probes_append]
      exact probes
    rw [next_of_turn h] at hm
    refine ⟨?_, fun k hk => ?_⟩
    · rintro epicId rfl
      obtain ⟨cs, best, early_, there, least, first, pending, current⟩ := turn_resumes h hs
      rw [found_kept split (found_kept next early_)]
      exact ⟨pending, best, there, first, least,
        fun blocked c other => ResumeCandidate.blocked_of_precedes (least c other) blocked, current⟩
    · obtain ⟨asks, loads⟩ := turn_offers h hk
      refine ⟨fun kind => ?_, fun kind => ?_⟩
      · obtain ⟨resuming, payload⟩ := asks kind
        obtain ⟨cs, here_, -, candidates, -⟩ := hm.listed resuming
        rw [found_kept split here_]
        exact candidateList_lists (candidates ▸ payload)
      · obtain ⟨resuming, payload⟩ := loads kind
        obtain ⟨cs, here_, -, -, queue⟩ := hm.listed resuming
        rw [found_kept split here_]
        exact candidateList_lists (queue ▸ payload)

end ControlPlane
