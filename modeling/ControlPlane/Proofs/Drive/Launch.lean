import ControlPlane.Proofs.Drive.Restart

/-!
# What the flags decide about a run

Before the first event of a file is dispatched it is settled under which settings the run is,
which events it has and where it starts. The flags override what the settings file and the
variable say, and a run that starts at the boot or in a state that was asked for has the
bound on feedback and the resumption of its settings. A run that takes up the snapshot of an
earlier one takes these up with it, whatever the flags are.
-/

set_option autoImplicit false

namespace ControlPlane

open Terminal (Invocation)

structure Launch where
  settings : Settings
  chosen : Option State
  events : List Event
  start : Snapshot

def State.chosen? : Option String → Except Failure (Option State)
  | none => .ok none
  | some name =>
    match State.ofName? name with
    | some state => .ok (some state)
    | none => .error (.unknownState name)

section Steps

variable {m : Type → Type} [Monad m]

def Settings.launch (fs : FileSystem m) (settings : Settings) (file : String)
    (chosen : Option State) : m (Except String Launch) := do
  match ← fs.readAs Decode.events file with
  | .error _ => pure (.error ("failed to read events from " ++ file))
  | .ok events =>
    match ← settings.start fs chosen with
    | .error e => pure (.error e.headline)
    | .ok start => pure (.ok ⟨settings, chosen, events, start⟩)

namespace Surroundings

def launch (s : Surroundings m) (i : Invocation) (file : String) (name : Option String) :
    m (Except String Launch) := do
  match ← s.settingsFor i with
  | .error complaint => pure (.error complaint)
  | .ok settings =>
    match State.chosen? name with
    | .error e => pure (.error e.headline)
    | .ok chosen => settings.launch s.files file chosen

def dispatch (s : Surroundings m) (l : Launch) : m Outcome := do
  return .shown ((← drive (l.settings.keeper? s.files) l.start l.events).text s.colours)

def proceed (s : Surroundings m) : Except String Launch → m Outcome
  | .error complaint => pure (.failed complaint)
  | .ok l => s.dispatch l

variable [LawfulMonad m] (s : Surroundings m)

theorem showRun_play (settings : Settings) (chosen : Option State) (events : List Event) :
    s.showRun (s.play settings chosen events) = (do
      match ← settings.start s.files chosen with
      | .error e => pure (.failed e.headline)
      | .ok start => s.dispatch ⟨settings, chosen, events, start⟩) := by
  rw [showRun, play, bind_assoc]
  refine bind_congr fun start => ?_
  cases start with
  | error e => rw [pure_bind]
  | ok start => simp only [bind_assoc, pure_bind, dispatch]

theorem replay_launch (settings : Settings) (file : String) (chosen : Option State) :
    s.replay settings file chosen = settings.launch s.files file chosen >>= s.proceed := by
  rw [replay, Settings.launch, bind_assoc]
  refine bind_congr fun read => ?_
  cases read with
  | error e => rw [pure_bind, proceed]
  | ok events =>
    dsimp only
    rw [showRun_play, bind_assoc]
    refine bind_congr fun start => ?_
    cases start <;> rw [pure_bind, proceed]

theorem answer_launch {args : List String} {i : Invocation} {file : String}
    {name : Option String} (parsed : Invocation.ofArguments args = .ok i)
    (task : i.task = .replay file name) :
    s.answer args = s.launch i file name >>= s.proceed := by
  have performed (settings : Settings) : s.perform settings i.task =
      match State.chosen? name with
      | .error e => pure (.failed e.headline)
      | .ok chosen => s.replay settings file chosen := by
    rw [task]
    cases name with
    | none => rfl
    | some name =>
      rw [perform, State.chosen?]
      cases State.ofName? name <;> rfl
  rw [answer, parsed]
  dsimp only
  rw [launch, bind_assoc]
  refine bind_congr fun found => ?_
  cases found with
  | error complaint => rw [pure_bind, proceed]
  | ok settings =>
    dsimp only
    rw [performed]
    cases State.chosen? name with
    | error e => rw [pure_bind, proceed]
    | ok chosen => exact s.replay_launch settings file chosen

end Surroundings

end Steps

section Reading

namespace Disk

variable {α β : Type} {d : Disk}

def OnlyReads (act : StateM Disk α) : Prop := ∀ d, (act.run d).2 = d

theorem OnlyReads.run_eq {act : StateM Disk α} (h : OnlyReads act) (d : Disk) :
    act.run d = ((act.run d).1, d) := Prod.ext rfl (h d)

theorem OnlyReads.result_iff {act : StateM Disk α} (h : OnlyReads act) {a : α} :
    (act.run d).1 = a ↔ act.run d = (a, d) := by
  rw [h.run_eq, Prod.mk.injEq, and_iff_left rfl]

theorem OnlyReads.run_bind {act : StateM Disk α} (h : OnlyReads act) (next : α → StateM Disk β)
    (d : Disk) : (act >>= next).run d = (next (act.run d).1).run d := by
  rw [StateT.run_bind, h.run_eq]
  rfl

theorem OnlyReads.pure (a : α) : OnlyReads (pure a) := fun _ => rfl

theorem OnlyReads.bind {act : StateM Disk α} (h : OnlyReads act) {next : α → StateM Disk β}
    (rest : ∀ a, OnlyReads (next a)) : OnlyReads (act >>= next) := fun d => by
  rw [h.run_bind, rest]

theorem pure_run {a b : α} : (Pure.pure a : StateM Disk α).run d = (b, d) ↔ a = b :=
  ⟨congrArg Prod.fst, fun same => by rw [same]; rfl⟩

/-- Two steps succeed if the first one does and then, on the same disk, the second. -/
theorem OnlyReads.run_ok {ε ε' : Type} {act : StateM Disk (Except ε α)} (h : OnlyReads act)
    {next : Except ε α → StateM Disk (Except ε' β)} {b : β}
    (fails : ∀ e, ∃ e', next (.error e) = Pure.pure (.error e')) :
    (act >>= next).run d = (.ok b, d) ↔
      ∃ a, act.run d = (.ok a, d) ∧ (next (.ok a)).run d = (.ok b, d) := by
  rw [h.run_bind, h.run_eq]
  cases (act.run d).1 with
  | error e =>
    obtain ⟨e', failed⟩ := fails e
    rw [failed]
    exact ⟨nofun, nofun⟩
  | ok a =>
    refine ⟨fun succeeds => ⟨a, rfl, succeeds⟩, ?_⟩
    rintro ⟨_, ⟨⟩, succeeds⟩
    exact succeeds

theorem reads_readAs (decode : Decode.Decoder α) (path : String) :
    OnlyReads (system.readAs decode path) := by
  refine OnlyReads.bind (fun _ => rfl) fun text => ?_
  split
  · exact .pure _
  · split <;> exact .pure _

theorem reads_readSettings (path : String) : OnlyReads (Settings.readFile system path) := by
  refine OnlyReads.bind (fun _ => rfl) fun holds => ?_
  split
  · refine OnlyReads.bind (fun _ => rfl) fun text => ?_
    split
    · exact .pure _
    · split <;> exact .pure _
  · exact .pure _

theorem reads_settings (path : String) (word : Option String) :
    OnlyReads (Settings.load system path word) := by
  refine (reads_readSettings path).bind fun found => ?_
  split <;> exact .pure _

theorem reads_start (settings : Settings) (chosen : Option State) :
    OnlyReads (settings.start system chosen) := by
  obtain ⟨autoResume, most, snapshotPath, filter⟩ := settings
  cases chosen with
  | some state => exact .pure _
  | none =>
    cases snapshotPath with
    | none => exact .pure _
    | some path =>
      refine OnlyReads.bind (fun _ => rfl) fun holds => ?_
      split
      · exact fun d => congrArg Prod.snd (load_run path d)
      · exact .pure _

theorem reads_launch (settings : Settings) (file : String) (chosen : Option State) :
    OnlyReads (settings.launch system file chosen) := by
  refine (reads_readAs _ file).bind fun read => ?_
  split
  · exact .pure _
  · refine (reads_start settings chosen).bind fun start => ?_
    split <;> exact .pure _

theorem launch_iff {settings : Settings} {file : String} {chosen : Option State} {l : Launch} :
    (settings.launch system file chosen).run d = (.ok l, d) ↔
      ∃ events start, (system.readAs Decode.events file).run d = (.ok events, d) ∧
        (settings.start system chosen).run d = (.ok start, d) ∧
        Launch.mk settings chosen events start = l := by
  -- The failures are looked at by a tactic, after the goal has said what the next step is.
  rw [Settings.launch, (reads_readAs _ file).run_ok (by exact fun e => ⟨_, rfl⟩)]
  refine exists_congr fun events => ?_
  rw [(reads_start settings chosen).run_ok (by exact fun e => ⟨_, rfl⟩)]
  simp only [pure_run, Except.ok.injEq, ← exists_and_left]

end Disk

namespace Surroundings

variable {word : Option String} {colours : Bool} {d : Disk} {i : Invocation}

def onDisk (word : Option String) (colours : Bool) : Surroundings (StateM Disk) :=
  ⟨Disk.system, word, colours⟩

theorem reads_settingsFor : Disk.OnlyReads ((onDisk word colours).settingsFor i) := by
  refine (Disk.reads_settings settingsFile word).bind fun found => ?_
  split
  · exact .pure _
  · split <;> exact .pure _

theorem settingsFor_iff {settings : Settings} :
    ((onDisk word colours).settingsFor i).run d = (.ok settings, d) ↔
      ∃ found, (Settings.load Disk.system settingsFile word).run d = (.ok found, d) ∧
        found.under i.autoResume i.maxFeedback = .ok settings := by
  rw [settingsFor]
  refine ((Disk.reads_settings settingsFile word).run_ok (by exact fun e => ⟨_, rfl⟩)).trans ?_
  refine exists_congr fun found => and_congr_right fun _ => ?_
  dsimp only
  cases found.under i.autoResume i.maxFeedback with
  | error e => exact ⟨nofun, nofun⟩
  | ok under =>
    dsimp only
    rw [Disk.pure_run, Except.ok.injEq, Except.ok.injEq]

variable {file : String} {name : Option String} {l : Launch}

theorem reads_launch : Disk.OnlyReads ((onDisk word colours).launch i file name) := by
  refine reads_settingsFor.bind fun found => ?_
  split
  · exact .pure _
  · split
    · exact .pure _
    · exact Disk.reads_launch _ file _

theorem answer_run {args : List String} (parsed : Invocation.ofArguments args = .ok i)
    (task : i.task = .replay file name) {launched : Except String Launch}
    (launch : (((onDisk word colours).launch i file name).run d).1 = launched) :
    ((onDisk word colours).answer args).run d = ((onDisk word colours).proceed launched).run d := by
  rw [answer_launch _ parsed task, reads_launch.run_bind, launch]

theorem launch_iff :
    ((onDisk word colours).launch i file name).run d = (.ok l, d) ↔
      ∃ settings chosen, ((onDisk word colours).settingsFor i).run d = (.ok settings, d) ∧
        State.chosen? name = .ok chosen ∧
        (settings.launch Disk.system file chosen).run d = (.ok l, d) := by
  rw [launch, reads_settingsFor.run_ok (by exact fun e => ⟨_, rfl⟩)]
  refine exists_congr fun settings => ?_
  rw [exists_and_left]
  refine and_congr_right fun _ => ?_
  cases State.chosen? name with
  | error e => exact ⟨nofun, nofun⟩
  | ok chosen =>
    refine ⟨fun launched => ⟨chosen, rfl, launched⟩, ?_⟩
    rintro ⟨_, ⟨⟩, launched⟩
    exact launched

end Surroundings

end Reading

def Settings.overridden (found : Settings) (i : Invocation) : Settings :=
  { found with
    autoResume := i.autoResume || found.autoResume
    maxReviewerFeedbackCount := i.maxFeedback.getD found.maxReviewerFeedbackCount }

theorem Settings.under_iff {found settings : Settings} {i : Invocation} :
    found.under i.autoResume i.maxFeedback = .ok settings ↔
      i.maxFeedback ≠ some 0 ∧ settings = found.overridden i := by
  obtain ⟨task, autoResume, maxFeedback, verbose⟩ := i
  cases maxFeedback with
  | none => simp [Settings.under, overridden, eq_comm]
  | some n =>
    by_cases zero : n = 0
    · simp [Settings.under, validate, zero]
    · simp [Settings.under, validate, overridden, zero, eq_comm]

structure Context.Heeds (c : Context) (i : Invocation) : Prop where
  bound : ∀ n, i.maxFeedback = some n → c.maxReviewerFeedbackCount = n
  resumes : i.autoResume = true → c.autoResume = true

theorem Settings.overridden_heeds (found : Settings) (i : Invocation) :
    (found.overridden i).freshContext.Heeds i where
  bound n given := by simp only [freshContext, overridden, given, Option.getD_some]
  resumes given := by simp only [freshContext, overridden, given, Bool.true_or]

inductive Settings.Starts (settings : Settings) (d : Disk) : Option State → Snapshot → Prop
  | chosen (state : State) : Starts settings d (some state) ⟨state, settings.freshContext⟩
  | kept {path : String} {s : Snapshot} (named : settings.snapshotPath = some path)
      (holds : d.holds (.ofText path) = true)
      (loaded : (Disk.system.load path).run d = (.ok s, d)) : Starts settings d none s
  | boot (missing : ∀ path ∈ settings.snapshotPath, d.holds (.ofText path) = false) :
      Starts settings d none ⟨.boot, settings.freshContext⟩

theorem Settings.start_iff {settings : Settings} {d : Disk} {chosen : Option State}
    {start : Snapshot} :
    (settings.start Disk.system chosen).run d = (.ok start, d) ↔
      settings.Starts d chosen start := by
  constructor
  · intro started
    obtain ⟨autoResume, most, snapshotPath, filter⟩ := settings
    cases chosen with
    | some state =>
      cases started
      exact .chosen state
    | none =>
      cases snapshotPath with
      | none =>
        cases started
        exact .boot nofun
      | some path =>
        rw [start_run rfl] at started
        split at started
        case isTrue holds => exact .kept rfl holds started
        case isFalse missing =>
          cases started
          refine .boot fun p hp => ?_
          cases hp
          exact Bool.eq_false_iff.mpr missing
  · intro starts
    cases starts with
    | chosen state => rfl
    | kept named holds loaded => rw [start_run named, if_pos holds, loaded]
    | boot missing =>
      obtain ⟨autoResume, most, snapshotPath, filter⟩ := settings
      cases snapshotPath with
      | none => rfl
      | some path => rw [start_run rfl, if_neg (Bool.eq_false_iff.mp (missing path rfl))]

/-- The run that the variable, the flags and the disk make of a file of events. -/
structure Launch.Due (l : Launch) (d : Disk) (word : Option String) (i : Invocation)
    (file : String) (name : Option String) : Prop where
  settings : ∃ found, (Settings.load Disk.system settingsFile word).run d = (.ok found, d) ∧
    i.maxFeedback ≠ some 0 ∧ l.settings = found.overridden i
  chosen : State.chosen? name = .ok l.chosen
  events : (Disk.system.readAs Decode.events file).run d = (.ok l.events, d)
  start : l.settings.Starts d l.chosen l.start

/-- What is launched is the run that is due. -/
theorem launch_due {l : Launch} {d : Disk} {word : Option String} {colours : Bool}
    {i : Invocation} {file : String} {name : Option String} :
    (((Surroundings.onDisk word colours).launch i file name).run d).1 = .ok l ↔
      l.Due d word i file name := by
  simp only [Surroundings.reads_launch.result_iff, Surroundings.launch_iff,
    Surroundings.settingsFor_iff, Settings.under_iff, Disk.launch_iff, Settings.start_iff]
  constructor
  · rintro ⟨_, _, found, named, events, start, read, starts, rfl⟩
    exact ⟨found, named, read, starts⟩
  · intro due
    exact ⟨_, _, due.settings, due.chosen, _, _, due.events, due.start, rfl⟩

theorem due_of_launch (colours : Bool) {d : Disk} {word : Option String} {i : Invocation}
    {file : String} {name : Option String} {α : Type} {f : Launch → α} {a : α}
    (told : (((Surroundings.onDisk word colours).launch i file name).run d).1.map f = .ok a) :
    ∃ l : Launch, l.Due d word i file name ∧ f l = a := by
  cases launch : (((Surroundings.onDisk word colours).launch i file name).run d).1 with
  | error complaint =>
    rw [launch] at told
    cases told
  | ok l =>
    rw [launch] at told
    exact ⟨l, launch_due.mp launch, Except.ok.inj told⟩

/-- A run that is due starts with the context of its settings, or it is kept on the disk. -/
theorem Launch.Due.context {l : Launch} {d : Disk} {word : Option String} {i : Invocation}
    {file : String} {name : Option String} (due : l.Due d word i file name) :
    l.start.context = l.settings.freshContext ∨
      name = none ∧ ∃ path, l.settings.snapshotPath = some path ∧
        d.holds (.ofText path) = true ∧ (Disk.system.load path).run d = (.ok l.start, d) := by
  obtain ⟨-, chosen, -, starts⟩ := due
  obtain ⟨settings, picked, events, start⟩ := l
  dsimp only at chosen starts ⊢
  cases starts with
  | chosen state => exact .inl rfl
  | boot missing => exact .inl rfl
  | @kept path _ named holds loaded =>
    refine .inr ⟨?_, path, named, holds, loaded⟩
    cases name with
    | none => rfl
    | some name =>
      rw [State.chosen?] at chosen
      split at chosen <;> cases chosen

/-- When a file of events is to be replayed, the program dispatches them to the run that is due,
and if none is it complains and has done nothing. The settings of the run are those that were
found, with the flags in their place. A run that starts at the boot or in a state that was asked
for has them in its context; one that is kept is taken up as it is. -/
theorem replay_heeds_flags (d : Disk) (word : Option String) (colours : Bool)
    (args : List String) (i : Invocation) (file : String) (name : Option String)
    (parsed : Invocation.ofArguments args = .ok i) (task : i.task = .replay file name) :
    let s := Surroundings.onDisk word colours
    (∀ l : Launch, l.Due d word i file name →
      (s.answer args).run d = (s.dispatch l).run d ∧ l.settings.freshContext.Heeds i ∧
        (l.start.context = l.settings.freshContext ∨
          name = none ∧ ∃ path, l.settings.snapshotPath = some path ∧
            d.holds (.ofText path) = true ∧ (Disk.system.load path).run d = (.ok l.start, d))) ∧
      ((∀ l : Launch, ¬ l.Due d word i file name) →
        ∃ complaint, (s.answer args).run d = (.failed complaint, d)) := by
  intro s
  constructor
  · intro l due
    obtain ⟨found, -, -, overridden⟩ := due.settings
    refine ⟨?_, ?_, due.context⟩
    · exact Surroundings.answer_run parsed task (launch_due.mpr due)
    · rw [overridden]
      exact found.overridden_heeds i
  · intro undue
    cases launch : ((s.launch i file name).run d).1 with
    | error complaint => exact ⟨complaint, Surroundings.answer_run parsed task launch⟩
    | ok l => exact absurd (launch_due.mp launch) (undue l)

section Leftover

def leftover : Disk :=
  ((Disk.empty.place "epicflow.toml" (.file (some "snapshot_path = \"run.json\""))).place
    "events.json" (.file (some "[\x7b\"type\": \"tick\"\x7d]"))).place
    "run.json" (.file (some ("\x7b\"state\": \"plan_review\", \"context\": "
      ++ "\x7b\"auto_resume\": false, \"max_reviewer_feedback_count\": 3\x7d\x7d")))

def otherwise : List String := ["--auto-resume", "--max-feedback", "5", "replay", "events.json"]

def otherwiseIn (name : Option String) : Invocation :=
  ⟨.replay "events.json" name, true, some 5, false⟩

/-- The flags are heeded in a state that is asked for, though a snapshot is kept. -/
theorem replay_heeds_flags_chosen :
    Invocation.ofArguments (otherwise ++ ["--from-state", "plan_review"]) =
        .ok (otherwiseIn (some "plan_review")) ∧
      ∃ l : Launch, l.Due leftover none (otherwiseIn (some "plan_review")) "events.json"
          (some "plan_review") ∧
        ((Surroundings.onDisk none false).answer (otherwise ++ ["--from-state", "plan_review"])).run
          leftover = ((Surroundings.onDisk none false).dispatch l).run leftover ∧
        l.start.state = .planReview ∧ l.start.context.maxReviewerFeedbackCount = 5 ∧
        l.start.context.autoResume = true := by
  have parsed : Invocation.ofArguments (otherwise ++ ["--from-state", "plan_review"]) =
      .ok (otherwiseIn (some "plan_review")) := by decide +kernel
  obtain ⟨l, due, state⟩ : ∃ l : Launch, l.Due leftover none (otherwiseIn (some "plan_review"))
      "events.json" (some "plan_review") ∧ l.start.state = .planReview :=
    due_of_launch false (by decide +kernel)
  obtain ⟨answered, heeds, fresh | ⟨unnamed, -⟩⟩ :=
    (replay_heeds_flags leftover none false _ _ "events.json" (some "plan_review") parsed rfl).1 l
      due
  · rw [← fresh] at heeds
    exact ⟨parsed, l, due, answered, state, heeds.bound 5 rfl, heeds.resumes rfl⟩
  · cases unnamed

/-- The flags change nothing about a snapshot that is kept. -/
theorem kept_unheeding :
    Invocation.ofArguments otherwise = .ok (otherwiseIn none) ∧
      ∃ l : Launch, l.Due leftover none (otherwiseIn none) "events.json" none ∧
        ((Surroundings.onDisk none false).answer otherwise).run leftover =
          ((Surroundings.onDisk none false).dispatch l).run leftover ∧
        l.start.context.maxReviewerFeedbackCount = 3 ∧ l.start.context.autoResume = false := by
  have parsed : Invocation.ofArguments otherwise = .ok (otherwiseIn none) := by decide +kernel
  obtain ⟨l, due, values⟩ : ∃ l : Launch, l.Due leftover none (otherwiseIn none) "events.json"
      none ∧ (l.start.context.maxReviewerFeedbackCount, l.start.context.autoResume) = (3, false) :=
    due_of_launch false (by decide +kernel)
  have answered : ((Surroundings.onDisk none false).answer otherwise).run leftover =
      ((Surroundings.onDisk none false).dispatch l).run leftover :=
    Surroundings.answer_run parsed rfl (launch_due.mpr due)
  exact ⟨parsed, l, due, answered, congrArg Prod.fst values, congrArg Prod.snd values⟩

end Leftover

end ControlPlane
