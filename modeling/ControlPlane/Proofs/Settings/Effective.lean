import ControlPlane.Proofs.Drive.Launch
import ControlPlane.Proofs.Text.Reading

/-!
# The settings in effect

What a settings file says is heeded unless the variable or the flags say otherwise. The variable
has a say in one setting only, and only if it is one of eight words; it neither mends a file that
cannot be used nor spoils another one. The bound on feedback is checked when the settings have
been loaded and again when a flag has changed it, so that no task is performed with a bound of
zero.
-/

set_option autoImplicit false

namespace ControlPlane

open Terminal (Invocation)
open Text (isBlank)
open Toml (Items Value)

section Words

def flagWords : List (String × Bool) :=
  [("1", true), ("true", true), ("yes", true), ("on", true),
   ("0", false), ("false", false), ("no", false), ("off", false)]

def Means (raw : String) (flag : Bool) : Prop :=
  ∃ before word after, (∀ c ∈ before ++ after, isBlank c = true) ∧
    raw.toList = before ++ word ++ after ∧ (String.ofList (word.map Char.toLower), flag) ∈ flagWords

/-- Only large letters have others in their place. -/
theorem toLower_blank {c : Char} (blank : isBlank c = true) : c.toLower = c := by
  refine dif_neg fun large => ?_
  have low : 65 ≤ c.toNat := large.1
  have high : c.toNat ≤ 90 := large.2
  simp only [isBlank, Bool.or_eq_true, Bool.and_eq_true, decide_eq_true_eq] at blank
  omega

theorem plain_flagWord {word : List Char} {flag : Bool}
    (known : (String.ofList (word.map Char.toLower), flag) ∈ flagWords) : Text.Plain word := by
  have plain : ∀ w ∈ flagWords, (w.1.toList.all fun c => !isBlank c) = true := by decide
  have lowered := plain _ known
  rw [String.toList_ofList, List.all_eq_true] at lowered
  intro c inside
  by_contra blank
  rw [Bool.not_eq_false] at blank
  -- a blank would still be one among the small letters
  have there := lowered _ (List.mem_map_of_mem inside)
  rw [toLower_blank blank, blank] at there
  cases there

theorem flagWord?_iff {raw : String} {flag : Bool} :
    flagWord? raw = some flag ↔ Means raw flag := by
  have table (word : String) :
      (if word = "1" || word = "true" || word = "yes" || word = "on" then some true
        else if word = "0" || word = "false" || word = "no" || word = "off" then some false
        else none) = some flag ↔ (word, flag) ∈ flagWords := by
    simp only [flagWords, List.mem_cons, Prod.mk.injEq, List.not_mem_nil, or_false]
    cases flag <;> grind
  rw [flagWord?, table]
  constructor
  · intro known
    obtain ⟨before, after, blank, parts⟩ := Text.trim_parts raw.toList
    exact ⟨before, _, after, blank, parts, known⟩
  · rintro ⟨before, word, after, blank, parts, known⟩
    rw [List.forall_mem_append] at blank
    rwa [parts, Text.trim_around blank.1 blank.2, Text.trim_plain (plain_flagWord known)]

end Words

section Files

inductive Says {α : Type} (items : Items) (key : String) (default : α) (fit : Value → Option α) :
    α → Prop
  | unnamed (absent : items.get? key = none) : Says items key default fit default
  | named {v : Value} {a : α} (given : items.get? key = some (.value v)) (typed : fit v = some a) :
      Says items key default fit a

theorem setting_iff {α : Type} {items : Items} {key : String} {default a : α}
    {fit : Value → Option α} :
    Settings.setting items key default fit = some a ↔ Says items key default fit a := by
  rw [Settings.setting]
  constructor
  · intro read
    split at read
    case h_1 absent =>
      obtain rfl := Option.some.inj read
      exact .unnamed absent
    case h_2 v given => exact .named given read
    case h_3 => cases read
  · rintro (absent | ⟨given, typed⟩)
    · rw [absent]
    · rw [given]
      exact typed

namespace Settings

structure SaidBy (f : Settings) (items : Items) : Prop where
  autoResume : Says items "auto_resume" false asBool f.autoResume
  bound : Says items "max_reviewer_feedback_count" 3 asCount f.maxReviewerFeedbackCount
  snapshotPath :
    Says items "snapshot_path" none (fun v => (asText v).map some) f.snapshotPath
  logFilter : Says items "log_filter" "epicflow=info" asText f.logFilter

def SaidIn (f : Settings) (text : String) : Prop :=
  ∃ items, Toml.read text = some items ∧ f.SaidBy items

theorem ofItems?_iff {items : Items} {f : Settings} :
    ofItems? items = some f ↔ f.SaidBy items := by
  obtain ⟨autoResume, bound, snapshotPath, logFilter⟩ := f
  simp only [ofItems?, Option.bind_eq_bind, Option.bind_eq_some_iff, setting_iff,
    Option.some.injEq, mk.injEq]
  constructor
  · rintro ⟨_, resume, _, most, _, path, _, filter, rfl, rfl, rfl, rfl⟩
    exact ⟨resume, most, path, filter⟩
  · intro said
    exact ⟨_, said.autoResume, _, said.bound, _, said.snapshotPath, _, said.logFilter, rfl, rfl,
      rfl, rfl⟩

theorem ofText?_iff {text : String} {f : Settings} : ofText? text = some f ↔ f.SaidIn text := by
  simp only [ofText?, Option.bind_eq_some_iff, ofItems?_iff, SaidIn]

inductive Filed (d : Disk) (path : String) : Settings → Prop
  | absent (missing : d.holds (.ofText path) = false) :
      Filed d path ⟨false, 3, none, "epicflow=info"⟩
  | present {text : String} {f : Settings} (holds : d.holds (.ofText path) = true)
      (read : d.read (.ofText path) = some text) (said : f.SaidIn text) : Filed d path f

inductive Unusable (d : Disk) (path : String) : Failure → Prop
  | unreadable (holds : d.holds (.ofText path) = true) (unread : d.read (.ofText path) = none) :
      Unusable d path .file
  | undecodable {text : String} (holds : d.holds (.ofText path) = true)
      (read : d.read (.ofText path) = some text) (unsaid : ∀ f : Settings, ¬ f.SaidIn text) :
      Unusable d path .settingsText
  | zeroBound {f : Settings} (filed : f.Filed d path) (zero : f.maxReviewerFeedbackCount = 0) :
      Unusable d path .zeroFeedback

variable {d : Disk} {path : String} {word : Option String} {f s : Settings} {e : Failure}

/-- The file is looked for, read and decoded. -/
theorem readFile_result (path : String) (d : Disk) :
    ((readFile Disk.system path).run d).1 =
      if d.holds (.ofText path) then
        match d.read (.ofText path) with
        | none => .error .file
        | some text =>
          match ofText? text with
          | some f => .ok f
          | none => .error .settingsText
      else .ok {} := by
  rw [readFile]
  change (StateT.run (m := Id) (if d.holds (.ofText path) = true then _ else _) d).1 = _
  split
  case isTrue holds =>
    change (StateT.run (m := Id)
      (match d.read (.ofText path) with | none => _ | some text => _) d).1 = _
    split
    case h_1 unread => rfl
    case h_2 text read => cases ofText? text <;> rfl
  case isFalse missing => rfl

theorem readFile_ok : ((readFile Disk.system path).run d).1 = .ok f ↔ f.Filed d path := by
  rw [readFile_result]
  constructor
  · intro found
    split at found
    case isTrue holds =>
      split at found
      case h_1 => cases found
      case h_2 text read =>
        split at found
        case h_1 decoded =>
          obtain rfl := Except.ok.inj found
          exact .present holds read (ofText?_iff.mp decoded)
        case h_2 => cases found
    case isFalse missing =>
      obtain rfl := Except.ok.inj found
      exact .absent (Bool.eq_false_of_not_eq_true missing)
  · rintro (missing | ⟨holds, read, said⟩)
    · simp [missing]
    · simp [holds, read, ofText?_iff.mpr said]

theorem unusable_iff : Unusable d path e ↔
    ((readFile Disk.system path).run d).1 = .error e ∨
      ∃ f : Settings, ((readFile Disk.system path).run d).1 = .ok f ∧
        f.maxReviewerFeedbackCount = 0 ∧ e = .zeroFeedback := by
  constructor
  · rintro (⟨holds, unread⟩ | ⟨holds, read, unsaid⟩ | ⟨filed, zero⟩)
    · exact .inl (by simp [readFile_result, holds, unread])
    · have undecoded := Option.eq_none_iff_forall_ne_some.mpr fun f decoded =>
        unsaid f (ofText?_iff.mp decoded)
      exact .inl (by simp [readFile_result, holds, read, undecoded])
    · exact .inr ⟨_, readFile_ok.mpr filed, zero, rfl⟩
  · rintro (failed | ⟨f, found, zero, rfl⟩)
    · rw [readFile_result] at failed
      split at failed
      case isTrue holds =>
        split at failed
        case h_1 unread =>
          obtain rfl := Except.error.inj failed
          exact .unreadable holds unread
        case h_2 text read =>
          split at failed
          case h_1 => cases failed
          case h_2 undecoded =>
            obtain rfl := Except.error.inj failed
            refine .undecodable holds read fun f said => ?_
            rw [ofText?_iff.mpr said] at undecoded
            cases undecoded
      case isFalse => cases failed
    · exact .zeroBound (readFile_ok.mp found) zero

theorem load_result (path : String) (word : Option String) (d : Disk) :
    ((load Disk.system path word).run d).1 =
      ((readFile Disk.system path).run d).1.bind fun f => (f.heeding word).validate := by
  rw [load, (Disk.reads_readSettings path).run_bind]
  cases ((readFile Disk.system path).run d).1 <;> rfl

/-- The word decides about resuming, if it means anything, and nothing else. -/
theorem heeding_eq (f : Settings) (word : Option String) :
    f.heeding word = { f with autoResume := (word.bind flagWord?).getD f.autoResume } := by
  rw [heeding]
  cases word.bind flagWord? <;> rfl

theorem validate_ok {f s : Settings} :
    f.validate = .ok s ↔ f.maxReviewerFeedbackCount ≠ 0 ∧ s = f := by
  by_cases zero : f.maxReviewerFeedbackCount = 0 <;> simp [validate, zero, eq_comm]

theorem validate_error {f : Settings} {e : Failure} :
    f.validate = .error e ↔ f.maxReviewerFeedbackCount = 0 ∧ e = .zeroFeedback := by
  by_cases zero : f.maxReviewerFeedbackCount = 0 <;> simp [validate, zero, eq_comm]

theorem load_ok : (load Disk.system path word).run d = (.ok s, d) ↔
    ∃ f : Settings, f.Filed d path ∧ f.maxReviewerFeedbackCount ≠ 0 ∧
      s = { f with autoResume := (word.bind flagWord?).getD f.autoResume } := by
  rw [← (Disk.reads_settings path word).result_iff, load_result]
  simp only [← readFile_ok, heeding_eq]
  cases ((readFile Disk.system path).run d).1 <;> simp [Except.bind, validate_ok]

theorem load_error : (load Disk.system path word).run d = (.error e, d) ↔ Unusable d path e := by
  rw [← (Disk.reads_settings path word).result_iff, load_result, unusable_iff]
  simp only [heeding_eq]
  cases ((readFile Disk.system path).run d).1 <;> simp [Except.bind, validate_error]

end Settings

end Files

section Tasks

namespace Surroundings

variable {word : Option String} {colours : Bool} {d : Disk} {i : Invocation} {args : List String}

/-- The task is performed under settings that have a bound, or it is not performed at all. -/
theorem answer_settled (parsed : Invocation.ofArguments args = .ok i) :
    (∃ settings, ((onDisk word colours).settingsFor i).run d = (.ok settings, d) ∧
      ((onDisk word colours).answer args).run d =
        ((onDisk word colours).perform settings i.task).run d) ∨
    ∃ complaint, ((onDisk word colours).settingsFor i).run d = (.error complaint, d) ∧
      ((onDisk word colours).answer args).run d = (.failed complaint, d) := by
  rw [answer, parsed]
  dsimp only
  rw [reads_settingsFor.run_bind, reads_settingsFor.run_eq]
  cases (((onDisk word colours).settingsFor i).run d).1 with
  | error complaint => exact .inr ⟨complaint, rfl, rfl⟩
  | ok settings => exact .inl ⟨settings, rfl, rfl⟩

theorem overridden_bound {found : Settings} (bound : found.maxReviewerFeedbackCount ≠ 0)
    (given : i.maxFeedback ≠ some 0) :
    1 ≤ (found.overridden i).maxReviewerFeedbackCount.toNat := by
  have bounded : i.maxFeedback.getD found.maxReviewerFeedbackCount ≠ 0 := by
    cases flag : i.maxFeedback with
    | none => exact bound
    | some n =>
      rintro rfl
      exact given flag
  exact Nat.pos_of_ne_zero fun zero => bounded (UInt32.toNat_inj.mp zero)

/-- No settings are found for a task if the file is of no use or the flag asks for no bound. -/
theorem settingsFor_error {complaint : String}
    (failed : ((onDisk word colours).settingsFor i).run d = (.error complaint, d)) :
    i.maxFeedback = some 0 ∨ ∃ e, Settings.Unusable d settingsFile e := by
  by_cases given : i.maxFeedback = some 0
  · exact .inl given
  · have read := (Disk.reads_settings settingsFile word).run_eq d
    cases loaded : ((Settings.load Disk.system settingsFile word).run d).1 with
    | error e =>
      rw [loaded] at read
      exact .inr ⟨e, Settings.load_error.mp read⟩
    | ok found =>
      rw [loaded] at read
      have settled : ((onDisk word colours).settingsFor i).run d = (.ok (found.overridden i), d) :=
        settingsFor_iff.mpr ⟨found, read, Settings.under_iff.mpr ⟨given, rfl⟩⟩
      rw [failed] at settled
      cases settled

end Surroundings

open Surroundings (onDisk)

/-- The settings are what the file says, or the defaults if there is none, with the meaning of the
variable in the place of one of them; a file that cannot be read or decoded or that has a bound of
zero is a failure whatever the variable is. A task is performed under the settings that have been
loaded and the flags in their place, with a bound of one at least, and is not performed if the
file is of no use or the flag asks for a bound of zero. -/
theorem settings_in_effect (d : Disk) (word : Option String) (colours : Bool) :
    (∀ raw flag, flagWord? raw = some flag ↔ Means raw flag) ∧
    (∀ path s, (Settings.load Disk.system path word).run d = (.ok s, d) ↔
      ∃ f : Settings, f.Filed d path ∧ f.maxReviewerFeedbackCount ≠ 0 ∧
        s = { f with autoResume := (word.bind flagWord?).getD f.autoResume }) ∧
    (∀ path e, (Settings.load Disk.system path word).run d = (.error e, d) ↔
      Settings.Unusable d path e) ∧
    (∀ path, ((Settings.load Disk.system path word).run d).2 = d) ∧
    (∀ args r, Invocation.ofArguments args = .error r →
      ((onDisk word colours).answer args).run d = (.refused r, d)) ∧
    ∀ args i, Invocation.ofArguments args = .ok i →
      (∃ found settings : Settings,
        (Settings.load Disk.system settingsFile word).run d = (.ok found, d) ∧
        settings = { found with
          autoResume := i.autoResume || found.autoResume
          maxReviewerFeedbackCount := i.maxFeedback.getD found.maxReviewerFeedbackCount } ∧
        1 ≤ settings.maxReviewerFeedbackCount.toNat ∧
        ((onDisk word colours).answer args).run d =
          ((onDisk word colours).perform settings i.task).run d) ∨
      (i.maxFeedback = some 0 ∨ ∃ e, Settings.Unusable d settingsFile e) ∧
        ∃ complaint, ((onDisk word colours).answer args).run d = (.failed complaint, d) := by
  refine ⟨fun _ _ => flagWord?_iff, fun _ _ => Settings.load_ok, fun _ _ => Settings.load_error,
    fun path => Disk.reads_settings path word d, ?_, ?_⟩
  · intro args r refused
    rw [Surroundings.answer, refused]
    rfl
  · intro args i parsed
    rcases Surroundings.answer_settled parsed with
      ⟨settings, settled, performed⟩ | ⟨complaint, failed, answered⟩
    · left
      obtain ⟨found, loaded, under⟩ := Surroundings.settingsFor_iff.mp settled
      obtain ⟨given, rfl⟩ := Settings.under_iff.mp under
      obtain ⟨f, -, bound, rfl⟩ := Settings.load_ok.mp loaded
      exact ⟨_, _, loaded, rfl, Surroundings.overridden_bound bound given, performed⟩
    · exact .inr ⟨Surroundings.settingsFor_error failed, complaint, answered⟩

section Layers

def configured (text : String) : Disk :=
  Disk.empty.place settingsFile (.file (some text))

def layered : Disk := configured "auto_resume = true\nmax_reviewer_feedback_count = 5\n"

def roomless : Disk := configured "max_reviewer_feedback_count = 0\n"

def bounded : List String := ["--max-feedback", "2", "states"]

def boundedStates : Invocation := ⟨.states, false, some 2, false⟩

theorem filed_configured {text : String} {f : Settings}
    (holds : (configured text).holds (.ofText settingsFile) = true)
    (read : (configured text).read (.ofText settingsFile) = some text)
    (decoded : Settings.ofText? text = some f) : f.Filed (configured text) settingsFile :=
  .present holds read (Settings.ofText?_iff.mp decoded)

/-- The variable has its say against the file and the flag against both, and neither of them
mends a file without a bound. -/
theorem settings_in_effect_layered :
    Means " oFF\n" false ∧
    Invocation.ofArguments bounded = .ok boundedStates ∧
    (Settings.load Disk.system settingsFile (some " oFF\n")).run layered =
      (.ok ⟨false, 5, none, "epicflow=info"⟩, layered) ∧
    ((onDisk (some " oFF\n") false).answer bounded).run layered =
      ((onDisk (some " oFF\n") false).perform ⟨false, 2, none, "epicflow=info"⟩ .states).run
        layered ∧
    ∃ complaint, ((onDisk (some " oFF\n") false).answer bounded).run roomless =
      (.failed complaint, roomless) := by
  have parsed : Invocation.ofArguments bounded = .ok boundedStates := by decide +kernel
  obtain ⟨means, loads, fails, -, -, performs⟩ :=
    settings_in_effect layered (some " oFF\n") false
  have filed : Settings.Filed layered settingsFile ⟨true, 5, none, "epicflow=info"⟩ :=
    filed_configured (by decide +kernel) (by decide +kernel) (by decide +kernel)
  have loaded := (loads settingsFile ⟨false, 5, none, "epicflow=info"⟩).mpr
    ⟨_, filed, by decide, by decide +kernel⟩
  refine ⟨(means _ _).mp (by decide +kernel), parsed, loaded, ?_, ?_⟩
  · rcases performs bounded boundedStates parsed with
      ⟨found, _, same, rfl, -, performed⟩ | ⟨noBound | ⟨e, unusable⟩, -⟩
    · obtain rfl : found = _ := Except.ok.inj (congrArg Prod.fst (same.symm.trans loaded))
      exact performed
    · cases noBound
    · have failed := (fails _ _).mpr unusable
      rw [loaded] at failed
      cases failed
  · obtain ⟨-, -, fails, -, -, performs⟩ := settings_in_effect roomless (some " oFF\n") false
    have filed : Settings.Filed roomless settingsFile ⟨false, 0, none, "epicflow=info"⟩ :=
      filed_configured (by decide +kernel) (by decide +kernel) (by decide +kernel)
    rcases performs bounded boundedStates parsed with ⟨found, _, loaded, -⟩ | ⟨-, answered⟩
    · rw [(fails _ _).mpr (.zeroBound filed rfl)] at loaded
      cases loaded
    · exact answered

end Layers

end Tasks

end ControlPlane
