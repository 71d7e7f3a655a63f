import ControlPlane.Text.Reading

/-!
# The command line

The arguments name one task, and flags may stand before and after its name. The
value of an option is the argument after it, or what follows an equals sign. It is
checked when the next option or file has been recognised, or at the end; an
argument that is no option of the task is refused before that.
-/

set_option autoImplicit false

namespace ControlPlane.Terminal

inductive Refusal where
  | displayHelp
  | displayVersion
  | displayHelpOnMissingArgumentOrSubcommand
  | missingSubcommand
  | invalidSubcommand
  | unknownArgument
  | missingRequiredArgument
  | argumentConflict
  | tooManyValues
  | invalidValue
  | valueValidation
  deriving DecidableEq

def Refusal.name : Refusal → String
  | displayHelp => "DisplayHelp"
  | displayVersion => "DisplayVersion"
  | displayHelpOnMissingArgumentOrSubcommand => "DisplayHelpOnMissingArgumentOrSubcommand"
  | missingSubcommand => "MissingSubcommand"
  | invalidSubcommand => "InvalidSubcommand"
  | unknownArgument => "UnknownArgument"
  | missingRequiredArgument => "MissingRequiredArgument"
  | argumentConflict => "ArgumentConflict"
  | tooManyValues => "TooManyValues"
  | invalidValue => "InvalidValue"
  | valueValidation => "ValueValidation"

inductive Task where
  | demo
  | replay (file : String) (chosen : Option String)
  | rank (file : String)
  | states
  deriving DecidableEq

structure Invocation where
  task : Task
  autoResume : Bool
  maxFeedback : Option UInt32
  verbose : Bool
  deriving DecidableEq

inductive Scope where
  | top
  | demo
  | replay
  | rank
  | states
  deriving DecidableEq

namespace Scope

def named? (s : String) : Option Scope :=
  if s = "demo" then some demo
  else if s = "replay" then some replay
  else if s = "rank" then some rank
  else if s = "states" then some states
  else none

def takesFile : Scope → Bool
  | replay | rank => true
  | _ => false

end Scope

inductive Switch where
  | autoResume
  | verbose
  | help
  | version
  deriving DecidableEq

inductive Slot where
  | maxFeedback
  | chosen
  | file
  deriving DecidableEq

inductive Flag where
  | switch (s : Switch)
  | option (s : Slot)
  deriving DecidableEq

namespace Flag

def long? (scope : Scope) (name : String) : Option Flag :=
  if name = "auto-resume" then some (.switch .autoResume)
  else if name = "max-feedback" then some (.option .maxFeedback)
  else if name = "verbose" then some (.switch .verbose)
  else if name = "help" then some (.switch .help)
  else if name = "version" && scope = .top then some (.switch .version)
  else if name = "from-state" && scope = .replay then some (.option .chosen)
  else none

def short? (scope : Scope) (c : Char) : Option Switch :=
  if c = 'v' then some .verbose
  else if c = 'h' then some .help
  else if c = 'V' && scope = .top then some .version
  else none

end Flag

inductive Shape where
  | divider
  | long (name : String) (value : Option String)
  | short (letters : List Char)
  | plain

def Shape.ofText (a : String) : Shape :=
  match a.toList with
  | '-' :: '-' :: [] => .divider
  | '-' :: '-' :: rest =>
    let name := String.ofList (rest.takeWhile (· ≠ '='))
    match rest.dropWhile (· ≠ '=') with
    | _ :: value => .long name (some (String.ofList value))
    | [] => .long name none
  | '-' :: c :: rest => .short (c :: rest)
  | _ => .plain

structure Given where
  autoResume : Bool := false
  verbose : Bool := false
  maxFeedback : Option UInt32 := none
  chosen : Option String := none
  file : Option String := none
  /-- What still waits to be checked: a slot and its value, if that has come. -/
  pending : Option (Slot × Option String) := none
  hasFile : Bool := false

namespace Given

def count? (text : String) : Option UInt32 :=
  (Text.wholeNumber? text.toList).bind Decimal.counter?

def fill (g : Given) (slot : Slot) (value : String) : Except Refusal Given :=
  match slot with
  | .maxFeedback =>
    if g.maxFeedback.isSome then .error .argumentConflict
    else
      match count? value with
      | some n => .ok { g with maxFeedback := some n }
      | none => .error .valueValidation
  | .chosen =>
    if g.chosen.isSome then .error .argumentConflict else .ok { g with chosen := some value }
  | .file => if value = "" then .error .invalidValue else .ok { g with file := some value }

def settle (g : Given) : Except Refusal Given :=
  match g.pending with
  | none => .ok g
  | some (_, none) => .error .invalidValue
  | some (slot, some value) => { g with pending := none }.fill slot value

def isWaiting (g : Given) : Bool :=
  match g.pending with
  | some (_, none) => true
  | _ => false

def supply (g : Given) (value : String) : Given :=
  { g with pending := g.pending.map fun (slot, _) => (slot, some value) }

def switch (g : Given) (s : Switch) : Except Refusal Given := do
  let g ← g.settle
  match s with
  | .autoResume =>
    if g.autoResume then .error .argumentConflict else .ok { g with autoResume := true }
  | .verbose => if g.verbose then .error .argumentConflict else .ok { g with verbose := true }
  | .help => .error .displayHelp
  | .version => .error .displayVersion

def long (g : Given) (scope : Scope) (name : String) (value : Option String) :
    Except Refusal Given :=
  match Flag.long? scope name, value with
  | none, _ => .error .unknownArgument
  | some (.switch _), some _ => .error .tooManyValues
  | some (.switch s), none => g.switch s
  | some (.option slot), some v => do (← g.settle).fill slot v
  | some (.option slot), none => do .ok { ← g.settle with pending := some (slot, none) }

def letters (g : Given) (scope : Scope) : List Char → Except Refusal Given
  | [] => .ok g
  | c :: cs =>
    match Flag.short? scope c with
    | none => .error .unknownArgument
    | some s => do (← g.switch s).letters scope cs

def position (g : Given) (scope : Scope) (a : String) : Except Refusal Given :=
  if scope.takesFile && !g.hasFile then do
    .ok { ← g.settle with pending := some (.file, some a), hasFile := true }
  else .error .unknownArgument

def readTask (scope : Scope) (divided : Bool) (g : Given) : List String → Except Refusal Given
  | [] => do
    let g ← g.settle
    if scope.takesFile && g.file.isNone then .error .missingRequiredArgument else .ok g
  | a :: as =>
    if divided then do readTask scope true (← g.position scope a) as
    else
      match Shape.ofText a with
      | .divider => readTask scope true g as
      | .long name value => do readTask scope false (← g.long scope name value) as
      | .short cs => do readTask scope false (← g.letters scope cs) as
      | .plain =>
        if g.isWaiting then readTask scope false (g.supply a) as
        else do readTask scope false (← g.position scope a) as

structure Parts where
  front : Given
  task : Option (Scope × Given)

def help : List String → Refusal
  | [] => .displayHelp
  | [topic] =>
    if (Scope.named? topic).isSome || topic = "help" then .displayHelp else .invalidSubcommand
  | _ => .invalidSubcommand

def readTop (g : Given) : List String → Except Refusal Parts
  | [] => do .ok ⟨← g.settle, none⟩
  | a :: as =>
    if !g.isWaiting && a = "help" then .error (help as)
    else
      match if g.isWaiting then none else Scope.named? a with
      | some scope => do
        let behind ← readTask scope false {} as
        .ok ⟨← g.settle, some (scope, behind)⟩
      | none =>
        match Shape.ofText a with
        | .divider =>
          match as with
          | [] => do .ok ⟨← g.settle, none⟩
          | b :: _ =>
            if (Scope.named? b).isSome || b = "help" then .error .unknownArgument
            else .error .invalidSubcommand
        | .long name value => do readTop (← g.long .top name value) as
        | .short cs => do readTop (← g.letters .top cs) as
        | .plain => if g.isWaiting then readTop (g.supply a) as else .error .invalidSubcommand

def hasAny (g : Given) : Bool := g.autoResume || g.verbose || g.maxFeedback.isSome

end Given

def taskOf (scope : Scope) (g : Given) : Option Task :=
  match scope, g.file with
  | .demo, _ => some .demo
  | .states, _ => some .states
  | .replay, some file => some (.replay file g.chosen)
  | .rank, some file => some (.rank file)
  | _, _ => none

/-- Read the arguments, the name of the program left out. A flag behind the task's name wins
over one before it. -/
def Invocation.ofArguments (args : List String) : Except Refusal Invocation := do
  let parts ← Given.readTop {} args
  let front := parts.front
  match parts.task with
  | none =>
    .error (if front.hasAny then .missingSubcommand else .displayHelpOnMissingArgumentOrSubcommand)
  | some (scope, behind) =>
    match taskOf scope behind with
    | none => .error .missingRequiredArgument
    | some task =>
      .ok
        { task
          autoResume := front.autoResume || behind.autoResume
          maxFeedback := behind.maxFeedback <|> front.maxFeedback
          verbose := front.verbose || behind.verbose }

end ControlPlane.Terminal
