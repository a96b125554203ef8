/-
  The command line.

  A command is followed by options and sources in any order.  An option with a
  value takes it from the same argument or the next one, letters may share an
  argument, and two dashes end the options.  `readArguments` yields the command
  or says how the command line ends the run itself.
-/
import PotCatalog.Path

namespace PotCatalog

/-! ## Commands -/

/-- What to do when extracting messages. -/
structure ExtractOptions where
  sources : List String
  output : Option String
  /-- Whether catalogs are printed and not written. -/
  toStdout : Bool
  root : Path
  verbose : Bool
  deriving DecidableEq, Repr

/-- What to do when making a configuration file. -/
structure InitOptions where
  root : Path
  verbose : Bool
  deriving DecidableEq, Repr

/-- What to do. -/
inductive Command where
  | extract (options : ExtractOptions)
  | init (options : InitOptions)
  deriving DecidableEq, Repr

/-- How the command line itself ends a run. -/
inductive Usage where
  | displayHelp
  | displayVersion
  /-- An option that needs sources without any. -/
  | missingRequiredArgument
  /-- Options that exclude each other, or an option given twice. -/
  | argumentConflict
  | unknownArgument
  | invalidSubcommand
  /-- An option without its value. -/
  | invalidValue
  /-- A value for an option that takes none. -/
  | tooManyValues
  deriving DecidableEq, Repr

/-- The exit code of a usage. -/
def Usage.exitCode : Usage → Nat
  | displayHelp | displayVersion => 0
  | _ => 2

/-! ## Options -/

/-- An option. -/
inductive Switch where
  | output
  | stdout
  | root
  | verbose
  | help
  | version
  deriving DecidableEq, Repr

/-- What comes before the options. -/
inductive Verb where
  | none
  | extract
  | init
  deriving DecidableEq, Repr

namespace Switch

/-- The name behind two dashes. -/
def longName : Switch → String
  | output => "output"
  | stdout => "stdout"
  | root => "root"
  | verbose => "verbose"
  | help => "help"
  | version => "version"

/-- The letter behind one dash. -/
def letter? : Switch → Option Char
  | output => some 'o'
  | verbose => some 'v'
  | help => some 'h'
  | version => some 'V'
  | stdout | root => none

/-- Whether an option has a value. -/
def takesValue : Switch → Bool
  | output | root => true
  | _ => false

/-- The options that may follow a verb. -/
def allowed : Verb → List Switch
  | .none => [help, version]
  | .extract => [output, stdout, root, verbose, help]
  | .init => [root, verbose, help]

/-- The option with a name. -/
def named? (verb : Verb) (name : String) : Option Switch :=
  (allowed verb).find? (·.longName = name)

/-- The option with a letter. -/
def lettered? (verb : Verb) (c : Char) : Option Switch :=
  (allowed verb).find? (·.letter? = some c)

end Switch

/-! ## Reading -/

/-- The command line read so far. -/
structure Reading where
  /-- The options with their values. -/
  settled : List (Switch × String)
  /-- An option whose value may still follow, or that has just got it. -/
  pending : Option (Switch × Option String)
  sources : List String
  deriving Repr

namespace Reading

/-- Nothing read yet. -/
def start : Reading := ⟨[], none, []⟩

/-- Settles an option.  It may not be given twice, and the root may not be
    empty. -/
def settle (r : Reading) (switch : Switch) (value : String) : Except Usage Reading :=
  if r.settled.any (·.1 = switch) then .error .argumentConflict
  else if switch = .root && value.isEmpty then .error .invalidValue
  else .ok { r with settled := r.settled ++ [(switch, value)] }

/-- Settles the option whose value was still open. -/
def flush (r : Reading) : Except Usage Reading :=
  match r.pending with
  | none => .ok r
  | some (_, none) => .error .invalidValue
  | some (switch, some value) => { r with pending := none }.settle switch value

/-- An option without a value. -/
def flag (r : Reading) (switch : Switch) : Except Usage Reading := do
  let r ← r.flush
  match switch with
  | .help => .error .displayHelp
  | .version => .error .displayVersion
  | _ => r.settle switch ""

/-- An option with a value, which may still follow. -/
def option (r : Reading) (switch : Switch) (value : Option String) : Except Usage Reading := do
  let r ← r.flush
  match value with
  | some value => r.settle switch value
  | none => .ok { r with pending := some (switch, none) }

/-- An argument that starts with two dashes, which are left out. -/
def long (verb : Verb) (r : Reading) (text : List Char) : Except Usage Reading :=
  let name := String.ofList (text.takeWhile (· != '='))
  let value := match text.dropWhile (· != '=') with
    | [] => none
    | _ :: value => some (String.ofList value)
  match Switch.named? verb name with
  | none => .error .unknownArgument
  | some switch =>
    if switch.takesValue then r.option switch value
    else if value.isSome then .error .tooManyValues
    else r.flag switch

/-- The letters of an argument that starts with one dash.  A letter with a value
    takes the rest as its value, without an equals sign before it. -/
def short (verb : Verb) (r : Reading) : List Char → Except Usage Reading
  | [] => .ok r
  | c :: rest =>
    match Switch.lettered? verb c with
    | none => .error .unknownArgument
    | some switch =>
      if switch.takesValue then
        r.option switch (match rest with
          | [] => none
          | '=' :: value => some (String.ofList value)
          | value => some (String.ofList value))
      else do short verb (← r.flag switch) rest

/-- A source, which only some verbs have. -/
def source (verb : Verb) (r : Reading) (text : String) : Except Usage Reading := do
  if verb = .extract then
    let r ← r.flush
    return { r with sources := r.sources ++ [text] }
  else .error .unknownArgument

/-- An argument that is no option: the value of the option before it, or a
    source. -/
def plainArgument (verb : Verb) (r : Reading) (text : String) : Except Usage Reading :=
  match r.pending with
  | some (switch, none) => .ok { r with pending := some (switch, some text) }
  | _ => r.source verb text

/-- The arguments behind a verb. -/
def arguments (verb : Verb) (r : Reading) : List String → Except Usage Reading
  | [] => r.flush
  | text :: rest =>
    match text.toList with
    | ['-', '-'] => do (← rest.foldlM (source verb) r).flush
    | '-' :: '-' :: name => do arguments verb (← r.long verb name) rest
    | '-' :: c :: letters => do arguments verb (← r.short verb (c :: letters)) rest
    | _ => do arguments verb (← r.plainArgument verb text) rest

/-- Whether an option was given. -/
def has (r : Reading) (switch : Switch) : Bool := r.settled.any (·.1 = switch)

/-- The value of an option. -/
def value? (r : Reading) (switch : Switch) : Option String := r.settled.lookup switch

/-- The directory to work in. -/
def rootDir (r : Reading) : Path := ⟨(r.value? .root).getD "."⟩

/-- The command to extract messages.  An output needs sources and excludes
    printing. -/
def extractCommand (r : Reading) : Except Usage Command :=
  if r.has .output && r.has .stdout then .error .argumentConflict
  else if r.has .output && r.sources.isEmpty then .error .missingRequiredArgument
  else .ok (.extract ⟨r.sources, r.value? .output, r.has .stdout, r.rootDir, r.has .verbose⟩)

/-- The command to make a configuration file. -/
def initCommand (r : Reading) : Command := .init ⟨r.rootDir, r.has .verbose⟩

end Reading

/-- The words that can come first. -/
def verbNames : List String := ["extract", "init", "help"]

/-- How a request for help ends the run: only the name of one command may
    follow it. -/
def helpUsage : List String → Usage
  | [] => .displayHelp
  | [name] => if name ∈ verbNames then .displayHelp else .invalidSubcommand
  | _ => .invalidSubcommand

/-- How a command line without a command ends the run, if it does. -/
def usageWithoutVerb (text : String) (rest : List String) : Except Usage (Option Command) :=
  match text.toList with
  | ['-', '-'] =>
    match rest with
    | [] => .ok none
    | next :: _ => .error (if next ∈ verbNames then .unknownArgument else .invalidSubcommand)
  | '-' :: '-' :: name => do
    let _ ← Reading.start.long .none name
    .error .unknownArgument
  | '-' :: c :: letters => do
    let _ ← Reading.start.short .none (c :: letters)
    .error .unknownArgument
  | _ => .error .invalidSubcommand

/-- Reads a command line; without any arguments there is no command. -/
def readArguments : List String → Except Usage (Option Command)
  | [] => .ok none
  | "extract" :: rest => do
    return some (← (← Reading.start.arguments .extract rest).extractCommand)
  | "init" :: rest => do return some (← Reading.start.arguments .init rest).initCommand
  | "help" :: rest => .error (helpUsage rest)
  | text :: rest => usageWithoutVerb text rest

end PotCatalog
