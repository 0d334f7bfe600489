import EntityCodegen.Project.Generation
import EntityCodegen.Project.Settings
import EntityCodegen.Text.Blank

/-!
# The command line

A command line is the name of a command with options before and behind it. An option has a long name
behind two dashes, and some have a letter behind one. Letters can share a dash. The value of an
option is in the same argument, behind `=` or right behind the letter, or it is the next argument
if that does not look like an option. Two dashes alone end the options, and as nothing can follow
them, they can only be the last argument.

Arguments are taken in order, and the first that asks for the version or for help, or that cannot be
taken, decides.
-/

namespace EntityCodegen

/-!
## Commands

What a user can ask the program to do.
-/

/-- Which project a command is about. -/
structure ProjectOptions where
  root : Path
  /-- The settings file that the command names, if it names one. -/
  settingsFile : Option Path
  overrides : Overrides
  deriving DecidableEq, Repr

/-- The project in the working directory, as its settings file describes it. -/
def ProjectOptions.standard : ProjectOptions :=
  ⟨⟨"."⟩, none, Overrides.none⟩

inductive Command where
  /-- Brings the selected files up to date, or only shows them. -/
  | generate (options : ProjectOptions) (selection : Selection) (dryRun : Bool)
  /-- Tells which files are out of date. -/
  | check (options : ProjectOptions)
  | inspect (options : ProjectOptions)
  | init (output : Path) (force : Bool)
  deriving DecidableEq, Repr

/-- What a command line asks for. -/
inductive Request where
  | command (command : Command)
  | version
  | help
  deriving DecidableEq, Repr

/-! ## Arguments -/

inductive Flag where
  | verbose
  | help
  | version
  | root
  | settingsFile
  | inputComponents
  | inputEnums
  | outputComponents
  | outputEnums
  | wireType
  | strict
  | only
  | dryRun
  | output
  | force
  deriving DecidableEq, Repr

namespace Flag

def name : Flag → String
  | verbose => "verbose"
  | help => "help"
  | version => "version"
  | root => "root"
  | settingsFile => "config"
  | inputComponents => "component-dir"
  | inputEnums => "enum-dir"
  | outputComponents => "component-output"
  | outputEnums => "enum-output"
  | wireType => "wire-filter-type"
  | strict => "strict"
  | only => "only"
  | dryRun => "dry-run"
  | output => "output"
  | force => "force"

def letter? : Flag → Option Char
  | verbose => some 'v'
  | help => some 'h'
  | version => some 'V'
  | root => some 'r'
  | settingsFile => some 'c'
  | output => some 'o'
  | _ => none

def hasValue : Flag → Bool
  | verbose | help | version | strict | dryRun | force => false
  | _ => true

def accepts : Flag → String → Bool
  | wireType, _ => true
  | only, value => value == "components" || value == "enums"
  | _, value => value != ""

end Flag

/-- The commands by name, with their options. -/
inductive Verb where
  | generate
  | check
  | inspect
  | init
  deriving DecidableEq, Repr

namespace Verb

def name : Verb → String
  | generate => "generate"
  | check => "check"
  | inspect => "inspect"
  | init => "init"

def all : List Verb :=
  [generate, check, inspect, init]

def ofName? (name : String) : Option Verb :=
  all.find? fun verb => verb.name == name

/-- The options that tell a project. -/
def projectFlags : List Flag :=
  [.root, .settingsFile, .inputComponents, .inputEnums, .outputComponents, .outputEnums,
    .wireType, .strict]

def flags : Verb → List Flag
  | generate => [.verbose, .help] ++ projectFlags ++ [.only, .dryRun]
  | check | inspect => [.verbose, .help] ++ projectFlags
  | init => [.verbose, .help, .output, .force]

end Verb

/-- Why no more arguments are taken. -/
inductive Stop where
  | help
  | version
  /-- An argument cannot be taken, or one is missing. -/
  | refused
  deriving DecidableEq, Repr

/-- The options given so far, each with its value; options without one have the empty text. -/
abbrev Given := List (Flag × String)

namespace Given

/-- The options with one more. Only the verbosity can be asked for repeatedly. -/
def add (given : Given) (flag : Flag) (value : String) : Except Stop Given :=
  match flag with
  | .help => .error .help
  | .version => .error .version
  | .verbose => .ok ((flag, value) :: given)
  | _ =>
    if (given.lookup flag).isSome then .error .refused
    else if flag.hasValue && !flag.accepts value then .error .refused
    else .ok ((flag, value) :: given)

def value? (given : Given) (flag : Flag) : Option String :=
  given.lookup flag

def path? (given : Given) (flag : Flag) : Option Path :=
  (given.value? flag).map Path.mk

def has (given : Given) (flag : Flag) : Bool :=
  (given.value? flag).isSome

def verbosity (given : Given) : Nat :=
  given.countP fun option => option.1 == .verbose

def overrides (given : Given) : Overrides :=
  ⟨given.path? .inputComponents, given.path? .inputEnums, given.path? .outputComponents,
    given.path? .outputEnums, given.value? .wireType, given.has .strict⟩

def projectOptions (given : Given) : ProjectOptions :=
  ⟨(given.path? .root).getD ProjectOptions.standard.root, given.path? .settingsFile,
    given.overrides⟩

def selection (given : Given) : Selection :=
  match given.value? .only with
  | none => .all
  | some word => if word = "components" then .components else .enums

def command (given : Given) : Verb → Command
  | .generate => .generate given.projectOptions given.selection (given.has .dryRun)
  | .check => .check given.projectOptions
  | .inspect => .inspect given.projectOptions
  | .init => .init ((given.path? .output).getD ⟨Settings.fileName⟩) (given.has .force)

end Given

namespace Arguments

/-! ### One argument

An argument adds options to those given. The last one may be left without its value, which is then
the next argument.
-/

/-- Takes letters that share a dash. -/
def takeLetters (allowed : List Flag) :
    List Char → Given → Except Stop (Given × Option Flag)
  | [], given => .ok (given, none)
  | letter :: rest, given =>
    match allowed.find? fun flag => flag.letter? == some letter with
    | none => .error .refused
    | some flag =>
      if flag.hasValue then
        match rest with
        | [] => .ok (given, some flag)
        | '=' :: value => (given.add flag (String.ofList value)).map (·, none)
        | value => (given.add flag (String.ofList value)).map (·, none)
      else do
        takeLetters allowed rest (← given.add flag "")

/-- Takes a long name, with or without a value. -/
def takeName (allowed : List Flag) (text : List Char) (given : Given) :
    Except Stop (Given × Option Flag) :=
  match allowed.find? fun flag => flag.name.toList == text.takeWhile (· != '=') with
  | none => .error .refused
  | some flag =>
    match flag.hasValue, text.dropWhile (· != '=') with
    | true, [] => .ok (given, some flag)
    | true, _ :: value => (given.add flag (String.ofList value)).map (·, none)
    | false, [] => (given.add flag "").map (·, none)
    | false, _ :: _ => .error .refused

def takeOption? (allowed : List Flag) (argument : String) (given : Given) :
    Option (Except Stop (Given × Option Flag)) :=
  match argument.toList with
  | '-' :: '-' :: text => some (takeName allowed text given)
  | '-' :: letter :: rest => some (takeLetters allowed (letter :: rest) given)
  | _ => none

/-! ### All arguments -/

/-- Takes the arguments behind a command's name, the first as the value of an option that waits for
it. -/
def takeOptions (allowed : List Flag) :
    List String → Option Flag → Given → Except Stop Given
  | [], none, given => .ok given
  | [], some _, _ => .error .refused
  | argument :: rest, waiting, given =>
    if argument = "--" then
      if waiting.isNone && rest.isEmpty then .ok given else .error .refused
    else
      match takeOption? allowed argument given, waiting with
      | some _, some _ => .error .refused
      | some taken, none => do
        let (given, waiting) ← taken
        takeOptions allowed rest waiting given
      | none, some flag => do
        takeOptions allowed rest none (← given.add flag argument)
      | none, none => .error .refused

/-- The options that can stand before a command's name. -/
def commonFlags : List Flag :=
  [.verbose, .help, .version]

/-- Whether the arguments name at most one command, so that help on them can be given. -/
def isTopic : List String → Bool
  | [] => true
  | [name] => name == "help" || (Verb.ofName? name).isSome
  | _ => false

/-- Reads a command line into the command and the verbosity. The verbosity behind the command's name
counts if it is asked for there. -/
def readCommand : List String → Given → Except Stop (Command × Nat)
  | [], _ => .error .refused
  | argument :: rest, given =>
    match takeOption? commonFlags argument given with
    | some taken => do
      let (given, _) ← taken
      readCommand rest given
    | none =>
      match Verb.ofName? argument with
      | none => .error (if argument = "help" && isTopic rest then .help else .refused)
      | some verb => do
        let own ← takeOptions verb.flags rest none []
        return (own.command verb, if own.verbosity = 0 then given.verbosity else own.verbosity)

/-- Reads a command line into what it asks for and the verbosity; none if it cannot be taken. -/
def read? (arguments : List String) : Option (Request × Nat) :=
  match readCommand arguments [] with
  | .ok (command, verbosity) => some (.command command, verbosity)
  | .error .version => some (.version, 0)
  | .error .help => some (.help, 0)
  | .error .refused => none

end Arguments

end EntityCodegen
