import EntityCodegen.Command.Arguments
import EntityCodegen.Event
import EntityCodegen.Model.Json
import EntityCodegen.Project.Writing
import EntityCodegen.Text.Quoted

/-!
# Running commands

What a command does to the tree, what it prints and how it ends. Only generating and making a
settings file change the tree, and generating does so only when all files are there to be written.
-/

namespace EntityCodegen

/-! ## What the program says about itself -/

def versionLine : String :=
  "schemagen 0.1.0"

def usageLines : List String :=
  ["Usage: schemagen [-v]... <COMMAND>", "", "Commands:",
    "  generate [PROJECT]... [--only components|enums] [--dry-run]",
    "  check [PROJECT]...", "  inspect [PROJECT]...",
    "  init [--output <PATH>] [--force]", "", "Project options:",
    "  --root <DIR>, --config <FILE>, --component-dir <DIR>, --enum-dir <DIR>,",
    "  --component-output <DIR>, --enum-output <DIR>, --wire-filter-type <TYPE>, --strict"]

/-! ## Outcomes -/

inductive Ending where
  | success
  | failure (error : ProjectError)
  /-- The command line cannot be taken. -/
  | refused
  deriving DecidableEq, Repr

/-- The exit code of a run: two where a check did not pass or nothing was run, one for all other
failures. -/
def Ending.exitCode : Ending → Nat
  | success => 0
  | failure (.check _) => 2
  | failure _ => 1
  | refused => 2

/-- What is printed as an error at the end of a run. -/
def Ending.errorLines : Ending → List String
  | success => []
  | failure error => ["Error: " ++ error.message]
  | refused => usageLines

/-- What a run leaves and shows. -/
structure Outcome where
  tree : FileTree
  events : List Event
  /-- The lines that were printed. A line can hold a whole text. -/
  printed : List String
  ending : Ending

def linesText (lines : List String) : String :=
  String.join (lines.map fun line => line ++ "\n")

namespace Command

/-- Runs a step on a loaded project; a failure to load it ends the run. -/
def onProject (tree : FileTree) (options : ProjectOptions) (step : Project → Outcome) : Outcome :=
  let loaded := Project.load tree options.root options.settingsFile options.overrides
  match loaded.result with
  | .error error => ⟨tree, loaded.events, [], .failure error⟩
  | .ok project =>
    let outcome := step project
    { outcome with events := loaded.events ++ outcome.events }

/-! ## Generating -/

/-- What is printed when the schema is there. -/
def schemaLine (schema : Schema) : String :=
  "  " ++ toString schema.components.length ++ " component(s), " ++
    toString schema.enumerations.length ++ " enum(s), " ++ toString schema.wireIdCount ++
    " wire id(s)"

/-- The line above and below a shown text. -/
def rule : String :=
  String.ofList (List.replicate 60 '─')

def resultLines : WriteResult → List String
  | .written path bytes => ["✓ Written " ++ toString bytes ++ " bytes to " ++ path.text]
  | .unchanged path => ["unchanged " ++ path.text]
  | .previewed path content => ["[dry-run] Would write to " ++ path.text ++ ":", rule, content, rule]

def updateLine (results : List WriteResult) : String :=
  "  " ++ toString (results.countP WriteResult.wasWritten) ++ " of " ++
    toString results.length ++ " file(s) updated"

/-- Brings the files of a schema up to date, or only shows them. -/
def writeGenerated (tree : FileTree) (project : Project) (generated : Generated) (dryRun : Bool) :
    Outcome :=
  let batch := tree.writeAll dryRun (project.destinations generated.files)
  let events := batch.results.flatMap WriteResult.events
  match batch.failure with
  | some error => ⟨batch.tree, events, [], .failure error⟩
  | none =>
    ⟨batch.tree, events,
      batch.results.flatMap resultLines ++ (if dryRun then [] else [updateLine batch.results]),
      .success⟩

def generateFiles (tree : FileTree) (selection : Selection) (dryRun : Bool) (project : Project) :
    Outcome :=
  let announcement := "Building schemas..."
  let generation := project.generate tree selection
  match generation.result with
  | .error error => ⟨tree, generation.events, [announcement], .failure error⟩
  | .ok generated =>
    let outcome := writeGenerated tree project generated dryRun
    { outcome with
      events := generation.events ++ outcome.events
      printed := announcement :: schemaLine generated.schema :: outcome.printed }

/-! ## Checking -/

/-- What is printed of a file that is not up to date. -/
def statusLines : Path × FileStatus → List String
  | (_, .upToDate) => []
  | (path, .stale) => ["✗ " ++ path.text ++ " is out of date"]
  | (path, .missing) => ["✗ " ++ path.text ++ " is missing"]

/-- Checks files against the texts that they should hold. -/
def checkGenerated (tree : FileTree) (files : List (Path × String)) : Outcome :=
  let comparison := tree.compareAll files
  let lines := comparison.statuses.flatMap statusLines
  match comparison.failure, comparison.outdated with
  | some fault, _ => ⟨tree, [], lines, .failure (.access fault)⟩
  | none, 0 => ⟨tree, [], lines ++ ["✓ Generated sources are up-to-date"], .success⟩
  | none, outdated =>
    ⟨tree, [], lines ++ ["  Run 'schemagen generate' to update"],
      .failure (.check (.outOfDate outdated))⟩

def checkFiles (tree : FileTree) (project : Project) : Outcome :=
  let announcement := "Checking generated sources..."
  let generation := project.generate tree .all
  match generation.result with
  | .error error => ⟨tree, generation.events, [announcement], .failure error⟩
  | .ok generated =>
    let outcome := checkGenerated tree (project.destinations generated.files)
    { outcome with
      events := generation.events ++ outcome.events
      printed := announcement :: outcome.printed }

/-! ## The other commands -/

def showSchema (tree : FileTree) (project : Project) : Outcome :=
  let building := project.build tree .all
  match building.result with
  | .error error => ⟨tree, building.events, [], .failure error⟩
  | .ok schema => ⟨tree, building.events, [schema.toJson.pretty], .success⟩

/-- Makes a settings file. One that is there is replaced only by force. -/
def makeSettings (tree : FileTree) (output : Path) (force : Bool) : Outcome :=
  if tree.has output && !force then
    ⟨tree, [],
      ["Error: Configuration file already exists: " ++ output.text, "  Use --force to overwrite"],
      .failure (.check .settingsExist)⟩
  else
    match tree.writeFile output Settings.template.toUTF8 with
    | .error fault => ⟨tree, [], [], .failure (.access fault)⟩
    | .ok written => ⟨written, [], ["✓ Created configuration file: " ++ output.text], .success⟩

def run (tree : FileTree) : Command → Outcome
  | generate options selection dryRun =>
    onProject tree options (generateFiles tree selection dryRun)
  | check options => onProject tree options (checkFiles tree)
  | inspect options => onProject tree options (showSchema tree)
  | init output force => makeSettings tree output force

end Command

def Request.run (tree : FileTree) : Request → Outcome
  | .command wanted => wanted.run tree
  | .version => ⟨tree, [], [versionLine], .success⟩
  | .help => ⟨tree, [], usageLines, .success⟩

/-- Runs a command line, with the verbosity that it asks for. -/
def runArguments (tree : FileTree) (arguments : List String) : Outcome × Nat :=
  match Arguments.read? arguments with
  | some (request, verbosity) => (request.run tree, verbosity)
  | none => (⟨tree, [], [], .refused⟩, 0)

end EntityCodegen

/-!
## What a command looks at

The files and directories that a command's run depends on. They are known step by step: the settings
tell the definition directories, and the definitions tell the generated files.
-/

namespace EntityCodegen.Command

/-- The file that the command looks for first. -/
def firstPath : Command → Path
  | generate options _ _ | check options | inspect options =>
    options.settingsFile.getD (options.root.join ⟨Settings.fileName⟩)
  | init output _ => output

/-- The project that the command is about, with the files that it selects. -/
def project? (tree : FileTree) : Command → Option (Project × Selection)
  | generate options selection _ => (load? options).map (·, selection)
  | check options | inspect options => (load? options).map (·, .all)
  | init .. => none
where
  load? (options : ProjectOptions) : Option Project :=
    (Project.load tree options.root options.settingsFile options.overrides).result.toOption

/-- The definition directories that the command reads. -/
def definitionPaths (tree : FileTree) (command : Command) : List Path :=
  match command.project? tree with
  | none => []
  | some (project, selection) =>
    let input := project.settings.input
    ((if selection.hasComponents then [input.components] else []) ++
      if selection.hasEnums then [input.enums] else []).map project.root.join

/-- The generated files that the command compares or writes. -/
def outputPaths (tree : FileTree) (command : Command) : List Path :=
  match command.project? tree with
  | none => []
  | some (project, selection) =>
    match (project.generate tree selection).result with
    | .error _ => []
    | .ok generated => generated.files.map project.destination

end EntityCodegen.Command

/-!
## The log

How events are shown to the user, and which of them: warnings always, more with every level of
verbosity.
-/

namespace EntityCodegen

/-- The level down to which events are shown. -/
def Level.ofVerbosity : Nat → Level
  | 0 => .warn
  | 1 => .info
  | 2 => .debug
  | _ => .trace

def Level.name : Level → String
  | warn => "WARN"
  | info => "INFO"
  | debug => "DEBUG"
  | trace => "TRACE"

def FieldValue.shown : FieldValue → String
  | number value => toString value
  | text value => value
  | texts values => Text.quotedList values

/-- The event on a line: its level, its message and its details. -/
def Event.line (event : Event) : String :=
  event.level.name ++ " " ++ event.message ++
    String.join (event.fields.map fun (name, value) => " " ++ name ++ "=" ++ value.shown)

def logLines (verbosity : Nat) (events : List Event) : List String :=
  (events.filter (Event.reportedAt (Level.ofVerbosity verbosity))).map Event.line

end EntityCodegen
