import EntityCodegen.Definition.Schema
import EntityCodegen.Files.Access
import EntityCodegen.Output.Files
import EntityCodegen.Project.Error
import EntityCodegen.Project.Settings

/-!
# Generating a project's files

A project's settings are loaded, its definition directories are read, and the files are made from
the schema. All of this only reads the tree.
-/

namespace EntityCodegen

/-!
## Definition directories

Every file in a definition directory whose name does not start with a dot is a definition, and its
name is the name of what it declares. Subdirectories are left out.

A directory is reached from the working directory segment by segment, which fixes how the paths of
its files are written: without dots at the front and without idle slashes. A segment with one of the
characters of file patterns is looked up among the names that do not start with a dot, and the
working directory has no nameless way into itself; a directory that is not reached has no files.
-/

/-- A definition file as it was found. -/
structure DefinitionFile where
  name : String
  path : Path
  content : String
  deriving DecidableEq, Repr

def DefinitionFile.source (file : DefinitionFile) : Source :=
  ⟨file.name, file.content⟩

namespace FileTree

def isHidden (name : String) : Bool :=
  name.toList.head? == some '.'

/-- Whether a segment has a character of file patterns. -/
def isPattern (segment : String) : Bool :=
  segment.toList.any fun c => c == '?' || c == '*' || c == '[' || c == ']'

/-- The path of an entry of a directory. Of the working directory, the name is enough. -/
def pathIn (directory : Path) (name : String) : Path :=
  if directory = ⟨"."⟩ then ⟨name⟩ else directory.join ⟨name⟩

/-- The names in a directory that do not start with a dot, in order. -/
def visibleNames (tree : FileTree) (directory : Path) : List String :=
  (tree.namesAt directory).filter fun name => !isHidden name

/-- Goes on from a directory by one segment. -/
def advance (tree : FileTree) (directory : Path) (segment : String) : Option Path :=
  let next := pathIn directory segment
  if isPattern segment then
    if tree.hasDirectory directory && (tree.visibleNames directory).contains segment then some next
    else none
  else if segment = "." ∨ segment = ".." then
    if tree.hasDirectory directory then some next else none
  else if tree.has next then some next
  else none

/-- The way to a directory as it is written in the paths of its files. -/
def reach (tree : FileTree) (directory : Path) : Option Path :=
  if directory.isAbsolute then directory.segments.tail.foldlM tree.advance ⟨"/"⟩
  else directory.segments.foldlM tree.advance ⟨"."⟩

/-- The paths of the files in a directory with their names, in the order of the names. -/
def definitionPaths (tree : FileTree) (directory : Path) : List (String × Path) :=
  match tree.reach directory with
  | none => []
  | some reached =>
    ((tree.visibleNames reached).map fun name => (name, pathIn reached name)).filter
      fun file => tree.hasFile file.2

/-- Reads the definition files of a directory, in the order of their names. -/
def scan (tree : FileTree) (directory : Path) : Except ScanError (List DefinitionFile) :=
  if !tree.hasDirectory directory then .error (.directoryNotFound directory)
  else do
    let files ← (tree.definitionPaths directory).mapM fun (name, path) =>
      match tree.readText path with
      | .ok content => .ok (⟨name, path, content⟩ : DefinitionFile)
      | .error fault => .error (.unreadable path fault)
    if files.isEmpty then .error (.noFiles directory) else .ok files

/-- Reads the definition files of a directory that may have none. -/
def scanAny (tree : FileTree) (directory : Path) : Except ScanError (List DefinitionFile) :=
  match tree.scan directory with
  | .error (.noFiles _) => .ok []
  | result => result

def scanEvents (directory : Path) (files : List DefinitionFile) : List Event :=
  if files.isEmpty then [] else [.directoryScanned directory.text files.length]

end FileTree

/-- Which files are made. -/
inductive Selection where
  | all
  | components
  | enums
  deriving DecidableEq, Repr

namespace Selection

def hasComponents : Selection → Bool
  | all | components => true
  | enums => false

def hasEnums : Selection → Bool
  | all | enums => true
  | components => false

end Selection

/-- A project: its root and its settings. -/
structure Project where
  root : Path
  settings : Settings
  deriving DecidableEq, Repr

/-- What a run makes: the schema and the files made from it. -/
structure Generated where
  schema : Schema
  files : List OutputFile
  deriving DecidableEq

namespace Settings

def readFile (tree : FileTree) (path : Path) : Traced ProjectError Settings :=
  match tree.readText path with
  | .error fault => Traced.fail (.settings (.unreadable path fault))
  | .ok text =>
    match ofText? text with
    | none => Traced.fail (.settings (.malformed path))
    | some settings => do
      Traced.report (.settingsLoaded path.text)
      pure settings

/-- The settings of the file that the command names, or of the one in the project's root. Only the
latter may be missing. -/
def load (tree : FileTree) (root : Path) : Option Path → Traced ProjectError Settings
  | some path =>
    if tree.has path then readFile tree path
    else Traced.fail (.settings (.notFound path))
  | none =>
    let path := root.join ⟨fileName⟩
    if tree.has path then readFile tree path
    else do
      Traced.report (.defaultSettings path.text)
      pure standard

end Settings

namespace Project

/-- The project at a root, with its settings and a command's overrides. -/
def load (tree : FileTree) (root : Path) (file : Option Path) (overrides : Overrides) :
    Traced ProjectError Project := do
  let settings ← Settings.load tree root file
  pure ⟨root, settings.override overrides⟩

/-- The definitions in one of the project's directories. -/
def readDirectory (project : Project) (tree : FileTree) (directory : Path) :
    Traced ProjectError (List Source) := do
  let path := project.root.join directory
  let files ← Traced.ofExcept ((tree.scanAny path).mapError .scan)
  Traced.reportAll (FileTree.scanEvents path files)
  pure (files.map DefinitionFile.source)

/-- The schema of the selected definitions. -/
def build (project : Project) (tree : FileTree) (selection : Selection) :
    Traced ProjectError Schema := do
  let options ← Traced.ofExcept
    (project.settings.buildOptions.mapError fun fault => .settings (.bad fault))
  let components ←
    if selection.hasComponents then project.readDirectory tree project.settings.input.components
    else pure []
  let enums ←
    if selection.hasEnums then project.readDirectory tree project.settings.input.enums
    else pure []
  let schema ← (Schema.read options components enums).mapError .definition
  Traced.report
    (.schemaBuilt schema.components.length schema.enumerations.length schema.wireIdCount)
  pure schema

def filesOf (schema : Schema) (selection : Selection) : List OutputFile :=
  (if selection.hasComponents then schema.componentFiles else []) ++
    if selection.hasEnums then schema.enumerationFiles else []

/-- The schema and the files of the selected definitions. -/
def generate (project : Project) (tree : FileTree) (selection : Selection) :
    Traced ProjectError Generated := do
  let schema ← project.build tree selection
  Traced.reportAll (if selection.hasComponents then schema.componentFileEvents else [])
  pure ⟨schema, filesOf schema selection⟩

def destination (project : Project) (file : OutputFile) : Path :=
  let directory :=
    match file.kind with
    | .component => project.settings.output.components
    | .enumeration => project.settings.output.enums
  (project.root.join directory).join ⟨file.name⟩

def destinations (project : Project) (files : List OutputFile) : List (Path × String) :=
  files.map fun file => (project.destination file, file.content)

end Project

end EntityCodegen
