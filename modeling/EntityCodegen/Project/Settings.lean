import EntityCodegen.Definition.Schema
import EntityCodegen.Files.Access
import EntityCodegen.Text.Blank
import EntityCodegen.Toml.Reader

/-!
# Settings of a project

Where a project keeps its definition files, where the generated files go, and how component files
are read. A command may override what the settings file says.
-/

namespace EntityCodegen

structure Directories where
  components : Path
  enums : Path
  deriving DecidableEq, Repr

/-- The settings of a project. Directories are relative to the project's root. -/
structure Settings where
  input : Directories
  output : Directories
  /-- The text between two fields of a component file. -/
  delimiter : String
  /-- The type of the fields that get a wire id. -/
  wireType : String
  unknownLines : UnknownLines
  duplicateFields : DuplicateFields
  deriving DecidableEq, Repr

inductive SettingFault where
  | badDelimiter (text : String)
  /-- The wire type has no visible character. -/
  | emptyWireType
  deriving DecidableEq, Repr

/-- What a command says about the settings. -/
structure Overrides where
  inputComponents : Option Path
  inputEnums : Option Path
  outputComponents : Option Path
  outputEnums : Option Path
  wireType : Option String
  /-- Whether unknown lines are rejected whatever the settings say. -/
  strict : Bool
  deriving DecidableEq, Repr

/-- The overrides of a command that says nothing about the settings. -/
def Overrides.none : Overrides :=
  ⟨.none, .none, .none, .none, .none, false⟩

namespace Settings

/-- The settings that hold where nothing is said. -/
def standard : Settings where
  input := ⟨⟨"gen/comp"⟩, ⟨"gen/enum"⟩⟩
  output := ⟨⟨"src/component"⟩, ⟨"src/enums"⟩⟩
  delimiter := ","
  wireType := BuildOptions.standardWireType
  unknownLines := .warn
  duplicateFields := .reject

/-- The settings with a command's overrides. -/
def override (settings : Settings) (overrides : Overrides) : Settings where
  input := ⟨overrides.inputComponents.getD settings.input.components,
    overrides.inputEnums.getD settings.input.enums⟩
  output := ⟨overrides.outputComponents.getD settings.output.components,
    overrides.outputEnums.getD settings.output.enums⟩
  delimiter := settings.delimiter
  wireType := overrides.wireType.getD settings.wireType
  unknownLines := if overrides.strict then .reject else settings.unknownLines
  duplicateFields := settings.duplicateFields

/-- How the definition files are read under the settings. -/
def buildOptions (settings : Settings) : Except SettingFault BuildOptions :=
  match settings.delimiter.toList with
  | [delimiter] =>
    if Text.trim settings.wireType = "" then .error .emptyWireType
    else .ok ⟨⟨delimiter, settings.unknownLines, settings.duplicateFields⟩, settings.wireType⟩
  | _ => .error (.badDelimiter settings.delimiter)

end Settings

/-!
## The settings file

Settings are kept in a TOML file with a section for each group of settings. What the file leaves out
is standard, and keys that are not known do not count.
-/

namespace Settings

open Toml (Item Entries)

/-- The name of the settings file in a project's root. -/
def fileName : String :=
  "schemagen.toml"

/-- The items of a section: by key, or in the order of the settings. -/
inductive Group where
  | keyed (entries : Entries)
  | ordered (items : List Item)

/-- The items that a section's value holds. A date is a section without known keys. -/
def Group.ofItem? : Option Item → Option Group
  | none => some (.keyed [])
  | some (.inline entries) | some (.table _ entries) => some (.keyed entries)
  | some (.list items) => some (.ordered items)
  | some (.date _) => some (.keyed [])
  | some _ => none

def Group.item? (group : Group) (place : Nat) (key : String) : Option Item :=
  match group with
  | .keyed entries => entries.lookup key
  | .ordered items => items[place]?

def readText? (standard : String) : Option Item → Option String
  | none => some standard
  | some (.text text) => some text
  | some _ => none

def isEmptyItem : Item → Bool
  | .list [] | .inline [] | .table _ [] => true
  | _ => false

/-- The word of a setting that is one of a few words. The word may also be the only key of a table,
with nothing in it. -/
def readWord? : Item → Option String
  | .text word => some word
  | .inline [(word, item)] | .table _ [(word, item)] => if isEmptyItem item then some word else none
  | _ => none

/-- A setting that is one of a few words. -/
def readChoice? {α : Type} (standard : α) (choices : List (String × α)) : Option Item → Option α
  | none => some standard
  | some item => (readWord? item).bind fun word => choices.lookup word

/-- A section of two directories. -/
def readDirectories? (standard : Directories) (section? : Option Item) : Option Directories := do
  let group ← Group.ofItem? section?
  let components ← readText? standard.components.text (group.item? 0 "component_dir")
  let enums ← readText? standard.enums.text (group.item? 1 "enum_dir")
  return ⟨⟨components⟩, ⟨enums⟩⟩

/-- The settings in the entries of a settings file. -/
def ofEntries? (entries : Entries) : Option Settings := do
  let input ← readDirectories? standard.input (entries.lookup "input")
  let output ← readDirectories? standard.output (entries.lookup "output")
  let group ← Group.ofItem? (entries.lookup "components")
  let delimiter ← readText? standard.delimiter (group.item? 0 "delimiter")
  let wireType ← readText? standard.wireType (group.item? 1 "wire_filter_type")
  let unknownLines ← readChoice? standard.unknownLines
    [("ignore", .ignore), ("warn", .warn), ("reject", .reject)] (group.item? 2 "unknown_lines")
  let duplicateFields ← readChoice? standard.duplicateFields
    [("reject", .reject), ("alias", .allow)] (group.item? 3 "duplicate_fields")
  return ⟨input, output, delimiter, wireType, unknownLines, duplicateFields⟩

/-- The settings that a settings file says. -/
def ofText? (text : String) : Option Settings :=
  (Toml.read? text).bind ofEntries?

/-- A settings file that says the standard settings and explains them. -/
def template : String :=
  "# schemagen configuration file\n" ++
  "# Paths are relative to the project root.\n" ++
  "\n" ++
  "[input]\n" ++
  "# Directory with one definition file per component\n" ++
  "component_dir = \"gen/comp\"\n" ++
  "\n" ++
  "# Directory with one definition file per enum\n" ++
  "enum_dir = \"gen/enum\"\n" ++
  "\n" ++
  "[output]\n" ++
  "# Output directory for component headers, sources and the registry\n" ++
  "component_dir = \"src/component\"\n" ++
  "\n" ++
  "# Output directory for enums.h and enums.cc\n" ++
  "enum_dir = \"src/enums\"\n" ++
  "\n" ++
  "[components]\n" ++
  "# Field delimiter in component files (single character)\n" ++
  "delimiter = \",\"\n" ++
  "\n" ++
  "# Body field type that receives a run-wide unique wire id\n" ++
  "wire_filter_type = \"wire_filter_ptr\"\n" ++
  "\n" ++
  "# Lines with an unknown kind tag: ignore, warn or reject\n" ++
  "unknown_lines = \"warn\"\n" ++
  "\n" ++
  "# Repeated body field names in one component: reject or alias\n" ++
  "duplicate_fields = \"reject\"\n"

end Settings

end EntityCodegen
