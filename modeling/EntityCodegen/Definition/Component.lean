import EntityCodegen.Definition.Line
import EntityCodegen.Model.Component
import EntityCodegen.Traced

/-!
# Component files

A component file declares one component, a record a line. Lines with an unknown tag and repeated
field names are handled as the options say; any other fault refuses the file, and the first fault in
the file is the one reported.
-/

namespace EntityCodegen

/-- What happens to a line whose tag is not known. -/
inductive UnknownLines where
  | ignore
  /-- It is left out with a warning. -/
  | warn
  /-- It refuses the file. -/
  | reject
  deriving DecidableEq, Repr

/-- What happens to a body field with the name of an earlier one. -/
inductive DuplicateFields where
  /-- It refuses the file. -/
  | reject
  /-- It is kept with a warning; both share the stub of that name. -/
  | allow
  deriving DecidableEq, Repr

structure ReadOptions where
  delimiter : Char
  unknownLines : UnknownLines
  duplicateFields : DuplicateFields
  deriving DecidableEq, Repr

namespace ReadOptions

/-- A comma between fields, a warning for unknown lines, and no repeated fields. -/
def standard : ReadOptions :=
  ⟨',', .warn, .reject⟩

end ReadOptions

namespace Component

open Traced (fail report reportAll)

/-- The notice that a line has more fields than its kind uses. Dependency lines use all. -/
def extraFieldEvents (file : String) (line : Line) (kind : LineKind) : List Event :=
  if kind.minFields < line.fields.length ∧ kind ≠ .depends then
    [.extraFields file line.number (line.fields.length - kind.minFields)]
  else []

def skipLine (policy : UnknownLines) (component : Component) (line : Line) :
    Traced DefinitionError Component :=
  match policy with
  | .ignore => pure component
  | .warn => do
    report (.unknownLine component.name line.number line.tag)
    pure component
  | .reject => fail (.unknownTag component.name line.number line.tag line.text)

/-- Adds what a line declares. -/
def addRecord (policy : DuplicateFields) (component : Component) (number : Nat) :
    ComponentRecord → Traced DefinitionError Component
  | .body type name defaultValue =>
    if component.hasField name then
      match policy with
      | .reject => fail (.duplicateField component.name number name)
      | .allow => do
        report (.aliasedField component.name name number)
        pure (component.pushBody type name defaultValue)
    else pure (component.pushBody type name defaultValue)
  | .stub outerType type lead name extra =>
    pure (component.pushStub outerType type lead name extra)
  | .depends names => do
    reportAll (if component.dependencies.isEmpty then []
      else [.dependenciesReplaced component.name number component.dependencies])
    pure { component with dependencies := names }
  | .displayName text => pure { component with displayName := text }

/-- Adds what a line declares, if it declares something. -/
def addLine (options : ReadOptions) (component : Component) (line : Line) :
    Traced DefinitionError Component :=
  if line.isBlank then pure component
  else
    match LineKind.ofTag? line.tag with
    | none => skipLine options.unknownLines component line
    | some kind =>
      if line.fields.length < kind.minFields then
        fail (.shortLine component.name line.number kind line.fields.length line.text)
      else do
        reportAll (extraFieldEvents component.name line kind)
        match kind.record? line.fields with
        | some record => addRecord options.duplicateFields component line.number record
        | none => pure component

/-- What is reported of a component whose file was read to its end. -/
def readEvents (component : Component) : List Event :=
  (if component.hasDisplayName then [] else [.noDisplayName component.name]) ++
    [.componentRead component.name component.body.length component.stubs.length
      component.dependencies.length]

def read (options : ReadOptions) (name content : String) : Traced DefinitionError Component := do
  let component ← (Line.readAll options.delimiter content).foldlM (addLine options) (ofName name)
  reportAll component.readEvents
  pure component

end Component

end EntityCodegen
