import EntityCodegen.Definition.Component
import EntityCodegen.Definition.Enumeration
import EntityCodegen.Model.Component
import EntityCodegen.Model.Schema

/-!
# Sets of definition files

The schema of a run is read from its definition files in the order of their names, so the order in
which the files were found does not matter. Component files come before enum files, and the first
fault refuses the whole set.
-/

namespace EntityCodegen

structure Source where
  name : String
  content : String
  deriving DecidableEq, Repr

namespace Source

/-- The files in the order of their names. -/
def sorted (sources : List Source) : List Source :=
  sources.mergeSort fun a b => decide (a.name ≤ b.name)

/-- The first name that stands beside itself. -/
def repeatedName? : List Source → Option String
  | first :: second :: rest =>
    if first.name = second.name then some first.name else repeatedName? (second :: rest)
  | _ => none

/-- The files in the order of their names, or a fault where a name occurs twice. -/
def distinctSorted (duplicate : String → DefinitionError) (sources : List Source) :
    Except DefinitionError (List Source) :=
  match repeatedName? (sorted sources) with
  | some name => .error (duplicate name)
  | none => .ok (sorted sources)

end Source

structure BuildOptions where
  reading : ReadOptions
  /-- The type of the fields that get a wire id. -/
  wireType : String
  deriving DecidableEq, Repr

namespace BuildOptions

/-- The type of wire filters unless the project names another. -/
def standardWireType : String :=
  "wire_filter_ptr"

/-- The standard way to read lines, and the standard wire type. -/
def standard : BuildOptions :=
  ⟨.standard, standardWireType⟩

end BuildOptions

namespace Schema

open Traced (report reportAll)

/-- Reads and links the components in the given order, the first wire id being `next`, and gives the
id after the last. -/
def readComponentsFrom (options : BuildOptions) (next : Nat) :
    List Source → Traced DefinitionError (List Component × Nat)
  | [] => pure ([], next)
  | source :: rest => do
    let component ← Component.read options.reading source.name source.content
    let (linked, after) := component.link options.wireType next
    reportAll (linked.linkEvents options.wireType)
    let (components, last) ← readComponentsFrom options after rest
    pure (linked :: components, last)

/-- The dependencies that name no component of the list. -/
def unknownDependencies (components : List Component) : List Event :=
  components.flatMap fun component =>
    component.dependencies.filterMap fun dependency =>
      if components.any fun other => other.name == dependency then none
      else some (.unknownDependency component.name dependency)

/-- Reads the component files and gives the components with the number of wire ids. -/
def readComponents (options : BuildOptions) (sources : List Source) :
    Traced DefinitionError (List Component × Nat) := do
  let sources ← Traced.ofExcept (Source.distinctSorted .duplicateComponent sources)
  let (components, count) ← readComponentsFrom options 0 sources
  reportAll (unknownDependencies components)
  report (.componentsRead components.length count)
  pure (components, count)

def readEnumerations (sources : List Source) : Traced DefinitionError (List Enumeration) := do
  let sources ← Traced.ofExcept (Source.distinctSorted .duplicateEnum sources)
  let enumerations ← sources.mapM fun source => Enumeration.read source.name source.content
  report (.enumsRead enumerations.length)
  pure enumerations

def read (options : BuildOptions) (components enums : List Source) :
    Traced DefinitionError Schema := do
  let (components, count) ← readComponents options components
  let enumerations ← readEnumerations enums
  pure ⟨components, enumerations, count⟩

end Schema

end EntityCodegen
