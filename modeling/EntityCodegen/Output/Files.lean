import EntityCodegen.Event
import EntityCodegen.Model.Schema
import EntityCodegen.Output.Code
import EntityCodegen.Output.Component
import EntityCodegen.Output.Enums
import EntityCodegen.Output.Filters

/-!
# The files of a run

Every component gets a header and a source; beside these there are the registry, the filters, and a
header and a source for all enumerations.
-/

namespace EntityCodegen.Output

/-!
## The registry

A header with one manager for every component of the run, and the look-up of a stub by the
component's name.
-/

/-- The number of instances that every manager has room for at first. -/
def initialCapacity : Nat :=
  20

def headerIncludes (components : List Component) : List String :=
  components.map fun component => includeLine component.headerFile

def stubLookup (component : Component) : List String :=
  [tab 2 ("if (strcmp(comp_name, \"" ++ component.name ++ "\") == 0) \x7b"),
    tab 3 ("return " ++ component.stubClass ++ "::from_config(config);"),
    tab 2 "\x7d"]

def registry (components : List Component) : String :=
  code (
    ["#pragma once",
      "",
      banner,
      "",
      "#include <unordered_map>",
      "#include <memory>",
      "",
      includeLine "component_manager.h",
      ""] ++
    headerIncludes components ++
    ["",
      "#define INITIAL_MAX_COMPONENTS " ++ toString initialCapacity,
      "",
      "struct component_managers \x7b",
      tab 1 "component_managers() \x7b"] ++
    components.map (fun component =>
      tab 2 (component.managerInstance ++
        ".create_component_instance_data(INITIAL_MAX_COMPONENTS);")) ++
    [tab 1 "\x7d",
      ""] ++
    components.map (fun component =>
      tab 1 (component.manager ++ " " ++ component.managerInstance ++ "\x7b\x7d;")) ++
    ["",
      tab 1 ("std::unique_ptr<component_stub> get_stub(const char *comp_name, " ++
        "const config_setting_t *config) \x7b")] ++
    components.flatMap stubLookup ++
    [tab 2 "assert(false);",
      tab 2 "return nullptr;",
      tab 1 "\x7d",
      "",
      tab 1 "void destroy_entity_instance(c_entity ce) \x7b"] ++
    components.map (fun component =>
      tab 2 (component.managerInstance ++ ".destroy_entity_instance(ce);")) ++
    [tab 1 "\x7d",
      "\x7d;"])

end EntityCodegen.Output

/-! ## All files -/

namespace EntityCodegen

/-- Which of the two output directories a file goes to. -/
inductive OutputKind where
  | component
  | enumeration
  deriving DecidableEq, Repr

structure OutputFile where
  kind : OutputKind
  name : String
  content : String
  deriving DecidableEq, Repr

namespace Schema

/-- The files of the components: the registry, the filters, and two files for each component. -/
def componentFiles (schema : Schema) : List OutputFile :=
  [⟨.component, Output.registryFile, Output.registry schema.components⟩,
    ⟨.component, Output.filtersFile, Output.filters schema.components⟩] ++
  schema.components.flatMap fun component =>
    [⟨.component, component.headerFile, Output.componentHeader component⟩,
      ⟨.component, component.sourceFile, Output.componentSource component⟩]

def enumerationFiles (schema : Schema) : List OutputFile :=
  [⟨.enumeration, Output.enumHeaderFile, Output.enumHeader schema.enumerations⟩,
    ⟨.enumeration, Output.enumSourceFile, Output.enumSource schema.enumerations⟩]

/-- What is reported while the components' files are made. -/
def componentFileEvents (schema : Schema) : List Event :=
  schema.components.map fun component =>
    .componentRendered component.name component.headerFile component.sourceFile

end Schema

end EntityCodegen
