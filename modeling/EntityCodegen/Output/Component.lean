import EntityCodegen.Output.Code

/-!
# The files of a component

A header that declares the manager and the stub of the component, and a source that defines them.
-/

namespace EntityCodegen.Output

/-!
## The header

Declares the manager, with a pool member and an accessor for each body field, and the stub, with a
member for each stub field.
-/

/-- The members of the pool, by type and name: the entities and the body fields. -/
def poolMembers (component : Component) : List (String × String) :=
  ("c_entity", Component.firstPredecessor) ::
    component.body.map fun field => (field.type, field.name)

def stubMembers (component : Component) : List (String × String) :=
  component.stubs.map fun stub => (stub.outerType, stub.name)

/-- The function that gives an entity's value of a body field. -/
def accessorLines (field : BodyField) : List String :=
  ["",
    tab 1 (field.type ++ " & " ++ field.name ++ "(c_entity const &e) \x7b"),
    tab 2 "auto inst = lookup(e);",
    "",
    tab 2 ("return instance_pool." ++ field.name ++ "[inst.index];"),
    tab 1 "\x7d"]

def managerLines (component : Component) : List String :=
  ["struct " ++ component.manager ++ " : component_manager \x7b",
    tab 1 "struct instance_data \x7b"] ++
  (poolMembers component).map (fun (type, name) => tab 2 (type ++ " *" ++ name ++ ";")) ++
  [tab 1 "\x7d instance_pool;",
    "",
    tab 1 "void create_component_instance_data(unsigned count) override;",
    "",
    tab 1 "void destroy_instance(instance i) override;",
    "",
    tab 1 "void entity(c_entity const &e) override;"] ++
  component.body.flatMap accessorLines ++
  ["\x7d;"]

def stubLines (component : Component) : List String :=
  ["struct " ++ component.stubClass ++ " : component_stub \x7b",
    tab 1 (component.stubClass ++ "() = default;"),
    ""] ++
  (stubMembers component).flatMap (fun (type, name) =>
    [tab 1 (type ++ " " ++ name ++ "\x7b\x7d;"), ""]) ++
  [tab 1 "void",
    tab 1 "assign_component_to_entity(c_entity entity) override;",
    "",
    tab 1 "std::vector<std::string> get_dependencies() override;",
    "",
    tab 1 "static std::unique_ptr<component_stub> from_config(config_setting_t const *config);",
    "\x7d;"]

def componentHeader (component : Component) : String :=
  code (
    ["#pragma once",
      "",
      banner,
      "",
      includeLine "component_manager.h"] ++
    (if component.wireFields.isEmpty then [] else [includeLine "wire_filter.h"]) ++
    ["",
      "// " ++ component.displayName ++ " component",
      ""] ++
    managerLines component ++
    [""] ++
    stubLines component)

/-!
## The source

Defines how the manager allocates, clears and extends its pool, and how the stub is read from a
configuration, given to an entity, and asked for its dependencies.
-/

/-- The lines that place the pool members in a new buffer, each behind the one before it. -/
def allocationLines (component : Component) : List String :=
  tab 1 ("new_pool." ++ Component.firstPredecessor ++
      " = align_ptr((c_entity *)new_buffer.buffer);") ::
    component.body.map fun field =>
      tab 1 ("new_pool." ++ field.name ++ " = align_ptr((" ++ field.type ++ " *)(new_pool." ++
        field.predecessor ++ " + count));")

/-- The function that makes room for a number of instances. -/
def createLines (component : Component) : List String :=
  ["void",
    component.manager ++ "::create_component_instance_data(unsigned count) \x7b",
    tab 1 "if (count <= buffer.allocated)",
    tab 2 "return;",
    "",
    tab 1 "component_buffer new_buffer\x7b\x7d;",
    tab 1 "instance_data new_pool\x7b\x7d;",
    "",
    tab 1 "size_t size = sizeof(c_entity) * count;"] ++
  component.body.map (fun field =>
    tab 1 ("size = sizeof(" ++ field.type ++ ") * count + align_size<" ++ field.type ++
      ">(size);")) ++
  [tab 1 "size += 16;   // for worst-case misalignment of initial ptr",
    "",
    tab 1 "new_buffer.buffer = malloc(size);",
    tab 1 "new_buffer.num = buffer.num;",
    tab 1 "new_buffer.allocated = count;",
    tab 1 "memset(new_buffer.buffer, 0, size);",
    ""] ++
  allocationLines component ++
  ["",
    tab 1 "memcpy(new_pool.entity, instance_pool.entity, buffer.num * sizeof(c_entity));"] ++
  component.body.map (fun field =>
    tab 1 ("memcpy(new_pool." ++ field.name ++ ", instance_pool." ++ field.name ++
      ", buffer.num * sizeof(" ++ field.type ++ "));")) ++
  ["",
    tab 1 "free(buffer.buffer);",
    tab 1 "buffer = new_buffer;",
    "",
    tab 1 "instance_pool = new_pool;",
    "\x7d",
    ""]

/-- The function that fills a freed place with the last instance. -/
def destroyLines (component : Component) : List String :=
  ["void",
    component.manager ++ "::destroy_instance(instance i) \x7b",
    tab 1 "auto last_index = buffer.num - 1;",
    tab 1 "auto last_entity = instance_pool.entity[last_index];",
    tab 1 "auto current_entity = instance_pool.entity[i.index];",
    "",
    tab 1 "instance_pool.entity[i.index] = instance_pool.entity[last_index];"] ++
  component.body.map (fun field =>
    tab 1 ("instance_pool." ++ field.name ++ "[i.index] = instance_pool." ++ field.name ++
      "[last_index];")) ++
  ["",
    tab 1 "entity_instance_map[last_entity] = i.index;",
    tab 1 "entity_instance_map.erase(current_entity);",
    "",
    tab 1 "--buffer.num;",
    "\x7d",
    ""]

def entityLines (component : Component) : List String :=
  ["void",
    component.manager ++ "::entity(c_entity const &e) \x7b",
    tab 1 "if (buffer.num >= buffer.allocated) \x7b",
    tab 2 ("printf(\"Increasing size of " ++ component.name ++
      " buffer. Please adjust\\n\");"),
    tab 2 "create_component_instance_data(std::max(1u, buffer.allocated) * 2);",
    tab 1 "\x7d",
    "",
    tab 1 "auto inst = lookup(e);",
    "",
    tab 1 "instance_pool.entity[inst.index] = e;",
    "\x7d",
    ""]

/-- What a body field is set to: the value of its stub, or its default. -/
def initialValue (component : Component) (field : BodyField) : String :=
  match component.stubOf? field with
  | some stub => stub.lead ++ stub.name ++ stub.extra
  | none => field.defaultValue

/-- The lines that set an entity's fields, each after a blank line. -/
def assignmentLines (component : Component) : List String :=
  component.body.flatMap fun field =>
    ["", tab 1 ("*data." ++ field.name ++ " = " ++ initialValue component field ++ ";")]

/-- The function that gives a configured component to an entity. -/
def assignLines (component : Component) : List String :=
  ["void",
    component.stubClass ++ "::assign_component_to_entity(c_entity entity) \x7b",
    tab 1 ("auto &man = component_system_man.managers." ++ component.managerInstance ++ ";"),
    "",
    tab 1 "man.assign_entity(entity);",
    "",
    tab 1 "auto data = man.get_instance_data(entity);"] ++
  assignmentLines component ++
  ["\x7d",
    ""]

/-- The lines that read the stub's fields, each before a blank line. -/
def loadLines (component : Component) : List String :=
  component.stubs.flatMap fun stub =>
    [tab 1 (component.name ++ "_stub->" ++ stub.name ++ " = load_value_from_config<" ++ stub.type ++
      ">(config, \"" ++ stub.name ++ "\");"), ""]

def configLines (component : Component) : List String :=
  ["std::unique_ptr<component_stub> " ++ component.stubClass ++
      "::from_config(config_setting_t const *config) \x7b",
    tab 1 ("auto " ++ component.name ++ "_stub = std::make_unique<" ++ component.stubClass ++
      ">();"),
    ""] ++
  loadLines component ++
  [tab 1 ("return std::move(" ++ component.name ++ "_stub);"),
    "\x7d",
    ""]

/-- The items of the dependency list, each with a comma and a space behind it. -/
def dependencyItems (dependencies : List String) : String :=
  String.join (dependencies.map fun dependency => "\"" ++ dependency ++ "\", ")

def dependencyLines (component : Component) : List String :=
  ["std::vector<std::string> " ++ component.stubClass ++ "::get_dependencies() \x7b",
    tab 1 "return \x7b"] ++
  (if component.dependencies.isEmpty then []
    else [tab 2 (dependencyItems component.dependencies)]) ++
  [tab 1 "\x7d;",
    "\x7d"]

def componentSource (component : Component) : String :=
  code (
    [banner,
      "",
      "#include <algorithm>",
      "#include <string.h>",
      "#include <memory>",
      "",
      includeLine "../memory.h",
      includeLine component.headerFile,
      includeLine "component_system_manager.h",
      "",
      "extern component_system_manager component_system_man;",
      ""] ++
    createLines component ++
    destroyLines component ++
    entityLines component ++
    assignLines component ++
    configLines component ++
    dependencyLines component)

end EntityCodegen.Output
