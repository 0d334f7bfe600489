import EntityCodegen.Output.Code
import EntityCodegen.Text.Quoted

/-!
# Showing and setting wire filters

One function lists an entity's wire filters, component by component; the other sets the filter with
a given id. Both go by the ids of the fields.
-/

namespace EntityCodegen.Output

/-- A wire filter of a run: its id and where it is. -/
structure Filter where
  id : Nat
  component : Component
  field : BodyField
  deriving DecidableEq

/-- The wire filters of a component in declaration order. -/
def Filter.ofComponent (component : Component) : List Filter :=
  component.wireFields.map fun (field, id) => ⟨id, component, field⟩

/-- The wire filters in the order in which they are listed: by component. -/
def listedFilters (components : List Component) : List Filter :=
  components.flatMap Filter.ofComponent

/-- The wire filters in the order in which they are looked up: by id. -/
def dispatchedFilters (components : List Component) : List Filter :=
  (listedFilters components).mergeSort fun a b => decide (a.id ≤ b.id)

def bindManager (component : Component) : String :=
  "auto &" ++ component.name ++ "_man = component_system_man.managers." ++
    component.managerInstance ++ ";"

def bindInstance (component : Component) : String :=
  "auto " ++ component.name ++ " = " ++ component.name ++ "_man.get_instance_data(entity);"

def ifPresent (component : Component) : String :=
  "if (" ++ component.name ++ "_man.exists(entity)) \x7b"

def filterLabel (filter : Filter) : String :=
  "\"" ++ Text.escape filter.component.displayName ++ "/" ++ filter.field.name ++ "\""

def listLines (filter : Filter) : List String :=
  [tab 2 "\x7b",
    tab 3 (bindInstance filter.component),
    tab 3 ("add_filter(filters, " ++ toString filter.id ++ ", *(" ++ filter.component.name ++ "." ++
      filter.field.name ++ "),"),
    tab 4 (filterLabel filter ++ ");"),
    tab 2 "\x7d"]

/-- The lines that list the filters of a component, if it has any. -/
def listComponentLines (component : Component) : List String :=
  if component.wireFields.isEmpty then []
  else
    [tab 1 (bindManager component),
      tab 1 (ifPresent component)] ++
    (Filter.ofComponent component).flatMap listLines ++
    [tab 1 "\x7d"]

def caseLines (filter : Filter) : List String :=
  [tab 1 ("case " ++ toString filter.id ++ ": \x7b"),
    tab 2 (bindManager filter.component),
    tab 2 (ifPresent filter.component),
    tab 3 (bindInstance filter.component),
    tab 3 (filter.component.name ++ "." ++ filter.field.name ++ "->set(filter);"),
    tab 2 "\x7d",
    tab 1 "\x7d break;",
    ""]

def addFilterLines : List String :=
  ["static void add_filter(std::vector<filter_ui_state> &filters, int field_id, " ++
      "wire_filter_ptr const & w, char const *name) \x7b",
    tab 1 "filters.emplace_back();",
    tab 1 "auto & f = filters.back();",
    tab 1 "f.component_name = name;",
    tab 1 "f.field_id = field_id;",
    tab 1 "f.type = w.type;",
    "",
    tab 1 "if (w.wrapped) \x7b",
    tab 2 "strcpy(f.filter.data(), w.wrapped->c_str());",
    tab 1 "\x7d",
    tab 1 "else \x7b",
    tab 2 "f.filter[0] = '\\0';",
    tab 1 "\x7d",
    "\x7d",
    ""]

/-- The source that shows and sets wire filters. -/
def filters (components : List Component) : String :=
  code (
    [banner,
      "",
      "#include <vector>",
      includeLine "../component/component_system_manager.h",
      "",
      "extern component_system_manager component_system_man;",
      ""] ++
    addFilterLines ++
    ["std::vector<filter_ui_state> get_filters(c_entity entity) \x7b",
      tab 1 "std::vector<filter_ui_state> filters;",
      ""] ++
    components.flatMap listComponentLines ++
    [tab 1 "return filters;",
      "\x7d",
      "",
      "void update_filter(c_entity entity, filter_ui_state const& filter) \x7b",
      tab 1 "switch (filter.field_id) \x7b"] ++
    (dispatchedFilters components).flatMap caseLines ++
    [tab 1 "\x7d",
      "\x7d"])

end EntityCodegen.Output
