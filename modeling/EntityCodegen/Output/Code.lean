import EntityCodegen.Model.Component

/-!
# Generated code

A generated file is a list of lines. Its text ends every line with a line feed.
-/

namespace EntityCodegen.Output

/-- The first comment of every generated file. -/
def banner : String :=
  "/* THIS FILE IS AUTOGENERATED BY schemagen; DO NOT HAND-MODIFY */"

/-- The line behind the given number of tabs, each four spaces wide. -/
def tab (depth : Nat) (line : String) : String :=
  String.ofList (List.replicate (4 * depth) ' ') ++ line

theorem tab_append (depth : Nat) (line rest : String) :
    tab depth (line ++ rest) = tab depth line ++ rest := by
  rw [tab, tab, String.append_assoc]

def code (lines : List String) : String :=
  String.join (lines.map fun line => line ++ "\n")

def includeLine (path : String) : String :=
  "#include \"" ++ path ++ "\""

@[simp] theorem code_nil : code [] = "" := rfl

@[simp] theorem code_append (a b : List String) : code (a ++ b) = code a ++ code b := by
  apply String.ext
  simp [code, String.toList_join]

end EntityCodegen.Output

/-!
## Names

The files and identifiers that a component gives its name to, and the files of fixed names.
-/

namespace EntityCodegen

namespace Component

/-- The file that declares the component's manager and stub. -/
def headerFile (component : Component) : String :=
  component.name ++ "_component.h"

/-- The file that defines the component's manager and stub. -/
def sourceFile (component : Component) : String :=
  component.name ++ "_component.cc"

/-- The class that holds the component's data. -/
def manager (component : Component) : String :=
  component.name ++ "_component_manager"

def managerInstance (component : Component) : String :=
  component.name ++ "_component_man"

/-- The class that holds the component's configuration. -/
def stubClass (component : Component) : String :=
  component.name ++ "_component_stub"

end Component

namespace Output

/-- The file that lists all managers. -/
def registryFile : String :=
  "component_managers.h"

/-- The file that shows and sets wire filters. -/
def filtersFile : String :=
  "component_ui_genned.cc"

def enumHeaderFile : String :=
  "enums.h"

/-- The file that defines the functions on enumerations. -/
def enumSourceFile : String :=
  "enums.cc"

end Output

end EntityCodegen
