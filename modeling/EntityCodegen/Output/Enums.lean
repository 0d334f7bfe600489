import EntityCodegen.Model.Schema
import EntityCodegen.Output.Code
import EntityCodegen.Text.Quoted

/-!
# Enumerations in the generated code

The header declares each enumeration with its values; the source defines how a value is described
and named, how a name is looked up, and how a value is read from and written to a configuration.
-/

namespace EntityCodegen.Output

def separator : String :=
  "// -=-=-=-=-=-=-=-=-=-=-=-=-=-=-=-=-=-=-=-=-=-=-=-"

def memberLine (symbol value : String) : String :=
  tab 1 (symbol ++ " = " ++ value ++ ",")

/-- The members of an enumeration: its symbols, and the one that stands for none of them. -/
def memberLines (enumeration : Enumeration) : List String :=
  enumeration.symbols.map (fun symbol => memberLine symbol.name (toString symbol.value)) ++
    [memberLine Enumeration.reservedSymbol (toString Enumeration.reservedValue)]

def enumHeaderLines (enumeration : Enumeration) : List String :=
  let e := enumeration.name
  ["",
    separator,
    "enum class " ++ e,
    "\x7b"] ++
  memberLines enumeration ++
  ["\x7d;",
    "",
    "const char* get_enum_description(" ++ e ++ " value);",
    "",
    "const char* get_enum_string(" ++ e ++ " value);",
    "",
    "template<> " ++ e ++ " get_enum<" ++ e ++ ">(const char *e);",
    "",
    e ++ " config_setting_get_" ++ e ++ "(const config_setting_t *setting);",
    "",
    "int config_setting_set_" ++ e ++ "(config_setting_t *setting, " ++ e ++ " value);",
    "",
    "int config_setting_lookup_" ++ e ++
      "(const config_setting_t *setting, const char *name, " ++ e ++ " *value);"]

def enumHeader (enumerations : List Enumeration) : String :=
  code (
    ["#pragma once",
      "",
      "#include <libconfig.h>",
      includeLine "../libconfig_shim.h",
      "",
      banner,
      "",
      "",
      "template<typename T>",
      tab 1 "T get_enum(const char *e);",
      ""] ++
    enumerations.flatMap enumHeaderLines)

/-- A function from the values to a text of each symbol. -/
def switchLines (enumeration : Enumeration) (function : String) (text : Symbol → String) :
    List String :=
  ["const char* " ++ function ++ "(" ++ enumeration.name ++ " value) \x7b",
    tab 1 "switch(value)",
    tab 1 "\x7b"] ++
  enumeration.symbols.flatMap (fun symbol =>
    [tab 1 ("case " ++ enumeration.name ++ "::" ++ symbol.name ++ ":"),
      tab 2 ("return " ++ Text.literal (text symbol) ++ ";")]) ++
  [tab 1 "default:",
    tab 2 "assert(false);",
    tab 2 "return nullptr;",
    tab 1 "\x7d",
    "\x7d"]

def lookupLines (enumeration : Enumeration) : List String :=
  let e := enumeration.name
  ["template<> " ++ e ++ " get_enum<" ++ e ++ ">(const char *e) \x7b",
    tab 1 ("auto val\x7b" ++ e ++ "::" ++ Enumeration.reservedSymbol ++ "\x7d;")] ++
  enumeration.symbols.flatMap (fun symbol =>
    [tab 1 ("if (!strcmp(e, \"" ++ symbol.name ++ "\")) \x7b"),
      tab 2 ("val = " ++ e ++ "::" ++ symbol.name ++ ";"),
      tab 1 "\x7d"]) ++
  [tab 1 ("assert(val != " ++ e ++ "::" ++ Enumeration.reservedSymbol ++ ");"),
    tab 1 "return val;",
    "\x7d"]

/-- The functions that read and write a value in a configuration. -/
def settingLines (enumeration : Enumeration) : List String :=
  let e := enumeration.name
  [e ++ " config_setting_get_" ++ e ++ "(const config_setting_t *setting) \x7b",
    tab 1 "const char *str = config_setting_get_string(setting);",
    tab 1 ("return get_enum<" ++ e ++ ">(str);"),
    "\x7d",
    "",
    "int config_setting_set_" ++ e ++ "(config_setting_t *setting, " ++ e ++ " value) \x7b",
    tab 1 "auto str = get_enum_string(value);",
    tab 1 "return (config_setting_set_string(setting, str));",
    "\x7d",
    "",
    "int config_setting_lookup_" ++ e ++
      "(const config_setting_t *setting, const char *name, " ++ e ++ " *value) \x7b",
    tab 1 "auto *member = config_setting_get_member(setting, name);",
    tab 1 "if(!member) \x7b",
    tab 2 "return CONFIG_FALSE;",
    tab 1 "\x7d",
    "",
    tab 1 ("*value = (" ++ e ++ ")config_setting_get_" ++ e ++ "(member);"),
    tab 1 "return CONFIG_TRUE;",
    "\x7d"]

def enumSourceLines (enumeration : Enumeration) : List String :=
  ["", separator] ++
  switchLines enumeration "get_enum_description" Symbol.description ++
  [""] ++
  switchLines enumeration "get_enum_string" Symbol.name ++
  [""] ++
  lookupLines enumeration ++
  [""] ++
  settingLines enumeration

def enumSource (enumerations : List Enumeration) : String :=
  code (
    [banner,
      "",
      includeLine "enums.h",
      "",
      "#include <cassert>",
      "#include <cstring>"] ++
    enumerations.flatMap enumSourceLines)

end EntityCodegen.Output
