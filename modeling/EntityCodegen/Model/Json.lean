import EntityCodegen.Model.Schema

/-!
# The schema as JSON

JSON values with their layout, and the value in which a schema is shown to a user.
-/

namespace EntityCodegen

/-!
## Values

JSON values with members in a fixed order, and their layout over several lines: one item or member
a line, two spaces deeper than what holds it, and nothing between the brackets of an empty one.
-/

/-- A JSON value. The only numbers are naturals. -/
inductive Json where
  | null
  | number (value : Nat)
  | text (value : String)
  | list (items : List Json)
  | object (members : List (String × Json))

namespace Json

/-- The character as it stands in a JSON string: quote, backslash and controls are escaped. -/
def escapeChar (c : Char) : List Char :=
  match c with
  | '"' => ['\\', '"']
  | '\\' => ['\\', '\\']
  | '\n' => ['\\', 'n']
  | '\r' => ['\\', 'r']
  | '\t' => ['\\', 't']
  | '\x08' => ['\\', 'b']
  | '\x0c' => ['\\', 'f']
  | c =>
    if c.toNat < 0x20 then
      ['\\', 'u', '0', '0'] ++ [Nat.digitChar (c.toNat / 16), Nat.digitChar (c.toNat % 16)]
    else [c]

def string (text : String) : String :=
  String.ofList ('"' :: (text.toList.flatMap escapeChar ++ ['"']))

/-- A new line, indented to the depth. -/
def newline (depth : Nat) : String :=
  String.ofList ('\n' :: List.replicate (2 * depth) ' ')

mutual

/-- The value's text; lines after the first are indented to the depth. -/
def layout (depth : Nat) : Json → String
  | .null => "null"
  | .number value => toString value
  | .text value => string value
  | .list [] => "[]"
  | .list (item :: items) =>
    "[" ++ newline (depth + 1) ++ layout (depth + 1) item ++ layoutItems (depth + 1) items ++
      newline depth ++ "]"
  | .object [] => "\x7b\x7d"
  | .object ((key, value) :: members) =>
    "\x7b" ++ newline (depth + 1) ++ string key ++ ": " ++ layout (depth + 1) value ++
      layoutMembers (depth + 1) members ++ newline depth ++ "\x7d"

def layoutItems (depth : Nat) : List Json → String
  | [] => ""
  | item :: items => "," ++ newline depth ++ layout depth item ++ layoutItems depth items

def layoutMembers (depth : Nat) : List (String × Json) → String
  | [] => ""
  | (key, value) :: members =>
    "," ++ newline depth ++ string key ++ ": " ++ layout depth value ++ layoutMembers depth members

end

/-- The value's text over several lines. -/
def pretty (value : Json) : String :=
  layout 0 value

end Json

/-!
## The schema

The form in which a schema is shown to a user. The symbols of an enumeration are the members of an
object, in their order.
-/

/-- An optional number; null where there is none. -/
def Json.ofNat? (value : Option Nat) : Json :=
  match value with
  | some value => .number value
  | none => .null

def Json.ofTexts (texts : List String) : Json :=
  .list (texts.map .text)

def BodyField.toJson (field : BodyField) : Json :=
  .object [("type", .text field.type), ("name", .text field.name),
    ("default_value", .text field.defaultValue), ("predecessor", .text field.predecessor),
    ("owning_component", .text field.owner), ("linked_stub", Json.ofNat? field.linkedStub),
    ("wire_id", Json.ofNat? field.wireId)]

def StubField.toJson (field : StubField) : Json :=
  .object [("outer_type", .text field.outerType), ("type", .text field.type),
    ("prefix", .text field.lead), ("name", .text field.name), ("extra", .text field.extra),
    ("owning_component", .text field.owner)]

def Component.toJson (component : Component) : Json :=
  .object [("name", .text component.name), ("display_name", .text component.displayName),
    ("body_fields", .list (component.body.map BodyField.toJson)),
    ("stub_fields", .list (component.stubs.map StubField.toJson)),
    ("dependencies", Json.ofTexts component.dependencies)]

def Symbol.toJson (symbol : Symbol) : Json :=
  .object [("value", .number symbol.value.toNat), ("description", .text symbol.description)]

def Enumeration.toJson (enumeration : Enumeration) : Json :=
  .object [("name", .text enumeration.name),
    ("symbols", .object (enumeration.symbols.map fun symbol => (symbol.name, symbol.toJson)))]

def Schema.toJson (schema : Schema) : Json :=
  .object [("components", .list (schema.components.map Component.toJson)),
    ("enums", .list (schema.enumerations.map Enumeration.toJson)),
    ("wire_id_count", .number schema.wireIdCount)]

end EntityCodegen
