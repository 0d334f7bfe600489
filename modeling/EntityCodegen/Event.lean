/-!
# Events of a run

What a run reports beside its result. An event is kept as what happened; its level, its message and
its fields are read off it.
-/

namespace EntityCodegen

/-- How much an event matters, the most severe first. -/
inductive Level where
  | warn
  | info
  | debug
  | trace
  deriving DecidableEq, Repr

def Level.rank : Level → Nat
  | .warn => 0
  | .info => 1
  | .debug => 2
  | .trace => 3

/-- Something that happened during a run. -/
inductive Event where
  /-- A line whose tag is not known was left out. -/
  | unknownLine (component : String) (line : Nat) (tag : String)
  /-- A body field has the name of an earlier one. -/
  | aliasedField (component field : String) (line : Nat)
  /-- A dependency line took the place of an earlier, non-empty list. -/
  | dependenciesReplaced (component : String) (line : Nat) (replaced : List String)
  | extraFields (component : String) (line extra : Nat)
  /-- A component ended up without a display name. -/
  | noDisplayName (component : String)
  | componentRead (component : String) (body stubs dependencies : Nat)
  | wireIdAssigned (component field : String) (id : Nat)
  /-- A dependency names no component of the run. -/
  | unknownDependency (component dependency : String)
  | componentsRead (components wireIds : Nat)
  | enumRead (name : String) (symbols : Nat)
  | enumsRead (enums : Nat)
  /-- The whole model of a project was built. -/
  | schemaBuilt (components enums wireIds : Nat)
  /-- A component's files are about to be written out. -/
  | componentRendered (component header source : String)
  | directoryScanned (directory : String) (files : Nat)
  | defaultSettings (path : String)
  | settingsLoaded (path : String)
  /-- A file already held its text. -/
  | fileUnchanged (path : String)
  | fileWritten (path : String) (bytes : Nat)
  deriving DecidableEq, Repr

inductive FieldValue where
  | number (value : Nat)
  | text (value : String)
  | texts (values : List String)
  deriving DecidableEq, Repr

namespace Event

def level : Event → Level
  | unknownLine .. | aliasedField .. | noDisplayName .. | unknownDependency .. => .warn
  | componentsRead .. | enumsRead .. | schemaBuilt .. => .info
  | dependenciesReplaced .. | componentRead .. | enumRead .. | componentRendered ..
  | directoryScanned .. | defaultSettings .. | settingsLoaded .. | fileWritten .. => .debug
  | extraFields .. | wireIdAssigned .. | fileUnchanged .. => .trace

def message : Event → String
  | unknownLine .. => "skipping line with unknown kind"
  | aliasedField .. => "duplicate body field aliased"
  | dependenciesReplaced .. => "depends line replaces earlier dependency list"
  | extraFields .. => "ignoring trailing fields"
  | noDisplayName .. => "component has no ui_name"
  | componentRead .. => "built component"
  | wireIdAssigned .. => "assigned wire id"
  | unknownDependency .. => "dependency names an unknown component"
  | componentsRead .. => "built component schemas"
  | enumRead .. => "built enum"
  | enumsRead .. => "built enum schemas"
  | schemaBuilt .. => "built schema set"
  | componentRendered .. => "rendering component"
  | directoryScanned .. => "scanned definition directory"
  | defaultSettings .. => "no config file, using defaults"
  | settingsLoaded .. => "loaded config"
  | fileUnchanged .. => "unchanged"
  | fileWritten .. => "wrote file"

/-- The event's details by name. A wire id is a text, all counts are numbers. -/
def fields : Event → List (String × FieldValue)
  | unknownLine component line tag =>
    [("component", .text component), ("line", .number line), ("kind", .text tag)]
  | aliasedField component field line =>
    [("component", .text component), ("field", .text field), ("line", .number line)]
  | dependenciesReplaced component line replaced =>
    [("component", .text component), ("line", .number line), ("replaced", .texts replaced)]
  | extraFields component line extra =>
    [("component", .text component), ("line", .number line), ("extra", .number extra)]
  | noDisplayName component => [("component", .text component)]
  | componentRead component body stubs dependencies =>
    [("component", .text component), ("body_fields", .number body), ("stub_fields", .number stubs),
      ("dependencies", .number dependencies)]
  | wireIdAssigned component field id =>
    [("component", .text component), ("field", .text field), ("wire_id", .text (toString id))]
  | unknownDependency component dependency =>
    [("component", .text component), ("dependency", .text dependency)]
  | componentsRead components wireIds =>
    [("components", .number components), ("wire_ids", .number wireIds)]
  | enumRead name symbols => [("enum_name", .text name), ("symbols", .number symbols)]
  | enumsRead enums => [("enums", .number enums)]
  | schemaBuilt components enums wireIds =>
    [("components", .number components), ("enums", .number enums), ("wire_ids", .number wireIds)]
  | componentRendered component header source =>
    [("component", .text component), ("header", .text header), ("source", .text source)]
  | directoryScanned directory files => [("dir", .text directory), ("files", .number files)]
  | defaultSettings path => [("path", .text path)]
  | settingsLoaded path => [("path", .text path)]
  | fileUnchanged path => [("path", .text path)]
  | fileWritten path bytes => [("path", .text path), ("bytes", .number bytes)]

/-- Whether the event is reported when events down to the level are. -/
def reportedAt (limit : Level) (event : Event) : Bool :=
  event.level.rank ≤ limit.rank

end Event

end EntityCodegen
