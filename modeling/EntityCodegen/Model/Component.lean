import EntityCodegen.Event

/-!
# Components

A component is a named bundle of data that entities may have. Its body fields are stored one behind
the other in a pool, so each knows the pool member before it; its stub fields are read from an
entity's configuration; and it may depend on other components.
-/

namespace EntityCodegen

structure BodyField where
  type : String
  name : String
  /-- The initial value where no stub supplies one. -/
  defaultValue : String
  /-- The pool member stored before the field's. -/
  predecessor : String
  owner : String
  /-- The position of the stub that supplies the field's initial value. -/
  linkedStub : Option Nat
  /-- The field's id among all wire filters of a run. -/
  wireId : Option Nat
  deriving DecidableEq, Repr

/-- A field read from an entity's configuration. -/
structure StubField where
  /-- The type under which the stub holds the value. -/
  outerType : String
  /-- The type under which the configuration holds the value. -/
  type : String
  /-- What is written before the name in an initial value. -/
  lead : String
  name : String
  /-- What is written after the name in an initial value. -/
  extra : String
  owner : String
  deriving DecidableEq, Repr

structure Component where
  name : String
  displayName : String
  body : List BodyField
  stubs : List StubField
  dependencies : List String
  deriving DecidableEq, Repr

namespace Component

/-- The pool member before the first body field: the entities themselves. -/
def firstPredecessor : String :=
  "entity"

/-- The display name of a component that was given none. -/
def placeholderName : String :=
  "Invalid Name"

def ofName (name : String) : Component :=
  ⟨name, placeholderName, [], [], []⟩

def hasDisplayName (component : Component) : Bool :=
  component.displayName != placeholderName

/-- The pool member that a further body field would follow. -/
def lastMember (component : Component) : String :=
  match component.body.getLast? with
  | some field => field.name
  | none => firstPredecessor

/-- The component with one more body field, which follows the last. -/
def pushBody (component : Component) (type name defaultValue : String) : Component :=
  { component with
    body := component.body ++
      [⟨type, name, defaultValue, component.lastMember, component.name, none, none⟩] }

def pushStub (component : Component) (outerType type lead name extra : String) : Component :=
  { component with
    stubs := component.stubs ++ [⟨outerType, type, lead, name, extra, component.name⟩] }

def hasField (component : Component) (name : String) : Bool :=
  component.body.any fun field => field.name == name

/-- The stub that supplies the field's initial value. -/
def stubOf? (component : Component) (field : BodyField) : Option StubField :=
  field.linkedStub.bind fun position => component.stubs[position]?

/-- The wire filters among the body fields, each with its id, in declaration order. -/
def wireFields (component : Component) : List (BodyField × Nat) :=
  component.body.filterMap fun field => field.wireId.map fun id => (field, id)

end Component

/-!
## Linking

Linking ties every body field to the first stub of its name and gives the wire filters, the fields
of one distinguished type, consecutive ids. The ids go on from one component to the next, so that
they are unique in a run.
-/

def firstStub? (stubs : List StubField) (name : String) : Option Nat :=
  stubs.findIdx? fun stub => stub.name == name

/-- The fields with their stubs and ids, the first id being `next`, and the id after the last. -/
def linkFields (stubs : List StubField) (wireType : String) (next : Nat) :
    List BodyField → List BodyField × Nat
  | [] => ([], next)
  | field :: rest =>
    let linked := { field with linkedStub := firstStub? stubs field.name }
    if field.type = wireType then
      let (fields, after) := linkFields stubs wireType (next + 1) rest
      ({ linked with wireId := some next } :: fields, after)
    else
      let (fields, after) := linkFields stubs wireType next rest
      (linked :: fields, after)

namespace Component

/-- The component with its fields linked, the first wire id being `next`, and the id after the
last. -/
def link (component : Component) (wireType : String) (next : Nat) : Component × Nat :=
  let (fields, after) := linkFields component.stubs wireType next component.body
  ({ component with body := fields }, after)

/-- The ids that linking gave to the fields of the wire type, as events. -/
def linkEvents (component : Component) (wireType : String) : List Event :=
  component.wireFields.filterMap fun (field, id) =>
    if field.type = wireType then some (.wireIdAssigned component.name field.name id) else none

end Component

end EntityCodegen
