import EntityCodegen.Text.Blank

/-!
# Lines of definition files

What a line of a definition file is, what it declares in a component file, and for which faults files
are refused.
-/

namespace EntityCodegen

/-!
## Lines

A line is trimmed and then cut into fields at the delimiter. Lines are numbered from one, blank ones
included.
-/

structure Line where
  /-- The line's place in its file, from one. -/
  number : Nat
  /-- The line without blanks at its ends. -/
  text : String
  /-- The pieces of the text between the delimiters. -/
  fields : List String
  deriving DecidableEq, Repr

namespace Line

/-- The text before the first delimiter. -/
def tag (line : Line) : String :=
  line.fields.headD ""

/-- Whether the line has nothing but blanks. -/
def isBlank (line : Line) : Bool :=
  line.text == ""

def read (delimiter : Char) (number : Nat) (raw : String) : Line :=
  let text := Text.trim raw
  ⟨number, text, Text.fields delimiter text⟩

def readAll (delimiter : Char) (content : String) : List Line :=
  ((Text.lines content).zipIdx 1).map fun (raw, number) => read delimiter number raw

end Line

/-!
## Kinds

The first field of a line in a component file is a tag that says what the line declares. Each kind
asks for a least number of fields, the tag included.
-/

/-- What a line of a component file declares. -/
inductive LineKind where
  | body
  | stub
  | depends
  | displayName
  deriving DecidableEq, Repr

namespace LineKind

/-- The tag that marks lines of the kind. -/
def tag : LineKind → String
  | body => "body"
  | stub => "stub"
  | depends => "depends"
  | displayName => "ui_name"

def all : List LineKind :=
  [body, stub, depends, displayName]

def ofTag? (tag : String) : Option LineKind :=
  all.find? fun kind => kind.tag == tag

/-- The least number of fields of a line of the kind, the tag included. -/
def minFields : LineKind → Nat
  | body => 4
  | stub => 6
  | depends => 1
  | displayName => 2

end LineKind

/-!
## Records

What one line of a component file declares, read from the line's fields by position.
-/

/-- A declaration in a component file. -/
inductive ComponentRecord where
  | body (type name defaultValue : String)
  | stub (outerType type lead name extra : String)
  | depends (names : List String)
  | displayName (text : String)
  deriving DecidableEq, Repr

namespace LineKind

/-- The record of the kind in the fields, or none where a field is missing. Fields after the last
that the kind uses are left alone. -/
def record? (kind : LineKind) (fields : List String) : Option ComponentRecord :=
  match kind with
  | body => do return .body (← fields[1]?) (← fields[2]?) (← fields[3]?)
  | stub => do
    return .stub (← fields[1]?) (← fields[2]?) (← fields[3]?) (← fields[4]?) (← fields[5]?)
  | depends => if fields.isEmpty then none else some (.depends (fields.drop 1))
  | displayName => do return .displayName (← fields[1]?)

end LineKind

/-!
## Faults

Why a set of definition files was refused. A fault names the file it was found in, and where the
line matters, the line's number from one and its text.
-/

/-- A fault in a definition file or between two of them. -/
inductive DefinitionError where
  /-- A line has fewer fields than its kind asks for. -/
  | shortLine (file : String) (line : Nat) (kind : LineKind) (found : Nat) (text : String)
  | unknownTag (file : String) (line : Nat) (tag text : String)
  /-- Two body fields of a component have one name. -/
  | duplicateField (file : String) (line : Nat) (field : String)
  /-- A line of an enum file declares no symbol. -/
  | badDeclaration (file : String) (line : Nat) (text : String)
  | duplicateSymbol (file : String) (line : Nat) (symbol : String)
  /-- A symbol has the name kept for the generated member. -/
  | reservedSymbol (file : String) (line : Nat) (symbol : String)
  /-- A symbol's value is not above the one before it. -/
  | decreasingValue (file symbol : String) (expected found : UInt32)
  /-- A symbol's value does not fit in 32 bits. -/
  | valueOutOfRange (file symbol value : String)
  | duplicateComponent (name : String)
  | duplicateEnum (name : String)
  deriving DecidableEq, Repr

namespace DefinitionError

def file : DefinitionError → String
  | shortLine file .. | unknownTag file .. | duplicateField file .. | badDeclaration file ..
  | duplicateSymbol file .. | reservedSymbol file .. | decreasingValue file ..
  | valueOutOfRange file .. => file
  | duplicateComponent name | duplicateEnum name => name

def message : DefinitionError → String
  | shortLine file line kind found text =>
    s!"Malformed `{kind.tag}` line in {file}:{line}: expected at least {kind.minFields} fields, " ++
      s!"found {found}: [{text}]"
  | unknownTag file line tag text => s!"Unknown line kind `{tag}` in {file}:{line}: [{text}]"
  | duplicateField file line field =>
    s!"Duplicate body field `{field}` in component {file} (line {line})"
  | badDeclaration file line text => s!"Syntax error in {file}:{line}: [{text}]"
  | duplicateSymbol file line symbol =>
    s!"Double field name `{symbol}` in enum {file} (line {line})"
  | reservedSymbol file line symbol =>
    s!"Reserved field name `{symbol}` in enum {file} (line {line})"
  | decreasingValue file symbol expected found =>
    s!"Not a monotonic progression in enum {file}: field `{symbol}` has value {found}, " ++
      s!"expected at least {expected}"
  | valueOutOfRange file symbol value =>
    s!"Value `{value}` for enum field `{symbol}` in {file} is out of range"
  | duplicateComponent name => s!"Duplicate component name `{name}`"
  | duplicateEnum name => s!"Duplicate enum name `{name}`"

end DefinitionError

end EntityCodegen
