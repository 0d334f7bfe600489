import EntityCodegen.Definition.Line
import EntityCodegen.Model.Schema
import EntityCodegen.Text.Blank
import EntityCodegen.Traced

/-!
# Enum files

An enum file declares one enumeration, a symbol a line. Values strictly increase: a symbol without a
value takes the one after the symbol before it, and an explicit value may not be smaller than that.
A description that is left out is the enumeration's name.
-/

namespace EntityCodegen

/-!
## Symbol declarations

A line of an enum file is a symbol, then perhaps an equals sign and a number, then perhaps a comma
and a description in double quotes, with blanks allowed between any two of these.
-/

/-- What a line of an enum file declares. -/
structure Declaration where
  symbol : String
  /-- The digits of the value, as written. -/
  digits : Option String
  description : Option String
  deriving DecidableEq, Repr

namespace Declaration

open Text (isBlank isWord)

/-- Reads the value, if there is an equals sign, and gives what follows. -/
def readDigits? (cs : List Char) : Option (Option (List Char) × List Char) :=
  match cs.dropWhile isBlank with
  | '=' :: rest =>
    let number := rest.dropWhile isBlank
    if (number.takeWhile Char.isDigit).isEmpty then none
    else some (some (number.takeWhile Char.isDigit), number.dropWhile Char.isDigit)
  | _ => some (none, cs)

/-- Reads the description, if there is a comma, and gives what follows. -/
def readDescription? (cs : List Char) : Option (Option (List Char) × List Char) :=
  match cs.dropWhile isBlank with
  | ',' :: rest =>
    match rest.dropWhile isBlank with
    | '"' :: quoted =>
      match quoted.dropWhile (· ≠ '"') with
      | _ :: after => some (some (quoted.takeWhile (· ≠ '"')), after)
      | [] => none
    | _ => none
  | _ => some (none, cs)

/-- Reads a declaration from the characters of a trimmed line. -/
def ofChars? (cs : List Char) : Option Declaration :=
  if (cs.takeWhile isWord).isEmpty then none
  else
    match readDigits? (cs.dropWhile isWord) with
    | none => none
    | some (digits, rest) =>
      match readDescription? rest with
      | none => none
      | some (description, rest) =>
        if rest.all isBlank then
          some ⟨String.ofList (cs.takeWhile isWord), digits.map String.ofList,
            description.map String.ofList⟩
        else none

def ofLine? (line : String) : Option Declaration :=
  ofChars? line.toList

end Declaration

/-! ## Reading a file -/

/-- The value of the digits, if it fits in 32 bits. -/
def readValue? (digits : String) : Option UInt32 :=
  let value := Nat.ofDigitChars 10 digits.toList 0
  if value < UInt32.size then some (UInt32.ofNat value) else none

/-- The value after the given one, if there is one. -/
def nextValue? (value : UInt32) : Option UInt32 :=
  if value.toNat + 1 < UInt32.size then some (value + 1) else none

namespace Enumeration

/-- An enumeration that is being read. -/
structure Partial where
  built : Enumeration
  /-- The least value of the next symbol; none is left after the largest one. -/
  next : Option UInt32

def assign (file : String) (next : Option UInt32) (declaration : Declaration) :
    Except DefinitionError UInt32 :=
  match declaration.digits, next with
  | some digits, next =>
    match readValue? digits, next with
    | some value, some expected =>
      if value < expected then
        .error (.decreasingValue file declaration.symbol expected value)
      else .ok value
    | _, _ => .error (.valueOutOfRange file declaration.symbol digits)
  | none, some value => .ok value
  | none, none => .error (.valueOutOfRange file declaration.symbol (toString UInt32.size))

def addLine (state : Partial) (raw : String) (number : Nat) : Except DefinitionError Partial :=
  let file := state.built.name
  let line := Text.trim raw
  if line = "" then .ok state
  else
    match Declaration.ofLine? line with
    | none => .error (.badDeclaration file number line)
    | some declaration =>
      let symbol := declaration.symbol
      if symbol = reservedSymbol then .error (.reservedSymbol file number symbol)
      else if state.built.contains symbol then .error (.duplicateSymbol file number symbol)
      else
        match assign file state.next declaration with
        | .error error => .error error
        | .ok value =>
          .ok ⟨state.built.insert ⟨symbol, value, declaration.description.getD file⟩,
            nextValue? value⟩

def ofContent (name content : String) : Except DefinitionError Enumeration := do
  let state ← ((Text.lines content).zipIdx 1).foldlM (fun state (raw, number) =>
    addLine state raw number) ⟨empty name, some 0⟩
  return state.built

def read (name content : String) : Traced DefinitionError Enumeration := do
  let enumeration ← Traced.ofExcept (ofContent name content)
  Traced.report (.enumRead name enumeration.size)
  pure enumeration

end Enumeration

end EntityCodegen
