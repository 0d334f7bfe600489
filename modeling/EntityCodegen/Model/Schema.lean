import EntityCodegen.Model.Component

/-!
# Enumerations and schemas

The enumerations of a run, and all that a run writes its files from.
-/

namespace EntityCodegen

/-!
## Enumerations

An enumeration is an ordered list of symbols with values and descriptions. No symbol occurs twice;
values may repeat, and then a look-up by value finds the earliest symbol.
-/

structure Symbol where
  name : String
  value : UInt32
  description : String
  deriving DecidableEq, Repr

/-- A named list of symbols with distinct names. -/
structure Enumeration where
  name : String
  symbols : List Symbol
  distinct : (symbols.map Symbol.name).Nodup
  deriving DecidableEq

namespace Enumeration

/-- The name of the generated member that stands for no symbol. -/
def reservedSymbol : String :=
  "invalid"

def reservedValue : Int :=
  -1

@[ext] theorem ext {e f : Enumeration} (hn : e.name = f.name) (hs : e.symbols = f.symbols) :
    e = f := by
  cases e; cases f; simp_all

def empty (name : String) : Enumeration :=
  ⟨name, [], List.nodup_nil⟩

def contains (enumeration : Enumeration) (symbol : String) : Bool :=
  enumeration.symbols.any fun entry => entry.name == symbol

theorem map_name_replace (symbols : List Symbol) (symbol : Symbol) :
    (symbols.map fun entry => if entry.name = symbol.name then symbol else entry).map Symbol.name =
      symbols.map Symbol.name := by
  rw [List.map_map]
  refine List.map_congr_left fun entry _ => ?_
  by_cases h : entry.name = symbol.name <;> simp [h]

theorem nodup_name_append {symbols : List Symbol} {symbol : Symbol}
    (hs : (symbols.map Symbol.name).Nodup) (h : symbol.name ∉ symbols.map Symbol.name) :
    ((symbols ++ [symbol]).map Symbol.name).Nodup := by
  rw [List.map_append, List.nodup_append]
  refine ⟨hs, by simp, fun a ha b hb => ?_⟩
  simp only [List.map_cons, List.map_nil, List.mem_singleton] at hb
  exact fun hab => h (by rw [← hb, ← hab]; exact ha)

/-- The enumeration with the symbol: in the place of the one of its name, or at the end. -/
def insert (enumeration : Enumeration) (symbol : Symbol) : Enumeration :=
  if h : symbol.name ∈ enumeration.symbols.map Symbol.name then
    { enumeration with
      symbols := enumeration.symbols.map fun entry =>
        if entry.name = symbol.name then symbol else entry
      distinct := by rw [map_name_replace]; exact enumeration.distinct }
  else
    { enumeration with
      symbols := enumeration.symbols ++ [symbol]
      distinct := nodup_name_append enumeration.distinct h }

def valueOf? (enumeration : Enumeration) (symbol : String) : Option UInt32 :=
  (enumeration.symbols.find? fun entry => entry.name == symbol).map Symbol.value

def nameOf? (enumeration : Enumeration) (value : UInt32) : Option String :=
  (enumeration.symbols.find? fun entry => entry.value == value).map Symbol.name

def descriptionOf? (enumeration : Enumeration) (value : UInt32) : Option String :=
  (enumeration.symbols.find? fun entry => entry.value == value).map Symbol.description

def size (enumeration : Enumeration) : Nat :=
  enumeration.symbols.length

def isEmpty (enumeration : Enumeration) : Bool :=
  enumeration.symbols.isEmpty

end Enumeration

/-!
## The schema of a run

All components and enumerations of one run, and the number of wire ids given out.
-/

/-- The model from which all files of a run are written. -/
structure Schema where
  components : List Component
  enumerations : List Enumeration
  wireIdCount : Nat
  deriving DecidableEq

namespace Schema

def component? (schema : Schema) (name : String) : Option Component :=
  schema.components.find? fun component => component.name == name

def enumeration? (schema : Schema) (name : String) : Option Enumeration :=
  schema.enumerations.find? fun enumeration => enumeration.name == name

end Schema

end EntityCodegen
