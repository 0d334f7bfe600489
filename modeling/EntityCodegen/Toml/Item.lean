/-!
# TOML items

What a TOML document holds, and how a document grows statement by statement. A key is given a value
once. A table may be opened by one header, and written out by dotted keys in one place; an array of
tables grows by one table with every header of its own.
-/

namespace EntityCodegen.Toml

/-- How a table came about. -/
inductive Origin where
  /-- A header named a table inside it. -/
  | implied
  /-- A header of its own opened it. -/
  | opened
  /-- Dotted keys wrote into it. -/
  | dotted
  deriving DecidableEq, Repr

/-- A TOML value, or a table that may still grow. -/
inductive Item where
  | text (value : String)
  | integer (value : Int)
  /-- A floating point number, as written. -/
  | float (digits : String)
  | boolean (value : Bool)
  /-- A date, a time or both, as written. -/
  | date (digits : String)
  | list (items : List Item)
  /-- A table between braces. -/
  | inline (entries : List (String × Item))
  | table (origin : Origin) (entries : List (String × Item))
  /-- An array of tables; the last one may still grow. -/
  | tables (earlier : List (List (String × Item))) (last : List (String × Item))

/-- The entries of a table, in the order in which the keys first appear. -/
abbrev Entries := List (String × Item)

namespace Entries

def replace (entries : Entries) (key : String) (item : Item) : Entries :=
  entries.map fun entry => if entry.1 = key then (key, item) else entry

/-- Changes the table that the headers' keys lead to. Tables on the way that are not there yet are
implied; of an array of tables, the last one is meant. -/
def within (change : Entries → Option Entries) : List String → Entries → Option Entries
  | [], entries => change entries
  | key :: path, entries =>
    match entries.lookup key with
    | none => do
      let inner ← within change path []
      return entries ++ [(key, .table .implied inner)]
    | some (.table origin inner) => do
      let inner ← within change path inner
      return replace entries key (.table origin inner)
    | some (.tables earlier last) => do
      let last ← within change path last
      return replace entries key (.tables earlier last)
    | some _ => none

/-- Gives a dotted key its value. The tables that the keys before the last lead to are written by
dotted keys only. -/
def assign (value : Item) : List String → Entries → Option Entries
  | [], _ => none
  | [key], entries =>
    match entries.lookup key with
    | none => some (entries ++ [(key, value)])
    | some _ => none
  | key :: path, entries =>
    match entries.lookup key with
    | none => do
      let inner ← assign value path []
      return entries ++ [(key, .table .dotted inner)]
    | some (.table .dotted inner) => do
      let inner ← assign value path inner
      return replace entries key (.table .dotted inner)
    | some (.table .implied inner) =>
      if path.length ≤ 1 then none
      else do
        let inner ← assign value path inner
        return replace entries key (.table .implied inner)
    | some (.tables earlier last) =>
      if path.length ≤ 1 then none
      else do
        let last ← assign value path last
        return replace entries key (.tables earlier last)
    | some _ => none

/-- Opens the table of a header's last key. -/
def openTable (key : String) (entries : Entries) : Option Entries :=
  match entries.lookup key with
  | none => some (entries ++ [(key, .table .opened [])])
  | some (.table .implied inner) => some (replace entries key (.table .opened inner))
  | some _ => none

/-- Opens a further table in the array of a header's last key. -/
def openItem (key : String) (entries : Entries) : Option Entries :=
  match entries.lookup key with
  | none => some (entries ++ [(key, .tables [] [])])
  | some (.tables earlier last) => some (replace entries key (.tables (earlier ++ [last]) []))
  | some _ => none

end Entries

end EntityCodegen.Toml
