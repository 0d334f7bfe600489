import EntityCodegen.Toml.Text

/-!
# Reading TOML

A document is read line by line: a header, a key with its value, or nothing, and perhaps a comment
behind. Lists and tables in brackets may go over several lines. The functions that read nested
values count down a bound that the length of the input sets, so they always end.
-/

namespace EntityCodegen.Toml

/-- Drops spaces, line ends and comments. Inside a comment the flag is set. -/
def skipGap? (inComment : Bool) : List Char → Option (List Char)
  | [] => some []
  | '\n' :: rest => skipGap? false rest
  | '\r' :: '\n' :: rest => skipGap? false rest
  | c :: rest =>
    if inComment then
      if isPlain c then skipGap? true rest else none
    else if isSpace c then skipGap? false rest
    else if c = '#' then skipGap? true rest
    else some (c :: rest)

/-- Drops what may stand at the end of a line, and the line's end. -/
def finishLine? (cs : List Char) : Option (List Char) :=
  let spaced := cs.dropWhile isSpace
  let after :=
    match spaced with
    | '#' :: comment => comment.dropWhile isPlain
    | _ => spaced
  match after with
  | [] => some []
  | '\n' :: rest => some rest
  | '\r' :: '\n' :: rest => some rest
  | _ => none

/-! ## Keys -/

/-- Whether a key without quotes may hold the character. -/
def isKeyChar (c : Char) : Bool :=
  c.isAlphanum || c == '_' || c == '-'

/-- Reads one key, and gives what follows. -/
def readKey? (cs : List Char) : Option (String × List Char) :=
  match readShortText? cs with
  | some result => some result
  | none =>
    if (cs.takeWhile isKeyChar).isEmpty then none
    else some (String.ofList (cs.takeWhile isKeyChar), cs.dropWhile isKeyChar)

/-- Reads keys with dots between them, and gives what follows. -/
def readKeys? : Nat → List Char → Option (List String × List Char)
  | 0, _ => none
  | bound + 1, cs => do
    let (key, rest) ← readKey? cs
    match rest.dropWhile isSpace with
    | '.' :: rest => do
      let (keys, rest) ← readKeys? bound (rest.dropWhile isSpace)
      return (key :: keys, rest)
    | rest => return ([key], rest)

/-- Reads keys and the equals sign behind them, and gives what follows. -/
def readAssignment? (cs : List Char) : Option (List String × List Char) := do
  let (keys, rest) ← readKeys? (cs.length + 1) cs
  let '=' :: rest := rest | none
  return (keys, rest.dropWhile isSpace)

/-! ## Values -/

/-- Whether a value without quotes may hold the character. -/
def isScalarChar (c : Char) : Bool :=
  c.isAlphanum || c == '_' || c == '-' || c == '+' || c == '.' || c == ':'

/-- Splits off the characters of a value without quotes. Between a date and a time there may be a
space. -/
def splitScalar (cs : List Char) : List Char × List Char :=
  let first := cs.takeWhile isScalarChar
  let rest := cs.dropWhile isScalarChar
  match rest with
  | ' ' :: c :: after =>
    if readDate? first = some [] ∧ c.isDigit then
      (first ++ ' ' :: (c :: after).takeWhile isScalarChar, (c :: after).dropWhile isScalarChar)
    else (first, rest)
  | _ => (first, rest)

mutual

def readItem? : Nat → List Char → Option (Item × List Char)
  | 0, _ => none
  | bound + 1, cs =>
    match cs with
    | '[' :: rest => do
      let rest ← skipGap? false rest
      let (items, rest) ← readItems? bound rest
      return (.list items, rest)
    | '\x7b' :: rest => do
      let rest ← skipGap? false rest
      let (entries, rest) ← readEntries? bound [] rest
      return (.inline entries, rest)
    | '"' :: _ | '\x27' :: _ => do
      let (text, rest) ← readText? cs
      return (.text text, rest)
    | _ => do
      let item ← readScalar? (splitScalar cs).1
      return (item, (splitScalar cs).2)

/-- Reads the rest of a list, and gives what follows. -/
def readItems? : Nat → List Char → Option (List Item × List Char)
  | 0, _ => none
  | bound + 1, cs =>
    match cs with
    | ']' :: rest => some ([], rest)
    | _ => do
      let (item, rest) ← readItem? bound cs
      match ← skipGap? false rest with
      | ']' :: rest => return ([item], rest)
      | ',' :: rest => do
        let (items, rest) ← readItems? bound (← skipGap? false rest)
        return (item :: items, rest)
      | _ => none

/-- Reads the rest of a table in braces behind the given entries, and gives what follows. -/
def readEntries? : Nat → Entries → List Char → Option (Entries × List Char)
  | 0, _, _ => none
  | bound + 1, entries, cs =>
    match cs with
    | '\x7d' :: rest => some (entries, rest)
    | _ => do
      let (keys, rest) ← readAssignment? cs
      let (item, rest) ← readItem? bound rest
      let entries ← Entries.assign item keys entries
      match ← skipGap? false rest with
      | '\x7d' :: rest => return (entries, rest)
      | ',' :: rest => readEntries? bound entries (← skipGap? false rest)
      | _ => none

end

/-! ## Documents -/

/-- Reads the keys of a header up to the given closing brackets, and gives what follows. -/
def readHeader? (closing : List Char) (cs : List Char) : Option (List String × List Char) := do
  let (keys, rest) ← readKeys? (cs.length + 1) (cs.dropWhile isSpace)
  if closing.isPrefixOf rest then return (keys, rest.drop closing.length) else none

/-- Changes the document in the table that all keys but the last lead to. -/
def changeLast? (change : String → Entries → Option Entries) (keys : List String)
    (root : Entries) : Option Entries := do
  let key ← keys.getLast?
  Entries.within (change key) keys.dropLast root

/-- Reads the lines of a document behind the given entries; new keys go to the table at `path`. -/
def readLines? : Nat → Entries → List String → List Char → Option Entries
  | 0, _, _, _ => none
  | bound + 1, root, path, cs =>
    match cs.dropWhile isSpace with
    | [] => some root
    | '[' :: '[' :: rest => do
      let (keys, rest) ← readHeader? [']', ']'] rest
      let root ← changeLast? Entries.openItem keys root
      readLines? bound root keys (← finishLine? rest)
    | '[' :: rest => do
      let (keys, rest) ← readHeader? [']'] rest
      let root ← changeLast? Entries.openTable keys root
      readLines? bound root keys (← finishLine? rest)
    | '#' :: rest => do
      readLines? bound root path (← finishLine? ('#' :: rest))
    | '\n' :: rest => readLines? bound root path rest
    | '\r' :: '\n' :: rest => readLines? bound root path rest
    | line => do
      let (keys, rest) ← readAssignment? line
      let (item, rest) ← readItem? (2 * rest.length + 2) rest
      let root ← Entries.within (Entries.assign item keys) path root
      readLines? bound root path (← finishLine? rest)

/-- Reads a document. A byte order mark at its front does not count. -/
def read? (text : String) : Option Entries :=
  let cs :=
    match text.toList with
    | '\uFEFF' :: rest => rest
    | cs => cs
  readLines? (cs.length + 1) [] [] cs

end EntityCodegen.Toml
