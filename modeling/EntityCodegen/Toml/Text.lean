import EntityCodegen.Toml.Scalar

/-!
# TOML texts

Texts in quotes. Between double quotes a backslash starts an escape; between single quotes all
characters stand for themselves. Three quotes start a text over several lines, whose first line feed
does not count if it comes at once.
-/

namespace EntityCodegen.Toml

/-- Whether a comment or a text may hold the character. -/
def isPlain (c : Char) : Bool :=
  c == '\t' || (0x20 ≤ c.toNat && c.toNat != 0x7F)

def isSpace (c : Char) : Bool :=
  c == ' ' || c == '\t'

def charOf? (codePoint : Nat) : Option Char :=
  if h : codePoint.isValidChar then some (Char.ofNatAux codePoint h) else none

/-- The character that hexadecimal digits denote, if they are digits and there is one. -/
def charOfHex? (digits : List Char) : Option Char :=
  if digits.all isHexDigit then charOf? (digitsValue 16 digits) else none

/-- The character that an escape of one letter denotes. -/
def letterEscape? : Char → Option Char
  | 'b' => some '\x08'
  | 't' => some '\t'
  | 'n' => some '\n'
  | 'f' => some '\x0c'
  | 'r' => some '\r'
  | 'e' => some '\x1b'
  | '"' => some '"'
  | '\\' => some '\\'
  | _ => none

/-- The number of hexadecimal digits that an escape takes. -/
def hexEscapeSize? : Char → Option Nat
  | 'x' => some 2
  | 'u' => some 4
  | 'U' => some 8
  | _ => none

/-- Reads an escape behind its backslash, and gives what follows. -/
def readEscape? : List Char → Option (Char × List Char)
  | [] => none
  | letter :: rest =>
    match letterEscape? letter, hexEscapeSize? letter with
    | some c, _ => some (c, rest)
    | none, some size =>
      if size ≤ rest.length then (charOfHex? (rest.take size)).map fun c => (c, rest.drop size)
      else none
    | none, none => none

theorem length_of_readEscape? {cs rest : List Char} {c : Char}
    (h : readEscape? cs = some (c, rest)) : rest.length < cs.length := by
  unfold readEscape? at h
  split at h
  · simp at h
  · split at h
    · simp at h
      simp [h.2]
    · split at h
      · obtain ⟨_, _, heq⟩ := Option.map_eq_some_iff.1 h
        rw [← (Prod.mk.inj heq).2]
        simp only [List.length_drop, List.length_cons]
        omega
      · simp at h
    · simp at h

/-- Reads the rest of a text in double quotes, and gives what follows it. -/
def readBasic? (cs : List Char) : Option (List Char × List Char) :=
  match cs with
  | [] => none
  | '"' :: rest => some ([], rest)
  | '\\' :: rest =>
    match _h : readEscape? rest with
    | some (c, after) => (readBasic? after).map fun (text, left) => (c :: text, left)
    | none => none
  | c :: rest =>
    if isPlain c then (readBasic? rest).map fun (text, left) => (c :: text, left) else none
termination_by cs.length
decreasing_by
  · have := length_of_readEscape? _h
    simp only [List.length_cons] at this ⊢
    omega
  · simp

/-- Reads the rest of a text in single quotes, and gives what follows it. -/
def readLiteral? : List Char → Option (List Char × List Char)
  | [] => none
  | '\x27' :: rest => some ([], rest)
  | c :: rest =>
    if isPlain c then (readLiteral? rest).map fun (text, left) => (c :: text, left) else none

def dropFeed : List Char → List Char
  | '\n' :: rest => rest
  | '\r' :: '\n' :: rest => rest
  | cs => cs

/-- Splits off the at most two quotes that belong to a text although its end has begun. -/
def splitQuotes (quote : Char) : List Char → List Char × List Char
  | a :: b :: rest =>
    if a = quote ∧ b = quote then ([quote, quote], rest)
    else if a = quote then ([quote], b :: rest)
    else ([], a :: b :: rest)
  | [a] => if a = quote then ([quote], []) else ([], [a])
  | [] => ([], [])

def dropGap : List Char → List Char
  | '\r' :: '\n' :: rest => dropGap rest
  | c :: rest => if isSpace c ∨ c = '\n' then dropGap rest else c :: rest
  | [] => []

theorem length_dropGap (cs : List Char) : (dropGap cs).length ≤ cs.length := by
  fun_induction dropGap cs <;> simp_all <;> omega

/-- What follows a backslash at the end of a line: the text behind the gap, if there is nothing but
spaces before the line's end. -/
def continueLine? (cs : List Char) : Option (List Char) :=
  match cs.dropWhile isSpace with
  | '\n' :: rest => some (dropGap rest)
  | '\r' :: '\n' :: rest => some (dropGap rest)
  | _ => none

theorem length_of_continueLine? {cs rest : List Char} (h : continueLine? cs = some rest) :
    rest.length ≤ cs.length := by
  have hd := (List.dropWhile_sublist (l := cs) isSpace).length_le
  unfold continueLine? at h
  split at h
  · next feed after heq =>
    have := length_dropGap after
    have hl := congrArg List.length heq
    simp at h hl
    subst h
    omega
  · next after heq =>
    have := length_dropGap after
    have hl := congrArg List.length heq
    simp at h hl
    subst h
    omega
  · simp at h

/-- Reads the rest of a text in three double quotes, and gives what follows it. -/
def readLongBasic? (cs : List Char) : Option (List Char × List Char) :=
  match cs with
  | [] => none
  | '"' :: '"' :: '"' :: rest => some (splitQuotes '"' rest)
  | '\\' :: rest =>
    match _h : readEscape? rest with
    | some (c, after) => (readLongBasic? after).map fun (text, left) => (c :: text, left)
    | none =>
      match _h : continueLine? rest with
      | some after => readLongBasic? after
      | none => none
  | '\r' :: '\n' :: rest =>
    (readLongBasic? rest).map fun (text, left) => ('\r' :: '\n' :: text, left)
  | c :: rest =>
    if isPlain c ∨ c = '\n' then (readLongBasic? rest).map fun (text, left) => (c :: text, left)
    else none
termination_by cs.length
decreasing_by
  · have := length_of_readEscape? _h
    simp only [List.length_cons] at this ⊢
    omega
  · have := length_of_continueLine? _h
    simp only [List.length_cons] at this ⊢
    omega
  · simp only [List.length_cons]
    omega
  · simp

/-- Reads the rest of a text in three single quotes, and gives what follows it. -/
def readLongLiteral? : List Char → Option (List Char × List Char)
  | [] => none
  | '\x27' :: '\x27' :: '\x27' :: rest => some (splitQuotes '\x27' rest)
  | '\r' :: '\n' :: rest =>
    (readLongLiteral? rest).map fun (text, left) => ('\r' :: '\n' :: text, left)
  | c :: rest =>
    if isPlain c ∨ c = '\n' then (readLongLiteral? rest).map fun (text, left) => (c :: text, left)
    else none

/-- Reads a text on one line, and gives what follows it. -/
def readShortText? : List Char → Option (String × List Char)
  | '"' :: rest => (readBasic? rest).map fun (text, left) => (String.ofList text, left)
  | '\x27' :: rest => (readLiteral? rest).map fun (text, left) => (String.ofList text, left)
  | _ => none

/-- Reads a text in quotes, and gives what follows it. -/
def readText? (cs : List Char) : Option (String × List Char) :=
  match cs with
  | '"' :: '"' :: '"' :: rest =>
    (readLongBasic? (dropFeed rest)).map fun (text, left) => (String.ofList text, left)
  | '\x27' :: '\x27' :: '\x27' :: rest =>
    (readLongLiteral? (dropFeed rest)).map fun (text, left) => (String.ofList text, left)
  | _ => readShortText? cs

end EntityCodegen.Toml
