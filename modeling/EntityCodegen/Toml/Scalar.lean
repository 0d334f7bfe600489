import EntityCodegen.Toml.Item

/-!
# TOML numbers, dates and truth values

The values that are written without quotes or brackets. Digits may be grouped by single underscores,
and a decimal number does not start with an idle zero.
-/

namespace EntityCodegen.Toml

/-- Whether the characters are groups of digits of a kind, with one underscore between two. -/
def areDigits (isDigit : Char → Bool) (cs : List Char) : Bool :=
  (cs.splitOn '_').all fun group => !group.isEmpty && group.all isDigit

def isWhole (cs : List Char) : Bool :=
  areDigits Char.isDigit cs && (cs.length == 1 || cs.head? != some '0')

/-- The number that grouped digits denote. -/
def digitsValue (base : Nat) (cs : List Char) : Nat :=
  (cs.filter fun c => c != '_').foldl (fun value c =>
    base * value + (if c.isDigit then c.toNat - '0'.toNat else c.toLower.toNat - 'a'.toNat + 10)) 0

/-- Splits off a sign; the flag says whether it is a minus. -/
def splitSign (cs : List Char) : Bool × List Char :=
  match cs with
  | '-' :: rest => (true, rest)
  | '+' :: rest => (false, rest)
  | _ => (false, cs)

def isHexDigit (c : Char) : Bool :=
  c.isDigit || ('a' ≤ c && c ≤ 'f') || ('A' ≤ c && c ≤ 'F')

/-- The integer, if it fits in 128 bits, with a sign if it is negative. -/
def boundedInteger? (negative : Bool) (magnitude : Nat) : Option Item :=
  if negative then
    if magnitude ≤ Nat.pow 2 127 then some (.integer (-(magnitude : Int))) else none
  else if magnitude < Nat.pow 2 128 then some (.integer magnitude) else none

def readInteger? (cs : List Char) : Option Item :=
  match cs with
  | '0' :: 'x' :: digits =>
    if areDigits isHexDigit digits then boundedInteger? false (digitsValue 16 digits) else none
  | '0' :: 'o' :: digits =>
    if areDigits (fun c => '0' ≤ c && c ≤ '7') digits then
      boundedInteger? false (digitsValue 8 digits)
    else none
  | '0' :: 'b' :: digits =>
    if areDigits (fun c => c == '0' || c == '1') digits then
      boundedInteger? false (digitsValue 2 digits)
    else none
  | _ =>
    let (negative, digits) := splitSign cs
    if isWhole digits then boundedInteger? negative (digitsValue 10 digits) else none

/-- The least number that rounds to an infinite double: half a step above the greatest finite
one. -/
def leastInfinite : Nat :=
  Nat.pow 2 1024 - Nat.pow 2 970

/-- Whether a number of the given digits and decimal exponent rounds to an infinite double. -/
def overflows (mantissa : Nat) (exponent : Int) : Bool :=
  let digits := (Nat.toDigits 10 mantissa).length
  if mantissa = 0 ∨ exponent + digits < 300 then false
  else if exponent + digits > 320 then true
  else if exponent < 0 then
    leastInfinite * Nat.pow 10 exponent.natAbs ≤ mantissa
  else leastInfinite ≤ mantissa * Nat.pow 10 exponent.natAbs

/-- Reads a floating point number with a fraction or an exponent. -/
def readDecimal? (cs : List Char) : Option Item :=
  let (_, unsigned) := splitSign cs
  let mantissa := unsigned.takeWhile fun c => c != 'e' && c != 'E'
  let exponentPart := unsigned.dropWhile fun c => c != 'e' && c != 'E'
  let whole := mantissa.takeWhile fun c => c != '.'
  let fractionPart := mantissa.dropWhile fun c => c != '.'
  let fraction := fractionPart.drop 1
  let (negative, exponent) := splitSign (exponentPart.drop 1)
  if fractionPart.isEmpty && exponentPart.isEmpty then none
  else if !isWhole whole then none
  else if !fractionPart.isEmpty && !areDigits Char.isDigit fraction then none
  else if !exponentPart.isEmpty && !areDigits Char.isDigit exponent then none
  else
    let shift : Int := digitsValue 10 exponent
    let places : Int := (fraction.filter fun c => c != '_').length
    let power := (if negative then -shift else shift) - places
    if overflows (digitsValue 10 (whole ++ fraction)) power then none
    else some (.float (String.ofList cs))

def readFloat? (cs : List Char) : Option Item :=
  let (_, unsigned) := splitSign cs
  if unsigned = "inf".toList ∨ unsigned = "nan".toList then some (.float (String.ofList cs))
  else readDecimal? cs

/-! ## Dates and times -/

/-- Reads a number of exactly the given count of digits, and gives what follows. -/
def readFixed? (count : Nat) (cs : List Char) : Option (Nat × List Char) :=
  if (cs.take count).length = count ∧ (cs.take count).all Char.isDigit then
    some (digitsValue 10 (cs.take count), cs.drop count)
  else none

def daysIn (year month : Nat) : Nat :=
  if month = 2 then
    if year % 4 = 0 ∧ (year % 100 ≠ 0 ∨ year % 400 = 0) then 29 else 28
  else if month = 4 ∨ month = 6 ∨ month = 9 ∨ month = 11 then 30
  else 31

def readDate? (cs : List Char) : Option (List Char) := do
  let (year, rest) ← readFixed? 4 cs
  let '-' :: rest := rest | none
  let (month, rest) ← readFixed? 2 rest
  let '-' :: rest := rest | none
  let (day, rest) ← readFixed? 2 rest
  if 1 ≤ month ∧ month ≤ 12 ∧ 1 ≤ day ∧ day ≤ daysIn year month then some rest else none

/-- Reads seconds and their fraction, if they are given, and gives what follows. -/
def readSeconds? (cs : List Char) : Option (List Char) :=
  match cs with
  | ':' :: rest => do
    let (second, rest) ← readFixed? 2 rest
    if 60 < second then none
    else
      match rest with
      | '.' :: rest =>
        if (rest.takeWhile Char.isDigit).isEmpty then none else some (rest.dropWhile Char.isDigit)
      | _ => some rest
  | _ => some cs

def readMinutes? (cs : List Char) : Option (List Char) := do
  let (hour, rest) ← readFixed? 2 cs
  let ':' :: rest := rest | none
  let (minute, rest) ← readFixed? 2 rest
  if hour ≤ 23 ∧ minute ≤ 59 then some rest else none

def readTime? (cs : List Char) : Option (List Char) := do
  readSeconds? (← readMinutes? cs)

/-- Whether the characters say how far a time is from the universal one, or nothing. -/
def isOffset (cs : List Char) : Bool :=
  match cs with
  | [] => true
  | ['Z'] | ['z'] => true
  | '+' :: rest | '-' :: rest => readMinutes? rest == some []
  | _ => false

def isDateTime (cs : List Char) : Bool :=
  match readDate? cs with
  | some [] => true
  | some (c :: rest) =>
    (c == 'T' || c == 't' || c == ' ') &&
      match readTime? rest with
      | some rest => isOffset rest
      | none => false
  | none => readTime? cs == some []

/-- Reads a value that is written without quotes or brackets. -/
def readScalar? (cs : List Char) : Option Item :=
  if cs = "true".toList then some (.boolean true)
  else if cs = "false".toList then some (.boolean false)
  else if isDateTime cs then some (.date (String.ofList cs))
  else
    match readInteger? cs with
    | some item => some item
    | none => readFloat? cs

end EntityCodegen.Toml
