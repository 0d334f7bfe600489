import EntityCodegen.Proofs.Output.Enums
import EntityCodegen.Proofs.Text.Literals
import Mathlib.Algebra.Ring.Parity
import Mathlib.Data.List.DropRight

/-!
# Where a literal ends

`literals_enclosed`: a text that is escaped and put between quotes is read back by every reader of
literals, and what is left is what stands behind the closing quote, whatever that is. So two texts
are not escaped alike, and in the switches of an enumeration each case returns the text of its
symbol and nothing else.

The quote at which a literal ends is also told without a reader: a character is escaped iff an odd
number of backslashes stand right before it (`EscapesNext`). An escaped text ends in an even number
of them (`not_escapesNext_escapeChars`), however many backslashes the text ends in, so it does not
swallow the closing quote. A quote inside it is a quote of the text with one more backslash in front
(`exists_of_escapeChars_eq`), so it does not end the literal.
-/

namespace EntityCodegen

namespace Text

/-! ### Runs of backslashes -/

variable {cs before after : List Char} {c : Char}

/-- The characters end in a backslash that escapes what comes next. -/
def EscapesNext (cs : List Char) : Prop :=
  Odd (cs.rtakeWhile fun c => c = '\\').length

theorem not_escapesNext_nil : ¬ EscapesNext [] := by
  simp [EscapesNext]

theorem escapesNext_append_backslash : EscapesNext (cs ++ ['\\']) ↔ ¬ EscapesNext cs := by
  rw [EscapesNext, List.rtakeWhile_concat_pos _ _ _ (by decide), List.length_append,
    List.length_singleton, Nat.odd_add_one, EscapesNext]

theorem not_escapesNext_append (h : c ≠ '\\') : ¬ EscapesNext (cs ++ [c]) := by
  rw [EscapesNext, List.rtakeWhile_concat_neg _ _ _ (by simpa using h)]
  decide

/-- **An escaped text does not escape what comes next.** -/
theorem not_escapesNext_escapeChars (cs : List Char) : ¬ EscapesNext (escapeChars cs) := by
  -- the run at the end changes with the last character
  induction cs using List.reverseRecOn with
  | nil => exact not_escapesNext_nil
  | append_singleton cs c ih =>
    rw [escapeChars_append, escapeChars, escapeChars]
    by_cases hc : c = '\\' ∨ c = '"'
    · rw [if_pos hc, ← List.singleton_append, ← List.append_assoc]
      rcases hc with rfl | rfl
      · rw [escapesNext_append_backslash, escapesNext_append_backslash, not_not]
        exact ih
      · exact not_escapesNext_append (by decide)
    · rw [if_neg hc]
      exact not_escapesNext_append fun heq => hc (.inl heq)

/-! ### Quotes -/

theorem exists_of_escapeChars_eq (h : escapeChars cs = before ++ '"' :: after) :
    ∃ front back, cs = front ++ '"' :: back ∧ before = escapeChars front ++ ['\\'] ∧
      after = escapeChars back := by
  induction cs generalizing before with
  | nil => simp [escapeChars] at h
  | cons c cs ih =>
    rw [escapeChars] at h
    by_cases hc : c = '\\' ∨ c = '"'
    · rw [if_pos hc] at h
      -- the quote is behind the backslash that was just written, or further on
      rcases before with _ | ⟨backslash, _ | ⟨special, before⟩⟩
      · simp at h
      · simp only [List.cons_append, List.nil_append, List.cons.injEq] at h
        obtain ⟨rfl, rfl, rfl⟩ := h
        exact ⟨[], cs, rfl, rfl, rfl⟩
      · simp only [List.cons_append, List.cons.injEq] at h
        obtain ⟨rfl, rfl, h⟩ := h
        obtain ⟨front, back, rfl, rfl, rfl⟩ := ih h
        exact ⟨c :: front, back, rfl, by simp [escapeChars, hc], rfl⟩
    · rw [if_neg hc] at h
      rcases before with _ | ⟨plain, before⟩
      · cases h
        exact absurd (.inr rfl) hc
      · simp only [List.cons_append, List.cons.injEq] at h
        obtain ⟨rfl, h⟩ := h
        obtain ⟨front, back, rfl, rfl, rfl⟩ := ih h
        exact ⟨c :: front, back, rfl, by simp [escapeChars, hc], rfl⟩

theorem escapesNext_of_escapeChars_eq (h : escapeChars cs = before ++ '"' :: after) :
    EscapesNext before := by
  obtain ⟨front, -, -, rfl, -⟩ := exists_of_escapeChars_eq h
  exact escapesNext_append_backslash.mpr (not_escapesNext_escapeChars front)

/-- How a text stands in a literal that is followed by the rest. -/
structure Enclosed (text rest : String) : Prop where
  /-- Every reader reads the text and stops at the closing quote. -/
  read : ∀ reader : LiteralReader,
    reader.read (escape text ++ "\"" ++ rest).toList = some (text.toList, rest.toList)
  /-- The closing quote is not escaped. -/
  closed : ¬ EscapesNext (escape text).toList
  /-- A quote that is not escaped does not stand before the closing one. -/
  first : ∀ before after, (escape text ++ "\"" ++ rest).toList = before ++ '"' :: after →
    ¬ EscapesNext before → (escape text).toList <+: before

theorem toList_escape_quote (text rest : String) :
    (escape text ++ "\"" ++ rest).toList = escapeChars text.toList ++ '"' :: rest.toList := by
  simp

theorem enclosed (text rest : String) : Enclosed text rest where
  read reader := by
    rw [toList_escape_quote, reader.read_escapeChars_append, reader.read_quote]
    simp
  closed := by
    rw [toList_escape]
    exact not_escapesNext_escapeChars text.toList
  first before after h hfree := by
    rw [toList_escape_quote] at h
    rw [toList_escape]
    obtain ⟨inside, hbefore, -⟩ | ⟨inside, hbefore, hafter⟩ := List.append_eq_append_iff.mp h
    · exact ⟨inside, hbefore.symm⟩
    · cases inside with
      | nil => exact ⟨[], by simpa using hbefore⟩
      | cons quote inside =>
        rw [List.cons_append, List.cons.injEq] at hafter
        rw [← hafter.1] at hbefore
        exact absurd (escapesNext_of_escapeChars_eq hbefore) hfree

theorem escape_injective : Function.Injective escape := by
  intro text other h
  have hread := (enclosed text "").read strictReader
  rw [h, (enclosed other "").read strictReader, Option.some.injEq, Prod.mk.injEq] at hread
  exact String.toList_inj.mp hread.1.symm

end Text

namespace Output

/-! ### Switches -/

/-- What stands before the text in the case of a symbol. -/
def caseFront (enumeration : Enumeration) (symbol : Symbol) : String :=
  tab 1 ("case " ++ enumeration.name ++ "::" ++ symbol.name ++ ":") ++ "\n" ++ tab 2 "return \""

theorem exists_code_switchLines_eq {enumeration : Enumeration} {symbol : Symbol}
    (h : symbol ∈ enumeration.symbols) (function : String) (text : Symbol → String) :
    ∃ before after, code (switchLines enumeration function text) =
      before ++ caseFront enumeration symbol ++
        (Text.escape (text symbol) ++ "\"" ++ (";\n" ++ after)) := by
  obtain ⟨front, back, hsymbols⟩ := List.append_of_mem h
  have hcase : code (symbolCase enumeration.name (symbol.name, text symbol)) =
      caseFront enumeration symbol ++ (Text.escape (text symbol) ++ "\"" ++ ";\n") := by
    refine String.toList_inj.mp ?_
    simp [symbolCase, caseFront, code, tab, Text.literal]
  have hplaces (opening cases front text others closing : String) :
      opening ++ (cases ++ (front ++ (text ++ "\"" ++ ";\n") ++ others)) ++ closing =
        opening ++ cases ++ front ++ (text ++ "\"" ++ (";\n" ++ (others ++ closing))) := by
    simp only [String.append_assoc]
  rw [switchLines_eq, hsymbols, List.map_append, List.map_cons, List.flatMap_append,
    List.flatMap_cons]
  simp only [code_append, hcase, hplaces]
  exact ⟨_, _, rfl⟩

/-- **A literal ends at its closing quote**, whatever text it is made from and whatever stands behind
it; so different texts have different literals, and a switch returns the texts of its symbols. -/
theorem literals_enclosed :
    (∀ text rest, Text.Enclosed text rest) ∧
    Function.Injective Text.escape ∧
    ∀ (enumeration : Enumeration) (function : String) (text : Symbol → String),
      ∀ symbol ∈ enumeration.symbols, ∃ before after,
        code (switchLines enumeration function text) = before ++ caseFront enumeration symbol ++
          (Text.escape (text symbol) ++ "\"" ++ (";\n" ++ after)) :=
  ⟨Text.enclosed, Text.escape_injective, fun _ function text _ hsymbol =>
    exists_code_switchLines_eq hsymbol function text⟩

/-- The mode of a drive, described by a path with a backslash at its end. -/
def driveMode : Enumeration :=
  ⟨"mode", [⟨"boot", 0, "C:\\"⟩], by decide⟩

theorem literals_enclosed_path :
    Text.readLiteral? "C:\\\\\";\n".toList = some ("C:\\".toList, ";\n".toList) ∧
    ⟨"boot", 0, "C:\\"⟩ ∈ driveMode.symbols ∧
    ∃ before after, code (switchLines driveMode "get_enum_description" Symbol.description) =
      before ++ caseFront driveMode ⟨"boot", 0, "C:\\"⟩ ++
        ("C:\\\\" ++ "\"" ++ (";\n" ++ after)) := by
  obtain ⟨henclosed, -, hcases⟩ := literals_enclosed
  have hescape : Text.escape "C:\\" = "C:\\\\" := by decide
  have hread := (henclosed "C:\\" ";\n").read Text.strictReader
  have hboot : ⟨"boot", 0, "C:\\"⟩ ∈ driveMode.symbols := List.mem_singleton_self _
  have hcase := hcases driveMode "get_enum_description" Symbol.description _ hboot
  rw [hescape] at hread hcase
  exact ⟨hread, hboot, hcase⟩

end Output

end EntityCodegen
