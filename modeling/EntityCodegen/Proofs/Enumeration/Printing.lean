import EntityCodegen.Proofs.Enumeration.Reading

/-!
# Writing an enumeration down

`exists_content_iff`: an enumeration is read from some file iff its names are words other than the
reserved one, its values increase strictly and each description is the enumeration's name or can
stand in double quotes on a line (`Expressible`); and then it is read from the file that `print`
makes of it.

A written line spells its symbol's declaration (`Symbol.spelled_line`) and is trimmed. Declarations
of expressible symbols are a progression (`progression_declaration`) that lists the enumeration, so
the written file is read as the enumeration (`read_print`). Conversely, what is read is expressible:
a symbol is a word of the grammar, and a description has no quote because it stood between two and
no line feed because it stood on a line (`expressible_of_read`).
-/

namespace EntityCodegen

open Declaration (Blanks Spelled SpelledDescription SpelledValue Progression Follows counter
  numberOf valueFrom values)

namespace Symbol

/-! ### The line of a symbol -/

/-- What stands behind the value: nothing if the description is the file's name. -/
def quoted (file : String) (symbol : Symbol) : String :=
  if symbol.description = file then "" else ", \"" ++ symbol.description ++ "\""

/-- The line that declares the symbol in the file. -/
def line (file : String) (symbol : Symbol) : String :=
  symbol.name ++ " = " ++ toString symbol.value ++ symbol.quoted file

/-- What the symbol's line declares. -/
def declaration (file : String) (symbol : Symbol) : Declaration :=
  ⟨symbol.name, some (toString symbol.value),
    if symbol.description = file then none else some symbol.description⟩

/-- The symbol can be declared on a line of the file. -/
structure Expressible (file : String) (symbol : Symbol) : Prop where
  nonempty : symbol.name ≠ ""
  word : ∀ c ∈ symbol.name.toList, Text.isWord c
  unreserved : symbol.name ≠ Enumeration.reservedSymbol
  description : symbol.description = file ∨
    '"' ∉ symbol.description.toList ∧ '\n' ∉ symbol.description.toList

variable {file : String} {symbol : Symbol}

theorem toList_value (value : UInt32) :
    (toString value).toList = Nat.toDigits 10 value.toNat := by
  show (toString value.toNat).toList = _
  rw [Nat.toString_eq_repr, Nat.toList_repr]

theorem isDigit_of_mem_value {value : UInt32} {c : Char} (h : c ∈ (toString value).toList) :
    c.isDigit := by
  rw [toList_value] at h
  exact Nat.isDigit_of_mem_toDigits (by decide) (by decide) h

theorem value_ne_nil (value : UInt32) : (toString value).toList ≠ [] := by
  rw [toList_value]
  exact Nat.toDigits_ne_nil

theorem numberOf_value (value : UInt32) : numberOf (toString value) = value.toNat := by
  rw [numberOf, toList_value, Nat.ofDigitChars_ten_toDigits]

theorem toList_line (file : String) (symbol : Symbol) :
    (symbol.line file).toList = symbol.name.toList ++
      (' ' :: '=' :: ' ' :: ((toString symbol.value).toList ++ (symbol.quoted file).toList)) := by
  simp [line]

theorem spelledDescription_quoted (h : symbol.Expressible file) :
    SpelledDescription (symbol.quoted file).toList (symbol.declaration file).description := by
  rw [quoted, declaration]
  by_cases hfile : symbol.description = file
  · rw [if_pos hfile, if_pos hfile]
    exact .omitted
  · rw [if_neg hfile, if_neg hfile]
    have hgap : Blanks [' '] := by simp only [Blanks, List.mem_singleton, forall_eq]; decide
    have hspelled := SpelledDescription.given hgap (h.description.resolve_left hfile).1
    simpa using hspelled

theorem spelled_line (h : symbol.Expressible file) :
    Spelled (symbol.line file).toList (symbol.declaration file) := by
  have hgap : Blanks [' '] := by simp only [Blanks, List.mem_singleton, forall_eq]; decide
  have hname : symbol.name.toList ≠ [] := by simpa using h.nonempty
  have hvalue := SpelledValue.given hgap (value_ne_nil symbol.value) fun _ => isDigit_of_mem_value
  have hspelled :=
    Spelled.line .nil hname h.word hgap hvalue .nil (spelledDescription_quoted h) .nil
  simpa [toList_line, declaration] using hspelled

theorem newline_not_mem_line (h : symbol.Expressible file) :
    '\n' ∉ (symbol.line file).toList := by
  have hname : '\n' ∉ symbol.name.toList := fun hmem => by
    have hword := Text.isBlank_of_isWord (h.word _ hmem)
    cases hword
  have hvalue : '\n' ∉ (toString symbol.value).toList := fun hmem => by
    have hdigit := isDigit_of_mem_value hmem
    cases hdigit
  have hquoted : '\n' ∉ (symbol.quoted file).toList := by
    rw [quoted]
    by_cases hfile : symbol.description = file
    · simp [hfile]
    · simp [hfile, (h.description.resolve_left hfile).2]
  simp [toList_line, hname, hvalue, hquoted]

theorem trim_line (h : symbol.Expressible file) :
    Text.trim (symbol.line file) = symbol.line file := by
  obtain ⟨first, rest, hname⟩ := List.exists_cons_of_ne_nil
    (show symbol.name.toList ≠ [] by simpa using h.nonempty)
  have hfirst : Text.isBlank first = false :=
    Text.isBlank_of_isWord (h.word first (by simp [hname]))
  rw [← String.toList_inj, Text.toList_trim]
  refine Text.trimChars_eq_self (fun c hc => ?_) fun c hc => ?_
  · simp only [toList_line, hname, List.cons_append, List.head?_cons, Option.some.injEq] at hc
    rw [← hc, hfirst]
  · -- the last character is the closing quote, or a digit where nothing is quoted
    rw [toList_line, quoted] at hc
    by_cases hfile : symbol.description = file
    · have hline : symbol.name.toList ++ ' ' :: '=' :: ' ' :: (toString symbol.value).toList =
          (symbol.name.toList ++ [' ', '=', ' ']) ++ (toString symbol.value).toList := by simp
      rw [if_pos hfile, String.toList_empty, List.append_nil, hline,
        List.getLast?_append_of_ne_nil _ (value_ne_nil _)] at hc
      have hdigit := isDigit_of_mem_value (List.mem_of_getLast? hc)
      rw [Bool.eq_false_iff]
      intro hblank
      rw [Text.isDigit_of_isBlank hblank] at hdigit
      cases hdigit
    · simp [hfile, List.getLast?_append, List.getLast?_cons] at hc
      rw [← hc]
      decide

theorem line_ne_empty (file : String) (symbol : Symbol) : symbol.line file ≠ "" := by
  intro hline
  have hempty := congrArg String.toList hline
  simp [toList_line] at hempty

end Symbol

namespace Enumeration

/-! ### The file of an enumeration -/

/-- The file with one line for each symbol. -/
def print (enumeration : Enumeration) : String :=
  Text.ofLines (enumeration.symbols.map (Symbol.line enumeration.name))

/-- The enumeration can be declared by a file. That no symbol occurs twice is part of the type. -/
structure Expressible (enumeration : Enumeration) : Prop where
  symbols : ∀ symbol ∈ enumeration.symbols, symbol.Expressible enumeration.name
  increasing : enumeration.symbols.Pairwise fun symbol other => symbol.value < other.value

section
variable {file : String} {symbols : List Symbol} {enumeration : Enumeration}

theorem map_symbol_declaration (file : String) (symbols : List Symbol) :
    (symbols.map (Symbol.declaration file)).map Declaration.symbol = symbols.map Symbol.name := by
  rw [List.map_map]
  rfl

theorem values_declaration (file : String) (symbols : List Symbol) :
    values (symbols.map (Symbol.declaration file)) =
      symbols.map fun symbol => symbol.value.toNat := by
  induction symbols using List.reverseRecOn with
  | nil => rfl
  | append_singleton before symbol ih =>
    rw [List.map_append, List.map_singleton, Declaration.values_append_singleton, ih,
      List.map_append, List.map_singleton]
    simp [valueFrom, Symbol.declaration, Symbol.numberOf_value]

theorem progression_declaration (hsymbols : ∀ symbol ∈ symbols, symbol.Expressible file)
    (hdistinct : (symbols.map Symbol.name).Nodup)
    (hincreasing : symbols.Pairwise fun symbol other => symbol.value < other.value) :
    Progression (symbols.map (Symbol.declaration file)) := by
  induction symbols using List.reverseRecOn with
  | nil => exact Declaration.progression_nil
  | append_singleton before symbol ih =>
    rw [List.map_append, List.nodup_append] at hdistinct
    rw [List.pairwise_append] at hincreasing
    have hbefore := ih (fun other hother => hsymbols other (by simp [hother])) hdistinct.1
      hincreasing.1
    have hsymbol := hsymbols symbol (by simp)
    have hcounter : counter (before.map (Symbol.declaration file)) ≤ symbol.value.toNat := by
      refine Declaration.counter_le_of_forall fun value hvalue => ?_
      rw [values_declaration, List.mem_map] at hvalue
      obtain ⟨other, hother, rfl⟩ := hvalue
      exact UInt32.lt_iff_toNat_lt.mp (hincreasing.2.2 other hother symbol (by simp))
    have hnumber (digits : String) (hdigits : (symbol.declaration file).digits = some digits) :
        numberOf digits = symbol.value.toNat := by
      rw [← Option.some.inj hdigits, Symbol.numberOf_value]
    rw [List.map_append]
    refine Declaration.progression_append_iff.mpr ⟨hbefore, hsymbol.unreserved, ?_, ?_, ?_, ?_⟩
    · rw [map_symbol_declaration]
      exact fun hmem => hdistinct.2.2 _ hmem symbol.name (by simp) rfl
    · intro digits hdigits
      rw [hnumber digits hdigits]
      exact symbol.value.toNat_lt
    · intro digits hdigits
      rwa [hnumber digits hdigits]
    · exact hbefore.counter_le.2.mp (Nat.lt_of_le_of_lt hcounter symbol.value.toNat_lt)

theorem lists_declaration (enumeration : Enumeration) :
    Lists enumeration.name (enumeration.symbols.map (Symbol.declaration enumeration.name))
      enumeration := by
  refine ⟨rfl, (map_symbol_declaration _ _).symm, (values_declaration _ _).symm, ?_⟩
  rw [List.map_map]
  refine List.map_congr_left fun symbol _ => ?_
  by_cases hfile : symbol.description = enumeration.name <;> simp [Symbol.declaration, hfile]

theorem spell_print (h : enumeration.Expressible) :
    Spell (Text.lines enumeration.print)
      (enumeration.symbols.map (Symbol.declaration enumeration.name)) := by
  have hlines : nonblank (Text.lines enumeration.print) =
      enumeration.symbols.map (Symbol.line enumeration.name) := by
    rw [nonblank, print, Text.nonblank_lines_ofLines, List.map_map, List.filter_eq_self.mpr]
    · exact List.map_congr_left fun symbol hsymbol => Symbol.trim_line (h.symbols symbol hsymbol)
    · intro line hline
      obtain ⟨symbol, hsymbol, rfl⟩ := List.mem_map.mp hline
      rw [Function.comp_apply, Symbol.trim_line (h.symbols symbol hsymbol)]
      simpa using Symbol.line_ne_empty enumeration.name symbol
    · intro line hline
      obtain ⟨symbol, hsymbol, rfl⟩ := List.mem_map.mp hline
      exact Symbol.newline_not_mem_line (h.symbols symbol hsymbol)
  rw [Spell, hlines, List.forall₂_map_left_iff, List.forall₂_map_right_iff, List.forall₂_same]
  exact fun symbol hsymbol => Symbol.spelled_line (h.symbols symbol hsymbol)

/-- **A written file is read as the enumeration.** -/
theorem read_print (h : enumeration.Expressible) :
    (read enumeration.name enumeration.print).result = .ok enumeration :=
  result_read_eq_ok_iff.mpr ⟨_, spell_print h,
    progression_declaration h.symbols enumeration.distinct h.increasing,
    lists_declaration enumeration⟩

/-! ### What is read can be written -/

theorem Spell.exists_line {raws : List String} {declarations : List Declaration}
    {declaration : Declaration} (h : Spell raws declarations)
    (hmem : declaration ∈ declarations) :
    ∃ raw ∈ raws, Spelled (Text.trim raw).toList declaration := by
  have hspelled : ∃ line ∈ nonblank raws, Spelled line.toList declaration := by
    rw [Spell] at h
    generalize nonblank raws = lines at h
    induction h with
    | nil => cases hmem
    | cons hfirst _ ih =>
      rcases List.mem_cons.mp hmem with rfl | hmem
      · exact ⟨_, by simp, hfirst⟩
      · obtain ⟨line, hline, hspelled⟩ := ih hmem
        exact ⟨line, List.mem_cons_of_mem _ hline, hspelled⟩
  obtain ⟨line, hline, hspelled⟩ := hspelled
  obtain ⟨raw, hraw, rfl⟩ := List.mem_map.mp (List.mem_filter.mp hline).1
  exact ⟨raw, hraw, hspelled⟩

theorem Lists.exists_declaration {declarations : List Declaration} {symbol : Symbol}
    (h : Lists file declarations enumeration) (hsymbol : symbol ∈ enumeration.symbols) :
    ∃ declaration ∈ declarations, symbol.name = declaration.symbol ∧
      symbol.description = declaration.description.getD file := by
  obtain ⟨i, hi⟩ := List.mem_iff_getElem?.mp hsymbol
  have hname := congrArg (·[i]?) h.symbols
  have hdescription := congrArg (·[i]?) h.descriptions
  simp only [List.getElem?_map, hi, Option.map_some] at hname hdescription
  cases hdeclaration : declarations[i]? with
  | none => simp [hdeclaration] at hname
  | some declaration =>
    simp only [hdeclaration, Option.map_some, Option.some.injEq] at hname hdescription
    exact ⟨declaration, List.mem_of_getElem? hdeclaration, hname, hdescription⟩

theorem expressible_of_read {content : String}
    (h : (read enumeration.name content).result = .ok enumeration) : enumeration.Expressible := by
  obtain ⟨declarations, hspell, hprogression, hlists⟩ := result_read_eq_ok_iff.mp h
  constructor
  · intro symbol hsymbol
    obtain ⟨declaration, hmem, hname, hdescription⟩ := hlists.exists_declaration hsymbol
    obtain ⟨raw, hraw, hspelled⟩ := hspell.exists_line hmem
    refine ⟨?_, ?_, ?_, ?_⟩
    · rw [hname]
      exact hspelled.symbol_ne_empty
    · rw [hname]
      exact hspelled.isWord_of_mem_symbol
    · rw [hname]
      exact hprogression.unreserved declaration hmem
    · cases htext : declaration.description with
      | none => exact .inl (by rw [hdescription, htext, Option.getD_none])
      | some text =>
        obtain ⟨hquote, hline⟩ := hspelled.of_description htext
        rw [hdescription, htext, Option.getD_some]
        refine .inr ⟨hquote, fun hnewline => ?_⟩
        have hmem := hline _ hnewline
        rw [Text.toList_trim] at hmem
        exact Text.newline_not_mem_of_mem_lines hraw (Text.mem_of_mem_trimChars hmem)
  · have hvalues := hprogression.pairwise_values.1
    rw [← hlists.values, List.pairwise_map] at hvalues
    simpa only [UInt32.lt_iff_toNat_lt] using hvalues

end

/-- **Which enumerations a file can declare**: those whose symbols are words other than the reserved
one, with values that increase strictly and descriptions that are the enumeration's name or fit in
double quotes on a line. The file that `print` writes declares each of them. -/
theorem exists_content_iff (enumeration : Enumeration) :
    ((∃ content, (read enumeration.name content).result = .ok enumeration) ↔
      enumeration.Expressible) ∧
    (enumeration.Expressible ↔
      (read enumeration.name enumeration.print).result = .ok enumeration) := by
  have hread : (∃ content, (read enumeration.name content).result = .ok enumeration) →
      enumeration.Expressible := fun ⟨_, h⟩ => expressible_of_read h
  exact ⟨⟨hread, fun h => ⟨_, read_print h⟩⟩, read_print, fun h => hread ⟨_, h⟩⟩

end Enumeration

end EntityCodegen
