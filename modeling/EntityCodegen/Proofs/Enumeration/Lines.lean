import EntityCodegen.Proofs.Enumeration.Reading

/-!
# Lines of enum files

`read_line_iff`: a line that is not blank is read as a declaration iff it is filled by a spelled
one, wherever in its file it stands. What it is read as is then the one declaration that fills it,
and any other line is refused as it stands in the file, but for the blanks at its ends.

The grammar has optional blanks next to each other, and digits are word characters, so a line could
be taken apart in more than one way. The parts of the declaration are the same in all of them
(`Fills.unique`), for the reader finds the parts of every way.
-/

namespace EntityCodegen

namespace Declaration

open Text (isBlank isWord Stops)

/-- The declaration is spelled on the line with nothing before the symbol and nothing left over. -/
inductive Fills : List Char → Declaration → Prop
  | line {symbol gap value gap' quoted : List Char} {digits description : Option String} :
      symbol ≠ [] → (∀ c ∈ symbol, isWord c) → Blanks gap → SpelledValue value digits →
      Blanks gap' → SpelledDescription quoted description →
      Fills (symbol ++ gap ++ value ++ gap' ++ quoted) ⟨String.ofList symbol, digits, description⟩

variable {raw : String} {cs : List Char} {declaration other : Declaration}

theorem Fills.spelled (h : Fills cs declaration) : Spelled cs declaration := by
  obtain ⟨hne, hword, hgap, hvalue, hgap', hquoted⟩ := h
  have hspelled := Spelled.line Blanks.nil hne hword hgap hvalue hgap' hquoted Blanks.nil
  rwa [List.nil_append, List.append_nil] at hspelled

theorem Spelled.fills (hhead : Stops isBlank cs) (hlast : Stops isBlank cs.reverse)
    (h : Spelled cs declaration) : Fills cs declaration := by
  obtain @⟨before, symbol, gap, value, gap', quoted, after, digits, description, hbefore, hne,
    hword, hgap, hvalue, hgap', hquoted, hafter⟩ := h
  have hnone : before = [] := by
    simp only [List.append_assoc] at hhead
    exact hbefore.eq_nil_of_stops hhead
  have hrest : after.reverse = [] := by
    rw [List.reverse_append] at hlast
    exact Blanks.eq_nil_of_stops (fun c hc => hafter c (List.mem_reverse.mp hc)) hlast
  rw [List.reverse_eq_nil_iff] at hrest
  rw [hnone, hrest, List.nil_append, List.append_nil]
  exact .line hne hword hgap hvalue hgap' hquoted

theorem spelled_trim_iff :
    Spelled (Text.trim raw).toList declaration ↔ Fills (Text.trim raw).toList declaration := by
  refine ⟨Spelled.fills ?_ ?_, Fills.spelled⟩ <;> rw [Text.toList_trim]
  · exact Text.stops_trimChars _
  · rw [Text.trimChars, List.reverse_reverse]
    exact Text.stops_dropWhile _

theorem Fills.unique (h : Fills (Text.trim raw).toList declaration)
    (h' : Fills (Text.trim raw).toList other) : declaration = other := by
  rw [← spelled_trim_iff, ← ofLine?_trim_eq_some_iff] at h h'
  exact Option.some.inj (h.symm.trans h')

end Declaration

namespace Enumeration

open Declaration (Fills)

/-- What a run does with a declaration, whatever the line that spells it. -/
def Partial.declare (state : Partial) (number : Nat) (declaration : Declaration) :
    Except DefinitionError Partial :=
  if declaration.symbol = reservedSymbol then
    .error (.reservedSymbol state.built.name number declaration.symbol)
  else if state.built.contains declaration.symbol then
    .error (.duplicateSymbol state.built.name number declaration.symbol)
  else
    match assign state.built.name state.next declaration with
    | .error error => .error error
    | .ok value =>
      .ok ⟨state.built.insert ⟨declaration.symbol, value,
        declaration.description.getD state.built.name⟩, nextValue? value⟩

/-- What a run makes of lines, the first of which has the number. -/
def readOn (number : Nat) (raws : List String) (state : Partial) : Except DefinitionError Partial :=
  (raws.zipIdx number).foldlM (fun state (raw, number) => addLine state raw number) state

variable {name content raw : String} {before after : List String} {state : Partial}

theorem result_read_eq_addLine (hlines : Text.lines content = before ++ raw :: after)
    (hbefore : readLines name before = .ok state) :
    (read name content).result = (do
      let next ← addLine state raw (before.length + 1)
      let last ← readOn (before.length + 2) after next
      return last.built) := by
  rw [readLines] at hbefore
  rw [result_read, hlines, readLines, List.zipIdx_append, List.foldlM_append, hbefore, ok_bind,
    List.zipIdx_cons, List.foldlM_cons, Nat.add_comm 1, bind_assoc]
  rfl

theorem result_read_eq_badDeclaration_iff (hlines : Text.lines content = before ++ raw :: after)
    (hbefore : readLines name before = .ok state) (hline : Text.trim raw ≠ "") :
    (read name content).result =
        .error (.badDeclaration name (before.length + 1) (Text.trim raw)) ↔
      ∀ declaration, ¬ Fills (Text.trim raw).toList declaration := by
  simp only [← Declaration.spelled_trim_iff]
  rw [result_read_eq_error_iff]
  constructor
  · rintro ⟨front, other, back, -, -, declarations, -, -, hfault⟩
    generalize hnumber : front.length + 1 = number at hfault
    generalize hother : Text.trim other = text at hfault
    generalize herror :
      DefinitionError.badDeclaration name (before.length + 1) (Text.trim raw) = error at hfault
    cases hfault <;> cases herror
    assumption
  · intro hnone
    obtain ⟨declarations, hspell, hreaches⟩ := readLines_eq_ok_iff.mp hbefore
    exact ⟨before, raw, after, hlines, hline, declarations, hspell, hreaches.progression,
      .malformed hnone⟩

/-- What becomes of a file at a line that its run comes to. -/
structure LineJudged (name content : String) (before : List String) (raw : String)
    (after : List String) (state : Partial) : Prop where
  /-- The line is refused, as it stands but for blanks at its ends, iff no declaration fills it. -/
  refused : (read name content).result =
      .error (.badDeclaration name (before.length + 1) (Text.trim raw)) ↔
    ¬ ∃ declaration, Fills (Text.trim raw).toList declaration
  unique : ∀ declaration other, Fills (Text.trim raw).toList declaration →
    Fills (Text.trim raw).toList other → declaration = other
  /-- From the line on, the run is that of the declaration which fills it. -/
  declared : ∀ declaration, Fills (Text.trim raw).toList declaration →
    (read name content).result = (do
      let next ← state.declare (before.length + 1) declaration
      let last ← readOn (before.length + 2) after next
      return last.built)

/-- **A line is read as a declaration iff one fills it**, wherever it stands, and then as that
one. -/
theorem read_line_iff (hlines : Text.lines content = before ++ raw :: after)
    (hbefore : readLines name before = .ok state) (hline : Text.trim raw ≠ "") :
    LineJudged name content before raw after state where
  refused := by
    rw [result_read_eq_badDeclaration_iff hlines hbefore hline, not_exists]
  unique declaration other h h' := h.unique h'
  declared declaration h := by
    rw [result_read_eq_addLine hlines hbefore,
      addLine_of_spelled hline (Declaration.spelled_trim_iff.mpr h)]
    rfl

/-- A line with wide blanks at its start, in front of its number and behind it, with zeros before
the number and with a comma in its description. -/
theorem read_line_iff_half :
    Text.lines "full\n\u2003half1=\u00a0007 , \"a, b\"\r\nrest" =
        ["full"] ++ "\u2003half1=\u00a0007 , \"a, b\"" :: ["rest"] ∧
      Text.trim "\u2003half1=\u00a0007 , \"a, b\"" ≠ "" ∧
      (∃ state, readLines "shape" ["full"] = .ok state ∧
        LineJudged "shape" "full\n\u2003half1=\u00a0007 , \"a, b\"\r\nrest" ["full"]
          "\u2003half1=\u00a0007 , \"a, b\"" ["rest"] state) ∧
      Fills (Text.trim "\u2003half1=\u00a0007 , \"a, b\"").toList
        ⟨"half1", some "007", some "a, b"⟩ := by
  have hlines : Text.lines "full\n\u2003half1=\u00a0007 , \"a, b\"\r\nrest" =
      ["full"] ++ "\u2003half1=\u00a0007 , \"a, b\"" :: ["rest"] := by decide +kernel
  have hline : Text.trim "\u2003half1=\u00a0007 , \"a, b\"" ≠ "" := by decide +kernel
  have hread : Declaration.ofLine? (Text.trim "\u2003half1=\u00a0007 , \"a, b\"") =
      some ⟨"half1", some "007", some "a, b"⟩ := by decide +kernel
  have hfull : ∃ state, readLines "shape" ["full"] = .ok state := ⟨_, rfl⟩
  obtain ⟨state, hbefore⟩ := hfull
  refine ⟨hlines, hline, ⟨state, hbefore, read_line_iff hlines hbefore hline⟩, ?_⟩
  exact Declaration.spelled_trim_iff.mp (Declaration.ofLine?_trim_eq_some_iff.mp hread)

end Enumeration

end EntityCodegen
