import EntityCodegen.Definition.Enumeration
import EntityCodegen.Proofs.Text.Lines
import EntityCodegen.Proofs.Text.Runs

/-!
# The grammar of symbol declarations

`Spelled` says, without a reader, which lines declare a symbol: a word, then perhaps an equals sign
and digits, then perhaps a comma and a quoted text, with blanks before, between and behind. A
trimmed line is read as a declaration iff it is spelled that way (`ofLine?_trim_eq_some_iff`), so a
line declares one thing at most.

The reader takes each part as the longest run of its class. It is exact because the classes of
neighbouring parts exclude each other: a part stops where the next one begins.
-/

namespace EntityCodegen

namespace Declaration

open Text (isBlank isWord Stops)

/-! ### The grammar -/

def Blanks (cs : List Char) : Prop :=
  ∀ c ∈ cs, isBlank c

theorem Blanks.nil : Blanks [] := by
  simp [Blanks]

theorem Blanks.eq_nil_of_stops {gap rest : List Char} (h : Blanks gap)
    (hstop : Stops isBlank (gap ++ rest)) : gap = [] := by
  cases gap with
  | nil => rfl
  | cons c gap =>
    have hc := hstop c rfl
    rw [h c List.mem_cons_self] at hc
    cases hc

/-- How the value of a symbol is spelled: not at all, or as digits behind an equals sign. -/
inductive SpelledValue : List Char → Option String → Prop
  | omitted : SpelledValue [] none
  | given {gap digits : List Char} : Blanks gap → digits ≠ [] → (∀ c ∈ digits, c.isDigit) →
      SpelledValue ('=' :: (gap ++ digits)) (some (String.ofList digits))

/-- How the description of a symbol is spelled: not at all, or in double quotes behind a comma. -/
inductive SpelledDescription : List Char → Option String → Prop
  | omitted : SpelledDescription [] none
  | given {gap text : List Char} : Blanks gap → '"' ∉ text →
      SpelledDescription (',' :: (gap ++ '"' :: (text ++ ['"']))) (some (String.ofList text))

/-- How a declaration is spelled. -/
inductive Spelled : List Char → Declaration → Prop
  | line {before symbol gap value gap' quoted after : List Char}
      {digits description : Option String} :
      Blanks before → symbol ≠ [] → (∀ c ∈ symbol, isWord c) →
      Blanks gap → SpelledValue value digits →
      Blanks gap' → SpelledDescription quoted description → Blanks after →
      Spelled (before ++ symbol ++ gap ++ value ++ gap' ++ quoted ++ after)
        ⟨String.ofList symbol, digits, description⟩

namespace Spelled

variable {cs : List Char} {declaration : Declaration}

theorem symbol_ne_empty (h : Spelled cs declaration) : declaration.symbol ≠ "" := by
  obtain ⟨-, hne, -⟩ := h
  intro hempty
  exact hne (by simpa using congrArg String.toList hempty)

theorem isWord_of_mem_symbol (h : Spelled cs declaration) :
    ∀ c ∈ declaration.symbol.toList, isWord c := by
  obtain ⟨-, -, hword, -⟩ := h
  rwa [String.toList_ofList]

theorem of_description {text : String} (h : Spelled cs declaration)
    (htext : declaration.description = some text) :
    '"' ∉ text.toList ∧ ∀ c ∈ text.toList, c ∈ cs := by
  obtain ⟨-, -, -, -, -, -, hquoted, -⟩ := h
  cases hquoted with
  | omitted => cases htext
  | given _ hfree =>
    cases htext
    rw [String.toList_ofList]
    exact ⟨hfree, fun c hc => by simp [hc]⟩

end Spelled

/-! ### What is read is spelled -/

section
variable {cs rest : List Char}

theorem blanks_takeWhile (cs : List Char) : Blanks (cs.takeWhile isBlank) :=
  fun _ hc => List.mem_takeWhile_imp hc

theorem eq_blanks_append (h : cs.dropWhile isBlank = rest) :
    ∃ gap, Blanks gap ∧ cs = gap ++ rest :=
  ⟨cs.takeWhile isBlank, blanks_takeWhile cs, by rw [← h, List.takeWhile_append_dropWhile]⟩

theorem spelledValue_of_readDigits? {digits : Option (List Char)}
    (h : readDigits? cs = some (digits, rest)) :
    ∃ gap value, Blanks gap ∧ SpelledValue value (digits.map String.ofList) ∧
      cs = gap ++ value ++ rest := by
  rw [readDigits?] at h
  split at h
  · next after hskip =>
    obtain ⟨gap, hgap, rfl⟩ := eq_blanks_append hskip
    have hnumber : ∃ inner, Blanks inner ∧ after = inner ++ after.dropWhile isBlank :=
      eq_blanks_append rfl
    obtain ⟨inner, hinner, hafter⟩ := hnumber
    simp only [Option.ite_none_left_eq_some, Option.some.injEq, Prod.mk.injEq] at h
    obtain ⟨hne, rfl, rfl⟩ := h
    refine ⟨gap, _, hgap, .given hinner (by simpa using hne)
      fun c hc => List.mem_takeWhile_imp hc, ?_⟩
    rw [List.append_assoc, List.cons_append, List.append_assoc, List.takeWhile_append_dropWhile,
      ← hafter]
  · rw [Option.some.injEq, Prod.mk.injEq] at h
    obtain ⟨rfl, rfl⟩ := h
    exact ⟨[], [], Blanks.nil, .omitted, rfl⟩

theorem spelledDescription_of_readDescription? {description : Option (List Char)}
    (h : readDescription? cs = some (description, rest)) :
    ∃ gap quoted, Blanks gap ∧ SpelledDescription quoted (description.map String.ofList) ∧
      cs = gap ++ quoted ++ rest := by
  rw [readDescription?] at h
  split at h
  · next after hskip =>
    obtain ⟨gap, hgap, rfl⟩ := eq_blanks_append hskip
    split at h
    · next quoted hopen =>
      obtain ⟨inner, hinner, rfl⟩ := eq_blanks_append hopen
      split at h
      · next mark behind hclose =>
        rw [Option.some.injEq, Prod.mk.injEq] at h
        obtain ⟨rfl, rfl⟩ := h
        have hmark : mark = '"' := by
          have hstop := Text.stops_dropWhile (p := (· ≠ '"')) quoted mark (by rw [hclose]; rfl)
          simpa using hstop
        have hquoted : quoted.takeWhile (· ≠ '"') ++ '"' :: behind = quoted := by
          rw [hmark] at hclose
          rw [← hclose, List.takeWhile_append_dropWhile]
        have hfree : '"' ∉ quoted.takeWhile (· ≠ '"') := fun hmem =>
          absurd (List.mem_takeWhile_imp hmem) (by simp)
        refine ⟨gap, _, hgap, .given hinner hfree, ?_⟩
        simp only [List.append_assoc, List.cons_append, List.nil_append, hquoted]
      · cases h
    · cases h
  · rw [Option.some.injEq, Prod.mk.injEq] at h
    obtain ⟨rfl, rfl⟩ := h
    exact ⟨[], [], Blanks.nil, .omitted, rfl⟩

theorem spelled_of_ofChars? {declaration : Declaration} (h : ofChars? cs = some declaration) :
    Spelled cs declaration := by
  rw [ofChars?, Option.ite_none_left_eq_some] at h
  obtain ⟨hsymbol, h⟩ := h
  split at h
  · cases h
  · next digits afterValue hdigits =>
    split at h
    · cases h
    · next description after hdescription =>
      rw [Option.ite_none_right_eq_some, Option.some.injEq] at h
      obtain ⟨hafter, rfl⟩ := h
      obtain ⟨gap, value, hgap, hvalue, hrest⟩ := spelledValue_of_readDigits? hdigits
      obtain ⟨gap', quoted, hgap', hquoted, rfl⟩ :=
        spelledDescription_of_readDescription? hdescription
      have hspelled := Spelled.line Blanks.nil (by simpa using hsymbol)
        (fun c hc => List.mem_takeWhile_imp hc) hgap hvalue hgap' hquoted
        (List.all_eq_true.mp hafter)
      have hcs : [] ++ cs.takeWhile isWord ++ gap ++ value ++ gap' ++ quoted ++ after = cs := by
        calc [] ++ cs.takeWhile isWord ++ gap ++ value ++ gap' ++ quoted ++ after
            = cs.takeWhile isWord ++ cs.dropWhile isWord := by
              simp only [hrest, List.nil_append, List.append_assoc]
          _ = cs := List.takeWhile_append_dropWhile
      rwa [hcs] at hspelled

end

/-! ### What is spelled is read -/

section
variable {gap part rest : List Char} {p : Char → Bool}

theorem stops_append_value (hblank : ∀ c, isBlank c → p c = false) (hmark : p '=' = false)
    {digits : Option String} (hgap : Blanks gap) (hpart : SpelledValue part digits)
    (hrest : Stops p rest) : Stops p (gap ++ part ++ rest) := by
  rw [List.append_assoc]
  refine Stops.append (fun c hc => hblank c (hgap c hc)) ?_
  cases hpart with
  | omitted => exact hrest
  | given => exact Stops.cons hmark

theorem stops_append_description (hblank : ∀ c, isBlank c → p c = false) (hmark : p ',' = false)
    {description : Option String} (hgap : Blanks gap) (hpart : SpelledDescription part description)
    (hrest : Blanks rest) : Stops p (gap ++ part ++ rest) := by
  rw [List.append_assoc]
  refine Stops.append (fun c hc => hblank c (hgap c hc)) ?_
  cases hpart with
  | omitted =>
    rw [List.nil_append, ← List.append_nil rest]
    exact Stops.append (fun c hc => hblank c (hrest c hc)) .nil
  | given => exact Stops.cons hmark

theorem dropWhile_gap (hgap : Blanks gap) {mark : Char} (hmark : isBlank mark = false) :
    (gap ++ mark :: rest).dropWhile isBlank = mark :: rest :=
  Text.dropWhile_run hgap (.cons hmark)

theorem Blanks.append {after : List Char} (hgap : Blanks gap) (hafter : Blanks after) :
    Blanks (gap ++ after) := by
  intro c hc
  rcases List.mem_append.mp hc with hc | hc
  · exact hgap c hc
  · exact hafter c hc

theorem dropWhile_description {description : Option String} (hgap : Blanks gap)
    (hpart : SpelledDescription part description) (hrest : Blanks rest) :
    (gap ++ part ++ rest).dropWhile isBlank = match description with
      | none => []
      | some _ => part ++ rest := by
  cases hpart with
  | omitted =>
    rw [List.append_nil]
    exact List.dropWhile_eq_nil_iff.mpr (hgap.append hrest)
  | given =>
    rw [List.append_assoc]
    exact dropWhile_gap hgap (by decide)

theorem readDigits?_omitted {cs : List Char} (h : ∀ after, cs.dropWhile isBlank ≠ '=' :: after) :
    readDigits? cs = some (none, cs) := by
  rw [readDigits?]
  split
  · next after hskip => exact absurd hskip (h after)
  · rfl

theorem readDigits?_given {inner digits : List Char} (hgap : Blanks gap) (hinner : Blanks inner)
    (hne : digits ≠ []) (hdigits : ∀ c ∈ digits, c.isDigit) (hrest : Stops Char.isDigit rest) :
    readDigits? (gap ++ '=' :: (inner ++ digits) ++ rest) = some (some digits, rest) := by
  obtain ⟨first, others, rfl⟩ := List.exists_cons_of_ne_nil hne
  have hnumber : (inner ++ (first :: others ++ rest)).dropWhile isBlank =
      first :: others ++ rest := by
    refine dropWhile_gap hinner ?_
    rw [Bool.eq_false_iff]
    intro hblank
    have hdigit := hdigits first (by simp)
    rw [Text.isDigit_of_isBlank hblank] at hdigit
    cases hdigit
  rw [readDigits?, List.append_assoc, List.cons_append, dropWhile_gap hgap (by decide)]
  simp only [List.append_assoc, hnumber, Text.takeWhile_run hdigits hrest,
    Text.dropWhile_run hdigits hrest]
  rfl

theorem readDescription?_of_spelled {description : Option String} (hgap : Blanks gap)
    (hpart : SpelledDescription part description) (hrest : Blanks rest) :
    ∃ read left, readDescription? (gap ++ part ++ rest) = some (read, left) ∧ Blanks left ∧
      read.map String.ofList = description := by
  have hskip := dropWhile_description hgap hpart hrest
  cases hpart with
  | omitted =>
    refine ⟨none, gap ++ [] ++ rest, ?_, ?_, rfl⟩
    · rw [readDescription?, hskip]
    · rw [List.append_nil]
      exact hgap.append hrest
  | @given inner text hinner htext =>
    refine ⟨some text, rest, ?_, hrest, rfl⟩
    have hopen : (inner ++ '"' :: (text ++ '"' :: rest)).dropWhile isBlank =
        '"' :: (text ++ '"' :: rest) := dropWhile_gap hinner (by decide)
    have hrun : ∀ c ∈ text, decide (c ≠ '"') := by
      intro c hc
      simpa using fun hquote : c = '"' => htext (hquote ▸ hc)
    have hstop : Stops (fun c => decide (c ≠ '"')) ('"' :: rest) := .cons (by simp)
    rw [readDescription?, hskip]
    simp only [List.cons_append, List.append_assoc, List.nil_append, hopen,
      Text.takeWhile_run hrun hstop, Text.dropWhile_run hrun hstop]

theorem readDigits?_of_spelled {value quoted gap' after : List Char}
    {digits description : Option String}
    (hgap : Blanks gap) (hvalue : SpelledValue value digits) (hgap' : Blanks gap')
    (hquoted : SpelledDescription quoted description) (hafter : Blanks after) :
    ∃ number gap'', readDigits? (gap ++ value ++ (gap' ++ quoted ++ after)) =
      some (number, gap'' ++ quoted ++ after) ∧ number.map String.ofList = digits ∧
      Blanks gap'' := by
  cases hvalue with
  | omitted =>
    have hline : gap ++ [] ++ (gap' ++ quoted ++ after) = (gap ++ gap') ++ quoted ++ after := by
      simp only [List.append_nil, List.append_assoc]
    refine ⟨none, gap ++ gap', ?_, rfl, hgap.append hgap'⟩
    rw [hline]
    refine readDigits?_omitted fun rest hskip => ?_
    rw [dropWhile_description (hgap.append hgap') hquoted hafter] at hskip
    cases hquoted with
    | omitted => cases hskip
    | given => cases hskip
  | @given inner digits hinner hne hdigits =>
    have hblank (c : Char) (hc : isBlank c) : c.isDigit = false := Text.isDigit_of_isBlank hc
    exact ⟨some digits, gap', readDigits?_given hgap hinner hne hdigits
      (stops_append_description hblank (by decide) hgap' hquoted hafter), rfl, hgap'⟩

theorem ofChars?_of_spelled {cs : List Char} {declaration : Declaration}
    (hhead : Stops isBlank cs) (h : Spelled cs declaration) : ofChars? cs = some declaration := by
  obtain @⟨before, symbol, gap, value, gap', quoted, after, digits, description, hbefore, hne,
    hsymbol, hgap, hvalue, hgap', hquoted, hafter⟩ := h
  have hnone : before = [] := by
    simp only [List.append_assoc] at hhead
    exact hbefore.eq_nil_of_stops hhead
  subst hnone
  have hword (c : Char) (hc : isBlank c) : isWord c = false := Text.isWord_of_isBlank hc
  have hline : [] ++ symbol ++ gap ++ value ++ gap' ++ quoted ++ after =
      symbol ++ (gap ++ value ++ (gap' ++ quoted ++ after)) := by
    simp only [List.nil_append, List.append_assoc]
  have hstop : Stops isWord (gap ++ value ++ (gap' ++ quoted ++ after)) :=
    stops_append_value hword (by decide +kernel) hgap hvalue
      (stops_append_description hword (by decide +kernel) hgap' hquoted hafter)
  obtain ⟨number, gap'', hnumber, rfl, hgap''⟩ := readDigits?_of_spelled hgap hvalue hgap' hquoted
    hafter
  obtain ⟨text, left, htext, hleft, rfl⟩ := readDescription?_of_spelled hgap'' hquoted hafter
  have hempty : symbol.isEmpty = false := by simpa using hne
  rw [hline, ofChars?, Text.takeWhile_run hsymbol hstop, Text.dropWhile_run hsymbol hstop, hempty,
    hnumber]
  simp only [Bool.false_eq_true, if_false, htext, List.all_eq_true.mpr hleft, if_true]

/-- **A trimmed line is read as a declaration iff it spells the declaration.** -/
theorem ofLine?_trim_eq_some_iff {raw : String} {declaration : Declaration} :
    ofLine? (Text.trim raw) = some declaration ↔ Spelled (Text.trim raw).toList declaration := by
  refine ⟨spelled_of_ofChars?, ofChars?_of_spelled ?_⟩
  rw [Text.toList_trim]
  exact Text.stops_trimChars _

end

end Declaration

end EntityCodegen
