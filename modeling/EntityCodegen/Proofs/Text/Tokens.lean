import EntityCodegen.Definition.Line
import EntityCodegen.Proofs.Text.Layout

/-!
# From a file to the fields of its lines

`readAll_lossless`: a file is read as one line for each of its lines, numbered from one, and nothing
is lost but the ends of lines and the blanks before them and in front. The fields of a line are the
one way to cut its text at the delimiter.

What the lines of a text are is said without the reader (`MadeOfLines`): they stand one below the
other, each with its end. A text is made of lines in one way, and the reader finds it
(`madeOfLines_iff`).
-/

namespace EntityCodegen

namespace Text

/-! ### Lines and their ends -/

/-- The text is the lines one below the other. A line ends with a line feed or with a carriage
return and a line feed. Only the last line may have no end, and then it is not empty. -/
inductive MadeOfLines : List Char → List (List Char) → Prop
  | nil : MadeOfLines [] []
  | unended {line : List Char} : line ≠ [] → '\n' ∉ line → MadeOfLines line [line]
  | feed {line rest : List Char} {lines : List (List Char)} : '\n' ∉ line →
      line.getLast? ≠ some '\r' → MadeOfLines rest lines →
      MadeOfLines (line ++ '\n' :: rest) (line :: lines)
  | returnFeed {line rest : List Char} {lines : List (List Char)} : '\n' ∉ line →
      MadeOfLines rest lines → MadeOfLines (line ++ '\r' :: '\n' :: rest) (line :: lines)

theorem MadeOfLines.eq_nil {cs : List Char} (h : MadeOfLines cs []) : cs = [] := by
  cases h
  rfl

theorem MadeOfLines.cons {c : Char} {cs line : List Char} {lines : List (List Char)}
    (h : MadeOfLines cs (line :: lines)) (hfeed : c ≠ '\n')
    (hend : ∀ rest, c = '\r' → cs ≠ '\n' :: rest) :
    MadeOfLines (c :: cs) ((c :: line) :: lines) := by
  have hfree {line : List Char} (hline : '\n' ∉ line) : '\n' ∉ c :: line := by
    rw [List.mem_cons, not_or]
    exact ⟨hfeed.symm, hline⟩
  cases h with
  | unended _ hline => exact .unended (List.cons_ne_nil _ _) (hfree hline)
  | @feed _ rest _ hline hlast hrest =>
    have hlast' : (c :: line).getLast? ≠ some '\r' := by
      cases line with
      | nil =>
        rw [List.getLast?_singleton, ne_eq, Option.some.injEq]
        exact fun hreturn => hend rest hreturn rfl
      | cons first line => rwa [List.getLast?_cons_cons]
    have hcons : MadeOfLines ((c :: line) ++ '\n' :: rest) ((c :: line) :: lines) :=
      .feed (hfree hline) hlast' hrest
    exact hcons
  | @returnFeed _ rest _ hline hrest =>
    have hcons : MadeOfLines ((c :: line) ++ '\r' :: '\n' :: rest) ((c :: line) :: lines) :=
      .returnFeed (hfree hline) hrest
    exact hcons

theorem madeOfLines_linesChars (cs : List Char) : MadeOfLines cs (linesChars cs) := by
  fun_induction linesChars cs with
  | case1 => exact .nil
  | case2 rest ih =>
    have hfeed : MadeOfLines ([] ++ '\n' :: rest) ([] :: linesChars rest) :=
      .feed (by simp) (by simp) ih
    exact hfeed
  | case3 rest ih =>
    have hreturn : MadeOfLines ([] ++ '\r' :: '\n' :: rest) ([] :: linesChars rest) :=
      .returnFeed (by simp) ih
    exact hreturn
  | case4 c rest hc _ hrest ih =>
    rw [hrest] at ih
    rw [ih.eq_nil]
    exact .unended (by simp) (by simpa using Ne.symm hc)
  | case5 c rest hc hreturn line lines hrest ih =>
    rw [hrest] at ih
    exact ih.cons hc fun after hcr heq => hreturn after hcr heq

theorem dropReturn_append_return (line : List Char) : dropReturn (line ++ ['\r']) = line := by
  induction line with
  | nil => rfl
  | cons c line ih => rw [List.cons_append, dropReturn_cons (by simp), ih]

theorem dropReturn_eq_self {line : List Char} (h : line.getLast? ≠ some '\r') :
    dropReturn line = line := by
  induction line with
  | nil => rfl
  | cons c line ih =>
    cases line with
    | nil => exact dropReturn_cons fun hc => absurd (congrArg some hc) h
    | cons second line =>
      rw [List.getLast?_cons_cons] at h
      rw [dropReturn_cons fun _ => List.cons_ne_nil _ _, ih h]

/-- **A text is made of lines in one way**, and these are the lines that are read. -/
theorem madeOfLines_iff {cs : List Char} {lines : List (List Char)} :
    MadeOfLines cs lines ↔ lines = linesChars cs := by
  constructor
  · intro h
    induction h with
    | nil => rfl
    | unended hne hline => rw [linesChars_of_not_mem hline, if_neg hne]
    | feed hline hlast _ ih =>
      rw [linesChars_append_newline _ hline, dropReturn_eq_self hlast, ih]
    | @returnFeed line rest _ hline _ ih =>
      have hreturn : '\n' ∉ line ++ ['\r'] := by simpa using hline
      have htext : line ++ '\r' :: '\n' :: rest = (line ++ ['\r']) ++ '\n' :: rest := by simp
      rw [htext, linesChars_append_newline _ hreturn, dropReturn_append_return, ih]
  · rintro rfl
    exact madeOfLines_linesChars cs

/-! ### Trimming -/

theorem exists_trimChars_eq (cs : List Char) : ∃ front back,
    (∀ c ∈ front, isBlank c) ∧ (∀ c ∈ back, isBlank c) ∧ cs = front ++ trimChars cs ++ back := by
  have hback := List.takeWhile_append_dropWhile (p := isBlank)
    (l := (cs.dropWhile isBlank).reverse)
  have hfront := List.takeWhile_append_dropWhile (p := isBlank) (l := cs)
  have hblank {c : Char} {cs : List Char} (hc : c ∈ cs.takeWhile isBlank) : isBlank c = true :=
    List.mem_takeWhile_imp hc
  refine ⟨cs.takeWhile isBlank, ((cs.dropWhile isBlank).reverse.takeWhile isBlank).reverse,
    fun c hc => hblank hc, fun c hc => hblank (List.mem_reverse.mp hc), ?_⟩
  rw [trimChars, List.append_assoc, ← List.reverse_append, hback, List.reverse_reverse, hfront]

theorem padded_trim {raw : String} (h : '\n' ∉ raw.toList) : Padded (trim raw) raw := by
  obtain ⟨front, back, hfront, hback, heq⟩ := exists_trimChars_eq raw.toList
  have hspace {blanks : List Char} (hblanks : ∀ c ∈ blanks, isBlank c)
      (hmem : blanks ⊆ raw.toList) : IsSpace (String.ofList blanks) := by
    intro c hc
    rw [String.toList_ofList] at hc
    exact ⟨hblanks c hc, fun hnewline => h (hnewline ▸ hmem hc)⟩
  have hfrontSpace : IsSpace (String.ofList front) := by
    refine hspace hfront ?_
    rw [heq]
    exact fun c hc => List.mem_append_left _ (List.mem_append_left _ hc)
  have hbackSpace : IsSpace (String.ofList back) := by
    refine hspace hback ?_
    rw [heq]
    exact fun c hc => List.mem_append_right _ hc
  have htext : raw = String.ofList front ++ trim raw ++ String.ofList back := by
    rw [← String.toList_inj]
    simpa using heq
  exact ⟨String.ofList front, String.ofList back, hfrontSpace, hbackSpace, htext⟩

/-! ### Fields -/

theorem head?_splitOn (c : Char) (cs : List Char) :
    (cs.splitOn c).head? = some (cs.takeWhile (· ≠ c)) := by
  induction cs with
  | nil => simp
  | cons first rest ih =>
    rw [List.splitOn_cons_eq_if_modifyHead]
    by_cases h : first = c
    · simp [h]
    · simp [h, ih]

theorem headD_fields (delimiter : Char) (text : String) :
    (fields delimiter text).headD "" = String.ofList (text.toList.takeWhile (· ≠ delimiter)) := by
  rw [fields, List.headD_eq_head?_getD, List.head?_map, head?_splitOn]
  rfl

end Text

namespace Line

open Text (MadeOfLines Padded Stops ofFields)

/-- What is read of a line, said by what it has in common with the line. -/
structure Faithful (delimiter : Char) (raw : String) (line : Line) : Prop where
  /-- The text is the line but for blanks at the ends. -/
  padded : Padded line.text raw
  /-- No blank is left in front. -/
  front : Stops Text.isBlank line.text.toList
  /-- No blank is left at the end. -/
  back : ∀ c, line.text.toList.getLast? = some c → Text.isBlank c = false
  fields_ne_nil : line.fields ≠ []
  delimiter_not_mem : ∀ field ∈ line.fields, delimiter ∉ field.toList
  joined : ofFields delimiter line.fields = line.text
  /-- The text is cut in one way. -/
  unique : ∀ others, others ≠ [] → (∀ field ∈ others, delimiter ∉ field.toList) →
    ofFields delimiter others = line.text → others = line.fields
  length_fields : line.fields.length = line.text.toList.count delimiter + 1
  tag : line.tag = String.ofList (line.text.toList.takeWhile (· ≠ delimiter))

theorem faithful_read (delimiter : Char) (number : Nat) {raw : String} (h : '\n' ∉ raw.toList) :
    Faithful delimiter raw (read delimiter number raw) := by
  constructor <;> simp only [tag, read]
  case padded => exact Text.padded_trim h
  case front =>
    rw [Text.toList_trim]
    exact Text.stops_trimChars raw.toList
  case back =>
    rw [Text.toList_trim]
    exact Text.not_isBlank_getLast?_trimChars raw.toList
  case fields_ne_nil => exact Text.fields_ne_nil delimiter (Text.trim raw)
  case delimiter_not_mem => exact fun field hfield => (Text.mem_fields hfield).1
  case joined => exact Text.ofFields_fields delimiter (Text.trim raw)
  case unique =>
    intro others hne hfree hjoined
    rw [← Text.fields_ofFields hne hfree, hjoined]
  case length_fields => exact Text.length_fields delimiter (Text.trim raw)
  case tag => exact Text.headD_fields delimiter (Text.trim raw)

/-- **Nothing is lost between a file and the fields of its lines**, whatever the file holds and
whatever the delimiter is. -/
theorem readAll_lossless (delimiter : Char) (content : String) :
    (∀ raws : List String, MadeOfLines content.toList (raws.map String.toList) ↔
      raws = Text.lines content) ∧
    (readAll delimiter content).map number = List.range' 1 (Text.lines content).length ∧
    List.Forall₂ (Faithful delimiter) (Text.lines content) (readAll delimiter content) := by
  refine ⟨fun raws => ?_, ?_, ?_⟩
  · rw [Text.madeOfLines_iff, Text.lines]
    constructor
    · intro h
      rw [← h]
      simp [Function.comp_def]
    · rintro rfl
      simp [Function.comp_def]
  · rw [readAll, List.map_map]
    exact List.zipIdx_map_snd 1 (Text.lines content)
  · have hlines : ((Text.lines content).zipIdx 1).map Prod.fst = Text.lines content :=
      List.zipIdx_map_fst 1 (Text.lines content)
    have hfaithful : List.Forall₂ (Faithful delimiter)
        (((Text.lines content).zipIdx 1).map Prod.fst) (readAll delimiter content) := by
      rw [readAll, List.forall₂_map_left_iff, List.forall₂_map_right_iff, List.forall₂_same]
      rintro ⟨raw, number⟩ hmem
      have hraw : raw ∈ Text.lines content := List.fst_mem_of_mem_zipIdx hmem
      exact faithful_read delimiter number (Text.newline_not_mem_of_mem_lines hraw)
    rwa [hlines] at hfaithful

/-- A file with all three ends of lines, cut at a delimiter that is a blank. -/
example : readAll ' ' "body  int \r\n\n x\ry" =
    [⟨1, "body  int", ["body", "", "int"]⟩, ⟨2, "", [""]⟩, ⟨3, "x\ry", ["x\ry"]⟩] := by
  decide

end Line

end EntityCodegen
