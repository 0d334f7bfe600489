import EntityCodegen.Proofs.Component.Reading

/-!
# Which component files are refused

`read_refused_iff`: a component file is refused iff one of its lines breaks the rules, and then with
the fault of the first such line in the file.

What a line may not repeat can be read off the lines before it (`fieldNames_of_readLines`). So a run
fails at a line iff it gets there and the line breaks the rules (`readLines_eq_error_iff`), and it
gets to a line iff no line before breaks them (`readLines_eq_ok_iff`).
-/

namespace EntityCodegen

namespace Component

variable {options : ReadOptions} {name : String} {component : Component}

/-- The line `raw`, behind the lines `before` of the file, breaks the rules with the fault. -/
def FaultAt (options : ReadOptions) (file : String) (before : List String) (raw : String)
    (error : DefinitionError) : Prop :=
  (Line.read options.delimiter (before.length + 1) raw).isBlank = false ∧
    Offends options file (Line.bodyNames options.delimiter before)
      (Line.read options.delimiter (before.length + 1) raw) error

theorem readLines_eq_error_iff {raws : List String} {error : DefinitionError} :
    readLines options name raws = .error error ↔
      ∃ before raw after, raws = before ++ raw :: after ∧
        (∃ component, readLines options name before = .ok component) ∧
        FaultAt options name before raw error := by
  have hstep {before : List String} {raw : String} {component : Component}
      (h : readLines options name before = .ok component) :
      (addLine options component (Line.read options.delimiter (before.length + 1) raw)).result =
        .error error ↔ FaultAt options name before raw error := by
    rw [addLine_eq_error_iff, name_of_readLines h, fieldNames_of_readLines h, FaultAt]
  rw [readLines, foldlM_eq_error_iff]
  constructor
  · rintro ⟨before, line, after, component, hsplit, hbefore, hfail⟩
    obtain ⟨rawsBefore, raw, rawsAfter, rfl, rfl, rfl⟩ := Line.exists_of_readFrom_eq hsplit
    rw [Nat.add_comm] at hfail
    exact ⟨rawsBefore, raw, rawsAfter, rfl, ⟨component, hbefore⟩, (hstep hbefore).mp hfail⟩
  · rintro ⟨before, raw, after, rfl, ⟨component, hbefore⟩, hfault⟩
    refine ⟨Line.readFrom options.delimiter 1 before,
      Line.read options.delimiter (before.length + 1) raw,
      Line.readFrom options.delimiter (before.length + 2) after, component, ?_, hbefore,
      (hstep hbefore).mpr hfault⟩
    rw [Line.readFrom_append, Line.readFrom_cons]
    simp only [Nat.add_comm 1, Nat.add_assoc]

theorem file_of_read {content : String} {error : DefinitionError}
    (h : (read options name content).result = .error error) : error.file = name := by
  rw [result_read, readLines_eq_error_iff] at h
  obtain ⟨before, raw, after, -, -, -, hoffends⟩ := h
  cases hoffends <;> rfl

theorem readLines_eq_ok_iff {raws : List String} :
    (∃ component, readLines options name raws = .ok component) ↔
      ∀ before raw after error, raws = before ++ raw :: after →
        ¬ FaultAt options name before raw error := by
  constructor
  · rintro ⟨component, h⟩ before raw after error rfl hfault
    have hbefore : ∃ middle, readLines options name before = .ok middle := by
      rw [readLines, Line.readFrom_append, foldlM_append_eq_ok_iff] at h
      obtain ⟨middle, hmiddle, -⟩ := h
      exact ⟨middle, hmiddle⟩
    have hfail := readLines_eq_error_iff.mpr ⟨before, raw, after, rfl, hbefore, hfault⟩
    rw [h] at hfail
    cases hfail
  · intro hnone
    cases h : readLines options name raws with
    | ok component => exact ⟨component, rfl⟩
    | error error =>
      obtain ⟨before, raw, after, hsplit, -, hfault⟩ := readLines_eq_error_iff.mp h
      exact absurd hfault (hnone before raw after error hsplit)

theorem exists_recordOf?_of_readLines {raws : List String} {raw : String} {kind : LineKind}
    (h : readLines options name raws = .ok component) (hraw : raw ∈ raws)
    (hkind : Line.kindOf? options.delimiter raw = some kind) :
    ∃ record, Line.recordOf? options.delimiter raw = some record := by
  obtain ⟨before, after, rfl⟩ := List.append_of_mem hraw
  cases hrecord : Line.recordOf? options.delimiter raw with
  | some record => exact ⟨record, rfl⟩
  | none =>
    -- otherwise a field is missing, and the line would have been refused
    rw [Line.recordOf?_eq_bind, hkind, Option.bind_some, LineKind.record?_eq_none_iff] at hrecord
    have hblank : (Line.read options.delimiter (before.length + 1) raw).isBlank = false := by
      rw [← Bool.not_eq_true]
      intro hblank
      rw [Line.kindOf?_eq _ (before.length + 1), Line.ofTag?_read_of_isBlank hblank] at hkind
      cases hkind
    exact absurd ⟨hblank, .shortLine kind hkind hrecord⟩
      (readLines_eq_ok_iff.mp ⟨component, h⟩ before raw after _ rfl)

/-- A line that breaks no rule by itself. -/
structure Admitted (options : ReadOptions) (raw : String) : Prop where
  /-- A line with something on it has a known tag, or unknown tags are left out. -/
  known : Line.kindOf? options.delimiter raw = none →
    Text.trim raw = "" ∨ options.unknownLines ≠ .reject
  /-- A line with a known tag lacks no field. -/
  complete : Line.kindOf? options.delimiter raw ≠ none →
    Line.recordOf? options.delimiter raw ≠ none

theorem admitted_of_blank {raw : String} (h : Text.trim raw = "") : Admitted options raw := by
  have hkind : Line.kindOf? options.delimiter raw = none := Line.ofTag?_read_of_blank h
  exact ⟨fun _ => .inl h, fun hknown => absurd hkind hknown⟩

theorem admitted_congr {raw other : String} (h : Text.trim raw = Text.trim other)
    (hadmitted : Admitted options raw) : Admitted options other := by
  have hread : Line.read options.delimiter 1 raw = Line.read options.delimiter 1 other := by
    rw [Line.read, Line.read, h]
  obtain ⟨hknown, hcomplete⟩ := hadmitted
  rw [Line.kindOf?, hread] at hknown hcomplete
  rw [Line.recordOf?, hread] at hcomplete
  rw [h] at hknown
  exact ⟨hknown, hcomplete⟩

theorem Admitted.bodyNameOf?_eq {raw : String} (h : Admitted options raw) :
    Line.bodyNameOf? options.delimiter raw =
      (Line.recordOf? options.delimiter raw).bind ComponentRecord.fieldName? := by
  cases hkind : Line.kindOf? options.delimiter raw with
  | none =>
    rw [Line.recordOf?_eq_bind, hkind, Line.bodyNameOf?, Line.bodyName?, ← Line.kindOf?, hkind]
    rfl
  | some kind =>
    obtain ⟨record, hrecord⟩ := Option.ne_none_iff_exists'.mp (h.complete (by simp [hkind]))
    rw [hrecord, Option.bind_some]
    rw [Line.recordOf?_eq_bind, hkind, Option.bind_some] at hrecord
    exact (fieldName?_of_record? hkind hrecord).symm

theorem bodyNames_of_admitted {raws : List String} (h : ∀ raw ∈ raws, Admitted options raw) :
    Line.bodyNames options.delimiter raws =
      (Line.records options.delimiter raws).filterMap ComponentRecord.fieldName? := by
  induction raws with
  | nil => rfl
  | cons raw raws ih =>
    obtain ⟨hraw, hraws⟩ := List.forall_mem_cons.mp h
    have hrest := ih hraws
    rw [Line.bodyNames, Line.records] at hrest ⊢
    rw [List.filterMap_cons, hraw.bodyNameOf?_eq, List.filterMap_cons, hrest]
    cases Line.recordOf? options.delimiter raw with
    | none => rfl
    | some record => rw [Option.bind_some, List.filterMap_cons]

theorem exists_readLines_eq_ok {raws : List String} (hlines : ∀ raw ∈ raws, Admitted options raw)
    (hnames : options.duplicateFields = .reject → (Line.bodyNames options.delimiter raws).Nodup) :
    ∃ component, readLines options name raws = .ok component := by
  rw [readLines_eq_ok_iff]
  rintro before raw after error rfl ⟨hblank, hoffends⟩
  obtain ⟨hknown, hcomplete⟩ := hlines raw (by simp)
  rw [Line.kindOf?_eq _ (before.length + 1)] at hknown hcomplete
  rw [Line.recordOf?_eq _ (before.length + 1)] at hcomplete
  -- each way to break the rules is against one of the assumptions
  rcases hoffends with ⟨htag, hreject⟩ | ⟨kind, htag, hshort⟩ |
    ⟨field, htag, _, hfield, htaken, hreject⟩
  · rcases hknown htag with hempty | hallowed
    · simp [Line.isBlank, Line.read, hempty] at hblank
    · exact hallowed hreject
  · refine hcomplete (by simp [htag]) ?_
    rw [Line.record?, htag, Option.bind_some, LineKind.record?_eq_none_iff]
    exact hshort
  · have hnodup := hnames hreject
    have hbody := Line.bodyName?_eq_some_iff.mpr ⟨htag, hfield⟩
    rw [← Line.bodyNameOf?_eq] at hbody
    rw [Line.bodyNames, List.filterMap_append, List.filterMap_cons_some hbody,
      List.nodup_append] at hnodup
    exact hnodup.2.2 field htaken field (by simp) rfl

/-- **A file is refused iff a line of it breaks the rules, with the fault of the first such line.**
The fault names the component, and the line by its number in the file, blank and skipped lines
counted. -/
theorem read_refused_iff (options : ReadOptions) (name content : String) :
    ((∃ error, (read options name content).result = .error error) ↔
      ∃ before raw after error, Text.lines content = before ++ raw :: after ∧
        FaultAt options name before raw error) ∧
    ∀ error, (read options name content).result = .error error ↔
      ∃ before raw after, Text.lines content = before ++ raw :: after ∧
        (∀ earlier other later error', before = earlier ++ other :: later →
          ¬ FaultAt options name earlier other error') ∧
        FaultAt options name before raw error := by
  rw [result_read]
  constructor
  · constructor
    · rintro ⟨error, h⟩
      obtain ⟨before, raw, after, hsplit, -, hfault⟩ := readLines_eq_error_iff.mp h
      exact ⟨before, raw, after, error, hsplit, hfault⟩
    · rintro ⟨before, raw, after, error, hsplit, hfault⟩
      cases h : readLines options name (Text.lines content) with
      | error error => exact ⟨error, rfl⟩
      | ok component =>
        exact absurd hfault (readLines_eq_ok_iff.mp ⟨component, h⟩ before raw after error hsplit)
  · intro error
    simp only [readLines_eq_error_iff, readLines_eq_ok_iff]

end Component

end EntityCodegen
