import EntityCodegen.Proofs.Component.Reading

/-!
# The warnings of a component file

`warnings_read`: a file that is accepted gives a warning for each line with an unknown tag, where
these are warned of, and for each body line that repeats a name, in the order of the lines; and at
the end one if the component is left with the placeholder for a display name.

What a line gives depends on the lines before it through the names of their body lines alone
(`Line.warning?`), and these are the names of the fields that the run over those lines has added. So
the warnings of a run are the ones of its lines, from any line on (`warnings_foldlM_addLine`).
-/

namespace EntityCodegen

namespace Event

/-- The warnings among the events. -/
def warnings (events : List Event) : List Event :=
  events.filter fun event => event.level = .warn

@[simp] theorem warnings_nil : warnings [] = [] := rfl

@[simp] theorem warnings_append (events others : List Event) :
    warnings (events ++ others) = warnings events ++ warnings others :=
  List.filter_append events others

theorem warnings_eq_self {events : List Event} (h : ∀ event ∈ events, event.level = .warn) :
    warnings events = events :=
  List.filter_eq_self.mpr fun event hevent => decide_eq_true (h event hevent)

theorem warnings_eq_nil {events : List Event} (h : ∀ event ∈ events, event.level ≠ .warn) :
    warnings events = [] :=
  List.filter_eq_nil_iff.mpr fun event hevent => by simpa using h event hevent

end Event

open Event (warnings)

namespace Line

/-- The warning that a line gives, where `taken` are the names of the body lines before it. -/
def warning? (options : ReadOptions) (file : String) (taken : List String) (line : Line) :
    Option Event :=
  match LineKind.ofTag? line.tag with
  | none =>
    if line.isBlank = false ∧ options.unknownLines = .warn then
      some (.unknownLine file line.number line.tag)
    else none
  | some _ => line.bodyName?.bind fun field =>
    if field ∈ taken then some (.aliasedField file field line.number) else none

/-- The warning of a line of a file, with the number of lines before it. -/
def warningAt? (options : ReadOptions) (file : String) (raws : List String) (line : String × Nat) :
    Option Event :=
  (read options.delimiter (line.2 + 1) line.1).warning? options file
    (bodyNames options.delimiter (raws.take line.2))

/-- The warnings of the lines of a file, in order. -/
def fileWarnings (options : ReadOptions) (file : String) (raws : List String) : List Event :=
  raws.zipIdx.filterMap (warningAt? options file raws)

end Line

namespace Component

section
variable {options : ReadOptions} {component next : Component}

/-! ### One line -/

theorem warnings_addRecord {policy : DuplicateFields} {number : Nat} {record : ComponentRecord}
    (h : (addRecord policy component number record).result = .ok next) :
    warnings (addRecord policy component number record).events =
      (record.fieldName?.bind fun field =>
        if field ∈ component.fieldNames then some (.aliasedField component.name field number)
        else none).toList := by
  cases record with
  | body type name defaultValue =>
    by_cases htaken : name ∈ component.fieldNames
    · cases policy with
      | reject => simp [addRecord, hasField_iff, htaken] at h
      | allow =>
        have hfield : (component.hasField name) = true := (hasField_iff _ _).mpr htaken
        simp only [addRecord, hfield, if_true, ComponentRecord.fieldName?, ComponentRecord.body?,
          Option.map_some, Option.bind_some, htaken]
        rfl
    · simp [addRecord, hasField_iff, htaken, ComponentRecord.fieldName?, ComponentRecord.body?]
  | depends names =>
    have hevents : (addRecord policy component number (.depends names)).events =
        (if component.dependencies.isEmpty then []
          else [.dependenciesReplaced component.name number component.dependencies]) ++ [] := rfl
    have hname : (ComponentRecord.depends names).fieldName? = none := rfl
    rw [hevents, List.append_nil, hname]
    refine Event.warnings_eq_nil fun event hevent => ?_
    split at hevent
    · cases hevent
    · rw [List.mem_singleton.mp hevent, Event.level]
      decide
  | stub | displayName => rfl

theorem warnings_extraFieldEvents (file : String) (line : Line) (kind : LineKind) :
    warnings (extraFieldEvents file line kind) = [] := by
  rw [extraFieldEvents]
  split <;> rfl

theorem warnings_addLine {line : Line} (hblank : line.isBlank → LineKind.ofTag? line.tag = none)
    (h : (addLine options component line).result = .ok next) :
    warnings (addLine options component line).events =
      (line.warning? options component.name component.fieldNames).toList := by
  cases hline : line.isBlank with
  | true =>
    rw [Line.warning?, hblank hline, addLine, if_pos hline]
    simp [hline]
  | false =>
    obtain htag | ⟨kind, htag, hshort⟩ | ⟨kind, record, htag, hrecord⟩ := line.tag_cases
    · simp only [Line.warning?, addLine, hline, htag, Bool.false_eq_true, if_false, true_and]
      cases options.unknownLines <;> rfl
    · rw [result_addLine_of_short hline htag hshort] at h
      cases h
    · have hfull := LineKind.minFields_le_of_record? hrecord
      rw [result_addLine_of_record hline htag hrecord] at h
      have hadd := warnings_addRecord h
      rw [fieldName?_of_record? htag hrecord] at hadd
      rw [Line.warning?, htag, ← hadd]
      simp only [addLine, hline, htag, Nat.not_lt.mpr hfull, hrecord, Bool.false_eq_true, if_false]
      rw [Traced.events_bind_of_ok rfl, Event.warnings_append, Traced.events_reportAll,
        warnings_extraFieldEvents, List.nil_append]

theorem name_of_addLine {line : Line} (hblank : line.isBlank → LineKind.ofTag? line.tag = none)
    (h : (addLine options component line).result = .ok next) : next.name = component.name := by
  obtain ⟨-, rfl⟩ | ⟨kind, record, -, -, rfl⟩ := addLine_eq_ok_cases hblank h
  · rfl
  · cases record <;> rfl

/-! ### All lines of a file -/

theorem warnings_foldlM_addLine {before raws : List String} {start : Component}
    (hstart : start.fieldNames = Line.bodyNames options.delimiter before)
    (h : ((Line.readFrom options.delimiter (before.length + 1) raws).foldlM (addLine options)
      start).result = .ok component) :
    warnings ((Line.readFrom options.delimiter (before.length + 1) raws).foldlM (addLine options)
        start).events =
      (raws.zipIdx before.length).filterMap
        (Line.warningAt? options start.name (before ++ raws)) := by
  -- the lines that were read grow at their end while the others are used up
  induction raws generalizing before start with
  | nil => rfl
  | cons raw raws ih =>
    rw [Line.readFrom_cons, List.foldlM_cons] at h ⊢
    rw [Traced.result_bind, bind_eq_ok_iff] at h
    obtain ⟨middle, hstep, hrest⟩ := h
    have hname := name_of_addLine Line.ofTag?_read_of_isBlank hstep
    have hmiddle : middle.fieldNames = Line.bodyNames options.delimiter (before ++ [raw]) := by
      rw [fieldNames_of_addLine_eq_ok Line.ofTag?_read_of_isBlank hstep, hstart,
        ← Line.bodyNameOf?_eq, Line.bodyNames, Line.bodyNames, List.filterMap_append]
      cases hbody : Line.bodyNameOf? options.delimiter raw <;> simp [hbody]
    have hlater := @ih (before ++ [raw]) middle hmiddle
    rw [List.length_append, List.length_singleton, List.append_assoc, List.singleton_append,
      hname] at hlater
    have hline := warnings_addLine Line.ofTag?_read_of_isBlank hstep
    rw [hstart] at hline
    have hat : Line.warningAt? options start.name (before ++ raw :: raws) (raw, before.length) =
        (Line.read options.delimiter (before.length + 1) raw).warning? options start.name
          (Line.bodyNames options.delimiter before) := by
      rw [Line.warningAt?, List.take_left]
    rw [Traced.events_bind_of_ok hstep, Event.warnings_append, hline, hlater hrest,
      List.zipIdx_cons, List.filterMap_cons, hat]
    cases (Line.read options.delimiter (before.length + 1) raw).warning? options start.name
      (Line.bodyNames options.delimiter before) <;> rfl

/-- The warning that a component has no display name. -/
def nameWarnings (component : Component) : List Event :=
  if component.displayName = placeholderName then [.noDisplayName component.name] else []

theorem warnings_readEvents (component : Component) :
    warnings component.readEvents = component.nameWarnings := by
  rw [readEvents, nameWarnings, hasDisplayName]
  by_cases h : component.displayName = placeholderName
  · simp only [h, bne_self_eq_false, Bool.false_eq_true, if_false, if_true]
    rfl
  · have hnamed : (component.displayName != placeholderName) = true := bne_iff_ne.mpr h
    simp only [hnamed, h, if_true, if_false]
    rfl

/-- **A file that is accepted gives the warnings of its lines**, and then the one of its name. -/
theorem warnings_read {name content : String}
    (h : (read options name content).result = .ok component) :
    warnings (read options name content).events =
      Line.fileWarnings options name (Text.lines content) ++ component.nameWarnings := by
  rw [read, Traced.result_bind, bind_eq_ok_iff] at h
  obtain ⟨final, hfold, hfinal⟩ := h
  rw [Traced.result_reportAll_bind] at hfinal
  cases hfinal
  have hlines := @warnings_foldlM_addLine options component [] (Text.lines content) (ofName name)
    rfl hfold
  have hend : (Traced.reportAll component.readEvents >>= fun _ =>
      (pure component : Traced DefinitionError Component)).events =
        component.readEvents ++ [] := rfl
  rw [read, Traced.events_bind_of_ok hfold, Event.warnings_append, hend, List.append_nil,
    warnings_readEvents]
  exact congrArg (· ++ component.nameWarnings) hlines

end

end Component

end EntityCodegen
