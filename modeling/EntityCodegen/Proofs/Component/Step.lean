import EntityCodegen.Proofs.Component.Declared
import EntityCodegen.Proofs.Result

/-!
# One line of a component file

What one line does to the component that is being read. A line either breaks the rules in one way
(`Offends`), and then reading stops with that fault (`addLine_eq_error_iff`), or it adds the record
that it declares, if it declares one (`addLine_eq_ok_cases`). Everything proved about whole files
rests on these two statements and not on the definition of `addLine`.
-/

namespace EntityCodegen

/-! ### Records in fields -/

namespace LineKind

theorem record?_eq_none_iff (kind : LineKind) (fields : List String) :
    kind.record? fields = none ↔ fields.length < kind.minFields := by
  -- the fields are taken apart as far as the kind uses them
  cases kind with
  | body =>
    rcases fields with _ | ⟨_, _ | ⟨_, _ | ⟨_, _ | _⟩⟩⟩ <;> simp [record?, minFields]
  | stub =>
    rcases fields with _ | ⟨_, _ | ⟨_, _ | ⟨_, _ | ⟨_, _ | ⟨_, _ | _⟩⟩⟩⟩⟩ <;>
      simp [record?, minFields]
  | depends => cases fields <;> simp [record?, minFields]
  | displayName =>
    rcases fields with _ | ⟨_, _ | _⟩ <;> simp [record?, minFields]

theorem minFields_le_of_record? {kind : LineKind} {fields : List String} {record : ComponentRecord}
    (h : kind.record? fields = some record) : kind.minFields ≤ fields.length := by
  rw [← Nat.not_lt, ← record?_eq_none_iff, h]
  exact Option.some_ne_none record

end LineKind

namespace Line

/-- What the line declares, if its tag is known and no field is missing. -/
def record? (line : Line) : Option ComponentRecord :=
  (LineKind.ofTag? line.tag).bind fun kind => kind.record? line.fields

/-- The name field of a body line. -/
def bodyName? (line : Line) : Option String :=
  if LineKind.ofTag? line.tag = some .body then line.fields[2]? else none

theorem bodyName?_eq_some_iff {line : Line} {name : String} :
    line.bodyName? = some name ↔
      LineKind.ofTag? line.tag = some .body ∧ line.fields[2]? = some name := by
  rw [bodyName?]
  split <;> simp [*]

theorem tag_cases (line : Line) :
    LineKind.ofTag? line.tag = none ∨
      (∃ kind, LineKind.ofTag? line.tag = some kind ∧ line.fields.length < kind.minFields) ∨
      ∃ kind record, LineKind.ofTag? line.tag = some kind ∧
        kind.record? line.fields = some record := by
  cases htag : LineKind.ofTag? line.tag with
  | none => exact .inl rfl
  | some kind =>
    cases hrecord : kind.record? line.fields with
    | none => exact .inr (.inl ⟨kind, rfl, (kind.record?_eq_none_iff _).mp hrecord⟩)
    | some record => exact .inr (.inr ⟨kind, record, rfl, hrecord⟩)

section
variable {delimiter : Char} {number : Nat} {raw : String}

theorem ofTag?_read_of_blank (h : Text.trim raw = "") :
    LineKind.ofTag? (read delimiter number raw).tag = none := by
  have hfields : (read delimiter number raw).fields = [""] := by
    simp [read, h, Text.fields]
  rw [tag, hfields]
  decide

theorem ofTag?_read_of_isBlank (h : (read delimiter number raw).isBlank) :
    LineKind.ofTag? (read delimiter number raw).tag = none :=
  ofTag?_read_of_blank (by simpa [isBlank, read] using h)

end

end Line

theorem fieldName?_of_record? {kind : LineKind} {line : Line} {record : ComponentRecord}
    (hkind : LineKind.ofTag? line.tag = some kind) (h : kind.record? line.fields = some record) :
    record.fieldName? = line.bodyName? := by
  rw [Line.bodyName?, hkind]
  cases kind <;> simp only [LineKind.record?, Option.bind_eq_bind, Option.bind_eq_some_iff,
    Option.pure_def, Option.ite_none_left_eq_some, Option.some.injEq] at h
  case body =>
    obtain ⟨type, -, name, hname, defaultValue, -, rfl⟩ := h
    simp [ComponentRecord.fieldName?, ComponentRecord.body?, hname]
  case stub =>
    obtain ⟨_, -, _, -, _, -, _, -, _, -, rfl⟩ := h
    rfl
  case depends =>
    obtain ⟨-, rfl⟩ := h
    rfl
  case displayName =>
    obtain ⟨_, -, rfl⟩ := h
    rfl

namespace Component

/-! ### Adding a record -/

theorem result_addRecord (policy : DuplicateFields) (component : Component) (number : Nat)
    (record : ComponentRecord) :
    (addRecord policy component number record).result =
      match record.fieldName? with
      | some name =>
        if name ∈ component.fieldNames ∧ policy = .reject then
          .error (.duplicateField component.name number name)
        else .ok (component.declare record)
      | none => .ok (component.declare record) := by
  cases record with
  | body type name defaultValue =>
    by_cases h : name ∈ component.fieldNames
    · cases policy with
      | reject => simp [addRecord, ComponentRecord.fieldName?, ComponentRecord.body?, hasField_iff,
          h]
      | allow =>
        simp only [addRecord, hasField_iff, h, ComponentRecord.fieldName?, ComponentRecord.body?,
          Option.map_some, if_true]
        rfl
    · simp [addRecord, declare, ComponentRecord.fieldName?, ComponentRecord.body?, hasField_iff,
          h]
  | stub | depends | displayName => rfl

section
variable {policy : DuplicateFields} {component next : Component} {number : Nat}
  {record : ComponentRecord} {error : DefinitionError}

theorem addRecord_eq_error_iff :
    (addRecord policy component number record).result = .error error ↔
      ∃ name, record.fieldName? = some name ∧ name ∈ component.fieldNames ∧ policy = .reject ∧
        error = .duplicateField component.name number name := by
  rw [result_addRecord]
  cases record.fieldName? with
  | none => simp
  | some name =>
    by_cases h : name ∈ component.fieldNames ∧ policy = .reject
    · simp [h, eq_comm]
    · simp only [h, if_false, reduceCtorEq, false_iff]
      rintro ⟨_, hname, htaken, hreject, -⟩
      cases hname
      exact h ⟨htaken, hreject⟩

theorem eq_of_addRecord_eq_ok
    (h : (addRecord policy component number record).result = .ok next) :
    next = component.declare record := by
  rw [result_addRecord] at h
  split at h
  · split at h <;> cases h
    rfl
  · cases h
    rfl

end

/-! ### What one line does

A blank line does nothing. Any other line has an unknown tag, lacks a field or declares a record,
and in each of these cases one part of `addLine` is left. -/

section
variable {options : ReadOptions} {component : Component} {line : Line} {kind : LineKind}

theorem result_addLine_of_unknown (hblank : line.isBlank = false)
    (htag : LineKind.ofTag? line.tag = none) :
    (addLine options component line).result =
      if options.unknownLines = .reject then
        .error (.unknownTag component.name line.number line.tag line.text)
      else .ok component := by
  simp only [addLine, hblank, htag, Bool.false_eq_true, if_false]
  cases options.unknownLines <;> rfl

theorem result_addLine_of_short (hblank : line.isBlank = false)
    (htag : LineKind.ofTag? line.tag = some kind) (hshort : line.fields.length < kind.minFields) :
    (addLine options component line).result =
      .error (.shortLine component.name line.number kind line.fields.length line.text) := by
  simp only [addLine, hblank, htag, hshort, Bool.false_eq_true, if_false, if_true]
  rfl

theorem result_addLine_of_record {record : ComponentRecord} (hblank : line.isBlank = false)
    (htag : LineKind.ofTag? line.tag = some kind)
    (hrecord : kind.record? line.fields = some record) :
    (addLine options component line).result =
      (addRecord options.duplicateFields component line.number record).result := by
  have hfull := LineKind.minFields_le_of_record? hrecord
  simp only [addLine, hblank, htag, Nat.not_lt.mpr hfull, hrecord, Bool.false_eq_true, if_false,
    Traced.result_reportAll_bind]

end

/-! ### Offending lines -/

/-- The ways in which a line breaks the rules, with the faults they are reported as, where `taken`
are the names of the body lines before it. A repeated name counts on complete lines only. -/
inductive Offends (options : ReadOptions) (file : String) (taken : List String) (line : Line) :
    DefinitionError → Prop
  | unknownTag : LineKind.ofTag? line.tag = none → options.unknownLines = .reject →
      Offends options file taken line (.unknownTag file line.number line.tag line.text)
  | shortLine (kind : LineKind) : LineKind.ofTag? line.tag = some kind →
      line.fields.length < kind.minFields →
      Offends options file taken line
        (.shortLine file line.number kind line.fields.length line.text)
  | duplicateField (name : String) : LineKind.ofTag? line.tag = some .body →
      LineKind.body.minFields ≤ line.fields.length → line.fields[2]? = some name →
      name ∈ taken → options.duplicateFields = .reject →
      Offends options file taken line (.duplicateField file line.number name)

section
variable {options : ReadOptions} {file : String} {taken : List String} {line : Line}
  {kind : LineKind} {error : DefinitionError}

theorem offends_iff_of_unknown (htag : LineKind.ofTag? line.tag = none) :
    Offends options file taken line error ↔
      options.unknownLines = .reject ∧
        error = .unknownTag file line.number line.tag line.text := by
  constructor
  · rintro (⟨_, hreject⟩ | ⟨_, hknown, _⟩ | ⟨_, hknown, _⟩)
    · exact ⟨hreject, rfl⟩
    all_goals rw [htag] at hknown; cases hknown
  · rintro ⟨hreject, rfl⟩
    exact .unknownTag htag hreject

theorem offends_iff_of_short (htag : LineKind.ofTag? line.tag = some kind)
    (hshort : line.fields.length < kind.minFields) :
    Offends options file taken line error ↔
      error = .shortLine file line.number kind line.fields.length line.text := by
  constructor
  · rintro (⟨hother, _⟩ | ⟨_, hother, _⟩ | ⟨_, hother, hfull, _⟩) <;> rw [htag] at hother <;>
      cases hother
    · rfl
    · exact absurd hshort (Nat.not_lt.mpr hfull)
  · rintro rfl
    exact .shortLine kind htag hshort

theorem offends_iff_of_record {record : ComponentRecord}
    (htag : LineKind.ofTag? line.tag = some kind)
    (hrecord : kind.record? line.fields = some record) :
    Offends options file taken line error ↔
      ∃ name, record.fieldName? = some name ∧ name ∈ taken ∧ options.duplicateFields = .reject ∧
        error = .duplicateField file line.number name := by
  have hfull := LineKind.minFields_le_of_record? hrecord
  rw [fieldName?_of_record? htag hrecord]
  constructor
  · rintro (⟨hother, _⟩ | ⟨_, hother, hshort⟩ | ⟨name, hbody, _, hname, htaken, hreject⟩)
    · rw [htag] at hother
      cases hother
    · rw [htag] at hother
      cases hother
      exact absurd hshort (Nat.not_lt.mpr hfull)
    · exact ⟨name, Line.bodyName?_eq_some_iff.mpr ⟨hbody, hname⟩, htaken, hreject, rfl⟩
  · rintro ⟨name, hname, htaken, hreject, rfl⟩
    obtain ⟨hbody, hfield⟩ := Line.bodyName?_eq_some_iff.mp hname
    rw [htag, Option.some.injEq] at hbody
    subst hbody
    exact .duplicateField name htag hfull hfield htaken hreject

end

/-! ### Refused and accepted lines -/

section
variable {options : ReadOptions} {component next : Component} {line : Line}

/-- **A line refuses the file iff it breaks the rules**, and then with the fault of the rule. -/
theorem addLine_eq_error_iff {error : DefinitionError} :
    (addLine options component line).result = .error error ↔
      line.isBlank = false ∧ Offends options component.name component.fieldNames line error := by
  cases hblank : line.isBlank with
  | true => simp [addLine, hblank]
  | false =>
    rw [eq_self, true_and]
    obtain htag | ⟨kind, htag, hshort⟩ | ⟨kind, record, htag, hrecord⟩ := line.tag_cases
    · rw [result_addLine_of_unknown hblank htag, offends_iff_of_unknown htag]
      by_cases hreject : options.unknownLines = .reject <;> simp [hreject, eq_comm]
    · rw [result_addLine_of_short hblank htag hshort, offends_iff_of_short htag hshort]
      simp [eq_comm]
    · rw [result_addLine_of_record hblank htag hrecord, offends_iff_of_record htag hrecord]
      exact addRecord_eq_error_iff

theorem addLine_eq_ok_cases (hblank : line.isBlank → LineKind.ofTag? line.tag = none)
    (h : (addLine options component line).result = .ok next) :
    (LineKind.ofTag? line.tag = none ∧ next = component) ∨
      ∃ kind record, LineKind.ofTag? line.tag = some kind ∧
        kind.record? line.fields = some record ∧ next = component.declare record := by
  cases hline : line.isBlank with
  | true =>
    simp only [addLine, hline, if_true] at h
    cases h
    exact .inl ⟨hblank hline, rfl⟩
  | false =>
    obtain htag | ⟨kind, htag, hshort⟩ | ⟨kind, record, htag, hrecord⟩ := line.tag_cases
    · rw [result_addLine_of_unknown hline htag] at h
      split at h <;> cases h
      exact .inl ⟨htag, rfl⟩
    · rw [result_addLine_of_short hline htag hshort] at h
      cases h
    · rw [result_addLine_of_record hline htag hrecord] at h
      exact .inr ⟨kind, record, htag, hrecord, eq_of_addRecord_eq_ok h⟩

theorem eq_of_addLine_eq_ok (hblank : line.isBlank → LineKind.ofTag? line.tag = none)
    (h : (addLine options component line).result = .ok next) :
    next = line.record?.elim component component.declare := by
  obtain ⟨htag, rfl⟩ | ⟨kind, record, htag, hrecord, rfl⟩ := addLine_eq_ok_cases hblank h
  · rw [Line.record?, htag]
    rfl
  · rw [Line.record?, htag, Option.bind_some, hrecord, Option.elim_some]

theorem fieldNames_of_addLine_eq_ok (hblank : line.isBlank → LineKind.ofTag? line.tag = none)
    (h : (addLine options component line).result = .ok next) :
    next.fieldNames = component.fieldNames ++ line.bodyName?.toList := by
  obtain ⟨htag, rfl⟩ | ⟨kind, record, htag, hrecord, rfl⟩ := addLine_eq_ok_cases hblank h
  · simp [Line.bodyName?, htag]
  · rw [fieldNames_declare, fieldName?_of_record? htag hrecord]

end

end Component

end EntityCodegen
