import EntityCodegen.Project.Settings
import EntityCodegen.Proofs.Component.Encoding
import EntityCodegen.Proofs.Component.Refusal

/-!
# Which delimiters carry a record

`read_record_iff`: the settings take any single character as the delimiter, and a file with one line
declares the record that the line was written from iff the delimiter carries the record's texts. So
a delimiter of the settings fails in three ways only: it is in the tag, it is a line feed and there
are texts, or it is a blank and the last text is empty.

In each of the three the line is read as less than the record. With a delimiter in the tag what
stands before it is no tag, since no tag begins another. No field holds a line feed. And a blank at
the end is trimmed, so there are fewer fields than texts (`length_fields_trim_le`).
-/

namespace EntityCodegen

namespace ComponentRecord

/-- The kind of line that declares the record. -/
def kind : ComponentRecord → LineKind
  | body .. => .body
  | stub .. => .stub
  | depends _ => .depends
  | displayName _ => .displayName

/-- The texts behind the tag of a line that declares the record. -/
def texts : ComponentRecord → List String
  | body type name defaultValue => [type, name, defaultValue]
  | stub outerType type lead name extra => [outerType, type, lead, name, extra]
  | depends names => names
  | displayName text => [text]

/-- The line that declares the record. -/
def line (delimiter : Char) (record : ComponentRecord) : String :=
  record.kind.line delimiter record.texts

theorem record?_texts (record : ComponentRecord) :
    record.kind.record? (record.kind.tag :: record.texts) = some record := by
  cases record <;> rfl

theorem of_record? {kind : LineKind} {fields : List String} {record : ComponentRecord}
    (h : kind.record? fields = some record) :
    kind = record.kind ∧ record.texts.length < fields.length := by
  have hlength := LineKind.minFields_le_of_record? h
  cases kind <;> simp only [LineKind.record?, Option.bind_eq_bind, Option.bind_eq_some_iff,
    Option.pure_def, Option.ite_none_left_eq_some, Option.some.injEq] at h
  case body =>
    obtain ⟨_, -, _, -, _, -, rfl⟩ := h
    exact ⟨rfl, hlength⟩
  case stub =>
    obtain ⟨_, -, _, -, _, -, _, -, _, -, rfl⟩ := h
    exact ⟨rfl, hlength⟩
  case depends =>
    obtain ⟨hne, rfl⟩ := h
    refine ⟨rfl, ?_⟩
    rw [texts, List.length_drop]
    have hpositive := List.length_pos_iff.mpr (by simpa using hne)
    omega
  case displayName =>
    obtain ⟨_, -, rfl⟩ := h
    exact ⟨rfl, hlength⟩

theorem texts_subset_of_record? {kind : LineKind} {fields : List String} {record : ComponentRecord}
    (h : kind.record? fields = some record) : record.texts ⊆ fields := by
  cases kind <;> simp only [LineKind.record?, Option.bind_eq_bind, Option.bind_eq_some_iff,
    Option.pure_def, Option.ite_none_left_eq_some, Option.some.injEq] at h
  case body =>
    obtain ⟨_, htype, _, hname, _, hdefault, rfl⟩ := h
    simp [texts, List.mem_of_getElem? htype, List.mem_of_getElem? hname,
      List.mem_of_getElem? hdefault]
  case stub =>
    obtain ⟨_, houter, _, htype, _, hlead, _, hname, _, hextra, rfl⟩ := h
    simp [texts, List.mem_of_getElem? houter, List.mem_of_getElem? htype,
      List.mem_of_getElem? hlead, List.mem_of_getElem? hname, List.mem_of_getElem? hextra]
  case depends =>
    obtain ⟨-, rfl⟩ := h
    exact List.drop_subset 1 fields
  case displayName =>
    obtain ⟨_, htext, rfl⟩ := h
    simp [texts, List.mem_of_getElem? htext]

end ComponentRecord

/-! ### Tags -/

theorem LineKind.eq_of_prefix_tag {kind other : LineKind}
    (h : kind.tag.toList <+: other.tag.toList) : kind = other := by
  revert h
  cases kind <;> cases other <;> decide

theorem LineKind.tag_of_ofTag? {tag : String} {kind : LineKind} (h : ofTag? tag = some kind) :
    kind.tag = tag := by
  simpa using List.find?_some h

theorem LineKind.eq_of_ofTag?_fields {delimiter : Char} {text : String} {kind other : LineKind}
    (hbegins : kind.tag.toList <+: text.toList)
    (h : ofTag? ((Text.fields delimiter text).headD "") = some other) :
    other = kind ∧ delimiter ∉ kind.tag.toList := by
  obtain ⟨first, rest, hfields⟩ := List.exists_cons_of_length_pos
    (show 0 < (Text.fields delimiter text).length by rw [Text.length_fields]; omega)
  rw [hfields, List.headD_cons] at h
  have htag := tag_of_ofTag? h
  have hfirst : other.tag.toList <+: text.toList := by
    rw [htag, ← Text.ofFields_fields delimiter text, hfields]
    exact Text.prefix_ofFields delimiter first rest
  have hsame : other = kind := by
    rcases List.prefix_or_prefix_of_prefix hfirst hbegins with hprefix | hprefix
    · exact eq_of_prefix_tag hprefix
    · exact (eq_of_prefix_tag hprefix).symm
  have hfree := (Text.mem_fields (hfields ▸ List.mem_cons_self)).1
  rw [← htag, hsame] at hfree
  exact ⟨hsame, hfree⟩

section
variable {delimiter : Char} {record : ComponentRecord}

/-! ### Lines that are not read as they were written -/

theorem length_fields_trim_le (kind : LineKind) {texts : List String}
    (hw : Writable delimiter texts) (hblank : Text.isBlank delimiter)
    (hempty : texts.getLast? = some "") :
    (Text.fields delimiter (Text.trim (kind.line delimiter texts))).length ≤ texts.length := by
  obtain ⟨front, rfl⟩ := List.getLast?_eq_some_iff.mp hempty
  have hline : (kind.line delimiter (front ++ [""])).toList =
      (kind.line delimiter front).toList ++ [delimiter] := by
    have happend := Text.ofFields_append_empty delimiter (List.cons_ne_nil kind.tag front)
    rw [LineKind.line, ← List.cons_append, happend]
    simp [LineKind.line]
  have hfields : Text.fields delimiter (kind.line delimiter front) = kind.tag :: front := by
    rw [LineKind.line]
    refine Text.fields_ofFields (by simp) (List.forall_mem_cons.mpr ⟨fun hmem => ?_, ?_⟩)
    · rw [kind.nonblank_of_mem_tag delimiter hmem] at hblank
      cases hblank
    · exact fun text htext => hw.delimiter text (List.mem_append_left _ htext)
  have hcount := (Text.trimChars_sublist (kind.line delimiter front).toList).count_le delimiter
  have hlength := Text.length_fields delimiter (kind.line delimiter front)
  rw [hfields, List.length_cons] at hlength
  rw [Text.length_fields, Text.toList_trim, hline, Text.trimChars_append_blank _ hblank,
    List.length_append, List.length_singleton]
  omega

theorem exists_kind_of_recordOf? {raw : String} (h : Line.recordOf? delimiter raw = some record) :
    ∃ kind : LineKind, kind.record? (Text.fields delimiter (Text.trim raw)) = some record := by
  rw [Line.recordOf?, Line.record?, Option.bind_eq_some_iff] at h
  obtain ⟨kind, -, hrecord⟩ := h
  have hfields : (Line.read delimiter 1 raw).fields = Text.fields delimiter (Text.trim raw) := by
    simp only [Line.read]
  rw [hfields] at hrecord
  exact ⟨kind, hrecord⟩

theorem length_texts_lt_of_recordOf? {raw : String}
    (h : Line.recordOf? delimiter raw = some record) :
    record.texts.length < (Text.fields delimiter (Text.trim raw)).length := by
  obtain ⟨kind, hrecord⟩ := exists_kind_of_recordOf? h
  exact (ComponentRecord.of_record? hrecord).2

theorem carries_of_recordOf?_line (hfeed : delimiter ≠ '\n')
    (hw : Writable delimiter record.texts)
    (h : Line.recordOf? delimiter (record.line delimiter) = some record) :
    Carries delimiter record.kind record.texts := by
  have hlength := length_texts_lt_of_recordOf? h
  rw [ComponentRecord.line] at hlength
  have hblank : Text.isBlank delimiter → record.texts.getLast? ≠ some "" := fun hblank hempty =>
    absurd (length_fields_trim_le record.kind hw hblank hempty) (Nat.not_le.mpr hlength)
  have htrim : Text.trim (record.line delimiter) = record.line delimiter :=
    trim_line record.kind hblank hw
  rw [Line.recordOf?_eq_bind, Option.bind_eq_some_iff] at h
  obtain ⟨kind, htag, -⟩ := h
  rw [Line.kindOf?, Line.tag, Line.read, htrim] at htag
  have hbegins := Text.prefix_ofFields delimiter record.kind.tag record.texts
  exact ⟨(LineKind.eq_of_ofTag?_fields hbegins htag).2, fun heq => absurd heq hfeed, hblank⟩

theorem newline_not_mem_texts {raw : String} (hraw : '\n' ∉ raw.toList)
    (h : Line.recordOf? delimiter raw = some record) :
    ∀ text ∈ record.texts, '\n' ∉ text.toList := by
  obtain ⟨kind, hrecord⟩ := exists_kind_of_recordOf? h
  intro text htext hmem
  have hfield := ComponentRecord.texts_subset_of_record? hrecord htext
  have htrimmed := (Text.mem_fields hfield).2 _ hmem
  rw [Text.toList_trim] at htrimmed
  exact hraw (Text.mem_of_mem_trimChars htrimmed)

theorem texts_eq_nil_of_lineFeed {raw : String} (hraw : '\n' ∉ raw.toList)
    (h : Line.recordOf? '\n' raw = some record) : record.texts = [] := by
  have hlength := length_texts_lt_of_recordOf? h
  have htrim : '\n' ∉ (Text.trim raw).toList := fun hmem =>
    hraw (Text.mem_of_mem_trimChars (by rwa [Text.toList_trim] at hmem))
  rw [Text.length_fields, List.count_eq_zero_of_not_mem htrim] at hlength
  exact List.length_eq_zero_iff.mp (by omega)

/-! ### Files of one line -/

theorem lines_line (hfeed : delimiter = '\n' → record.texts = [])
    (hw : Writable delimiter record.texts) :
    Text.lines (record.line delimiter) = [record.line delimiter] := by
  have hne : (record.line delimiter).toList ≠ [] := by
    intro hnil
    have hbegins := Text.prefix_ofFields delimiter record.kind.tag record.texts
    rw [← LineKind.line, ← ComponentRecord.line, hnil, List.prefix_nil] at hbegins
    exact record.kind.toList_tag_ne_nil hbegins
  have hnewline : '\n' ∉ (record.line delimiter).toList :=
    newline_not_mem_line record.kind hfeed hw
  rw [Text.lines, Text.linesChars_of_not_mem hnewline, if_neg hne, List.map_singleton,
    String.ofList_toList]

/-- **The line of a record declares the record iff the delimiter carries its texts.** -/
theorem records_line_iff (hw : Writable delimiter record.texts) :
    Line.records delimiter (Text.lines (record.line delimiter)) = [record] ↔
      Carries delimiter record.kind record.texts := by
  constructor
  · intro h
    have hmem : record ∈ Line.records delimiter (Text.lines (record.line delimiter)) := by
      rw [h]
      exact List.mem_singleton_self record
    obtain ⟨raw, hraw, hrecord⟩ := List.mem_filterMap.mp hmem
    by_cases hfeed : delimiter = '\n'
    · subst hfeed
      have hnil := texts_eq_nil_of_lineFeed (Text.newline_not_mem_of_mem_lines hraw) hrecord
      exact ⟨record.kind.newline_not_mem_tag, fun _ => hnil, fun _ => by simp [hnil]⟩
    · rw [lines_line (fun heq => absurd heq hfeed) hw, List.mem_singleton] at hraw
      exact carries_of_recordOf?_line hfeed hw (hraw ▸ hrecord)
  · intro h
    rw [lines_line h.lineFeed hw, Line.records, List.filterMap_cons, ComponentRecord.line,
      recordOf?_line record.kind h hw, record.record?_texts]
    rfl

theorem result_read_line {options : ReadOptions} (name : String)
    (h : Carries options.delimiter record.kind record.texts)
    (hw : Writable options.delimiter record.texts) :
    (Component.read options name (record.line options.delimiter)).result =
      .ok ((Component.ofName name).declare record) := by
  have hrecords := (records_line_iff hw).mpr h
  have hrecord : Line.recordOf? options.delimiter (record.line options.delimiter) = some record :=
    (recordOf?_line record.kind h hw).trans record.record?_texts
  rw [Component.result_read]
  have hadmitted : ∀ raw ∈ Text.lines (record.line options.delimiter),
      Component.Admitted options raw := by
    rw [lines_line h.lineFeed hw, List.forall_mem_singleton]
    refine ⟨fun hkind => ?_, fun _ => by simp [hrecord]⟩
    rw [Line.recordOf?_eq_bind, hkind] at hrecord
    cases hrecord
  have hnames : (Line.bodyNames options.delimiter
      (Text.lines (record.line options.delimiter))).Nodup := by
    rw [Component.bodyNames_of_admitted hadmitted, hrecords, List.filterMap_cons]
    cases record.fieldName? <;> simp
  obtain ⟨component, hread⟩ := Component.exists_readLines_eq_ok hadmitted fun _ => hnames
  rw [hread, Component.eq_declareAll_of_readLines hread, hrecords]
  rfl

theorem delimiter_of_buildOptions {settings : Settings} {options : BuildOptions}
    (h : settings.buildOptions = .ok options) :
    settings.delimiter.toList = [options.reading.delimiter] := by
  rw [Settings.buildOptions] at h
  split at h
  · next hdelimiter =>
    split at h
    · cases h
    · cases h
      exact hdelimiter
  · cases h

/-- **The delimiter of the settings carries a record iff its line declares it**, and then a file with
the line alone is read as what the record declares. -/
theorem read_record_iff {settings : Settings} {options : BuildOptions}
    (hoptions : settings.buildOptions = .ok options)
    (hw : Writable options.reading.delimiter record.texts) (name : String) :
    settings.delimiter.toList = [options.reading.delimiter] ∧
    (Line.records options.reading.delimiter
        (Text.lines (record.line options.reading.delimiter)) = [record] ↔
      Carries options.reading.delimiter record.kind record.texts) ∧
    (Carries options.reading.delimiter record.kind record.texts →
      (Component.read options.reading name (record.line options.reading.delimiter)).result =
        .ok ((Component.ofName name).declare record)) :=
  ⟨delimiter_of_buildOptions hoptions, records_line_iff hw, fun h => result_read_line name h hw⟩

/-- A tab carries an empty text that is not the last. -/
theorem read_record_iff_tab :
    { Settings.standard with delimiter := "\t" }.buildOptions =
        .ok ⟨⟨'\t', .warn, .reject⟩, "wire_filter_ptr"⟩ ∧
      Writable '\t' (ComponentRecord.stub "a b" "" "" "pos" "()").texts ∧
      Carries '\t' .stub ["a b", "", "", "pos", "()"] ∧
      (Component.read ⟨'\t', .warn, .reject⟩ "door" "stub\ta b\t\t\tpos\t()").result =
        .ok ⟨"door", "Invalid Name", [], [⟨"a b", "", "", "pos", "()", "door"⟩], []⟩ := by
  have hoptions : { Settings.standard with delimiter := "\t" }.buildOptions =
      .ok ⟨⟨'\t', .warn, .reject⟩, "wire_filter_ptr"⟩ := by decide
  have hw : Writable '\t' (ComponentRecord.stub "a b" "" "" "pos" "()").texts := by decide
  have hcarries : Carries '\t' .stub ["a b", "", "", "pos", "()"] := by decide
  have hline : (ComponentRecord.stub "a b" "" "" "pos" "()").line '\t' =
      "stub\ta b\t\t\tpos\t()" := by decide
  have hread := (read_record_iff hoptions hw "door").2.2 hcarries
  rw [hline] at hread
  exact ⟨hoptions, hw, hcarries, hread⟩

/-- Three delimiters that the settings take and with which a door's line is not read: a tab before an
empty text at the end, a letter of the tag, and a line feed. -/
theorem unread_delimiters :
    (∀ delimiter ∈ ["\t", "b", "\n"], ∃ options,
      { Settings.standard with delimiter := delimiter }.buildOptions = .ok options) ∧
    (Writable '\t' (ComponentRecord.body "float" "pos" "").texts ∧
      (Component.read ⟨'\t', .warn, .reject⟩ "door"
        ((ComponentRecord.body "float" "pos" "").line '\t')).result =
          .error (.shortLine "door" 1 .body 3 "body\tfloat\tpos")) ∧
    (Writable 'b' (ComponentRecord.body "float" "pos" "1").texts ∧
      (Component.read ⟨'b', .warn, .reject⟩ "door"
        ((ComponentRecord.body "float" "pos" "1").line 'b')).result =
          .ok (Component.ofName "door")) ∧
    (Writable '\n' (ComponentRecord.displayName "Door").texts ∧
      (Component.read ⟨'\n', .warn, .reject⟩ "door"
        ((ComponentRecord.displayName "Door").line '\n')).result =
          .error (.shortLine "door" 1 .displayName 1 "ui_name")) := by
  refine ⟨?_, ⟨by decide, by decide +kernel⟩, ⟨by decide, by decide +kernel⟩,
    ⟨by decide, by decide +kernel⟩⟩
  simp only [List.forall_mem_cons]
  exact ⟨⟨_, rfl⟩, ⟨_, rfl⟩, ⟨_, rfl⟩, by simp⟩

end

end EntityCodegen
