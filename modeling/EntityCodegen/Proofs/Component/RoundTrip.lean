import EntityCodegen.Proofs.Component.Encoding
import EntityCodegen.Proofs.Component.Refusal

/-!
# Writing a component file and reading it

`read_written`: a file that writes down a component's data is accepted and gives that data back. A
file writes down data (`Written`) with one line for each body field and each stub field, in order,
one line for the dependencies and one for the display name if there are any, and between these, in
any order, lines that do not count: blank ones, ones with an unknown tag, and ones that a later line
takes the place of.

By induction on the layout no line breaks a rule by itself and the declared records are the data
(`Written.sound`). The lines of the text are the written ones up to blanks, so this holds of them
too (`admitted_lines_ofLines`, `records_lines_ofLines`). The file is then accepted
(`exists_readLines_eq_ok`), and what is read is what its lines declare.
-/

namespace EntityCodegen

/-! ### The data of a component -/

/-- What a component file tells about a component. -/
structure ComponentData where
  displayName : Option String
  body : List BodyRecord
  stubs : List StubRecord
  dependencies : Option (List String)
  deriving DecidableEq, Repr

namespace ComponentData

/-- The data of an empty file. -/
def empty : ComponentData :=
  ⟨none, [], [], none⟩

/-- The component with the data. -/
def component (data : ComponentData) (name : String) : Component where
  name := name
  displayName := data.displayName.getD Component.placeholderName
  body := BodyRecord.chain name Component.firstPredecessor data.body
  stubs := data.stubs.map (StubRecord.field name)
  dependencies := data.dependencies.getD []

end ComponentData

/-! ### Files that write down data -/

/-- `Written options raws data`: the lines `raws` write down the data. A line that a later one takes
the place of may be any complete line of its kind. -/
inductive Written (options : ReadOptions) : List String → ComponentData → Prop
  | nil : Written options [] .empty
  | body {raws displayName body stubs dependencies} (record : BodyRecord) :
      Writable options.delimiter record.texts →
      Written options raws ⟨displayName, body, stubs, dependencies⟩ →
      Written options (LineKind.body.line options.delimiter record.texts :: raws)
        ⟨displayName, record :: body, stubs, dependencies⟩
  | stub {raws displayName body stubs dependencies} (record : StubRecord) :
      Writable options.delimiter record.texts →
      Written options raws ⟨displayName, body, stubs, dependencies⟩ →
      Written options (LineKind.stub.line options.delimiter record.texts :: raws)
        ⟨displayName, body, record :: stubs, dependencies⟩
  | depends {raws displayName body stubs} (names : List String) :
      Writable options.delimiter names → Written options raws ⟨displayName, body, stubs, none⟩ →
      Written options (LineKind.depends.line options.delimiter names :: raws)
        ⟨displayName, body, stubs, some names⟩
  | displayName {raws body stubs dependencies} (text : String) :
      Writable options.delimiter [text] → Written options raws ⟨none, body, stubs, dependencies⟩ →
      Written options (LineKind.displayName.line options.delimiter [text] :: raws)
        ⟨some text, body, stubs, dependencies⟩
  | blank {raws data} (raw : String) :
      '\n' ∉ raw.toList → Text.trim raw = "" → Written options raws data →
      Written options (raw :: raws) data
  | unknown {raws data} (raw : String) :
      '\n' ∉ raw.toList → options.unknownLines ≠ .reject →
      Line.kindOf? options.delimiter raw = none → Written options raws data →
      Written options (raw :: raws) data
  | oldDepends {raws displayName body stubs later} (raw : String) (names : List String) :
      '\n' ∉ raw.toList → Line.recordOf? options.delimiter raw = some (.depends names) →
      Written options raws ⟨displayName, body, stubs, some later⟩ →
      Written options (raw :: raws) ⟨displayName, body, stubs, some later⟩
  | oldDisplayName {raws later body stubs dependencies} (raw text : String) :
      '\n' ∉ raw.toList → Line.recordOf? options.delimiter raw = some (.displayName text) →
      Written options raws ⟨some later, body, stubs, dependencies⟩ →
      Written options (raw :: raws) ⟨some later, body, stubs, dependencies⟩

/-- The records declare the data. Of several dependency lists or display names the last counts. -/
structure Declares (records : List ComponentRecord) (data : ComponentData) : Prop where
  displayName : (records.filterMap ComponentRecord.displayName?).getLast? = data.displayName
  body : records.filterMap ComponentRecord.body? = data.body
  stubs : records.filterMap ComponentRecord.stub? = data.stubs
  dependencies : (records.filterMap ComponentRecord.depends?).getLast? = data.dependencies

/-- The data with a record before all others. -/
def ComponentData.before (data : ComponentData) : ComponentRecord → ComponentData
  | .body type name defaultValue => { data with body := ⟨type, name, defaultValue⟩ :: data.body }
  | .stub outerType type lead name extra =>
    { data with stubs := ⟨outerType, type, lead, name, extra⟩ :: data.stubs }
  | .depends names => { data with dependencies := some (data.dependencies.getD names) }
  | .displayName text => { data with displayName := some (data.displayName.getD text) }

namespace Declares

variable {records : List ComponentRecord} {data : ComponentData}

theorem cons (record : ComponentRecord) (h : Declares records data) :
    Declares (record :: records) (data.before record) := by
  obtain ⟨hdisplayName, hbody, hstubs, hdependencies⟩ := h
  cases record with
  | body type name defaultValue =>
    refine ⟨hdisplayName, ?_, hstubs, hdependencies⟩
    show BodyRecord.mk type name defaultValue :: records.filterMap ComponentRecord.body? = _
    rw [hbody]
    rfl
  | stub outerType type lead name extra =>
    refine ⟨hdisplayName, hbody, ?_, hdependencies⟩
    show StubRecord.mk outerType type lead name extra ::
      records.filterMap ComponentRecord.stub? = _
    rw [hstubs]
    rfl
  | depends names =>
    refine ⟨hdisplayName, hbody, hstubs, ?_⟩
    show (names :: records.filterMap ComponentRecord.depends?).getLast? = _
    rw [List.getLast?_cons, hdependencies]
    rfl
  | displayName text =>
    refine ⟨?_, hbody, hstubs, hdependencies⟩
    show (text :: records.filterMap ComponentRecord.displayName?).getLast? = _
    rw [List.getLast?_cons, hdisplayName]
    rfl

theorem declareAll_eq (h : Declares records data) (name : String) :
    (Component.ofName name).declareAll records = data.component name := by
  rw [Component.declareAll_eq, List.getLastD_eq_getLast?, List.getLastD_eq_getLast?, h.displayName,
    h.body, h.stubs, h.dependencies]
  rfl

theorem fieldNames (h : Declares records data) :
    records.filterMap ComponentRecord.fieldName? = data.body.map BodyRecord.name := by
  rw [← h.body, List.map_filterMap]
  rfl

end Declares

/-- Whole lines, none of which breaks a rule by itself, that declare the data. -/
structure Sound (options : ReadOptions) (raws : List String) (data : ComponentData) : Prop where
  newline : ∀ raw ∈ raws, '\n' ∉ raw.toList
  admitted : ∀ raw ∈ raws, Component.Admitted options raw
  declares : Declares (Line.records options.delimiter raws) data

namespace Sound

variable {options : ReadOptions} {raws : List String} {data : ComponentData} {raw : String}

theorem nil : Sound options [] .empty :=
  ⟨by simp, by simp, ⟨rfl, rfl, rfl, rfl⟩⟩

theorem skip (h : Sound options raws data) (hraw : '\n' ∉ raw.toList)
    (hadmitted : Component.Admitted options raw)
    (hrecord : Line.recordOf? options.delimiter raw = none) : Sound options (raw :: raws) data := by
  refine ⟨List.forall_mem_cons.mpr ⟨hraw, h.newline⟩,
    List.forall_mem_cons.mpr ⟨hadmitted, h.admitted⟩, ?_⟩
  rw [Line.records, List.filterMap_cons_none hrecord]
  exact h.declares

theorem cons (h : Sound options raws data) (hraw : '\n' ∉ raw.toList) {record : ComponentRecord}
    (hrecord : Line.recordOf? options.delimiter raw = some record) :
    Sound options (raw :: raws) (data.before record) := by
  have hadmitted : Component.Admitted options raw := by
    refine ⟨fun hkind => ?_, fun _ => by simp [hrecord]⟩
    rw [Line.recordOf?_eq_bind, hkind] at hrecord
    cases hrecord
  refine ⟨List.forall_mem_cons.mpr ⟨hraw, h.newline⟩,
    List.forall_mem_cons.mpr ⟨hadmitted, h.admitted⟩, ?_⟩
  rw [Line.records, List.filterMap_cons_some hrecord]
  exact h.declares.cons record

theorem writtenLine (h : Sound options raws data) (kind : LineKind)
    (hd : Separates options.delimiter) {texts : List String} (hw : Writable options.delimiter texts)
    {record : ComponentRecord} (hrecord : kind.record? (kind.tag :: texts) = some record) :
    Sound options (kind.line options.delimiter texts :: raws) (data.before record) := by
  have hcarries := hd.carries kind texts
  refine h.cons (newline_not_mem_line kind hcarries.lineFeed hw) ?_
  rw [recordOf?_line kind hcarries hw, hrecord]

end Sound

namespace Written

variable {options : ReadOptions} {raws : List String} {data : ComponentData}

theorem sound (hd : Separates options.delimiter) (h : Written options raws data) :
    Sound options raws data := by
  induction h with
  | nil => exact Sound.nil
  | body record hw _ ih =>
    exact ih.writtenLine .body hd hw rfl
  | stub record hw _ ih =>
    exact ih.writtenLine .stub hd hw rfl
  | depends names hw _ ih =>
    exact ih.writtenLine .depends hd hw rfl
  | displayName text hw _ ih =>
    exact ih.writtenLine .displayName hd hw rfl
  | blank raw hraw hblank _ ih =>
    have hkind : Line.kindOf? options.delimiter raw = none := Line.ofTag?_read_of_blank hblank
    exact ih.skip hraw (Component.admitted_of_blank hblank)
      (by rw [Line.recordOf?_eq_bind, hkind]; rfl)
  | unknown raw hraw hallowed hkind _ ih =>
    exact ih.skip hraw ⟨fun _ => .inr hallowed, fun h => absurd hkind h⟩
      (by rw [Line.recordOf?_eq_bind, hkind]; rfl)
  -- with a later line of their kind there, the data before and after these two are the same
  | oldDepends raw names hraw hrecord _ ih => exact ih.cons hraw hrecord
  | oldDisplayName raw text hraw hrecord _ ih => exact ih.cons hraw hrecord

end Written

/-! ### Reading a written file -/

section
variable {options : ReadOptions} {raws : List String} {raw : String}

theorem admitted_lines_ofLines (hnewline : ∀ raw ∈ raws, '\n' ∉ raw.toList)
    (hadmitted : ∀ raw ∈ raws, Component.Admitted options raw) :
    ∀ raw ∈ Text.lines (Text.ofLines raws), Component.Admitted options raw := by
  intro raw hraw
  by_cases hblank : Text.trim raw = ""
  · exact Component.admitted_of_blank hblank
  · have hmem : Text.trim raw ∈
        ((Text.lines (Text.ofLines raws)).map Text.trim).filter (· ≠ "") :=
      List.mem_filter.mpr ⟨List.mem_map_of_mem hraw, by simpa using hblank⟩
    rw [Text.nonblank_lines_ofLines hnewline] at hmem
    obtain ⟨other, hother, htrim⟩ := List.mem_map.mp (List.mem_filter.mp hmem).1
    exact Component.admitted_congr htrim (hadmitted other hother)

theorem records_lines_ofLines (delimiter : Char) (h : ∀ raw ∈ raws, '\n' ∉ raw.toList) :
    Line.records delimiter (Text.lines (Text.ofLines raws)) = Line.records delimiter raws := by
  refine Text.filterMap_lines_ofLines
    (g := fun text => (Line.mk 1 text (Text.fields delimiter text)).record?) (fun raw => rfl) ?_ h
  have htag : (Line.mk 1 "" (Text.fields delimiter "")).tag = "" := by
    simp [Line.tag, Text.fields]
  rw [Line.record?, htag]
  rfl

/-- **A file that writes down a component's data gives the data back**, whatever the order of its
lines and whatever lines that do not count stand between them. -/
theorem read_written (name : String) {data : ComponentData} (hd : Separates options.delimiter)
    (hnames : options.duplicateFields = .reject → (data.body.map BodyRecord.name).Nodup)
    (h : Written options raws data) :
    (Component.read options name (Text.ofLines raws)).result = .ok (data.component name) := by
  obtain ⟨hnewline, hadmitted, hdeclares⟩ := h.sound hd
  have hlines := admitted_lines_ofLines hnewline hadmitted
  have hrecords := records_lines_ofLines options.delimiter hnewline
  have hfields : Line.bodyNames options.delimiter (Text.lines (Text.ofLines raws)) =
      data.body.map BodyRecord.name := by
    rw [Component.bodyNames_of_admitted hlines, hrecords, hdeclares.fieldNames]
  have haccepted : ∃ component, Component.readLines options name (Text.lines (Text.ofLines raws)) =
      .ok component :=
    Component.exists_readLines_eq_ok hlines fun hreject => hfields ▸ hnames hreject
  obtain ⟨component, hread⟩ := haccepted
  rw [Component.result_read, hread, Component.eq_declareAll_of_readLines hread, hrecords,
    hdeclares.declareAll_eq]

/-- A file with an old display name, a blank line, an unknown tag, an empty default value and one
empty dependency. -/
theorem read_written_door :
    Separates ';' ∧
      (DuplicateFields.reject = .reject → ([⟨"float *", "pos", ""⟩].map BodyRecord.name).Nodup) ∧
      Written ⟨';', .warn, .reject⟩
        ["ui_name;Gate;2", "\r", "body;float *;pos;", "bdoy;float", "stub;a; b;;pos;c", "depends;",
          "ui_name;Door"]
        ⟨some "Door", [⟨"float *", "pos", ""⟩], [⟨"a", " b", "", "pos", "c"⟩], some [""]⟩ ∧
      (Component.read ⟨';', .warn, .reject⟩ "door"
        ("ui_name;Gate;2\n\r\nbody;float *;pos;\nbdoy;float\nstub;a; b;;pos;c\ndepends;\n" ++
          "ui_name;Door")).result =
        .ok ⟨"door", "Door", [⟨"float *", "pos", "", "entity", "door", none, none⟩],
          [⟨"a", " b", "", "pos", "c", "door"⟩], [""]⟩ := by
  have hd : Separates ';' := ⟨by decide, fun kind => by cases kind <;> decide⟩
  have hw : Written ⟨';', .warn, .reject⟩
      ["ui_name;Gate;2", "\r", "body;float *;pos;", "bdoy;float", "stub;a; b;;pos;c", "depends;",
        "ui_name;Door"]
      ⟨some "Door", [⟨"float *", "pos", ""⟩], [⟨"a", " b", "", "pos", "c"⟩], some [""]⟩ := by
    refine .oldDisplayName _ "Gate" (by simp) (by decide) ?_
    refine .blank _ (by simp) (by decide) ?_
    refine .body ⟨"float *", "pos", ""⟩ (by decide) ?_
    refine .unknown _ (by simp) (by decide) (by decide) ?_
    refine .stub ⟨"a", " b", "", "pos", "c"⟩ (by decide) ?_
    refine .depends [""] (by decide) ?_
    exact .displayName "Door" (by decide) .nil
  have hcontent : Text.ofLines ["ui_name;Gate;2", "\r", "body;float *;pos;", "bdoy;float",
      "stub;a; b;;pos;c", "depends;", "ui_name;Door"] =
      "ui_name;Gate;2\n\r\nbody;float *;pos;\nbdoy;float\nstub;a; b;;pos;c\ndepends;\n" ++
        "ui_name;Door" := by
    decide
  have hread := read_written "door" hd (by decide) hw
  rw [hcontent] at hread
  exact ⟨hd, by decide, hw, hread⟩

end

end EntityCodegen
