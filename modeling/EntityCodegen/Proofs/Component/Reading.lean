import EntityCodegen.Proofs.Component.Step

/-!
# Runs over the lines of a component file

Reading a file is a run over its numbered lines (`result_read`). A run that succeeds leaves the
component that its lines declare (`eq_declareAll_of_readLines`), and the names of that component's
fields are the ones in the body lines (`fieldNames_of_readLines`).
-/

namespace EntityCodegen

namespace Line

/-! ### Numbered lines -/

/-- The lines of a file from some line on, where `number` is the number of the first. -/
def readFrom (delimiter : Char) (number : Nat) (raws : List String) : List Line :=
  (raws.zipIdx number).map fun (raw, number) => read delimiter number raw

theorem readFrom_append (delimiter : Char) (number : Nat) (raws others : List String) :
    readFrom delimiter number (raws ++ others) =
      readFrom delimiter number raws ++ readFrom delimiter (number + raws.length) others := by
  simp [readFrom, List.zipIdx_append]

theorem readFrom_cons (delimiter : Char) (number : Nat) (raw : String) (raws : List String) :
    readFrom delimiter number (raw :: raws) =
      read delimiter number raw :: readFrom delimiter (number + 1) raws := by
  simp [readFrom]

theorem exists_of_readFrom_eq {delimiter : Char} {number : Nat} {raws : List String}
    {before after : List Line} {line : Line}
    (h : readFrom delimiter number raws = before ++ line :: after) :
    ∃ rawsBefore raw rawsAfter, raws = rawsBefore ++ raw :: rawsAfter ∧
      before = readFrom delimiter number rawsBefore ∧
      line = read delimiter (number + rawsBefore.length) raw := by
  induction before generalizing raws number with
  | nil =>
    cases raws with
    | nil => simp [readFrom] at h
    | cons raw raws =>
      rw [readFrom_cons, List.nil_append, List.cons.injEq] at h
      exact ⟨[], raw, raws, rfl, rfl, h.1.symm⟩
  | cons first before ih =>
    cases raws with
    | nil => simp [readFrom] at h
    | cons raw raws =>
      rw [readFrom_cons, List.cons_append, List.cons.injEq] at h
      obtain ⟨rawsBefore, next, rawsAfter, rfl, rfl, rfl⟩ := ih h.2
      refine ⟨raw :: rawsBefore, next, rawsAfter, rfl, ?_, ?_⟩
      · rw [readFrom_cons, h.1]
      · rw [List.length_cons, Nat.add_assoc, Nat.add_comm 1]

/-! ### What a line says wherever it stands -/

def kindOf? (delimiter : Char) (raw : String) : Option LineKind :=
  LineKind.ofTag? (read delimiter 1 raw).tag

def recordOf? (delimiter : Char) (raw : String) : Option ComponentRecord :=
  (read delimiter 1 raw).record?

def bodyNameOf? (delimiter : Char) (raw : String) : Option String :=
  (read delimiter 1 raw).bodyName?

theorem kindOf?_eq (delimiter : Char) (number : Nat) (raw : String) :
    kindOf? delimiter raw = LineKind.ofTag? (read delimiter number raw).tag := rfl

theorem recordOf?_eq (delimiter : Char) (number : Nat) (raw : String) :
    recordOf? delimiter raw = (read delimiter number raw).record? := rfl

theorem bodyNameOf?_eq (delimiter : Char) (number : Nat) (raw : String) :
    bodyNameOf? delimiter raw = (read delimiter number raw).bodyName? := rfl

theorem recordOf?_eq_bind (delimiter : Char) (raw : String) :
    recordOf? delimiter raw = (kindOf? delimiter raw).bind fun kind =>
      kind.record? (read delimiter 1 raw).fields := rfl

/-- What the lines of a file declare. -/
def records (delimiter : Char) (raws : List String) : List ComponentRecord :=
  raws.filterMap (recordOf? delimiter)

/-- The name fields of the body lines of a file. -/
def bodyNames (delimiter : Char) (raws : List String) : List String :=
  raws.filterMap (bodyNameOf? delimiter)

end Line

namespace Component

/-! ### Runs over the first lines of a file -/

/-- Reads the first lines of a file. -/
def readLines (options : ReadOptions) (name : String) (raws : List String) :
    Except DefinitionError Component :=
  (Line.readFrom options.delimiter 1 raws).foldlM (fun component line =>
    (addLine options component line).result) (ofName name)

theorem result_read (options : ReadOptions) (name content : String) :
    (read options name content).result = readLines options name (Text.lines content) := by
  have hfold := Traced.result_foldlM (addLine options) (Line.readAll options.delimiter content)
    (ofName name)
  rw [read, Traced.result_bind, hfold]
  show readLines options name (Text.lines content) >>= _ = _
  cases readLines options name (Text.lines content) <;> rfl

variable {options : ReadOptions} {name : String} {component : Component}

/-- What a run over lines leaves: what the lines declare is added, and the field names are those in
the body lines. -/
theorem of_foldlM_addLine {number : Nat} {raws : List String} {start : Component}
    (h : (Line.readFrom options.delimiter number raws).foldlM (fun component line =>
      (addLine options component line).result) start = .ok component) :
    component = start.declareAll (Line.records options.delimiter raws) ∧
      component.fieldNames = start.fieldNames ++ Line.bodyNames options.delimiter raws := by
  -- from any component and any line on, since the later lines meet what the earlier ones added
  induction raws generalizing start number with
  | nil =>
    cases h
    simp [Line.records, Line.bodyNames]
  | cons raw raws ih =>
    rw [Line.readFrom_cons, foldlM_cons_eq_ok_iff] at h
    obtain ⟨next, hstep, hrest⟩ := h
    obtain ⟨hdeclared, hfields⟩ := ih hrest
    constructor
    · have hnext := eq_of_addLine_eq_ok Line.ofTag?_read_of_isBlank hstep
      rw [hdeclared, hnext, ← Line.recordOf?_eq]
      cases hrecord : Line.recordOf? options.delimiter raw <;> simp [Line.records, hrecord]
    · have hnext := fieldNames_of_addLine_eq_ok Line.ofTag?_read_of_isBlank hstep
      rw [hfields, hnext, ← Line.bodyNameOf?_eq]
      cases hbody : Line.bodyNameOf? options.delimiter raw <;> simp [Line.bodyNames, hbody]

theorem eq_declareAll_of_readLines {raws : List String}
    (h : readLines options name raws = .ok component) :
    component = (ofName name).declareAll (Line.records options.delimiter raws) :=
  (of_foldlM_addLine h).1

theorem name_of_readLines {raws : List String} (h : readLines options name raws = .ok component) :
    component.name = name := by
  rw [eq_declareAll_of_readLines h, declareAll_eq]
  rfl

theorem fieldNames_of_readLines {raws : List String}
    (h : readLines options name raws = .ok component) :
    component.fieldNames = Line.bodyNames options.delimiter raws := by
  rw [(of_foldlM_addLine h).2]
  rfl

end Component

end EntityCodegen
