import EntityCodegen.Definition.Component
import EntityCodegen.Definition.Enumeration
import EntityCodegen.Proofs.Text.Layout

/-!
# Definition files and their layout

`layoutFree`: how a definition file is laid out does not matter for what is read, nor for the fault
that it is refused for. Only the numbers of lines move, and only by the blank lines added above.

Both kinds of files are read line after line, and blank lines do nothing, so a reader goes by the
inked lines of the text (`ReadsLines`). The number of a line goes into events and faults and nowhere
else: a step on a line with another number is the same step with its report renumbered, and then so
is a whole run (`foldlM_renumber`).
-/

namespace EntityCodegen

/-! ### Renumbered reports -/

/-- The fault with the number of its line changed, if it has one. -/
def DefinitionError.renumber (f : Nat → Nat) : DefinitionError → DefinitionError
  | shortLine file line kind found text => shortLine file (f line) kind found text
  | unknownTag file line tag text => unknownTag file (f line) tag text
  | duplicateField file line field => duplicateField file (f line) field
  | badDeclaration file line text => badDeclaration file (f line) text
  | duplicateSymbol file line symbol => duplicateSymbol file (f line) symbol
  | reservedSymbol file line symbol => reservedSymbol file (f line) symbol
  | error => error

/-- The event with the number of its line changed, if it has one. -/
def Event.renumber (f : Nat → Nat) : Event → Event
  | unknownLine component line tag => unknownLine component (f line) tag
  | aliasedField component field line => aliasedField component field (f line)
  | dependenciesReplaced component line replaced => dependenciesReplaced component (f line) replaced
  | extraFields component line extra => extraFields component (f line) extra
  | event => event

namespace Traced

variable {α β σ : Type} {f : Nat → Nat}

/-- The computation with the lines in its events and in its fault renumbered. -/
def renumber (f : Nat → Nat) (computation : Traced DefinitionError α) : Traced DefinitionError α :=
  ⟨computation.events.map (Event.renumber f),
    computation.result.mapError (DefinitionError.renumber f)⟩

theorem renumber_reportAll (events : List Event) :
    (reportAll events : Traced DefinitionError Unit).renumber f =
      reportAll (events.map (Event.renumber f)) := rfl

theorem renumber_ofExcept (result : Except DefinitionError α) : (ofExcept result).renumber f =
    ofExcept (result.mapError (DefinitionError.renumber f)) := rfl

theorem renumber_bind (x : Traced DefinitionError α) (g : α → Traced DefinitionError β) :
    (x >>= g).renumber f = x.renumber f >>= fun value => (g value).renumber f := by
  obtain ⟨events, result⟩ := x
  cases result with
  | error error => rfl
  | ok value =>
    show (⟨(events ++ (g value).events).map (Event.renumber f), _⟩ : Traced _ _) = _
    rw [List.map_append]
    rfl

theorem foldlM_renumber {step : σ → String × Nat → Traced DefinitionError σ}
    (hstep : ∀ state text number,
      step state (text, f number) = (step state (text, number)).renumber f)
    (lines : List (String × Nat)) (state : σ) :
    (lines.map fun line => (line.1, f line.2)).foldlM step state =
      (lines.foldlM step state).renumber f := by
  induction lines generalizing state with
  | nil => rfl
  | cons line lines ih =>
    rw [List.map_cons, List.foldlM_cons, List.foldlM_cons, renumber_bind, hstep]
    exact bind_congr ih

theorem ofExcept_bind {ε : Type} (x : Except ε α) (g : α → Except ε β) :
    ofExcept (x >>= g) = ofExcept x >>= fun value => ofExcept (g value) := by
  cases x <;> rfl

theorem ofExcept_foldlM {ε : Type} (step : σ → α → Except ε σ) (xs : List α) (state : σ) :
    ofExcept (xs.foldlM step state) = xs.foldlM (fun state x => ofExcept (step state x)) state := by
  induction xs generalizing state with
  | nil => rfl
  | cons x xs ih =>
    rw [List.foldlM_cons, List.foldlM_cons, ofExcept_bind]
    exact bind_congr ih

end Traced

/-! ### Reading line after line -/

section
variable {α σ : Type} {read : String → Traced DefinitionError α} {first : σ}
  {step : σ → String × Nat → Traced DefinitionError σ} {finish : σ → Traced DefinitionError α}
  {content other : String}

/-- Text is read by its inked lines, whose numbers matter only for what is reported. -/
structure ReadsLines (read : String → Traced DefinitionError α) (first : σ)
    (step : σ → String × Nat → Traced DefinitionError σ)
    (finish : σ → Traced DefinitionError α) : Prop where
  read_eq : ∀ content, read content = (Text.inked content).foldlM step first >>= finish
  step_renumber : ∀ f state text number,
    step state (text, f number) = (step state (text, number)).renumber f
  finish_renumber : ∀ f state, (finish state).renumber f = finish state

theorem foldlM_inkedFrom (hblank : ∀ state number, step state ("", number) = pure state)
    (number : Nat) (raws : List String) (state : σ) :
    (Text.inkedFrom number raws).foldlM step state =
      (raws.zipIdx number).foldlM (fun state line => step state (Text.trim line.1, line.2))
        state := by
  induction raws generalizing number state with
  | nil => rfl
  | cons raw raws ih =>
    rw [List.zipIdx_cons, List.foldlM_cons]
    by_cases hraw : Text.trim raw = ""
    · rw [Text.inkedFrom_cons_blank _ hraw, hraw, hblank, pure_bind, ih]
    · rw [Text.inkedFrom_cons_inked _ hraw, List.foldlM_cons]
      exact bind_congr fun next => ih (number + 1) next

namespace ReadsLines

theorem congr (h : ReadsLines read first step finish) (hink : Text.inked other = Text.inked content) :
    read other = read content := by
  rw [h.read_eq, h.read_eq, hink]

/-- **The same lines under other numbers are read the same**, with the report renumbered. -/
theorem renumber {f : Nat → Nat} (h : ReadsLines read first step finish)
    (hink : Text.inked other = (Text.inked content).map fun line => (line.1, f line.2)) :
    read other = (read content).renumber f := by
  rw [h.read_eq, h.read_eq, hink, Traced.foldlM_renumber (h.step_renumber f),
    Traced.renumber_bind]
  exact bind_congr fun state => (h.finish_renumber f state).symm

end ReadsLines

end

/-! ### Component files -/

namespace Component

variable {options : ReadOptions} {component : Component} {line : Line} {f : Nat → Nat}

/-- Adds what a trimmed line declares. -/
def addInked (options : ReadOptions) (component : Component) (line : String × Nat) :
    Traced DefinitionError Component :=
  addLine options component ⟨line.2, line.1, Text.fields options.delimiter line.1⟩

theorem skipLine_renumber (policy : UnknownLines) :
    skipLine policy component { line with number := f line.number } =
      (skipLine policy component line).renumber f := by
  cases policy <;> rfl

theorem extraFieldEvents_renumber (file : String) (kind : LineKind) :
    extraFieldEvents file { line with number := f line.number } kind =
      (extraFieldEvents file line kind).map (Event.renumber f) := by
  rw [extraFieldEvents, extraFieldEvents]
  split <;> rfl

theorem addRecord_renumber (policy : DuplicateFields) (number : Nat) (record : ComponentRecord) :
    addRecord policy component (f number) record =
      (addRecord policy component number record).renumber f := by
  cases record with
  | body type name defaultValue =>
    simp only [addRecord]
    split
    · cases policy <;> rfl
    · rfl
  | stub outerType type lead name extra => rfl
  | depends names =>
    simp only [addRecord]
    split <;> rfl
  | displayName text => rfl

theorem addLine_renumber : addLine options component { line with number := f line.number } =
    (addLine options component line).renumber f := by
  by_cases hblank : line.isBlank
  · have hblank' : Line.isBlank { line with number := f line.number } := hblank
    rw [addLine, addLine, if_pos hblank, if_pos hblank']
    rfl
  have hblank' : ¬ Line.isBlank { line with number := f line.number } := hblank
  have htag : Line.tag { line with number := f line.number } = line.tag := rfl
  rw [addLine, addLine, if_neg hblank, if_neg hblank', htag]
  cases LineKind.ofTag? line.tag with
  | none => exact skipLine_renumber options.unknownLines
  | some kind =>
    simp only
    split
    · rfl
    · rw [Traced.renumber_bind, Traced.renumber_reportAll, ← extraFieldEvents_renumber]
      refine bind_congr fun _ => ?_
      cases kind.record? line.fields with
      | none => rfl
      | some record => exact addRecord_renumber options.duplicateFields line.number record

/-- What is done when all lines are read. -/
def finish (component : Component) : Traced DefinitionError Component := do
  Traced.reportAll component.readEvents
  pure component

theorem finish_renumber (component : Component) :
    (finish component).renumber f = finish component := by
  rw [finish, Traced.renumber_bind, Traced.renumber_reportAll]
  have hevents : component.readEvents.map (Event.renumber f) = component.readEvents := by
    rw [readEvents]
    split <;> rfl
  rw [hevents]
  rfl

theorem readsLines (options : ReadOptions) (name : String) :
    ReadsLines (read options name) (ofName name) (addInked options) finish where
  read_eq content := by
    have hblank (component : Component) (number : Nat) :
        addInked options component ("", number) = pure component := rfl
    have hlines : (Text.inked content).foldlM (addInked options) (ofName name) =
        (Line.readAll options.delimiter content).foldlM (addLine options) (ofName name) := by
      rw [Text.inked, foldlM_inkedFrom hblank, Line.readAll, List.foldlM_map]
      rfl
    rw [hlines]
    rfl
  step_renumber f component text number :=
    @addLine_renumber options component ⟨number, text, Text.fields options.delimiter text⟩ f
  finish_renumber f component := finish_renumber component

end Component

/-! ### Enum files -/

namespace Enumeration

variable {f : Nat → Nat}

theorem assign_renumber (file : String) (next : Option UInt32) (declaration : Declaration) :
    (assign file next declaration).mapError (DefinitionError.renumber f) =
      assign file next declaration := by
  rw [assign.eq_def]
  split
  · split
    · split <;> rfl
    · rfl
  · rfl
  · rfl

theorem addLine_renumber (state : Partial) (raw : String) (number : Nat) :
    addLine state raw (f number) =
      (addLine state raw number).mapError (DefinitionError.renumber f) := by
  simp only [addLine]
  split
  · rfl
  · split
    · rfl
    · next declaration hdeclaration =>
      split
      · rfl
      · split
        · rfl
        · have hassign := @assign_renumber f state.built.name state.next declaration
          cases hvalue : assign state.built.name state.next declaration with
          | ok value => rfl
          | error error =>
            rw [hvalue] at hassign
            exact congrArg Except.error (Except.error.inj hassign).symm

/-- Adds what a trimmed line declares. -/
def addInked (state : Partial) (line : String × Nat) : Traced DefinitionError Partial :=
  Traced.ofExcept (addLine state line.1 line.2)

def finish (name : String) (state : Partial) : Traced DefinitionError Enumeration := do
  Traced.report (.enumRead name state.built.size)
  pure state.built

theorem readsLines (name : String) :
    ReadsLines (read name) ⟨empty name, some 0⟩ addInked (finish name) where
  read_eq content := by
    have hblank (state : Partial) (number : Nat) : addInked state ("", number) = pure state := rfl
    have htrim (state : Partial) (raw : String) (number : Nat) :
        addInked state (Text.trim raw, number) = Traced.ofExcept (addLine state raw number) := by
      simp only [addInked, addLine, Text.trim_trim]
    have hlines : (Text.inked content).foldlM addInked ⟨empty name, some 0⟩ =
        Traced.ofExcept (((Text.lines content).zipIdx 1).foldlM
          (fun state line => addLine state line.1 line.2) ⟨empty name, some 0⟩) := by
      rw [Text.inked, foldlM_inkedFrom hblank, Traced.ofExcept_foldlM]
      simp only [htrim]
    rw [hlines, read, ofContent, Traced.ofExcept_bind, bind_assoc]
    exact bind_congr fun state => rfl
  step_renumber f state text number := by
    rw [addInked, addInked, addLine_renumber, Traced.renumber_ofExcept]
  finish_renumber f state := rfl

end Enumeration

/-! ### Layout -/

/-- How the text is laid out does not matter for what is read. Lines are the pieces of the text
between line feeds. -/
structure LayoutFree {α : Type} (read : String → Traced DefinitionError α) : Prop where
  /-- A carriage return may stand before every line feed. -/
  returns : ∀ content, read (Text.withReturns content) = read content
  /-- A line feed may stand at the end of the text. -/
  lastFeed : ∀ content, read (content ++ "\n") = read content
  /-- Any blanks may stand at the ends of lines. -/
  respaced : ∀ content others, List.Forall₂ Text.Respaced (Text.fields '\n' content) others →
    read (Text.ofLines others) = read content
  /-- Blank lines may stand between the lines; in what is reported of a line, its number is larger
  by the number of blank lines that were added before it. -/
  blankLines : ∀ content rows, rows.filterMap Text.Row.kept? = Text.fields '\n' content →
    (∀ raw, .added raw ∈ rows → Text.IsSpace raw) →
    read (Text.ofLines (rows.map Text.Row.text)) =
      (read content).renumber fun number => number + Text.Row.addedBefore rows number

theorem ReadsLines.layoutFree {α σ : Type} {read : String → Traced DefinitionError α} {first : σ}
    {step : σ → String × Nat → Traced DefinitionError σ} {finish : σ → Traced DefinitionError α}
    (h : ReadsLines read first step finish) : LayoutFree read where
  returns content := h.congr (Text.inked_withReturns content)
  lastFeed content := h.congr (Text.inked_append_newline content)
  respaced _ _ hothers := h.congr (Text.inked_ofLines_respaced hothers)
  blankLines _ _ hkept hadded := h.renumber (Text.inked_ofLines_texts hkept hadded)

/-- **The layout of definition files does not matter**, whatever the delimiter and the options, for
files that are read and for files that are refused. -/
theorem layoutFree_read :
    (∀ (options : ReadOptions) (name : String), LayoutFree (Component.read options name)) ∧
      ∀ name : String, LayoutFree (Enumeration.read name) :=
  ⟨fun options name => (Component.readsLines options name).layoutFree,
    fun name => (Enumeration.readsLines name).layoutFree⟩

/-- A short line is refused where it stands, and two lines further down behind two blank lines. -/
theorem layoutFree_read_short :
    (Component.read .standard "door" "body,float").result =
      .error (.shortLine "door" 1 .body 2 "body,float") ∧
    (Component.read .standard "door" "\n \t\nbody,float").result =
      .error (.shortLine "door" 3 .body 2 "body,float") := by
  have hshort : (Component.read .standard "door" "body,float").result =
      .error (.shortLine "door" 1 .body 2 "body,float") := by
    decide +kernel
  have hspace : ∀ raw, Text.Row.added raw ∈ [.added "", .added " \t", .kept "body,float"] →
      Text.IsSpace raw := by
    have hadded : Text.IsSpace "" ∧ Text.IsSpace " \t" := by decide
    simpa using hadded
  have hmoved := (layoutFree_read.1 .standard "door").blankLines "body,float"
    [.added "", .added " \t", .kept "body,float"] (by decide +kernel) hspace
  have htext : Text.ofLines ([.added "", .added " \t", .kept "body,float"].map Text.Row.text) =
      "\n \t\nbody,float" := by
    decide +kernel
  rw [htext] at hmoved
  refine ⟨hshort, ?_⟩
  rw [hmoved, Traced.renumber, hshort]
  rfl

end EntityCodegen
