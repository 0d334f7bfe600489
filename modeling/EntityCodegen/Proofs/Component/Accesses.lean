import EntityCodegen.Proofs.Component.Step

/-!
# Fields by position

The fields of a line are read by their positions. What a kind of line reads stands in one place
(`LineKind.accesses`) and how many fields it asks for in another (`LineKind.minFields`); the two
agree in that a line has the fields that are read iff it has as many as are asked for
(`minFields_le_iff`).

`readChecked` reads a file with a check before every access, and stops where a field is missing. It
never does: it is the reader without these checks, event by event (`no_field_missing`). One line is
enough for this, since a line is taken apart only after its fields were counted
(`addLineChecked_eq`), and a run is its lines one after the other.
-/

namespace EntityCodegen

/-! ### Accesses -/

/-- An access to the fields of a line. -/
inductive Access where
  /-- The field at the position. -/
  | field (position : Nat)
  /-- The fields from the position on. -/
  | tail (position : Nat)
  deriving DecidableEq, Repr

/-- The number of fields that a line must have for the access to be in range. -/
def Access.needs : Access → Nat
  | field position => position + 1
  | tail position => position

namespace LineKind

/-- The accesses by which a line of the kind is taken apart. -/
def accesses : LineKind → List Access
  | body => [.field 1, .field 2, .field 3]
  | stub => [.field 1, .field 2, .field 3, .field 4, .field 5]
  | depends => [.tail 1]
  | displayName => [.field 1]

theorem minFields_le_iff (kind : LineKind) (count : Nat) :
    kind.minFields ≤ count ↔ ∀ access ∈ kind.accesses, access.needs ≤ count := by
  cases kind <;> simp [minFields, accesses, Access.needs] <;> omega

end LineKind

/-! ### Reading with a check before every access -/

/-- Why a reader stops that checks each access to a field. -/
inductive ReadFault where
  | refused (error : DefinitionError)
  /-- A line of the kind does not have the fields of an access. -/
  | missing (line : Nat) (kind : LineKind) (access : Access)
  deriving DecidableEq, Repr

namespace Line

open Traced (fail)

def fieldAt (line : Line) (kind : LineKind) (position : Nat) : Traced ReadFault String :=
  match line.fields[position]? with
  | some text => pure text
  | none => fail (.missing line.number kind (.field position))

def tailFrom (line : Line) (kind : LineKind) (position : Nat) : Traced ReadFault (List String) :=
  if position ≤ line.fields.length then pure (line.fields.drop position)
  else fail (.missing line.number kind (.tail position))

theorem fieldAt_eq_pure {line : Line} {position : Nat} {text : String}
    (h : line.fields[position]? = some text) (kind : LineKind) :
    line.fieldAt kind position = pure text := by
  rw [fieldAt, h]

theorem tailFrom_eq_pure {line : Line} {position : Nat} (h : position ≤ line.fields.length)
    (kind : LineKind) : line.tailFrom kind position = pure (line.fields.drop position) :=
  if_pos h

end Line

namespace Component

open Traced (fail report reportAll)

/-- What becomes of a body field whose name may be taken. -/
def checkName (policy : DuplicateFields) (component : Component) (number : Nat) (name : String) :
    Traced ReadFault Unit :=
  if component.hasField name then
    match policy with
    | .reject => fail (.refused (.duplicateField component.name number name))
    | .allow => report (.aliasedField component.name name number)
  else pure ()

/-- Takes a line of the kind apart and adds what it declares. The name of a body field is looked at
before its other fields. -/
def takeApart (policy : DuplicateFields) (component : Component) (line : Line) :
    LineKind → Traced ReadFault Component
  | .body => do
    checkName policy component line.number (← line.fieldAt .body 2)
    return component.pushBody (← line.fieldAt .body 1) (← line.fieldAt .body 2)
      (← line.fieldAt .body 3)
  | .stub => do
    return component.pushStub (← line.fieldAt .stub 1) (← line.fieldAt .stub 2)
      (← line.fieldAt .stub 3) (← line.fieldAt .stub 4) (← line.fieldAt .stub 5)
  | .depends => do
    reportAll (if component.dependencies.isEmpty then []
      else [.dependenciesReplaced component.name line.number component.dependencies])
    return { component with dependencies := ← line.tailFrom .depends 1 }
  | .displayName => do
    return { component with displayName := ← line.fieldAt .displayName 1 }

/-- Refuses a line with too few fields, and reports the fields that its kind does not use. -/
def countFields (file : String) (line : Line) (kind : LineKind) : Traced ReadFault Unit :=
  if line.fields.length < kind.minFields then
    fail (.refused (.shortLine file line.number kind line.fields.length line.text))
  else reportAll (extraFieldEvents file line kind)

def addLineChecked (options : ReadOptions) (component : Component) (line : Line) :
    Traced ReadFault Component :=
  if line.isBlank then pure component
  else
    match LineKind.ofTag? line.tag with
    | none => (skipLine options.unknownLines component line).mapError .refused
    | some kind => do
      countFields component.name line kind
      takeApart options.duplicateFields component line kind

/-- Reads a component file with a check before every access to a field. -/
def readChecked (options : ReadOptions) (name content : String) : Traced ReadFault Component := do
  let component ← (Line.readAll options.delimiter content).foldlM (addLineChecked options)
    (ofName name)
  reportAll component.readEvents
  pure component

end Component

/-! ### No check fails -/

namespace Traced

variable {ε δ α β σ : Type}

theorem mapError_bind (f : ε → δ) (x : Traced ε α) (g : α → Traced ε β) :
    (x >>= g).mapError f = x.mapError f >>= fun value => (g value).mapError f := by
  obtain ⟨events, result⟩ := x
  cases result <;> rfl

theorem foldlM_mapError (f : ε → δ) (step : σ → α → Traced ε σ) (xs : List α) (state : σ) :
    xs.foldlM (fun state x => (step state x).mapError f) state =
      (xs.foldlM step state).mapError f := by
  induction xs generalizing state with
  | nil => rfl
  | cons x xs ih =>
    rw [List.foldlM_cons, List.foldlM_cons, mapError_bind]
    exact bind_congr ih

end Traced

namespace Component

variable {component : Component} {line : Line} {kind : LineKind}

theorem checkName_eq (policy : DuplicateFields) (type name defaultValue : String) (number : Nat) :
    (checkName policy component number name >>= fun _ =>
        pure (component.pushBody type name defaultValue)) =
      (addRecord policy component number (.body type name defaultValue)).mapError .refused := by
  simp only [checkName, addRecord]
  split
  · cases policy <;> rfl
  · rfl

/-- **Where the accesses of its kind are in range, a line is taken apart as its record says.** -/
theorem takeApart_eq (policy : DuplicateFields)
    (h : ∀ access ∈ kind.accesses, access.needs ≤ line.fields.length) :
    ∃ record, kind.record? line.fields = some record ∧
      takeApart policy component line kind =
        (addRecord policy component line.number record).mapError .refused := by
  have hat {position : Nat} (hposition : .field position ∈ kind.accesses) :
      ∃ text, line.fields[position]? = some text :=
    ⟨_, List.getElem?_eq_getElem (h _ hposition)⟩
  cases kind with
  | body =>
    obtain ⟨type, htype⟩ := @hat 1 (by decide)
    obtain ⟨name, hname⟩ := @hat 2 (by decide)
    obtain ⟨defaultValue, hvalue⟩ := @hat 3 (by decide)
    refine ⟨.body type name defaultValue, by simp [LineKind.record?, htype, hname, hvalue], ?_⟩
    simp only [takeApart, Line.fieldAt_eq_pure htype, Line.fieldAt_eq_pure hname,
      Line.fieldAt_eq_pure hvalue, pure_bind]
    exact checkName_eq policy type name defaultValue line.number
  | stub =>
    obtain ⟨outerType, houter⟩ := @hat 1 (by decide)
    obtain ⟨type, htype⟩ := @hat 2 (by decide)
    obtain ⟨lead, hlead⟩ := @hat 3 (by decide)
    obtain ⟨name, hname⟩ := @hat 4 (by decide)
    obtain ⟨extra, hextra⟩ := @hat 5 (by decide)
    refine ⟨.stub outerType type lead name extra,
      by simp [LineKind.record?, houter, htype, hlead, hname, hextra], ?_⟩
    simp only [takeApart, Line.fieldAt_eq_pure houter, Line.fieldAt_eq_pure htype,
      Line.fieldAt_eq_pure hlead, Line.fieldAt_eq_pure hname, Line.fieldAt_eq_pure hextra,
      pure_bind]
    rfl
  | depends =>
    have htail : 1 ≤ line.fields.length := h (.tail 1) (by decide)
    have hne : line.fields.isEmpty = false := by
      rw [List.isEmpty_eq_false_iff, ← List.length_pos_iff]
      exact htail
    refine ⟨.depends (line.fields.drop 1), by simp [LineKind.record?, hne], ?_⟩
    simp only [takeApart, Line.tailFrom_eq_pure htail, pure_bind]
    rfl
  | displayName =>
    obtain ⟨text, htext⟩ := @hat 1 (by decide)
    refine ⟨.displayName text, by simp [LineKind.record?, htext], ?_⟩
    simp only [takeApart, Line.fieldAt_eq_pure htext, pure_bind]
    rfl

/-- **No access of a line is out of range**: it is added as it is without the checks. -/
theorem addLineChecked_eq (options : ReadOptions) (component : Component) (line : Line) :
    addLineChecked options component line = (addLine options component line).mapError .refused := by
  rw [addLineChecked, addLine]
  split
  case isTrue => rfl
  cases LineKind.ofTag? line.tag with
  | none => rfl
  | some kind =>
    dsimp only
    by_cases hshort : line.fields.length < kind.minFields
    · rw [countFields, if_pos hshort, if_pos hshort]
      rfl
    · obtain ⟨record, hrecord, htaken⟩ := takeApart_eq options.duplicateFields
        ((kind.minFields_le_iff _).mp (Nat.not_lt.mp hshort))
      rw [countFields, if_neg hshort, if_neg hshort, hrecord, htaken, Traced.mapError_bind]
      rfl

theorem readChecked_eq (options : ReadOptions) (name content : String) :
    readChecked options name content = (read options name content).mapError .refused := by
  have hstep : addLineChecked options = fun component line =>
      (addLine options component line).mapError .refused :=
    funext₂ (addLineChecked_eq options)
  rw [readChecked, read, hstep, Traced.foldlM_mapError, Traced.mapError_bind]
  rfl

/-- **No field is missing where it is read**, on any run: every access to a line whose fields were
counted is in range, so the reader that checks each access is the reader. The count is not too
strict either: a line that it refuses lacks a field that would be read. -/
theorem no_field_missing (options : ReadOptions) (name content : String) :
    readChecked options name content = (read options name content).mapError .refused ∧
    (∀ number kind access,
      (readChecked options name content).result ≠ .error (.missing number kind access)) ∧
    ∀ line ∈ Line.readAll options.delimiter content, ∀ kind,
      LineKind.ofTag? line.tag = some kind →
        (kind.minFields ≤ line.fields.length ↔
          ∀ access ∈ kind.accesses, access.needs ≤ line.fields.length) := by
  have hsame := readChecked_eq options name content
  refine ⟨hsame, fun number kind access h => ?_, fun line _ kind _ => kind.minFields_le_iff _⟩
  rw [hsame] at h
  have hmapped : (read options name content).result.mapError ReadFault.refused =
    .error (.missing number kind access) := h
  cases hresult : (read options name content).result <;> rw [hresult] at hmapped <;> cases hmapped

def tabOptions : ReadOptions :=
  ⟨'\t', .warn, .reject⟩

/-- The last field of the second line is empty, and so it is lost with the blanks at the end. -/
def tabbedDoor : String :=
  "body\tint\tlock\t0\nbody\tint\tbolt\t"

theorem no_field_missing_tabs :
    (readChecked tabOptions "door" tabbedDoor).result =
        .error (.refused (.shortLine "door" 2 .body 3 "body\tint\tbolt")) ∧
      ⟨1, "body\tint\tlock\t0", ["body", "int", "lock", "0"]⟩ ∈ Line.readAll '\t' tabbedDoor ∧
      LineKind.ofTag? "body" = some .body ∧
      ∀ access ∈ LineKind.body.accesses, access.needs ≤ 4 := by
  obtain ⟨hsame, -, hrange⟩ := no_field_missing tabOptions "door" tabbedDoor
  have hline : ⟨1, "body\tint\tlock\t0", ["body", "int", "lock", "0"]⟩ ∈
      Line.readAll '\t' tabbedDoor := by decide +kernel
  have htag : LineKind.ofTag? "body" = some .body := by decide
  refine ⟨?_, hline, htag, (hrange _ hline .body htag).mp (by decide)⟩
  rw [hsame]
  decide +kernel

end Component

end EntityCodegen
