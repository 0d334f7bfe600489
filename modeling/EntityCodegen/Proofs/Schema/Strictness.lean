import EntityCodegen.Proofs.Component.Reading
import EntityCodegen.Proofs.Schema.Reading

/-!
# Reading under stricter options

`sameUnless_read`: options that refuse more make a run fail or leave its result as it is, and what
they add to the failures are unknown tags and repeated field names.

Two runs over the same lines do the same with each line, unless it has an unknown tag or repeats a
name and only the stricter options refuse that (`Component.sameUnless_addLine`). Until such a line
both have read the same component, so they go on together, through all lines of a file and all files
of a run. Options that refuse the same things give the same result (`read_congr`).
-/

namespace EntityCodegen

/-! ### Stricter options -/

/-- What the lax options refuse, the strict ones refuse. -/
structure ReadOptions.Tightens (strict lax : ReadOptions) : Prop where
  delimiter : strict.delimiter = lax.delimiter
  unknownLines : lax.unknownLines = .reject → strict.unknownLines = .reject
  duplicateFields : lax.duplicateFields = .reject → strict.duplicateFields = .reject

/-- A fault for which only the strict options refuse a file. -/
inductive ReadOptions.Added (strict lax : ReadOptions) : DefinitionError → Prop
  | unknownTag (file : String) (line : Nat) (tag text : String) :
      strict.unknownLines = .reject → lax.unknownLines ≠ .reject →
      Added strict lax (.unknownTag file line tag text)
  | duplicateField (file : String) (line : Nat) (field : String) :
      strict.duplicateFields = .reject → lax.duplicateFields ≠ .reject →
      Added strict lax (.duplicateField file line field)

/-- A fault for which a file is refused under some options only. -/
def DefinitionError.OptionsDecide : DefinitionError → Prop
  | unknownTag .. | duplicateField .. => True
  | _ => False

theorem ReadOptions.Added.optionsDecide {strict lax : ReadOptions} {error : DefinitionError}
    (h : strict.Added lax error) : error.OptionsDecide := by
  cases h <;> trivial

structure BuildOptions.Tightens (strict lax : BuildOptions) : Prop where
  reading : strict.reading.Tightens lax.reading
  wireType : strict.wireType = lax.wireType

namespace Component

variable {strict lax : ReadOptions}

/-! ### One line -/

theorem sameUnless_addRecord (h : strict.Tightens lax) (component : Component) (number : Nat)
    (record : ComponentRecord) :
    SameUnless (strict.Added lax)
      (addRecord strict.duplicateFields component number record).result
      (addRecord lax.duplicateFields component number record).result := by
  rw [result_addRecord, result_addRecord]
  cases record.fieldName? with
  | none => exact .refl _
  | some name =>
    by_cases htaken : name ∈ component.fieldNames
    case neg => simp only [htaken, false_and, if_false, SameUnless.refl]
    by_cases hlax : lax.duplicateFields = .reject
    · simp only [hlax, h.duplicateFields hlax, SameUnless.refl]
    by_cases hstrict : strict.duplicateFields = .reject
    · refine .inr ⟨.duplicateField component.name number name, ?_,
        .duplicateField _ _ _ hstrict hlax⟩
      simp only [htaken, hstrict, and_self, if_true]
    · simp only [hlax, hstrict, and_false, if_false, SameUnless.refl]

theorem sameUnless_addLine (h : strict.Tightens lax) (component : Component) (line : Line) :
    SameUnless (strict.Added lax) (addLine strict component line).result
      (addLine lax component line).result := by
  cases hblank : line.isBlank with
  | true =>
    rw [addLine, addLine, if_pos hblank, if_pos hblank]
    exact .refl _
  | false =>
    obtain htag | ⟨kind, htag, hshort⟩ | ⟨kind, record, htag, hrecord⟩ := line.tag_cases
    · rw [result_addLine_of_unknown hblank htag, result_addLine_of_unknown hblank htag]
      by_cases hlax : lax.unknownLines = .reject
      · simp only [hlax, h.unknownLines hlax, SameUnless.refl]
      by_cases hstrict : strict.unknownLines = .reject
      · exact .inr ⟨_, if_pos hstrict, .unknownTag _ _ _ _ hstrict hlax⟩
      · simp only [hlax, hstrict, if_false, SameUnless.refl]
    · rw [result_addLine_of_short hblank htag hshort, result_addLine_of_short hblank htag hshort]
      exact .refl _
    · rw [result_addLine_of_record hblank htag hrecord,
        result_addLine_of_record hblank htag hrecord]
      exact sameUnless_addRecord h component line.number record

/-! ### All lines of a file -/

theorem sameUnless_read (h : strict.Tightens lax) (name content : String) :
    SameUnless (strict.Added lax) (read strict name content).result
      (read lax name content).result := by
  rw [result_read, result_read, readLines, readLines, h.delimiter]
  exact .foldlM _ (fun component line => sameUnless_addLine h component line) _

end Component

namespace Schema

/-! ### All files of a run -/

/-- **Stricter options add failures and change nothing else.** -/
theorem sameUnless_read {strict lax : BuildOptions} (h : strict.Tightens lax)
    (components enums : List Source) :
    SameUnless (strict.reading.Added lax.reading) (read strict components enums).result
      (read lax components enums).result := by
  have hread : SameUnless (strict.reading.Added lax.reading)
      (readUnlinked strict.reading components) (readUnlinked lax.reading components) := by
    refine SameUnless.bind (.refl _) fun ordered => ?_
    exact .mapM ordered fun source => Component.sameUnless_read h.reading source.name source.content
  rw [result_read, result_read, h.wireType]
  exact hread.bind_same _

theorem read_congr {options options' : BuildOptions} (h : options.Tightens options')
    (h' : options'.Tightens options) (components enums : List Source) :
    (read options components enums).result = (read options' components enums).result := by
  refine (sameUnless_read h components enums).eq_of_not_excused fun error hadded => ?_
  cases hadded with
  | unknownTag _ _ _ _ hstrict hlax => exact hlax (h'.reading.unknownLines hstrict)
  | duplicateField _ _ _ hstrict hlax => exact hlax (h'.reading.duplicateFields hstrict)

end Schema

end EntityCodegen
