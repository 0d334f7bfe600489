import EntityCodegen.Command.Run
import EntityCodegen.Proofs.Project.Destinations
import EntityCodegen.Proofs.Schema.Strictness

/-!
# Strict runs

`strict_only_refuses`: refusing unknown lines or repeated fields never changes what is read, it only
makes some runs fail; and a command that is asked to refuse unknown lines fails over such a line or
does exactly what it does otherwise.

What the schemas say (`Schema.sameUnless_read`) is carried through the commands: a strict project
differs from the project in one setting, which only the reading of component files looks at. So its
schema and its files are the same, and it keeps them in the same places (`sameUnless_generate`).
-/

namespace EntityCodegen

/-! ### Strict projects -/

/-- The options with unknown lines, repeated fields or both refused. -/
def BuildOptions.rejecting (options : BuildOptions) (unknownLines duplicateFields : Bool) :
    BuildOptions where
  reading := {
    delimiter := options.reading.delimiter
    unknownLines := if unknownLines then .reject else options.reading.unknownLines
    duplicateFields := if duplicateFields then .reject else options.reading.duplicateFields }
  wireType := options.wireType

def BuildOptions.withUnknownLines (options : BuildOptions) (policy : UnknownLines) :
    BuildOptions where
  reading := { options.reading with unknownLines := policy }
  wireType := options.wireType

theorem BuildOptions.tightens_rejecting (options : BuildOptions)
    (unknownLines duplicateFields : Bool) :
    (options.rejecting unknownLines duplicateFields).Tightens options := by
  refine ⟨⟨rfl, fun hreject => ?_, fun hreject => ?_⟩, rfl⟩
  · show (if unknownLines then _ else _) = _
    rw [hreject, ite_self]
  · show (if duplicateFields then _ else _) = _
    rw [hreject, ite_self]

/-- The project with unknown lines refused. -/
def Project.strict (project : Project) : Project where
  root := project.root
  settings := { project.settings with unknownLines := .reject }

/-- The options of a command with unknown lines refused. -/
def ProjectOptions.strict (options : ProjectOptions) : ProjectOptions where
  root := options.root
  settingsFile := options.settingsFile
  overrides := { options.overrides with strict := true }

def Command.strict : Command → Command
  | generate options selection dryRun => generate options.strict selection dryRun
  | check options => check options.strict
  | inspect options => inspect options.strict
  | init output force => init output force

theorem Settings.buildOptions_strict (project : Project) :
    project.strict.settings.buildOptions =
      project.settings.buildOptions.map (·.rejecting true false) := by
  have hdelimiter : project.strict.settings.delimiter = project.settings.delimiter := rfl
  have hwireType : project.strict.settings.wireType = project.settings.wireType := rfl
  rw [buildOptions, buildOptions, hdelimiter, hwireType]
  split
  · split <;> rfl
  · rfl

/-- A run ended over a line with an unknown tag. -/
def ProjectError.RefusesLine (error : ProjectError) : Prop :=
  ∃ file line tag text, error = .definition (.unknownTag file line tag text)

namespace Project

variable {project : Project} {tree : FileTree} {selection : Selection}

theorem result_load_strict (tree : FileTree) (options : ProjectOptions) :
    (load tree options.strict.root options.strict.settingsFile options.strict.overrides).result =
      (load tree options.root options.settingsFile options.overrides).result.map strict := by
  rw [load, load, Traced.result_bind, Traced.result_bind]
  show (Settings.load tree options.root options.settingsFile).result >>= _ = _
  cases (Settings.load tree options.root options.settingsFile).result <;> rfl

theorem refusesLine_of_added {options : BuildOptions} {error : DefinitionError}
    (h : (options.rejecting true false).reading.Added options.reading error) :
    ProjectError.RefusesLine (.definition error) := by
  cases h with
  | unknownTag file line tag text => exact ⟨file, line, tag, text, rfl⟩
  | duplicateField _ _ _ hstrict hlax => exact absurd hstrict hlax

theorem sameUnless_build (project : Project) (tree : FileTree) (selection : Selection) :
    SameUnless ProjectError.RefusesLine (project.strict.build tree selection).result
      (project.build tree selection).result := by
  rw [result_build, result_build, Settings.buildOptions_strict]
  cases project.settings.buildOptions with
  | error fault => exact .refl _
  | ok options =>
    -- the directories are read without regard to the options
    refine (SameUnless.refl (project.sourcesIn tree _ _)).bind fun components => ?_
    refine (SameUnless.refl (project.sourcesIn tree _ _)).bind fun enums => ?_
    exact (Schema.sameUnless_read (options.tightens_rejecting true false) components enums).mapError
      fun error hadded => refusesLine_of_added hadded

theorem sameUnless_generate (project : Project) (tree : FileTree) (selection : Selection) :
    SameUnless ProjectError.RefusesLine (project.strict.generate tree selection).result
      (project.generate tree selection).result := by
  simp only [generate, Traced.result_bind]
  exact (sameUnless_build project tree selection).bind_same _

end Project

/-! ### Strict commands -/

/-- The strict run failed over an unknown line, or it did what the other run did. -/
def Outcome.Tightens (strict lax : Outcome) : Prop :=
  (∃ error, strict.ending = .failure error ∧ error.RefusesLine) ∨
    strict.tree = lax.tree ∧ strict.printed = lax.printed ∧ strict.ending = lax.ending

theorem Outcome.Tightens.refl (outcome : Outcome) : outcome.Tightens outcome :=
  .inr ⟨rfl, rfl, rfl⟩

namespace Command

variable {tree : FileTree} {options : ProjectOptions}

theorem tightens_of_sameUnless {α : Type} {strict lax : Except ProjectError α}
    {outcome outcome' : Outcome} (h : SameUnless ProjectError.RefusesLine strict lax)
    (hfail : ∀ error, strict = .error error → outcome.ending = .failure error)
    (hsame : strict = lax → outcome.tree = outcome'.tree ∧ outcome.printed = outcome'.printed ∧
      outcome.ending = outcome'.ending) : outcome.Tightens outcome' := by
  rcases h with h | ⟨error, herror, hrefuses⟩
  · exact .inr (hsame h)
  · exact .inl ⟨error, hfail error herror, hrefuses⟩

theorem tightens_generateFiles (selection : Selection) (dryRun : Bool) (project : Project) :
    (generateFiles tree selection dryRun project.strict).Tightens
      (generateFiles tree selection dryRun project) := by
  refine tightens_of_sameUnless (project.sameUnless_generate tree selection) ?_ ?_
  · intro error herror
    simp only [generateFiles, herror]
  · intro hsame
    simp only [generateFiles, hsame]
    cases (project.generate tree selection).result <;> exact ⟨rfl, rfl, rfl⟩

theorem tightens_checkFiles (project : Project) :
    (checkFiles tree project.strict).Tightens (checkFiles tree project) := by
  refine tightens_of_sameUnless (project.sameUnless_generate tree .all) ?_ ?_
  · intro error herror
    simp only [checkFiles, herror]
  · intro hsame
    simp only [checkFiles, hsame]
    cases (project.generate tree .all).result <;> exact ⟨rfl, rfl, rfl⟩

theorem tightens_showSchema (project : Project) :
    (showSchema tree project.strict).Tightens (showSchema tree project) := by
  refine tightens_of_sameUnless (project.sameUnless_build tree .all) ?_ ?_
  · intro error herror
    simp only [showSchema, herror]
  · intro hsame
    simp only [showSchema, hsame]
    cases (project.build tree .all).result <;> exact ⟨rfl, rfl, rfl⟩

theorem tightens_onProject {step : Project → Outcome}
    (h : ∀ project, (step project.strict).Tightens (step project)) :
    (onProject tree options.strict step).Tightens (onProject tree options step) := by
  simp only [onProject, Project.result_load_strict]
  cases (Project.load tree options.root options.settingsFile options.overrides).result with
  | error error => exact .inr ⟨rfl, rfl, rfl⟩
  | ok project => exact h project

theorem tightens_run (tree : FileTree) (command : Command) :
    (command.strict.run tree).Tightens (command.run tree) := by
  cases command with
  | generate options selection dryRun =>
    exact tightens_onProject (tightens_generateFiles selection dryRun)
  | check options => exact tightens_onProject tightens_checkFiles
  | inspect options => exact tightens_onProject tightens_showSchema
  | init output force => exact .refl _

/-- The files that a command on a project makes, with their places. -/
def filesFor (tree : FileTree) (options : ProjectOptions) (selection : Selection) :
    Except ProjectError (List (Path × String)) := do
  let project ← (Project.load tree options.root options.settingsFile options.overrides).result
  let generated ← (project.generate tree selection).result
  pure (project.destinations generated.files)

theorem sameUnless_filesFor (tree : FileTree) (options : ProjectOptions) (selection : Selection) :
    SameUnless ProjectError.RefusesLine (filesFor tree options.strict selection)
      (filesFor tree options selection) := by
  rw [filesFor, filesFor, Project.result_load_strict]
  cases (Project.load tree options.root options.settingsFile options.overrides).result with
  | error error => exact .refl _
  | ok project => exact (project.sameUnless_generate tree selection).bind_same _

/-! ### Strictness only refuses -/

/-- The strict run fails more often, over faults that the options decide about, and is the same
where it does not. -/
structure OnlyRefusesMore (strict lax : Except DefinitionError Schema) : Prop where
  ok : ∀ schema, strict = .ok schema → lax = .ok schema
  error : ∀ error, strict = .error error → ¬ error.OptionsDecide → lax = .error error
  fails : (∃ error, lax = .error error) → ∃ error, strict = .error error

/-- **Strictness never changes what is read.** Under options that refuse unknown lines, repeated
fields or both a run gives the same schema or fails; leaving unknown lines out quietly is the same
as leaving them out with a warning; and a strict command makes the same files, or it fails. -/
theorem strict_only_refuses :
    (∀ (lax : BuildOptions) (unknownLines duplicateFields : Bool) (components enums : List Source),
      OnlyRefusesMore
        (Schema.read (lax.rejecting unknownLines duplicateFields) components enums).result
        (Schema.read lax components enums).result) ∧
    (∀ (options : BuildOptions) (components enums : List Source),
      (Schema.read (options.withUnknownLines .ignore) components enums).result =
        (Schema.read (options.withUnknownLines .warn) components enums).result) ∧
    (∀ (tree : FileTree) (options : ProjectOptions) (selection : Selection),
      (∃ error, filesFor tree options.strict selection = .error error) ∨
        filesFor tree options.strict selection = filesFor tree options selection) ∧
    ∀ (tree : FileTree) (command : Command),
      (command.strict.run tree).Tightens (command.run tree) := by
  refine ⟨fun lax unknownLines duplicateFields components enums => ?_,
    fun options components enums => ?_, fun tree options selection => ?_, tightens_run⟩
  · have hread := Schema.sameUnless_read
      (lax.tightens_rejecting unknownLines duplicateFields) components enums
    constructor
    · exact fun schema hok => hread.ok hok
    · exact fun error herror hfixed => hread.error herror fun hadded => hfixed hadded.optionsDecide
    · rintro ⟨error, herror⟩
      exact hread.exists_error herror
  · have hquiet {policy policy' : UnknownLines} (hpolicy' : policy' ≠ .reject) :
        (options.withUnknownLines policy).Tightens (options.withUnknownLines policy') :=
      ⟨⟨rfl, fun hreject => absurd hreject hpolicy', id⟩, rfl⟩
    exact Schema.read_congr (hquiet (by decide)) (hquiet (by decide)) components enums
  · rcases sameUnless_filesFor tree options selection with hsame | ⟨error, herror, -⟩
    · exact .inr hsame
    · exact .inl ⟨error, herror⟩

end Command

end EntityCodegen
