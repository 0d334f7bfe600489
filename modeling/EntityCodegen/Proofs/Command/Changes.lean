import EntityCodegen.Command.Arguments
import EntityCodegen.Proofs.Command.Fixpoint
import EntityCodegen.Proofs.Command.Strictness
import EntityCodegen.Proofs.Project.Definitions

/-!
# What runs change

`no_output_before_success`: whatever the tree and the command line, nothing is written before all
that is to be written has been made. Looking commands leave the tree as it is, generating leaves it
when it ends over settings, directories or definitions, and making a settings file leaves one that
is there.

A run on a project goes by the files that it makes (`filesFor`): without them it ends over a failure
that comes before any writing (`run_generate_of_error`), and with them it only writes, compares or
shows them. So a run that changed the tree had all its files or made a settings file
(`changes_of_run`). The failures say how runs exit: the ones before writing and those of writing
exit with one, and two is left for a check that did not pass, a settings file that is there, and a
command line that is refused (`exitCode_eq_two_iff`).
-/

namespace EntityCodegen

/-! ### Failures before anything is written -/

/-- A failure over the settings, a definition directory or a definition. -/
inductive ProjectError.BeforeWriting : ProjectError → Prop
  | settings (error : SettingsError) : BeforeWriting (.settings error)
  | scan (error : ScanError) : BeforeWriting (.scan error)
  | definition (error : DefinitionError) : BeforeWriting (.definition error)

open ProjectError (BeforeWriting)

theorem ProjectError.BeforeWriting.exitCode {error : ProjectError} (h : error.BeforeWriting) :
    (Ending.failure error).exitCode = 1 := by
  cases h <;> rfl

theorem Settings.beforeWriting_of_readFile {tree : FileTree} {path : Path} {error : ProjectError}
    (h : (readFile tree path).result = .error error) : error.BeforeWriting := by
  rw [readFile] at h
  split at h
  · cases h
    exact .settings _
  · split at h
    · cases h
      exact .settings _
    · cases h

theorem Settings.beforeWriting_of_load {tree : FileTree} {root : Path} {file : Option Path}
    {error : ProjectError} (h : (load tree root file).result = .error error) :
    error.BeforeWriting := by
  rw [load.eq_def] at h
  split at h
  · split at h
    · exact beforeWriting_of_readFile h
    · cases h
      exact .settings _
  · simp only at h
    split at h
    · exact beforeWriting_of_readFile h
    · cases h

namespace Project

variable {project : Project} {tree : FileTree} {selection : Selection} {error : ProjectError}

theorem beforeWriting_of_load {options : ProjectOptions}
    (h : (load tree options.root options.settingsFile options.overrides).result = .error error) :
    error.BeforeWriting := by
  rw [load, Traced.result_bind, bind_eq_error_iff] at h
  rcases h with h | ⟨_, -, hloaded⟩
  · exact Settings.beforeWriting_of_load h
  · cases hloaded

theorem beforeWriting_of_build (h : (project.build tree selection).result = .error error) :
    error.BeforeWriting := by
  rw [result_build, bind_eq_error_iff] at h
  simp only [bind_eq_error_iff] at h
  rcases h with hoptions | ⟨options, -, hscan | ⟨components, -, hscan | ⟨enums, -, hread⟩⟩⟩
  · obtain ⟨fault, -, rfl⟩ := mapError_eq_error_iff.mp hoptions
    exact .settings _
  · obtain ⟨cause, rfl⟩ := exists_scanError_of_sourcesIn hscan
    exact .scan cause
  · obtain ⟨cause, rfl⟩ := exists_scanError_of_sourcesIn hscan
    exact .scan cause
  · obtain ⟨cause, -, rfl⟩ := mapError_eq_error_iff.mp hread
    exact .definition cause

theorem beforeWriting_of_generate (h : (project.generate tree selection).result = .error error) :
    error.BeforeWriting := by
  rw [generate, Traced.result_bind, bind_eq_error_iff] at h
  rcases h with h | ⟨_, -, hgenerated⟩
  · exact beforeWriting_of_build h
  · cases hgenerated

theorem generate_of_read_error {options : BuildOptions} {components enums : List DefinitionFile}
    {cause : DefinitionError} (hoptions : project.settings.buildOptions = .ok options)
    (hcomponents :
      tree.scanAny (project.root.join project.settings.input.components) = .ok components)
    (henums : tree.scanAny (project.root.join project.settings.input.enums) = .ok enums)
    (hread : (Schema.read options (components.map DefinitionFile.source)
      (enums.map DefinitionFile.source)).result = .error cause) :
    (project.generate tree .all).result = .error (.definition cause) := by
  have hsources := result_readDirectory_eq_ok_iff.mpr ⟨_, hcomponents, rfl⟩
  have hsources' := result_readDirectory_eq_ok_iff.mpr ⟨_, henums, rfl⟩
  have hoptions' : project.settings.buildOptions.mapError
      (fun fault => ProjectError.settings (.bad fault)) = .ok options := by
    rw [hoptions]
    rfl
  rw [generate, Traced.result_bind, result_build, hoptions']
  simp only [sourcesIn, Selection.hasComponents, Selection.hasEnums, if_true, hsources, hsources',
    ok_bind, hread]
  rfl

end Project

namespace FileTree

variable {tree : FileTree} {files : List (Path × String)} {error : ProjectError}

theorem failure_of_storeAll (h : (tree.storeAll files).failure = some error) :
    (∃ fault, error = .access fault) ∨ ∃ cause, error = .write cause := by
  induction files generalizing tree with
  | nil => cases h
  | cons file rest ih =>
    obtain ⟨path, text⟩ := file
    cases hstore : tree.store path text with
    | mk changed stored =>
      rw [storeAll, hstore] at h
      cases stored with
      | ok result => exact ih h
      | error cause =>
        cases h
        rw [store] at hstore
        split at hstore
        · cases hstore
          exact .inl ⟨_, rfl⟩
        · cases hstore
        · cases hreplace : (tree.replaceFile path text).2 with
          | ok result => simp [hreplace, Except.mapError] at hstore
          | error cause =>
            simp only [hreplace, Except.mapError, Prod.mk.injEq, Except.error.injEq] at hstore
            exact .inr ⟨cause, hstore.2.symm⟩

theorem not_beforeWriting_of_storeAll (h : (tree.storeAll files).failure = some error) :
    ¬ error.BeforeWriting := by
  rcases failure_of_storeAll h with ⟨_, rfl⟩ | ⟨_, rfl⟩ <;> rintro ⟨⟩

end FileTree

namespace Command

variable {tree : FileTree} {options : ProjectOptions} {selection : Selection} {dryRun : Bool}
  {error : ProjectError} {files : List (Path × String)} {output : Path} {force : Bool}

/-! ### Runs by the files that they make -/

theorem filesFor_eq_error_iff : filesFor tree options selection = .error error ↔
    (Project.load tree options.root options.settingsFile options.overrides).result =
        .error error ∨
      ∃ project, (Project.load tree options.root options.settingsFile options.overrides).result =
          .ok project ∧ (project.generate tree selection).result = .error error := by
  rw [filesFor, bind_eq_error_iff]
  refine or_congr_right (exists_congr fun project => and_congr_right fun _ => ?_)
  rw [bind_eq_error_iff]
  refine or_iff_left ?_
  rintro ⟨_, -, hmade⟩
  cases hmade

theorem filesFor_eq_ok_iff : filesFor tree options selection = .ok files ↔
    ∃ project generated,
      (Project.load tree options.root options.settingsFile options.overrides).result =
        .ok project ∧
      (project.generate tree selection).result = .ok generated ∧
      project.destinations generated.files = files := by
  simp only [filesFor, bind_eq_ok_iff]
  constructor
  · rintro ⟨project, hload, generated, hgenerate, hfiles⟩
    cases hfiles
    exact ⟨project, generated, hload, hgenerate, rfl⟩
  · rintro ⟨project, generated, hload, hgenerate, rfl⟩
    exact ⟨project, hload, generated, hgenerate, rfl⟩

theorem beforeWriting_of_filesFor (h : filesFor tree options selection = .error error) :
    error.BeforeWriting := by
  rcases filesFor_eq_error_iff.mp h with hload | ⟨project, -, hgenerate⟩
  · exact Project.beforeWriting_of_load hload
  · exact Project.beforeWriting_of_generate hgenerate

theorem run_generate_of_error (h : filesFor tree options selection = .error error) :
    ((generate options selection dryRun).run tree).tree = tree ∧
      ((generate options selection dryRun).run tree).ending = .failure error := by
  rcases filesFor_eq_error_iff.mp h with hload | ⟨project, hload, hgenerate⟩
  · simp [run, onProject, hload]
  · simp [run, onProject, hload, generateFiles, hgenerate]

theorem run_generate_of_ok (h : filesFor tree options selection = .ok files) :
    ((generate options selection dryRun).run tree).tree = (tree.writeAll dryRun files).tree ∧
      ((generate options selection dryRun).run tree).ending =
        (tree.writeAll dryRun files).failure.elim .success .failure := by
  obtain ⟨project, generated, hload, hgenerate, rfl⟩ := filesFor_eq_ok_iff.mp h
  simp only [run, onProject, hload, generateFiles, hgenerate, writeGenerated]
  cases (tree.writeAll dryRun (project.destinations generated.files)).failure <;>
    exact ⟨rfl, rfl⟩

theorem run_check_of_error (h : filesFor tree options .all = .error error) :
    ((check options).run tree).ending = .failure error := by
  rcases filesFor_eq_error_iff.mp h with hload | ⟨project, hload, hgenerate⟩
  · simp [run, onProject, hload]
  · simp [run, onProject, hload, checkFiles, hgenerate]

theorem run_check_of_ok (h : filesFor tree options .all = .ok files) :
    ((check options).run tree).ending = (checkGenerated tree files).ending := by
  obtain ⟨project, generated, hload, hgenerate, rfl⟩ := filesFor_eq_ok_iff.mp h
  simp only [run, onProject, hload, checkFiles, hgenerate]

theorem tree_of_run_check (options : ProjectOptions) (tree : FileTree) :
    ((check options).run tree).tree = tree := by
  simp only [run, onProject]
  cases (Project.load tree options.root options.settingsFile options.overrides).result with
  | error error => rfl
  | ok project =>
    simp only [checkFiles]
    cases (project.generate tree .all).result with
    | error error => rfl
    | ok generated =>
      simp only [checkGenerated]
      split <;> rfl

theorem tree_of_run_inspect (options : ProjectOptions) (tree : FileTree) :
    ((inspect options).run tree).tree = tree := by
  simp only [run, onProject]
  cases (Project.load tree options.root options.settingsFile options.overrides).result with
  | error error => rfl
  | ok project =>
    simp only [showSchema]
    cases (project.build tree .all).result <;> rfl

theorem exitCode_of_run_inspect (options : ProjectOptions) (tree : FileTree) :
    ((inspect options).run tree).ending.exitCode ≠ 2 := by
  simp only [run, onProject]
  cases hload : (Project.load tree options.root options.settingsFile options.overrides).result with
  | error error => simp [(Project.beforeWriting_of_load hload).exitCode]
  | ok project =>
    simp only [showSchema]
    cases hbuild : (project.build tree .all).result with
    | error error => simp [(Project.beforeWriting_of_build hbuild).exitCode]
    | ok schema => simp [Ending.exitCode]

/-! ### What changes the tree -/

/-- **A run that changed the tree had everything to write**: it made all its files before it stored
the first, or it made the settings file that was asked for. -/
theorem changes_of_run {command : Command} (h : (command.run tree).tree ≠ tree) :
    (∃ options selection files, command = generate options selection false ∧
      filesFor tree options selection = .ok files ∧
      (command.run tree).tree = (tree.storeAll files).tree) ∨
    ∃ output force written, command = init output force ∧ (tree.has output → force) ∧
      tree.writeFile output Settings.template.toUTF8 = .ok written ∧
      command.run tree = ⟨written, [], ["✓ Created configuration file: " ++ output.text],
        .success⟩ := by
  cases command with
  | generate options selection dryRun =>
    cases hfiles : filesFor tree options selection with
    | error error => exact absurd (run_generate_of_error hfiles).1 h
    | ok files =>
      have htree : ((generate options selection dryRun).run tree).tree =
          (tree.writeAll dryRun files).tree := (run_generate_of_ok hfiles).1
      cases dryRun with
      | true => exact absurd htree h
      | false => exact .inl ⟨options, selection, files, rfl, hfiles, htree⟩
  | check options => exact absurd (tree_of_run_check options tree) h
  | inspect options => exact absurd (tree_of_run_inspect options tree) h
  | init output force =>
    rw [run, makeSettings] at h ⊢
    split at h
    · exact absurd rfl h
    · next hfree =>
      rw [if_neg hfree]
      cases hwrite : tree.writeFile output Settings.template.toUTF8 with
      | error fault =>
        rw [hwrite] at h
        exact absurd rfl h
      | ok written => exact .inr ⟨output, force, written, rfl, by simpa using hfree, hwrite, rfl⟩

/-! ### Exit codes -/

/-- A check has all files to compare and reads them, and one is not up to date. -/
def CheckFails (tree : FileTree) (options : ProjectOptions) : Prop :=
  ∃ files, filesFor tree options .all = .ok files ∧ (tree.compareAll files).failure = none ∧
    ∃ file ∈ files, ¬ tree.UpToDate file.1 file.2

theorem exitCode_of_run_generate : ((generate options selection dryRun).run tree).ending.exitCode ≠
    2 := by
  cases hfiles : filesFor tree options selection with
  | error error =>
    rw [(run_generate_of_error hfiles).2, (beforeWriting_of_filesFor hfiles).exitCode]
    decide
  | ok files =>
    rw [(run_generate_of_ok hfiles).2]
    cases dryRun with
    | true => simp [FileTree.writeAll, FileTree.preview, Ending.exitCode]
    | false =>
      cases hfailure : (tree.storeAll files).failure with
      | none => simp [FileTree.writeAll, hfailure, Ending.exitCode]
      | some error =>
        rcases FileTree.failure_of_storeAll hfailure with ⟨_, rfl⟩ | ⟨_, rfl⟩ <;>
          simp [FileTree.writeAll, hfailure, Ending.exitCode]

theorem exitCode_of_run_check :
    ((check options).run tree).ending.exitCode = 2 ↔ CheckFails tree options := by
  rw [CheckFails]
  cases hfiles : filesFor tree options .all with
  | error error =>
    rw [run_check_of_error hfiles, (beforeWriting_of_filesFor hfiles).exitCode]
    simp
  | ok files =>
    rw [run_check_of_ok hfiles, checkGenerated]
    have hpassed : (∃ file ∈ files, ¬ tree.UpToDate file.1 file.2) ↔
        ¬ ∀ file ∈ files, tree.UpToDate file.1 file.2 := by
      simp
    cases hfailure : (tree.compareAll files).failure with
    | some fault => simp [Ending.exitCode, hfailure]
    | none =>
      simp only [Except.ok.injEq, exists_eq_left', hfailure, true_and, hpassed,
        ← FileTree.outdated_eq_zero_iff hfailure]
      cases (tree.compareAll files).outdated <;> simp [Ending.exitCode]

theorem exitCode_of_run_init :
    ((init output force).run tree).ending.exitCode = 2 ↔ tree.has output ∧ force = false := by
  rw [run, makeSettings]
  split
  · next hthere => simpa [Ending.exitCode] using hthere
  · next hfree =>
    have hfree' : ¬ (tree.has output ∧ force = false) := by simpa using hfree
    rw [iff_false_right hfree']
    cases tree.writeFile output Settings.template.toUTF8 <;> simp [Ending.exitCode]

theorem exitCode_eq_two_iff {command : Command} : (command.run tree).ending.exitCode = 2 ↔
    (∃ options, command = check options ∧ CheckFails tree options) ∨
      ∃ output, command = init output false ∧ tree.has output := by
  cases command with
  | generate options selection dryRun => simp [exitCode_of_run_generate]
  | check options => simp [exitCode_of_run_check]
  | inspect options => simp [exitCode_of_run_inspect]
  | init output force => simp [exitCode_of_run_init, and_comm]

end Command

/-! ### No output before success -/

open Command (CheckFails)

/-- A request that has nothing to write. -/
inductive Request.OnlyLooks : Request → Prop
  | check (options : ProjectOptions) : OnlyLooks (.command (.check options))
  | inspect (options : ProjectOptions) : OnlyLooks (.command (.inspect options))
  | preview (options : ProjectOptions) (selection : Selection) :
    OnlyLooks (.command (.generate options selection true))
  | version : OnlyLooks .version
  | help : OnlyLooks .help

/-- The run of a request writes nothing too early. -/
structure WritesLast (tree : FileTree) (request : Request) (outcome : Outcome) : Prop where
  /-- Looking leaves the tree as it is, however it ends. -/
  looks : request.OnlyLooks → outcome.tree = tree
  /-- So does generating that ends before there is something to write. -/
  generate : ∀ options selection dryRun error,
    request = .command (.generate options selection dryRun) →
    outcome.ending = .failure error → error.BeforeWriting → outcome.tree = tree
  /-- So does making a settings file that is there, which exits with two. -/
  init : ∀ output, request = .command (.init output false) → tree.has output →
    outcome.tree = tree ∧ outcome.ending.exitCode = 2

theorem Request.writesLast_run (tree : FileTree) (request : Request) :
    WritesLast tree request (request.run tree) := by
  cases request with
  | version => exact ⟨fun _ => rfl, fun _ _ _ _ _ _ _ => rfl, by rintro _ ⟨⟩⟩
  | help => exact ⟨fun _ => rfl, fun _ _ _ _ _ _ _ => rfl, by rintro _ ⟨⟩⟩
  | command command =>
    constructor
    · intro hlooks
      by_contra hchanged
      rcases Command.changes_of_run hchanged with
        ⟨_, _, _, rfl, -, -⟩ | ⟨_, _, _, rfl, -, -, -⟩ <;> cases hlooks
    · rintro options selection dryRun error ⟨⟩ hending hbefore
      by_contra hchanged
      rcases Command.changes_of_run hchanged with ⟨_, _, files, heq, hfiles, -⟩ | ⟨_, _, _, heq, -⟩
      · cases heq
        -- all files were there, so the failure is one of storing them
        have hstored : ((Command.generate options selection false).run tree).ending =
            (tree.storeAll files).failure.elim .success .failure :=
          (Command.run_generate_of_ok hfiles).2
        change ((Command.generate options selection false).run tree).ending = _ at hending
        rw [hstored] at hending
        cases hfailure : (tree.storeAll files).failure with
        | none => simp [hfailure] at hending
        | some cause =>
          rw [hfailure] at hending
          cases hending
          exact FileTree.not_beforeWriting_of_storeAll hfailure hbefore
      · cases heq
    · rintro output ⟨⟩ hthere
      refine ⟨?_, Command.exitCode_of_run_init.mpr ⟨hthere, rfl⟩⟩
      by_contra hchanged
      rcases Command.changes_of_run hchanged with ⟨_, _, _, heq, -⟩ | ⟨_, _, _, heq, hforce, -⟩
      · cases heq
      · cases heq
        cases hforce hthere

/-- **No output before success**, for every tree and every command line. A line that is read is run
without writing anything too early; and a run exits with two only for a line that is refused, for a
check that does not pass, or for a settings file that is there. -/
theorem no_output_before_success (tree : FileTree) (arguments : List String) :
    (∀ request verbosity, Arguments.read? arguments = some (request, verbosity) →
      WritesLast tree request (runArguments tree arguments).1) ∧
    ((runArguments tree arguments).1.ending.exitCode = 2 ↔
      Arguments.read? arguments = none ∨
      (∃ options verbosity,
        Arguments.read? arguments = some (.command (.check options), verbosity) ∧
          CheckFails tree options) ∨
      ∃ output verbosity,
        Arguments.read? arguments = some (.command (.init output false), verbosity) ∧
          tree.has output) := by
  rw [runArguments]
  cases Arguments.read? arguments with
  | none => exact ⟨by rintro _ _ ⟨⟩, by simp [Ending.exitCode]⟩
  | some read =>
    obtain ⟨request, verbosity⟩ := read
    refine ⟨fun _ _ h => ?_, ?_⟩
    · cases h
      exact request.writesLast_run tree
    · cases request with
      | command command =>
        simp only [Request.run, Command.exitCode_eq_two_iff]
        simp
      | version => simp [Request.run, Ending.exitCode]
      | help => simp [Request.run, Ending.exitCode]

/-! ### A project with a fault in its last line -/

namespace Command

def stateText : String :=
  "open\n= 2"

/-- The door's tree with the enumeration `gen/enum/state`. -/
def stateTree : FileTree :=
  doorTree.put ["work", "gen", "enum"] "state" (.file stateText.toUTF8)

theorem scanAny_state :
    stateTree.scanAny ⟨"./gen/comp"⟩ = .ok [⟨"door", ⟨"gen/comp/door"⟩, doorText⟩] ∧
      stateTree.scanAny ⟨"./gen/enum"⟩ = .ok [⟨"state", ⟨"gen/enum/state"⟩, stateText⟩] := by
  have hlocated : stateTree.locate ⟨"./gen/comp"⟩ = .ok ["work", "gen", "comp"] ∧
      stateTree.get? ["work", "gen", "comp"] = some .directory ∧
      FileTree.spell ⟨"./gen/comp"⟩ = some ⟨"gen/comp"⟩ ∧
      stateTree.get? ["work", "gen", "comp", "door"] = some (.file doorText.toUTF8) := by
    decide +kernel
  have hlocated' : stateTree.locate ⟨"./gen/enum"⟩ = .ok ["work", "gen", "enum"] ∧
      stateTree.get? ["work", "gen", "enum"] = some .directory ∧
      FileTree.spell ⟨"./gen/enum"⟩ = some ⟨"gen/enum"⟩ ∧
      stateTree.get? ["work", "gen", "enum", "state"] = some (.file stateText.toUTF8) := by
    decide +kernel
  have hnames : stateTree.namesIn ["work", "gen", "comp"] = ["door"] := by
    show ["door"].mergeSort = ["door"]
    simp
  have hnames' : stateTree.namesIn ["work", "gen", "enum"] = ["state"] := by
    show ["state"].mergeSort = ["state"]
    simp
  obtain ⟨hlocate, hdirectory, hspell, hfile⟩ := hlocated
  obtain ⟨hlocate', hdirectory', hspell', hfile'⟩ := hlocated'
  constructor
  · exact FileTree.scanAny_of_namesIn_singleton hlocate hdirectory hnames hspell
      ⟨hfile, by decide⟩ (FileTree.fromUTF8?_toUTF8 doorText)
  · exact FileTree.scanAny_of_namesIn_singleton hlocate' hdirectory' hnames' hspell'
      ⟨hfile', by decide⟩ (FileTree.fromUTF8?_toUTF8 stateText)

theorem filesFor_state : filesFor stateTree .standard .all =
    .error (.definition (.badDeclaration "state" 2 "= 2")) := by
  have hload : (Project.load stateTree ProjectOptions.standard.root
      ProjectOptions.standard.settingsFile ProjectOptions.standard.overrides).result =
        .ok doorProject := by
    decide +kernel
  have hread : (Schema.read .standard [⟨"door", doorText⟩] [⟨"state", stateText⟩]).result =
      .error (.badDeclaration "state" 2 "= 2") := by
    simp only [Schema.read, Schema.readComponents, Schema.readEnumerations,
      Source.distinctSorted, Source.sorted_singleton, Source.repeatedName?, Traced.result_bind]
    decide +kernel
  obtain ⟨hcomponents, henums⟩ := scanAny_state
  exact filesFor_eq_error_iff.mpr (.inr ⟨doorProject, hload,
    Project.generate_of_read_error rfl hcomponents henums hread⟩)

end Command

/-- The fault in the last line of the last file leaves the tree as it is. -/
theorem no_output_before_success_state :
    Arguments.read? ["generate"] = some (.command (.generate .standard .all false), 0) ∧
    (runArguments Command.stateTree ["generate"]).1.ending =
      .failure (.definition (.badDeclaration "state" 2 "= 2")) ∧
    (runArguments Command.stateTree ["generate"]).1.tree = Command.stateTree := by
  have hread : Arguments.read? ["generate"] =
      some (.command (.generate .standard .all false), 0) := by
    decide +kernel
  have hending : (runArguments Command.stateTree ["generate"]).1.ending =
      .failure (.definition (.badDeclaration "state" 2 "= 2")) := by
    rw [runArguments, hread]
    exact (Command.run_generate_of_error Command.filesFor_state).2
  obtain ⟨hwrites, -⟩ := no_output_before_success Command.stateTree ["generate"]
  exact ⟨hread, hending,
    (hwrites _ _ hread).generate _ _ _ _ rfl hending (.definition _)⟩

end EntityCodegen
