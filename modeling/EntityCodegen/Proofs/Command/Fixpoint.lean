import EntityCodegen.Command.Run
import EntityCodegen.Proofs.Command.Running

/-!
# Generating reaches a fixpoint in one run

`generate_settles`: after a run that generated all files, checking finds every file up to date and
generating again changes nothing. This takes that no output directory is a definition directory, and
that the settings path leads to what it led to before.

A run that succeeds stores its files (`of_run_generate_success`), so its tree grew by files in
output directories. In the grown tree the settings are the same (`Settings.load_eq_of_grows`), the
definitions are (`generate_of_apart`), and with them the files, which are up to date
(`settled_of_upToDate`).

That the settings path leads to no new entry is not enough (`not_settled_detour`). Where the run
makes a directory on the way of the path, the path may lead afterwards to a settings file that was
there all the time, but not for the run.
-/

namespace EntityCodegen

open FileTree (Grows)

namespace FileTree

variable {tree : FileTree} {path : Path} {location : Location} {name : String}

/-- Where the directory of a path is; the empty path is the working directory's. -/
def locateDirectory (tree : FileTree) (path : Path) : Except Fault Location :=
  tree.locate (path.join ⟨"."⟩)

theorem locateDirectory_of_locate (h : tree.locate path = .ok location)
    (hdirectory : tree.get? location = some .directory) :
    tree.locateDirectory path = .ok location :=
  (locate_join isSegment_dot).mpr
    ⟨location, (locate_eq_ok_iff.mp h).2.1, follow_dot.mpr ⟨hdirectory, rfl⟩⟩

theorem locateDirectory_of_join (hname : Path.IsFileName name)
    (h : tree.locate (path.join ⟨name⟩) = .ok location) :
    ∃ parent, tree.locateDirectory path = .ok parent ∧ location = parent ++ [name] := by
  obtain ⟨parent, hparent, hfollow⟩ := (locate_join hname.toIsSegment).mp h
  have hdirectory := get?_of_follow hfollow
  have hlocation := ((follow_eq_ok_iff hname.dot hname.up).mp hfollow).2.2.1
  exact ⟨parent, (locate_join isSegment_dot).mpr
    ⟨parent, hparent, follow_dot.mpr ⟨hdirectory, rfl⟩⟩, hlocation⟩

end FileTree

/-! ### The settings -/

theorem Settings.load_eq_of_grows {written : Location → Prop} {before after : FileTree}
    {root : Path} {file : Option Path} (h : Grows written before after)
    (hkept : ∀ location, after.locate (file.getD (root.join ⟨fileName⟩)) = .ok location →
      after.get? location = before.get? location)
    (hfound : after.has (file.getD (root.join ⟨fileName⟩)) →
      before.has (file.getD (root.join ⟨fileName⟩))) :
    Settings.load after root file = Settings.load before root file := by
  have hhas : after.has (file.getD (root.join ⟨fileName⟩)) =
      before.has (file.getD (root.join ⟨fileName⟩)) :=
    Bool.eq_iff_iff.mpr ⟨hfound, h.has⟩
  have hread (hthere : before.has (file.getD (root.join ⟨fileName⟩))) :
      readFile after (file.getD (root.join ⟨fileName⟩)) =
        readFile before (file.getD (root.join ⟨fileName⟩)) := by
    obtain ⟨entry, hentry⟩ := FileTree.has_iff.mp hthere
    obtain ⟨location, hlocate, hget⟩ := FileTree.find_eq_ok_iff.mp hentry
    have hlocate' := h.locate hlocate
    have hentry' := FileTree.find_eq_ok_iff.mpr
      ⟨location, hlocate', (hkept location hlocate').trans hget⟩
    rw [readFile, readFile, FileTree.readText, FileTree.readText, hentry, hentry']
  cases file with
  | none =>
    rw [Option.getD_none] at hhas hread
    rw [load, load]
    simp only [hhas]
    split
    · next hthere => exact hread hthere
    · rfl
  | some path =>
    rw [Option.getD_some] at hhas hread
    rw [load, load, hhas]
    split
    · next hthere => exact hread hthere
    · rfl

namespace Command

variable {options : ProjectOptions} {tree after : FileTree} {project : Project}
  {generated : Generated}

/-! ### What a run leaves alone -/

/-- A run from one tree to the other wrote no file into a directory from which it read definitions,
and what the settings path leads to was there before. -/
structure KeepsApart (options : ProjectOptions) (before after : FileTree) : Prop where
  directories : ∀ project,
    (Project.load before options.root options.settingsFile options.overrides).result =
      .ok project →
    ∀ output ∈ [project.settings.output.components, project.settings.output.enums],
    ∀ input ∈ [project.settings.input.components, project.settings.input.enums],
      after.locateDirectory (project.root.join output) ≠
        after.locateDirectory (project.root.join input)
  /-- It is neither a file that was written nor a directory that was made. -/
  settings : ∀ location, after.locate (check options).firstPath = .ok location →
    after.get? location = before.get? location

/-! ### What the next run finds -/

theorem not_written_of_apart {location : Location}
    (hgenerate : (project.generate tree .all).result = .ok generated)
    (hinput : ∀ output ∈ [project.settings.output.components, project.settings.output.enums],
      after.locateDirectory (project.root.join output) ≠ .ok location) (name : String) :
    ¬ ∃ file ∈ project.destinations generated.files,
      after.locate file.1 = .ok (location ++ [name]) := by
  rintro ⟨_, hmem, hlocate⟩
  obtain ⟨file, hfile, rfl⟩ := List.mem_map.mp hmem
  have hname := ((Project.apart_destinations hgenerate).1 file hfile).1
  obtain ⟨output, houtput, hdestination⟩ := Project.destination_eq project file
  rw [hdestination] at hlocate
  obtain ⟨parent, hparent, hsame⟩ := FileTree.locateDirectory_of_join hname hlocate
  rw [(List.append_inj' hsame rfl).1] at hinput
  exact hinput output houtput hparent

/-- **The definitions of a project are the same after its files were stored**, so the same files are
generated. -/
theorem generate_of_apart (hgenerate : (project.generate tree .all).result = .ok generated)
    (hgrows : Grows (fun location => ∃ file ∈ project.destinations generated.files,
      after.locate file.1 = .ok location) tree after)
    (hapart : ∀ output ∈ [project.settings.output.components, project.settings.output.enums],
      ∀ input ∈ [project.settings.input.components, project.settings.input.enums],
        after.locateDirectory (project.root.join output) ≠
          after.locateDirectory (project.root.join input)) :
    (project.generate after .all).result = .ok generated := by
  have hscan {input : Path} {files : List DefinitionFile}
      (hinput : input ∈ [project.settings.input.components, project.settings.input.enums])
      (hfiles : tree.scanAny (project.root.join input) = .ok files) :
      after.scanAny (project.root.join input) = tree.scanAny (project.root.join input) := by
    obtain ⟨location, hlocate, hdirectory⟩ :=
      FileTree.hasDirectory_iff.mp (FileTree.of_scanAny_eq_ok hfiles).1
    have hlocate' := FileTree.locateDirectory_of_locate (hgrows.locate hlocate)
      ((hgrows.change location).directory hdirectory)
    refine FileTree.scanAny_eq_of_grows hgrows hlocate hdirectory
      (not_written_of_apart hgenerate fun output houtput => ?_)
    exact hlocate' ▸ hapart output houtput input hinput
  obtain ⟨read, components, enums, hread, hcomponents, henums, hschema⟩ :=
    Project.generate_eq_ok_iff.mp hgenerate
  have hcomponents' := (hscan (by simp) hcomponents).trans hcomponents
  have henums' := (hscan (by simp) henums).trans henums
  exact Project.generate_eq_ok_iff.mpr
    ⟨read, components, enums, hread, hcomponents', henums', hschema⟩

/-! ### The fixpoint -/

/-- The project's generated files are up to date: checking says so of each, and generating finds
each unchanged and leaves the tree as it is. -/
structure Settled (options : ProjectOptions) (tree : FileTree) (project : Project)
    (generated : Generated) : Prop where
  load : (Project.load tree options.root options.settingsFile options.overrides).result =
    .ok project
  generate : (project.generate tree .all).result = .ok generated
  compareAll : tree.compareAll (project.destinations generated.files) =
    ⟨(project.destinations generated.files).map fun file => (file.1, .upToDate), none⟩
  check_exitCode : ((check options).run tree).ending.exitCode = 0
  check_printed : ((check options).run tree).printed =
    ["Checking generated sources...", "✓ Generated sources are up-to-date"]
  storeAll : tree.storeAll (project.destinations generated.files) =
    ⟨tree, (project.destinations generated.files).map fun file => .unchanged file.1, none⟩
  generate_ending : ((Command.generate options .all false).run tree).ending = .success
  generate_tree : ((Command.generate options .all false).run tree).tree = tree
  generate_printed : ((Command.generate options .all false).run tree).printed =
    ["Building schemas...", schemaLine generated.schema] ++
      (generated.files.map fun file => "unchanged " ++ (project.destination file).text) ++
      ["  0 of " ++ toString generated.files.length ++ " file(s) updated"]

theorem settled_of_upToDate
    (hload : (Project.load tree options.root options.settingsFile options.overrides).result =
      .ok project)
    (hgenerate : (project.generate tree .all).result = .ok generated)
    (hupToDate : ∀ file ∈ project.destinations generated.files,
      tree.UpToDate file.1 file.2) : Settled options tree project generated := by
  have hstore := FileTree.storeAll_of_upToDate hupToDate
  have hfailure : (tree.storeAll (project.destinations generated.files)).failure = none := by
    rw [hstore]
  obtain ⟨hchecked, hcheckPrinted⟩ := run_check_of_upToDate hload hgenerate hupToDate
  obtain ⟨hending, htree, hprinted⟩ := run_generate_eq hload hgenerate hfailure
  have hlines : ((project.destinations generated.files).map fun file =>
      WriteResult.unchanged file.1).flatMap resultLines =
        generated.files.map fun file => "unchanged " ++ (project.destination file).text := by
    rw [Project.destinations, List.map_map, List.flatMap_map, List.map_eq_flatMap]
    rfl
  have hupdated : updateLine ((project.destinations generated.files).map fun file =>
      WriteResult.unchanged file.1) =
        "  0 of " ++ toString generated.files.length ++ " file(s) updated" := by
    have hcount : ((project.destinations generated.files).map fun file =>
        WriteResult.unchanged file.1).countP WriteResult.wasWritten = 0 := by
      rw [List.countP_map]
      simp [WriteResult.wasWritten]
    rw [updateLine, hcount, List.length_map, Project.destinations, List.length_map]
    rfl
  rw [hstore] at htree hprinted
  exact {
    load := hload
    generate := hgenerate
    compareAll := FileTree.compareAll_of_upToDate hupToDate
    check_exitCode := hchecked
    check_printed := hcheckPrinted
    storeAll := hstore
    generate_ending := hending
    generate_tree := htree
    generate_printed := by rw [hprinted, hlines, hupdated] }

/-- **Generating reaches a fixpoint in one run**, whatever the project: where the run succeeded and
kept out of what it reads, checking finds every file up to date, and generating again finds every
file unchanged and leaves the tree as it is. -/
theorem generate_settles
    (hsuccess : ((generate options .all false).run tree).ending = .success)
    (hapart : KeepsApart options tree ((generate options .all false).run tree).tree)
    (hfound : ((generate options .all false).run tree).tree.has (check options).firstPath →
      tree.has (check options).firstPath) :
    ∃ project generated,
      Settled options ((generate options .all false).run tree).tree project generated := by
  obtain ⟨project, generated, hload, hgenerate, hfailure⟩ := of_run_generate_success hsuccess
  rw [(run_generate_eq hload hgenerate hfailure).2.1] at hapart hfound ⊢
  obtain ⟨hupToDate, hgrows⟩ :=
    FileTree.upToDate_of_storeAll (Project.place_ne_of_mem_destinations hgenerate tree) hfailure
  have hsettings := Settings.load_eq_of_grows hgrows hapart.settings hfound
  have hgenerate' := generate_of_apart hgenerate hgrows (hapart.directories project hload)
  refine ⟨project, generated, settled_of_upToDate ?_ hgenerate' hupToDate⟩
  rw [Project.load, hsettings]
  exact hload

/-! ### A project with one component -/

def doorText : String :=
  "body,float,pos,1"

/-- The working directory with the file `gen/comp/door` and the empty directory `gen/enum`. -/
def doorTree : FileTree :=
  (((((FileTree.empty.put [] "work" .directory).enter ["work"]).put ["work"] "gen" .directory).put
    ["work", "gen"] "enum" .directory).put ["work", "gen"] "comp" .directory).put
    ["work", "gen", "comp"] "door" (.file doorText.toUTF8)

def doorProject : Project :=
  ⟨⟨"."⟩, Settings.standard⟩

def doorSchema : Schema :=
  ⟨[⟨"door", "Invalid Name", [⟨"float", "pos", "1", "entity", "door", none, none⟩], [], []⟩], [], 0⟩

theorem scanAny_door : doorTree.scanAny ⟨"./gen/comp"⟩ =
    .ok [⟨"door", ⟨"gen/comp/door"⟩, doorText⟩] := by
  have hlocate : doorTree.locate ⟨"./gen/comp"⟩ = .ok ["work", "gen", "comp"] := by
    decide +kernel
  have hdirectory : doorTree.get? ["work", "gen", "comp"] = some .directory := by decide +kernel
  have hnames : doorTree.namesIn ["work", "gen", "comp"] = ["door"] := by
    show ["door"].mergeSort = ["door"]
    simp
  have hspell : FileTree.spell ⟨"./gen/comp"⟩ = some ⟨"gen/comp"⟩ := by decide +kernel
  have hfile : doorTree.get? ["work", "gen", "comp", "door"] = some (.file doorText.toUTF8) := by
    decide +kernel
  exact FileTree.scanAny_of_namesIn_singleton hlocate hdirectory hnames hspell
    ⟨hfile, by decide⟩ (FileTree.fromUTF8?_toUTF8 doorText)

theorem scanAny_door_enums : doorTree.scanAny ⟨"./gen/enum"⟩ = .ok [] := by
  have hlocate : doorTree.locate ⟨"./gen/enum"⟩ = .ok ["work", "gen", "enum"] := by
    decide +kernel
  have hdirectory : doorTree.get? ["work", "gen", "enum"] = some .directory := by decide +kernel
  refine FileTree.scanAny_of_namesIn_nil hlocate hdirectory ?_
  show ([] : List String).mergeSort = []
  simp

theorem generate_door : (doorProject.generate doorTree .all).result =
    .ok ⟨doorSchema, Project.filesOf doorSchema .all⟩ := by
  have hread : (Schema.read .standard [⟨"door", doorText⟩] []).result = .ok doorSchema := by
    simp only [Schema.read, Schema.readComponents, Schema.readEnumerations, Source.distinctSorted,
      Source.sorted_singleton, Source.sorted_nil, Source.repeatedName?, Traced.result_bind]
    rfl
  exact Project.generate_eq_ok_iff.mpr
    ⟨_, _, _, rfl, scanAny_door, scanAny_door_enums, hread, rfl⟩

/-- The tree after the run. -/
def doorStored : FileTree :=
  (doorTree.storeAll (doorProject.destinations (Project.filesOf doorSchema .all))).tree

theorem stored_door :
    (Project.load doorTree ProjectOptions.standard.root ProjectOptions.standard.settingsFile
      ProjectOptions.standard.overrides).result = .ok doorProject ∧
    (doorTree.storeAll (doorProject.destinations (Project.filesOf doorSchema .all))).failure =
      none ∧
    (∀ output ∈ [doorProject.settings.output.components, doorProject.settings.output.enums],
      ∀ input ∈ [doorProject.settings.input.components, doorProject.settings.input.enums],
        doorStored.locateDirectory (doorProject.root.join output) ≠
          doorStored.locateDirectory (doorProject.root.join input)) ∧
    doorStored.locate (check .standard).firstPath = .error .notFound := by
  decide +kernel

/-- The project has no settings file, and nothing it writes is in the way of its definitions. -/
theorem generate_settles_door :
    ((generate .standard .all false).run doorTree).ending = .success ∧
    KeepsApart .standard doorTree ((generate .standard .all false).run doorTree).tree ∧
    (((generate .standard .all false).run doorTree).tree.has (check .standard).firstPath →
      doorTree.has (check .standard).firstPath) ∧
    ∃ project generated, Settled .standard ((generate .standard .all false).run doorTree).tree
      project generated := by
  obtain ⟨hload, hfailure, hdirectories, hsettings⟩ := stored_door
  obtain ⟨hending, htree, -⟩ := run_generate_eq hload generate_door hfailure
  have hstored : ((generate .standard .all false).run doorTree).tree = doorStored := htree
  have hapart : KeepsApart .standard doorTree
      ((generate .standard .all false).run doorTree).tree := by
    rw [hstored]
    constructor
    · intro project hproject
      obtain rfl : doorProject = project := Except.ok.inj (hload.symm.trans hproject)
      exact hdirectories
    · intro location hlocation
      rw [hsettings] at hlocation
      cases hlocation
  have hfound : ((generate .standard .all false).run doorTree).tree.has
      (check .standard).firstPath → doorTree.has (check .standard).firstPath := by
    rw [hstored]
    intro hhas
    obtain ⟨entry, hentry⟩ := FileTree.has_iff.mp hhas
    obtain ⟨location, hlocation, -⟩ := FileTree.find_eq_ok_iff.mp hentry
    rw [hsettings] at hlocation
    cases hlocation
  exact ⟨hending, hapart, hfound, generate_settles hending hapart hfound⟩

/-! ### A settings file behind a directory that the run makes -/

/-- The working directory with a settings file, and an empty directory for definitions. -/
def detourTree : FileTree :=
  (((FileTree.empty.put [] "work" .directory).enter ["work"]).put ["work"] "schemagen.toml"
    (.file "[output]\ncomponent_dir = 'other'\n".toUTF8)).put [] "defs" .directory

/-- The project's root is the working directory, by way of a directory that is missing. -/
def detourOptions : ProjectOptions :=
  ⟨⟨"x/.."⟩, none,
    { Overrides.none with inputComponents := some ⟨"/defs"⟩, inputEnums := some ⟨"/defs"⟩ }⟩

def detourProject : Project :=
  ⟨⟨"x/.."⟩, Settings.standard.override detourOptions.overrides⟩

def detourSchema : Schema :=
  ⟨[], [], 0⟩

theorem generate_detour : (detourProject.generate detourTree .all).result =
    .ok ⟨detourSchema, Project.filesOf detourSchema .all⟩ := by
  have hlocate : detourTree.locate ⟨"/defs"⟩ = .ok ["defs"] := by decide +kernel
  have hdirectory : detourTree.get? ["defs"] = some .directory := by decide +kernel
  have hnames : detourTree.namesIn ["defs"] = [] := by
    show ([] : List String).mergeSort = []
    simp
  have hscan := FileTree.scanAny_of_namesIn_nil hlocate hdirectory hnames
  have hread : (Schema.read .standard [] []).result = .ok detourSchema := by
    simp only [Schema.read, Schema.readComponents, Schema.readEnumerations,
      Source.distinctSorted, Source.sorted_nil, Source.repeatedName?, Traced.result_bind]
    rfl
  exact Project.generate_eq_ok_iff.mpr ⟨_, _, _, rfl, hscan, hscan, hread, rfl⟩

/-- The tree after the run. -/
def detourStored : FileTree :=
  (detourTree.storeAll (detourProject.destinations (Project.filesOf detourSchema .all))).tree

theorem stored_detour :
    (Project.load detourTree detourOptions.root detourOptions.settingsFile
      detourOptions.overrides).result = .ok detourProject ∧
    (detourTree.storeAll (detourProject.destinations
      (Project.filesOf detourSchema .all))).failure = none ∧
    (∀ output ∈ [detourProject.settings.output.components, detourProject.settings.output.enums],
      ∀ input ∈ [detourProject.settings.input.components, detourProject.settings.input.enums],
        detourStored.locateDirectory (detourProject.root.join output) ≠
          detourStored.locateDirectory (detourProject.root.join input)) ∧
    detourStored.locate (check detourOptions).firstPath = .ok ["work", "schemagen.toml"] ∧
    detourStored.get? ["work", "schemagen.toml"] = detourTree.get? ["work", "schemagen.toml"] ∧
    ((Project.load detourStored detourOptions.root detourOptions.settingsFile
      detourOptions.overrides).result.toOption.map fun project =>
        (project.root, project.settings.output.components)) = some (⟨"x/.."⟩, ⟨"other"⟩) ∧
    detourStored.hasFile (((Path.mk "x/..").join ⟨"other"⟩).join ⟨Output.registryFile⟩) =
      false := by
  decide +kernel

/-- **Keeping apart is not enough for the settings**: here the run makes the missing directory, and
the next run finds the settings file by way of it, which sends the files elsewhere. -/
theorem not_settled_detour :
    ((generate detourOptions .all false).run detourTree).ending = .success ∧
    KeepsApart detourOptions detourTree
      ((generate detourOptions .all false).run detourTree).tree ∧
    ((check detourOptions).run
      ((generate detourOptions .all false).run detourTree).tree).ending.exitCode ≠ 0 := by
  obtain ⟨hload, hfailure, hdirectories, hsettings, hkept, hreload, hmissing⟩ := stored_detour
  obtain ⟨hending, htree, -⟩ := run_generate_eq hload generate_detour hfailure
  have hstored : ((generate detourOptions .all false).run detourTree).tree = detourStored := htree
  rw [hstored]
  refine ⟨hending, ⟨fun project hproject => ?_, fun location hlocation => ?_⟩, fun hchecked => ?_⟩
  · obtain rfl : detourProject = project := Except.ok.inj (hload.symm.trans hproject)
    exact hdirectories
  · rw [hsettings] at hlocation
    cases hlocation
    exact hkept
  · obtain ⟨project, generated, hproject, hgenerate, hupToDate⟩ := of_run_check_exitCode hchecked
    rw [hproject, Except.toOption, Option.map_some, Option.some.injEq, Prod.mk.injEq] at hreload
    obtain ⟨_, _, _, -, -, -, -, hfiles⟩ := Project.generate_eq_ok_iff.mp hgenerate
    have hregistry : ⟨.component, Output.registryFile, Output.registry
        generated.schema.components⟩ ∈ generated.files := by
      rw [hfiles, (Project.filesOf_perm generated.schema).mem_iff]
      simp [Project.fixedFiles]
    obtain ⟨location, content, hlocate, hentry, -⟩ := FileTree.upToDate_iff.mp
      (hupToDate _ (List.mem_map_of_mem hregistry))
    have hthere := FileTree.hasFile_iff.mpr ⟨location, content, hlocate, hentry⟩
    simp only [Project.destination, hreload.1, hreload.2, hmissing] at hthere
    cases hthere

end Command

end EntityCodegen
