import EntityCodegen.Proofs.Command.Fixpoint
import EntityCodegen.Proofs.Project.Comparing

/-!
# Checking agrees with generating

`check_agrees`: where generating succeeds, checking the same tree lists the files that generating
writes. The root and the output directories go only down.

Both commands make the same files from the tree, and what generating reports of each file is what
checking says of it (`reported_of_storeAll`). What they print of the files is said file by file
(`Reports`, `Lists`), with the words of each line.
-/

namespace EntityCodegen

namespace Command

variable {options : ProjectOptions} {tree : FileTree} {project : Project} {generated : Generated}

/-! ### What is printed of a file -/

/-- What generating prints of a file, by what became of it. -/
inductive Reports : WriteResult → String → Prop
  | written (path : Path) (bytes : Nat) :
      Reports (.written path bytes) ("✓ Written " ++ toString bytes ++ " bytes to " ++ path.text)
  | unchanged (path : Path) : Reports (.unchanged path) ("unchanged " ++ path.text)

/-- What checking prints of a file that is to be written. -/
inductive Lists (tree : FileTree) : Path → String → Prop
  | stale {path : Path} : tree.hasFile path →
      Lists tree path ("✗ " ++ path.text ++ " is out of date")
  | missing {path : Path} : ¬ tree.hasFile path →
      Lists tree path ("✗ " ++ path.text ++ " is missing")

theorem reports_of_reported {statuses : List (Path × FileStatus)} {results : List WriteResult}
    (h : List.Forall₂ Reported statuses results) :
    List.Forall₂ Reports results (results.flatMap resultLines) := by
  induction h with
  | nil => exact .nil
  | cons hfirst _ ih =>
    cases hfirst with
    | unchanged path => exact .cons (.unchanged path) ih
    | written path bytes _ => exact .cons (.written path bytes) ih

theorem lists_outdatedPaths {comparison : Comparison}
    (h : ∀ file ∈ comparison.statuses, file.2 = .missing ↔ ¬ tree.hasFile file.1) :
    List.Forall₂ (Lists tree) comparison.outdatedPaths
      (comparison.statuses.flatMap statusLines) := by
  unfold Comparison.outdatedPaths
  generalize comparison.statuses = statuses at h ⊢
  induction statuses with
  | nil => exact .nil
  | cons file rest ih =>
    obtain ⟨hfirst, hrest⟩ := List.forall_mem_cons.mp h
    have hlisted := ih hrest
    obtain ⟨path, status⟩ := file
    cases status with
    | upToDate => exact hlisted
    | stale =>
      have hfile : tree.hasFile path := by
        by_contra hnone
        cases hfirst.mpr hnone
      exact .cons (.stale hfile) hlisted
    | missing => exact .cons (.missing (hfirst.mp rfl)) hlisted

theorem path_eq_of_lists {path other : Path} {words : String}
    (hwords : words = " is out of date" ∨ words = " is missing")
    (h : Lists tree other ("✗ " ++ path.text ++ words)) : path = other := by
  -- whatever the paths are, the two words end in different letters
  have hends (text text' : String) :
      "✗ " ++ text ++ " is out of date" ≠ "✗ " ++ text' ++ " is missing" := by
    intro heq
    have hlast := congrArg (fun line => line.toList.getLast?) heq
    simp only [String.toList_append, List.getLast?_append] at hlast
    simp at hlast
  have hsame {text text' words : String} (heq : "✗ " ++ text ++ words = "✗ " ++ text' ++ words) :
      text = text' := by
    have hchars := congrArg String.toList heq
    simp only [String.toList_append] at hchars
    exact String.toList_inj.mp (List.append_cancel_left (List.append_cancel_right hchars))
  generalize hline : "✗ " ++ path.text ++ words = line at h
  cases h with
  | stale _ =>
    obtain rfl | rfl := hwords
    · exact congrArg Path.mk (hsame hline)
    · exact absurd hline.symm (hends _ _)
  | missing _ =>
    obtain rfl | rfl := hwords
    · exact absurd hline (hends _ _)
    · exact congrArg Path.mk (hsame hline)

theorem not_mem_printed {paths : List Path} {listing : List String} {path : Path}
    {words last : String} (hlisting : List.Forall₂ (Lists tree) paths listing)
    (hpath : path ∉ paths) (hwords : words = " is out of date" ∨ words = " is missing")
    (hlast : last.toList.head? ≠ some '✗') :
    "✗ " ++ path.text ++ words ∉ ["Checking generated sources..."] ++ listing ++ [last] := by
  have hhead : ("✗ " ++ path.text ++ words).toList.head? = some '✗' := by simp
  have hlisted : "✗ " ++ path.text ++ words ∉ listing := by
    induction hlisting with
    | nil => exact List.not_mem_nil
    | cons hfirst _ ih =>
      intro hmem
      rcases List.mem_cons.mp hmem with rfl | hmem
      · exact hpath (path_eq_of_lists hwords hfirst ▸ List.mem_cons_self)
      · exact ih (fun hother => hpath (List.mem_cons_of_mem _ hother)) hmem
  -- the first line and the last do not begin with a cross
  simp only [List.mem_append, List.mem_singleton, not_or]
  refine ⟨⟨?_, hlisted⟩, ?_⟩
  · intro heq
    rw [heq] at hhead
    revert hhead
    decide
  · rintro rfl
    exact hlast hhead

theorem updateLine_eq (batch : Batch) : updateLine batch.results =
    "  " ++ toString batch.writtenPaths.length ++ " of " ++ toString batch.results.length ++
      " file(s) updated" := by
  rw [updateLine, Batch.writtenPaths, List.length_map, List.countP_eq_length_filter]

/-! ### Both commands on one tree -/

/-- The root and the output directories are named without `..`. -/
structure GoesDown (options : ProjectOptions) (tree : FileTree) : Prop where
  root : ".." ∉ options.root.names
  output : ∀ project,
    (Project.load tree options.root options.settingsFile options.overrides).result =
      .ok project →
    ∀ output ∈ [project.settings.output.components, project.settings.output.enums],
      ".." ∉ output.names

/-- Checking and generating say the same of the project's files, when both run on the tree. -/
structure Agreed (options : ProjectOptions) (tree : FileTree) (project : Project)
    (generated : Generated) (batch : Batch) : Prop where
  load : (Project.load tree options.root options.settingsFile options.overrides).result =
    .ok project
  generate : (project.generate tree .all).result = .ok generated
  storeAll : tree.storeAll (project.destinations generated.files) = batch
  /-- Generating reports every file, in order. -/
  generate_printed : ∃ reports, List.Forall₂ Reports batch.results reports ∧
    ((Command.generate options .all false).run tree).printed =
      ["Building schemas...",
        "  " ++ toString generated.schema.components.length ++ " component(s), " ++
          toString generated.schema.enumerations.length ++ " enum(s), " ++
          toString generated.schema.wireIdCount ++ " wire id(s)"] ++ reports ++
      ["  " ++ toString batch.writtenPaths.length ++ " of " ++ toString batch.results.length ++
        " file(s) updated"]
  check_exitCode : ((check options).run tree).ending.exitCode =
    if batch.writtenPaths = [] then 0 else 2
  /-- Checking lists the files that generating writes, in the same order. -/
  check_printed : ∃ listing, List.Forall₂ (Lists tree) batch.writtenPaths listing ∧
    ((check options).run tree).printed = ["Checking generated sources..."] ++ listing ++
      [if batch.writtenPaths = [] then "✓ Generated sources are up-to-date"
        else "  Run 'schemagen generate' to update"]
  /-- It lists no file that generating leaves unchanged. -/
  not_listed : ∀ path, .unchanged path ∈ batch.results →
    path ∉ batch.writtenPaths ∧
      "✗ " ++ path.text ++ " is out of date" ∉ ((check options).run tree).printed ∧
      "✗ " ++ path.text ++ " is missing" ∉ ((check options).run tree).printed

theorem up_not_mem_destinations (hdown : GoesDown options tree)
    (hload : (Project.load tree options.root options.settingsFile options.overrides).result =
      .ok project)
    (hgenerate : (project.generate tree .all).result = .ok generated) :
    ∀ file ∈ project.destinations generated.files, ".." ∉ file.1.names := by
  intro _ hmem hup
  obtain ⟨file, hfile, rfl⟩ := List.mem_map.mp hmem
  have hname := ((Project.apart_destinations hgenerate).1 file hfile).1
  have hroot : project.root = options.root := by
    rw [Project.load, Traced.result_bind] at hload
    obtain ⟨settings, -, hproject⟩ := bind_eq_ok_iff.mp hload
    cases hproject
    rfl
  obtain ⟨output, houtput, hdestination⟩ := Project.destination_eq project file
  rw [hdestination, Path.names_join hname.slash, List.mem_append] at hup
  rcases hup with hup | hup
  · rcases Path.mem_names_of_join hup with hup | hup
    · exact hdown.root (hroot ▸ hup)
    · exact hdown.output project hload output houtput hup
  · have hlast := (List.mem_filter.mp hup).1
    exact hname.up (List.mem_singleton.mp hlast).symm

/-- **Checking lists what generating would write**, whatever the project: it exits with zero iff
nothing would be written, and otherwise with two after the paths that would be, in the same
order. -/
theorem check_agrees (hdown : GoesDown options tree)
    (hsuccess : ((generate options .all false).run tree).ending = .success) :
    ∃ project generated batch, Agreed options tree project generated batch := by
  obtain ⟨project, generated, hload, hgenerate, hfailure⟩ := of_run_generate_success hsuccess
  have hapart := Project.apart_of_mem_destinations hgenerate
  obtain ⟨hcompared, hreported⟩ := FileTree.reported_of_storeAll
    (Project.place_ne_of_mem_destinations hgenerate tree)
    (up_not_mem_destinations hdown hload hgenerate) hfailure
  have hwritten := Reported.writtenPaths_eq hreported
  have hdistinct : ((tree.storeAll (project.destinations generated.files)).results.map
      WriteResult.path).Nodup := by
    rw [Reported.map_path_eq hreported, FileTree.paths_of_compareAll hcompared]
    exact List.pairwise_map.mpr (hapart.imp FileTree.Apart.ne)
  have hlists := lists_outdatedPaths (FileTree.missing_iff_of_mem_statuses hcompared)
  obtain ⟨hexit, hchecked⟩ := run_check_eq hload hgenerate hcompared
  have hgenerated := (run_generate_eq hload hgenerate hfailure).2.2
  -- checking asks whether any file is outdated, which is whether any is written
  simp only [Comparison.outdated_eq_length, List.length_eq_zero_iff, ← hwritten] at hexit hchecked
  rw [← hwritten] at hlists
  rw [updateLine_eq] at hgenerated
  refine ⟨project, generated, _, {
    load := hload
    generate := hgenerate
    storeAll := rfl
    generate_printed := ⟨_, reports_of_reported hreported, hgenerated⟩
    check_exitCode := hexit
    check_printed := ⟨_, hlists, hchecked⟩
    not_listed := ?_ }⟩
  intro path hpath
  have hnot := Batch.not_mem_writtenPaths hdistinct hpath
  rw [hchecked]
  refine ⟨hnot, not_mem_printed hlists hnot (.inl rfl) ?_, not_mem_printed hlists hnot (.inr rfl) ?_⟩
  · split <;> decide
  · split <;> decide

/-! ### A project of which one file is up to date -/

/-- The files of the enumerations, with another text for the second. -/
def partlyFiles : List (Path × String) :=
  [(⟨"./src/enums/enums.h"⟩, Output.enumHeader []), (⟨"./src/enums/enums.cc"⟩, "")]

/-- The door's tree with these two files. -/
def partlyTree : FileTree :=
  (doorTree.storeAll partlyFiles).tree

theorem stored_partly :
    (Project.load partlyTree ProjectOptions.standard.root ProjectOptions.standard.settingsFile
      ProjectOptions.standard.overrides).result = .ok doorProject ∧
    (∀ output ∈ [doorProject.settings.output.components, doorProject.settings.output.enums],
      ∀ input ∈ [doorProject.settings.input.components, doorProject.settings.input.enums],
        partlyTree.locateDirectory (doorProject.root.join output) ≠
          partlyTree.locateDirectory (doorProject.root.join input)) ∧
    (partlyTree.storeAll (doorProject.destinations (Project.filesOf doorSchema .all))).failure =
      none ∧
    (partlyTree.storeAll (doorProject.destinations
      (Project.filesOf doorSchema .all))).results.map WriteResult.wasWritten =
        [true, true, true, true, false, true] := by
  decide +kernel

theorem generate_partly : (doorProject.generate partlyTree .all).result =
    .ok ⟨doorSchema, Project.filesOf doorSchema .all⟩ := by
  obtain ⟨-, hdirectories, -⟩ := stored_partly
  have hpaths : ∀ file ∈ partlyFiles,
      ∃ other ∈ doorProject.destinations (Project.filesOf doorSchema .all),
        other.1 = file.1 := by
    decide
  refine generate_of_apart generate_door
    ((FileTree.grows_storeAll doorTree partlyFiles).imp ?_) hdirectories
  rintro location ⟨file, hfile, hlocate⟩
  obtain ⟨other, hother, hsame⟩ := hpaths file hfile
  exact ⟨other, hother, hsame ▸ hlocate⟩

/-- All files but the fifth are written. -/
theorem check_agrees_partly :
    GoesDown .standard partlyTree ∧
    ((generate .standard .all false).run partlyTree).ending = .success ∧
    ∃ batch,
      Agreed .standard partlyTree doorProject ⟨doorSchema, Project.filesOf doorSchema .all⟩ batch ∧
      batch.results.map WriteResult.wasWritten = [true, true, true, true, false, true] := by
  obtain ⟨hload, -, hfailure, hwritten⟩ := stored_partly
  obtain ⟨hending, -, -⟩ := run_generate_eq hload generate_partly hfailure
  have hdown : GoesDown .standard partlyTree := by
    refine ⟨by decide, fun project hproject => ?_⟩
    obtain rfl : doorProject = project := Except.ok.inj (hload.symm.trans hproject)
    decide
  obtain ⟨project, generated, batch, hagreed⟩ := check_agrees hdown hending
  obtain rfl : doorProject = project := Except.ok.inj (hload.symm.trans hagreed.load)
  obtain rfl := Except.ok.inj (generate_partly.symm.trans hagreed.generate)
  refine ⟨hdown, hending, batch, hagreed, ?_⟩
  rw [← hagreed.storeAll]
  exact hwritten

end Command

end EntityCodegen
