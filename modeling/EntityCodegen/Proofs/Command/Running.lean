import EntityCodegen.Command.Run
import EntityCodegen.Proofs.Project.Destinations

/-!
# What generating and checking do

Both commands load the project and make its files. Then the one stores them (`run_generate_eq`) and
the other compares them (`run_check_eq`), each with what that says of the files to print, and how
it ends is known from that alone.
-/

namespace EntityCodegen

namespace Command

variable {options : ProjectOptions} {tree : FileTree} {project : Project} {generated : Generated}

/-! ### Generating -/

theorem run_generate_eq
    (hload : (Project.load tree options.root options.settingsFile options.overrides).result =
      .ok project)
    (hgenerate : (project.generate tree .all).result = .ok generated)
    (hfailure : (tree.storeAll (project.destinations generated.files)).failure = none) :
    ((generate options .all false).run tree).ending = .success ∧
    ((generate options .all false).run tree).tree =
      (tree.storeAll (project.destinations generated.files)).tree ∧
    ((generate options .all false).run tree).printed =
      ["Building schemas...", schemaLine generated.schema] ++
        (tree.storeAll (project.destinations generated.files)).results.flatMap resultLines ++
        [updateLine (tree.storeAll (project.destinations generated.files)).results] := by
  simp only [run, onProject, hload, generateFiles, hgenerate, writeGenerated, FileTree.writeAll,
    Bool.false_eq_true, if_false, hfailure, true_and]
  rfl

theorem of_run_generate_success
    (h : ((generate options .all false).run tree).ending = .success) :
    ∃ project generated,
      (Project.load tree options.root options.settingsFile options.overrides).result =
        .ok project ∧
      (project.generate tree .all).result = .ok generated ∧
      (tree.storeAll (project.destinations generated.files)).failure = none := by
  rw [run, onProject] at h
  cases hload : (Project.load tree options.root options.settingsFile options.overrides).result with
  | error error => simp [hload] at h
  | ok project =>
    simp only [hload, generateFiles] at h
    cases hgenerate : (project.generate tree .all).result with
    | error error => simp [hgenerate] at h
    | ok generated =>
      simp only [hgenerate, writeGenerated, FileTree.writeAll, Bool.false_eq_true, if_false] at h
      cases hfailure : (tree.storeAll (project.destinations generated.files)).failure with
      | some error => simp [hfailure] at h
      | none => exact ⟨project, generated, rfl, hgenerate, hfailure⟩

/-! ### Checking -/

theorem run_check_eq
    (hload : (Project.load tree options.root options.settingsFile options.overrides).result =
      .ok project)
    (hgenerate : (project.generate tree .all).result = .ok generated)
    (hfailure : (tree.compareAll (project.destinations generated.files)).failure = none) :
    ((check options).run tree).ending.exitCode =
      (if (tree.compareAll (project.destinations generated.files)).outdated = 0 then 0 else 2) ∧
    ((check options).run tree).printed =
      ["Checking generated sources..."] ++
        (tree.compareAll (project.destinations generated.files)).statuses.flatMap statusLines ++
        [if (tree.compareAll (project.destinations generated.files)).outdated = 0 then
          "✓ Generated sources are up-to-date" else "  Run 'schemagen generate' to update"] := by
  simp only [run, onProject, hload, checkFiles, hgenerate, checkGenerated, hfailure]
  cases (tree.compareAll (project.destinations generated.files)).outdated <;> exact ⟨rfl, rfl⟩

theorem run_check_of_upToDate
    (hload : (Project.load tree options.root options.settingsFile options.overrides).result =
      .ok project)
    (hgenerate : (project.generate tree .all).result = .ok generated)
    (hupToDate : ∀ file ∈ project.destinations generated.files,
      tree.UpToDate file.1 file.2) :
    ((check options).run tree).ending.exitCode = 0 ∧ ((check options).run tree).printed =
      ["Checking generated sources...", "✓ Generated sources are up-to-date"] := by
  have hcompare := FileTree.compareAll_of_upToDate hupToDate
  have houtdated : (tree.compareAll (project.destinations generated.files)).outdated = 0 :=
    (FileTree.outdated_eq_zero_iff (by rw [hcompare])).mpr hupToDate
  have hlines : (tree.compareAll (project.destinations generated.files)).statuses.flatMap
      statusLines = [] := by
    rw [hcompare, List.flatMap_map]
    simp [statusLines]
  obtain ⟨hexit, hprinted⟩ := run_check_eq hload hgenerate (by rw [hcompare])
  rw [houtdated, if_pos rfl] at hexit hprinted
  rw [hlines] at hprinted
  exact ⟨hexit, hprinted⟩

theorem of_run_check_exitCode (h : ((check options).run tree).ending.exitCode = 0) :
    ∃ project generated,
      (Project.load tree options.root options.settingsFile options.overrides).result =
        .ok project ∧
      (project.generate tree .all).result = .ok generated ∧
      ∀ file ∈ project.destinations generated.files, tree.UpToDate file.1 file.2 := by
  have hfailed (error : ProjectError) : (Ending.failure error).exitCode ≠ 0 := by
    cases error <;> simp [Ending.exitCode]
  rw [run, onProject] at h
  cases hload : (Project.load tree options.root options.settingsFile options.overrides).result with
  | error error =>
    simp only [hload] at h
    exact absurd h (hfailed error)
  | ok project =>
    simp only [hload, checkFiles] at h
    cases hgenerate : (project.generate tree .all).result with
    | error error =>
      simp only [hgenerate] at h
      exact absurd h (hfailed error)
    | ok generated =>
      refine ⟨project, generated, rfl, hgenerate, ?_⟩
      simp only [hgenerate, checkGenerated] at h
      split at h
      · exact absurd h (hfailed _)
      · next hfailure houtdated => exact FileTree.upToDate_of_compareAll hfailure houtdated
      · exact absurd h (hfailed _)

end Command

end EntityCodegen
