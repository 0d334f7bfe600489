import EntityCodegen.Project.Generation
import EntityCodegen.Proofs.Project.Scanning
import EntityCodegen.Proofs.Project.Storing
import EntityCodegen.Proofs.Schema.WireIds

/-!
# Where generated files go

No two files of a run go to one place, even where both output directories are the same
(`apart_destinations`): the files of a component are told from the others by how their names end,
and from each other's by the names of the components (`pairwise_filesOf`). A component's name is the
name of a file, so the paths lead where their last names say (`isFileName_filesOf`).
-/

namespace EntityCodegen

open EntityCodegen.Path (IsSegment IsFileName isName_iff)

/-! ### The names of generated files -/

theorem append_ne_of_not_suffix {tail text : String} (name : String)
    (h : ¬ tail.toList <:+ text.toList) : name ++ tail ≠ text := by
  rintro rfl
  exact h (by simp)

theorem isFileName_append {name tail : String} (hname : IsSegment name) (htail : IsSegment tail)
    (hdots : ¬ tail.toList <:+ ['.', '.']) : IsFileName (name ++ tail) := by
  refine ⟨⟨?_, ?_, ?_⟩, append_ne_of_not_suffix name fun hsuffix => ?_,
    append_ne_of_not_suffix name hdots⟩
  · simp [hname.nonempty]
  · simp [hname.slash, htail.slash]
  · simp [hname.nul, htail.nul]
  · exact hdots (hsuffix.trans (by decide))

namespace Project

variable {schema : Schema}

/-- The files of a component. -/
def filesOfComponent (component : Component) : List OutputFile :=
  [⟨.component, component.headerFile, Output.componentHeader component⟩,
    ⟨.component, component.sourceFile, Output.componentSource component⟩]

/-- The files that every schema has. -/
def fixedFiles (schema : Schema) : List OutputFile :=
  [⟨.component, Output.registryFile, Output.registry schema.components⟩,
    ⟨.component, Output.filtersFile, Output.filters schema.components⟩] ++ schema.enumerationFiles

def fixedNames : List String :=
  [Output.registryFile, Output.filtersFile, Output.enumHeaderFile, Output.enumSourceFile]

theorem names_fixedFiles (schema : Schema) :
    (fixedFiles schema).map OutputFile.name = fixedNames := rfl

theorem filesOf_perm (schema : Schema) : (filesOf schema .all).Perm
    (fixedFiles schema ++ schema.components.flatMap filesOfComponent) := by
  have hfiles : filesOf schema .all =
      [⟨.component, Output.registryFile, Output.registry schema.components⟩,
        ⟨.component, Output.filtersFile, Output.filters schema.components⟩] ++
      schema.components.flatMap filesOfComponent ++ schema.enumerationFiles := rfl
  rw [hfiles, fixedFiles, List.append_assoc, List.append_assoc]
  exact List.perm_append_comm.append_left _

theorem filesOfComponent_subset {component : Component} (h : component ∈ schema.components) :
    filesOfComponent component ⊆ filesOf schema .all := by
  intro file hfile
  rw [(filesOf_perm schema).mem_iff, List.mem_append, List.mem_flatMap]
  exact .inr ⟨component, h, hfile⟩

theorem name_filesOfComponent {component : Component} {file : OutputFile}
    (h : file ∈ filesOfComponent component) :
    file.name = component.headerFile ∨ file.name = component.sourceFile := by
  rcases List.mem_cons.mp h with rfl | h
  · exact .inl rfl
  · rw [List.mem_singleton] at h
    exact .inr (by rw [h])

theorem name_not_mem_fixedNames {component : Component} {file : OutputFile}
    (h : file ∈ filesOfComponent component) : file.name ∉ fixedNames := by
  have hheader : ∀ text ∈ fixedNames, ¬ "_component.h".toList <:+ text.toList := by decide
  have hsource : ∀ text ∈ fixedNames, ¬ "_component.cc".toList <:+ text.toList := by decide
  intro hmem
  rcases name_filesOfComponent h with hname | hname
  · exact append_ne_of_not_suffix component.name (hheader _ hmem) hname.symm
  · exact append_ne_of_not_suffix component.name (hsource _ hmem) hname.symm

theorem headerFile_ne_sourceFile (component other : Component) :
    component.headerFile ≠ other.sourceFile := by
  intro h
  have hlast := congrArg (fun text => text.toList.getLast?) h
  simp [Component.headerFile, Component.sourceFile] at hlast

theorem name_ne_of_components {component other : Component} {file file' : OutputFile}
    (hne : component.name ≠ other.name) (h : file ∈ filesOfComponent component)
    (h' : file' ∈ filesOfComponent other) : file.name ≠ file'.name := by
  rcases name_filesOfComponent h with hname | hname <;>
    rcases name_filesOfComponent h' with hname' | hname' <;> rw [hname, hname']
  · exact fun heq => hne (String.append_left_inj _ |>.mp heq)
  · exact headerFile_ne_sourceFile component other
  · exact (headerFile_ne_sourceFile other component).symm
  · exact fun heq => hne (String.append_left_inj _ |>.mp heq)

theorem pairwise_filesOf (hdistinct : (schema.components.map Component.name).Nodup) :
    (filesOf schema .all).Pairwise fun file other => file.name ≠ other.name := by
  have hsymm {file other : OutputFile} (hne : file.name ≠ other.name) : other.name ≠ file.name :=
    hne.symm
  rw [(filesOf_perm schema).pairwise_iff hsymm, List.pairwise_append, List.pairwise_flatMap]
  refine ⟨?_, ⟨fun component _ => ?_, ?_⟩, fun file hfile other hother heq => ?_⟩
  · have hfixed : ((fixedFiles schema).map OutputFile.name).Nodup := by
      rw [names_fixedFiles]
      decide
    exact List.pairwise_map.mp hfixed
  · simp [filesOfComponent, headerFile_ne_sourceFile]
  · refine (List.pairwise_map.mp hdistinct).imp fun hne => ?_
    exact fun file hfile other hother => name_ne_of_components hne hfile hother
  · obtain ⟨component, -, hmem⟩ := List.mem_flatMap.mp hother
    have hfixed : file.name ∈ fixedNames := by
      rw [← names_fixedFiles schema]
      exact List.mem_map_of_mem hfile
    exact name_not_mem_fixedNames hmem (heq ▸ hfixed)

theorem isFileName_filesOf (hnames : ∀ component ∈ schema.components, IsSegment component.name) :
    ∀ file ∈ filesOf schema .all, IsFileName file.name := by
  intro file hfile
  rw [(filesOf_perm schema).mem_iff, List.mem_append] at hfile
  rcases hfile with hfile | hfile
  · have hfixed : ∀ name ∈ fixedNames, isName name := by decide
    refine (isName_iff.mp (hfixed file.name ?_)).1
    rw [← names_fixedFiles schema]
    exact List.mem_map_of_mem hfile
  · obtain ⟨component, hcomponent, hmem⟩ := List.mem_flatMap.mp hfile
    have hname := hnames component hcomponent
    rcases name_filesOfComponent hmem with heq | heq <;> rw [heq]
    · exact isFileName_append hname ⟨by decide, by decide, by decide⟩ (by decide)
    · exact isFileName_append hname ⟨by decide, by decide, by decide⟩ (by decide)

/-! ### The places of generated files -/

variable {project : Project} {tree after : FileTree} {generated : Generated}

theorem destination_eq (project : Project) (file : OutputFile) :
    ∃ output ∈ [project.settings.output.components, project.settings.output.enums],
      project.destination file = (project.root.join output).join ⟨file.name⟩ := by
  rw [destination]
  cases file.kind with
  | component => exact ⟨_, by simp, rfl⟩
  | enumeration => exact ⟨_, by simp, rfl⟩

theorem endsIn_destination {file : OutputFile} (h : IsFileName file.name) :
    (project.destination file).EndsIn file.name := by
  obtain ⟨output, -, hdestination⟩ := destination_eq project file
  exact ⟨h, _, hdestination⟩

theorem mapError_eq_ok_iff {ε δ α : Type} {f : ε → δ} {result : Except ε α} {value : α} :
    result.mapError f = .ok value ↔ result = .ok value := by
  cases result <;> simp [Except.mapError]

theorem mapError_eq_error_iff {ε δ α : Type} {f : ε → δ} {result : Except ε α} {error : δ} :
    result.mapError f = .error error ↔ ∃ cause, result = .error cause ∧ f cause = error := by
  cases result <;> simp [Except.mapError]

theorem result_readDirectory_eq_ok_iff {directory : Path} {sources : List Source} :
    (project.readDirectory tree directory).result = .ok sources ↔
      ∃ files, tree.scanAny (project.root.join directory) = .ok files ∧
        files.map DefinitionFile.source = sources := by
  rw [readDirectory, Traced.result_bind, bind_eq_ok_iff]
  refine exists_congr fun files => and_congr mapError_eq_ok_iff ?_
  show (Except.ok (files.map DefinitionFile.source) : Except ProjectError (List Source)) = _ ↔ _
  rw [Except.ok.injEq]

/-- The sources in a directory of the project, if they are wanted. -/
def sourcesIn (project : Project) (tree : FileTree) (directory : Path) (wanted : Bool) :
    Except ProjectError (List Source) :=
  if wanted then (project.readDirectory tree directory).result else .ok []

theorem result_build (project : Project) (tree : FileTree) (selection : Selection) :
    (project.build tree selection).result = (do
      let options ← project.settings.buildOptions.mapError fun fault => .settings (.bad fault)
      let components ←
        project.sourcesIn tree project.settings.input.components selection.hasComponents
      let enums ← project.sourcesIn tree project.settings.input.enums selection.hasEnums
      (Schema.read options components enums).result.mapError .definition) := by
  have hreported (result : Except ProjectError Schema) :
      (result >>= fun schema =>
        (Traced.report (.schemaBuilt schema.components.length schema.enumerations.length
          schema.wireIdCount) : Traced ProjectError Unit).result >>= fun _ =>
        (pure schema : Traced ProjectError Schema).result) = result := by
    cases result <;> rfl
  rw [build, Traced.result_bind]
  refine bind_congr fun options => ?_
  -- the rest of the run stands in each branch of the selection
  cases selection <;>
    simp only [Selection.hasComponents, Selection.hasEnums, sourcesIn, if_true, Bool.false_eq_true,
      if_false, Traced.result_bind, hreported] <;>
    rfl

theorem result_generate_eq_ok_iff {selection : Selection} :
    (project.generate tree selection).result = .ok generated ↔
      (project.build tree selection).result = .ok generated.schema ∧
        generated.files = filesOf generated.schema selection := by
  obtain ⟨schema, files⟩ := generated
  rw [generate, Traced.result_bind, bind_eq_ok_iff]
  constructor
  · rintro ⟨built, hbuilt, hgenerated⟩
    cases hgenerated
    exact ⟨hbuilt, rfl⟩
  · rintro ⟨hbuilt, hfiles⟩
    change files = filesOf schema selection at hfiles
    subst hfiles
    exact ⟨schema, hbuilt, rfl⟩

/-- **What it takes to generate all files**: the settings say how to read, both directories can be
scanned, and the definitions in them make a schema. -/
theorem generate_eq_ok_iff : (project.generate tree .all).result = .ok generated ↔
    ∃ options components enums,
      project.settings.buildOptions = .ok options ∧
      tree.scanAny (project.root.join project.settings.input.components) = .ok components ∧
      tree.scanAny (project.root.join project.settings.input.enums) = .ok enums ∧
      (Schema.read options (components.map DefinitionFile.source)
        (enums.map DefinitionFile.source)).result = .ok generated.schema ∧
      generated.files = filesOf generated.schema .all := by
  simp only [result_generate_eq_ok_iff, result_build, bind_eq_ok_iff, sourcesIn,
    Selection.hasComponents, Selection.hasEnums, if_true, result_readDirectory_eq_ok_iff,
    mapError_eq_ok_iff]
  constructor
  · rintro ⟨⟨options, hoptions, _, ⟨components, hcomponents, rfl⟩, _, ⟨enums, henums, rfl⟩, hread⟩,
      hfiles⟩
    exact ⟨options, components, enums, hoptions, hcomponents, henums, hread, hfiles⟩
  · rintro ⟨options, components, enums, hoptions, hcomponents, henums, hread, hfiles⟩
    exact ⟨⟨options, hoptions, _, ⟨components, hcomponents, rfl⟩, _, ⟨enums, henums, rfl⟩, hread⟩,
      hfiles⟩

/-- **The files of a run go to different places**, wherever the output directories are. -/
theorem apart_destinations (h : (project.generate tree .all).result = .ok generated) :
    (∀ file ∈ generated.files, (project.destination file).EndsIn file.name) ∧
      generated.files.Pairwise fun file other =>
        FileTree.Apart (project.destination file) (project.destination other) := by
  obtain ⟨options, components, enums, -, hcomponents, -, hread, hfiles⟩ := generate_eq_ok_iff.mp h
  obtain ⟨hdistinct, hmem⟩ := Schema.names_of_read hread
  have hnames : ∀ component ∈ generated.schema.components, IsSegment component.name := by
    intro component hcomponent
    have hname := hmem component.name (List.mem_map_of_mem hcomponent)
    rw [List.map_map, List.mem_map] at hname
    obtain ⟨file, hfile, heq⟩ := hname
    have hvalid := (FileTree.of_scanAny_eq_ok hcomponents).2 file hfile
    exact heq ▸ (isName_iff.mp hvalid).1.toIsSegment
  have hends : ∀ file ∈ filesOf generated.schema .all,
      (project.destination file).EndsIn file.name :=
    fun file hfile => endsIn_destination (isFileName_filesOf hnames file hfile)
  rw [hfiles]
  refine ⟨hends, (pairwise_filesOf hdistinct).imp_of_mem fun hfile hother hne => ?_⟩
  exact ⟨_, _, hends _ hfile, hends _ hother, hne⟩

theorem apart_of_mem_destinations (h : (project.generate tree .all).result = .ok generated) :
    (project.destinations generated.files).Pairwise fun file other =>
      FileTree.Apart file.1 other.1 :=
  List.pairwise_map.mpr (apart_destinations h).2

theorem place_ne_of_mem_destinations (h : (project.generate tree .all).result = .ok generated)
    (other : FileTree) : (project.destinations generated.files).Pairwise fun file file' =>
      other.place file.1 ≠ other.place file'.1 :=
  (apart_of_mem_destinations h).imp fun hapart => hapart.place_ne other

end Project

end EntityCodegen
